import ClusterWait.Proofs.Wait.Family

/-! # Waiting for the end of a context, and asking for it

A context can be asked whether it has ended, at any instant, and a program can wait until it has. The
wait does not ask: it sleeps until a cancel of the token or until the deadline. `Timeline.done_spec`
shows that it is over at the first instant at which the answer to the question is not that the context
is live, and that it tells what is answered then.

* `Family.mem_cancels_iff`: the cancels on the line of a program are those that it called, each from
  the instant of its call.
* `Family.err_passing`: what is answered as the program goes on, before the clock moves, is what the
  line with all its cancels says of that instant.
* `Family.done_agrees_with_err`: the wait and the question agree, for every context of every program,
  whatever is cancelled later. -/

namespace ClusterWait

/-! ### On a line of time -/

namespace Timeline

variable {l : Timeline} {c : Context} {n : Nat}

theorem cancelledAt_iff_cancelInstant {t : Token} :
    l.cancelledAt t n = true ↔ ∃ i, l.cancelInstant t = some i ∧ i ≤ n := by
  rw [← any_cancelInstant, Option.any_eq_true]
  simp only [decide_eq_true_eq]

/-- A context has ended at an instant if a cancel or the deadline is not later. -/
theorem err_atInstant_ne_none_iff : (l.atInstant n).err c ≠ none ↔
    (∃ i, l.cancelInstant c.token = some i ∧ i ≤ n) ∨ ∃ d, c.deadline = some d ∧ d ≤ n := by
  rw [← cancelledAt_iff_cancelInstant, ← Option.isSome_iff_ne_none]
  exact ended_iff

/-- **The three ways of a wait:** a cancel comes no later than the deadline, or the deadline comes
first, or neither comes. -/
theorem done_cases (l : Timeline) (c : Context) :
    (∃ i, l.cancelInstant c.token = some i ∧
      (∀ d, c.deadline = some d → max l.now i ≤ max l.now d) ∧
      l.done c = some (max l.now i, .cancelled)) ∨
    (∃ d, c.deadline = some d ∧
      (∀ i, l.cancelInstant c.token = some i → max l.now d < max l.now i) ∧
      l.done c = some (max l.now d, .deadlineExceeded)) ∨
    (l.cancelInstant c.token = none ∧ c.deadline = none ∧ l.done c = none) := by
  unfold done whenCancelled whenReached
  cases hi : l.cancelInstant c.token with
  | none =>
    cases hd : c.deadline with
    | none => exact Or.inr (Or.inr ⟨rfl, rfl, rfl⟩)
    | some d => exact Or.inr (Or.inl ⟨d, rfl, nofun, rfl⟩)
  | some i =>
    cases hd : c.deadline with
    | none => exact Or.inl ⟨i, rfl, nofun, rfl⟩
    | some d =>
      by_cases hle : max l.now i ≤ max l.now d
      · exact Or.inl ⟨i, rfl, fun d' hd' => Option.some.inj hd' ▸ hle, if_pos hle⟩
      · exact Or.inr (Or.inl ⟨d, rfl, fun i' hi' => Option.some.inj hi' ▸ not_le.mp hle, if_neg hle⟩)

/-- **The wait is over at the first instant at which the context has ended,** and tells what has ended
it; -/
theorem done_spec {cause : Cancellation} (h : l.done c = some (n, cause)) :
    IsLeast {k | l.now ≤ k ∧ (l.atInstant k).err c ≠ none} n ∧
      (l.atInstant n).err c = some cause := by
  rcases done_cases l c with ⟨i, hi, hbefore, hdone⟩ | ⟨d, hd, hbefore, hdone⟩ | ⟨-, -, hdone⟩
  · obtain ⟨rfl, rfl⟩ := Prod.mk.inj (Option.some.inj (hdone.symm.trans h))
    have herr : (l.atInstant (max l.now i)).err c = some .cancelled :=
      err_eq_cancelled_iff.mpr (cancelledAt_iff_cancelInstant.mpr ⟨i, hi, le_max_right _ _⟩)
    refine ⟨⟨⟨le_max_left _ _, by rw [herr]; nofun⟩, fun k ⟨hk, hend⟩ => ?_⟩, herr⟩
    rcases err_atInstant_ne_none_iff.mp hend with ⟨i', hi', hle⟩ | ⟨d, hd, hle⟩
    · cases hi.symm.trans hi'
      exact max_le hk hle
    · exact (hbefore d hd).trans (max_le hk hle)
  · obtain ⟨rfl, rfl⟩ := Prod.mk.inj (Option.some.inj (hdone.symm.trans h))
    have hlive : l.cancelledAt c.token (max l.now d) = false := by
      rw [← Bool.not_eq_true, cancelledAt_iff_cancelInstant]
      rintro ⟨i, hi, hle⟩
      -- a cancel by then would have come no later than the deadline
      exact absurd (max_le (le_max_left _ _) hle) (not_le.mpr (hbefore i hi))
    have herr : (l.atInstant (max l.now d)).err c = some .deadlineExceeded :=
      err_eq_deadlineExceeded_iff.mpr ⟨hlive, d, hd, le_max_right _ _⟩
    refine ⟨⟨⟨le_max_left _ _, by rw [herr]; nofun⟩, fun k ⟨hk, hend⟩ => ?_⟩, herr⟩
    rcases err_atInstant_ne_none_iff.mp hend with ⟨i, hi, hle⟩ | ⟨d', hd', hle⟩
    · exact (hbefore i hi).le.trans (max_le hk hle)
    · cases hd.symm.trans hd'
      exact max_le hk hle
  · cases hdone.symm.trans h

/-- it is never over if the context never ends, and then only. -/
theorem done_eq_none_iff : l.done c = none ↔ ∀ k, l.now ≤ k → (l.atInstant k).err c = none := by
  constructor
  · intro h k _
    rcases done_cases l c with ⟨i, -, -, hdone⟩ | ⟨d, -, -, hdone⟩ | ⟨hi, hd, -⟩
    · cases hdone.symm.trans h
    · cases hdone.symm.trans h
    · by_contra hend
      rcases err_atInstant_ne_none_iff.mp hend with ⟨i, hi', -⟩ | ⟨d, hd', -⟩
      · cases hi.symm.trans hi'
      · cases hd.symm.trans hd'
  · intro hlive
    cases hdone : l.done c with
    | none => rfl
    | some told =>
      obtain ⟨⟨⟨hn, hend⟩, -⟩, -⟩ := done_spec hdone
      exact absurd (hlive told.1 hn) hend

/-- **The wait tells what is answered at the first instant at which the context has ended.** -/
theorem done_eq_some_iff {cause : Cancellation} : l.done c = some (n, cause) ↔
    IsLeast {k | l.now ≤ k ∧ (l.atInstant k).err c ≠ none} n ∧
      (l.atInstant n).err c = some cause := by
  refine ⟨done_spec, fun ⟨hleast, herr⟩ => ?_⟩
  cases hdone : l.done c with
  | none => exact absurd (done_eq_none_iff.mp hdone n hleast.1.1) hleast.1.2
  | some told =>
    obtain ⟨n', cause'⟩ := told
    obtain ⟨hleast', herr'⟩ := done_spec hdone
    obtain rfl := hleast'.unique hleast
    rw [Option.some.inj (herr'.symm.trans herr)]

end Timeline

/-! ### On the line of a program -/

namespace Family

variable {f : Family} {later after : List Step} {k n : Nat}

theorem mem_cancels_step (f : Family) (s : Step) (x : Cancel) : x ∈ (f.step s).time.cancels ↔
    x ∈ f.time.cancels ∨
      ∃ i m, s = .cancel i ∧ f.members[i]? = some m ∧ x = ⟨f.time.now, m.context.token⟩ := by
  cases s with
  | background => simp [step, add, Timeline.background, Timeline.derive]
  | withTimeout t =>
    simp [step, add, Timeline.withTimeout, Timeline.background, Timeline.childWithTimeout,
      Timeline.derive]
  | child i => cases h : f.members[i]? <;> simp [step, add, h, Timeline.child, Timeline.derive]
  | childWithTimeout i t =>
    cases h : f.members[i]? <;> simp [step, add, h, Timeline.childWithTimeout, Timeline.derive]
  | clone i => cases h : f.members[i]? <;> simp [step, h]
  | cancel i =>
    cases h : f.members[i]? <;> simp [step, h, Timeline.cancel, Timeline.cancelAt, or_comm]
  | pass t => simp [step, Timeline.advance_cancels]

theorem mem_cancels_foldl (steps : List Step) (f : Family) (x : Cancel) :
    x ∈ (steps.foldl step f).time.cancels ↔ x ∈ f.time.cancels ∨
      ∃ before s after, steps = before ++ s :: after ∧ ∃ i m, s = .cancel i ∧
        (before.foldl step f).members[i]? = some m ∧
          x = ⟨(before.foldl step f).time.now, m.context.token⟩ :=
  foldl_step_iff (fun f x => x ∈ f.time.cancels) mem_cancels_step steps f x

/-- **The cancels on the line of a program are those that it called.** -/
theorem mem_cancels_iff (steps : List Step) (x : Cancel) : x ∈ (run steps).time.cancels ↔
    ∃ before i after m, steps = before ++ .cancel i :: after ∧ (run before).members[i]? = some m ∧
      x = ⟨(run before).time.now, m.context.token⟩ := by
  rw [run, mem_cancels_foldl]
  constructor
  · rintro (hx | ⟨before, _, after, heq, i, m, rfl, hm⟩)
    · cases hx
    · exact ⟨before, i, after, m, heq, hm⟩
  · rintro ⟨before, i, after, m, heq, hm⟩
    exact Or.inr ⟨before, _, after, heq, i, m, rfl, hm⟩

/-! ### What is answered as the program goes on -/

/-- **For so many milliseconds the program does nothing:** it has come to its end, or it lets more time
pass next. -/
def Idles (k : Nat) (after : List Step) : Prop :=
  after = [] ∨ ∃ t rest, after = .pass t :: rest ∧ k < t

/-- A cancel that is called after the program was idle counts from a later instant. -/
theorem Idles.lt_now (h : Idles k after) {before rest : List Step} {i : Nat}
    (heq : after = before ++ .cancel i :: rest) (f : Family) :
    f.time.now + k < (before.foldl step f).time.now := by
  rcases h with rfl | ⟨t, rest', rfl, hk⟩
  · cases before <;> cases heq
  · cases before with
    | nil => cases heq
    | cons s before =>
      obtain ⟨rfl, -⟩ := List.cons.inj heq
      have hgrows := (grows_foldl (f.step (.pass t)) before).time.now_le
      exact lt_of_lt_of_le (Nat.add_lt_add_left hk _) hgrows

/-- **What is answered while the program does nothing** is what the line with all its cancels says of
that instant. -/
theorem err_passing (h : Idles k after) (f : Family) (c : Context) :
    (f.time.advance k).err c =
      ((after.foldl step f).time.atInstant (f.time.now + k)).err c := by
  have hsame : f.time.cancelledAt c.token (f.time.now + k) =
      (after.foldl step f).time.cancelledAt c.token (f.time.now + k) := by
    rw [Bool.eq_iff_iff, Timeline.cancelledAt_iff, Timeline.cancelledAt_iff]
    constructor
    · rintro ⟨x, hx, hle⟩
      exact ⟨x, (grows_foldl f after).time.cancels x hx, hle⟩
    · -- a cancel that is still to be called counts from a later instant
      rintro ⟨x, hx, hle, hcov⟩
      rcases (mem_cancels_foldl after f x).mp hx with hx | ⟨before, _, rest, heq, i, m, rfl, -, rfl⟩
      · exact ⟨x, hx, hle, hcov⟩
      · exact absurd (h.lt_now heq f) (not_lt.mpr hle)
  exact Timeline.err_congr rfl hsame

theorem now_step (f : Family) (s : Step) : (f.step s).time.now = f.time.now ∨
    ∃ t, s = .pass t ∧ (f.step s).time.now = f.time.now + t := by
  have onMember {i : Nat} {g : Member → Family} (hg : ∀ m ∈ f.members, (g m).time.now = f.time.now) :
      ((f.members[i]?).elim f g).time.now = f.time.now :=
    elim_member (P := fun f' => f'.time.now = f.time.now) rfl hg
  cases s with
  | background => exact Or.inl rfl
  | withTimeout t => exact Or.inl rfl
  | child i => exact Or.inl (onMember fun _ _ => rfl)
  | childWithTimeout i t => exact Or.inl (onMember fun _ _ => rfl)
  | clone i => exact Or.inl (onMember fun _ _ => rfl)
  | cancel i => exact Or.inl (onMember fun _ _ => rfl)
  | pass t => exact Or.inr ⟨t, rfl, rfl⟩

/-- **The clock passes every instant** at a moment when the program does nothing. -/
theorem exists_idles (later : List Step) (f : Family) (hn : f.time.now ≤ n) : ∃ before after k,
    later = before ++ after ∧ Idles k after ∧ (before.foldl step f).time.now + k = n := by
  induction later generalizing f with
  | nil => exact ⟨[], [], n - f.time.now, rfl, Or.inl rfl, Nat.add_sub_cancel' hn⟩
  | cons s rest ih =>
    by_cases hs : (f.step s).time.now ≤ n
    · obtain ⟨before, after, k, rfl, hidle, hk⟩ := ih (f.step s) hs
      exact ⟨s :: before, after, k, rfl, hidle, hk⟩
    · rcases now_step f s with hnow | ⟨t, rfl, hnow⟩
      · exact absurd (hnow.trans_le hn) hs
      · refine ⟨[], .pass t :: rest, n - f.time.now, rfl, Or.inr ⟨t, rest, rfl, ?_⟩,
          Nat.add_sub_cancel' hn⟩
        omega

/-! ### The main result -/

/-- **The line of a program at an instant,** with every cancel that it calls. A cancel counts for the
whole of the instant at which it is called. -/
def line (steps : List Step) (n : Nat) : Timeline := (run steps).time.atInstant n

/-- **The wait for the end of a context agrees with the question whether it has ended.** A program has
made a tree of contexts, waits for the end of one, and goes on with other steps, among which are
cancels of any contexts. -/
structure DoneAgreesWithErr (steps later : List Step) : Prop where
  /-- The wait is over at the first instant, from its beginning on, at which the answer is not that the
  context is live, and tells that answer. -/
  told : ∀ m ∈ (run steps).members, ∀ n cause,
    (line (steps ++ later) (run steps).time.now).done m.context = some (n, cause) ↔
      IsLeast {k | (run steps).time.now ≤ k ∧ (line (steps ++ later) k).err m.context ≠ none} n ∧
        (line (steps ++ later) n).err m.context = some cause
  /-- It is never over if the answer is always that the context is live, and then only. -/
  never : ∀ m ∈ (run steps).members,
    (line (steps ++ later) (run steps).time.now).done m.context = none ↔
      ∀ k, (run steps).time.now ≤ k → (line (steps ++ later) k).err m.context = none
  /-- The answers are those that the program has while it does nothing, -/
  answered : ∀ before after k, later = before ++ after → Idles k after → ∀ c,
    ((run (steps ++ before)).time.advance k).err c =
      (line (steps ++ later) ((run (steps ++ before)).time.now + k)).err c
  /-- which it does at every instant. -/
  reached : ∀ n, (run steps).time.now ≤ n → ∃ before after k, later = before ++ after ∧
    Idles k after ∧ (run (steps ++ before)).time.now + k = n
  /-- The answer is that the context was cancelled if a cancel was called on it or on one above by
  then, -/
  cancelled : ∀ m ∈ (run steps).members, ∀ k,
    (line (steps ++ later) k).err m.context = some .cancelled ↔
      ∃ before i after a, steps ++ later = before ++ .cancel i :: after ∧
        (run before).members[i]? = some a ∧ (run before).time.now ≤ k ∧
          Under (run (steps ++ later)).scopes a.scope m.scope
  /-- and else that its deadline is exceeded, which is the least bound of those given to it and to those
  above it, from that instant on. -/
  exceeded : ∀ m ∈ (run steps).members, ∀ k,
    (line (steps ++ later) k).err m.context = some .deadlineExceeded ↔
      (line (steps ++ later) k).err m.context ≠ some .cancelled ∧
        ∃ d, IsLeast (bounds (run steps).scopes m.scope) d ∧ d ≤ k
  /-- No time remains if the deadline has been reached, whatever was cancelled, and then only. -/
  remaining : ∀ m ∈ (run steps).members, ∀ k,
    (line (steps ++ later) k).remaining m.context = some 0 ↔
      ∃ d, m.context.deadline = some d ∧ d ≤ k

theorem cancelledAt_run_iff {steps : List Step} {m : Member} (hm : m ∈ (run steps).members) :
    (run steps).time.cancelledAt m.context.token k = true ↔
      ∃ before i after a, steps = before ++ .cancel i :: after ∧
        (run before).members[i]? = some a ∧ (run before).time.now ≤ k ∧
          Under (run steps).scopes a.scope m.scope := by
  have h := consistent_run steps
  have hstays {before after : List Step} (heq : steps = before ++ after) {a : Member}
      (ha : a ∈ (run before).members) : a ∈ (run steps).members := by
    rw [heq, run_append]
    exact (grows_foldl _ after).members a ha
  rw [Timeline.cancelledAt_iff]
  constructor
  · rintro ⟨x, hx, hle, hcov⟩
    obtain ⟨before, i, after, a, heq, ha, rfl⟩ := (mem_cancels_iff steps x).mp hx
    have hmem := hstays heq (List.mem_of_getElem? ha)
    exact ⟨before, i, after, a, heq, ha, hle, (h.covers a hmem m hm).mp hcov⟩
  · rintro ⟨before, i, after, a, heq, ha, hle, hu⟩
    have hmem := hstays heq (List.mem_of_getElem? ha)
    exact ⟨_, (mem_cancels_iff steps _).mpr ⟨before, i, after, a, heq, ha, rfl⟩, hle,
      (h.covers a hmem m hm).mpr hu⟩

/-- **The wait and the question agree,** for every context of every program, whatever comes later. -/
theorem done_agrees_with_err (steps later : List Step) : DoneAgreesWithErr steps later where
  told _ _ _ _ := Timeline.done_eq_some_iff
  never _ _ := Timeline.done_eq_none_iff
  answered before after k heq hidle c := by
    subst heq
    rw [line, ← List.append_assoc, run_append (steps ++ before) after]
    exact err_passing hidle (run (steps ++ before)) c
  reached n hn := by
    obtain ⟨before, after, k, heq, hidle, hk⟩ := exists_idles later (run steps) hn
    exact ⟨before, after, k, heq, hidle, by rw [run_append]; exact hk⟩
  cancelled m hm k := by
    have hmem : m ∈ (run (steps ++ later)).members := by
      rw [run_append]
      exact (grows_foldl _ later).members m hm
    exact Timeline.err_eq_cancelled_iff.trans (cancelledAt_run_iff hmem)
  exceeded m hm k := by
    have hbound (d : Nat) : m.context.deadline = some d ↔
        IsLeast (bounds (run steps).scopes m.scope) d :=
      ((consistent_run steps).deadline m hm).eq_some_iff d
    rw [Timeline.err_eq_deadlineExceeded_iff, ne_eq, Timeline.err_eq_cancelled_iff,
      Bool.not_eq_true]
    simp only [hbound]
    rfl
  remaining m _ k := by
    simp [Timeline.remaining, line, Nat.sub_eq_zero_iff_le]

/-- A wait for a child: its parent is cancelled, or the parent's deadline comes. -/
example :
    let steps := [.withTimeout 250, .childWithTimeout 0 900]
    let waits later := (run steps).members.map fun m => (line (steps ++ later) 0).done m.context
    waits [.pass 100, .cancel 0] = [some (100, .cancelled), some (100, .cancelled)] ∧
      waits [.pass 100, .cancel 1, .pass 200] =
        [some (250, .deadlineExceeded), some (100, .cancelled)] ∧
      waits [.pass 300, .cancel 0] =
        [some (250, .deadlineExceeded), some (250, .deadlineExceeded)] := by
  decide

end Family

end ClusterWait
