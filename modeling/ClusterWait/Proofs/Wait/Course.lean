import ClusterWait.Proofs.Wait.Timeline
import ClusterWait.Wait.Poll

/-! # The course of a wait

A *course* lays a wait out in full, as it would go if every attempt asked for another and the
context never ended: `before k` is the run that attempt `k` finds (attempts are numbered from zero),
`after k` the run that it leaves, and the next attempt comes exactly the interval later. The clock
of such a run, its cancels and its world are whatever the attempts made of them.

* `Started k`: attempt `k` is made. The first is if the context is live at once; a further one is if
  the attempt before was made and asked for another, and the context is live at the tick.
* `Ends n result r`: the wait ends after `n` attempts with the result, in the run `r`. A failure tells
  the number of attempts in 32 bits (`Ends.attempts_eq`).
* `run_of_ends`, `run_of_goesOn`: the attempts of a wait, which compute with the end of the context
  and count a budget down, come to what the course says: its end if one of the attempts allowed does
  not go on, and else nothing.
* `exists_ends`, `Ends.unique`: a course ends as soon as one attempt does not go on, and in one way.
* `Ends.result_cases`: how it ends if attempts are cut off only in a context that has ended.
* `EndsWith k told outcome`: the outcome of a wait comes with attempt `k`, after which none is made. -/

namespace ClusterWait

/-- The reason for which an attempt asked for another. -/
def Attempt.reason? {α : Type} : Attempt α → Option String
  | .retry m => some m
  | _ => none

/-- The run with another line of time. -/
def Run.withTime {σ : Type} (r : Run σ) (l : Timeline) : Run σ := { r with time := l }

/-- **The course of a wait:** its interval, the context that the attempts are given, the attempts,
and the run in which the first of them may be made. -/
structure Course (σ α : Type) where
  interval : Nat
  context : Context
  attempt : Context → Act σ (Attempt α)
  opening : Run σ

namespace Course

variable {σ α : Type} (w : Course σ α)

/-- **The run that an attempt finds.** The first finds the opening, a further one what the attempt
before left, the interval later. -/
def before : Nat → Run σ
  | 0 => w.opening
  | k + 1 =>
    let r := (w.attempt w.context (before k)).2
    r.withTime (r.time.advance w.interval)

/-- What an attempt decides. -/
def decision (k : Nat) : Attempt α := (w.attempt w.context (w.before k)).1

def after (k : Nat) : Run σ := (w.attempt w.context (w.before k)).2

/-- The context is live when the attempt is due. -/
def Live (k : Nat) : Prop := (w.before k).time.err w.context = none

/-- The reason of the last of so many attempts. -/
def last : Nat → Option String
  | 0 => none
  | k + 1 => (w.decision k).reason?

/-- The reason of the last of so many attempts that asked for another. -/
def lastRetry (n : Nat) : Option String :=
  ((List.range n).filterMap fun k => (w.decision k).reason?).getLast?

/-- **The attempt is made.** -/
def Started : Nat → Prop
  | 0 => w.Live 0
  | k + 1 => Started k ∧ (∃ m, w.decision k = .retry m) ∧ w.Live (k + 1)

/-- So many attempts are made, and each of them asks for another. -/
def GoesOn (n : Nat) : Prop := ∀ k < n, w.Started k ∧ ∃ m, w.decision k = .retry m

/-- **The wait ends** after so many attempts, with a result, in a run. It ends without an attempt in
a context that has ended; when the context ends no later than the next attempt is due, it ends at
the first instant at which the context has ended; and else it ends with the attempt that decides. -/
inductive Ends : Nat → Except WaitError α → Run σ → Prop
  | atOnce {e : Cancellation} (he : w.opening.time.err w.context = some e) :
    Ends 0 (.error (.ofCancellation e 0 none)) w.opening
  | meanwhile {k n : Nat} {m : String} {e : Cancellation} (hs : w.Started k)
      (hm : w.decision k = .retry m) (hl : ¬ w.Live (k + 1))
      (hn : IsLeast {n | (w.after k).time.now ≤ n ∧
        ((w.after k).time.atInstant n).ended w.context = true} n)
      (he : ((w.after k).time.atInstant n).err w.context = some e) :
    Ends (k + 1) (.error (.ofCancellation e (.ofNat (k + 1)) (some m)))
      ((w.after k).withTime ((w.after k).time.atInstant n))
  | done {k : Nat} {v : α} (hs : w.Started k) (hd : w.decision k = .done v) :
    Ends (k + 1) (.ok v) (w.after k)
  | stopped {k : Nat} {m : String} (hs : w.Started k) (hd : w.decision k = .stop m) :
    Ends (k + 1) (.error (.stoppedTrying (.ofNat (k + 1)) m)) (w.after k)
  | cancelled {k : Nat} (hs : w.Started k) (hd : w.decision k = .cancelled) :
    Ends (k + 1) (.error (.ofCancellation (((w.after k).time.err w.context).getD .cancelled)
      (.ofNat (k + 1)) (w.last k))) (w.after k)

/-- The attempts of the wait that the course is of, with a budget. -/
def run (budget : Nat) : Option (Except WaitError α × Run σ) :=
  Poll.attempts w.interval w.context w.attempt budget 0 none w.opening

variable {w}

theorem decision_of_attempt {k : Nat} {d : Attempt α} {r : Run σ}
    (h : w.attempt w.context (w.before k) = (d, r)) : w.decision k = d ∧ w.after k = r :=
  ⟨congrArg Prod.fst h, congrArg Prod.snd h⟩

/-! ### Which attempts are made -/

theorem Started.live {k : Nat} (h : w.Started k) : w.Live k := by
  cases k with
  | zero => exact h
  | succ k => exact h.2.2

theorem Started.earlier {k n : Nat} (h : w.Started n) (hk : k < n) :
    w.Started k ∧ ∃ m, w.decision k = .retry m := by
  induction n with
  | zero => omega
  | succ n ih =>
    obtain ⟨hs, hm, -⟩ := h
    rcases Nat.lt_succ_iff_lt_or_eq.mp hk with hk | rfl
    · exact ih hs hk
    · exact ⟨hs, hm⟩

theorem Started.of_le {k n : Nat} (h : w.Started n) (hk : k ≤ n) : w.Started k := by
  rcases Nat.lt_or_eq_of_le hk with hk | rfl
  · exact (h.earlier hk).1
  · exact h

theorem before_now (k : Nat) :
    (w.before (k + 1)).time.now = (w.after k).time.now + w.interval := rfl

theorem before_succ (k : Nat) :
    w.before (k + 1) = (w.after k).withTime ((w.after k).time.advance w.interval) := rfl

theorem live_succ (k : Nat) :
    w.Live (k + 1) ↔ ((w.after k).time.advance w.interval).err w.context = none := Iff.rfl

/-- **The attempts made are those before the end.** -/
theorem Ends.started_iff {n : Nat} {result : Except WaitError α} {r : Run σ}
    (h : w.Ends n result r) (k : Nat) : w.Started k ↔ k < n := by
  -- one attempt more than those that were made is not: its context is dead or nobody asked for it
  have stop (n : Nat) (hn : n = 0 ∨ ∃ k, n = k + 1 ∧ w.Started k) (hnot : ¬ w.Started n) (k : Nat) :
      w.Started k ↔ k < n := by
    constructor
    · intro hk
      by_contra hle
      exact hnot (hk.of_le (by omega))
    · intro hk
      rcases hn with rfl | ⟨j, rfl, hj⟩
      · omega
      · exact hj.of_le (by omega)
  have decided {k : Nat} (hs : w.Started k) (hd : ∀ m, w.decision k ≠ .retry m) (j : Nat) :
      w.Started j ↔ j < k + 1 := by
    refine stop _ (Or.inr ⟨k, rfl, hs⟩) (fun h => ?_) j
    obtain ⟨m, hm⟩ := h.2.1
    exact hd m hm
  cases h with
  | atOnce he =>
    refine stop 0 (Or.inl rfl) (fun h => ?_) k
    rw [Started, Live, before, he] at h
    cases h
  | meanwhile hs hm hl => exact stop _ (Or.inr ⟨_, rfl, hs⟩) (fun h => hl h.2.2) k
  | done hs hd => exact decided hs (by rw [hd]; nofun) k
  | stopped hs hd => exact decided hs (by rw [hd]; nofun) k
  | cancelled hs hd => exact decided hs (by rw [hd]; nofun) k

/-- Where a wait ends: in its opening, or after its last attempt, when time may have passed. -/
theorem Ends.left {n : Nat} {result : Except WaitError α} {r : Run σ} (h : w.Ends n result r) :
    (n = 0 ∧ r = w.opening) ∨ ∃ k i, n = k + 1 ∧ w.Started k ∧ (w.after k).time.now ≤ i ∧
      r = (w.after k).withTime ((w.after k).time.atInstant i) := by
  have decided {k : Nat} (hs : w.Started k) : ∃ j i, k + 1 = j + 1 ∧ w.Started j ∧
      (w.after j).time.now ≤ i ∧ w.after k = (w.after j).withTime ((w.after j).time.atInstant i) :=
    ⟨k, _, rfl, hs, le_rfl, rfl⟩
  cases h with
  | atOnce he => exact Or.inl ⟨rfl, rfl⟩
  | meanwhile hs hm hl hn he => exact Or.inr ⟨_, _, rfl, hs, hn.1.1, rfl⟩
  | done hs hd => exact Or.inr (decided hs)
  | stopped hs hd => exact Or.inr (decided hs)
  | cancelled hs hd => exact Or.inr (decided hs)

/-- **A failure tells the number of attempts,** in 32 bits. -/
theorem Ends.attempts_eq {n : Nat} {e : WaitError} {r : Run σ} (h : w.Ends n (.error e) r) :
    e.attempts = .ofNat n := by
  cases h with
  | atOnce => exact WaitError.attempts_ofCancellation _ _ _
  | meanwhile => exact WaitError.attempts_ofCancellation _ _ _
  | stopped => rfl
  | cancelled => exact WaitError.attempts_ofCancellation _ _ _

/-- It is their number as long as this has room. -/
theorem Ends.toNat_attempts {n : Nat} {e : WaitError} {r : Run σ} (h : w.Ends n (.error e) r)
    (hn : n < UInt32.size) : e.attempts.toNat = n := by
  rw [h.attempts_eq, UInt32.toNat_ofNat_of_lt' hn]

/-! ### The reason of the last attempt -/

theorem lastRetry_succ (k : Nat) :
    w.lastRetry (k + 1) = (w.decision k).reason?.or (w.lastRetry k) := by
  rw [lastRetry, List.range_succ, List.filterMap_append, List.getLast?_append, lastRetry]
  cases h : (w.decision k).reason? <;> simp [h]

/-- Before an attempt that is made it is the reason of the attempt before. -/
theorem Started.lastRetry {k : Nat} (h : w.Started k) : w.lastRetry k = w.last k := by
  cases k with
  | zero => rfl
  | succ k =>
    obtain ⟨m, hm⟩ := h.2.1
    rw [lastRetry_succ, last, hm]
    rfl

/-- **How a wait ends whose attempts are cut off only in a context that has ended.** -/
theorem Ends.result_cases {n : Nat} {result : Except WaitError α} {r : Run σ}
    (h : w.Ends n result r) (hcut : ∀ k, w.Started k → w.decision k = .cancelled →
      (w.after k).time.err w.context ≠ none) :
    (∃ k v, w.Started k ∧ w.decision k = .done v ∧ result = .ok v) ∨
      (∃ k m, w.Started k ∧ w.decision k = .stop m ∧
        result = .error (.stoppedTrying (.ofNat (k + 1)) m)) ∨
      ∃ e, r.time.err w.context = some e ∧
        result = .error (.ofCancellation e (.ofNat n) (w.lastRetry n)) := by
  cases h with
  | atOnce he => exact Or.inr (Or.inr ⟨_, he, rfl⟩)
  | meanwhile hs hm hl hn he =>
    refine Or.inr (Or.inr ⟨_, he, ?_⟩)
    rw [lastRetry_succ, hm]
    rfl
  | done hs hd => exact Or.inl ⟨_, _, hs, hd, rfl⟩
  | stopped hs hd => exact Or.inr (Or.inl ⟨_, _, hs, hd, rfl⟩)
  | cancelled hs hd =>
    obtain ⟨e, he⟩ := Option.ne_none_iff_exists'.mp (hcut _ hs hd)
    refine Or.inr (Or.inr ⟨e, he, ?_⟩)
    rw [lastRetry_succ, hd, he, hs.lastRetry]
    rfl

/-- **How a wait ends whose attempts are never cut off:** with an attempt that decides, or because its
context ended while all of them asked for another. -/
theorem Ends.result_cases_of_uncut {n : Nat} {result : Except WaitError α} {r : Run σ}
    (h : w.Ends n result r) (hcut : ∀ k, w.Started k → w.decision k ≠ .cancelled) :
    (∃ k v, w.Started k ∧ w.decision k = .done v ∧ result = .ok v) ∨
      (∃ k m, w.Started k ∧ w.decision k = .stop m ∧
        result = .error (.stoppedTrying (.ofNat (k + 1)) m)) ∨
      ∃ e, r.time.err w.context = some e ∧ (∀ k < n, ∃ m, w.decision k = .retry m) ∧
        result = .error (.ofCancellation e (.ofNat n) (w.last n)) := by
  cases h with
  | done hs hd => exact Or.inl ⟨_, _, hs, hd, rfl⟩
  | stopped hs hd => exact Or.inr (Or.inl ⟨_, _, hs, hd, rfl⟩)
  | cancelled hs hd => exact absurd hd (hcut _ hs)
  | atOnce he => exact Or.inr (Or.inr ⟨_, he, fun k hk => absurd hk (Nat.not_lt_zero k), rfl⟩)
  | @meanwhile k n m e hs hm hl hn he =>
    refine Or.inr (Or.inr ⟨e, he, fun j hj => ?_, ?_⟩)
    · rcases Nat.lt_succ_iff_lt_or_eq.mp hj with hj | rfl
      · exact (hs.earlier hj).2
      · exact ⟨m, hm⟩
    · rw [last, hm]
      rfl

/-! ### What the attempts come to -/

theorem attempts_dead {interval budget : Nat} {made : UInt32} {c : Context}
    {attempt : Context → Act σ (Attempt α)} {last : Option String} {r : Run σ} {e : Cancellation}
    (he : r.time.err c = some e) :
    Poll.attempts interval c attempt (budget + 1) made last r =
      some (.error (.ofCancellation e made last), r) := by
  simp only [Poll.attempts, he]

theorem attempts_live {k budget : Nat} (h : w.Live k) :
    Poll.attempts w.interval w.context w.attempt (budget + 1) (.ofNat k) (w.last k) (w.before k) =
      match w.decision k with
      | .done v => some (.ok v, w.after k)
      | .stop m => some (.error (.stoppedTrying (.ofNat (k + 1)) m), w.after k)
      | .cancelled => some (.error (.ofCancellation
          (((w.after k).time.err w.context).getD .cancelled) (.ofNat (k + 1)) (w.last k)), w.after k)
      | .retry m => Poll.attempts w.interval w.context w.attempt budget (.ofNat (k + 1)) (some m)
          ((w.after k).withTime ((w.after k).time.pause w.context w.interval)) := by
  have hl : (w.before k).time.err w.context = none := h
  simp only [Poll.attempts, hl, decision, after, UInt32.ofNat_add, UInt32.ofNat_one]
  rcases w.attempt w.context (w.before k) with ⟨d, r⟩
  cases d <;> rfl

/-- A pause in which the context stays live leads to the next attempt. -/
theorem pause_of_live {k : Nat} (h : w.Live (k + 1)) :
    (w.after k).withTime ((w.after k).time.pause w.context w.interval) = w.before (k + 1) := by
  rw [before_succ, Timeline.pause, Timeline.wake_of_live ((live_succ k).mp h)]
  rfl

/-- **The attempts up to one that is made.** -/
theorem run_of_started : ∀ {k : Nat}, w.Started k → ∀ budget,
    w.run (k + budget) =
      Poll.attempts w.interval w.context w.attempt budget (.ofNat k) (w.last k) (w.before k)
  | 0, _, budget => by rw [Nat.zero_add]; rfl
  | k + 1, ⟨hs, ⟨m, hm⟩, hl⟩, budget => by
    have hlast : w.last (k + 1) = some m := by rw [last, hm]; rfl
    calc w.run (k + 1 + budget) = w.run (k + (budget + 1)) := by
          rw [Nat.add_right_comm, Nat.add_assoc]
      _ = Poll.attempts w.interval w.context w.attempt (budget + 1) (.ofNat k) (w.last k)
          (w.before k) :=
        run_of_started hs (budget + 1)
      _ = Poll.attempts w.interval w.context w.attempt budget (.ofNat (k + 1)) (some m)
          (w.before (k + 1)) := by
        rw [attempts_live hs.live, hm, ← pause_of_live hl]
      _ = _ := by rw [hlast]

/-- **While all attempts go on there is no result.** -/
theorem run_of_goesOn {budget : Nat} (h : w.GoesOn budget) : w.run budget = none := by
  cases budget with
  | zero => rfl
  | succ k =>
    obtain ⟨hs, m, hm⟩ := h k (Nat.lt_succ_self k)
    rw [run_of_started hs 1, attempts_live hs.live, hm]
    rfl

/-- The number of attempts that go on is less than any budget that not all attempts exhaust. -/
theorem lt_of_not_goesOn {k budget : Nat} (hs : w.Started k) (hb : ¬ w.GoesOn budget) :
    k < budget := by
  by_contra hle
  exact hb fun j hj => hs.earlier (by omega)

/-- **The end of the course is the result,** if not all attempts allowed go on. -/
theorem run_of_ends {n budget : Nat} {result : Except WaitError α} {r : Run σ}
    (h : w.Ends n result r) (hb : ¬ w.GoesOn budget) : w.run budget = some (result, r) := by
  -- an attempt that was made leaves at least one of the budget
  have decided {k : Nat} (hs : w.Started k) : w.run budget = Poll.attempts w.interval w.context
      w.attempt (budget - k - 1 + 1) (.ofNat k) (w.last k) (w.before k) := by
    have := lt_of_not_goesOn hs hb
    rw [← run_of_started hs, show k + (budget - k - 1 + 1) = budget by omega]
  cases h with
  | atOnce he =>
    cases budget with
    | zero => exact absurd (fun k hk => by omega) hb
    | succ b => exact attempts_dead he
  | done hs hd => rw [decided hs, attempts_live hs.live, hd]
  | stopped hs hd => rw [decided hs, attempts_live hs.live, hd]
  | cancelled hs hd => rw [decided hs, attempts_live hs.live, hd]
  | @meanwhile k m n e hs hm hl hn he =>
    have hwake : (w.after k).time.pause w.context w.interval = (w.after k).time.atInstant m := by
      rw [Timeline.pause, (Timeline.isLeast_wake ((live_succ k).not.mp hl)).unique hn]; rfl
    have hk : k + 1 < budget := by
      by_contra hle
      refine hb fun j hj => ?_
      rcases Nat.lt_succ_iff_lt_or_eq.mp (show j < k + 1 by omega) with hj | rfl
      · exact hs.earlier hj
      · exact ⟨hs, n, hm⟩
    have hleft : budget - k - 1 = budget - k - 2 + 1 := by omega
    rw [decided hs, attempts_live hs.live, hm, hwake, hleft]
    exact attempts_dead he

/-- The attempts that are made have one number only. -/
theorem number_unique {n n' : Nat} (h : ∀ k, w.Started k ↔ k < n) (h' : ∀ k, w.Started k ↔ k < n') :
    n = n' := by
  have hlt (k : Nat) : k < n ↔ k < n' := (h k).symm.trans (h' k)
  have h₁ := hlt n
  have h₂ := hlt n'
  omega

theorem Ends.number_unique {n n' : Nat} {result result' : Except WaitError α} {r r' : Run σ}
    (h : w.Ends n result r) (h' : w.Ends n' result' r') : n = n' :=
  Course.number_unique h.started_iff h'.started_iff

/-- A budget is enough that has room for one attempt more than are made. -/
theorem Ends.not_goesOn {n budget : Nat} {result : Except WaitError α} {r : Run σ}
    (h : w.Ends n result r) (hn : n < budget) : ¬ w.GoesOn budget :=
  fun hg => Nat.lt_irrefl n ((h.started_iff n).mp (hg n hn).1)

/-- **A course ends in one way only.** -/
theorem Ends.unique {n n' : Nat} {result result' : Except WaitError α} {r r' : Run σ}
    (h : w.Ends n result r) (h' : w.Ends n' result' r') : result = result' ∧ r = r' := by
  have hb : ¬ w.GoesOn (n + 1) := h.not_goesOn (Nat.lt_succ_self n)
  have heq := (run_of_ends h hb).symm.trans (run_of_ends h' hb)
  simpa using heq

/-! ### Every course ends that does not go on -/

/-- **A course ends as soon as one attempt does not go on.** -/
theorem exists_ends {budget : Nat} (h : ¬ w.GoesOn budget) : ∃ n result r, w.Ends n result r := by
  induction budget with
  | zero => exact absurd (fun k hk => by omega) h
  | succ k ih =>
    by_cases hk : w.GoesOn k
    · by_cases hs : w.Started k
      · cases hd : w.decision k with
        | done v => exact ⟨_, _, _, .done hs hd⟩
        | stop m => exact ⟨_, _, _, .stopped hs hd⟩
        | cancelled => exact ⟨_, _, _, .cancelled hs hd⟩
        | retry m =>
          refine absurd (fun j hj => ?_) h
          rcases Nat.lt_succ_iff_lt_or_eq.mp hj with hj | rfl
          · exact hk j hj
          · exact ⟨hs, m, hd⟩
      · cases k with
        | zero =>
          have hs : w.opening.time.err w.context ≠ none := hs
          obtain ⟨e, he⟩ := Option.ne_none_iff_exists'.mp hs
          exact ⟨_, _, _, .atOnce he⟩
        | succ j =>
          obtain ⟨hj, m, hm⟩ := hk j (Nat.lt_succ_self j)
          have hl : ¬ w.Live (j + 1) := fun hl => hs ⟨hj, ⟨m, hm⟩, hl⟩
          have hn := Timeline.isLeast_wake (n := w.interval) hl
          obtain ⟨e, he⟩ := Option.isSome_iff_exists.mp hn.1.2
          exact ⟨_, _, _, .meanwhile hj hm hl hn he⟩
    · exact ih hk

/-- **The result of a wait,** read off its course. -/
theorem run_eq_some_iff {budget : Nat} {result : Except WaitError α} {r : Run σ} :
    w.run budget = some (result, r) ↔ ¬ w.GoesOn budget ∧ ∃ n, w.Ends n result r := by
  constructor
  · intro h
    have hb : ¬ w.GoesOn budget := fun hg => by rw [run_of_goesOn hg] at h; cases h
    obtain ⟨n, result', r', he⟩ := exists_ends hb
    have heq : some (result', r') = some (result, r) := (run_of_ends he hb).symm.trans h
    cases heq
    exact ⟨hb, n, he⟩
  · rintro ⟨hb, n, he⟩
    exact run_of_ends he hb

theorem run_eq_none_iff {budget : Nat} : w.run budget = none ↔ w.GoesOn budget := by
  constructor
  · intro h
    by_contra hb
    obtain ⟨n, result, r, he⟩ := exists_ends hb
    rw [run_of_ends he hb] at h
    cases h
  · exact run_of_goesOn

/-! ### Ends that come with an attempt -/

/-- **The wait ends with an attempt:** no later one is made, and what comes of the wait is told of
the run that this one leaves. -/
structure EndsWith {β : Type} (w : Course σ α) (k : Nat) (told : β)
    (outcome : Option (β × Run σ)) : Prop where
  started_iff : ∀ j, w.Started j ↔ j ≤ k
  outcome_eq : outcome = some (told, w.after k)

theorem Ends.decision_of_ok {k : Nat} {v : α} {r : Run σ} (h : w.Ends (k + 1) (.ok v) r) :
    w.decision k = .done v := by
  cases h with
  | done hs hd => exact hd

/-- A budget is enough that has room for an attempt that does not ask for another. -/
theorem not_goesOn_of_decided {k budget : Nat} (hk : k < budget)
    (hd : ∀ m, w.decision k ≠ .retry m) : ¬ w.GoesOn budget := by
  intro hg
  obtain ⟨-, m, hm⟩ := hg k hk
  exact hd m hm

/-- **A wait succeeds with the attempt that decides for success.** -/
theorem run_eq_ok_iff {budget : Nat} {v : α} {r : Run σ} : w.run budget = some (.ok v, r) ↔
    ∃ k < budget, w.Started k ∧ w.decision k = .done v ∧ r = w.after k := by
  rw [run_eq_some_iff]
  constructor
  · rintro ⟨hb, n, he⟩
    cases he with
    | done hs hd => exact ⟨_, lt_of_not_goesOn hs hb, hs, hd, rfl⟩
  · rintro ⟨k, hk, hs, hd, rfl⟩
    exact ⟨not_goesOn_of_decided hk (by rw [hd]; nofun), _, .done hs hd⟩

end Course

end ClusterWait
