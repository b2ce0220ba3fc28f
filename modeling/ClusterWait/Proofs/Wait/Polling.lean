import ClusterWait.Proofs.Wait.Log

/-! # Polling keeps to the course of the wait

`Course.of p caller attempt r` is the course of a wait that is begun in the run `r`. The context of
its attempts is live while the caller's is and the wait's own bound has not passed
(`err_scope_eq_none_iff`), and it is cancelled with the caller's or by an attempt
(`err_scope_eq_cancelled_iff`).

A run grants a wait its patience and an attempt for each millisecond up to the end of that context.
`untilDone_keeps_course` says that the wait makes exactly the attempts of the course, each when it
is due, and ends as the course does; that there is no result only when all the attempts granted ask
for another; and that there is one when the context ends, the interval is positive and the attempts
neither turn the clock back nor take a cancel back (`not_goesOn_granted`).

What is told of a wait is told of the end of its course (`Course.outcome_of_ends`,
`Course.exists_ends_of_outcome`), which may come with an attempt (`Course.endsWith_of_decided`). -/

namespace ClusterWait

variable {σ α : Type}

/-- **The course of a wait** that is begun in a run. -/
def Course.of (p : Poll) (caller : Context) (attempt : Context → Act σ (Attempt α)) (r : Run σ) :
    Course σ α :=
  ⟨p.interval, (p.scope caller r).1, attempt, (p.scope caller r).2⟩

/-- The attempts that the run grants the wait: its patience, one for each millisecond up to the end
of the context, and one to find the context ended. -/
def Course.granted (w : Course σ α) : Nat := Poll.budget w.opening w.context

/-- **What comes of the wait,** told in other words. -/
def Course.outcome {β : Type} (w : Course σ α) (tell : Except WaitError α → β) :
    Option (β × Run σ) :=
  (w.run w.granted).map fun x => (tell x.1, x.2)

/-- An attempt that was made: when it began, what it decided, and when it ended. -/
structure Made (α : Type) where
  begun : Nat
  decision : Attempt α
  ended : Nat

/-- The attempts with a log of those that are made. -/
def recorded (attempt : Context → Act σ (Attempt α)) (c : Context) :
    Act (σ × List (Made α)) (Attempt α) :=
  (attempt c).noted fun r d left => ⟨r.time.now, d, left.time.now⟩

/-- The act neither turns the clock back nor takes a cancel back. -/
def Act.KeepsTime (act : Act σ α) : Prop := ∀ r : Run σ, r.time.Precedes (act r).2.time

/-! ### What is told of a wait -/

namespace Course

variable {β : Type} {w : Course σ α} {tell : Except WaitError α → β} {told : β} {left : Run σ}

theorem granted_pos : 0 < w.granted := Nat.succ_pos _

theorem outcome_of_ends (tell : Except WaitError α → β) {n : Nat} {result : Except WaitError α}
    (he : w.Ends n result left) (hb : ¬ w.GoesOn w.granted) :
    w.outcome tell = some (tell result, left) := by
  rw [outcome, run_of_ends he hb]
  rfl

theorem exists_ends_of_outcome (h : w.outcome tell = some (told, left)) :
    ∃ n result, w.Ends n result left ∧ told = tell result := by
  obtain ⟨⟨result, left'⟩, hrun, heq⟩ := Option.map_eq_some_iff.mp h
  obtain ⟨-, n, he⟩ := run_eq_some_iff.mp hrun
  cases heq
  exact ⟨n, result, he, rfl⟩

theorem exists_outcome (tell : Except WaitError α → β) (hb : ¬ w.GoesOn w.granted) :
    ∃ told left, w.outcome tell = some (told, left) := by
  obtain ⟨n, result, left, he⟩ := exists_ends hb
  exact ⟨_, _, outcome_of_ends tell he hb⟩

theorem outcome_eq_none_iff : w.outcome tell = none ↔ w.GoesOn w.granted := by
  rw [outcome, Option.map_eq_none_iff, run_eq_none_iff]

/-- **An attempt that does not ask for another ends the wait** with what it decides, if it is one of
those granted. -/
theorem endsWith_of_decided (tell : Except WaitError α → β) {k : Nat} {result : Except WaitError α}
    (hk : k < w.granted) (he : w.Ends (k + 1) result (w.after k))
    (hd : ∀ m, w.decision k ≠ .retry m) : w.EndsWith k (tell result) (w.outcome tell) :=
  ⟨fun j => (he.started_iff j).trans Nat.lt_succ_iff,
    outcome_of_ends tell he (not_goesOn_of_decided hk hd)⟩

/-- The course then ends with the attempt, too. -/
theorem EndsWith.ends {k : Nat} (h : w.EndsWith k told (w.outcome tell)) :
    ∃ result, w.Ends (k + 1) result (w.after k) ∧ told = tell result := by
  obtain ⟨n, result, he, htold⟩ := exists_ends_of_outcome h.outcome_eq
  have hn : n = k + 1 := number_unique he.started_iff fun j => (h.started_iff j).trans Nat.lt_succ_iff.symm
  exact ⟨result, hn ▸ he, htold⟩

end Course

namespace Poll

variable (p : Poll) (caller : Context) (attempt : Context → Act σ (Attempt α)) (r : Run σ)

/-! ### The context of the attempts -/

theorem scope_deadline : (p.scope caller r).1.deadline =
    Timeline.earlier caller.deadline (p.timeout.map (r.time.now + ·)) := by
  unfold scope
  cases p.timeout with
  | none => exact (Timeline.earlier_none caller.deadline).symm
  | some t => rfl

/-- A bound of the wait's own lets the context of the attempts end. -/
theorem isSome_endOf_scope {t : Nat} (ht : p.timeout = some t) (l : Timeline) :
    (l.endOf (p.scope caller r).1).isSome = true := by
  rw [Timeline.endOf, scope_deadline, ht]
  cases l.cancelInstant (p.scope caller r).1.token <;> cases caller.deadline <;> rfl

/-- The token of the attempts is cancelled with the caller's, or by a cancel of its own. -/
theorem cancelledAt_scope (l : Timeline) (n : Nat) :
    l.cancelledAt (p.scope caller r).1.token n = true ↔ l.cancelledAt caller.token n = true ∨
      ∃ x ∈ l.cancels, x.instant ≤ n ∧ x.token = (p.scope caller r).1.token := by
  unfold scope
  cases p.timeout with
  | none =>
    refine ⟨Or.inl, fun h => h.elim id ?_⟩
    rintro ⟨x, hx, hn, ht⟩
    exact Timeline.cancelledAt_iff.mpr ⟨x, hx, hn, by rw [ht]; exact Timeline.covers_refl _⟩
  | some t => exact Timeline.cancelledAt_derive r.time l caller.token n

theorem scope_opening : (p.scope caller r).2.time.now = r.time.now ∧
    (p.scope caller r).2.time.cancels = r.time.cancels ∧ (p.scope caller r).2.world = r.world ∧
    (p.scope caller r).2.patience = r.patience := by
  unfold scope
  cases p.timeout <;> exact ⟨rfl, rfl, rfl, rfl⟩

theorem earlier_eq_some_bound {a b : Option Nat} {n : Nat} :
    (∀ d, Timeline.earlier a b = some d → n < d) ↔
      (∀ d, a = some d → n < d) ∧ ∀ d, b = some d → n < d := by
  cases a <;> cases b <;> simp [Timeline.earlier]

/-- **When the context of the attempts is live:** the caller's token and its own are not cancelled,
and neither the caller's deadline nor the bound of the wait has come. -/
theorem err_scope_eq_none_iff (l : Timeline) :
    l.err (p.scope caller r).1 = none ↔ l.cancelledAt caller.token l.now = false ∧
      (∀ x ∈ l.cancels, x.instant ≤ l.now → x.token ≠ (p.scope caller r).1.token) ∧
      (∀ d, caller.deadline = some d → l.now < d) ∧
      ∀ t, p.timeout = some t → l.now < r.time.now + t := by
  rw [Timeline.err_eq_none_iff, ← Bool.not_eq_true, cancelledAt_scope, scope_deadline,
    earlier_eq_some_bound, not_or, Bool.not_eq_true]
  simp only [not_exists, not_and, Option.map_eq_some_iff, forall_exists_index, and_imp,
    forall_apply_eq_imp_iff₂, and_assoc, ne_eq]

/-- **When it is cancelled.** -/
theorem err_scope_eq_cancelled_iff (l : Timeline) :
    l.err (p.scope caller r).1 = some .cancelled ↔ l.cancelledAt caller.token l.now = true ∨
      ∃ x ∈ l.cancels, x.instant ≤ l.now ∧ x.token = (p.scope caller r).1.token := by
  rw [Timeline.err_eq_cancelled_iff, cancelledAt_scope]

/-! ### The wait and its course -/

theorem untilDone_eq_run : p.untilDone caller attempt r =
    (Course.of p caller attempt r).run (Course.of p caller attempt r).granted := rfl

theorem scope_withLog {ε : Type} (log : List ε) : p.scope caller (r.withLog log) =
    ((p.scope caller r).1, (p.scope caller r).2.withLog log) := by
  unfold scope
  cases p.timeout <;> rfl

theorem of_withLog {ε : Type} (attempt' : Context → Act (σ × List ε) (Attempt α)) :
    Course.of p caller attempt' (r.withLog []) =
      (Course.of p caller attempt r).logged attempt' := by
  unfold Course.of
  rw [scope_withLog]
  rfl

/-- **A wait with a log.** -/
theorem untilDone_logged {ε : Type} {attempt' : Context → Act (σ × List ε) (Attempt α)}
    {entries : Context → Run σ → List ε} (h : Notes attempt attempt' entries) {n : Nat}
    {result : Except WaitError α} {left : Run σ}
    (he : (Course.of p caller attempt r).Ends n result left)
    (hb : ¬ (Course.of p caller attempt r).GoesOn (Course.of p caller attempt r).granted) :
    p.untilDone caller attempt' (r.withLog []) =
      some (result, left.withLog ((Course.of p caller attempt r).log entries n)) := by
  have h' : Notes (Course.of p caller attempt r).attempt attempt' entries := h
  rw [untilDone_eq_run, of_withLog p caller attempt]
  exact Course.run_of_ends (Course.Ends.logged h' he) ((Course.goesOn_logged h' _).not.mpr hb)

theorem untilDone_logged_eq_some {ε : Type} {attempt' : Context → Act (σ × List ε) (Attempt α)}
    {entries : Context → Run σ → List ε} (h : Notes attempt attempt' entries)
    {result : Except WaitError α} {left : Run (σ × List ε)}
    (hr : p.untilDone caller attempt' (r.withLog []) = some (result, left)) :
    ∃ n, (Course.of p caller attempt r).Ends n result left.plain ∧
      left = left.plain.withLog ((Course.of p caller attempt r).log entries n) := by
  have h' : Notes (Course.of p caller attempt r).attempt attempt' entries := h
  have hb : ¬ (Course.of p caller attempt r).GoesOn (Course.of p caller attempt r).granted := by
    rw [untilDone_eq_run, Course.run_eq_some_iff, of_withLog p caller attempt] at hr
    exact (Course.goesOn_logged h' _).not.mp hr.1
  obtain ⟨n, result', left', he⟩ := Course.exists_ends hb
  rw [untilDone_logged p caller attempt r h he hb] at hr
  cases hr
  exact ⟨n, he, rfl⟩

/-- **Keeping a log changes nothing else.** -/
theorem untilDone_eq_map_logged {ε : Type} {attempt' : Context → Act (σ × List ε) (Attempt α)}
    {entries : Context → Run σ → List ε} (h : Notes attempt attempt' entries) :
    p.untilDone caller attempt r =
      (p.untilDone caller attempt' (r.withLog [])).map fun x => (x.1, x.2.plain) := by
  have h' : Notes (Course.of p caller attempt r).attempt attempt' entries := h
  by_cases hb : (Course.of p caller attempt r).GoesOn (Course.of p caller attempt r).granted
  · have hb' : ((Course.of p caller attempt r).logged attempt').GoesOn
        ((Course.of p caller attempt r).logged attempt').granted :=
      (Course.goesOn_logged h' _).mpr hb
    rw [untilDone_eq_run, untilDone_eq_run, of_withLog p caller attempt, Course.run_of_goesOn hb,
      Course.run_of_goesOn hb']
    rfl
  · obtain ⟨n, result, left, he⟩ := Course.exists_ends hb
    rw [untilDone_logged p caller attempt r h he hb, untilDone_eq_run, Course.run_of_ends he hb]
    rfl

theorem notes_recorded : Notes attempt (recorded attempt)
    (fun c r => [⟨r.time.now, (attempt c r).1, (attempt c r).2.time.now⟩]) :=
  fun c r log => (attempt c).noted_withLog _ r log

/-! ### A result is certain -/

/-- Each attempt is due at least the interval after the one before. -/
theorem opening_precedes_before {w : Course σ α} (hkeep : (w.attempt w.context).KeepsTime) (k : Nat) :
    w.opening.time.Precedes (w.before k).time ∧
      w.opening.time.now + k * w.interval ≤ (w.before k).time.now := by
  induction k with
  | zero => exact ⟨.refl _, by rw [Nat.zero_mul]; exact le_rfl⟩
  | succ k ih =>
    have hk : (w.before k).time.Precedes (w.after k).time := hkeep (w.before k)
    have hle := hk.now_le
    refine ⟨ih.1.trans (hk.trans (Timeline.precedes_advance _ w.interval)), ?_⟩
    rw [Course.before_now, Nat.succ_mul]
    omega

/-- **A wait whose context ends does not go on for all attempts granted,** if its interval is
positive and its attempts neither turn the clock back nor take a cancel back. -/
theorem not_goesOn_granted {w : Course σ α} (hi : 0 < w.interval)
    (hend : (w.opening.time.endOf w.context).isSome = true)
    (hkeep : (w.attempt w.context).KeepsTime) :
    ¬ w.GoesOn w.granted := by
  intro hg
  obtain ⟨e, he⟩ := Option.isSome_iff_exists.mp hend
  obtain ⟨hpre, hnow⟩ := opening_precedes_before hkeep (e - w.opening.time.now)
  have hmul := Nat.le_mul_of_pos_right (e - w.opening.time.now) hi
  have hlt : e - w.opening.time.now < w.granted := by
    unfold Course.granted budget; rw [he]; simp only [Option.getD_some]; omega
  -- the attempt that is due at the end of the context finds it ended
  have hended : (w.opening.time.atInstant (w.before (e - w.opening.time.now)).time.now).ended
      w.context = true := by
    rw [Timeline.ended_atInstant, he]
    simp only [Option.any_some, decide_eq_true_eq]
    omega
  have hpre' : (w.opening.time.atInstant (w.before (e - w.opening.time.now)).time.now).Precedes
      (w.before (e - w.opening.time.now)).time := ⟨le_rfl, hpre.cancels⟩
  have hdead := hpre'.ended hended
  rw [← Bool.not_eq_false, Timeline.ended_eq_false_iff.not] at hdead
  exact hdead (hg _ hlt).1.live

/-- As many attempts are granted as the run is patient for. -/
theorem lt_granted_of_le_patience {k : Nat} (hk : k ≤ r.patience) :
    k < (Course.of p caller attempt r).granted := by
  have hpatience : (Course.of p caller attempt r).opening.patience = r.patience :=
    (scope_opening p caller r).2.2.2
  unfold Course.granted budget
  omega

/-! ### The main result -/

/-- **A wait that is begun in a run keeps to a course.** -/
structure Keeps (w : Course σ α) : Prop where
  /-- The attempts are given a context that is live while the caller's token and its own are not
  cancelled and neither the caller's deadline nor the bound of the wait has come. -/
  live_iff : ∀ l : Timeline, l.err w.context = none ↔ l.cancelledAt caller.token l.now = false ∧
    (∀ x ∈ l.cancels, x.instant ≤ l.now → x.token ≠ w.context.token) ∧
    (∀ d, caller.deadline = some d → l.now < d) ∧
    ∀ t, p.timeout = some t → l.now < r.time.now + t
  /-- It is cancelled with the caller's, or by a cancel of its own. -/
  cancelled_iff : ∀ l : Timeline, l.err w.context = some .cancelled ↔
    l.cancelledAt caller.token l.now = true ∨
      ∃ x ∈ l.cancels, x.instant ≤ l.now ∧ x.token = w.context.token
  /-- The first attempt is due at once, with nothing else changed, -/
  first : (w.before 0).time.now = r.time.now ∧ (w.before 0).time.cancels = r.time.cancels ∧
    (w.before 0).world = r.world
  /-- and each further one exactly the interval after the one before ended. -/
  next : ∀ k, w.before (k + 1) = (w.after k).withTime ((w.after k).time.advance p.interval)
  /-- The attempts that are due do what attempts do. -/
  each : ∀ k, (w.decision k, w.after k) = attempt w.context (w.before k)
  /-- When the course ends, the attempts that it starts are those before its end. -/
  started_iff : ∀ n result left, w.Ends n result left → ∀ k, w.Started k ↔ k < n
  /-- A failure tells their number in 32 bits, which is the number itself as long as it fits. -/
  counted : ∀ n e left, w.Ends n (.error e) left → e.attempts = .ofNat n ∧
    (n < UInt32.size → e.attempts.toNat = n)
  /-- These are made, in this order, at these instants, and no others. -/
  log : ∀ n result left, w.Ends n result left → ¬ w.GoesOn w.granted →
    p.untilDone caller (recorded attempt) (r.withLog []) = some (result, left.withLog
      ((List.range n).map fun k => ⟨(w.before k).time.now, w.decision k, (w.after k).time.now⟩))
  /-- The wait ends as the course does. -/
  result_iff : ∀ result left, p.untilDone caller attempt r = some (result, left) ↔
    ¬ w.GoesOn w.granted ∧ ∃ n, w.Ends n result left
  /-- A patient run sees the end, -/
  patient : ∀ n result left, w.Ends n result left → n ≤ r.patience →
    p.untilDone caller attempt r = some (result, left)
  /-- there is no result only when all attempts granted ask for another, -/
  endless_iff : p.untilDone caller attempt r = none ↔ w.GoesOn w.granted
  /-- and this does not happen when the context ends, attempts are some time apart and keep time. -/
  ends : 0 < p.interval → (w.opening.time.endOf w.context).isSome = true →
    (attempt w.context).KeepsTime → ¬ w.GoesOn w.granted

/-- **A wait makes the attempts of its course, each when it is due, and ends as the course does.**
-/
theorem untilDone_keeps_course : p.Keeps caller attempt r (Course.of p caller attempt r) := by
  obtain ⟨hnow, hcancels, hworld, hpatience⟩ := scope_opening p caller r
  refine ⟨err_scope_eq_none_iff p caller r, err_scope_eq_cancelled_iff p caller r,
    ⟨hnow, hcancels, hworld⟩, Course.before_succ, fun k => rfl, fun _ _ _ he => he.started_iff,
    fun _ _ _ he => ⟨he.attempts_eq, he.toNat_attempts⟩, fun n result left he hb => ?_,
    fun result left => ?_, fun n result left he hn => ?_, ?_,
    not_goesOn_granted (w := Course.of p caller attempt r)⟩
  · rw [untilDone_logged p caller attempt r (notes_recorded attempt) he hb, Course.log,
      ← List.map_eq_flatMap]
    rfl
  · rw [untilDone_eq_run, Course.run_eq_some_iff]
  · rw [untilDone_eq_run]
    refine Course.run_of_ends he fun hg => ?_
    have hlt : n < (Course.of p caller attempt r).granted := by
      have : (Course.of p caller attempt r).opening.patience = r.patience := hpatience
      unfold Course.granted budget
      omega
    exact absurd ((he.started_iff n).mp (hg n hlt).1) (Nat.lt_irrefl n)
  · rw [untilDone_eq_run, Course.run_eq_none_iff]

end Poll

end ClusterWait
