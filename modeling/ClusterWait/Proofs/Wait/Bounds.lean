import ClusterWait.Proofs.Wait.Polling
import Mathlib.Algebra.Order.Floor.Div

/-! # A bounded wait ends after a bounded number of attempts

`Course.made n` are the first attempts of a course as a log tells them: when each began, what it
decided and when it ended. A wait that keeps a log has logged exactly these (`untilDone_recorded`).

When the context has a deadline, every attempt that is made begins before it
(`Started.now_lt`). Attempts are at least the interval apart, so there are at most as many of them
as intervals begin before the deadline (`Started.lt_ceilDiv`), and no wait goes on past the deadline
unless its last attempt does (`Ends.now_le`). If no time is taken and nothing is found, the wait is as
long and has as many attempts as it can (`Ends.of_idle`).

`untilDone_ends_in_time` puts this together. -/

namespace ClusterWait

variable {σ α : Type}

/-! ### The attempts that were made -/

/-- **The first attempts of a course,** as a log tells them. -/
def Course.made (w : Course σ α) (n : Nat) : List (Made α) :=
  (List.range n).map fun k => ⟨(w.before k).time.now, w.decision k, (w.after k).time.now⟩

/-- The instant at which the last of some attempts ended, if there is one. -/
def Made.closing (start : Nat) (made : List (Made α)) : Nat :=
  (made.getLast?.map Made.ended).getD start

/-- **No attempt took any time,** and each asked for another. -/
def Made.Idle (made : List (Made α)) : Prop :=
  ∀ m ∈ made, m.ended = m.begun ∧ ∃ why, m.decision = .retry why

namespace Course

variable {w : Course σ α}

@[simp] theorem length_made (n : Nat) : (w.made n).length = n := by
  simp [made]

theorem mem_made {n : Nat} {m : Made α} : m ∈ w.made n ↔
    ∃ k < n, m = ⟨(w.before k).time.now, w.decision k, (w.after k).time.now⟩ := by
  simp [made, eq_comm]

theorem getLast?_made (k : Nat) : (w.made (k + 1)).getLast? =
    some ⟨(w.before k).time.now, w.decision k, (w.after k).time.now⟩ := by
  rw [made, List.range_succ, List.map_append, List.map_singleton, List.getLast?_concat]

theorem idle_made {n k : Nat} (h : Made.Idle (w.made n)) (hk : k < n) :
    (w.after k).time.now = (w.before k).time.now ∧ ∃ why, w.decision k = .retry why :=
  h _ (mem_made.mpr ⟨k, hk, rfl⟩)

end Course

theorem Poll.untilDone_recorded {p : Poll} {caller : Context}
    {attempt : Context → Act σ (Attempt α)} {r : Run σ} {n : Nat} {result : Except WaitError α}
    {left : Run σ} (he : (Course.of p caller attempt r).Ends n result left)
    (hb : ¬ (Course.of p caller attempt r).GoesOn (Course.of p caller attempt r).granted) :
    p.untilDone caller (recorded attempt) (r.withLog []) =
      some (result, left.withLog ((Course.of p caller attempt r).made n)) := by
  rw [untilDone_logged p caller attempt r (notes_recorded attempt) he hb, Course.log,
    ← List.map_eq_flatMap]
  rfl

theorem Poll.exists_ends_of_recorded {p : Poll} {caller : Context}
    {attempt : Context → Act σ (Attempt α)} {r : Run σ} {result : Except WaitError α}
    {left : Run (σ × List (Made α))}
    (h : p.untilDone caller (recorded attempt) (r.withLog []) = some (result, left)) :
    ∃ n plain, (Course.of p caller attempt r).Ends n result plain ∧
      left = plain.withLog ((Course.of p caller attempt r).made n) := by
  obtain ⟨n, he, hlog⟩ := p.untilDone_logged_eq_some caller attempt r (notes_recorded attempt) h
  refine ⟨n, left.plain, he, ?_⟩
  rw [Course.log, ← List.map_eq_flatMap] at hlog
  exact hlog

/-! ### Before the deadline -/

namespace Course

variable {w : Course σ α} {start time : Nat}

/-- **An attempt that is made begins before the deadline.** -/
theorem Started.now_lt {k d : Nat} (hs : w.Started k) (hd : w.context.deadline = some d) :
    (w.before k).time.now < d :=
  (Timeline.err_eq_none_iff.mp hs.live).2 d hd

/-- **No more attempts are made than intervals begin before the deadline.** -/
theorem Started.lt_ceilDiv {k : Nat} (hs : w.Started k) (hi : 0 < w.interval)
    (hkeep : (w.attempt w.context).KeepsTime)
    (hd : w.context.deadline = some (w.opening.time.now + time)) : k < time ⌈/⌉ w.interval := by
  have hnow := (Poll.opening_precedes_before hkeep k).2
  have hlt := hs.now_lt hd
  rw [← Nat.not_le, ceilDiv_le_iff_le_mul hi, Nat.mul_comm]
  omega

theorem Ends.le_ceilDiv {n : Nat} {result : Except WaitError α} {left : Run σ}
    (he : w.Ends n result left) (hi : 0 < w.interval) (hkeep : (w.attempt w.context).KeepsTime)
    (hd : w.context.deadline = some (w.opening.time.now + time)) : n ≤ time ⌈/⌉ w.interval := by
  cases n with
  | zero => exact Nat.zero_le _
  | succ k => exact ((he.started_iff k).mpr (Nat.lt_succ_self k)).lt_ceilDiv hi hkeep hd

/-- A deadline that has come ends the context. -/
theorem ended_of_deadline_le {l : Timeline} {c : Context} {d : Nat} (hd : c.deadline = some d)
    (hle : d ≤ l.now) : l.ended c = true :=
  Timeline.ended_iff.mpr (.inr ⟨d, hd, hle⟩)

/-- **A wait ends no later than its deadline,** unless its last attempt does. -/
theorem Ends.now_le {n : Nat} {result : Except WaitError α} {left : Run σ}
    (he : w.Ends n result left) {d : Nat} (hd : w.context.deadline = some d) :
    left.time.now ≤ max d (Made.closing w.opening.time.now (w.made n)) := by
  have hclosing (k : Nat) :
      Made.closing w.opening.time.now (w.made (k + 1)) = (w.after k).time.now := by
    rw [Made.closing, getLast?_made]
    rfl
  cases he with
  | atOnce he => exact le_max_right _ _
  | @meanwhile k n m e hs hm hl hn he =>
    rw [hclosing]
    -- the later of the two is an instant at which the context has ended
    refine hn.2 ⟨le_max_right _ _, ended_of_deadline_le hd ?_⟩
    exact le_max_left _ _
  | done hs hd => rw [hclosing]; exact le_max_right _ _
  | stopped hs hd => rw [hclosing]; exact le_max_right _ _
  | cancelled hs hd => rw [hclosing]; exact le_max_right _ _

/-! ### Attempts that take no time -/

/-- Attempts that take no time are exactly the interval apart. -/
theorem before_now_of_idle {n : Nat} (h : Made.Idle (w.made n)) {k : Nat} (hk : k ≤ n) :
    (w.before k).time.now = w.opening.time.now + k * w.interval := by
  induction k with
  | zero => rw [Nat.zero_mul]; rfl
  | succ k ih =>
    have hlt : k < n := hk
    rw [before_now, (idle_made h hlt).1, ih hlt.le, Nat.succ_mul, Nat.add_assoc]

/-- What ends a context that nobody cancelled is its deadline. -/
theorem deadline_le_of_err {l : Timeline} {c : Context} {d : Nat} {e : Cancellation}
    (he : l.err c = some e) (hd : c.deadline = some d)
    (hc : l.cancelledAt c.token l.now = false) : e = .deadlineExceeded ∧ d ≤ l.now := by
  cases e with
  | cancelled => rw [Timeline.err_eq_cancelled_iff.mp he] at hc; cases hc
  | deadlineExceeded =>
    obtain ⟨-, d', hd', hle⟩ := Timeline.err_eq_deadlineExceeded_iff.mp he
    rw [hd] at hd'
    cases hd'
    exact ⟨rfl, hle⟩

/-- **A wait whose attempts take no time and find nothing** lasts until its deadline and makes an
attempt for each interval that begins before, if it is not cancelled. -/
theorem Ends.of_idle {n : Nat} {result : Except WaitError α} {left : Run σ}
    (he : w.Ends n result left) (hi : 0 < w.interval)
    (hd : w.context.deadline = some (w.opening.time.now + time)) (hidle : Made.Idle (w.made n))
    (hc : left.time.cancelledAt w.context.token (w.opening.time.now + time) = false) :
    n = time ⌈/⌉ w.interval ∧ left.time.now = w.opening.time.now + time ∧
      result = .error (.timedOut (.ofNat n) ((w.made n).getLast?.bind (·.decision.reason?))) := by
  have hlive {m : Nat} (hm : m ≤ w.opening.time.now + time) :
      left.time.cancelledAt w.context.token m = false := by
    rw [Bool.eq_false_iff] at hc ⊢
    exact fun h => hc (Timeline.cancelledAt_mono hm h)
  -- an attempt that decides is not idle
  have decided {k : Nat} {P : Prop} (hn : n = k + 1) (hd : ∀ m, w.decision k ≠ .retry m) : P := by
    obtain ⟨-, why, hwhy⟩ := idle_made hidle (show k < n by omega)
    exact absurd hwhy (hd why)
  cases he with
  | @atOnce e he =>
    obtain ⟨rfl, hle⟩ := deadline_le_of_err he hd (hlive (Nat.le_add_right _ _))
    obtain rfl : time = 0 := by omega
    exact ⟨(zero_ceilDiv _).symm, rfl, rfl⟩
  | @meanwhile k m why e hs hm hl hn he =>
    obtain ⟨hafter, -⟩ := idle_made hidle (Nat.lt_succ_self k)
    have hbefore := before_now_of_idle hidle (Nat.le_succ k)
    have hdue : (w.after k).time.now + w.interval = w.opening.time.now + (k + 1) * w.interval := by
      rw [hafter, hbefore, Nat.add_one_mul, Nat.add_assoc]
    have hlt := hs.now_lt hd
    have hle : m ≤ w.opening.time.now + time :=
      hn.2 ⟨by omega, ended_of_deadline_le hd le_rfl⟩
    obtain ⟨rfl, hge⟩ := deadline_le_of_err he hd (hlive hle)
    obtain rfl : m = w.opening.time.now + time := Nat.le_antisymm hle hge
    -- the next attempt would have been due at the deadline or later
    have htick : time ≤ (k + 1) * w.interval := by
      by_contra hlate
      refine hl ((live_succ k).mpr (Timeline.err_eq_none_iff.mpr ⟨hlive ?_, fun d hd' => ?_⟩))
      · rw [Timeline.advance_now, hdue]
        omega
      · rw [hd] at hd'
        cases hd'
        rw [Timeline.advance_now, hdue]
        omega
    refine ⟨Nat.le_antisymm ?_ ?_, rfl, ?_⟩
    · rw [Nat.succ_le_iff, ← Nat.not_le, ceilDiv_le_iff_le_mul hi, Nat.mul_comm]
      omega
    · rw [ceilDiv_le_iff_le_mul hi, Nat.mul_comm]
      exact htick
    · rw [getLast?_made, Option.bind_some, hm]
      rfl
  | done hs hd => exact decided rfl (by rw [hd]; nofun)
  | stopped hs hd => exact decided rfl (by rw [hd]; nofun)
  | cancelled hs hd => exact decided rfl (by rw [hd]; nofun)

end Course

/-! ### The main result -/

namespace Poll

/-- **A wait that ends in time:** its deadline comes the given time after the run in which it is
begun. -/
structure InTime (p : Poll) (c : Context) (r : Run σ) (time : Nat) (result : Except WaitError α)
    (left : Run σ) (made : List (Made α)) : Prop where
  /-- An attempt is made for each interval that begins before the deadline, and no more. -/
  length_le : made.length ≤ time ⌈/⌉ p.interval
  /-- A failure tells how many are made in 32 bits, which is the number itself as long as it fits. -/
  counted : ∀ e, result = .error e → e.attempts = .ofNat made.length ∧
    (made.length < UInt32.size → e.attempts.toNat = made.length)
  /-- Every attempt begins before the deadline. -/
  begun_lt : ∀ m ∈ made, m.begun < r.time.now + time
  /-- The wait ends at the deadline or before, or with its last attempt. -/
  now_le : left.time.now ≤ max (r.time.now + time) (Made.closing r.time.now made)
  /-- If no attempt takes any time, all ask for another, and nothing cancels the context up to the
  deadline, then the wait times out at the deadline, with as many attempts as there can be and the
  reason of the last. -/
  idle : Made.Idle made → left.time.cancelledAt c.token (r.time.now + time) = false →
    result = .error (.timedOut (.ofNat (time ⌈/⌉ p.interval))
      (made.getLast?.bind (·.decision.reason?))) ∧
    made.length = time ⌈/⌉ p.interval ∧ left.time.now = r.time.now + time

/-- **A bounded wait ends,** whatever its attempts do, if they are some time apart and keep time. -/
theorem untilDone_ends_in_time {p : Poll} {caller : Context} {attempt : Context → Act σ (Attempt α)}
    {r : Run σ} {time : Nat} (hi : 0 < p.interval)
    (hd : (p.scope caller r).1.deadline = some (r.time.now + time))
    (hkeep : (attempt (p.scope caller r).1).KeepsTime) :
    ∃ result left made, p.untilDone caller attempt r = some (result, left) ∧
      p.untilDone caller (recorded attempt) (r.withLog []) = some (result, left.withLog made) ∧
      p.InTime (p.scope caller r).1 r time result left made := by
  have hstart : (Course.of p caller attempt r).opening.time.now = r.time.now :=
    (scope_opening p caller r).1
  have hdeadline : (Course.of p caller attempt r).context.deadline =
      some ((Course.of p caller attempt r).opening.time.now + time) := by rw [hstart]; exact hd
  have hend : ((Course.of p caller attempt r).opening.time.endOf
      (Course.of p caller attempt r).context).isSome = true := by
    rw [Timeline.endOf, hdeadline]
    cases (Course.of p caller attempt r).opening.time.cancelInstant _ <;> rfl
  have hb : ¬ (Course.of p caller attempt r).GoesOn (Course.of p caller attempt r).granted :=
    not_goesOn_granted hi hend hkeep
  obtain ⟨n, result, left, he⟩ := Course.exists_ends hb
  refine ⟨result, left, (Course.of p caller attempt r).made n, ?_, untilDone_recorded he hb,
    ?_, ?_, fun m hm => ?_, ?_, fun hidle hc => ?_⟩
  · rw [untilDone_eq_run]
    exact Course.run_of_ends he hb
  · rw [Course.length_made]
    exact he.le_ceilDiv hi hkeep hdeadline
  · rw [Course.length_made]
    rintro e rfl
    exact ⟨he.attempts_eq, he.toNat_attempts⟩
  · obtain ⟨k, hk, rfl⟩ := Course.mem_made.mp hm
    exact ((he.started_iff k).mpr hk).now_lt hd
  · rw [← hstart]
    exact he.now_le hdeadline
  · rw [← hstart] at hc
    obtain ⟨hn, hnow, hresult⟩ := he.of_idle hi hdeadline hidle hc
    rw [Course.length_made, ← hstart]
    rw [hresult, hn]
    exact ⟨rfl, rfl, hnow⟩

/-- An attempt that takes no time and always asks for another. -/
def askAgain (_ : Context) : Act Unit (Attempt Unit) := pure (.retry "not yet")

/-- Every 10 ms it fits three times into 25 ms. -/
theorem untilDone_ends_in_time_askAgain :
    (untilDone ⟨10, some 25⟩ ⟨⟨[0]⟩, none⟩ askAgain ⟨⟨0, [], 1⟩, 0, ()⟩).map
      (fun x => (x.1, x.2.time.now)) = some (.error (.timedOut 3 (some "not yet")), 25) ∧
    ∃ result left made,
      untilDone ⟨10, some 25⟩ ⟨⟨[0]⟩, none⟩ askAgain ⟨⟨0, [], 1⟩, 0, ()⟩ = some (result, left) ∧
      untilDone ⟨10, some 25⟩ ⟨⟨[0]⟩, none⟩ (recorded askAgain) ⟨⟨0, [], 1⟩, 0, (), []⟩ =
        some (result, left.withLog made) ∧
      InTime ⟨10, some 25⟩ ⟨⟨[1, 0]⟩, some 25⟩ ⟨⟨0, [], 1⟩, 0, ()⟩ 25 result left made :=
  ⟨by decide +kernel, untilDone_ends_in_time (by decide) rfl fun r => ⟨le_rfl, fun _ hx => hx⟩⟩

end Poll

end ClusterWait
