import ClusterWait.Proofs.Wait.Course

/-! # Keeping a log of a wait

What an attempt did is not seen from the result of a wait alone. A run *with a log* has beside its
world a list to which acts may add (`Run.withLog`, `Act.noted`); the acts themselves do not see it.

`Notes attempt attempt' entries` says that `attempt'` does what `attempt` does and adds the entries.
Then the course of the wait with a log is the course without it (`started_logged`, `goesOn_logged`),
and it ends in the same way, with the entries of the attempts that were made, in their order
(`Ends.logged`). -/

namespace ClusterWait

variable {σ ε α β : Type}

/-- **The run with a log** beside its world. -/
def Run.withLog (r : Run σ) (log : List ε) : Run (σ × List ε) :=
  ⟨r.time, r.patience, (r.world, log)⟩

/-- The run without its log. -/
def Run.plain (r : Run (σ × List ε)) : Run σ := ⟨r.time, r.patience, r.world.1⟩

/-- **The act that adds a note** on what it did to the log. -/
def Act.noted (act : Act σ β) (note : Run σ → β → Run σ → ε) : Act (σ × List ε) β := fun r =>
  let (b, left) := act r.plain
  (b, left.withLog (r.world.2 ++ [note r.plain b left]))

theorem Act.noted_withLog (act : Act σ β) (note : Run σ → β → Run σ → ε) (r : Run σ)
    (log : List ε) : act.noted note (r.withLog log) =
      ((act r).1, (act r).2.withLog (log ++ [note r (act r).1 (act r).2])) := rfl

/-- **The second attempt does what the first does,** and adds entries to the log. -/
def Notes (attempt : Context → Act σ (Attempt α))
    (attempt' : Context → Act (σ × List ε) (Attempt α))
    (entries : Context → Run σ → List ε) : Prop :=
  ∀ c r log, attempt' c (r.withLog log) =
    ((attempt c r).1, (attempt c r).2.withLog (log ++ entries c r))

namespace Course

variable (w : Course σ α) (attempt' : Context → Act (σ × List ε) (Attempt α))
  (entries : Context → Run σ → List ε)

/-- The course with other attempts, which keep a log. -/
def logged : Course (σ × List ε) α := ⟨w.interval, w.context, attempt', w.opening.withLog []⟩

def log (n : Nat) : List ε := (List.range n).flatMap fun k => entries w.context (w.before k)

theorem log_succ (k : Nat) :
    w.log entries (k + 1) = w.log entries k ++ entries w.context (w.before k) := by
  simp [log, List.range_succ]

variable {w attempt' entries} (h : Notes w.attempt attempt' entries)
include h

theorem before_logged (k : Nat) :
    (w.logged attempt').before k = (w.before k).withLog (w.log entries k) := by
  induction k with
  | zero => rfl
  | succ k ih =>
    have hk := h w.context (w.before k) (w.log entries k)
    rw [before, ih, log_succ]
    simp only [logged, hk]
    rfl

theorem attempt_logged (k : Nat) :
    attempt' w.context ((w.logged attempt').before k) =
      (w.decision k, (w.after k).withLog (w.log entries (k + 1))) := by
  rw [before_logged h, h, log_succ]
  rfl

theorem decision_logged (k : Nat) : (w.logged attempt').decision k = w.decision k :=
  congrArg Prod.fst (attempt_logged h k)

theorem after_logged (k : Nat) :
    (w.logged attempt').after k = (w.after k).withLog (w.log entries (k + 1)) :=
  congrArg Prod.snd (attempt_logged h k)

theorem live_logged (k : Nat) : (w.logged attempt').Live k ↔ w.Live k := by
  unfold Live
  rw [before_logged h]
  rfl

theorem last_logged (n : Nat) : (w.logged attempt').last n = w.last n := by
  cases n with
  | zero => rfl
  | succ k => rw [last, last, decision_logged h]

theorem started_logged (k : Nat) : (w.logged attempt').Started k ↔ w.Started k := by
  induction k with
  | zero => exact live_logged h 0
  | succ k ih => rw [Started, Started, ih, decision_logged h, live_logged h]

theorem goesOn_logged (n : Nat) : (w.logged attempt').GoesOn n ↔ w.GoesOn n := by
  unfold GoesOn
  simp only [started_logged h, decision_logged h]

/-- **A wait with a log ends as it does without,** with the entries of the attempts made. -/
theorem Ends.logged {n : Nat} {result : Except WaitError α} {r : Run σ} (he : w.Ends n result r) :
    (w.logged attempt').Ends n result (r.withLog (w.log entries n)) := by
  have decided {k : Nat} {result : Except WaitError α}
      (hk : (w.logged attempt').Ends (k + 1) result ((w.logged attempt').after k)) :
      (w.logged attempt').Ends (k + 1) result ((w.after k).withLog (w.log entries (k + 1))) := by
    rwa [after_logged h] at hk
  cases he with
  | atOnce he => exact .atOnce he
  | @meanwhile k m _ _ hs hm hl hn he =>
    have hk : (w.logged attempt').Ends (k + 1) _
        (((w.logged attempt').after k).withTime (((w.logged attempt').after k).time.atInstant m)) :=
      .meanwhile ((started_logged h k).mpr hs) ((decision_logged h k).trans hm)
        ((live_logged h (k + 1)).not.mpr hl) (by rw [after_logged h]; exact hn)
        (by rw [after_logged h]; exact he)
    rwa [after_logged h] at hk
  | done hs hd =>
    exact decided (.done ((started_logged h _).mpr hs) ((decision_logged h _).trans hd))
  | stopped hs hd =>
    exact decided (.stopped ((started_logged h _).mpr hs) ((decision_logged h _).trans hd))
  | @cancelled k hs hd =>
    have hk : (w.logged attempt').Ends (k + 1) _ ((w.logged attempt').after k) :=
      .cancelled ((started_logged h k).mpr hs) ((decision_logged h k).trans hd)
    rw [after_logged h, last_logged h] at hk
    exact hk

end Course

end ClusterWait
