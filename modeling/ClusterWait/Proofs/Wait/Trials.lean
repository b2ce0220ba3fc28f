import ClusterWait.Proofs.Wait.Polling
import ClusterWait.Wait.Script
import Mathlib.Data.List.Induction

/-! # The evaluations of a wait that checks an invariant

A *trial* is an evaluation that was started: of the check or of the condition, with the line of time
that it found and the one that it left, the sink that it was given and the one that it left.
`Assertion.watched` adds each to a log.

* `due`: what is to be evaluated next by the log so far, and on which line; nothing after a check
  that failed or a condition that held.
* `Protocol`: every trial in the log was due, found the context live and was given a fresh sink.
  What was logged earlier keeps to it too (`Protocol.before`), and a trial after which nothing is
  due can only be the last (`Protocol.getLast?_of_next`).
* `Tried`: the four ways of an attempt that finds its context live, with its trials (`tried`).
* `notes_watched`: watching the assertions adds the trials and changes nothing else. -/

namespace ClusterWait

/-- **An evaluation that was started.** -/
structure Trial where
  role : Script.Role
  opened : Timeline
  given : Sink
  holds : Bool
  left : Sink
  closed : Timeline

namespace Trial

/-- **Why it failed:** the failures recorded in its sink, if there is any. -/
def reason (t : Trial) : String :=
  if t.left.failures = [] then unrecordedFailure else "; ".intercalate t.left.failures

/-- **What is due after it:** the condition at once after a check that held, the check at the tick
after a condition that failed. -/
def next (interval : Nat) (t : Trial) : Option (Script.Role × Timeline) :=
  match t.role, t.holds with
  | .check, true => some (.condition, t.closed)
  | .condition, false => some (.check, t.closed.advance interval)
  | _, _ => none

theorem reason_eq (t : Trial) : t.left.message?.getD unrecordedFailure = t.reason := by
  unfold Sink.message? reason
  simp only [List.isEmpty_iff]
  split_ifs <;> rfl

theorem next_check {interval : Nat} {t : Trial} (hr : t.role = .check) (hh : t.holds = true) :
    t.next interval = some (.condition, t.closed) := by
  unfold next; rw [hr, hh]

theorem next_condition {interval : Nat} {t : Trial} (hr : t.role = .condition)
    (hh : t.holds = false) : t.next interval = some (.check, t.closed.advance interval) := by
  unfold next; rw [hr, hh]

theorem next_eq_none_iff {interval : Nat} {t : Trial} : t.next interval = none ↔
    (t.role = .check ∧ t.holds = false) ∨ (t.role = .condition ∧ t.holds = true) := by
  unfold next
  cases t.role <;> cases t.holds <;> simp

end Trial

/-! ### The protocol -/

/-- **What is due by the log so far:** a check at the opening, or what is due after the last trial.
-/
def due (interval : Nat) (opening : Timeline) (log : List Trial) :
    Option (Script.Role × Timeline) :=
  match log.getLast? with
  | none => some (.check, opening)
  | some t => t.next interval

def checks (log : List Trial) : Nat := log.countP (·.role = .check)

/-- The reason of the last condition that failed. -/
def lastReason (log : List Trial) : Option String :=
  (log.filter fun t => t.role = .condition && !t.holds).getLast?.map Trial.reason

/-- The line that the last trial left. -/
def closing (opening : Timeline) (log : List Trial) : Timeline :=
  (log.getLast?.map Trial.closed).getD opening

/-- **The log keeps to the protocol:** each trial was due, with the context live and a fresh sink.
-/
inductive Protocol (interval : Nat) (c : Context) (opening : Timeline) : List Trial → Prop
  | start : Protocol interval c opening []
  | trial {log : List Trial} {t : Trial} (h : Protocol interval c opening log)
      (hd : due interval opening log = some (t.role, t.opened)) (hl : t.opened.err c = none)
      (hf : t.given = .fresh) : Protocol interval c opening (log ++ [t])

section Protocol
variable {interval : Nat} {c : Context} {opening : Timeline} {log : List Trial} {t u : Trial}

@[simp] theorem due_append : due interval opening (log ++ [t]) = t.next interval := by
  simp [due]

@[simp] theorem closing_append : closing opening (log ++ [t]) = t.closed := by
  simp [closing]

theorem checks_append {log' : List Trial} : checks (log ++ log') = checks log + checks log' :=
  List.countP_append

theorem lastReason_append_failed (hr : t.role = .condition) (hh : t.holds = false) :
    lastReason (log ++ [t]) = some t.reason := by
  simp [lastReason, hr, hh]

theorem lastReason_append_check (hr : t.role = .check) :
    lastReason (log ++ [t]) = lastReason log := by
  simp [lastReason, hr]

/-- **What was logged earlier keeps to the protocol.** -/
theorem Protocol.before {later : List Trial} (h : Protocol interval c opening (log ++ later)) :
    Protocol interval c opening log := by
  induction later using List.reverseRecOn with
  | nil => rwa [List.append_nil] at h
  | append_singleton later u ih =>
    rw [← List.append_assoc] at h
    generalize hx : log ++ later ++ [u] = x at h
    cases h with
    | start => simp at hx
    | trial h =>
      obtain ⟨rfl, -⟩ := List.append_inj' hx rfl
      exact ih h

/-- The last trial was due by those before it. -/
theorem Protocol.due_last (h : Protocol interval c opening (log ++ [t])) :
    due interval opening log = some (t.role, t.opened) := by
  generalize hx : log ++ [t] = x at h
  cases h with
  | start => simp at hx
  | trial h hd =>
    obtain ⟨rfl, ht⟩ := List.append_inj' hx rfl
    obtain rfl : t = _ := List.singleton_inj.mp ht
    exact hd

/-- **A trial after which nothing is due is the last.** -/
theorem Protocol.getLast?_of_next (h : Protocol interval c opening log) (ht : t ∈ log)
    (hn : t.next interval = none) : log.getLast? = some t := by
  obtain ⟨xs, ys, rfl⟩ := List.append_of_mem ht
  cases ys with
  | nil => simp
  | cons u ys =>
    have hu : Protocol interval c opening (xs ++ [t] ++ [u] ++ ys) := by simpa using h
    have hd := hu.before.due_last
    rw [due_append, hn] at hd
    cases hd

end Protocol

/-! ### Watching assertions -/

variable {σ : Type}

/-- **The assertion with a log** of its trials. -/
def Assertion.watched (role : Script.Role) (a : Assertion σ) : Assertion (σ × List Trial) :=
  fun c sink => (a c sink).noted fun r v left => ⟨role, r.time, sink, v.1, v.2, left.time⟩

/-- The run that the evaluation of an assertion leaves. -/
def Assertion.leaves (a : Assertion σ) (c : Context) (r : Run σ) : Run σ := (a c .fresh r).2

def Assertion.trial (a : Assertion σ) (role : Script.Role) (c : Context) (r : Run σ) : Trial :=
  ⟨role, r.time, .fresh, (a c .fresh r).1.1, (a c .fresh r).1.2, (a.leaves c r).time⟩

/-- Its trial, if the context is live. -/
def Assertion.trials (a : Assertion σ) (role : Script.Role) (c : Context) (r : Run σ) :
    List Trial :=
  if r.time.ended c then [] else [a.trial role c r]

theorem evaluate_of_ended {a : Assertion σ} {c : Context} {r : Run σ} {e : Cancellation}
    (he : r.time.err c = some e) : evaluate c a r = (.cancelled, r) := by
  unfold evaluate; rw [he]

theorem evaluate_of_live {a : Assertion σ} {c : Context} {r : Run σ} (hl : r.time.err c = none)
    (role : Script.Role) : evaluate c a r =
      (if (a.trial role c r).holds then .held else .failed (a.trial role c r).reason,
        a.leaves c r) := by
  rw [← Trial.reason_eq]
  unfold evaluate Assertion.leaves Assertion.trial
  rw [hl]
  rcases a c .fresh r with ⟨⟨_ | _, sink⟩, left⟩ <;> rfl

theorem Assertion.trials_of_live {a : Assertion σ} {role : Script.Role} {c : Context} {r : Run σ}
    (hl : r.time.err c = none) : a.trials role c r = [a.trial role c r] := by
  rw [trials, Timeline.ended_eq_false_iff.mpr hl]; rfl

theorem Assertion.trials_of_ended {a : Assertion σ} {role : Script.Role} {c : Context} {r : Run σ}
    {e : Cancellation} (he : r.time.err c = some e) : a.trials role c r = [] := by
  rw [trials, Timeline.ended, he]; rfl

theorem evaluate_watched (a : Assertion σ) (role : Script.Role) (c : Context) (r : Run σ)
    (log : List Trial) : evaluate c (a.watched role) (r.withLog log) =
      ((evaluate c a r).1, (evaluate c a r).2.withLog (log ++ a.trials role c r)) := by
  cases he : r.time.err c with
  | some e =>
    rw [evaluate_of_ended (r := r.withLog log) he, evaluate_of_ended he,
      Assertion.trials_of_ended he, List.append_nil]
  | none =>
    rw [evaluate_of_live (r := r.withLog log) he role, evaluate_of_live he role,
      Assertion.trials_of_live he]
    rfl

/-! ### The trials of an attempt -/

variable (check condition : Assertion σ)

def entries (c : Context) (r : Run σ) : List Trial :=
  check.trials .check c r ++ match evaluate c check r with
    | (.held, r) => condition.trials .condition c r
    | _ => []

/-- **Watching the assertions adds their trials** and changes nothing else. -/
theorem notes_watched : Notes (checkThenCondition check condition)
    (checkThenCondition (check.watched .check) (condition.watched .condition))
    (entries check condition) := by
  intro c r log
  unfold checkThenCondition entries
  rw [evaluate_watched]
  rcases evaluate c check r with ⟨_ | m | _, r'⟩
  · simp only [evaluate_watched, List.append_assoc]
    rcases evaluate c condition r' with ⟨_ | m | _, r''⟩ <;> rfl
  · simp only [List.append_nil]
  · simp only [List.append_nil]

/-- **What an attempt comes to** that finds its context live: its decision, the run that it leaves
and its trials. -/
inductive Tried (c : Context) (r : Run σ) : Attempt Unit → Run σ → List Trial → Prop
  | stopped (hc : (check.trial .check c r).holds = false) :
    Tried c r (.stop (check.trial .check c r).reason) (check.leaves c r) [check.trial .check c r]
  | cutOff {e : Cancellation} (hc : (check.trial .check c r).holds = true)
      (he : (check.leaves c r).time.err c = some e) :
    Tried c r .cancelled (check.leaves c r) [check.trial .check c r]
  | retried (hc : (check.trial .check c r).holds = true)
      (hl : (check.leaves c r).time.err c = none)
      (hf : (condition.trial .condition c (check.leaves c r)).holds = false) :
    Tried c r (.retry (condition.trial .condition c (check.leaves c r)).reason)
      (condition.leaves c (check.leaves c r))
      [check.trial .check c r, condition.trial .condition c (check.leaves c r)]
  | done (hc : (check.trial .check c r).holds = true)
      (hl : (check.leaves c r).time.err c = none)
      (hf : (condition.trial .condition c (check.leaves c r)).holds = true) :
    Tried c r (.done ()) (condition.leaves c (check.leaves c r))
      [check.trial .check c r, condition.trial .condition c (check.leaves c r)]

variable {check condition}

theorem tried {c : Context} {r : Run σ} (hl : r.time.err c = none) :
    Tried check condition c r (checkThenCondition check condition c r).1
      (checkThenCondition check condition c r).2 (entries check condition c r) := by
  unfold checkThenCondition entries
  rw [evaluate_of_live hl .check, Assertion.trials_of_live hl]
  cases hc : (check.trial .check c r).holds with
  | false => exact .stopped hc
  | true =>
    simp only [if_true]
    cases he : (check.leaves c r).time.err c with
    | some e =>
      rw [evaluate_of_ended he, Assertion.trials_of_ended he]
      exact .cutOff hc he
    | none =>
      rw [evaluate_of_live he .condition, Assertion.trials_of_live he]
      cases hf : (condition.trial .condition c (check.leaves c r)).holds with
      | false => exact .retried hc he hf
      | true => exact .done hc he hf

/-! ### What an attempt adds to the log -/

section Tried
variable {interval : Nat} {c : Context} {opening : Timeline} {r left : Run σ} {d : Attempt Unit}
  {log es : List Trial} (h : Tried check condition c r d left es)
include h

/-- **An attempt keeps to the protocol.** -/
theorem Tried.protocol (hl : r.time.err c = none) (hp : Protocol interval c opening log)
    (hd : due interval opening log = some (.check, r.time)) :
    Protocol interval c opening (log ++ es) := by
  have one : Protocol interval c opening (log ++ [check.trial .check c r]) := .trial hp hd hl rfl
  have two (hc : (check.trial .check c r).holds = true)
      (hl' : (check.leaves c r).time.err c = none) :
      Protocol interval c opening (log ++ [check.trial .check c r,
        condition.trial .condition c (check.leaves c r)]) := by
    rw [List.append_cons]
    exact .trial one (by rw [due_append, Trial.next_check rfl hc]; rfl) hl' rfl
  cases h with
  | stopped hc => exact one
  | cutOff hc he => exact one
  | retried hc hl' hf => exact two hc hl'
  | done hc hl' hf => exact two hc hl'

/-- It evaluates the check once. -/
theorem Tried.checks_append : checks (log ++ es) = checks log + 1 := by
  rw [ClusterWait.checks_append]
  cases h <;> rfl

/-- It leaves what its last trial leaves. -/
theorem Tried.closing_append : closing opening (log ++ es) = left.time := by
  cases h with
  | stopped hc => exact ClusterWait.closing_append
  | cutOff hc he => exact ClusterWait.closing_append
  | retried hc hl hf => rw [List.append_cons]; exact ClusterWait.closing_append
  | done hc hl hf => rw [List.append_cons]; exact ClusterWait.closing_append

end Tried

section Decisions
variable {c : Context} {r left : Run σ} {m : String} {es : List Trial}

/-- After an attempt that asks for another the check is due at the tick. -/
theorem Tried.of_retry (h : Tried check condition c r (.retry m) left es) (interval : Nat)
    (opening : Timeline) (log : List Trial) :
    due interval opening (log ++ es) = some (.check, left.time.advance interval) ∧
      lastReason (log ++ es) = some m := by
  cases h with
  | retried hc hl hf =>
    rw [List.append_cons, due_append, lastReason_append_failed rfl hf, Trial.next_condition rfl hf]
    exact ⟨rfl, rfl⟩

/-- After one that is cut off the condition is due, but its context has ended. -/
theorem Tried.of_cancelled (h : Tried check condition c r .cancelled left es) (interval : Nat)
    (opening : Timeline) (log : List Trial) :
    due interval opening (log ++ es) = some (.condition, left.time) ∧
      lastReason (log ++ es) = lastReason log ∧ ∃ e, left.time.err c = some e := by
  cases h with
  | cutOff hc he =>
    rw [due_append, lastReason_append_check rfl, Trial.next_check rfl hc]
    exact ⟨rfl, rfl, _, he⟩

/-- One that stops ends with a check that failed. -/
theorem Tried.of_stop (h : Tried check condition c r (.stop m) left es) (log : List Trial) :
    ∃ t, (log ++ es).getLast? = some t ∧ t.role = .check ∧ t.holds = false ∧ t.reason = m := by
  cases h with
  | stopped hc => exact ⟨_, List.getLast?_concat, rfl, hc, rfl⟩

/-- One that succeeds ends with a condition that held. -/
theorem Tried.of_done (h : Tried check condition c r (.done ()) left es) (log : List Trial) :
    ∃ t, (log ++ es).getLast? = some t ∧ t.role = .condition ∧ t.holds = true := by
  cases h with
  | done hc hl hf => exact ⟨_, by rw [List.append_cons, List.getLast?_concat], rfl, hf⟩

end Decisions

end ClusterWait
