import ClusterWait.Wait.Poll
import ClusterWait.Wait.Sink

/-! # Waiting for a condition while a check holds

Every attempt evaluates the *check*, which has to hold throughout the wait, and then the *condition*
that the wait is for. A failed check ends the wait, even where the condition would have held; a
failed condition is tried again. Either is given a fresh sink for its reasons, and neither is
started once the context has ended.

* `Assertion`: an evaluation, which returns its verdict and the sink.
* `checkUntil`: the wait.
* `unrecordedFailure`: the reason of an evaluation that failed without giving one. -/

namespace ClusterWait

/-- **An assertion on the world:** an evaluation that is given a context and a sink, and returns
whether it holds and the sink with its reasons. -/
abbrev Assertion (σ : Type) := Context → Sink → Act σ (Bool × Sink)

def unrecordedFailure : String := "assertion returned false without recording a failure"

inductive Evaluation where
  | held
  | failed (reason : String)
  | cancelled
deriving Repr, DecidableEq

variable {σ : Type}

/-- Evaluates an assertion with a fresh sink, unless the context has ended. -/
def evaluate (c : Context) (assertion : Assertion σ) : Act σ Evaluation := fun r =>
  match r.time.err c with
  | some _ => (.cancelled, r)
  | none =>
    match assertion c .fresh r with
    | ((true, _), r) => (.held, r)
    | ((false, sink), r) => (.failed (sink.message?.getD unrecordedFailure), r)

/-- One attempt: the check, and if it holds the condition. -/
def checkThenCondition (check condition : Assertion σ) (c : Context) : Act σ (Attempt Unit) := fun r =>
  match evaluate c check r with
  | (.cancelled, r) => (.cancelled, r)
  | (.failed m, r) => (.stop m, r)
  | (.held, r) =>
    match evaluate c condition r with
    | (.cancelled, r) => (.cancelled, r)
    | (.failed m, r) => (.retry m, r)
    | (.held, r) => (.done (), r)

/-- A wait that was stopped was stopped by its check. -/
def WaitError.asCheckFailure : WaitError → WaitError
  | .stoppedTrying n m => .checkFailed n m
  | e => e

/-- **Waits for the condition while the check holds.** -/
def checkUntil (interval : Nat) (c : Context) (check condition : Assertion σ) :
    Wait σ (Except WaitError Unit) := fun r =>
  match Poll.untilDone { interval } c (checkThenCondition check condition) r with
  | none => none
  | some (.ok (), r) => some (.ok (), r)
  | some (.error e, r) => some (.error e.asCheckFailure, r)

/-- What a failed wait tells a caller that cannot go on without it. -/
def brokenExpectation (e : WaitError) : String :=
  "check failed or condition did not succeed before the context was cancelled: " ++ e.message

end ClusterWait
