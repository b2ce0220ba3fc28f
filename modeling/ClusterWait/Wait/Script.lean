import ClusterWait.Wait.CheckUntil

/-! # Scripted attempts

A *script* says for each attempt what it does, how long it takes and what it decides; its last step
repeats. Attempts and evaluations run from a script leave a log of when they started.

* `Step`: an attempt, `Step.run` performs it.
* `attemptOf`: the attempts of a script, for `Poll.untilDone`.
* `assertionOf`: the evaluations of a script, for `checkUntil`. -/

namespace ClusterWait.Script

/-- A context that a step cancels: the one it was given, or the root of the caller's chain. -/
inductive Target where
  | given
  | root
deriving Repr, DecidableEq

/-- **A step of a script:** what it cancels, how long it then takes, and its outcome. -/
structure Step (α : Type) where
  cancels : Option Target
  delay : Nat
  outcome : α
deriving Repr

def Step.perform {σ α : Type} (s : Step α) (root given : Context) : Act σ α := do
  match s.cancels with
  | none => pure ()
  | some .given => Act.cancel given
  | some .root => Act.cancel root
  Act.sleep s.delay
  pure s.outcome

/-- The step of a script for the evaluation with the given number, the last one for all beyond. -/
def stepAt {α : Type} : List (Step α) → Nat → Option (Step α)
  | [], _ => none
  | [s], _ => some s
  | s :: _, 0 => some s
  | _ :: rest, n + 1 => stepAt rest n

/-- Where an attempt started and what was left of its context then. -/
structure Started where
  instant : Nat
  remaining : Option Nat
deriving Repr, DecidableEq

/-- **The attempts of a script.** A script without steps decides nothing and is tried again. -/
def attemptOf {α : Type} (steps : List (Step (Attempt α))) (root : Context) (given : Context) :
    Act (List Started) (Attempt α) := fun r =>
  let number := r.world.length
  let r := { r with world := r.world ++ [⟨r.time.now, r.time.remaining given⟩] }
  match stepAt steps number with
  | none => (.retry "", r)
  | some s => s.perform root given r

/-- Which of the two assertions of a wait was evaluated. -/
inductive Role where
  | check
  | condition
deriving Repr, DecidableEq

/-- An evaluation that was started: of which assertion, when, and whether its sink was empty. -/
structure Evaluated where
  role : Role
  instant : Nat
  sinkEmpty : Bool
deriving Repr, DecidableEq

structure Verdict where
  holds : Bool
  reasons : List String
deriving Repr, DecidableEq

/-- **The evaluations of a script.** A script without steps fails and gives no reason. -/
def assertionOf (role : Role) (steps : List (Step Verdict)) (root : Context) :
    Assertion (List Evaluated) := fun given sink r =>
  let number := (r.world.filter (·.role = role)).length
  let r := { r with world := r.world ++ [⟨role, r.time.now, !sink.failed⟩] }
  match stepAt steps number with
  | none => ((false, sink), r)
  | some s =>
    let (verdict, r) := s.perform root given r
    ((verdict.holds, verdict.reasons.foldl Sink.record sink), r)

end ClusterWait.Script
