import ClusterWait.Text.Quoted

/-! # Soft assertions

A *sink* collects the failures of one evaluation, so that all that went wrong is told at once.
Every assertion returns its outcome together with the sink: it records exactly one message when it
fails and leaves the sink as it was when it holds.

* `Sink.message?`: the failures in order, joined by semicolons; nothing when none was recorded.
* `fail`, `expect`, `expectEq`, `expectOk`, `expectSome`: the assertions. -/

namespace ClusterWait

/-- **The failures of one evaluation,** in the order in which they were recorded. -/
structure Sink where
  failures : List String
deriving Repr, DecidableEq

namespace Sink

/-- The sink of an evaluation that is about to begin. -/
def fresh : Sink := ⟨[]⟩

def failed (s : Sink) : Bool := !s.failures.isEmpty

/-- **All failures in one line,** if there is any. -/
def message? (s : Sink) : Option String :=
  if s.failures.isEmpty then none else some ("; ".intercalate s.failures)

def record (s : Sink) (message : String) : Sink := ⟨s.failures ++ [message]⟩

def fail (s : Sink) (message : String) : Bool × Sink := (false, s.record message)

def expect (s : Sink) (holds : Bool) (message : String) : Bool × Sink :=
  if holds then (true, s) else s.fail message

/-- An assertion that two values are equal by the test of their type, with the text that shows a
value. -/
def expectEq {α : Type} [BEq α] (s : Sink) (expected actual : α) (shown : α → String)
    (subject : String) : Bool × Sink :=
  s.expect (actual == expected)
    (subject ++ ": expected " ++ shown expected ++ ", got " ++ shown actual)

/-- An assertion that an operation succeeded; its value when it did. -/
def expectOk {ε α : Type} (s : Sink) (result : Except ε α) (shown : ε → String)
    (subject : String) : Option α × Sink :=
  match result with
  | .ok v => (some v, s)
  | .error e => (none, s.record (subject ++ ": " ++ shown e))

/-- An assertion that a value is there; the value when it is. -/
def expectSome {α : Type} (s : Sink) (value : Option α) (subject : String) : Option α × Sink :=
  match value with
  | some v => (some v, s)
  | none => (none, s.record (subject ++ ": expected a value, found none"))

end Sink

end ClusterWait
