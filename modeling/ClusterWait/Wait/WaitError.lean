import ClusterWait.Wait.Context
import ClusterWait.Text.Decimal

/-! # How a wait fails

* `checkFailed`: an invariant that has to hold throughout the wait did not.
* `stoppedTrying`: an attempt said that further ones are pointless.
* `cancelled`, `timedOut`: the context ended first; the reason of the last failed attempt is kept.

Each carries the number of attempts that were started. Numbers are told in 32 bits: one that runs
over begins anew at zero. -/

namespace ClusterWait

/-- **How a wait fails.** -/
inductive WaitError where
  | checkFailed (attempts : UInt32) (message : String)
  | stoppedTrying (attempts : UInt32) (message : String)
  | cancelled (attempts : UInt32) (last : Option String)
  | timedOut (attempts : UInt32) (last : Option String)
deriving Repr, DecidableEq

namespace WaitError

def ofCancellation (c : Cancellation) (attempts : UInt32) (last : Option String) : WaitError :=
  match c with
  | .cancelled => .cancelled attempts last
  | .deadlineExceeded => .timedOut attempts last

/-- The number of attempts that were started, in 32 bits. -/
def attempts : WaitError → UInt32
  | .checkFailed n _ | .stoppedTrying n _ | .cancelled n _ | .timedOut n _ => n

@[simp] theorem attempts_ofCancellation (c : Cancellation) (n : UInt32) (last : Option String) :
    (ofCancellation c n last).attempts = n := by
  cases c <;> rfl

def isCancellation : WaitError → Bool
  | .cancelled .. | .timedOut .. => true
  | _ => false

/-- The reason given by the attempt that decided, or by the last one that failed. -/
def detail : WaitError → Option String
  | .checkFailed _ m | .stoppedTrying _ m => some m
  | .cancelled _ last | .timedOut _ last => last

/-- The last reason after a colon, if there is one. -/
def trailer : Option String → String
  | none => ""
  | some m => ": " ++ m

def counted (n : UInt32) : String := Text.Decimal.render n.toNat ++ " attempt(s)"

/-- **The words for a failed wait.** -/
def message : WaitError → String
  | .checkFailed _ m => "check failed before condition succeeded: " ++ m
  | .stoppedTrying n m => "stopped trying after " ++ counted n ++ ": " ++ m
  | .cancelled _ last =>
    "condition did not succeed before the context was cancelled" ++ trailer last
  | .timedOut n last =>
    "condition did not succeed before the context was cancelled (deadline exceeded after "
      ++ counted n ++ ")" ++ trailer last

end WaitError

end ClusterWait
