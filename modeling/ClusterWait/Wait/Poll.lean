import ClusterWait.Wait.WaitError

/-! # Polling: attempts until one succeeds

A *run* is a line of time together with a world of any kind. An *act* is a step of a run that always
ends, a *wait* one that may go on for ever.

`Poll.untilDone` makes attempts until one succeeds. The first starts at once, each further one the
interval after the last failed, and none once the context has ended: a tick that falls on the
deadline is too late. An attempt in progress is never interrupted, and what it decides counts, even
when the context ended meanwhile.

A wait whose context never ends may go on for ever, and so may one whose attempts take no time
between pauses that take none. A run therefore has a *patience*: the number of attempts that are
made beyond one for each millisecond up to the end of the context. A wait that needs more has no
result. With a positive interval and a context that ends the patience plays no part. -/

namespace ClusterWait

/-- **A run:** the line of time, the world, and how many attempts an endless wait is granted. -/
structure Run (σ : Type) where
  time : Timeline
  patience : Nat
  world : σ

/-- A step of a run that ends. -/
abbrev Act (σ : Type) := StateM (Run σ)

/-- A step of a run that ends or has no result. -/
abbrev Wait (σ : Type) := StateT (Run σ) Option

/-- A step that ends is a wait. -/
instance {σ : Type} : MonadLift (Act σ) (Wait σ) where
  monadLift act := fun r => some (act r)

namespace Act

variable {σ : Type}

def onTime {α : Type} (f : Timeline → α × Timeline) : Act σ α := fun r =>
  let (a, t) := f r.time
  (a, { r with time := t })

def now : Act σ Nat := fun r => (r.time.now, r)

def sleep (time : Nat) : Act σ Unit := fun r => ((), { r with time := r.time.advance time })

def cancel (c : Context) : Act σ Unit := fun r => ((), { r with time := r.time.cancel c })

def err (c : Context) : Act σ (Option Cancellation) := fun r => (r.time.err c, r)

def world : Act σ σ := fun r => (r.world, r)

end Act

/-- **What an attempt decides:** success with a value, another try, no further try, or that its
context has ended. -/
inductive Attempt (α : Type) where
  | done (value : α)
  | retry (reason : String)
  | stop (reason : String)
  | cancelled
deriving Repr, DecidableEq

def Attempt.map {α β : Type} (f : α → β) : Attempt α → Attempt β
  | .done v => .done (f v)
  | .retry m => .retry m
  | .stop m => .stop m
  | .cancelled => .cancelled

/-- **How to poll:** the time between attempts, and a bound of its own on the whole wait. -/
structure Poll where
  interval : Nat := 10
  timeout : Option Nat := none
deriving Repr, DecidableEq

/-- The time between attempts when none is asked for, in milliseconds. -/
def Poll.defaultInterval : Nat := 10

namespace Poll

variable {σ α : Type}

/-- The context that the attempts are given: the caller's, or a child that ends at the wait's own
bound. -/
def scope (p : Poll) (c : Context) : Act σ Context :=
  match p.timeout with
  | none => pure c
  | some timeout => Act.onTime fun l => l.childWithTimeout c timeout

/-- The attempts that are made before a wait is given up as endless: the run's patience, one for each
millisecond up to the end of the context, and one to find the context ended. -/
def budget (r : Run σ) (c : Context) : Nat :=
  r.patience + ((r.time.endOf c).getD r.time.now - r.time.now) + 1

/-- **The attempts of a wait,** of which `made` were made, the last failing for the given reason.
They are counted in 32 bits. -/
def attempts (interval : Nat) (c : Context) (attempt : Context → Act σ (Attempt α)) :
    (budget : Nat) → (made : UInt32) → (last : Option String) → Wait σ (Except WaitError α)
  | 0, _, _ => fun _ => none
  | budget + 1, made, last => fun r =>
    match r.time.err c with
    | some e => some (.error (.ofCancellation e made last), r)
    | none =>
      match attempt c r with
      | (.done v, r) => some (.ok v, r)
      | (.stop m, r) => some (.error (.stoppedTrying (made + 1) m), r)
      | (.cancelled, r) =>
        some (.error (.ofCancellation ((r.time.err c).getD .cancelled) (made + 1) last), r)
      | (.retry m, r) =>
        attempts interval c attempt budget (made + 1) (some m)
          { r with time := r.time.pause c interval }

/-- **Makes attempts until one succeeds.** -/
def untilDone (p : Poll) (c : Context) (attempt : Context → Act σ (Attempt α)) :
    Wait σ (Except WaitError α) := fun r =>
  let (c, r) := p.scope c r
  attempts p.interval c attempt (budget r c) 0 none r

end Poll

end ClusterWait
