/-! # Contexts: cancellation and deadlines on a line of time

Time is counted in whole milliseconds. A *context* bounds a piece of work: it carries a token, by
which it can be cancelled together with everything derived from it, and possibly a deadline.

* `Token`: a token knows its own number and those of its ancestors, so that the tree of contexts
  needs no table: `a.covers b` says that `b` is `a` or derived from it.
* `Timeline`: the clock, every explicit cancel with the instant from which it counts, and how many
  tokens exist. An instant may lie ahead, for a cancel that is still to happen.
* `Timeline.err c`: why `c` accepts no new work, if so. A cancel is reported before a deadline.
* `Timeline.endOf c`: the first instant at which `c` has ended, as far as the line knows now.
* `Timeline.pause`: waits for a tick or for the end of a context, whichever comes first.
* `Timeline.done`: waits for the end of a context, and tells what ended it. -/

namespace ClusterWait

inductive Cancellation where
  | cancelled
  | deadlineExceeded
deriving Repr, DecidableEq

def Cancellation.message : Cancellation → String
  | .cancelled => "context cancelled"
  | .deadlineExceeded => "context deadline exceeded"

/-- A token, by its own number and those of its ancestors, nearest first. -/
structure Token where
  lineage : List Nat
deriving Repr, DecidableEq

/-- The other token is this one or was derived from it. -/
def Token.covers (a b : Token) : Bool := a.lineage.isSuffixOf b.lineage

/-- **A context:** a token, and the instant after which no new work is accepted. -/
structure Context where
  token : Token
  deadline : Option Nat
deriving Repr, DecidableEq

structure Cancel where
  instant : Nat
  token : Token
deriving Repr, DecidableEq

/-- **The line of time:** the clock, the cancels, and the number of tokens made so far. -/
structure Timeline where
  now : Nat
  cancels : List Cancel
  tokens : Nat
deriving Repr, DecidableEq

namespace Timeline

def start : Timeline := ⟨0, [], 0⟩

/-! ### What a context is worth at this instant -/

/-- Some cancel of the token or of an ancestor counts at the instant. -/
def cancelledAt (l : Timeline) (t : Token) (instant : Nat) : Bool :=
  l.cancels.any fun c => c.instant ≤ instant && c.token.covers t

/-- **Why the context accepts no new work,** nothing while it is live. -/
def err (l : Timeline) (c : Context) : Option Cancellation :=
  if l.cancelledAt c.token l.now then some .cancelled
  else if c.deadline.any (· ≤ l.now) then some .deadlineExceeded
  else none

def ended (l : Timeline) (c : Context) : Bool := (l.err c).isSome

/-- The time left before the deadline, whether or not the context was cancelled. -/
def remaining (l : Timeline) (c : Context) : Option Nat := c.deadline.map (· - l.now)

/-- The earlier of two instants, of which either may be missing. -/
def earlier : Option Nat → Option Nat → Option Nat
  | none, b => b
  | a, none => a
  | some a, some b => some (min a b)

/-- The first instant from which a cancel of the token or of an ancestor counts. -/
def cancelInstant (l : Timeline) (t : Token) : Option Nat :=
  l.cancels.foldr (fun c first => if c.token.covers t then earlier (some c.instant) first else first)
    none

/-- **The first instant at which the context has ended,** by what the line holds now. -/
def endOf (l : Timeline) (c : Context) : Option Nat := earlier (l.cancelInstant c.token) c.deadline

/-! ### New contexts -/

def derive (l : Timeline) (parent : Token) : Token × Timeline :=
  (⟨l.tokens :: parent.lineage⟩, { l with tokens := l.tokens + 1 })

/-- A context without ancestors and without deadline. -/
def background (l : Timeline) : Context × Timeline :=
  let (t, l) := l.derive ⟨[]⟩
  (⟨t, none⟩, l)

/-- A context that is cancelled with its parent and has its deadline. -/
def child (l : Timeline) (parent : Context) : Context × Timeline :=
  let (t, l) := l.derive parent.token
  (⟨t, parent.deadline⟩, l)

/-- A child that also ends after the given time, if its parent's deadline is not earlier. -/
def childWithTimeout (l : Timeline) (parent : Context) (timeout : Nat) : Context × Timeline :=
  let (t, l') := l.derive parent.token
  (⟨t, earlier parent.deadline (some (l.now + timeout))⟩, l')

/-- A context without ancestors that ends after the given time. -/
def withTimeout (l : Timeline) (timeout : Nat) : Context × Timeline :=
  let (c, l) := l.background
  l.childWithTimeout c timeout

/-! ### Cancels and the passage of time -/

def cancelAt (l : Timeline) (c : Context) (instant : Nat) : Timeline :=
  { l with cancels := ⟨instant, c.token⟩ :: l.cancels }

def cancel (l : Timeline) (c : Context) : Timeline := l.cancelAt c l.now

def advance (l : Timeline) (time : Nat) : Timeline := { l with now := l.now + time }

/-- The instant at which a pause is over: the tick, or the end of the context when it comes no
later. -/
def wake (l : Timeline) (c : Context) (time : Nat) : Nat :=
  match l.endOf c with
  | none => l.now + time
  | some e => min (l.now + time) (max l.now e)

/-- **A pause** of the given time that the end of the context cuts short. -/
def pause (l : Timeline) (c : Context) (time : Nat) : Timeline := { l with now := l.wake c time }

/-! ### Waiting for the end of a context -/

/-- The instant at which a wait for a cancel of the token is over, at once if there was one. -/
def whenCancelled (l : Timeline) (t : Token) : Option Nat := (l.cancelInstant t).map (max l.now)

/-- The instant at which a sleep until another one is over, at once if that one has passed. -/
def whenReached (l : Timeline) (instant : Nat) : Nat := max l.now instant

/-- The one of two waits that is over first, with its instant; the first named where both are over at
once. -/
def firstOver {α : Type} : Option (Nat × α) → Option (Nat × α) → Option (Nat × α)
  | none, b => b
  | a, none => a
  | some a, some b => if a.1 ≤ b.1 then some a else some b

/-- **Waits for the end of the context.** The instant at which the wait is over, and what ended the
context; nothing if it never ends by what the line holds now. -/
def done (l : Timeline) (c : Context) : Option (Nat × Cancellation) :=
  let cancelled := (l.whenCancelled c.token).map (·, Cancellation.cancelled)
  match c.deadline with
  | some d => firstOver cancelled (some (l.whenReached d, .deadlineExceeded))
  | none => cancelled

end Timeline

end ClusterWait
