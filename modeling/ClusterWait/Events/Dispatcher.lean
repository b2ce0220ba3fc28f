/-! # Dispatching: events to the handlers that want them

A *dispatcher* keeps handlers in the order in which they were registered, each with a switch, and a
world that they share. An event visits the registrations that were there when its dispatch began, in
order. A handler runs when its switch is on at the moment of the visit and it accepts the event; a
handler that is switched off is not even asked.

A handler is a label of any type; what it does is told by a `Behaviour`. A handler that runs may
register others and turn any switch. Registrations are never removed, so that their position names
them for good, and those made during a dispatch take part in the next one.

* `Dispatcher.register`, `Dispatcher.switch`: the operations.
* `Dispatcher.visit`: one registration meets an event. `Dispatcher.dispatch`: all of them do. -/

namespace ClusterWait

/-- **A registration:** a handler and its switch. -/
structure Registration (κ : Type) where
  handler : κ
  enabled : Bool
deriving Repr, DecidableEq

/-- What a handler asks for when it runs. -/
inductive Command (κ : Type) where
  | register (handler : κ) (enabled : Bool)
  | switch (position : Nat) (enabled : Bool)
deriving Repr, DecidableEq

/-- **What handlers do:** whether one accepts an event, and what it does when it runs. Both may
change the world. -/
structure Behaviour (ε κ ω : Type) where
  consult : κ → ε → ω → Bool × ω
  run : κ → ε → ω → List (Command κ) × ω

/-- **A dispatcher:** the registrations in order, and the world of the handlers. -/
structure Dispatcher (κ ω : Type) where
  registrations : List (Registration κ)
  world : ω
deriving Repr, DecidableEq

namespace Dispatcher

variable {ε κ ω : Type}

def size (d : Dispatcher κ ω) : Nat := d.registrations.length

def register (d : Dispatcher κ ω) (handler : κ) (enabled : Bool) : Dispatcher κ ω :=
  { d with registrations := d.registrations ++ [⟨handler, enabled⟩] }

def switch (d : Dispatcher κ ω) (position : Nat) (enabled : Bool) : Dispatcher κ ω :=
  { d with registrations := d.registrations.modify position fun r => { r with enabled } }

def obey (d : Dispatcher κ ω) : Command κ → Dispatcher κ ω
  | .register handler enabled => d.register handler enabled
  | .switch position enabled => d.switch position enabled

/-- **The registration at a position meets an event;** whether its handler ran. -/
def visit (b : Behaviour ε κ ω) (event : ε) (d : Dispatcher κ ω) (position : Nat) :
    Bool × Dispatcher κ ω :=
  match d.registrations[position]? with
  | none => (false, d)
  | some r =>
    if r.enabled then
      match b.consult r.handler event d.world with
      | (false, world) => (false, { d with world })
      | (true, world) =>
        let (commands, world) := b.run r.handler event world
        (true, commands.foldl obey { d with world })
    else (false, d)

/-- The registrations at some positions meet an event in turn; how many handlers ran. -/
def visitAll (b : Behaviour ε κ ω) (event : ε) : List Nat → Dispatcher κ ω → Nat × Dispatcher κ ω
  | [], d => (0, d)
  | position :: rest, d =>
    let (ran, d) := d.visit b event position
    let (n, d) := visitAll b event rest d
    ((if ran then 1 else 0) + n, d)

/-- **All registrations meet an event;** how many handlers ran. -/
def dispatch (b : Behaviour ε κ ω) (event : ε) (d : Dispatcher κ ω) : Nat × Dispatcher κ ω :=
  visitAll b event (List.range d.size) d

end Dispatcher

end ClusterWait
