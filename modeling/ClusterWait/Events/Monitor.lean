import ClusterWait.Events.Autoscaler
import ClusterWait.Events.Dispatcher

/-! # Monitors: counting and logging events

A *monitor* is a dispatcher whose handlers are counters and loggers. A counter counts the events that
it accepts, in 32 bits; that of scale-ups also raises the flags of its groups, for every message that
it is asked about and not only for those that it counts. A logger writes down the events that it
accepts and may register a further logger each time; a recorder writes down all events.

Counters, loggers and groups have names. A name that is given again means the later one from then on, but the
earlier handler stays registered.

* `Handler`, `Board`, `monitoring`: the handlers, what they write to, and their behaviour.
* `Monitor` with `addGroups`, `addCounter`, `addLogger`, `addRecorder`, `switch`, `dispatch`. -/

namespace ClusterWait

/-- A filter on events: each given part has to agree. -/
structure EventFilter where
  reason : Option String := none
  kind : Option String := none
  name : Option String := none
deriving Repr, DecidableEq

def EventFilter.accepts (f : EventFilter) (e : Event) : Bool :=
  f.reason.all (fun v => e.reason == some v) && f.kind.all (fun v => e.involved.kind == some v)
    && f.name.all (fun v => e.involved.name == some v)

/-- **What a counter counts.** Scale-ups raise the flags of the groups at a position. -/
inductive CounterKind where
  | scaleUp (groups : Nat)
  | scaleDown
  | nodeLimit
  | custom (accepts : Event → Bool)

/-- A counter that only filters starts switched off, the others start switched on. -/
def CounterKind.startsEnabled : CounterKind → Bool
  | .custom _ => false
  | _ => true

/-- **A handler of a monitor.** A counter writes to a position, a logger may register another, a
recorder has a label but no name to switch it by. -/
inductive Handler where
  | counter (name : String) (position : Nat) (kind : CounterKind)
  | logger (name : String) (accepts : Event → Bool) (registers : Option String)
  | recorder (label : String)

/-- **What the handlers write to.** -/
structure Board where
  counts : List UInt32
  groups : List ScaledGroups
  log : List String
deriving DecidableEq

namespace Board

def observe (b : Board) (position : Nat) (message : String) : Board :=
  { b with groups := b.groups.modify position (·.observe message) }

def bump (b : Board) (position : Nat) : Board :=
  { b with counts := b.counts.modify position (· + 1) }

def note (b : Board) (label : String) (e : Event) : Board :=
  { b with log := b.log ++ [label ++ ":" ++ e.metadata.nameAny] }

end Board

/-- Whether a counter of the kind accepts an event. -/
def CounterKind.consult (kind : CounterKind) (e : Event) (b : Board) : Bool × Board :=
  match kind with
  | .scaleUp groups =>
    if e.reports .scaledUp then (startsScaleUp e.text, b.observe groups e.text) else (false, b)
  | .scaleDown => (e.reports .scaledDown, b)
  | .nodeLimit => (e.reports .nodeLimitReached, b)
  | .custom accepts => (accepts e, b)

/-- **What the handlers of a monitor do.** -/
def monitoring : Behaviour Event Handler Board where
  consult h e b := match h with
    | .counter _ _ kind => kind.consult e b
    | .logger _ accepts _ => (accepts e, b)
    | .recorder _ => (true, b)
  run h e b := match h with
    | .counter _ position _ => ([], b.bump position)
    | .logger name _ none => ([], b.note name e)
    | .logger name _ (some further) =>
      ([.register (.logger further (fun _ => true) none) true], b.note name e)
    | .recorder label => ([], b.note label e)

/-- **A monitor.** -/
structure Monitor where
  dispatcher : Dispatcher Handler Board
  groupNames : Dictionary Nat

namespace Monitor

def empty : Monitor := ⟨⟨[], ⟨[], [], []⟩⟩, .empty⟩

def board (m : Monitor) : Board := m.dispatcher.world

def withBoard (m : Monitor) (b : Board) : Monitor := { m with dispatcher.world := b }

/-- The position of new groups, and the monitor that has them. -/
def newGroups (m : Monitor) (names : List String) : Nat × Monitor :=
  (m.board.groups.length,
    m.withBoard { m.board with groups := m.board.groups ++ [.ofNames names] })

/-- **Adds groups under a name.** -/
def addGroups (m : Monitor) (name : String) (groups : List String) : Monitor :=
  let (position, m) := m.newGroups groups
  { m with groupNames := m.groupNames.insert name position }

/-- The position of the groups of a name; a name without groups has none, at a position of its
own. -/
def groupsOf (m : Monitor) (name : String) : Nat × Monitor :=
  match m.groupNames.get? name with
  | some position => (position, m)
  | none => m.newGroups []

/-- **Adds a counter** with a value to start from. -/
def addCounter (m : Monitor) (name : String) (kind : CounterKind) (start : UInt32) : Monitor :=
  let position := m.board.counts.length
  let m := m.withBoard { m.board with counts := m.board.counts ++ [start] }
  { m with dispatcher := m.dispatcher.register (.counter name position kind) kind.startsEnabled }

/-- **Adds a logger,** which starts switched off. -/
def addLogger (m : Monitor) (name : String) (accepts : Event → Bool) (registers : Option String) :
    Monitor :=
  { m with dispatcher := m.dispatcher.register (.logger name accepts registers) false }

/-- **Adds a recorder,** which starts switched on. -/
def addRecorder (m : Monitor) (label : String) : Monitor :=
  { m with dispatcher := m.dispatcher.register (.recorder label) true }

def lastPosition? {α : Type} (test : α → Bool) : List α → Option Nat
  | [] => none
  | x :: rest => match lastPosition? test rest with
    | some i => some (i + 1)
    | none => if test x then some 0 else none

def isCounter (name : String) : Handler → Bool
  | .counter n _ _ => n == name
  | _ => false

def isLogger (name : String) : Handler → Bool
  | .logger n _ _ => n == name
  | _ => false

/-- The position of the handler of a name, a counter before a logger. -/
def position? (m : Monitor) (name : String) : Option Nat :=
  (lastPosition? (fun r => isCounter name r.handler) m.dispatcher.registrations).or
    (lastPosition? (fun r => isLogger name r.handler) m.dispatcher.registrations)

/-- **Turns the switch of the handler of a name,** if there is one. -/
def switch (m : Monitor) (name : String) (enabled : Bool) : Option Monitor :=
  (m.position? name).map fun position =>
    { m with dispatcher := m.dispatcher.switch position enabled }

/-- **Dispatches an event;** how many handlers ran. -/
def dispatch (m : Monitor) (e : Event) : Nat × Monitor :=
  let (n, d) := m.dispatcher.dispatch monitoring e
  (n, { m with dispatcher := d })

/-- The values of the counters, by name. -/
def counters (m : Monitor) : Dictionary UInt32 :=
  .ofList (m.dispatcher.registrations.filterMap fun r => match r.handler with
    | .counter name position _ => (m.board.counts[position]?).map fun n => (name, n)
    | _ => none)

/-- The groups, by name. -/
def groups (m : Monitor) : List (String × ScaledGroups) :=
  m.groupNames.entries.filterMap fun e => (m.board.groups[e.2]?).map fun g => (e.1, g)

/-- The switches of the loggers, by name. -/
def switches (m : Monitor) : Dictionary Bool :=
  .ofList (m.dispatcher.registrations.filterMap fun r => match r.handler with
    | .logger name _ _ => some (name, r.enabled)
    | _ => none)

def shown (m : Monitor) : String :=
  "EventDispatcher \x7b handlers: " ++ Text.Decimal.render m.dispatcher.size ++ " \x7d"

end Monitor

end ClusterWait
