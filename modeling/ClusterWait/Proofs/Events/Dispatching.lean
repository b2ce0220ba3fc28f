import ClusterWait.Events.Dispatcher
import Mathlib.Tactic.Common

/-! # A dispatch, visit by visit

Handlers change the very registrations that a dispatch goes through: they register others and turn
switches. What a dispatch comes to is told by its *visits*, one for each registration that was there
when it began (`Dispatcher.visits`). A visit finds the switch as the commands before it left it
(`Command.turn`), and adds commands of its own if the handler runs.

* `Command.registered`: what commands register. Registrations are those that were there, with their
  switches turned, followed by these (`registrations_foldl_obey`).
* `Visit.Judged`: what a visit comes to, by the switch and the handler's own judgement.
* `Behaviour.watched`: handlers that note down when they are asked and when they run. Their notes are
  those of the visits (`visitAll_watched`).
* `Dispatcher.record`: the commands that a sequence of calls carries out.

`dispatch_follows_visits` puts this together: the list is read once, the switches are read live. -/

namespace ClusterWait

variable {ε κ ω : Type}

/-! ### Registrations and commands -/

/-- The switch of the registration at a position after a command. -/
def Command.turn (position : Nat) (enabled : Bool) : Command κ → Bool
  | .register .. => enabled
  | .switch p on => if p = position then on else enabled

/-- **The registration after some commands,** at its position. -/
def Registration.turned (commands : List (Command κ)) (position : Nat) (r : Registration κ) :
    Registration κ :=
  { r with enabled := commands.foldl (Command.turn position) r.enabled }

/-- **What some commands register,** each with its switch as the rest of them leaves it. The first of
them is registered at the given position. -/
def Command.registered (position : Nat) : List (Command κ) → List (Registration κ)
  | [] => []
  | .register handler enabled :: rest =>
    Registration.turned rest position ⟨handler, enabled⟩ :: registered (position + 1) rest
  | .switch .. :: rest => registered position rest

/-- The handler that a command registers. -/
def Command.handler? : Command κ → Option κ
  | .register handler _ => some handler
  | .switch .. => none

theorem handler_registered (position : Nat) (commands : List (Command κ)) :
    (Command.registered position commands).map (·.handler) = commands.filterMap Command.handler? := by
  induction commands generalizing position with
  | nil => rfl
  | cons c rest ih =>
    cases c with
    | register handler enabled => exact congrArg (handler :: ·) (ih (position + 1))
    | switch p on => exact ih position

theorem handler_mapIdx_turned (commands : List (Command κ)) (rs : List (Registration κ)) :
    (rs.mapIdx (Registration.turned commands)).map (·.handler) = rs.map (·.handler) := by
  apply List.ext_getElem?
  intro i
  rw [List.getElem?_map, List.getElem?_mapIdx, List.getElem?_map, Option.map_map]
  rfl

theorem turned_switch (p : Nat) (on : Bool) (rest : List (Command κ)) (position : Nat)
    (r : Registration κ) : r.turned (.switch p on :: rest) position =
      Registration.turned rest position (if p = position then { r with enabled := on } else r) := by
  simp only [Registration.turned, List.foldl_cons, Command.turn]
  split <;> rfl

theorem turned_append (first rest : List (Command κ)) (position : Nat) (r : Registration κ) :
    r.turned (first ++ rest) position = (r.turned first position).turned rest position := by
  simp only [Registration.turned, List.foldl_append]

theorem mapIdx_turned_modify (position : Nat) (on : Bool) (rest : List (Command κ))
    (rs : List (Registration κ)) :
    (rs.modify position fun r => { r with enabled := on }).mapIdx (Registration.turned rest) =
      rs.mapIdx (Registration.turned (.switch position on :: rest)) := by
  apply List.ext_getElem?
  intro i
  rw [List.getElem?_mapIdx, List.getElem?_modify, List.getElem?_mapIdx]
  cases rs[i]? with
  | none => rfl
  | some r => simp only [Option.map_eq_map, Option.map_some, turned_switch]

namespace Dispatcher

@[simp] theorem size_register (d : Dispatcher κ ω) (handler : κ) (enabled : Bool) :
    (d.register handler enabled).size = d.size + 1 := by
  simp [size, register]

@[simp] theorem size_switch (d : Dispatcher κ ω) (position : Nat) (on : Bool) :
    (d.switch position on).size = d.size := by
  simp [size, switch]

/-- **Commands keep what is registered in its order,** turn its switches, and add what they register. -/
theorem registrations_foldl_obey (commands : List (Command κ)) (d : Dispatcher κ ω) :
    (commands.foldl obey d).registrations =
      d.registrations.mapIdx (Registration.turned commands) ++
        Command.registered d.size commands := by
  induction commands generalizing d with
  | nil =>
    rw [Command.registered, List.append_nil, List.foldl_nil]
    apply List.ext_getElem?
    intro i
    rw [List.getElem?_mapIdx]
    cases d.registrations[i]? <;> rfl
  | cons c rest ih =>
    rw [List.foldl_cons, ih]
    cases c with
    | register handler enabled =>
      have hadd : (d.obey (.register handler enabled)).registrations =
          d.registrations ++ [⟨handler, enabled⟩] := rfl
      have hsize : (d.obey (.register handler enabled)).size = d.size + 1 :=
        d.size_register handler enabled
      rw [hadd, hsize, List.mapIdx_concat, List.append_assoc]
      rfl
    | switch p on =>
      have hsize : (d.obey (.switch p on)).size = d.size := d.size_switch p on
      rw [hsize, ← mapIdx_turned_modify]
      rfl

theorem world_foldl_obey (commands : List (Command κ)) (d : Dispatcher κ ω) :
    (commands.foldl obey d).world = d.world := by
  induction commands generalizing d with
  | nil => rfl
  | cons c rest ih =>
    rw [List.foldl_cons, ih]
    cases c <;> rfl

end Dispatcher

/-! ### Visits -/

/-- **A visit of an event:** the handler, its switch and the world at that moment; the commands of the
handler, if it ran, and the world that is left. -/
structure Visit (κ ω : Type) where
  handler : κ
  enabled : Bool
  met : ω
  commands? : Option (List (Command κ))
  left : ω

namespace Visit

def ran (v : Visit κ ω) : Bool := v.commands?.isSome

/-- What the handler asked for, nothing if it did not run. -/
def commands (v : Visit κ ω) : List (Command κ) := v.commands?.getD []

/-- The commands that some visits carry out. -/
def carriedOut (visits : List (Visit κ ω)) : List (Command κ) := visits.flatMap commands

/-- The world that some visits leave. -/
def leaves (world : ω) (visits : List (Visit κ ω)) : ω := visits.foldl (fun _ v => v.left) world

/-- **What a visit comes to.** -/
inductive Judged (b : Behaviour ε κ ω) (event : ε) : Visit κ ω → Prop
  /-- A handler that is switched off is not asked. -/
  | off {handler : κ} {world : ω} : Judged b event ⟨handler, false, world, none, world⟩
  /-- One that is switched on is asked, and may refuse the event; -/
  | refused {handler : κ} {world asked : ω} (hc : b.consult handler event world = (false, asked)) :
    Judged b event ⟨handler, true, world, none, asked⟩
  /-- else it runs. -/
  | ran {handler : κ} {world asked left : ω} {commands : List (Command κ)}
    (hc : b.consult handler event world = (true, asked))
    (hr : b.run handler event asked = (commands, left)) :
    Judged b event ⟨handler, true, world, some commands, left⟩

/-- A handler runs if it is switched on when it is reached and accepts the event, and only then. -/
theorem Judged.ran_iff {b : Behaviour ε κ ω} {event : ε} {v : Visit κ ω} (h : v.Judged b event) :
    v.ran = true ↔ v.enabled = true ∧ (b.consult v.handler event v.met).1 = true := by
  cases h with
  | off => simp [Visit.ran]
  | refused hc => simp [Visit.ran, hc]
  | ran hc _ => simp [Visit.ran, hc]

end Visit

/-- **The visit of an event** to a registration. -/
def Registration.visited (b : Behaviour ε κ ω) (event : ε) (world : ω) (r : Registration κ) :
    Visit κ ω :=
  if r.enabled then
    match b.consult r.handler event world with
    | (false, asked) => ⟨r.handler, true, world, none, asked⟩
    | (true, asked) =>
      let (commands, left) := b.run r.handler event asked
      ⟨r.handler, true, world, some commands, left⟩
  else ⟨r.handler, false, world, none, world⟩

section Visited
variable (b : Behaviour ε κ ω) (event : ε) (world : ω) (r : Registration κ)

theorem Registration.judged_visited : (r.visited b event world).Judged b event := by
  obtain ⟨handler, enabled⟩ := r
  unfold visited
  cases enabled with
  | false => exact .off
  | true =>
    simp only [if_true]
    split
    · next hc => exact .refused hc
    · next hc => exact .ran hc rfl

theorem Registration.handler_visited : (r.visited b event world).handler = r.handler := by
  unfold visited
  split
  · split <;> rfl
  · rfl

theorem Registration.enabled_visited : (r.visited b event world).enabled = r.enabled := by
  unfold visited
  split
  · next h => split <;> exact h.symm
  · next h => exact (Bool.eq_false_iff.mpr h).symm

theorem Registration.met_visited : (r.visited b event world).met = world := by
  unfold visited
  split
  · split <;> rfl
  · rfl

end Visited

namespace Dispatcher

section Visits
variable (b : Behaviour ε κ ω) (event : ε)

/-- What becomes of a dispatcher by a visit. -/
def visitedBy (d : Dispatcher κ ω) (v : Visit κ ω) : Dispatcher κ ω :=
  v.commands.foldl obey { d with world := v.left }

theorem visit_eq {d : Dispatcher κ ω} {position : Nat} {r : Registration κ}
    (h : d.registrations[position]? = some r) :
    d.visit b event position =
      ((r.visited b event d.world).ran, d.visitedBy (r.visited b event d.world)) := by
  obtain ⟨handler, enabled⟩ := r
  simp only [visit, h, Registration.visited]
  cases enabled with
  | false => rfl
  | true =>
    simp only [if_true]
    rcases b.consult handler event d.world with ⟨accepts, asked⟩
    cases accepts <;> rfl

/-- **The visits of an event** to the registrations at some positions. -/
def visitsAt (d : Dispatcher κ ω) : List Nat → List (Visit κ ω)
  | [] => []
  | position :: rest =>
    (d.registrations[position]?.map (Registration.visited b event d.world)).toList ++
      (d.visit b event position).2.visitsAt rest

/-- **The visits of a dispatch.** -/
def visits (d : Dispatcher κ ω) : List (Visit κ ω) := d.visitsAt b event (List.range d.size)

/-! ### What the visits come to -/

theorem visitsAt_cons {d : Dispatcher κ ω} {position : Nat} {r : Registration κ}
    (h : d.registrations[position]? = some r) (rest : List Nat) :
    d.visitsAt b event (position :: rest) = r.visited b event d.world ::
      (d.visitedBy (r.visited b event d.world)).visitsAt b event rest := by
  rw [visitsAt, h, visit_eq b event h]
  rfl

theorem foldl_obey_withWorld (commands : List (Command κ)) (d : Dispatcher κ ω) (world : ω) :
    { commands.foldl obey d with world } = commands.foldl obey { d with world } := by
  induction commands generalizing d with
  | nil => rfl
  | cons c rest ih =>
    rw [List.foldl_cons, ih, List.foldl_cons]
    cases c <;> rfl

/-- **The dispatcher after some visits.** -/
def after (d : Dispatcher κ ω) (visits : List (Visit κ ω)) : Dispatcher κ ω :=
  (Visit.carriedOut visits).foldl obey { d with world := Visit.leaves d.world visits }

theorem visitedBy_after (d : Dispatcher κ ω) (v : Visit κ ω) (rest : List (Visit κ ω)) :
    (d.visitedBy v).after rest = d.after (v :: rest) := by
  rw [after, after, visitedBy, foldl_obey_withWorld, world_foldl_obey]
  simp only [Visit.carriedOut, List.flatMap_cons, List.foldl_append]
  rfl

/-- **A dispatch comes to what its visits come to.** -/
theorem visitAll_eq (positions : List Nat) (d : Dispatcher κ ω) :
    d.visitAll b event positions = ((d.visitsAt b event positions).countP Visit.ran,
      d.after (d.visitsAt b event positions)) := by
  induction positions generalizing d with
  | nil => rfl
  | cons position rest ih =>
    cases hr : d.registrations[position]? with
    | none =>
      have hvisit : d.visit b event position = (false, d) := by simp [visit, hr]
      simp [visitAll, visitsAt, hvisit, hr, ih]
    | some r =>
      rw [visitAll, visitsAt_cons b event hr, visit_eq b event hr, List.countP_cons,
        ← visitedBy_after]
      simp only [ih, Nat.add_comm]

theorem registrations_after (d : Dispatcher κ ω) (visits : List (Visit κ ω)) :
    (d.after visits).registrations =
      d.registrations.mapIdx (Registration.turned (Visit.carriedOut visits)) ++
        Command.registered d.size (Visit.carriedOut visits) :=
  registrations_foldl_obey _ _

theorem world_after (d : Dispatcher κ ω) (visits : List (Visit κ ω)) :
    (d.after visits).world = Visit.leaves d.world visits :=
  world_foldl_obey _ _

theorem getElem?_after {d : Dispatcher κ ω} {position : Nat} {r : Registration κ}
    (visits : List (Visit κ ω)) (h : d.registrations[position]? = some r) :
    (d.after visits).registrations[position]? =
      some (r.turned (Visit.carriedOut visits) position) := by
  have hlt : position < d.registrations.length := (List.getElem?_eq_some_iff.mp h).1
  rw [registrations_after, List.getElem?_append_left (by rw [List.length_mapIdx]; exact hlt),
    List.getElem?_mapIdx, h]
  rfl

theorem exists_registration {d : Dispatcher κ ω} {position : Nat} (h : position < d.size) :
    ∃ r, d.registrations[position]? = some r :=
  ⟨_, List.getElem?_eq_getElem h⟩

theorem size_le_after (d : Dispatcher κ ω) (visits : List (Visit κ ω)) :
    d.size ≤ (d.after visits).size := by
  rw [size, size, registrations_after, List.length_append, List.length_mapIdx]
  exact Nat.le_add_right _ _

theorem after_singleton (d : Dispatcher κ ω) (v : Visit κ ω) : d.after [v] = d.visitedBy v :=
  (visitedBy_after d v []).symm

section Visits
variable {d : Dispatcher κ ω} {positions : List Nat} (h : ∀ p ∈ positions, p < d.size)
include h

theorem length_visitsAt : (d.visitsAt b event positions).length = positions.length := by
  induction positions generalizing d with
  | nil => rfl
  | cons position rest ih =>
    obtain ⟨r, hr⟩ := exists_registration (h position List.mem_cons_self)
    rw [visitsAt_cons b event hr, List.length_cons, List.length_cons, ih fun p hp => ?_]
    rw [← after_singleton]
    exact Nat.lt_of_lt_of_le (h p (List.mem_cons_of_mem _ hp)) (d.size_le_after _)

/-- **A visit finds the registration as the visits before it left it.** -/
theorem visitsAt_eq_append_cons {before after : List (Visit κ ω)} {v : Visit κ ω}
    (hv : d.visitsAt b event positions = before ++ v :: after) :
    ∃ p r, positions[before.length]? = some p ∧ d.registrations[p]? = some r ∧
      v = (r.turned (Visit.carriedOut before) p).visited b event (Visit.leaves d.world before) := by
  induction positions generalizing d before with
  | nil => cases before <;> cases hv
  | cons position rest ih =>
    obtain ⟨r, hr⟩ := exists_registration (h position List.mem_cons_self)
    rw [visitsAt_cons b event hr] at hv
    cases before with
    | nil => exact ⟨position, r, rfl, hr, (List.cons.inj hv).1.symm⟩
    | cons first before =>
      -- the later visits are those of the dispatcher that the first one leaves
      obtain ⟨hfirst, hrest⟩ := List.cons.inj hv
      rw [hfirst, ← after_singleton] at hrest
      have hlater : ∀ p ∈ rest, p < (d.after [first]).size := fun p hp =>
        Nat.lt_of_lt_of_le (h p (List.mem_cons_of_mem _ hp)) (d.size_le_after _)
      obtain ⟨p, r', hp, hr', rfl⟩ := ih hlater hrest
      obtain ⟨r₀, hr₀⟩ := exists_registration (h p (List.mem_cons_of_mem _ (List.mem_of_getElem? hp)))
      rw [getElem?_after [first] hr₀, Option.some.injEq] at hr'
      refine ⟨p, r₀, hp, hr₀, ?_⟩
      rw [← hr', ← turned_append, world_after]
      simp [Visit.carriedOut, Visit.leaves]

end Visits

variable (d : Dispatcher κ ω)

/-- The visits of a dispatch are to the registrations that were there, in their order. -/
theorem visits_eq_append_cons {before after : List (Visit κ ω)} {v : Visit κ ω}
    (hv : d.visits b event = before ++ v :: after) :
    ∃ r, d.registrations[before.length]? = some r ∧
      v = (r.turned (Visit.carriedOut before) before.length).visited b event
        (Visit.leaves d.world before) := by
  obtain ⟨p, r, hp, hr, h⟩ := visitsAt_eq_append_cons b event (fun p hp => List.mem_range.mp hp) hv
  obtain rfl : before.length = p := by
    obtain ⟨hlt, hget⟩ := List.getElem?_eq_some_iff.mp hp
    rwa [List.getElem_range] at hget
  exact ⟨r, hr, h⟩

theorem handler_visits : (d.visits b event).map (·.handler) = d.registrations.map (·.handler) := by
  have hlen : (d.visits b event).length = d.registrations.length := by
    rw [visits, length_visitsAt b event fun p hp => List.mem_range.mp hp, List.length_range, size]
  apply List.ext_getElem (by rw [List.length_map, List.length_map, hlen])
  intro k hk hk'
  rw [List.length_map] at hk hk'
  have hsplit : d.visits b event =
      (d.visits b event).take k ++ (d.visits b event)[k] :: (d.visits b event).drop (k + 1) := by
    rw [← List.drop_eq_getElem_cons hk, List.take_append_drop]
  obtain ⟨r, hr, hv⟩ := d.visits_eq_append_cons b event hsplit
  rw [List.length_take, Nat.min_eq_left (Nat.le_of_lt hk), List.getElem?_eq_getElem hk',
    Option.some.injEq] at hr
  rw [List.getElem_map, List.getElem_map, hv, Registration.handler_visited, hr]
  rfl

/-- **A dispatch does what its visits come to,** and counts the handlers that ran. -/
theorem dispatch_eq : d.dispatch b event =
    ((d.visits b event).countP Visit.ran, d.after (d.visits b event)) :=
  visitAll_eq b event _ d

end Visits

end Dispatcher

/-! ### Handlers that are watched -/

/-- A handler was asked, or ran. -/
inductive Note (κ : Type) where
  | asked (handler : κ)
  | ran (handler : κ)
deriving Repr, DecidableEq

/-- **The same handlers,** which note down when they are asked and when they run. -/
def Behaviour.watched (b : Behaviour ε κ ω) : Behaviour ε κ (ω × List (Note κ)) where
  consult handler event world :=
    let (accepts, left) := b.consult handler event world.1
    (accepts, left, world.2 ++ [.asked handler])
  run handler event world :=
    let (commands, left) := b.run handler event world.1
    (commands, left, world.2 ++ [.ran handler])

/-- What is noted down of a visit. -/
def Visit.notes (v : Visit κ ω) : List (Note κ) :=
  if v.enabled then .asked v.handler :: (if v.ran then [.ran v.handler] else []) else []

/-- The visit with the notes that were made before and in it. -/
def Visit.noting (notes : List (Note κ)) (v : Visit κ ω) : Visit κ (ω × List (Note κ)) where
  handler := v.handler
  enabled := v.enabled
  met := (v.met, notes)
  commands? := v.commands?
  left := (v.left, notes ++ v.notes)

theorem Registration.visited_watched (b : Behaviour ε κ ω) (event : ε) (world : ω)
    (notes : List (Note κ)) (r : Registration κ) :
    r.visited b.watched event (world, notes) = (r.visited b event world).noting notes := by
  obtain ⟨handler, enabled⟩ := r
  unfold visited
  cases enabled with
  | false => simp [Visit.noting, Visit.notes]
  | true =>
    cases hc : b.consult handler event world with
    | mk accepts asked =>
      cases accepts <;> simp [Behaviour.watched, hc, Visit.noting, Visit.notes, Visit.ran]

namespace Dispatcher

/-- The dispatcher with notes beside its world. -/
def noting (d : Dispatcher κ ω) (notes : List (Note κ)) : Dispatcher κ (ω × List (Note κ)) :=
  ⟨d.registrations, (d.world, notes)⟩

theorem foldl_obey_noting (commands : List (Command κ)) (d : Dispatcher κ ω) (notes : List (Note κ)) :
    commands.foldl obey (d.noting notes) = (commands.foldl obey d).noting notes := by
  induction commands generalizing d with
  | nil => rfl
  | cons c rest ih =>
    rw [List.foldl_cons, List.foldl_cons, ← ih]
    cases c <;> rfl

theorem visit_watched (b : Behaviour ε κ ω) (event : ε) (d : Dispatcher κ ω) (position : Nat)
    (notes : List (Note κ)) : (d.noting notes).visit b.watched event position =
      ((d.visit b event position).1, (d.visit b event position).2.noting
        (notes ++ (d.visitsAt b event [position]).flatMap Visit.notes)) := by
  cases hr : d.registrations[position]? with
  | none =>
    have hr' : (d.noting notes).registrations[position]? = none := hr
    simp [visit, visitsAt, hr, hr']
  | some r =>
    have hr' : (d.noting notes).registrations[position]? = some r := hr
    rw [visit_eq _ _ hr', visit_eq _ _ hr, visitsAt_cons _ _ hr]
    have hvisited : r.visited b.watched event (d.noting notes).world =
        (r.visited b event d.world).noting notes := r.visited_watched b event d.world notes
    have hleft : (d.noting notes).visitedBy ((r.visited b event d.world).noting notes) =
        (d.visitedBy (r.visited b event d.world)).noting
          (notes ++ (r.visited b event d.world).notes) :=
      foldl_obey_noting _ { d with world := (r.visited b event d.world).left } _
    rw [hvisited, hleft]
    simp [visitsAt, Visit.noting, Visit.ran]

/-- **Handlers that are watched do the same,** and note down what their visits tell. -/
theorem visitAll_watched (b : Behaviour ε κ ω) (event : ε) (positions : List Nat)
    (d : Dispatcher κ ω) (notes : List (Note κ)) :
    (d.noting notes).visitAll b.watched event positions =
      ((d.visitAll b event positions).1, (d.visitAll b event positions).2.noting
        (notes ++ (d.visitsAt b event positions).flatMap Visit.notes)) := by
  induction positions generalizing d notes with
  | nil => simp [visitAll, visitsAt]
  | cons position rest ih =>
    simp only [visitAll, visit_watched, ih]
    simp [visitsAt]

end Dispatcher

/-! ### Calls -/

/-- **A call on a dispatcher:** a handler is registered, which starts switched off, a switch is turned,
or an event is dispatched. -/
inductive Call (ε κ : Type) where
  | register (handler : κ)
  | switch (position : Nat) (enabled : Bool)
  | dispatch (event : ε)

namespace Dispatcher

variable (b : Behaviour ε κ ω)

/-- Carries out a call. -/
def call (d : Dispatcher κ ω) : Call ε κ → Dispatcher κ ω
  | .register handler => d.register handler false
  | .switch position enabled => d.switch position enabled
  | .dispatch event => (d.dispatch b event).2

/-- The commands that a call carries out, by itself or by the handlers that run. -/
def commandsOf (d : Dispatcher κ ω) : Call ε κ → List (Command κ)
  | .register handler => [.register handler false]
  | .switch position enabled => [.switch position enabled]
  | .dispatch event => Visit.carriedOut (d.visits b event)

/-- **The commands that some calls carry out,** in their order. -/
def record (d : Dispatcher κ ω) : List (Call ε κ) → List (Command κ)
  | [] => []
  | c :: rest => d.commandsOf b c ++ (d.call b c).record rest

theorem registrations_congr {d d' : Dispatcher κ ω} (h : d.registrations = d'.registrations)
    (commands : List (Command κ)) :
    (commands.foldl obey d).registrations = (commands.foldl obey d').registrations := by
  rw [registrations_foldl_obey, registrations_foldl_obey, size, size, h]

/-- **Calls leave the registrations that their commands leave.** -/
theorem registrations_foldl_call (calls : List (Call ε κ)) (d : Dispatcher κ ω) :
    (calls.foldl (call b) d).registrations = ((d.record b calls).foldl obey d).registrations := by
  induction calls generalizing d with
  | nil => rfl
  | cons c rest ih =>
    have hcall : (d.call b c).registrations = ((d.commandsOf b c).foldl obey d).registrations := by
      cases c with
      | register handler => rfl
      | switch position enabled => rfl
      | dispatch event =>
        have hsame : (Dispatcher.mk d.registrations
            (Visit.leaves d.world (d.visits b event))).registrations = d.registrations := rfl
        rw [call, dispatch_eq]
        exact registrations_congr hsame _
    rw [List.foldl_cons, ih, record, List.foldl_append]
    exact registrations_congr hcall _

end Dispatcher

/-! ### The main result -/

/-- **What a dispatch comes to,** and what calls make of the registrations. -/
structure FollowsVisits (b : Behaviour ε κ ω) (event : ε) (d : Dispatcher κ ω) : Prop where
  /-- The event visits the registrations that were there when its dispatch began, each once and in
  their order. -/
  visited : (d.visits b event).map (·.handler) = d.registrations.map (·.handler)
  /-- A visit finds its switch as the handlers that ran before it left it, -/
  switched : ∀ before v after, d.visits b event = before ++ v :: after →
    some v.enabled = d.registrations[before.length]?.map fun r =>
      (Visit.carriedOut before).foldl (Command.turn before.length) r.enabled
  /-- and the world as the visit before it left it. -/
  met : ∀ before v after, d.visits b event = before ++ v :: after →
    v.met = Visit.leaves d.world before
  /-- A handler that is switched off then is not asked, and one that refuses does not run; -/
  judged : ∀ v ∈ d.visits b event, v.Judged b event
  /-- so those run that are switched on then and accept the event. -/
  ran_iff : ∀ v ∈ d.visits b event,
    v.ran = true ↔ v.enabled = true ∧ (b.consult v.handler event v.met).1 = true
  /-- Handlers that are watched note down that they are asked and run at their visits, at no other
  time, and do the same besides. -/
  noted : (d.noting []).dispatch b.watched event =
    ((d.dispatch b event).1,
      (d.dispatch b event).2.noting ((d.visits b event).flatMap Visit.notes))
  /-- The handlers that ran are counted. -/
  counted : (d.dispatch b event).1 = (d.visits b event).countP Visit.ran
  /-- The registrations that were there keep their order, with their switches as they were turned, and
  those that were made come after them; -/
  registrations : (d.dispatch b event).2.registrations =
    d.registrations.mapIdx (Registration.turned (Visit.carriedOut (d.visits b event))) ++
      Command.registered d.size (Visit.carriedOut (d.visits b event))
  world : (d.dispatch b event).2.world = Visit.leaves d.world (d.visits b event)
  /-- the next event visits these too. -/
  next : ∀ event', ((d.dispatch b event).2.visits b event').map (·.handler) =
    d.registrations.map (·.handler) ++
      (Visit.carriedOut (d.visits b event)).filterMap Command.handler?
  /-- After any calls the registrations are those that were there, in their order and with their
  switches as they were turned, and after them those that were made, in theirs, -/
  kept : ∀ calls, (calls.foldl (Dispatcher.call b) d).registrations =
    d.registrations.mapIdx (Registration.turned (d.record b calls)) ++
      Command.registered d.size (d.record b calls)
  /-- each handler as often as it was registered. -/
  order : ∀ calls, (calls.foldl (Dispatcher.call b) d).registrations.map (·.handler) =
    d.registrations.map (·.handler) ++ (d.record b calls).filterMap Command.handler?

/-- **A dispatch goes through the list as it was and reads the switches as they are.** -/
theorem dispatch_follows_visits (b : Behaviour ε κ ω) (event : ε) (d : Dispatcher κ ω) :
    FollowsVisits b event d := by
  have hkept (calls : List (Call ε κ)) : (calls.foldl (Dispatcher.call b) d).registrations =
      d.registrations.mapIdx (Registration.turned (d.record b calls)) ++
        Command.registered d.size (d.record b calls) := by
    rw [Dispatcher.registrations_foldl_call, Dispatcher.registrations_foldl_obey]
  have hleft : (d.dispatch b event).2 = d.after (d.visits b event) := by
    rw [Dispatcher.dispatch_eq]
  have hjudged : ∀ v ∈ d.visits b event, v.Judged b event := fun v hv => by
    obtain ⟨before, after, hsplit⟩ := List.append_of_mem hv
    obtain ⟨r, -, rfl⟩ := d.visits_eq_append_cons b event hsplit
    exact Registration.judged_visited b event _ _
  refine ⟨d.handler_visits b event, fun before v after hsplit => ?_, fun before v after hsplit => ?_,
    hjudged, fun v hv => (hjudged v hv).ran_iff, ?_, ?_, ?_, ?_, fun event' => ?_, hkept,
    fun calls => ?_⟩
  · obtain ⟨r, hr, rfl⟩ := d.visits_eq_append_cons b event hsplit
    rw [Registration.enabled_visited, hr]
    rfl
  · obtain ⟨r, -, rfl⟩ := d.visits_eq_append_cons b event hsplit
    exact Registration.met_visited b event _ _
  · exact Dispatcher.visitAll_watched b event _ d []
  · rw [Dispatcher.dispatch_eq]
  · rw [hleft, Dispatcher.registrations_after]
  · rw [hleft, Dispatcher.world_after]
  · rw [Dispatcher.handler_visits, hleft, Dispatcher.registrations_after, List.map_append,
      handler_mapIdx_turned, handler_registered]
  · rw [hkept, List.map_append, handler_mapIdx_turned, handler_registered]

/-- A handler that turns the switches of the next two, and registers a third: the next one is not
asked, the one after it runs, and the new one runs at the next event. -/
example :
    let b : Behaviour Unit Nat (List Nat) :=
      ⟨fun _ _ world => (true, world), fun handler _ world =>
        (if handler = 0 then [.switch 1 false, .switch 2 true, .register 3 true] else [],
          world ++ [handler])⟩
    let first := (Dispatcher.mk [⟨0, true⟩, ⟨1, true⟩, ⟨2, false⟩] []).dispatch b ()
    let second := first.2.dispatch b ()
    first.1 = 2 ∧ first.2.world = [0, 2] ∧ second.1 = 3 ∧ second.2.world = [0, 2, 0, 2, 3] := by
  decide

end ClusterWait
