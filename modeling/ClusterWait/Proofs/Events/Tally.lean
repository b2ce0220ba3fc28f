import ClusterWait.Proofs.Events.Switching
import ClusterWait.Proofs.Text.Search
import Mathlib.Data.List.Induction

/-! # Counters and flags over a whole history

A *history* is a list of calls on a monitor: groups, counters and loggers are added, handlers are
switched, and events are dispatched. A *ledger* is what a reader notes down of it who knows nothing of
registrations and boards: the names of the groups, and for each counter its kind, its start, its switch
and the events that were dispatched while it was switched on (`Tally`).

* `Kept`: the monitor shows what the ledger tells. Every call keeps it (`Kept.perform`), and so it is
  true after every history (`kept_after`).

The main theorem on histories reads its claims off the ledger. -/

namespace ClusterWait

/-! ### Histories -/

/-- **A call on a monitor.** -/
inductive Operation where
  | groups (name : String) (members : List String)
  | counter (name : String) (kind : CounterKind) (start : UInt32)
  | logger (name : String) (accepts : Event → Bool) (registers : Option String)
  | recorder (label : String)
  | switch (name : String) (enabled : Bool)
  | dispatch (e : Event)

/-- **Carries out a call.** Nothing comes of a counter for groups that were not added, nor of switching
a name that no handler has. -/
def Monitor.perform (m : Monitor) : Operation → Monitor
  | .groups name members => m.addGroups name members
  | .counter name kind start =>
    if kind.groups?.all (· < m.board.groups.length) then m.addCounter name kind start else m
  | .logger name accepts registers => m.addLogger name accepts registers
  | .recorder label => m.addRecorder label
  | .switch name enabled => (m.switch name enabled).getD m
  | .dispatch e => (m.dispatch e).2

def Monitor.after (history : List Operation) : Monitor := history.foldl perform .empty

/-! ### Reports -/

/-- **The event is the autoscaler's report of the kind,** in these words. -/
structure Event.Reported (e : Event) (r : ScalingReport) (words : String) : Prop where
  component : e.component = some autoscalerComponent
  reason : e.reason = some r.reason
  kind : e.involved.kind = some autoscalerObjectKind
  message : e.message = some words
  opening : r.opening.toList <+: words.toList

/-- **The message names the group** in one of two forms. -/
def Announces (message group : String) : Prop :=
  ("Scale-up: group " ++ group ++ " size set to").toList <+: message.toList ∨
    ("Scale-up: setting group " ++ group ++ " size").toList <+: message.toList

theorem namesGroup_iff {message group : String} :
    namesGroup message group = true ↔ Announces message group := by
  simp only [namesGroup, Bool.or_eq_true, Text.startsWith_iff, Announces]

section Reports
variable {e : Event} {r : ScalingReport} {message : String}

theorem Event.reports_iff : e.reports r = true ↔ ∃ message, e.Reported r message := by
  simp only [Event.reports, Bool.and_eq_true, beq_iff_eq, Option.any_eq_true, Text.startsWith_iff]
  constructor
  · rintro ⟨⟨⟨hc, hr⟩, hk⟩, message, hm, ho⟩
    exact ⟨message, hc, hr, hk, hm, ho⟩
  · rintro ⟨message, h⟩
    exact ⟨⟨⟨h.component, h.reason⟩, h.kind⟩, message, h.message, h.opening⟩

theorem Event.Reported.text_eq (h : e.Reported r message) : e.text = message := by
  rw [Event.text, h.message, Option.getD_some]

/-- A report of a scale-up is counted if it tells that a group begins to grow. -/
theorem accepts_scaleUp (h : e.Reported .scaledUp message) (groups : Nat) :
    (CounterKind.scaleUp groups).accepts e = true ↔
      "Scale-up: setting group".toList <+: message.toList := by
  rw [CounterKind.accepts, Event.reports_iff.mpr ⟨message, h⟩, Bool.true_and, startsScaleUp,
    Text.startsWith_iff, h.text_eq]

end Reports

/-! ### The ledger -/

/-- **A counter in the ledger:** where it starts, and the events that were dispatched while it was
switched on. -/
structure Tally where
  name : String
  kind : CounterKind
  start : UInt32
  enabled : Bool
  heard : List Event

namespace Tally

/-- A counter that is switched on hears an event. -/
def hear (e : Event) (t : Tally) : Tally := if t.enabled then { t with heard := t.heard ++ [e] } else t

def value (t : Tally) : UInt32 := t.start + UInt32.ofNat (t.heard.countP t.kind.accepts)

/-- The counter has heard the group named for the groups at a position. -/
def names (groups : Nat) (group : String) (t : Tally) : Bool :=
  t.kind.groups? == some groups && t.heard.any fun e => e.reports .scaledUp && namesGroup e.text group

/-- The counter at a position as it is registered. -/
def post (position : Nat) (t : Tally) : Registration.Post := ⟨position, t.name, t.kind, t.enabled⟩

def turn (enabled : Bool) (t : Tally) : Tally := { t with enabled }

/-- The counter raises the flags of the groups at a position when it hears the event. -/
def raises (groups : Nat) (e : Event) (t : Tally) : Bool :=
  t.enabled && (t.kind.groups? == some groups && e.reports .scaledUp)

/-! ### What a counter hears -/

section Hear
variable (t : Tally) (e : Event)

theorem kind_hear : (t.hear e).kind = t.kind := by
  unfold hear
  split_ifs <;> rfl

theorem value_hear : (t.hear e).value =
    t.value + UInt32.ofNat (if t.enabled && t.kind.accepts e then 1 else 0) := by
  rw [hear, value, value]
  cases t.enabled with
  | false => simp
  | true =>
    simp only [if_true, List.countP_append, List.countP_singleton, UInt32.ofNat_add,
      Bool.true_and, UInt32.add_assoc]

theorem names_hear (groups : Nat) (group : String) : (t.hear e).names groups group =
    (t.names groups group || (t.raises groups e && namesGroup e.text group)) := by
  rw [hear, raises]
  cases t.enabled with
  | false => simp
  | true =>
    simp only [if_true, names, List.any_append, List.any_cons, List.any_nil, Bool.or_false,
      Bool.true_and, Bool.and_or_distrib_left, Bool.and_assoc]

theorem any_names_hear (counters : List Tally) (groups : Nat) (group : String) :
    (counters.map (hear e)).any (·.names groups group) =
      (counters.any (·.names groups group) ||
        (counters.any (raises groups e) && namesGroup e.text group)) := by
  induction counters with
  | nil => rfl
  | cons t rest ih =>
    simp only [List.map_cons, List.any_cons, ih, names_hear]
    cases namesGroup e.text group with
    | false => simp
    | true =>
      simp only [Bool.and_true]
      ac_rfl

end Hear

/-! ### The counters as they are registered -/

section Posts
variable (counters : List Tally) (e : Event)

theorem mapIdx_post_hear : (counters.map (hear e)).mapIdx post = counters.mapIdx post := by
  have hpost (i : Nat) (t : Tally) : post i (t.hear e) = post i t := by
    unfold hear
    split_ifs <;> rfl
  apply List.ext_getElem?
  intro i
  simp only [List.getElem?_mapIdx, List.getElem?_map, Option.map_map, Function.comp_def, hpost]

/-- Of the registered counters only the one at the position counts there. -/
theorem countP_posts (i : Nat) : (counters.mapIdx post).countP (Registration.Post.counts i e) =
    if (counters[i]?).any fun t => t.enabled && t.kind.accepts e then 1 else 0 := by
  induction counters using List.reverseRecOn with
  | nil => rfl
  | append_singleton counters t ih =>
    rw [List.mapIdx_concat, List.countP_append, ih, List.countP_singleton, Registration.Post.counts]
    rcases Nat.lt_trichotomy i counters.length with hi | rfl | hi
    · have hne : (counters.length == i) = false := by rw [beq_eq_false_iff_ne]; omega
      simp [post, hne, List.getElem?_append_left hi]
    · simp [post]
    · have hne : (counters.length == i) = false := by rw [beq_eq_false_iff_ne]; omega
      have hnone : counters[i]? = none := by rw [List.getElem?_eq_none_iff]; omega
      have hnone' : (counters ++ [t])[i]? = none := by
        rw [List.getElem?_eq_none_iff, List.length_append, List.length_singleton]
        omega
      simp [post, hne, hnone, hnone']

theorem any_raises (groups : Nat) :
    (counters.mapIdx post).any (Registration.Post.raises groups e) = counters.any (raises groups e) :=
  any_mapIdx fun _ _ => rfl

end Posts

end Tally

/-- **What a reader notes down of a history:** the counters and the names of the groups. -/
structure Ledger where
  counters : List Tally
  groups : List (List String)

namespace Ledger

/-- **Enters a call.** The switch of a name is that of the last counter of the name. -/
def enter (l : Ledger) : Operation → Ledger
  | .groups _ members => { l with groups := l.groups ++ [members] }
  | .counter name kind start =>
    if kind.groups?.all (· < l.groups.length) then
      { l with counters := l.counters ++ [⟨name, kind, start, kind.startsEnabled, []⟩] }
    else l
  | .logger .. | .recorder .. => l
  | .switch name enabled =>
    { l with counters := modifyLast (·.name == name) (Tally.turn enabled) l.counters }
  | .dispatch e => { l with counters := l.counters.map (Tally.hear e) }

def of (history : List Operation) : Ledger := history.foldl enter ⟨[], []⟩

/-- The flags of the groups at a position. -/
def flags (l : Ledger) (position : Nat) (members : List String) : ScaledGroups :=
  ⟨(ScaledGroups.ofNames members).flags.map fun group _ => l.counters.any (·.names position group)⟩

/-- A switch leaves everything else of the counters. -/
theorem map_switch {β : Type} {l : Ledger} {name : String} {enabled : Bool} (g : Tally → β)
    (hg : ∀ t, g (t.turn enabled) = g t) :
    (l.enter (.switch name enabled)).counters.map g = l.counters.map g :=
  map_modifyLast hg

theorem any_names_switch {l : Ledger} {name : String} {enabled : Bool} (position : Nat)
    (group : String) : (l.enter (.switch name enabled)).counters.any (·.names position group) =
      l.counters.any (·.names position group) :=
  any_eq_of_map_eq (map_switch _ fun _ => rfl)

theorem of_append (history : List Operation) (op : Operation) :
    of (history ++ [op]) = (of history).enter op := by
  simp only [of, List.foldl_append, List.foldl_cons, List.foldl_nil]

end Ledger

theorem Monitor.after_append (history : List Operation) (op : Operation) :
    Monitor.after (history ++ [op]) = (Monitor.after history).perform op := by
  simp only [Monitor.after, List.foldl_append, List.foldl_cons, List.foldl_nil]

/-! ### The monitor shows what the ledger tells -/

/-- **The monitor is as the ledger tells.** -/
structure Kept (m : Monitor) (l : Ledger) : Prop where
  /-- The counters are registered in their order, each at its position and with its switch; -/
  posts : m.dispatcher.registrations.filterMap Registration.post? = l.counters.mapIdx Tally.post
  counts : m.board.counts = l.counters.map Tally.value
  groups : m.board.groups = l.groups.mapIdx l.flags
  /-- none holds groups that were not added. -/
  held : ∀ t ∈ l.counters, ∀ g, t.kind.groups? = some g → g < l.groups.length

theorem kept_empty : Kept .empty ⟨[], []⟩ := ⟨rfl, rfl, rfl, nofun⟩

section Kept
variable {m : Monitor} {l : Ledger} (h : Kept m l)
include h

/-- Groups that are added have no flags yet. -/
theorem Kept.addGroups (name : String) (members : List String) :
    Kept (m.addGroups name members) (l.enter (.groups name members)) := by
  refine ⟨h.posts, h.counts, ?_, fun t ht g hg => ?_⟩
  · have hnone (group : String) : l.counters.any (·.names l.groups.length group) = false := by
      rw [List.any_eq_false]
      intro t ht
      rw [Tally.names, Bool.and_eq_true, not_and]
      intro hg
      exact absurd (h.held t ht _ (by simpa using hg)) (Nat.lt_irrefl _)
    have hnew : l.flags l.groups.length members = .ofNames members := by
      unfold Ledger.flags
      rw [Dictionary.map_eq_self fun e he => ?_]
      rw [hnone]
      obtain ⟨n, -, rfl⟩ := List.mem_map.mp (Dictionary.mem_of_mem_ofList he)
      rfl
    calc (m.addGroups name members).board.groups = m.board.groups ++ [.ofNames members] := rfl
      _ = l.groups.mapIdx l.flags ++ [l.flags l.groups.length members] := by rw [h.groups, hnew]
      _ = (l.groups ++ [members]).mapIdx l.flags := by rw [List.mapIdx_concat]
  · have hlt := h.held t ht g hg
    simp only [Ledger.enter, List.length_append, List.length_singleton]
    omega

theorem Kept.addCounter (name : String) {kind : CounterKind} (start : UInt32)
    (hk : kind.groups?.all (· < l.groups.length) = true) :
    Kept (m.addCounter name kind start) (l.enter (.counter name kind start)) := by
  have hlen : m.board.counts.length = l.counters.length := by rw [h.counts, List.length_map]
  rw [Ledger.enter, if_pos hk]
  refine ⟨?_, ?_, ?_, ?_⟩
  · calc (m.addCounter name kind start).dispatcher.registrations.filterMap Registration.post? =
          m.dispatcher.registrations.filterMap Registration.post? ++
            [⟨m.board.counts.length, name, kind, kind.startsEnabled⟩] := by
          simp only [Monitor.addCounter, Monitor.withBoard, Dispatcher.register,
            List.filterMap_append]
          rfl
      _ = _ := by
          rw [h.posts, hlen, List.mapIdx_concat]
          rfl
  · calc (m.addCounter name kind start).board.counts = m.board.counts ++ [start] := rfl
      _ = _ := by simp [h.counts, Tally.value]
  · have hflags (position : Nat) (members : List String) :
        Ledger.flags { l with counters := l.counters ++ [⟨name, kind, start, kind.startsEnabled, []⟩] }
          position members = l.flags position members := by
      simp only [Ledger.flags, List.any_append, List.any_cons, List.any_nil, Tally.names,
        Bool.and_false, Bool.or_false]
    calc (m.addCounter name kind start).board.groups = m.board.groups := rfl
      _ = _ := by
          rw [h.groups]
          exact congrArg (l.groups.mapIdx ·) (funext fun i => funext fun x => (hflags i x).symm)
  · intro t ht g hg
    rcases List.mem_append.mp ht with ht | ht
    · exact h.held t ht g hg
    · rw [List.mem_singleton.mp ht] at hg
      simp only at hg
      rw [hg] at hk
      simpa using hk

theorem Kept.register {r : Registration Handler} (hr : r.post? = none) :
    Kept { m with dispatcher := m.dispatcher.register r.handler r.enabled } l := by
  refine ⟨?_, h.counts, h.groups, h.held⟩
  rw [← h.posts, Dispatcher.register, List.filterMap_append, List.filterMap_cons_none hr]
  exact List.append_nil _

/-- Turning a switch changes neither what a counter shows nor which flags it raised. -/
theorem Kept.switch (name : String) (enabled : Bool) :
    Kept ((m.switch name enabled).getD m) (l.enter (.switch name enabled)) := by
  have hboard : ((m.switch name enabled).getD m).board = m.board := by
    rw [Monitor.switch]
    cases m.position? name <;> rfl
  refine ⟨?_, ?_, ?_, ?_⟩
  · rw [posts_switch, h.posts]
    exact mapIdx_modifyLast (fun _ _ => rfl) fun _ _ => rfl
  · rw [hboard, h.counts, Ledger.map_switch Tally.value fun _ => rfl]
  · rw [hboard, h.groups]
    unfold Ledger.flags
    simp only [Ledger.any_names_switch]
    rfl
  · intro t ht g hg
    have hmem : t.kind ∈ l.counters.map (·.kind) := by
      rw [← Ledger.map_switch (·.kind) fun _ => rfl]
      exact List.mem_map_of_mem ht
    obtain ⟨t', ht', hk⟩ := List.mem_map.mp hmem
    exact h.held t' ht' g (by rw [hk]; exact hg)

/-- Each counter that is switched on hears the event. -/
theorem Kept.dispatch (e : Event) : Kept (m.dispatch e).2 (l.enter (.dispatch e)) := by
  have hafter : (m.dispatch e).2.dispatcher = _ := dispatch_monitoring m.dispatcher e
  have hboard : (m.dispatch e).2.board = m.board.meetAll e m.dispatcher.registrations :=
    congrArg Dispatcher.world hafter
  refine ⟨?_, ?_, ?_, ?_⟩
  · have hadded : (m.dispatcher.registrations.flatMap (·.adds e)).filterMap Registration.post? = [] := by
      rw [List.filterMap_eq_nil_iff]
      intro r hr
      obtain ⟨r', -, hr'⟩ := List.mem_flatMap.mp hr
      exact Registration.post?_of_mem_adds hr'
    rw [hafter, List.filterMap_append, hadded, List.append_nil, h.posts]
    exact (Tally.mapIdx_post_hear l.counters e).symm
  · apply List.ext_getElem?
    intro i
    rw [hboard, counts_meetAll, h.posts, h.counts, List.getElem?_map, Tally.countP_posts]
    simp only [Ledger.enter, List.getElem?_map]
    cases l.counters[i]? with
    | none => rfl
    | some t => simp only [Option.map_some, Option.any_some, Tally.value_hear]
  · apply List.ext_getElem?
    intro g
    have hraised := Tally.any_raises l.counters e g
    rw [hboard, groups_meetAll, h.posts, h.groups, hraised]
    simp only [Ledger.enter, List.getElem?_mapIdx]
    cases l.groups[g]? with
    | none => simp
    | some members =>
      simp only [Option.map_some, Ledger.flags, Tally.any_names_hear]
      cases l.counters.any (Tally.raises g e) with
      | false => simp
      | true => simp [ScaledGroups.observe, Dictionary.map_map]
  · intro t ht g hg
    obtain ⟨t', ht', rfl⟩ := List.mem_map.mp ht
    rw [Tally.kind_hear] at hg
    exact h.held t' ht' g hg

/-- **Every call keeps it.** -/
theorem Kept.perform (op : Operation) : Kept (m.perform op) (l.enter op) := by
  cases op with
  | groups name members => exact h.addGroups name members
  | counter name kind start =>
    have hlen : m.board.groups.length = l.groups.length := by rw [h.groups, List.length_mapIdx]
    by_cases hk : kind.groups?.all (· < l.groups.length) = true
    · rw [Monitor.perform, hlen, if_pos hk]
      exact h.addCounter name start hk
    · rw [Monitor.perform, hlen, if_neg hk, Ledger.enter, if_neg hk]
      exact h
  | logger name accepts registers => exact h.register (r := ⟨.logger name accepts registers, false⟩) rfl
  | recorder label => exact h.register (r := ⟨.recorder label, true⟩) rfl
  | switch name enabled => exact h.switch name enabled
  | dispatch e => exact h.dispatch e

end Kept

/-- **After every history the monitor shows what the ledger tells.** -/
theorem kept_after (history : List Operation) : Kept (.after history) (.of history) := by
  induction history using List.reverseRecOn with
  | nil => exact kept_empty
  | append_singleton history op ih =>
    rw [Monitor.after_append, Ledger.of_append]
    exact ih.perform op

end ClusterWait
