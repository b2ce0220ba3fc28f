import ClusterWait.Proofs.Events.Tally

/-! # What counters and flags tell of a history

A counter shows its start and the number of events that it accepts among those that were dispatched
while it was switched on. The flag of a group is raised if a report that names the group was dispatched
while a counter with these groups was switched on.

* `heardBy`: the events that a counter heard, read off the history (`heard_eq`).
* `Ledger.Alike`: two ledgers whose counters heard the same events in another order. Every call keeps
  them alike (`Ledger.Alike.enter`), and they show the same (`counts_eq`, `groups_eq`).
* `monitor_keeps_tally`: the values of the counters and the flags after every history, what the two
  forms of a message do to them, and that the order of the events does not matter. -/

namespace ClusterWait

/-! ### What a counter heard -/

/-- **The events that a counter heard:** those that were dispatched when it was there and switched on. -/
def heardBy (history : List Operation) (counter : Nat) : List Event :=
  (List.range history.length).filterMap fun i =>
    match (history[i]? : Option Operation) with
    | some (.dispatch e) =>
      if ((Ledger.of (history.take i)).counters[counter]?).any (·.enabled) then some e else none
    | _ => none

theorem heardBy_append (history : List Operation) (op : Operation) (counter : Nat) :
    heardBy (history ++ [op]) counter = heardBy history counter ++
      match op with
      | .dispatch e => if ((Ledger.of history).counters[counter]?).any (·.enabled) then [e] else []
      | _ => [] := by
  have hbefore (i : Nat) (hi : i ∈ List.range history.length) :
      (history ++ [op])[i]? = history[i]? ∧ (history ++ [op]).take i = history.take i := by
    rw [List.mem_range] at hi
    exact ⟨List.getElem?_append_left hi, List.take_append_of_le_length (Nat.le_of_lt hi)⟩
  unfold heardBy
  rw [List.length_append, List.length_singleton, List.range_succ, List.filterMap_append]
  congr 1
  · refine List.filterMap_congr fun i hi => ?_
    rw [(hbefore i hi).1, (hbefore i hi).2]
  · rw [List.filterMap_cons, List.filterMap_nil, List.getElem?_concat_length, List.take_left]
    cases op with
    | dispatch e => simp only; split_ifs <;> rfl
    | _ => rfl

/-- **The ledger has what the counters heard.** -/
theorem heard_eq (history : List Operation) (counter : Nat) :
    (((Ledger.of history).counters.map (·.heard))[counter]?).getD [] = heardBy history counter := by
  induction history using List.reverseRecOn with
  | nil => rfl
  | append_singleton history op ih =>
    rw [heardBy_append, Ledger.of_append, ← ih]
    generalize Ledger.of history = l
    cases op with
    | groups | logger | recorder => rw [List.append_nil]; rfl
    | counter name kind start =>
      rw [Ledger.enter, List.append_nil]
      split_ifs
      · -- a new counter has heard nothing, as one that is not there
        rw [List.map_append, List.map_singleton]
        generalize l.counters.map (fun t => t.heard) = heards
        rcases Nat.lt_trichotomy counter heards.length with hlt | rfl | hgt
        · rw [List.getElem?_append_left hlt]
        · simp
        · have hgt' : (heards ++ [[]]).length ≤ counter := by
            rw [List.length_append, List.length_singleton]
            omega
          rw [List.getElem?_eq_none (Nat.le_of_lt hgt), List.getElem?_eq_none hgt']
      · rfl
    | switch name enabled =>
      rw [Ledger.map_switch (·.heard) fun _ => rfl, List.append_nil]
    | dispatch e =>
      simp only [Ledger.enter, List.map_map, List.getElem?_map]
      cases l.counters[counter]? with
      | none => rfl
      | some t =>
        simp only [Option.map_some, Option.getD_some, Option.any_some, Function.comp_apply, Tally.hear]
        split_ifs
        · rfl
        · rw [List.append_nil]

theorem heard_eq_heardBy {history : List Operation} {counter : Nat} {t : Tally}
    (h : (Ledger.of history).counters[counter]? = some t) : t.heard = heardBy history counter := by
  rw [← heard_eq, List.getElem?_map, h]
  rfl

/-! ### Flags -/

namespace Ledger
variable {l : Ledger}

theorem isScaled_flags (position : Nat) (members : List String) (group : String) :
    (l.flags position members).isScaled group = true ↔
      group ∈ members ∧ l.counters.any (·.names position group) = true := by
  have hkey := Dictionary.isSome_get?_ofList (k := group) (members.map fun n => (n, false))
  rw [List.map_map] at hkey
  rw [ScaledGroups.isScaled, flags, Dictionary.get?_map]
  unfold ScaledGroups.ofNames
  cases hget : (Dictionary.ofList (members.map fun n => (n, false))).get? group with
  | none =>
    rw [hget] at hkey
    have hmem : group ∉ members := by simpa using hkey
    simp [hmem]
  | some flag =>
    rw [hget] at hkey
    have hmem : group ∈ members := by simpa using hkey
    simp [hmem]

/-- What a counter has heard named stays so, -/
theorem any_names_enter {position : Nat} {group : String} (op : Operation)
    (h : l.counters.any (·.names position group) = true) :
    (l.enter op).counters.any (·.names position group) = true := by
  cases op with
  | groups | logger | recorder => exact h
  | counter name kind start =>
    rw [enter]
    split_ifs
    · rw [List.any_append, h, Bool.true_or]
    · exact h
  | switch name enabled => rw [any_names_switch, h]
  | dispatch e => rw [enter, Tally.any_names_hear, h, Bool.true_or]

/-- and groups keep their position. -/
theorem groups_enter (l : Ledger) (op : Operation) : l.groups <+: (l.enter op).groups := by
  cases op with
  | groups name members => exact List.prefix_append _ _
  | counter name kind start =>
    rw [enter]
    split_ifs <;> exact List.prefix_refl _
  | _ => exact List.prefix_refl _

theorem any_names_foldl {position : Nat} {group : String} (later : List Operation) :
    ∀ l : Ledger, l.counters.any (·.names position group) = true →
      (later.foldl enter l).counters.any (·.names position group) = true := by
  induction later with
  | nil => exact fun _ h => h
  | cons op later ih => exact fun l h => ih _ (any_names_enter op h)

theorem groups_foldl (later : List Operation) :
    ∀ l : Ledger, l.groups <+: (later.foldl enter l).groups := by
  induction later with
  | nil => exact fun l => List.prefix_refl _
  | cons op later ih => exact fun l => (l.groups_enter op).trans (ih _)

end Ledger

/-! ### The order of events -/

/-- **Two counters that have heard the same events,** in any order. -/
structure Tally.Alike (t t' : Tally) : Prop where
  name : t.name = t'.name
  kind : t.kind = t'.kind
  start : t.start = t'.start
  enabled : t.enabled = t'.enabled
  heard : t.heard.Perm t'.heard

namespace Tally.Alike
variable {t t' : Tally} (h : t.Alike t')
include h

theorem value_eq : t.value = t'.value := by
  rw [Tally.value, Tally.value, h.kind, h.start, h.heard.countP_eq]

theorem names_eq (groups : Nat) (group : String) : t.names groups group = t'.names groups group := by
  rw [Tally.names, Tally.names, h.kind, h.heard.any_eq]

theorem hear (e : Event) : (t.hear e).Alike (t'.hear e) := by
  unfold Tally.hear
  rw [h.enabled]
  split_ifs
  · exact ⟨h.name, h.kind, h.start, rfl, h.heard.append_right [e]⟩
  · exact h

end Tally.Alike

theorem Tally.foldl_hear (events : List Event) (t : Tally) : events.foldl (fun t e => t.hear e) t =
    if t.enabled then { t with heard := t.heard ++ events } else t := by
  induction events generalizing t with
  | nil => simp
  | cons e events ih =>
    rw [List.foldl_cons, ih, Tally.hear]
    cases hon : t.enabled with
    | false => simp [hon]
    | true => simp

/-- **Ledgers whose counters have heard the same.** -/
structure Ledger.Alike (l l' : Ledger) : Prop where
  counters : List.Forall₂ Tally.Alike l.counters l'.counters
  groups : l.groups = l'.groups

namespace Ledger

theorem foldl_dispatch (events : List Event) (l : Ledger) : (events.map .dispatch).foldl enter l =
    { l with counters := l.counters.map fun t => events.foldl (fun t e => t.hear e) t } := by
  induction events generalizing l with
  | nil => simp
  | cons e events ih =>
    rw [List.map_cons, List.foldl_cons, ih, enter, List.map_map]
    rfl

/-- Events that are dispatched in another order leave ledgers that are alike. -/
theorem alike_dispatch {events events' : List Event} (h : events.Perm events') (l : Ledger) :
    Alike ((events.map .dispatch).foldl enter l) ((events'.map .dispatch).foldl enter l) := by
  rw [foldl_dispatch, foldl_dispatch]
  refine ⟨?_, rfl⟩
  rw [List.forall₂_map_left_iff, List.forall₂_map_right_iff, List.forall₂_same]
  intro t _
  rw [Tally.foldl_hear, Tally.foldl_hear]
  split_ifs
  · exact ⟨rfl, rfl, rfl, rfl, h.append_left _⟩
  · exact ⟨rfl, rfl, rfl, rfl, .refl _⟩

namespace Alike
variable {l l' : Ledger} (h : l.Alike l')
include h

/-- **Every call keeps them alike.** -/
theorem enter (op : Operation) : (l.enter op).Alike (l'.enter op) := by
  cases op with
  | groups name members => exact ⟨h.counters, congrArg (· ++ [members]) h.groups⟩
  | counter name kind start =>
    rw [Ledger.enter, Ledger.enter, h.groups]
    split_ifs
    · exact ⟨List.rel_append h.counters (.cons ⟨rfl, rfl, rfl, rfl, .refl _⟩ .nil), rfl⟩
    · exact h
  | logger | recorder => exact h
  | switch name enabled =>
    refine ⟨forall₂_modifyLast (fun t t' ht => by rw [ht.name]) (fun t t' ht => ?_) h.counters, h.groups⟩
    exact ⟨ht.name, ht.kind, ht.start, rfl, ht.heard⟩
  | dispatch e =>
    refine ⟨?_, h.groups⟩
    rw [Ledger.enter, Ledger.enter, List.forall₂_map_left_iff, List.forall₂_map_right_iff]
    exact h.counters.imp fun _ _ ht => ht.hear e

theorem foldl (later : List Operation) : Alike (later.foldl Ledger.enter l) (later.foldl Ledger.enter l') := by
  induction later generalizing l l' with
  | nil => exact h
  | cons op later ih => exact ih (h.enter op)

variable {m m' : Monitor} (hm : Kept m l) (hm' : Kept m' l')
include hm hm'

/-- They show the same counts -/
theorem counts_eq : m.board.counts = m'.board.counts := by
  rw [hm.counts, hm'.counts]
  exact map_eq_of_forall₂ h.counters fun _ _ ht => ht.value_eq

/-- and the same flags. -/
theorem groups_eq : m.board.groups = m'.board.groups := by
  have hany (position : Nat) (group : String) : l.counters.any (·.names position group) =
      l'.counters.any (·.names position group) :=
    any_eq_of_map_eq (map_eq_of_forall₂ h.counters fun _ _ ht => ht.names_eq position group)
  rw [hm.groups, hm'.groups, h.groups]
  unfold Ledger.flags
  simp only [hany]

end Alike

end Ledger

/-! ### Two forms of a message -/

/-- A message that tells the size of a group tells of no group that begins to grow. -/
theorem not_startsScaleUp {words group : String}
    (h : ("Scale-up: group " ++ group ++ " size set to").toList <+: words.toList) :
    ¬ "Scale-up: setting group".toList <+: words.toList := by
  intro hsetting
  have hgroup : "Scale-up: group ".toList <+: words.toList := by
    rw [String.toList_append, String.toList_append, List.append_assoc] at h
    exact (List.prefix_append _ _).trans h
  rcases List.prefix_or_prefix_of_prefix hgroup hsetting with hp | hp <;> revert hp <;> decide

/-- An event that is dispatched is added to what a counter heard that is switched on. -/
theorem getElem?_enter_dispatch {l : Ledger} {i : Nat} {t : Tally} (e : Event)
    (h : l.counters[i]? = some t) : (l.enter (.dispatch e)).counters[i]? = some (t.hear e) := by
  rw [Ledger.enter, List.getElem?_map, h]
  rfl

/-! ### The main theorem -/

/-- **Counters and flags after a history.** The ledger of the history has the kinds, the starts and the
switches of the counters. -/
structure KeepsTally (history : List Operation) : Prop where
  /-- The counters are registered as the ledger has them, each with its switch. -/
  posts : (Monitor.after history).dispatcher.registrations.filterMap Registration.post? =
    (Ledger.of history).counters.mapIdx Tally.post
  /-- A counter shows its start and, in 32 bits, how many events it accepts of those that were
  dispatched while it was switched on. -/
  counted : ∀ (i : Nat) (t : Tally), (Ledger.of history).counters[i]? = some t →
    ∃ n, (Monitor.after history).board.counts[i]? = some n ∧
      n.toNat = (t.start.toNat + (heardBy history i).countP t.kind.accepts) % UInt32.size
  /-- The flag of a group is raised if and only if the group is one of those that were added, and a
  report of a scale-up that names it was dispatched while a counter of its groups was switched on. -/
  flagged : ∀ (g : Nat) (members : List String), (Ledger.of history).groups[g]? = some members →
    ∃ s, (Monitor.after history).board.groups[g]? = some s ∧ ∀ group, s.isScaled group = true ↔
      group ∈ members ∧ ∃ (i : Nat) (t : Tally), (Ledger.of history).counters[i]? = some t ∧
        t.kind.groups? = some g ∧
        ∃ e ∈ heardBy history i, ∃ words, e.Reported .scaledUp words ∧ Announces words group
  /-- Flags stay raised, whatever follows. -/
  lasting : ∀ (g : Nat) (s : ScaledGroups) (group : String),
    (Monitor.after history).board.groups[g]? = some s → s.isScaled group = true →
    ∀ later : List Operation, ∃ s', (Monitor.after (history ++ later)).board.groups[g]? = some s' ∧
      s'.isScaled group = true
  /-- A message that a group begins to grow is counted once by each counter of scale-ups that is
  switched on, whichever group it names and whatever the flags are. -/
  counting : ∀ (e : Event) (words : String), e.Reported .scaledUp words →
    "Scale-up: setting group".toList <+: words.toList →
    ∀ (i : Nat) (t : Tally) (g : Nat), (Ledger.of history).counters[i]? = some t →
      t.kind = .scaleUp g → t.enabled = true →
      (Monitor.after (history ++ [.dispatch e])).board.counts[i]? =
        (Monitor.after history).board.counts[i]?.map (· + 1)
  /-- A message that tells the size of a group is not counted by them, and raises the flag of the
  group. -/
  marking : ∀ (e : Event) (words group : String), e.Reported .scaledUp words →
    ("Scale-up: group " ++ group ++ " size set to").toList <+: words.toList →
    ∀ (i : Nat) (t : Tally) (g : Nat), (Ledger.of history).counters[i]? = some t →
      t.kind = .scaleUp g →
      (Monitor.after (history ++ [.dispatch e])).board.counts[i]? =
        (Monitor.after history).board.counts[i]? ∧
      (t.enabled = true → ∀ members, (Ledger.of history).groups[g]? = some members → group ∈ members →
        ∃ s, (Monitor.after (history ++ [.dispatch e])).board.groups[g]? = some s ∧
          s.isScaled group = true)
  /-- Events that follow each other can be dispatched in any order: counters and flags are the same
  then, and after all that follows. -/
  order : ∀ events events' : List Event, events.Perm events' → ∀ later : List Operation,
    (Monitor.after (history ++ events.map .dispatch ++ later)).board.counts =
        (Monitor.after (history ++ events'.map .dispatch ++ later)).board.counts ∧
      (Monitor.after (history ++ events.map .dispatch ++ later)).board.groups =
        (Monitor.after (history ++ events'.map .dispatch ++ later)).board.groups

section Main
variable {history : List Operation} {i g : Nat} {t : Tally}

theorem counts_after (h : (Ledger.of history).counters[i]? = some t) :
    (Monitor.after history).board.counts[i]? = some t.value := by
  rw [(kept_after history).counts, List.getElem?_map, h]
  rfl

theorem groups_after {members : List String} (h : (Ledger.of history).groups[g]? = some members) :
    (Monitor.after history).board.groups[g]? = some ((Ledger.of history).flags g members) := by
  rw [(kept_after history).groups, List.getElem?_mapIdx, h]
  rfl

theorem toNat_value (t : Tally) :
    t.value.toNat = (t.start.toNat + t.heard.countP t.kind.accepts) % UInt32.size := by
  have hadd := UInt32.toNat_add t.start (UInt32.ofNat (t.heard.countP t.kind.accepts))
  rw [UInt32.toNat_ofNat', Nat.add_mod_mod] at hadd
  exact hadd

/-- What it is for a counter to have heard a group named. -/
theorem names_iff {group : String} : t.names g group = true ↔ t.kind.groups? = some g ∧
    ∃ e ∈ t.heard, ∃ words, e.Reported .scaledUp words ∧ Announces words group := by
  rw [Tally.names, Bool.and_eq_true, beq_iff_eq, List.any_eq_true]
  refine and_congr_right fun _ => exists_congr fun e => and_congr_right fun _ => ?_
  rw [Bool.and_eq_true, Event.reports_iff, namesGroup_iff]
  constructor
  · rintro ⟨⟨words, hr⟩, ha⟩
    exact ⟨words, hr, hr.text_eq ▸ ha⟩
  · rintro ⟨words, hr, ha⟩
    exact ⟨⟨words, hr⟩, hr.text_eq ▸ ha⟩

theorem any_names_iff {group : String} :
    (Ledger.of history).counters.any (·.names g group) = true ↔
      ∃ (i : Nat) (t : Tally), (Ledger.of history).counters[i]? = some t ∧ t.kind.groups? = some g ∧
        ∃ e ∈ heardBy history i, ∃ words, e.Reported .scaledUp words ∧ Announces words group := by
  rw [List.any_eq_true]
  constructor
  · rintro ⟨t, ht, hn⟩
    obtain ⟨i, hi⟩ := List.mem_iff_getElem?.mp ht
    rw [names_iff, heard_eq_heardBy hi] at hn
    exact ⟨i, t, hi, hn⟩
  · rintro ⟨i, t, hi, hn⟩
    refine ⟨t, List.mem_of_getElem? hi, ?_⟩
    rw [names_iff, heard_eq_heardBy hi]
    exact hn

/-- What is dispatched changes the value of a counter that hears it. -/
theorem counts_after_dispatch (e : Event) (h : (Ledger.of history).counters[i]? = some t) :
    (Monitor.after (history ++ [.dispatch e])).board.counts[i]? =
      (Monitor.after history).board.counts[i]?.map
        (· + UInt32.ofNat (if t.enabled && t.kind.accepts e then 1 else 0)) := by
  have hnext : (Ledger.of (history ++ [.dispatch e])).counters[i]? = some (t.hear e) := by
    rw [Ledger.of_append]
    exact getElem?_enter_dispatch e h
  rw [counts_after hnext, counts_after h, Option.map_some, Tally.value_hear]

theorem groups_of_append {members : List String} (later : List Operation)
    (h : (Ledger.of history).groups[g]? = some members) :
    (Ledger.of (history ++ later)).groups[g]? = some members := by
  have hprefix : (Ledger.of history).groups <+: (Ledger.of (history ++ later)).groups := by
    rw [Ledger.of, Ledger.of, List.foldl_append]
    exact Ledger.groups_foldl later _
  obtain ⟨rest, hrest⟩ := hprefix
  have hlt : g < (Ledger.of history).groups.length := (List.getElem?_eq_some_iff.mp h).1
  rw [← hrest, List.getElem?_append_left hlt, h]

end Main

/-- **Counters and flags tell of every history what was dispatched,** in any order. -/
theorem monitor_keeps_tally (history : List Operation) : KeepsTally history where
  posts := (kept_after history).posts
  counted i t h := by
    refine ⟨t.value, counts_after h, ?_⟩
    rw [toNat_value, heard_eq_heardBy h]
  flagged g members h := by
    refine ⟨_, groups_after h, fun group => ?_⟩
    rw [Ledger.isScaled_flags, any_names_iff]
  lasting g s group hs hraised later := by
    have hlt : g < (Ledger.of history).groups.length := by
      have hlen := congrArg List.length (kept_after history).groups
      rw [List.length_mapIdx] at hlen
      rw [← hlen]
      exact (List.getElem?_eq_some_iff.mp hs).1
    have hg := List.getElem?_eq_getElem hlt
    obtain rfl : _ = s := Option.some.inj ((groups_after hg).symm.trans hs)
    refine ⟨_, groups_after (groups_of_append later hg), ?_⟩
    rw [Ledger.isScaled_flags] at hraised ⊢
    refine ⟨hraised.1, ?_⟩
    rw [Ledger.of, List.foldl_append]
    exact Ledger.any_names_foldl later _ hraised.2
  counting e words hr hsetting i t g hi hk hon := by
    have hacc : t.kind.accepts e = true := by rw [hk, accepts_scaleUp hr]; exact hsetting
    rw [counts_after_dispatch e hi, hon, hacc]
    rfl
  marking e words group hr hsize i t g hi hk := by
    have hacc : t.kind.accepts e = false := by
      rw [hk, Bool.eq_false_iff, ne_eq, accepts_scaleUp hr]
      exact not_startsScaleUp hsize
    refine ⟨?_, fun hon members hg hmem => ?_⟩
    · rw [counts_after_dispatch e hi, hacc, Bool.and_false, counts_after hi]
      simp
    · refine ⟨_, groups_after (groups_of_append [.dispatch e] hg), ?_⟩
      rw [Ledger.isScaled_flags]
      refine ⟨hmem, List.any_eq_true.mpr ⟨t.hear e, ?_, ?_⟩⟩
      · rw [Ledger.of_append]
        exact List.mem_of_getElem? (getElem?_enter_dispatch e hi)
      · have hnames : namesGroup e.text group = true := by
          rw [namesGroup_iff, hr.text_eq]
          exact .inl hsize
        rw [Tally.names_hear, Tally.raises, hon, hk, Event.reports_iff.mpr ⟨words, hr⟩, hnames]
        simp [CounterKind.groups?]
  order events events' h later := by
    have halike : (Ledger.of (history ++ events.map .dispatch ++ later)).Alike
        (Ledger.of (history ++ events'.map .dispatch ++ later)) := by
      simp only [Ledger.of, List.foldl_append]
      exact (Ledger.alike_dispatch h _).foldl later
    exact ⟨halike.counts_eq (kept_after _) (kept_after _), halike.groups_eq (kept_after _) (kept_after _)⟩

end ClusterWait
