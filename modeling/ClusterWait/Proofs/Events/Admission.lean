import ClusterWait.Events.Watcher
import Mathlib.Data.List.Induction
import Mathlib.Data.List.Nodup
import Mathlib.Tactic.Common

/-! # Each new event is handed over once

A feed delivers an event with an item of a list or with a change, again and again. `HandedOver` says
which of the deliveries are handed over, item by item: those of events that are new enough
(`Event.Eligible`), when their key was not handed over before. Nothing else is remembered.

* `HandedOver.nodup`, `HandedOver.complete`, `HandedOver.sound`: no key is handed over twice, every key
  of an eligible delivery is, and nothing is that was not delivered.
* `HandedOver.handed_eq`: the admission of a watcher comes to this, whatever the feed yields. It holds
  the instant that it began with and exactly the keys that were handed over.
* `follow_append`, `log_foldl_dispatch`: a watcher takes items one after another, and a recorder
  writes down every event that is dispatched.
* `watcher_dispatches_once` puts this together for all that a watcher dispatches. -/

namespace ClusterWait

/-! ### The order of time -/

theorem Timestamp.notBelow_iff : ∀ {as bs : List Int}, as.length = bs.length →
    (notBelow as bs = true ↔ ¬ List.Lex (· < ·) as bs)
  | [], [], _ => by simp [notBelow]
  | a :: as, b :: bs, h => by
    have ih := notBelow_iff (Nat.succ.inj h)
    rw [List.cons_lex_cons_iff]
    by_cases hab : a = b
    · simp [notBelow, hab, ih]
    · rw [notBelow, if_neg hab, decide_eq_true_eq]
      simp only [hab, false_and, or_false]
      omega

/-- The timestamp is before the other, in the order of dictionaries on their components. -/
def Timestamp.Before (t since : Timestamp) : Prop :=
  List.Lex (· < ·) t.components since.components

theorem Timestamp.notBefore_iff {t since : Timestamp} :
    t.notBefore since = true ↔ ¬ t.Before since := notBelow_iff rfl

/-! ### Deliveries -/

/-- **The item delivers the event.** -/
inductive FeedItem.Delivers : FeedItem → Event → Prop
  | offered (e : Event) : Delivers (.offered e) e
  | applied (e : Event) : Delivers (.applied e) e

/-- One of the items delivers the event. -/
def Delivered (items : List FeedItem) (e : Event) : Prop := ∃ item ∈ items, item.Delivers e

/-- **The event is new enough:** it was created at or after the second of an instant. -/
def Event.Eligible (since : Timestamp) (e : Event) : Prop :=
  ∃ t, e.metadata.creationTimestamp = some t ∧ ¬ t.Before since.truncated

section Deliveries
variable {item : FeedItem} {items : List FeedItem} {e e' : Event}

theorem delivers_iff : item.Delivers e ↔ item.delivery? = some e := by
  constructor
  · rintro (_ | _) <;> rfl
  · intro h
    cases item <;> cases h
    · exact .offered e
    · exact .applied e

theorem delivered_append_singleton :
    Delivered (items ++ [item]) e ↔ Delivered items e ∨ item.Delivers e := by
  simp [Delivered, or_and_right, exists_or]

theorem FeedItem.Delivers.unique (h : item.Delivers e) (h' : item.Delivers e') : e = e' := by
  rw [delivers_iff] at h h'
  exact Option.some.inj (h.symm.trans h')

end Deliveries

/-! ### What is handed over -/

/-- **What is handed over of some items,** in the order of the deliveries. -/
inductive HandedOver (since : Timestamp) : List FeedItem → List Event → Prop
  | start : HandedOver since [] []
  /-- An event that is new enough is handed over, if its key was not before. -/
  | new {items : List FeedItem} {events : List Event} {item : FeedItem} {e : Event}
      (h : HandedOver since items events) (hd : item.Delivers e) (he : e.Eligible since)
      (hk : e.key ∉ events.map Event.key) :
    HandedOver since (items ++ [item]) (events ++ [e])
  /-- Any other delivery is not, -/
  | stale {items : List FeedItem} {events : List Event} {item : FeedItem} {e : Event}
      (h : HandedOver since items events) (hd : item.Delivers e)
      (hn : ¬ (e.Eligible since ∧ e.key ∉ events.map Event.key)) :
    HandedOver since (items ++ [item]) events
  /-- and of the other items nothing is. -/
  | other {items : List FeedItem} {events : List Event} {item : FeedItem}
      (h : HandedOver since items events) (hd : ∀ e, ¬ item.Delivers e) :
    HandedOver since (items ++ [item]) events

section HandedOver
variable {since : Timestamp} {items : List FeedItem} {events : List Event}

theorem exists_handedOver (since : Timestamp) (items : List FeedItem) :
    ∃ events, HandedOver since items events := by
  induction items using List.reverseRecOn with
  | nil => exact ⟨[], .start⟩
  | append_singleton items item ih =>
    obtain ⟨events, h⟩ := ih
    by_cases hd : ∃ e, item.Delivers e
    · obtain ⟨e, hd⟩ := hd
      by_cases hn : e.Eligible since ∧ e.key ∉ events.map Event.key
      · exact ⟨_, .new h hd hn.1 hn.2⟩
      · exact ⟨_, .stale h hd hn⟩
    · exact ⟨_, .other h (not_exists.mp hd)⟩

/-- **No key is handed over twice.** -/
theorem HandedOver.nodup (h : HandedOver since items events) : (events.map Event.key).Nodup := by
  induction h with
  | start => exact List.nodup_nil
  | new h hd he hk ih =>
    rw [List.map_append, List.map_singleton, ← List.concat_eq_append]
    exact ih.concat hk
  | stale _ _ _ ih => exact ih
  | other _ _ ih => exact ih

/-- **Every key of an eligible delivery is handed over.** -/
theorem HandedOver.complete (h : HandedOver since items events) {e : Event}
    (hd : Delivered items e) (he : e.Eligible since) : e.key ∈ events.map Event.key := by
  induction h with
  | start =>
    obtain ⟨item, hitem, -⟩ := hd
    cases hitem
  | new h hd' he' hk ih =>
    rw [List.map_append, List.mem_append]
    rcases delivered_append_singleton.mp hd with hd | hd
    · exact Or.inl (ih hd)
    · rw [hd.unique hd']
      exact Or.inr (List.mem_singleton_self _)
  | stale h hd' hn ih =>
    rcases delivered_append_singleton.mp hd with hd | hd
    · exact ih hd
    · obtain rfl := hd.unique hd'
      exact not_not.mp fun hk => hn ⟨he, hk⟩
  | other h hd' ih =>
    rcases delivered_append_singleton.mp hd with hd | hd
    · exact ih hd
    · exact absurd hd (hd' e)

/-- **Only eligible deliveries are handed over.** -/
theorem HandedOver.sound (h : HandedOver since items events) {e : Event} (he : e ∈ events) :
    Delivered items e ∧ e.Eligible since := by
  have earlier {items : List FeedItem} {item : FeedItem}
      (h : Delivered items e ∧ e.Eligible since) :
      Delivered (items ++ [item]) e ∧ e.Eligible since :=
    ⟨delivered_append_singleton.mpr (Or.inl h.1), h.2⟩
  induction h with
  | start => cases he
  | new h hd he' hk ih =>
    rcases List.mem_append.mp he with he | he
    · exact earlier (ih he)
    · obtain rfl := List.mem_singleton.mp he
      exact ⟨delivered_append_singleton.mpr (Or.inr hd), he'⟩
  | stale _ _ _ ih => exact earlier (ih he)
  | other _ _ ih => exact earlier (ih he)

/-- The keys that are handed over are those of the eligible deliveries. -/
theorem HandedOver.mem_keys_iff (h : HandedOver since items events) {k : String} :
    k ∈ events.map Event.key ↔ ∃ e, Delivered items e ∧ e.Eligible since ∧ e.key = k := by
  rw [List.mem_map]
  constructor
  · rintro ⟨e, he, rfl⟩
    obtain ⟨hd, he⟩ := h.sound he
    exact ⟨e, hd, he, rfl⟩
  · rintro ⟨e, hd, he, rfl⟩
    exact List.mem_map.mp (h.complete hd he)

end HandedOver

/-! ### The admission -/

section Admission
variable {a : Admission} {item : FeedItem} {items rest : List FeedItem} {e : Event}

theorem handed_cons_of_new (hd : item.Delivers e) (he : a.isEligible e = true)
    (hk : e.key ∉ a.seen) : a.handed (item :: rest) =
      (e :: (Admission.handed ⟨a.since, e.key :: a.seen⟩ rest).1,
        (Admission.handed ⟨a.since, e.key :: a.seen⟩ rest).2) := by
  have hcheck : a.check e = (true, ⟨a.since, e.key :: a.seen⟩) := by
    simp [Admission.check, he, hk]
  rw [delivers_iff] at hd
  simp only [Admission.handed, hd, hcheck]

theorem handed_cons_of_stale (hd : item.Delivers e) (hn : ¬ (a.isEligible e = true ∧ e.key ∉ a.seen)) :
    a.handed (item :: rest) = a.handed rest := by
  have hcheck : a.check e = (false, a) := by
    simp only [Admission.check, Bool.and_eq_true, Bool.not_eq_true', List.contains_eq_mem,
      decide_eq_false_iff_not]
    rw [if_neg hn]
  rw [delivers_iff] at hd
  simp only [Admission.handed, hd, hcheck]

theorem handed_cons_of_other (hd : ∀ e, ¬ item.Delivers e) :
    a.handed (item :: rest) = a.handed rest := by
  have hnone : item.delivery? = none :=
    Option.eq_none_iff_forall_ne_some.mpr fun e he => hd e (delivers_iff.mpr he)
  simp only [Admission.handed, hnone]

/-- **Items are taken one after another.** -/
theorem handed_append (a : Admission) (items later : List FeedItem) :
    a.handed (items ++ later) = ((a.handed items).1 ++ ((a.handed items).2.handed later).1,
      ((a.handed items).2.handed later).2) := by
  induction items generalizing a with
  | nil => rfl
  | cons item rest ih =>
    rw [List.cons_append]
    by_cases hd : ∃ e, item.Delivers e
    · obtain ⟨e, hd⟩ := hd
      by_cases hn : a.isEligible e = true ∧ e.key ∉ a.seen
      · rw [handed_cons_of_new hd hn.1 hn.2, handed_cons_of_new hd hn.1 hn.2, ih]
        rfl
      · rw [handed_cons_of_stale hd hn, handed_cons_of_stale hd hn, ih]
    · rw [handed_cons_of_other (not_exists.mp hd), handed_cons_of_other (not_exists.mp hd), ih]

/-- What is not a delivery may as well be left out. -/
theorem handed_skip (hd : ∀ e, ¬ item.Delivers e) (before after : List FeedItem) :
    a.handed (before ++ item :: after) = a.handed (before ++ after) := by
  rw [handed_append, handed_append, handed_cons_of_other hd]

theorem isEligible_iff {since : Timestamp} (ha : a.since = since.truncated) :
    a.isEligible e = true ↔ e.Eligible since := by
  simp only [Admission.isEligible, Option.any_eq_true, Timestamp.notBefore_iff, ha, Event.Eligible]

/-- **An admission with what it has handed over:** it holds the second of the instant that it began
with, and exactly the keys of these events. -/
structure Admission.After (a : Admission) (since : Timestamp) (events : List Event) : Prop where
  since_eq : a.since = since.truncated
  mem_seen : ∀ k, k ∈ a.seen ↔ k ∈ events.map Event.key

/-- **The admission of a watcher hands over exactly this.** -/
theorem HandedOver.handed_eq {since : Timestamp} {events : List Event}
    (h : HandedOver since items events) :
    ((Admission.opening since).handed items).1 = events ∧
      ((Admission.opening since).handed items).2.After since events := by
  induction h with
  | start => exact ⟨rfl, rfl, fun k => Iff.rfl⟩
  | new h hd he hk ih =>
    obtain ⟨heq, ha⟩ := ih
    rw [handed_append, handed_cons_of_new hd ((isEligible_iff ha.since_eq).mpr he)
      (fun hmem => hk ((ha.mem_seen _).mp hmem)), heq]
    refine ⟨rfl, ha.since_eq, fun k => ?_⟩
    rw [List.map_append, List.mem_append, List.map_singleton, List.mem_singleton]
    exact List.mem_cons.trans (or_comm.trans (or_congr_left (ha.mem_seen k)))
  | stale h hd hn ih =>
    obtain ⟨heq, ha⟩ := ih
    rw [handed_append, handed_cons_of_stale hd fun hn' => hn
      ⟨(isEligible_iff ha.since_eq).mp hn'.1, fun hmem => hn'.2 ((ha.mem_seen _).mpr hmem)⟩, heq]
    exact ⟨List.append_nil _, ha⟩
  | other h hd ih =>
    obtain ⟨heq, ha⟩ := ih
    rw [handed_append, handed_cons_of_other hd, heq]
    exact ⟨List.append_nil _, ha⟩

theorem handedOver_handed (since : Timestamp) (items : List FeedItem) :
    HandedOver since items ((Admission.opening since).handed items).1 := by
  obtain ⟨events, h⟩ := exists_handedOver since items
  rw [h.handed_eq.1]
  exact h

end Admission

/-! ### What a watcher dispatches -/

/-- **A watcher takes items one after another:** what comes later finds what the items before left. -/
theorem follow_append (w : Watcher) (items later : List FeedItem) :
    w.follow (items ++ later) = (w.follow items).follow later := by
  rw [Watcher.follow, handed_append]
  simp only [Watcher.follow, Monitor.dispatchAll, List.foldl_append]

section Recorder
variable {m : Monitor} {label : String}

/-- A recorder that is the only handler writes down an event that is dispatched. -/
theorem dispatch_recorder (hm : m.dispatcher.registrations = [⟨.recorder label, true⟩]) (e : Event) :
    (m.dispatch e).2 = m.withBoard (m.board.note label e) := by
  obtain ⟨⟨_, board⟩, names⟩ := m
  obtain rfl := hm
  rfl

/-- **It writes down all events that are dispatched,** in their order. -/
theorem log_foldl_dispatch (hm : m.dispatcher.registrations = [⟨.recorder label, true⟩])
    (events : List Event) : (events.foldl (fun m e => (m.dispatch e).2) m).board.log =
      m.board.log ++ events.map fun e => label ++ ":" ++ e.metadata.nameAny := by
  induction events generalizing m with
  | nil => exact (List.append_nil _).symm
  | cons e rest ih =>
    have hnoted : (m.withBoard (m.board.note label e)).board.log =
        m.board.log ++ [label ++ ":" ++ e.metadata.nameAny] := rfl
    rw [List.foldl_cons, dispatch_recorder hm, ih (m := m.withBoard (m.board.note label e)) hm, hnoted,
      List.append_assoc, List.map_cons]
    rfl

end Recorder

/-! ### The main result -/

/-- One of the items delivers an event of the key, with the creation time. -/
def Dated (items : List FeedItem) (k : String) (t : Timestamp) : Prop :=
  ∃ e, Delivered items e ∧ e.key = k ∧ e.metadata.creationTimestamp = some t

/-- **Each new event is dispatched once,** whatever the feed yields. -/
structure DispatchesOnce (since : Timestamp) (items : List FeedItem) (events : List Event) : Prop where
  /-- A watcher dispatches these events of the items, in this order, each to the handlers that the ones
  before left, and does nothing else to its monitor. -/
  dispatched : ∀ m : Monitor, ((Watcher.mk (.opening since) m).follow items).monitor =
    events.foldl (fun m e => (m.dispatch e).2) m
  /-- It takes the items as they come: those of a beginning have been dealt with before the others are
  looked at. -/
  inTurn : ∀ m before after, items = before ++ after → (Watcher.mk (.opening since) m).follow items =
    ((Watcher.mk (.opening since) m).follow before).follow after
  /-- So a recorder writes down exactly these events, -/
  recorded : ∀ label, ((Watcher.mk (.opening since) (Monitor.empty.addRecorder label)).follow
    items).monitor.board.log = events.map fun e => label ++ ":" ++ e.metadata.nameAny
  /-- and these exactly are what is handed over of the items. -/
  told_iff : ∀ events', HandedOver since items events' ↔ events' = events
  /-- No key is dispatched twice, -/
  nodup : (events.map Event.key).Nodup
  /-- and every key that has an eligible delivery is dispatched. -/
  complete : ∀ e, Delivered items e → e.Eligible since → e.key ∈ events.map Event.key
  /-- Items that deliver nothing change nothing, wherever they come. -/
  skip : ∀ before item after, items = before ++ item :: after →
    item = .listing ∨ item = .listed ∨ item = .failed ∨ (∃ e, item = .deleted e) →
    ((Admission.opening since).handed (before ++ after)).1 = events
  /-- The keys that are dispatched depend on nothing but the keys and the times that are delivered,
  and so neither on the order nor on the repetition of the deliveries. -/
  keys : ∀ items', (∀ k t, Dated items k t ↔ Dated items' k t) → ∀ k,
    k ∈ events.map Event.key ↔ k ∈ ((Admission.opening since).handed items').1.map Event.key

theorem eligible_iff_dated {since : Timestamp} {items : List FeedItem} {k : String} :
    (∃ e, Delivered items e ∧ e.Eligible since ∧ e.key = k) ↔
      ∃ t, Dated items k t ∧ ¬ t.Before since.truncated := by
  constructor
  · rintro ⟨e, hd, ⟨t, ht, hle⟩, hk⟩
    exact ⟨t, ⟨e, hd, hk, ht⟩, hle⟩
  · rintro ⟨t, ⟨e, hd, hk, ht⟩, hle⟩
    exact ⟨e, hd, ⟨t, ht, hle⟩, hk⟩

/-- **A watcher dispatches each new event once.** -/
theorem watcher_dispatches_once (since : Timestamp) (items : List FeedItem) :
    DispatchesOnce since items ((Admission.opening since).handed items).1 := by
  have h := handedOver_handed since items
  refine ⟨fun m => rfl, fun m before after heq => ?_, fun label => ?_,
    fun events' => ⟨fun h' => h'.handed_eq.1.symm, fun heq => heq ▸ h⟩, h.nodup,
    fun e => h.complete, fun before item after heq hitem => ?_, fun items' hsame k => ?_⟩
  · rw [heq, follow_append]
  · exact log_foldl_dispatch (m := Monitor.empty.addRecorder label) rfl _
  · have hd (e : Event) : ¬ item.Delivers e := by
      rintro (_ | _) <;> simp at hitem
    rw [heq, handed_skip hd]
  · rw [h.mem_keys_iff, (handedOver_handed since items').mem_keys_iff, eligible_iff_dated,
      eligible_iff_dated]
    simp only [hsame]

end ClusterWait
