import ClusterWait.Proofs.Events.Admission
import ClusterWait.Proofs.Wait.Timeline

/-! # Handlers of a watcher that has started

A watcher has started when its feed's first list is complete (`FirstListed`), if its context is live
then; its start fails when the context ends before, or the feed does. What was delivered until
then is never told to anybody afterwards, whatever the feed yields again, as long as events keep their
creation times (`Steady`): if it is old it is not eligible, and if it is new it was handed over, to
nobody.

A `Session` is what follows: items arrive, handlers are registered and switched by the caller or by
each other, and their world changes. It writes down which handler ran for which event. A watcher that
takes items is a session of its monitor (`run_monitoring`).

* `splitSynced_eq_some_iff`, `splitSynced_eq_none_iff`: the first list in what a feed yields.
* `starts_iff`: how a start goes.
* `Session.mem_ran_run`: handlers run for events that the admission hands over, and for no others.
* `watcher_starts_clean` puts this together. -/

namespace ClusterWait

/-! ### The start -/

/-- **The first list is complete** with the item after some arrivals, at an instant. -/
structure FirstListed (arrivals before : List Arrival) (instant : Nat) (rest : List Arrival) :
    Prop where
  split : arrivals = before ++ ⟨instant, .listed⟩ :: rest
  first : ∀ a ∈ before, a.item ≠ .listed

namespace Watcher

theorem splitSynced_eq_none_iff {arrivals : List Arrival} :
    splitSynced arrivals = none ↔ ∀ a ∈ arrivals, a.item ≠ .listed := by
  induction arrivals with
  | nil => simp [splitSynced]
  | cons a rest ih =>
    by_cases ha : a.item = .listed
    · simp [splitSynced, ha]
    · simp [splitSynced, ha, ih]

theorem splitSynced_eq_some_iff {arrivals rest : List Arrival} {items : List FeedItem}
    {instant : Nat} : splitSynced arrivals = some (items, instant, rest) ↔
      ∃ before, FirstListed arrivals before instant rest ∧
        items = before.map (·.item) ++ [.listed] := by
  induction arrivals generalizing items with
  | nil =>
    refine ⟨(fun h => by cases h), ?_⟩
    rintro ⟨before, ⟨hsplit, -⟩, -⟩
    simp at hsplit
  | cons a later ih =>
    by_cases ha : a.item = .listed
    · rw [splitSynced, if_pos ha]
      constructor
      · rintro ⟨⟩
        exact ⟨[], ⟨by rw [← ha]; rfl, List.forall_mem_nil _⟩, rfl⟩
      · rintro ⟨_ | ⟨x, before⟩, ⟨hsplit, hfirst⟩, rfl⟩
        · cases hsplit
          rfl
        · cases hsplit
          exact absurd ha (hfirst a List.mem_cons_self)
    · rw [splitSynced, if_neg ha, Option.map_eq_some_iff]
      constructor
      · rintro ⟨⟨items', instant', rest'⟩, hs, heq⟩
        cases heq
        obtain ⟨before, ⟨rfl, hfirst⟩, rfl⟩ := ih.mp hs
        exact ⟨a :: before, ⟨rfl, List.forall_mem_cons.mpr ⟨ha, hfirst⟩⟩, rfl⟩
      · rintro ⟨_ | ⟨x, before⟩, ⟨hsplit, hfirst⟩, rfl⟩
        · cases hsplit
          exact absurd rfl ha
        · cases hsplit
          exact ⟨_, ih.mpr ⟨before, ⟨rfl, fun b hb => hfirst b (List.mem_cons_of_mem _ hb)⟩, rfl⟩,
            rfl⟩

end Watcher

/-- **What the feed comes to first,** and when: the first list is complete, or the feed is over without
one. -/
inductive Comes (since : Timestamp) (arrivals : List Arrival) (closed : Option Nat) :
    Nat → Except WatchError (Watcher × Nat × List Arrival) → Prop
  | synced {before : List Arrival} {instant : Nat} {rest : List Arrival}
      (h : FirstListed arrivals before instant rest) :
    Comes since arrivals closed instant (.ok ((Watcher.mk (.opening since) .empty).follow
      (before.map (·.item) ++ [.listed]), instant, rest))
  | closed {instant : Nat} (h : ∀ a ∈ arrivals, a.item ≠ .listed) (ho : closed = some instant) :
    Comes since arrivals closed instant (.error .ended)

/-- **How a start goes.** It goes as the feed comes to first, if the context is live then; it fails at
the first instant at which the context has ended, if that is no later; and it goes on for ever if
neither ever happens. -/
inductive Starts (since : Timestamp) (l : Timeline) (c : Context) (arrivals : List Arrival)
    (closed : Option Nat) : Option (Except WatchError (Watcher × Nat × List Arrival)) → Prop
  | comes {instant : Nat} {outcome : Except WatchError (Watcher × Nat × List Arrival)}
      (h : Comes since arrivals closed instant outcome)
      (hl : (l.atInstant (l.now + instant)).err c = none) :
    Starts since l c arrivals closed (some outcome)
  | ended {n : Nat} {cause : Cancellation}
      (hn : IsLeast {n | l.now ≤ n ∧ (l.atInstant n).ended c = true} n)
      (he : (l.atInstant n).err c = some cause)
      (h : ∀ instant outcome, Comes since arrivals closed instant outcome → n ≤ l.now + instant) :
    Starts since l c arrivals closed (some (.error (.notSynced cause)))
  | never (h : ∀ a ∈ arrivals, a.item ≠ .listed) (ho : closed = none)
      (hl : ∀ n, l.now ≤ n → (l.atInstant n).err c = none) :
    Starts since l c arrivals closed none

section Start
variable {since : Timestamp} {l : Timeline} {c : Context} {arrivals : List Arrival}
  {closed : Option Nat} {outcome : Option (Except WatchError (Watcher × Nat × List Arrival))}

theorem sync_eq_some_iff {instant : Nat}
    {outcome : Except WatchError (Watcher × Nat × List Arrival)} :
    Watcher.sync since arrivals closed = some (instant, outcome) ↔
      Comes since arrivals closed instant outcome := by
  unfold Watcher.sync
  constructor
  · intro h
    cases hs : Watcher.splitSynced arrivals with
    | none =>
      rw [hs] at h
      obtain ⟨_, ho, heq⟩ := Option.map_eq_some_iff.mp h
      cases heq
      exact .closed (Watcher.splitSynced_eq_none_iff.mp hs) ho
    | some s =>
      obtain ⟨items, instant', rest⟩ := s
      rw [hs] at h
      cases h
      obtain ⟨before, hfirst, rfl⟩ := Watcher.splitSynced_eq_some_iff.mp hs
      exact .synced hfirst
  · rintro (h | ⟨h, rfl⟩)
    · rw [Watcher.splitSynced_eq_some_iff.mpr ⟨_, h, rfl⟩]
    · rw [Watcher.splitSynced_eq_none_iff.mpr h]
      rfl

theorem sync_eq_none_iff : Watcher.sync since arrivals closed = none ↔
    (∀ a ∈ arrivals, a.item ≠ .listed) ∧ closed = none := by
  rw [← Watcher.splitSynced_eq_none_iff, Watcher.sync]
  cases Watcher.splitSynced arrivals <;> simp

/-- **A start goes no other way.** -/
theorem Starts.start_eq (h : Starts since l c arrivals closed outcome) :
    Watcher.start since l c arrivals closed = outcome := by
  unfold Watcher.start
  cases h with
  | @comes instant outcome h hl =>
    have hlive : l.err c = none := (l.precedes_advance instant).live hl
    have hend : (l.endOf c).any (· ≤ l.now + instant) = false := by
      rw [← Timeline.ended_atInstant]
      exact Timeline.ended_eq_false_iff.mpr hl
    simp only [hlive, sync_eq_some_iff.mpr h, hend, Bool.false_eq_true, if_false]
  | @ended n cause hn he h =>
    cases hlive : l.err c with
    | some cause' =>
      -- the context has ended at once
      have hnow : n = l.now := Nat.le_antisymm
        (hn.2 ⟨le_rfl, Option.isSome_iff_exists.mpr ⟨cause', hlive⟩⟩) hn.1.1
      obtain rfl : cause = cause' := Option.some.inj (he.symm.trans (hnow ▸ hlive))
      rfl
    | none =>
      have hend := Timeline.endOf_eq_some hlive hn
      have hcause : Watcher.causeAt l c n = cause := congrArg (fun e => e.getD .cancelled) he
      cases hs : Watcher.sync since arrivals closed with
      | none => simp only [hend, hcause]
      | some s =>
        obtain ⟨instant, outcome⟩ := s
        have hle := h instant outcome (sync_eq_some_iff.mp hs)
        simp only [hend, Option.any_some, decide_eq_true hle, if_true, Option.getD_some, hcause]
  | never h ho hl =>
    have hlive : l.err c = none := hl l.now le_rfl
    simp only [hlive, sync_eq_none_iff.mpr ⟨h, ho⟩, Timeline.endOf_eq_none hl]

theorem exists_starts (since : Timestamp) (l : Timeline) (c : Context) (arrivals : List Arrival)
    (closed : Option Nat) : ∃ outcome, Starts since l c arrivals closed outcome := by
  by_cases hs : ∃ instant outcome, Comes since arrivals closed instant outcome ∧
      (l.atInstant (l.now + instant)).err c = none
  · obtain ⟨instant, outcome, h, hl⟩ := hs
    exact ⟨_, .comes h hl⟩
  · -- the context has ended when the feed comes to something, if that ever happens
    have hdead (instant : Nat) (outcome : Except WatchError (Watcher × Nat × List Arrival))
        (h : Comes since arrivals closed instant outcome) :
        (l.atInstant (l.now + instant)).err c ≠ none :=
      fun hl => hs ⟨instant, outcome, h, hl⟩
    by_cases hend : ∃ n, l.now ≤ n ∧ (l.atInstant n).err c ≠ none
    · obtain ⟨n, cause, hn, he⟩ := Timeline.exists_isLeast_ended hend
      exact ⟨_, .ended hn he fun instant outcome h =>
        hn.2 ⟨Nat.le_add_right _ _, Option.isSome_iff_ne_none.mpr (hdead instant outcome h)⟩⟩
    · have hl (n : Nat) (hn : l.now ≤ n) : (l.atInstant n).err c = none :=
        not_not.mp fun he => hend ⟨n, hn, he⟩
      have hnone : Watcher.sync since arrivals closed = none := by
        by_contra hsome
        obtain ⟨⟨instant, outcome⟩, hsome⟩ := Option.ne_none_iff_exists'.mp hsome
        exact hdead instant outcome (sync_eq_some_iff.mp hsome) (hl _ (Nat.le_add_right _ _))
      obtain ⟨h, ho⟩ := sync_eq_none_iff.mp hnone
      exact ⟨_, .never h ho hl⟩

/-- **Every start goes one of the ways.** -/
theorem starts_iff : Starts since l c arrivals closed outcome ↔
    Watcher.start since l c arrivals closed = outcome := by
  refine ⟨Starts.start_eq, ?_⟩
  rintro rfl
  obtain ⟨outcome, h⟩ := exists_starts since l c arrivals closed
  rw [h.start_eq]
  exact h

/-- A start that succeeds does so with the first complete list. -/
theorem Starts.of_ok {w : Watcher} {instant : Nat} {rest : List Arrival}
    (h : Starts since l c arrivals closed (some (.ok (w, instant, rest)))) :
    ∃ before, FirstListed arrivals before instant rest ∧
      w = (Watcher.mk (.opening since) .empty).follow (before.map (·.item) ++ [.listed]) := by
  cases h with
  | comes h =>
    cases h with
    | synced h => exact ⟨_, h, rfl⟩

end Start

/-! ### What follows -/

/-- A handler ran for an event, at its position among the registrations. -/
structure Ran where
  event : Event
  position : Nat
deriving DecidableEq

/-- **What happens after a start:** an item of the feed arrives, a handler is registered or switched,
or the world of the handlers changes. -/
inductive Happening (κ ω : Type) where
  | item (item : FeedItem)
  | command (command : Command κ)
  | outside (change : ω → ω)

/-- The items that arrive. -/
def arriving {κ ω : Type} : List (Happening κ ω) → List FeedItem
  | [] => []
  | .item item :: rest => item :: arriving rest
  | _ :: rest => arriving rest

/-- **What follows a start:** the admission, the handlers, and which of them ran. -/
structure Session (κ ω : Type) where
  admission : Admission
  dispatcher : Dispatcher κ ω
  ran : List Ran

section Session
variable {κ ω : Type}

/-- The positions at which handlers run when the registrations at some positions meet an event in
turn. -/
def Dispatcher.ranAt {ε : Type} (b : Behaviour ε κ ω) (event : ε) :
    List Nat → Dispatcher κ ω → List Nat
  | [], _ => []
  | position :: rest, d =>
    let (ran, d) := d.visit b event position
    (if ran then [position] else []) ++ ranAt b event rest d

/-- They are as many as a dispatch counts. -/
theorem length_ranAt {ε : Type} (b : Behaviour ε κ ω) (event : ε) (positions : List Nat)
    (d : Dispatcher κ ω) :
    (Dispatcher.ranAt b event positions d).length = (d.visitAll b event positions).1 := by
  induction positions generalizing d with
  | nil => rfl
  | cons position rest ih =>
    simp only [Dispatcher.ranAt, Dispatcher.visitAll, List.length_append, ih]
    cases (d.visit b event position).1 <;> rfl

namespace Session

/-- All registrations meet an event. -/
def meet (b : Behaviour Event κ ω) (s : Session κ ω) (e : Event) : Session κ ω where
  admission := s.admission
  dispatcher := (s.dispatcher.dispatch b e).2
  ran := s.ran ++ (Dispatcher.ranAt b e (List.range s.dispatcher.size) s.dispatcher).map (Ran.mk e)

/-- A handler is written down for each that ran. -/
theorem length_ran_meet (b : Behaviour Event κ ω) (s : Session κ ω) (e : Event) :
    (s.meet b e).ran.length = s.ran.length + (s.dispatcher.dispatch b e).1 := by
  rw [meet, List.length_append, List.length_map, length_ranAt]
  rfl

def step (b : Behaviour Event κ ω) (s : Session κ ω) : Happening κ ω → Session κ ω
  | .item item =>
    let (events, admission) := s.admission.handed [item]
    events.foldl (meet b) { s with admission }
  | .command command => { s with dispatcher := s.dispatcher.obey command }
  | .outside change => { s with dispatcher.world := change s.dispatcher.world }

/-- **A session that goes on.** -/
def run (b : Behaviour Event κ ω) (s : Session κ ω) (happenings : List (Happening κ ω)) :
    Session κ ω :=
  happenings.foldl (step b) s

/-! #### What is handed over in a session -/

theorem admission_foldl_meet (b : Behaviour Event κ ω) (s : Session κ ω) (events : List Event) :
    (events.foldl (meet b) s).admission = s.admission := by
  induction events generalizing s with
  | nil => rfl
  | cons e rest ih => exact ih (s.meet b e)

/-- The handlers that run when events are met run for these. -/
theorem mem_ran_foldl_meet (b : Behaviour Event κ ω) (s : Session κ ω) (events : List Event)
    {x : Ran} (h : x ∈ (events.foldl (meet b) s).ran) : x ∈ s.ran ∨ x.event ∈ events := by
  induction events generalizing s with
  | nil => exact Or.inl h
  | cons e rest ih =>
    rcases ih (s.meet b e) h with h | h
    · rcases List.mem_append.mp h with h | h
      · exact Or.inl h
      · obtain ⟨position, -, rfl⟩ := List.mem_map.mp h
        exact Or.inr List.mem_cons_self
    · exact Or.inr (List.mem_cons_of_mem _ h)

/-- **Handlers run for events that are handed over, and for no others.** -/
theorem mem_ran_run (b : Behaviour Event κ ω) (s : Session κ ω) (happenings : List (Happening κ ω))
    {x : Ran} (h : x ∈ (s.run b happenings).ran) :
    x ∈ s.ran ∨ x.event ∈ (s.admission.handed (arriving happenings)).1 := by
  induction happenings generalizing s with
  | nil => exact Or.inl h
  | cons first rest ih =>
    have hrest := ih (s.step b first) h
    cases first with
    | item item =>
      rw [arriving, ← List.singleton_append, handed_append]
      rw [step, admission_foldl_meet] at hrest
      rcases hrest with hrest | hrest
      · rcases mem_ran_foldl_meet b _ _ hrest with hrest | hrest
        · exact Or.inl hrest
        · exact Or.inr (List.mem_append_left _ hrest)
      · exact Or.inr (List.mem_append_right _ hrest)
    | command command => exact hrest
    | outside change => exact hrest

/-- The handlers of a monitor meet the events that it dispatches. -/
theorem foldl_meet_monitoring (a : Admission) (m : Monitor) (ran : List Ran) (events : List Event) :
    ∃ ran', events.foldl (meet monitoring) ⟨a, m.dispatcher, ran⟩ =
      ⟨a, (m.dispatchAll events).dispatcher, ran'⟩ := by
  induction events generalizing m ran with
  | nil => exact ⟨ran, rfl⟩
  | cons e rest ih => exact ih (m.dispatch e).2 _

end Session

/-- A watcher as a session in which some handlers ran. -/
def Watcher.session (w : Watcher) (ran : List Ran) : Session Handler Board :=
  ⟨w.admission, w.monitor.dispatcher, ran⟩

/-- **A watcher that takes items is a session** of the handlers of its monitor. -/
theorem run_monitoring (w : Watcher) (items : List FeedItem) (ran : List Ran) : ∃ ran',
    (w.session ran).run monitoring (items.map .item) = (w.follow items).session ran' := by
  induction items generalizing w ran with
  | nil => exact ⟨ran, rfl⟩
  | cons item rest ih =>
    obtain ⟨ran₁, hfirst⟩ := Session.foldl_meet_monitoring (w.admission.handed [item]).2 w.monitor ran
      (w.admission.handed [item]).1
    obtain ⟨ran₂, hrest⟩ := ih (w.follow [item]) ran₁
    refine ⟨ran₂, ?_⟩
    rw [← List.singleton_append, follow_append, ← hrest, List.map_append, Session.run,
      List.foldl_append]
    exact congrArg (Session.run monitoring · (rest.map .item)) hfirst

end Session

/-! ### The main result -/

/-- **Events keep their creation times:** all deliveries of a key carry the same one. -/
def Steady (items : List FeedItem) : Prop :=
  ∀ e e', Delivered items e → Delivered items e' → e.key = e'.key →
    e.metadata.creationTimestamp = e'.metadata.creationTimestamp

/-- **What was delivered earlier is never told again.** -/
theorem key_ne_of_ran {κ ω : Type} {since : Timestamp} {earlier : List FeedItem}
    {b : Behaviour Event κ ω} {d : Dispatcher κ ω} {happenings : List (Happening κ ω)}
    (hsteady : Steady (earlier ++ arriving happenings)) {x : Ran}
    (hx : x ∈ (Session.run b ⟨((Admission.opening since).handed earlier).2, d, []⟩ happenings).ran)
    {e : Event} (he : Delivered earlier e) : x.event.key ≠ e.key := by
  intro hkey
  have hx := (Session.mem_ran_run b _ happenings hx).resolve_left List.not_mem_nil
  have hall := handedOver_handed since (earlier ++ arriving happenings)
  rw [handed_append] at hall
  obtain ⟨hd, t, ht, hle⟩ := hall.sound (List.mem_append_right _ hx)
  have hlater : Delivered (earlier ++ arriving happenings) e := by
    obtain ⟨item, hitem, h⟩ := he
    exact ⟨item, List.mem_append_left _ hitem, h⟩
  -- the earlier delivery is as old as this one, and so its key was handed over
  have htime : e.metadata.creationTimestamp = some t := by
    rw [← hsteady _ _ hd hlater hkey, ht]
  have hmem := (handedOver_handed since earlier).complete he ⟨t, htime, hle⟩
  have hnodup := hall.nodup
  rw [List.map_append, List.nodup_append] at hnodup
  exact hnodup.2.2 _ hmem _ (List.mem_map_of_mem hx) hkey.symm

/-- **Handlers of a watcher that has started only see new events.** -/
structure StartsClean (since : Timestamp) (l : Timeline) (c : Context) (arrivals : List Arrival)
    (closed : Option Nat) : Prop where
  /-- The watcher starts with the first complete list, fails when the context or the feed ends first,
  and goes no other way. -/
  starts_iff : ∀ outcome, Watcher.start since l c arrivals closed = outcome ↔
    Starts since l c arrivals closed outcome
  /-- Until it has started nobody is told anything. -/
  idle : ∀ w instant rest, Watcher.start since l c arrivals closed = some (.ok (w, instant, rest)) →
    w.monitor = .empty
  /-- The watcher that takes items afterwards, with whatever monitor, is a session of its handlers: it
  leaves the admission and the handlers of the session, -/
  follows : ∀ (w : Watcher) (m : Monitor) (items : List FeedItem), ∃ ran,
    Session.run monitoring ⟨w.admission, m.dispatcher, []⟩ (items.map .item) =
      ⟨(Watcher.follow { w with monitor := m } items).admission,
        (Watcher.follow { w with monitor := m } items).monitor.dispatcher, ran⟩
  /-- and a session writes down a handler for each that ran by the count of the dispatch. -/
  counted : ∀ (κ ω : Type) (b : Behaviour Event κ ω) (s : Session κ ω) (e : Event),
    (s.meet b e).ran.length = s.ran.length + (s.dispatcher.dispatch b e).1
  /-- Whatever handlers there are then, whatever they do and whatever happens later, none ever runs
  for an event whose key was delivered before. -/
  fresh : ∀ w instant rest before,
    Watcher.start since l c arrivals closed = some (.ok (w, instant, rest)) →
    FirstListed arrivals before instant rest → ∀ (κ ω : Type) (b : Behaviour Event κ ω)
      (d : Dispatcher κ ω) (happenings : List (Happening κ ω)),
      Steady (before.map (·.item) ++ arriving happenings) →
        ∀ x ∈ (Session.run b ⟨w.admission, d, []⟩ happenings).ran,
          ∀ e, Delivered (before.map (·.item)) e → x.event.key ≠ e.key

/-- A watcher without handlers stays so. -/
theorem dispatchAll_empty (events : List Event) : Monitor.empty.dispatchAll events = .empty := by
  induction events with
  | nil => rfl
  | cons e rest ih => exact ih

/-- The end of a list delivers nothing. -/
theorem Steady.insert_listed {items later : List FeedItem} (h : Steady (items ++ later)) :
    Steady (items ++ [.listed] ++ later) := by
  have hsame {e : Event} (hd : Delivered (items ++ [.listed] ++ later) e) :
      Delivered (items ++ later) e := by
    obtain ⟨item, hitem, hd⟩ := hd
    refine ⟨item, ?_, hd⟩
    have hne : item ≠ .listed := by
      rintro rfl
      cases hd
    simpa [hne] using hitem
  exact fun e e' hd hd' => h e e' (hsame hd) (hsame hd')

/-- **A watcher starts clean.** -/
theorem watcher_starts_clean (since : Timestamp) (l : Timeline) (c : Context)
    (arrivals : List Arrival) (closed : Option Nat) : StartsClean since l c arrivals closed := by
  refine ⟨fun outcome => starts_iff.symm, fun w instant rest h => ?_,
    fun w m items => run_monitoring { w with monitor := m } items [],
    fun κ ω b s e => Session.length_ran_meet b s e,
    fun w instant rest before h hfirst κ ω b d happenings hsteady x hx e he => ?_⟩
  · obtain ⟨before, -, rfl⟩ := (starts_iff.mpr h).of_ok
    exact dispatchAll_empty _
  · obtain ⟨before', hfirst', rfl⟩ := (starts_iff.mpr h).of_ok
    obtain rfl : before = before' :=
      List.append_cancel_right (hfirst.split.symm.trans hfirst'.split)
    exact key_ne_of_ran hsteady.insert_listed hx (delivered_append_singleton.mpr (Or.inl he))

/-- Of an old event, one that was new at the start and one that came later, all told again when the
list is asked for anew, a handler only sees the last. -/
example :
    let event (uid : String) (year : Int) : Event :=
      ⟨{ uid := some uid, creationTimestamp := some ⟨year, 1, 1, 0, 0, 0, 0⟩ }, {}, none, none, none⟩
    let eager : Behaviour Event Unit Unit := ⟨fun _ _ w => (true, w), fun _ _ w => ([], w)⟩
    let offers : List FeedItem :=
      [.listing, .offered (event "old" 2023), .offered (event "new" 2025), .listed]
    (Session.run eager
      ⟨((Admission.opening ⟨2024, 1, 1, 0, 0, 0, 0⟩).handed offers).2, ⟨[], ()⟩, []⟩
      (.command (.register () true) :: (.applied (event "later" 2025) :: offers).map .item)).ran =
        [⟨event "later" 2025, 0⟩] := by
  decide +kernel

end ClusterWait
