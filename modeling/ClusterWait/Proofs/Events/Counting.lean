import ClusterWait.Events.Monitor
import ClusterWait.Proofs.Dictionary

/-! # What an event leaves on the board of a monitor

The handlers of a monitor turn no switches, and what one of them does depends on the event and on its
registration alone. So an event that is dispatched is met by each registration in turn
(`dispatch_monitoring`): `Registration.meet` says what the registration makes of the board, and
`Registration.adds` which registrations it adds.

* `counts_meetAll`: a count goes up by the number of registrations that count the event for it.
* `groups_meetAll`: the flags of groups are raised, once, if some registration raises them. -/

namespace ClusterWait

/-! ### What one handler does -/

/-- The counter counts the event. -/
def CounterKind.accepts : CounterKind → Event → Bool
  | .scaleUp _, e => e.reports .scaledUp && startsScaleUp e.text
  | .scaleDown, e => e.reports .scaledDown
  | .nodeLimit, e => e.reports .nodeLimitReached
  | .custom accepts, e => accepts e

/-- The position of the groups whose flags the counter raises. -/
def CounterKind.groups? : CounterKind → Option Nat
  | .scaleUp groups => some groups
  | _ => none

namespace Registration

/-- The counter that a registration switches: its position on the board, its name, its kind, and the
switch. -/
structure Post where
  position : Nat
  name : String
  kind : CounterKind
  enabled : Bool

/-- The counter of a registration, if it has one. -/
def post? (r : Registration Handler) : Option Post :=
  match r.handler with
  | .counter name position kind => some ⟨position, name, kind, r.enabled⟩
  | _ => none

/-- The counter counts the event at the position. -/
def Post.counts (position : Nat) (e : Event) (p : Post) : Bool :=
  p.enabled && (p.position == position && p.kind.accepts e)

/-- The counter raises the flags of the groups at the position. -/
def Post.raises (groups : Nat) (e : Event) (p : Post) : Bool :=
  p.enabled && (p.kind.groups? == some groups && e.reports .scaledUp)

/-- **What a registration makes of the board** when it meets an event. -/
def meet (e : Event) (b : Board) (r : Registration Handler) : Board :=
  if r.enabled then
    match monitoring.consult r.handler e b with
    | (false, b) => b
    | (true, b) => (monitoring.run r.handler e b).2
  else b

/-- The registrations that it adds. -/
def adds (e : Event) (r : Registration Handler) : List (Registration Handler) :=
  match r.handler with
  | .logger _ accepts (some further) =>
    if r.enabled && accepts e then [⟨.logger further (fun _ => true) none, true⟩] else []
  | _ => []

variable {r : Registration Handler} {e : Event} {b : Board}

theorem post?_of_mem_adds {r' : Registration Handler} (h : r' ∈ r.adds e) : r'.post? = none := by
  unfold adds at h
  split at h
  · split at h
    · rw [List.mem_singleton.mp h]
      rfl
    · cases h
  · cases h

/-! ### What one registration leaves -/

/-- The board after a counter was asked about an event. -/
def asked (kind : CounterKind) (e : Event) (b : Board) : Board :=
  match kind with
  | .scaleUp groups => if e.reports .scaledUp then b.observe groups e.text else b
  | _ => b

theorem consult_counter (name : String) (position : Nat) (kind : CounterKind) :
    monitoring.consult (.counter name position kind) e b = (kind.accepts e, asked kind e b) := by
  cases kind with
  | scaleUp groups =>
    simp only [monitoring, CounterKind.consult, CounterKind.accepts, asked]
    cases e.reports .scaledUp <;> rfl
  | scaleDown => rfl
  | nodeLimit => rfl
  | custom accepts => rfl

theorem counts_asked (kind : CounterKind) : (asked kind e b).counts = b.counts := by
  cases kind with
  | scaleUp groups =>
    rw [asked]
    split_ifs <;> rfl
  | _ => rfl

theorem groups_asked (kind : CounterKind) (g : Nat) : (asked kind e b).groups[g]? =
    if kind.groups? == some g && e.reports .scaledUp then b.groups[g]?.map (·.observe e.text)
    else b.groups[g]? := by
  cases kind with
  | scaleUp groups =>
    rw [asked, CounterKind.groups?]
    by_cases hr : e.reports .scaledUp = true
    · rw [if_pos hr, Board.observe, List.getElem?_modify]
      by_cases hg : groups = g
      · simp [hg, hr]
      · simp [hg]
    · simp [hr]
  | _ => simp [asked, CounterKind.groups?]

theorem meet_counter (name : String) (position : Nat) (kind : CounterKind) :
    meet e b ⟨.counter name position kind, true⟩ =
      if kind.accepts e then (asked kind e b).bump position else asked kind e b := by
  simp only [meet, if_true, consult_counter]
  cases kind.accepts e <;> rfl

theorem meet_of_post?_eq_none (h : r.post? = none) :
    (r.meet e b).counts = b.counts ∧ (r.meet e b).groups = b.groups := by
  obtain ⟨handler, enabled⟩ := r
  cases enabled with
  | false => exact ⟨rfl, rfl⟩
  | true =>
    cases handler with
    | counter name position kind => cases h
    | logger name accepts registers =>
      simp only [meet, if_true, monitoring]
      cases accepts e <;> cases registers <;> exact ⟨rfl, rfl⟩
    | recorder label => exact ⟨rfl, rfl⟩

theorem exists_of_post?_eq_some {p : Post} (h : r.post? = some p) :
    r = ⟨.counter p.name p.position p.kind, p.enabled⟩ := by
  obtain ⟨handler, enabled⟩ := r
  cases handler <;> cases h
  rfl

theorem counts_meet (i : Nat) : (r.meet e b).counts[i]? =
    if r.post?.any (Post.counts i e) then b.counts[i]?.map (· + 1) else b.counts[i]? := by
  cases hp : r.post? with
  | none => rw [(meet_of_post?_eq_none hp).1]; rfl
  | some p =>
    rw [exists_of_post?_eq_some hp, Option.any_some, Post.counts]
    cases p.enabled with
    | false => rfl
    | true =>
      rw [meet_counter]
      cases hacc : p.kind.accepts e with
      | false => simp [counts_asked]
      | true =>
        rw [if_pos rfl, Board.bump, List.getElem?_modify, counts_asked]
        by_cases hi : p.position = i
        · simp [hi]
        · simp [hi]

theorem groups_meet (g : Nat) : (r.meet e b).groups[g]? =
    if r.post?.any (Post.raises g e) then b.groups[g]?.map (·.observe e.text) else b.groups[g]? := by
  cases hp : r.post? with
  | none => rw [(meet_of_post?_eq_none hp).2]; rfl
  | some p =>
    rw [exists_of_post?_eq_some hp, Option.any_some, Post.raises]
    cases p.enabled with
    | false => rfl
    | true =>
      rw [meet_counter, Bool.true_and, ← groups_asked]
      cases p.kind.accepts e <;> rfl

end Registration

/-! ### What all registrations leave -/

section Board
variable (e : Event) (b : Board) (rs : List (Registration Handler))

/-- **What some registrations make of the board** when they meet an event in turn. -/
def Board.meetAll : Board := rs.foldl (Registration.meet e) b

/-- **A count goes up by the number of registrations that count the event.** -/
theorem counts_meetAll (i : Nat) : (b.meetAll e rs).counts[i]? = b.counts[i]?.map
    (· + UInt32.ofNat ((rs.filterMap Registration.post?).countP (Registration.Post.counts i e))) := by
  induction rs generalizing b with
  | nil => simp [Board.meetAll]
  | cons r rest ih =>
    have hrest : b.meetAll e (r :: rest) = (r.meet e b).meetAll e rest := rfl
    rw [hrest, ih, Registration.counts_meet]
    cases hp : r.post? with
    | none => simp [hp]
    | some p =>
      rw [List.filterMap_cons_some hp, List.countP_cons, Option.any_some]
      cases hc : p.counts i e with
      | false => simp
      | true =>
        simp only [if_true, Option.map_map]
        congr 1
        funext n
        simp only [Function.comp_apply, UInt32.ofNat_add, UInt32.add_assoc, UInt32.add_comm]
        rfl

theorem ScaledGroups.observe_observe (s : ScaledGroups) (message : String) :
    (s.observe message).observe message = s.observe message := by
  simp only [ScaledGroups.observe, Dictionary.map_map, Bool.or_assoc, Bool.or_self]

/-- **Flags are raised once,** if some registration raises them. -/
theorem groups_meetAll (g : Nat) : (b.meetAll e rs).groups[g]? =
    if (rs.filterMap Registration.post?).any (Registration.Post.raises g e) then
      b.groups[g]?.map (·.observe e.text) else b.groups[g]? := by
  induction rs generalizing b with
  | nil => rfl
  | cons r rest ih =>
    have hrest : b.meetAll e (r :: rest) = (r.meet e b).meetAll e rest := rfl
    rw [hrest, ih, Registration.groups_meet]
    cases hp : r.post? with
    | none => simp [hp]
    | some p =>
      rw [List.filterMap_cons_some hp, List.any_cons, Option.any_some]
      cases hr : p.raises g e with
      | false => simp
      | true =>
        cases (rest.filterMap Registration.post?).any (Registration.Post.raises g e) with
        | false => simp
        | true =>
          -- a flag that is raised once more is as it was
          simp only [if_true, Bool.or_self, Option.map_map]
          congr 1
          funext s
          exact s.observe_observe e.text

end Board

/-! ### A dispatch -/

theorem visit_monitoring {d : Dispatcher Handler Board} {position : Nat} {r : Registration Handler}
    {e : Event} (h : d.registrations[position]? = some r) :
    (d.visit monitoring e position).2 = ⟨d.registrations ++ r.adds e, r.meet e d.world⟩ := by
  obtain ⟨handler, enabled⟩ := r
  simp only [Dispatcher.visit, h]
  cases enabled with
  | false => cases handler with
    | logger name accepts registers => cases registers <;> simp [Registration.adds, Registration.meet]
    | _ => simp [Registration.adds, Registration.meet]
  | true =>
    simp only [if_true, Registration.meet]
    cases handler with
    | counter name position kind =>
      rw [Registration.consult_counter]
      cases kind.accepts e <;> simp [Registration.adds, monitoring]
    | logger name accepts registers =>
      simp only [monitoring, Registration.adds]
      cases hacc : accepts e <;> cases registers <;> simp [Dispatcher.obey, Dispatcher.register, hacc]
    | recorder label => simp [Registration.adds, monitoring]

/-- The registrations in the middle meet an event in turn. -/
theorem visitAll_monitoring (e : Event) (rest : List (Registration Handler)) :
    ∀ (d : Dispatcher Handler Board) (before after : List (Registration Handler)),
      d.registrations = before ++ rest ++ after →
      (d.visitAll monitoring e (List.range' before.length rest.length)).2 =
        ⟨d.registrations ++ rest.flatMap (·.adds e), d.world.meetAll e rest⟩ := by
  induction rest with
  | nil => intro d before after h; simp [Dispatcher.visitAll, Board.meetAll]
  | cons r rest ih =>
    intro d before after h
    have hr : d.registrations[before.length]? = some r := by simp [h]
    have hvisit := visit_monitoring (e := e) hr
    rw [List.length_cons, List.range'_succ, Dispatcher.visitAll]
    generalize d.visit monitoring e before.length = x at hvisit
    obtain ⟨ran, d'⟩ := x
    obtain rfl : d' = _ := hvisit
    have hnext := ih ⟨d.registrations ++ r.adds e, r.meet e d.world⟩ (before ++ [r])
      (after ++ r.adds e) (by simp [h])
    rw [List.length_append, List.length_singleton] at hnext
    simp only [hnext, List.flatMap_cons, List.append_assoc]
    rfl

/-- **An event is met by each registration in turn.** -/
theorem dispatch_monitoring (d : Dispatcher Handler Board) (e : Event) :
    (d.dispatch monitoring e).2 =
      ⟨d.registrations ++ d.registrations.flatMap (·.adds e), d.world.meetAll e d.registrations⟩ := by
  have h := visitAll_monitoring e d.registrations d [] [] (by simp)
  rw [List.length_nil, ← List.range_eq_range'] at h
  exact h

end ClusterWait
