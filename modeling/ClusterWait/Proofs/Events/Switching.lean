import ClusterWait.Proofs.Events.Counting
import Mathlib.Data.List.Forall2

/-! # What a switch leaves of the registrations of a monitor

Of several counters of a name the switch turns the last, and a handler of another kind only if there is
no such counter. So the counters that are registered are as before, but for the last one of the name
(`posts_switch`).

The last item of a list that passes a test is changed by `modifyLast`; it stays the last under a map
that respects the test (`filterMap_modifyLast`, `mapIdx_modifyLast`). -/

namespace ClusterWait

/-! ### The last item that passes a test -/

section ModifyLast
variable {α β : Type}

/-- The list with the last item changed that passes a test. -/
def modifyLast (test : α → Bool) (f : α → α) : List α → List α
  | [] => []
  | x :: rest =>
    if rest.any test then x :: modifyLast test f rest else if test x then f x :: rest else x :: rest

variable {test : α → Bool} {f : α → α} {l : List α}

theorem modifyLast_of_any_eq_false (h : l.any test = false) : modifyLast test f l = l := by
  cases l with
  | nil => rfl
  | cons x rest =>
    rw [List.any_cons, Bool.or_eq_false_iff] at h
    rw [modifyLast, h.1, h.2]
    rfl

theorem lastPosition?_isSome : (Monitor.lastPosition? test l).isSome = l.any test := by
  induction l with
  | nil => rfl
  | cons x rest ih =>
    rw [Monitor.lastPosition?, List.any_cons, ← ih]
    cases Monitor.lastPosition? test rest with
    | some i => simp
    | none => cases test x <;> rfl

theorem modify_lastPosition? {i : Nat} (h : Monitor.lastPosition? test l = some i) :
    l.modify i f = modifyLast test f l := by
  induction l generalizing i with
  | nil => cases h
  | cons x rest ih =>
    have hany : (Monitor.lastPosition? test rest).isSome = rest.any test := lastPosition?_isSome
    rw [Monitor.lastPosition?] at h
    cases hrest : Monitor.lastPosition? test rest with
    | some j =>
      rw [hrest] at h hany
      cases h
      rw [modifyLast, ← hany, List.modify_succ_cons, ih hrest]
      rfl
    | none =>
      rw [hrest] at h hany
      rw [modifyLast, ← hany]
      by_cases hx : test x = true
      · simp only [if_pos hx] at h
        cases h
        simp [hx]
      · simp only [if_neg hx] at h
        cases h

/-- What is kept of the items and told of the kept ones is changed in the same place. -/
theorem filterMap_modifyLast {F : α → Option β} {test' : β → Bool} {f' : β → β}
    (htest : ∀ x, test x = (F x).any test') (hf : ∀ x, F (f x) = (F x).map f') :
    (modifyLast test f l).filterMap F = modifyLast test' f' (l.filterMap F) := by
  induction l with
  | nil => rfl
  | cons x rest ih =>
    have hany : rest.any test = (rest.filterMap F).any test' := by
      rw [List.any_filterMap]
      exact List.any_congr rfl fun x => htest x
    cases hx : F x with
    | none =>
      have hmiss : test x = false := by rw [htest x, hx]; rfl
      rw [List.filterMap_cons_none hx, ← ih, modifyLast, hmiss, if_neg Bool.false_ne_true]
      split_ifs with h
      · rw [List.filterMap_cons_none hx]
      · rw [List.filterMap_cons_none hx, modifyLast_of_any_eq_false (by simpa using h)]
    | some y =>
      rw [List.filterMap_cons_some hx, modifyLast, modifyLast, ← hany, htest x, hx, Option.any_some]
      split_ifs with h h'
      · rw [List.filterMap_cons_some hx, ih]
      · rw [List.filterMap_cons_some (by rw [hf, hx]; rfl)]
      · rw [List.filterMap_cons_some hx]

/-- Items that are kept of none of those changed are as before. -/
theorem filterMap_modifyLast_of_none {F : α → Option β} (h : ∀ x, test x = true → F x = none)
    (hf : ∀ x, test x = true → F (f x) = none) : (modifyLast test f l).filterMap F = l.filterMap F := by
  induction l with
  | nil => rfl
  | cons x rest ih =>
    rw [modifyLast]
    split_ifs with hrest hx
    · rw [List.filterMap_cons, List.filterMap_cons, ih]
    · rw [List.filterMap_cons_none (hf x hx), List.filterMap_cons_none (h x hx)]
    · rfl

theorem any_mapIdx {g : Nat → α → β} {test' : β → Bool} (htest : ∀ i x, test' (g i x) = test x) :
    (l.mapIdx g).any test' = l.any test := by
  rw [Bool.eq_iff_iff, List.any_eq_true, List.any_eq_true]
  constructor
  · rintro ⟨y, hy, ht⟩
    obtain ⟨i, hi, rfl⟩ := List.mem_mapIdx.mp hy
    exact ⟨l[i], List.getElem_mem hi, by rw [← htest i]; exact ht⟩
  · rintro ⟨y, hy, ht⟩
    obtain ⟨i, hi, rfl⟩ := List.getElem_of_mem hy
    exact ⟨_, List.mem_mapIdx.mpr ⟨i, hi, rfl⟩, by rw [htest]; exact ht⟩

theorem mapIdx_modifyLast {g : Nat → α → β} {test' : β → Bool} {f' : β → β}
    (htest : ∀ i x, test' (g i x) = test x) (hf : ∀ i x, f' (g i x) = g i (f x)) :
    modifyLast test' f' (l.mapIdx g) = (modifyLast test f l).mapIdx g := by
  induction l generalizing g with
  | nil => rfl
  | cons x rest ih =>
    have hany : (rest.mapIdx fun i => g (i + 1)).any test' = rest.any test :=
      any_mapIdx fun i x => htest (i + 1) x
    rw [List.mapIdx_cons, modifyLast, modifyLast, hany, htest]
    split_ifs with h h'
    · rw [List.mapIdx_cons, ← ih (fun i x => htest (i + 1) x) fun i x => hf (i + 1) x]
    · rw [List.mapIdx_cons, hf]
    · rw [List.mapIdx_cons]

theorem map_modifyLast {g : α → β} (h : ∀ x, g (f x) = g x) : (modifyLast test f l).map g = l.map g := by
  induction l with
  | nil => rfl
  | cons x rest ih =>
    rw [modifyLast]
    split_ifs
    · rw [List.map_cons, List.map_cons, ih]
    · rw [List.map_cons, List.map_cons, h]
    · rfl

theorem any_eq_of_map_eq {l' : List α} (h : l.map test = l'.map test) :
    l.any test = l'.any test := by
  have hany (l : List α) : (l.map test).any id = l.any test := by
    rw [List.any_map, Function.id_comp]
  rw [← hany, h, hany]

theorem map_eq_of_forall₂ {R : α → α → Prop} {l' : List α} {g : α → β} (h : List.Forall₂ R l l')
    (hg : ∀ x y, R x y → g x = g y) : l.map g = l'.map g := by
  rw [← List.forall₂_eq_eq_eq, List.forall₂_map_left_iff, List.forall₂_map_right_iff]
  exact h.imp hg

/-- Lists that agree place by place do so when the last item is changed in both. -/
theorem forall₂_modifyLast {R : α → α → Prop} {l' : List α} (htest : ∀ x y, R x y → test x = test y)
    (hf : ∀ x y, R x y → R (f x) (f y)) (h : List.Forall₂ R l l') :
    List.Forall₂ R (modifyLast test f l) (modifyLast test f l') := by
  induction h with
  | nil => exact .nil
  | @cons x y rest rest' hxy hrest ih =>
    have hany : rest.any test = rest'.any test := any_eq_of_map_eq (map_eq_of_forall₂ hrest htest)
    rw [modifyLast, modifyLast, hany, htest x y hxy]
    split_ifs
    · exact .cons hxy ih
    · exact .cons (hf x y hxy) hrest
    · exact .cons hxy hrest

end ModifyLast

/-! ### A switch -/

theorem Registration.post?_setEnabled (r : Registration Handler) (on : Bool) :
    Registration.post? { r with enabled := on } = r.post?.map fun p => { p with enabled := on } := by
  obtain ⟨handler, enabled⟩ := r
  cases handler <;> rfl

/-- **The switch of a name is that of the last counter of the name,** or else of a handler without a
counter. -/
theorem posts_switch (m : Monitor) (name : String) (on : Bool) :
    ((m.switch name on).getD m).dispatcher.registrations.filterMap Registration.post? =
      modifyLast (·.name == name) (fun p => { p with enabled := on })
        (m.dispatcher.registrations.filterMap Registration.post?) := by
  have htest (r : Registration Handler) :
      Monitor.isCounter name r.handler = r.post?.any (·.name == name) := by
    obtain ⟨handler, enabled⟩ := r
    cases handler <;> rfl
  unfold Monitor.switch Monitor.position?
  cases hc : Monitor.lastPosition? (fun r => Monitor.isCounter name r.handler)
      m.dispatcher.registrations with
  | some i =>
    simp only [Option.some_or, Option.map_some, Option.getD_some, Dispatcher.switch,
      modify_lastPosition? hc]
    exact filterMap_modifyLast htest fun r => r.post?_setEnabled on
  | none =>
    -- no counter has the name, and what else has it keeps no post
    have hnone : (m.dispatcher.registrations.filterMap Registration.post?).any (·.name == name) =
        false := by
      have h : (Monitor.lastPosition? (fun r => Monitor.isCounter name r.handler)
          m.dispatcher.registrations).isSome = m.dispatcher.registrations.any
            fun r => Monitor.isCounter name r.handler := lastPosition?_isSome
      rw [hc] at h
      rw [List.any_filterMap]
      exact (List.any_congr rfl fun r => (htest r).symm).trans h.symm
    rw [modifyLast_of_any_eq_false hnone]
    cases hl : Monitor.lastPosition? (fun r => Monitor.isLogger name r.handler)
        m.dispatcher.registrations with
    | none => rfl
    | some i =>
      simp only [Option.none_or, Option.map_some, Option.getD_some, Dispatcher.switch,
        modify_lastPosition? hl]
      have hlogger (r : Registration Handler) (h : Monitor.isLogger name r.handler = true) :
          r.post? = none := by
        obtain ⟨handler, enabled⟩ := r
        cases handler with
        | counter => cases h
        | _ => rfl
      exact filterMap_modifyLast_of_none hlogger fun r h => hlogger _ h

end ClusterWait
