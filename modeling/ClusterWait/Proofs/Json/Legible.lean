import ClusterWait.Proofs.Json.Rereading
import ClusterWait.Proofs.Json.Settled

/-! # Documents that are read back from their text

A document is *legible* if it is read back from its text: its numbers are, no unfit part is in it, the
members of each object are in order, and it does not nest too deep. `parse?_render_eq_self_iff` says that
these are exactly the documents whose text says the document itself.

`Tells` is what the text of a document says where it stands in another one. The text of an object says an
object with the same keys (`Tells.obj`), so that what is said of a member can be followed to the inside. -/

namespace ClusterWait.Json

theorem rereadItems_eq_map (depth : Nat) (items : List Json) :
    rereadItems depth items = items.map (reread depth) := by
  induction items with
  | nil => rfl
  | cons v rest ih => rw [rereadItems, ih, List.map_cons]

theorem rereadFields_eq_map (depth : Nat) (fields : List (String × Json)) :
    rereadFields depth fields = fields.map fun f => (f.1, reread depth f.2) := by
  induction fields with
  | nil => rfl
  | cons f rest ih =>
    obtain ⟨k, v⟩ := f
    rw [rereadFields, ih, List.map_cons]

/-- **A document that is read back from its text,** where so many levels may nest. -/
inductive Legible : Nat → Json → Prop where
  | null {depth : Nat} : Legible depth .null
  | bool {depth : Nat} (b : Bool) : Legible depth (.bool b)
  | num {depth : Nat} {n : Number} : n.Legible → Legible depth (.num n)
  | str {depth : Nat} (s : String) : Legible depth (.str s)
  | arr {depth : Nat} {items : List Json} :
      (∀ v ∈ items, Legible depth v) → Legible (depth + 1) (.arr items)
  | obj {depth : Nat} {fields : List (String × Json)} :
      (fields.Pairwise fun a b => a.1 < b.1) → (∀ f ∈ fields, Legible depth f.2) →
        Legible (depth + 1) (.obj fields)

/-- **The text of the document says the other one,** where so many levels may nest. -/
def Tells (depth : Nat) (v told : Json) : Prop := (reread depth v).settled? = some told

/-- The members with the same keys are told of one another. -/
def TellsFields (depth : Nat) : List (String × Json) → List (String × Json) → Prop :=
  List.Forall₂ fun f told => f.1 = told.1 ∧ Tells depth f.2 told.2

theorem forall₂_of_settledItems? {drafts items : List Json} (h : settledItems? drafts = some items) :
    List.Forall₂ (fun draft item => settled? draft = some item) drafts items := by
  induction drafts generalizing items with
  | nil =>
    cases h
    exact .nil
  | cons draft rest ih =>
    rw [settledItems?] at h
    cases hd : settled? draft with
    | none =>
      rw [hd] at h
      cases h
    | some document =>
      simp only [hd, Option.map_eq_some_iff] at h
      obtain ⟨items, hitems, rfl⟩ := h
      exact .cons hd (ih hitems)

/-- **Members in order are settled one by one.** -/
theorem forall₂_of_settledFields? {before drafts fields : List (String × Json)}
    (hsorted : ((before ++ drafts).map Prod.fst).Pairwise (· < ·))
    (h : settledFields? before drafts = some fields) : ∃ after, fields = before ++ after ∧
      List.Forall₂ (fun draft f => draft.1 = f.1 ∧ settled? draft.2 = some f.2) drafts after := by
  induction drafts generalizing before with
  | nil =>
    cases h
    exact ⟨[], (List.append_nil _).symm, .nil⟩
  | cons draft rest ih =>
    obtain ⟨key, draft⟩ := draft
    rw [settledFields?] at h
    cases hd : settled? draft with
    | none =>
      rw [hd] at h
      cases h
    | some document =>
      have hlast : insert key document before = before ++ [(key, document)] := by
        rw [insert_eq_insertEntry]
        refine Dictionary.insertEntry_of_lt fun e he => ?_
        rw [List.map_append, List.pairwise_append] at hsorted
        exact hsorted.2.2 e.1 (List.mem_map_of_mem he) key List.mem_cons_self
      have hsorted : (((before ++ [(key, document)]) ++ rest).map Prod.fst).Pairwise (· < ·) := by
        simpa using hsorted
      simp only [hd, hlast] at h
      obtain ⟨after, rfl, hafter⟩ := ih hsorted h
      exact ⟨(key, document) :: after, by simp, .cons ⟨rfl, hd⟩ hafter⟩

/-- **What the text of an object says:** an object with the same keys. -/
theorem Tells.obj {depth : Nat} {fields : List (String × Json)} {told : Json}
    (hsorted : fields.Pairwise fun a b => a.1 < b.1) (h : Tells depth (.obj fields) told) :
    ∃ d fields', depth = d + 1 ∧ told = .obj fields' ∧ TellsFields d fields fields' := by
  cases depth with
  | zero => cases h
  | succ d =>
    rw [Tells, reread, if_neg d.succ_ne_zero, Nat.add_sub_cancel, rereadFields_eq_map, settled?,
      Option.map_eq_some_iff] at h
    obtain ⟨fields', h, rfl⟩ := h
    obtain ⟨after, rfl, hafter⟩ := forall₂_of_settledFields? (by
      rwa [List.nil_append, List.map_map, List.pairwise_map]) h
    exact ⟨d, _, rfl, rfl, List.forall₂_map_left_iff.mp hafter⟩

theorem Tells.arr {depth : Nat} {items : List Json} {told : Json} (h : Tells depth (.arr items) told) :
    ∃ d items', depth = d + 1 ∧ told = .arr items' ∧ List.Forall₂ (Tells d) items items' := by
  cases depth with
  | zero => cases h
  | succ d =>
    rw [Tells, reread, if_neg d.succ_ne_zero, Nat.add_sub_cancel, rereadItems_eq_map, settled?,
      Option.map_eq_some_iff] at h
    obtain ⟨items', h, rfl⟩ := h
    have hitems := forall₂_of_settledItems? h
    rw [List.forall₂_map_left_iff] at hitems
    exact ⟨d, items', rfl, rfl, hitems⟩

theorem Legible.settled {depth : Nat} {v : Json} (h : v.Legible depth) : v.Settled := by
  induction h with
  | null | bool | num | str => rfl
  | arr _ ih => exact .arr ih
  | obj hsorted _ ih => exact .obj ⟨hsorted, ih⟩

theorem Legible.reread_eq {depth : Nat} {v : Json} (h : v.Legible depth) : reread depth v = v := by
  induction h with
  | null | bool | str => rfl
  | num hn => rwa [reread]
  | @arr _ items _ ih =>
    rw [reread, if_neg (Nat.succ_ne_zero _), Nat.add_sub_cancel, rereadItems_eq_map]
    exact congrArg Json.arr ((List.map_congr_left ih).trans items.map_id)
  | @obj d fields _ _ ih =>
    rw [reread, if_neg (Nat.succ_ne_zero _), Nat.add_sub_cancel, rereadFields_eq_map]
    have hmembers (f) (hf : f ∈ fields) : (f.1, reread d f.2) = id f := by
      rw [ih f hf]
      rfl
    exact congrArg Json.obj ((List.map_congr_left hmembers).trans fields.map_id)

theorem eq_num_of_settled? {draft : Json} {n : Number} (h : settled? draft = some (.num n)) :
    draft = .num n := by
  cases draft with
  | num m =>
    cases h
    rfl
  | arr items =>
    rw [settled?, Option.map_eq_some_iff] at h
    obtain ⟨_, -, h⟩ := h
    cases h
  | obj fields =>
    rw [settled?, Option.map_eq_some_iff] at h
    obtain ⟨_, -, h⟩ := h
    cases h
  | _ => cases h

theorem Settled.fields {fields : List (String × Json)} (h : Settled (.obj fields)) :
    SettledFields fields := by
  rw [Settled, settled?, Option.map_eq_some_iff] at h
  obtain ⟨fields', h, heq⟩ := h
  cases heq
  exact settledFields_of_settledFields? h ⟨.nil, List.forall_mem_nil _⟩

theorem Legible.of_tells {depth : Nat} {v : Json} (h : Tells depth v v) : v.Legible depth := by
  induction depth using Nat.strongRecOn generalizing v with
  | ind depth ih =>
    have hsettled : v.Settled := settled?_of_settled? h
    cases v with
    | null => exact .null
    | bool b => exact .bool b
    | str s => exact .str s
    | unfit => cases hsettled
    | num n =>
      rw [Tells, reread] at h
      exact .num (eq_num_of_settled? h)
    | arr items =>
      obtain ⟨d, items', rfl, heq, hitems⟩ := h.arr
      cases heq
      exact .arr fun v hv => ih d d.lt_succ_self (List.forall₂_same.mp hitems v hv)
    | obj fields =>
      obtain ⟨hsorted, -⟩ := hsettled.fields
      obtain ⟨d, fields', rfl, heq, hfields⟩ := h.obj hsorted
      cases heq
      exact .obj hsorted fun f hf => ih d d.lt_succ_self (List.forall₂_same.mp hfields f hf).2

/-- **The text of a document says the document itself** exactly if that is legible. -/
theorem parse?_render_eq_self_iff {v : Json} : parse? v.render = some v ↔ v.Legible maxDepth := by
  rw [parse?_render]
  constructor
  · exact .of_tells
  · intro h
    rw [h.reread_eq]
    exact h.settled

end ClusterWait.Json
