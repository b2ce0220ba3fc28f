import ClusterWait.Json.Basic
import ClusterWait.Proofs.Dictionary

/-! # Settled documents

A document is *settled* when it is the document of itself: no part of it is unfit, and the members of
each object are in ascending order of the key, each key once. The document of a draft is settled
(`settled?_of_settled?`), so that a document that was read once is read again as it is.

The members of an object are inserted one by one, as the entries of a dictionary are
(`insert_eq_insertEntry`). -/

namespace ClusterWait.Json

/-- **The document is settled:** it is the document of itself. -/
def Settled (document : Json) : Prop := settled? document = some document

/-- The members of an object are settled. -/
def SettledFields (fields : List (String × Json)) : Prop :=
  (fields.Pairwise fun a b => a.1 < b.1) ∧ ∀ f ∈ fields, f.2.Settled

theorem insert_eq_insertEntry (key : String) (value : Json) (fields : List (String × Json)) :
    insert key value fields = Dictionary.insertEntry key value fields := by
  induction fields with
  | nil => rfl
  | cons f rest ih =>
    obtain ⟨k, v⟩ := f
    rw [insert, Dictionary.insertEntry, ih]

theorem SettledFields.insert {key : String} {value : Json} {fields : List (String × Json)}
    (h : SettledFields fields) (hv : value.Settled) : SettledFields (Json.insert key value fields) := by
  rw [insert_eq_insertEntry]
  refine ⟨Dictionary.sorted_insertEntry h.1, fun f hf => ?_⟩
  rcases Dictionary.mem_insertEntry hf with rfl | hf
  · exact hv
  · exact h.2 f hf

/-! ### Settled parts -/

theorem settledItems?_of_forall {items : List Json} (h : ∀ item ∈ items, item.Settled) :
    settledItems? items = some items := by
  induction items with
  | nil => rfl
  | cons item rest ih =>
    obtain ⟨hitem, hrest⟩ := List.forall_mem_cons.mp h
    have hitem : settled? item = some item := hitem
    rw [settledItems?, hitem]
    simp only [ih hrest, Option.map_some]

/-- Members that are in order are put after those that come before them. -/
theorem settledFields?_append {before fields : List (String × Json)}
    (h : SettledFields (before ++ fields)) :
    settledFields? before fields = some (before ++ fields) := by
  induction fields generalizing before with
  | nil => rw [settledFields?, List.append_nil]
  | cons f rest ih =>
    obtain ⟨key, value⟩ := f
    have hvalue : settled? value = some value := h.2 (key, value) (by simp)
    have hlast : insert key value before = before ++ [(key, value)] := by
      rw [insert_eq_insertEntry]
      exact Dictionary.insertEntry_of_lt fun e he =>
        (List.pairwise_append.mp h.1).2.2 e he (key, value) List.mem_cons_self
    have hsplit : before ++ (key, value) :: rest = (before ++ [(key, value)]) ++ rest := by
      rw [List.append_assoc, List.singleton_append]
    rw [settledFields?, hvalue]
    simp only [hlast]
    rw [hsplit] at h ⊢
    exact ih h

theorem Settled.arr {items : List Json} (h : ∀ item ∈ items, item.Settled) :
    Settled (.arr items) := by
  rw [Settled, settled?, settledItems?_of_forall h, Option.map_some]

theorem Settled.obj {fields : List (String × Json)} (h : SettledFields fields) :
    Settled (.obj fields) := by
  have hfields : settledFields? [] fields = some fields := settledFields?_append h
  rw [Settled, settled?, hfields, Option.map_some]

/-! ### The document of a draft -/

mutual

/-- **The document of a draft is settled.** -/
theorem settled?_of_settled? : ∀ {draft document : Json}, settled? draft = some document →
    document.Settled
  | .null, _, h | .bool _, _, h | .num _, _, h | .str _, _, h => by
    rw [settled?] at h
    cases h
    rfl
    all_goals nofun
  | .arr items, _, h => by
    rw [settled?, Option.map_eq_some_iff] at h
    obtain ⟨items', h, rfl⟩ := h
    exact .arr (forall_of_settledItems? h)
  | .obj fields, _, h => by
    rw [settled?, Option.map_eq_some_iff] at h
    obtain ⟨fields', h, rfl⟩ := h
    exact .obj (settledFields_of_settledFields? h ⟨.nil, nofun⟩)

theorem forall_of_settledItems? : ∀ {drafts items : List Json}, settledItems? drafts = some items →
    ∀ item ∈ items, item.Settled
  | [], _, h => by
    cases h
    nofun
  | draft :: rest, _, h => by
    rw [settledItems?] at h
    cases hd : settled? draft with
    | none =>
      rw [hd] at h
      cases h
    | some document =>
      simp only [hd, Option.map_eq_some_iff] at h
      obtain ⟨items, hitems, rfl⟩ := h
      exact List.forall_mem_cons.mpr
        ⟨settled?_of_settled? hd, forall_of_settledItems? hitems⟩

theorem settledFields_of_settledFields? : ∀ {drafts before fields : List (String × Json)},
    settledFields? before drafts = some fields → SettledFields before → SettledFields fields
  | [], _, _, h, hbefore => by
    cases h
    exact hbefore
  | (key, draft) :: rest, _, _, h, hbefore => by
    rw [settledFields?] at h
    cases hd : settled? draft with
    | none =>
      rw [hd] at h
      cases h
    | some document =>
      simp only [hd] at h
      exact settledFields_of_settledFields? h (hbefore.insert (settled?_of_settled? hd))

end

/-- Only null is null in the end. -/
theorem eq_null_of_settled? {draft : Json} (h : settled? draft = some .null) : draft = .null := by
  cases draft with
  | null => rfl
  | arr items =>
    rw [settled?, Option.map_eq_some_iff] at h
    obtain ⟨_, -, h⟩ := h
    cases h
  | obj fields =>
    rw [settled?, Option.map_eq_some_iff] at h
    obtain ⟨_, -, h⟩ := h
    cases h
  | _ => cases h

end ClusterWait.Json
