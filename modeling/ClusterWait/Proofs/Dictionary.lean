import ClusterWait.Dictionary
import Mathlib.Tactic.Common
import Mathlib.Tactic.SplitIfs

/-! # Dictionaries: what is found under a key

The value that was set last under a key is found (`get?_insert`), and so a dictionary of some entries
has the keys of these (`isSome_get?_ofList`) and no other values (`mem_of_mem_ofList`). The entries of a
dictionary are those of that dictionary (`ofList_entries`), and its keys are those under which
something is found (`mem_keys_iff`). A change of all values changes what is found
(`get?_map`), and two changes are one (`map_map`). -/

namespace ClusterWait.Dictionary

variable {α β γ : Type} {d : Dictionary α} {k key : String} {v value : α}

theorem ext {d d' : Dictionary α} (h : d.entries = d'.entries) : d = d' := by
  cases d
  cases d'
  cases h
  rfl

/-! ### Setting a value -/

theorem find?_insertEntry (entries : List (String × α)) :
    find? k (insertEntry key value entries) = if key = k then some value else find? k entries := by
  induction entries with
  | nil => rfl
  | cons e rest ih =>
    obtain ⟨k', v'⟩ := e
    rw [insertEntry]
    by_cases hlt : key < k'
    · rw [if_pos hlt, find?]
    · rw [if_neg hlt]
      by_cases heq : key = k'
      · rw [if_pos heq, find?, find?, heq]
        by_cases hk : k' = k
        · rw [if_pos hk, if_pos hk]
        · rw [if_neg hk, if_neg hk, if_neg hk]
      · rw [if_neg heq, find?, find?, ih]
        by_cases hk : k' = k
        · have hne : key ≠ k := fun h => heq (h.trans hk.symm)
          rw [if_pos hk, if_neg hne, if_pos hk]
        · rw [if_neg hk, if_neg hk]

/-- **What is found after a value was set.** -/
theorem get?_insert : (d.insert key value).get? k = if key = k then some value else d.get? k :=
  find?_insertEntry d.entries

/-! ### The dictionary of some entries -/

theorem isSome_get?_foldl (entries : List (String × α)) (d : Dictionary α) :
    ((entries.foldl (fun d e => d.insert e.1 e.2) d).get? k).isSome = true ↔
      (d.get? k).isSome = true ∨ k ∈ entries.map Prod.fst := by
  induction entries generalizing d with
  | nil => simp
  | cons e rest ih =>
    rw [List.foldl_cons, ih, get?_insert, List.map_cons, List.mem_cons]
    by_cases he : e.1 = k
    · simp [he]
    · have hne : k ≠ e.1 := fun h => he h.symm
      simp [he, hne]

/-- **Its keys are those of the entries,** -/
theorem isSome_get?_ofList (entries : List (String × α)) :
    ((ofList entries).get? k).isSome = true ↔ k ∈ entries.map Prod.fst := by
  have hempty : ((empty : Dictionary α).get? k).isSome = false := rfl
  rw [ofList, isSome_get?_foldl, hempty]
  simp

theorem mem_entries_foldl {e : String × α} (entries : List (String × α)) (d : Dictionary α)
    (h : e ∈ (entries.foldl (fun d e => d.insert e.1 e.2) d).entries) : e ∈ d.entries ∨ e ∈ entries := by
  induction entries generalizing d with
  | nil => exact Or.inl h
  | cons e' rest ih =>
    rcases ih (d.insert e'.1 e'.2) h with h | h
    · rcases mem_insertEntry h with h | h
      · exact Or.inr (List.mem_cons.mpr (Or.inl h))
      · exact Or.inl h
    · exact Or.inr (List.mem_cons_of_mem _ h)

/-- and it has no values but theirs. -/
theorem mem_of_mem_ofList {e : String × α} {entries : List (String × α)}
    (h : e ∈ (ofList entries).entries) : e ∈ entries := by
  rcases mem_entries_foldl entries empty h with h | h
  · cases h
  · exact h

/-- An entry whose key is greater than all comes last. -/
theorem insertEntry_of_lt {entries : List (String × α)} (h : ∀ e ∈ entries, e.1 < key) :
    insertEntry key value entries = entries ++ [(key, value)] := by
  induction entries with
  | nil => rfl
  | cons e rest ih =>
    have hlt : e.1 < key := h e List.mem_cons_self
    have hne : key ≠ e.1 := fun heq => String.lt_irrefl key (heq ▸ hlt)
    rw [insertEntry, if_neg (String.lt_asymm hlt), if_neg hne,
      ih fun e' he' => h e' (List.mem_cons_of_mem _ he'), List.cons_append]

theorem entries_foldl (entries : List (String × α)) (d : Dictionary α)
    (h : (d.entries ++ entries).Pairwise fun a b => a.1 < b.1) :
    (entries.foldl (fun d e => d.insert e.1 e.2) d).entries = d.entries ++ entries := by
  induction entries generalizing d with
  | nil => rw [List.foldl_nil, List.append_nil]
  | cons e rest ih =>
    have hlast : (d.insert e.1 e.2).entries = d.entries ++ [e] :=
      insertEntry_of_lt fun e' he' => (List.pairwise_append.mp h).2.2 e' he' e List.mem_cons_self
    have hsplit : d.entries ++ e :: rest = (d.entries ++ [e]) ++ rest := by
      rw [List.append_assoc, List.singleton_append]
    rw [List.foldl_cons, ih _ (by rw [hlast, ← hsplit]; exact h), hlast, ← hsplit]

/-- **A dictionary is that of its entries.** -/
theorem ofList_entries (d : Dictionary α) : ofList d.entries = d :=
  ext (entries_foldl d.entries empty d.sorted)

/-- A key is one under which something is found. -/
theorem mem_keys_iff : k ∈ d.keys ↔ (d.get? k).isSome = true := by
  rw [keys, ← isSome_get?_ofList, ofList_entries]

/-! ### Changing all values -/

theorem get?_map (f : String → α → β) (d : Dictionary α) : (d.map f).get? k = (d.get? k).map (f k) := by
  have hfind (entries : List (String × α)) :
      find? k (entries.map fun e => (e.1, f e.1 e.2)) = (find? k entries).map (f k) := by
    induction entries with
    | nil => rfl
    | cons e rest ih =>
      simp only [List.map_cons, find?, ih]
      by_cases he : e.1 = k
      · rw [if_pos he, if_pos he, he]
        rfl
      · rw [if_neg he, if_neg he]
  exact hfind d.entries

theorem map_map (f : String → α → β) (g : String → β → γ) (d : Dictionary α) :
    (d.map f).map g = d.map fun k v => g k (f k v) :=
  ext (by simp only [map, List.map_map]; rfl)

/-- Values that a change does not change. -/
theorem map_eq_self {f : String → α → α} (h : ∀ e ∈ d.entries, f e.1 e.2 = e.2) : d.map f = d := by
  have hid : ∀ e ∈ d.entries, (e.1, f e.1 e.2) = id e := fun e he => by rw [h e he]; rfl
  exact ext ((List.map_congr_left hid).trans (List.map_id _))

end ClusterWait.Dictionary
