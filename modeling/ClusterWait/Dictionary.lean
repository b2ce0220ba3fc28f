/-! # Dictionaries: values by key, in ascending order of the key

Labels, annotations, environments and expected groups are dictionaries. The order is part of the
type, so that two dictionaries with the same entries are equal and each is listed in one way.

* `Dictionary.get?`, `Dictionary.insert`, `Dictionary.ofList`, `Dictionary.map`. -/

namespace ClusterWait

/-- **Values by key,** in ascending order of the key. -/
structure Dictionary (α : Type) where
  entries : List (String × α)
  sorted : entries.Pairwise fun a b => a.1 < b.1
deriving DecidableEq

namespace Dictionary

variable {α β : Type}

/-- The entries with the given one in the place of its key; the value of a key that is there is
replaced. -/
def insertEntry (key : String) (value : α) : List (String × α) → List (String × α)
  | [] => [(key, value)]
  | (k, v) :: rest =>
    if key < k then (key, value) :: (k, v) :: rest
    else if key = k then (key, value) :: rest
    else (k, v) :: insertEntry key value rest

theorem mem_insertEntry {key : String} {value : α} {e : String × α} :
    ∀ {entries : List (String × α)}, e ∈ insertEntry key value entries →
      e = (key, value) ∨ e ∈ entries
  | [] => by simp [insertEntry]
  | (k, v) :: rest => by
    have ih : e ∈ insertEntry key value rest → e = (key, value) ∨ e ∈ rest := mem_insertEntry
    rw [insertEntry]; split
    · simp
    · split
      · simp only [List.mem_cons]; grind
      · simp only [List.mem_cons]; grind

theorem sorted_insertEntry {key : String} {value : α} :
    ∀ {entries : List (String × α)}, entries.Pairwise (fun a b => a.1 < b.1) →
      (insertEntry key value entries).Pairwise fun a b => a.1 < b.1
  | [], _ => by simp [insertEntry]
  | (k, v) :: rest, h => by
    obtain ⟨hk, hrest⟩ := List.pairwise_cons.1 h
    rw [insertEntry]; split
    · rename_i hlt
      refine List.pairwise_cons.2 ⟨fun e he => ?_, h⟩
      rcases List.mem_cons.1 he with rfl | he
      · exact hlt
      · exact String.lt_trans hlt (hk e he)
    · split
      · rename_i heq; subst heq; exact List.pairwise_cons.2 ⟨hk, hrest⟩
      · rename_i hlt hne
        refine List.pairwise_cons.2 ⟨fun e he => ?_, sorted_insertEntry hrest⟩
        rcases mem_insertEntry he with rfl | he
        · rcases Std.lt_trichotomy key k with h' | h' | h'
          · exact absurd h' hlt
          · exact absurd h' hne
          · exact h'
        · exact hk e he

def empty : Dictionary α := ⟨[], .nil⟩

instance : Inhabited (Dictionary α) := ⟨empty⟩

def insert (d : Dictionary α) (key : String) (value : α) : Dictionary α :=
  ⟨insertEntry key value d.entries, sorted_insertEntry d.sorted⟩

/-- The dictionary of some entries; of several with one key the last counts. -/
def ofList (entries : List (String × α)) : Dictionary α :=
  entries.foldl (fun d e => d.insert e.1 e.2) empty

def find? (key : String) : List (String × α) → Option α
  | [] => none
  | (k, v) :: rest => if k = key then some v else find? key rest

/-- **The value of a key.** -/
def get? (d : Dictionary α) (key : String) : Option α := find? key d.entries

/-- The keys, ascending. -/
def keys (d : Dictionary α) : List String := d.entries.map (·.1)

def isEmpty (d : Dictionary α) : Bool := d.entries.isEmpty

def map (f : String → α → β) (d : Dictionary α) : Dictionary β :=
  ⟨d.entries.map fun e => (e.1, f e.1 e.2), by
    rw [List.pairwise_map]; exact d.sorted⟩

end Dictionary

end ClusterWait
