import Mathlib.Data.List.Forall2
import Mathlib.Tactic.Common

/-! # What is read in parts and item by item

A reader of parts succeeds if each part does, whether it says why it fails (`bind_eq_ok`) or not
(`bind_eq_some`). A list is read if each of its items is (`mapM_eq_ok_iff`, `mapM_eq_some_iff`), so that
each item has its result and each result its item; and it is not, exactly if one of them is not after items that
are (`mapM_eq_error_iff`). -/

namespace ClusterWait

variable {ε α β : Type}

section Related

variable {R : α → β → Prop} {xs : List α} {ys : List β}

/-- Of two lists related item by item, each item of the first has its own in the second. -/
theorem exists_of_forall₂ (h : List.Forall₂ R xs ys) {x : α} (hx : x ∈ xs) : ∃ y ∈ ys, R x y := by
  induction h with
  | nil => cases hx
  | cons hxy _ ih =>
    rcases List.mem_cons.mp hx with rfl | hx
    · exact ⟨_, List.mem_cons_self, hxy⟩
    · obtain ⟨y, hmem, hy⟩ := ih hx
      exact ⟨y, List.mem_cons_of_mem _ hmem, hy⟩

end Related

/-! ### Readers that may fail -/

theorem bind_eq_some {found : Option α} {f : α → Option β} {y : β} :
    (found >>= f) = some y ↔ ∃ x, found = some x ∧ f x = some y :=
  Option.bind_eq_some_iff

theorem mapM_eq_some_iff {f : α → Option β} {xs : List α} {ys : List β} :
    xs.mapM f = some ys ↔ List.Forall₂ (fun x y => f x = some y) xs ys := by
  induction xs generalizing ys with
  | nil =>
    rw [List.mapM_nil, List.forall₂_nil_left_iff]
    exact ⟨fun h => (Option.some.inj h).symm, fun h => h ▸ rfl⟩
  | cons x xs ih =>
    rw [List.mapM_cons, List.forall₂_cons_left_iff, bind_eq_some]
    constructor
    · rintro ⟨y, hy, h⟩
      obtain ⟨ys', hys, h⟩ := bind_eq_some.mp h
      cases h
      exact ⟨y, ys', hy, ih.mp hys, rfl⟩
    · rintro ⟨y, ys', hy, hys, rfl⟩
      exact ⟨y, hy, bind_eq_some.mpr ⟨ys', ih.mpr hys, rfl⟩⟩

/-- Each item of a list that is read has a result. -/
theorem exists_of_mapM_eq_some {f : α → Option β} {xs : List α} {ys : List β}
    (h : xs.mapM f = some ys) {x : α} (hx : x ∈ xs) : ∃ y ∈ ys, f x = some y :=
  exists_of_forall₂ (mapM_eq_some_iff.mp h) hx

/-- Each result is that of an item. -/
theorem exists_of_mem_mapM_eq_some {f : α → Option β} {xs : List α} {ys : List β}
    (h : xs.mapM f = some ys) {y : β} (hy : y ∈ ys) : ∃ x ∈ xs, f x = some y :=
  exists_of_forall₂ (mapM_eq_some_iff.mp h).flip hy

/-! ### Readers that say why they fail -/

theorem bind_eq_ok {found : Except ε α} {f : α → Except ε β} {y : β} :
    (found >>= f) = .ok y ↔ ∃ x, found = .ok x ∧ f x = .ok y := by
  cases found with
  | error e =>
    constructor
    · intro h
      cases h
    · rintro ⟨x, hx, -⟩
      cases hx
  | ok x =>
    constructor
    · intro h
      exact ⟨x, rfl, h⟩
    · rintro ⟨_, hx, h⟩
      cases hx
      exact h

theorem bind_eq_error {found : Except ε α} {f : α → Except ε β} {e : ε} :
    (found >>= f) = .error e ↔ found = .error e ∨ ∃ x, found = .ok x ∧ f x = .error e := by
  cases found with
  | error e' =>
    constructor
    · intro h
      cases h
      exact Or.inl rfl
    · rintro (h | ⟨x, hx, -⟩)
      · cases h
        rfl
      · cases hx
  | ok x =>
    constructor
    · intro h
      exact Or.inr ⟨x, rfl, h⟩
    · rintro (h | ⟨_, hx, h⟩)
      · cases h
      · cases hx
        exact h

theorem mapM_eq_ok_iff {f : α → Except ε β} {xs : List α} {ys : List β} :
    xs.mapM f = .ok ys ↔ List.Forall₂ (fun x y => f x = .ok y) xs ys := by
  induction xs generalizing ys with
  | nil =>
    rw [List.mapM_nil, List.forall₂_nil_left_iff]
    exact ⟨fun h => (Except.ok.inj h).symm, fun h => h ▸ rfl⟩
  | cons x xs ih =>
    rw [List.mapM_cons, List.forall₂_cons_left_iff, bind_eq_ok]
    constructor
    · rintro ⟨y, hy, h⟩
      obtain ⟨ys', hys, h⟩ := bind_eq_ok.mp h
      cases h
      exact ⟨y, ys', hy, ih.mp hys, rfl⟩
    · rintro ⟨y, ys', hy, hys, rfl⟩
      exact ⟨y, hy, bind_eq_ok.mpr ⟨ys', ih.mpr hys, rfl⟩⟩

/-- A list is read if each of its items can be. -/
theorem exists_mapM_eq_ok {f : α → Except ε β} {xs : List α} (h : ∀ x ∈ xs, ∃ y, f x = .ok y) :
    ∃ ys, xs.mapM f = .ok ys := by
  induction xs with
  | nil => exact ⟨[], rfl⟩
  | cons x xs ih =>
    obtain ⟨⟨y, hy⟩, hxs⟩ := List.forall_mem_cons.mp h
    obtain ⟨ys, hys⟩ := ih hxs
    exact ⟨y :: ys, mapM_eq_ok_iff.mpr (.cons hy (mapM_eq_ok_iff.mp hys))⟩

theorem pure_ne_error {x : α} {e : ε} : (pure x : Except ε α) ≠ .error e := nofun

theorem mapM_cons_eq_error_iff {f : α → Except ε β} {x : α} {xs : List α} {e : ε} :
    (x :: xs).mapM f = .error e ↔ f x = .error e ∨ ∃ y, f x = .ok y ∧ xs.mapM f = .error e := by
  have hrest (y : β) : (xs.mapM f >>= fun ys => (pure (y :: ys) : Except ε (List β))) = .error e ↔
      xs.mapM f = .error e := by
    rw [bind_eq_error, or_iff_left]
    rintro ⟨ys, -, h⟩
    exact pure_ne_error h
  rw [List.mapM_cons, bind_eq_error]
  simp only [hrest]

/-- **The first item that cannot be read** is the one that is told of. -/
theorem mapM_eq_error_iff {f : α → Except ε β} {xs : List α} {e : ε} :
    xs.mapM f = .error e ↔ ∃ before x after, xs = before ++ x :: after ∧
      (∀ z ∈ before, ∃ y, f z = .ok y) ∧ f x = .error e := by
  induction xs with
  | nil =>
    constructor
    · intro h
      cases h
    · rintro ⟨before, x, after, h, -⟩
      cases before <;> cases h
  | cons z xs ih =>
    rw [mapM_cons_eq_error_iff, ih]
    constructor
    · rintro (hz | ⟨y, hy, before, x, after, rfl, hbefore, hx⟩)
      · exact ⟨[], z, xs, rfl, List.forall_mem_nil _, hz⟩
      · exact ⟨z :: before, x, after, rfl, List.forall_mem_cons.mpr ⟨⟨y, hy⟩, hbefore⟩, hx⟩
    · rintro ⟨_ | ⟨z', before⟩, x, after, h, hbefore, hx⟩
      · cases h
        exact Or.inl hx
      · cases h
        obtain ⟨⟨y, hy⟩, hbefore⟩ := List.forall_mem_cons.mp hbefore
        exact Or.inr ⟨y, hy, before, x, after, rfl, hbefore, hx⟩

end ClusterWait
