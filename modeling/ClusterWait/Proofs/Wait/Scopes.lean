import ClusterWait.Proofs.Wait.Timeline

/-! # Scopes: the family tree and its bounds

A *scope* is what a context stands for: it was derived from another one or from none, and possibly
was given a bound. The scopes of a program are listed in the order in which they were made, so that
a parent has a smaller number (`Ordered`).

* `Under`: a scope is another or descends from it. New scopes change nothing for those that were
  there (`under_append_iff`), and one is under itself and under what its parent is under
  (`under_new_iff`).
* `bounds`: the bounds given to a scope and to those above it, with the same two lemmas
  (`bounds_append`, `bounds_new`).
* `Earliest`: the earliest of a set of instants, nothing if it is empty. -/

namespace ClusterWait

/-- **A scope:** the one that it was derived from, and the bound that it was given. -/
structure Scope where
  parent : Option Nat
  bound : Option Nat

/-! ### What is above a scope -/

/-- **The second scope is the first or descends from it.** -/
inductive Under (scopes : List Scope) (a : Nat) : Nat → Prop
  | same : Under scopes a a
  | child {b p : Nat} {s : Scope} (hs : scopes[b]? = some s) (hp : s.parent = some p)
    (h : Under scopes a p) : Under scopes a b

/-- The bounds given to a scope and to those above it. -/
def bounds (scopes : List Scope) (k : Nat) : Set Nat :=
  {n | ∃ a s, Under scopes a k ∧ scopes[a]? = some s ∧ s.bound = some n}

/-- The bounds that a scope has from its parent. -/
def Scope.inherited (scopes : List Scope) (s : Scope) : Set Nat :=
  {n | ∃ p, s.parent = some p ∧ n ∈ bounds scopes p}

/-- The earliest of a set of instants, if it has any. -/
def Earliest (instants : Set Nat) : Option Nat → Prop
  | none => instants = ∅
  | some n => IsLeast instants n

/-- Every scope was derived from an earlier one. -/
def Ordered (scopes : List Scope) : Prop :=
  ∀ (k : Nat) (s : Scope) (p : Nat), scopes[k]? = some s → s.parent = some p → p < k

section Scopes
variable {scopes more : List Scope} {s : Scope} {a b c : Nat}

theorem Ordered.append (ho : Ordered scopes) (hs : ∀ p, s.parent = some p → p < scopes.length) :
    Ordered (scopes ++ [s]) := by
  intro k t p hget hp
  rcases Nat.lt_trichotomy k scopes.length with hk | rfl | hk
  · rw [List.getElem?_append_left hk] at hget
    exact ho k t p hget hp
  · rw [List.getElem?_concat_length, Option.some.injEq] at hget
    subst hget
    exact hs p hp
  · rw [List.getElem?_eq_none (by simp; omega)] at hget
    cases hget

theorem Under.trans (h₁ : Under scopes a b) (h₂ : Under scopes b c) : Under scopes a c := by
  induction h₂ with
  | same => exact h₁
  | child hs hp _ ih => exact .child hs hp ih

theorem Under.append (h : Under scopes a b) : Under (scopes ++ more) a b := by
  induction h with
  | same => exact .same
  | child hs hp _ ih =>
    have hlt := (List.getElem?_eq_some_iff.mp hs).1
    exact .child (by rw [List.getElem?_append_left hlt]; exact hs) hp ih

/-- New scopes change nothing for those that were there. -/
theorem under_append_iff (ho : Ordered scopes) (hb : b < scopes.length) :
    Under (scopes ++ more) a b ↔ Under scopes a b := by
  refine ⟨fun h => ?_, Under.append⟩
  induction h with
  | same => exact .same
  | child hs hp _ ih =>
    rw [List.getElem?_append_left hb] at hs
    exact .child hs hp (ih ((ho _ _ _ hs hp).trans hb))

/-- A new scope is under itself and under what its parent is under. -/
theorem under_new_iff (ho : Ordered scopes) (hs : ∀ p, s.parent = some p → p < scopes.length) :
    Under (scopes ++ [s]) a scopes.length ↔
      a = scopes.length ∨ ∃ p, s.parent = some p ∧ Under scopes a p := by
  constructor
  · intro h
    cases h with
    | same => exact Or.inl rfl
    | child hget hp h =>
      rw [List.getElem?_concat_length, Option.some.injEq] at hget
      subst hget
      exact Or.inr ⟨_, hp, (under_append_iff ho (hs _ hp)).mp h⟩
  · rintro (rfl | ⟨p, hp, h⟩)
    · exact .same
    · exact .child List.getElem?_concat_length hp h.append

theorem under_new_iff_of_lt (ho : Ordered scopes)
    (hs : ∀ p, s.parent = some p → p < scopes.length) (ha : a < scopes.length) :
    Under (scopes ++ [s]) a scopes.length ↔ ∃ p, s.parent = some p ∧ Under scopes a p := by
  rw [under_new_iff ho hs, or_iff_right (Nat.ne_of_lt ha)]

/-- What is above a scope that was there was there too. -/
theorem Under.le (ho : Ordered scopes) (h : Under scopes a b) : a ≤ b := by
  induction h with
  | same => exact le_rfl
  | child hs hp _ ih => exact ih.trans (ho _ _ _ hs hp).le

theorem bounds_append (ho : Ordered scopes) (hb : b < scopes.length) :
    bounds (scopes ++ [s]) b = bounds scopes b := by
  ext n
  constructor
  · rintro ⟨a, t, hu, hget, hn⟩
    rw [under_append_iff ho hb] at hu
    rw [List.getElem?_append_left ((hu.le ho).trans_lt hb)] at hget
    exact ⟨a, t, hu, hget, hn⟩
  · rintro ⟨a, t, hu, hget, hn⟩
    refine ⟨a, t, hu.append, ?_, hn⟩
    rw [List.getElem?_append_left ((hu.le ho).trans_lt hb)]
    exact hget

/-- The bounds of a new scope are those of its parent and its own. -/
theorem bounds_new (ho : Ordered scopes) (hs : ∀ p, s.parent = some p → p < scopes.length) :
    bounds (scopes ++ [s]) scopes.length = s.inherited scopes ∪ {n | s.bound = some n} := by
  ext n
  constructor
  · rintro ⟨a, t, hu, hget, hn⟩
    rcases (under_new_iff ho hs).mp hu with rfl | ⟨p, hp, hu⟩
    · rw [List.getElem?_concat_length, Option.some.injEq] at hget
      subst hget
      exact Or.inr hn
    · rw [List.getElem?_append_left ((hu.le ho).trans_lt (hs p hp))] at hget
      exact Or.inl ⟨p, hp, a, t, hu, hget, hn⟩
  · rintro (⟨p, hp, a, t, hu, hget, hn⟩ | hn)
    · refine ⟨a, t, (under_new_iff ho hs).mpr (Or.inr ⟨p, hp, hu⟩), ?_, hn⟩
      rw [List.getElem?_append_left ((hu.le ho).trans_lt (hs p hp))]
      exact hget
    · exact ⟨_, s, .same, List.getElem?_concat_length, hn⟩

theorem inherited_root (h : s.parent = none) : s.inherited scopes = ∅ := by
  ext n
  simp [Scope.inherited, h]

theorem inherited_child (h : s.parent = some a) : s.inherited scopes = bounds scopes a := by
  ext n
  simp [Scope.inherited, h]

theorem Under.bounds_subset (h : Under scopes a b) : bounds scopes a ⊆ bounds scopes b := by
  rintro n ⟨k, t, hu, hget, hn⟩
  exact ⟨k, t, hu.trans h, hget, hn⟩

end Scopes

/-! ### The earliest instant -/

section Earliest
variable {A B : Set Nat} {d e : Option Nat}

theorem Earliest.union (hd : Earliest A d) (he : Earliest B e) :
    Earliest (A ∪ B) (Timeline.earlier d e) := by
  cases d with
  | none =>
    obtain rfl : A = ∅ := hd
    rw [Set.empty_union]
    exact he
  | some n =>
    cases e with
    | none =>
      obtain rfl : B = ∅ := he
      rw [Set.union_empty]
      exact hd
    | some m => exact IsLeast.union hd he

theorem earliest_own (bound : Option Nat) : Earliest {n | bound = some n} bound := by
  cases bound with
  | none => simp [Earliest]
  | some n => exact ⟨rfl, fun m hm => (Option.some.inj hm).le⟩

theorem Earliest.eq_some_iff (hd : Earliest A d) (n : Nat) : d = some n ↔ IsLeast A n := by
  cases d with
  | none =>
    obtain rfl : A = ∅ := hd
    simp [IsLeast]
  | some m =>
    have hd : IsLeast A m := hd
    exact ⟨fun h => by rw [← Option.some.inj h]; exact hd, fun h => congrArg some (hd.unique h)⟩

theorem Earliest.eq_none_iff (hd : Earliest A d) : d = none ↔ A = ∅ := by
  cases d with
  | none => exact ⟨fun _ => hd, fun _ => rfl⟩
  | some m =>
    have hd : IsLeast A m := hd
    exact ⟨nofun, fun h => by rw [h] at hd; exact absurd hd.1 (Set.notMem_empty m)⟩

end Earliest

end ClusterWait
