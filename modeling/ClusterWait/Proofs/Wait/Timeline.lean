import ClusterWait.Wait.Context
import Mathlib.Data.Nat.Find
import Mathlib.Order.Bounds.Basic
import Mathlib.Tactic.Common
import Mathlib.Tactic.SplitIfs

/-! # The line of time: what is true of a context at an instant

A context ends once and for good. `ended_atInstant` reads its end off the line: it has ended at an
instant if and only if its `endOf` is not later. Hence a pause, which computes with `endOf`, wakes
at the tick while the context is live until then (`wake_of_live`), and else at the first instant at
which the context has ended (`isLeast_wake`), which is the end of a live one (`endOf_eq_some`).

`Precedes` says that a line came from another by letting time pass, making tokens and adding
cancels. What has ended stays ended along it (`Precedes.ended`), and what was cancelled stays
cancelled. -/

namespace ClusterWait.Timeline

variable {l l' l'' : Timeline} {c : Context} {t : Token} {n : Nat}

/-- The same line with the clock at another instant. -/
def atInstant (l : Timeline) (n : Nat) : Timeline := { l with now := n }

@[simp] theorem atInstant_now : (l.atInstant n).now = n := rfl
@[simp] theorem atInstant_cancels : (l.atInstant n).cancels = l.cancels := rfl
@[simp] theorem advance_now : (l.advance n).now = l.now + n := rfl
theorem advance_cancels : (l.advance n).cancels = l.cancels := rfl

theorem advance_eq_atInstant : l.advance n = l.atInstant (l.now + n) := rfl

/-! ### Why a context has ended -/

theorem cancelledAt_iff :
    l.cancelledAt t n = true ↔ ∃ x ∈ l.cancels, x.instant ≤ n ∧ x.token.covers t = true := by
  simp [cancelledAt]

theorem err_eq_cancelled_iff :
    l.err c = some .cancelled ↔ l.cancelledAt c.token l.now = true := by
  unfold err
  split_ifs with h1 h2 <;> simp [h1]

theorem err_eq_deadlineExceeded_iff :
    l.err c = some .deadlineExceeded ↔
      l.cancelledAt c.token l.now = false ∧ ∃ d, c.deadline = some d ∧ d ≤ l.now := by
  unfold err
  split_ifs with h1 h2
  · simp [h1]
  · simpa [h1, Option.any_eq_true] using h2
  · simpa [h1, Option.any_eq_true] using h2

theorem err_eq_none_iff :
    l.err c = none ↔
      l.cancelledAt c.token l.now = false ∧ ∀ d, c.deadline = some d → l.now < d := by
  unfold err
  split_ifs with h1 h2
  · simp [h1]
  · rw [Option.any_eq_true] at h2
    obtain ⟨d, hd, hle⟩ := h2
    simp only [decide_eq_true_eq] at hle
    simp only [false_iff, not_and]
    exact fun _ h => absurd (h d hd) (by omega)
  · simpa [h1, Option.any_eq_true] using h2

theorem ended_iff :
    l.ended c = true ↔
      l.cancelledAt c.token l.now = true ∨ ∃ d, c.deadline = some d ∧ d ≤ l.now := by
  unfold ended
  cases h : l.err c with
  | none =>
    obtain ⟨h1, h2⟩ := err_eq_none_iff.mp h
    simp only [Option.isSome_none, Bool.false_eq_true, h1, false_or, false_iff, not_exists, not_and,
      Nat.not_le]
    exact h2
  | some e =>
    cases e with
    | cancelled => simp [err_eq_cancelled_iff.mp h]
    | deadlineExceeded => simpa using Or.inr (err_eq_deadlineExceeded_iff.mp h).2

theorem ended_eq_false_iff : l.ended c = false ↔ l.err c = none := by
  unfold ended; simp

/-- What is told of a context depends on the clock and on the cancels that count by then. -/
theorem err_congr (hnow : l.now = l'.now)
    (hc : l.cancelledAt c.token l.now = l'.cancelledAt c.token l'.now) : l.err c = l'.err c := by
  unfold err
  rw [hc, hnow]

/-! ### The end of a context, read off the line -/

theorem earlier_none (a : Option Nat) : earlier a none = a := by
  cases a <;> rfl

theorem any_earlier (a b : Option Nat) (n : Nat) :
    (earlier a b).any (· ≤ n) = (a.any (· ≤ n) || b.any (· ≤ n)) := by
  cases a <;> cases b <;>
    simp only [earlier, Option.any_none, Option.any_some, Bool.or_false, Bool.false_or]
  rw [Bool.eq_iff_iff]
  simp only [decide_eq_true_eq, Bool.or_eq_true]
  omega

theorem any_cancelInstant : (l.cancelInstant t).any (· ≤ n) = l.cancelledAt t n := by
  unfold cancelInstant cancelledAt
  induction l.cancels with
  | nil => rfl
  | cons x xs ih =>
    simp only [List.foldr_cons, List.any_cons]
    split_ifs with h
    · rw [any_earlier, ih]; simp [h]
    · rw [ih]; simp [h]

/-- **A context has ended at an instant if and only if its end is not later.** -/
theorem ended_atInstant : (l.atInstant n).ended c = (l.endOf c).any (· ≤ n) := by
  unfold endOf
  rw [any_earlier, any_cancelInstant, Bool.eq_iff_iff, ended_iff]
  simp [cancelledAt_iff, Option.any_eq_true]

/-- **The end of a live context is the first instant at which it has ended.** -/
theorem endOf_eq_some {n : Nat} (hl : l.err c = none)
    (hn : IsLeast {n | l.now ≤ n ∧ (l.atInstant n).ended c = true} n) : l.endOf c = some n := by
  have hnow : (l.atInstant l.now).ended c = false := ended_eq_false_iff.mpr hl
  have hend := hn.1.2
  rw [ended_atInstant, Option.any_eq_true] at hend
  obtain ⟨e, he, hle⟩ := hend
  have hlater : l.now < e := by simpa [ended_atInstant, he] using hnow
  have hleast : n ≤ e := hn.2 ⟨hlater.le, by simp [ended_atInstant, he]⟩
  have hle : e ≤ n := by simpa using hle
  rw [he, Nat.le_antisymm hle hleast]

theorem endOf_eq_none (hl : ∀ n, l.now ≤ n → (l.atInstant n).err c = none) : l.endOf c = none := by
  cases he : l.endOf c with
  | none => rfl
  | some e =>
    have hlive := ended_eq_false_iff.mpr (hl (max l.now e) (le_max_left _ _))
    simp [ended_atInstant, he] at hlive

/-- A context that ends has a first instant at which it has ended. -/
theorem exists_isLeast_ended (h : ∃ n, l.now ≤ n ∧ (l.atInstant n).err c ≠ none) : ∃ n cause,
    IsLeast {n | l.now ≤ n ∧ (l.atInstant n).ended c = true} n ∧
      (l.atInstant n).err c = some cause := by
  have hne : ∃ n, l.now ≤ n ∧ (l.atInstant n).ended c = true := by
    obtain ⟨n, hn, he⟩ := h
    exact ⟨n, hn, Option.isSome_iff_ne_none.mpr he⟩
  obtain ⟨cause, he⟩ := Option.isSome_iff_exists.mp (Nat.find_spec hne).2
  exact ⟨_, cause, ⟨Nat.find_spec hne, fun m hm => Nat.find_min' hne hm⟩, he⟩

/-! ### Pauses -/

/-- A pause ends at its tick if the context is live then. -/
theorem wake_of_live (h : (l.advance n).err c = none) : l.wake c n = l.now + n := by
  rw [← ended_eq_false_iff, advance_eq_atInstant, ended_atInstant] at h
  unfold wake
  cases he : l.endOf c with
  | none => rfl
  | some e =>
    have : l.now + n < e := by simpa [he] using h
    simp only
    omega

/-- **A pause that the context does not outlive ends at the first instant at which it has ended.**
-/
theorem isLeast_wake (h : (l.advance n).err c ≠ none) :
    IsLeast {m | l.now ≤ m ∧ (l.atInstant m).ended c = true} (l.wake c n) := by
  have hend : (l.advance n).ended c = true := by
    rw [← Bool.not_eq_false, ended_eq_false_iff.not]; exact h
  rw [advance_eq_atInstant, ended_atInstant, Option.any_eq_true] at hend
  obtain ⟨e, he, hle⟩ := hend
  have hle : e ≤ l.now + n := by simpa using hle
  have hw : l.wake c n = max l.now e := by
    unfold wake; rw [he]; simp only; omega
  rw [hw]
  refine ⟨⟨by omega, ?_⟩, fun m hm => ?_⟩
  · rw [ended_atInstant, he]; simp only [Option.any_some, decide_eq_true_eq]; omega
  · obtain ⟨h1, h2⟩ := hm
    rw [ended_atInstant, he] at h2
    simp only [Option.any_some, decide_eq_true_eq] at h2
    omega

/-! ### New contexts -/

theorem covers_refl (t : Token) : t.covers t = true := by simp [Token.covers]

theorem covers_subset {t u : Token} (h : t.covers u = true) : t.lineage ⊆ u.lineage :=
  (List.isSuffixOf_iff_suffix.mp h).subset

/-- A derived token is covered by itself and by what covers its parent, and by nothing else. -/
theorem covers_derive (l : Timeline) (parent t : Token) :
    t.covers (l.derive parent).1 = true ↔ t = (l.derive parent).1 ∨ t.covers parent = true := by
  obtain ⟨ns⟩ := t
  simp only [Token.covers, derive, List.isSuffixOf_iff_suffix, List.suffix_cons_iff, Token.mk.injEq]

/-- **A derived token is cancelled with its parent,** or by a cancel of its own. -/
theorem cancelledAt_derive (l₀ l : Timeline) (parent : Token) (n : Nat) :
    l.cancelledAt (l₀.derive parent).1 n = true ↔ l.cancelledAt parent n = true ∨
      ∃ x ∈ l.cancels, x.instant ≤ n ∧ x.token = (l₀.derive parent).1 := by
  simp only [cancelledAt_iff, covers_derive]
  constructor
  · rintro ⟨x, hx, hn, h | h⟩
    · exact Or.inr ⟨x, hx, hn, h⟩
    · exact Or.inl ⟨x, hx, hn, h⟩
  · rintro (⟨x, hx, hn, h⟩ | ⟨x, hx, hn, h⟩)
    · exact ⟨x, hx, hn, Or.inr h⟩
    · exact ⟨x, hx, hn, Or.inl h⟩

/-! ### Cancels -/

/-- A cancel ends what the context covers, -/
theorem err_cancel_of_covers {c' : Context} (h : c.token.covers c'.token = true) :
    (l.cancel c).err c' = some .cancelled := by
  rw [err_eq_cancelled_iff, cancelledAt_iff]
  exact ⟨_, List.mem_cons_self, le_rfl, h⟩

/-- and says nothing of what it does not cover. -/
theorem err_cancel_of_not_covers {c' : Context} (h : c.token.covers c'.token = false) :
    (l.cancel c).err c' = l.err c' := by
  have hsame : (l.cancel c).cancelledAt c'.token l.now = l.cancelledAt c'.token l.now := by
    simp [cancel, cancelAt, cancelledAt, h]
  exact err_congr rfl hsame

/-! ### Lines that came from others -/

/-- **The second line came from the first:** the clock did not go back and no cancel was lost. -/
structure Precedes (l l' : Timeline) : Prop where
  now_le : l.now ≤ l'.now
  cancels : ∀ x ∈ l.cancels, x ∈ l'.cancels

theorem Precedes.refl (l : Timeline) : l.Precedes l := ⟨le_rfl, fun _ h => h⟩

theorem Precedes.trans (h₁ : l.Precedes l') (h₂ : l'.Precedes l'') : l.Precedes l'' :=
  ⟨h₁.now_le.trans h₂.now_le, fun x hx => h₂.cancels x (h₁.cancels x hx)⟩

theorem precedes_advance (l : Timeline) (n : Nat) : l.Precedes (l.advance n) :=
  ⟨Nat.le_add_right _ _, fun _ h => h⟩

theorem precedes_atInstant (h : l.now ≤ n) : l.Precedes (l.atInstant n) := ⟨h, fun _ h => h⟩

theorem precedes_cancelAt (l : Timeline) (c : Context) (n : Nat) : l.Precedes (l.cancelAt c n) :=
  ⟨le_rfl, fun _ h => List.mem_cons_of_mem _ h⟩

theorem Precedes.cancelledAt (h : l.Precedes l') (hc : l.cancelledAt t n = true) :
    l'.cancelledAt t n = true := by
  obtain ⟨x, hx, hn, ht⟩ := cancelledAt_iff.mp hc
  exact cancelledAt_iff.mpr ⟨x, h.cancels x hx, hn, ht⟩

theorem cancelledAt_mono {m : Nat} (h : m ≤ n) (hc : l.cancelledAt t m = true) :
    l.cancelledAt t n = true := by
  obtain ⟨x, hx, hn, ht⟩ := cancelledAt_iff.mp hc
  exact cancelledAt_iff.mpr ⟨x, hx, hn.trans h, ht⟩

/-- What was cancelled stays cancelled. -/
theorem Precedes.err_cancelled (h : l.Precedes l') (he : l.err c = some .cancelled) :
    l'.err c = some .cancelled := by
  rw [err_eq_cancelled_iff] at *
  exact cancelledAt_mono h.now_le (h.cancelledAt he)

/-- **What has ended stays ended.** -/
theorem Precedes.ended (h : l.Precedes l') (he : l.ended c = true) : l'.ended c = true := by
  rw [ended_iff] at *
  rcases he with he | ⟨d, hd, hle⟩
  · exact Or.inl (cancelledAt_mono h.now_le (h.cancelledAt he))
  · exact Or.inr ⟨d, hd, hle.trans h.now_le⟩

/-- A context that is still live was live before. -/
theorem Precedes.live (h : l.Precedes l') (he : l'.err c = none) : l.err c = none := by
  rw [← ended_eq_false_iff] at he ⊢
  by_contra hne
  rw [h.ended (by simpa using hne)] at he
  cases he

end ClusterWait.Timeline
