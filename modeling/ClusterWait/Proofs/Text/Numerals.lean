import ClusterWait.Proofs.Reading
import ClusterWait.Resource.Timestamp.Parser
import Mathlib.Algebra.Group.Nat.Defs
import Mathlib.Data.List.Forall2
import Mathlib.Data.List.Induction
import Mathlib.Tactic.Common

/-! # Numerals of a fixed width

`Reads cs n` says that some digits, leading zeros included, are worth a number. The shortest numeral of a
number does (`reads_digits`), and so does the numeral with leading zeros to a width (`reads_padded`),
which has that width if the number fits (`length_padded`). So what is written to a width is read back,
whatever follows (`digits?_padded`), and a numeral that is too short is not (`digits?_eq_none`). What is
read has so many digits (`lt_of_digits?`). -/

namespace ClusterWait

namespace Timestamp

open Text.Decimal (digit digits value?)

/-- The number that some digits are worth. -/
def worth (ds : List Nat) : Nat := ds.foldl (fun n d => 10 * n + d) 0

/-- **The characters are digits that are worth the number.** -/
def Reads (cs : List Char) (n : Nat) : Prop :=
  ∃ ds, List.Forall₂ (fun c d => value? c = some d) cs ds ∧ worth ds = n

theorem value?_digit {d : Nat} (h : d < 10) : value? (digit d) = some d := by
  revert d
  decide

theorem worth_append_singleton (ds : List Nat) (d : Nat) : worth (ds ++ [d]) = 10 * worth ds + d := by
  rw [worth, List.foldl_append]
  rfl

theorem Reads.snoc {cs : List Char} {n d : Nat} (h : Reads cs n) (hd : d < 10) :
    Reads (cs ++ [digit d]) (10 * n + d) := by
  obtain ⟨ds, hds, rfl⟩ := h
  exact ⟨ds ++ [d], List.rel_append hds (.cons (value?_digit hd) .nil), worth_append_singleton ds d⟩

theorem Reads.zero_cons {cs : List Char} {n : Nat} (h : Reads cs n) : Reads ('0' :: cs) n := by
  obtain ⟨ds, hds, rfl⟩ := h
  exact ⟨0 :: ds, .cons rfl hds, rfl⟩

theorem reads_digits (n : Nat) : Reads (digits n) n := by
  fun_induction digits n with
  | case1 n h =>
    exact ⟨[n], .cons (value?_digit h) .nil, by simp [worth]⟩
  | case2 n h ih =>
    have hsnoc := ih.snoc (Nat.mod_lt n (by decide : 0 < 10))
    rwa [Nat.div_add_mod] at hsnoc

theorem reads_padded (width n : Nat) : Reads (padded width n) n := by
  simp only [padded]
  induction width - (digits n).length with
  | zero => exact reads_digits n
  | succ k ih => exact ih.zero_cons

theorem length_digits_le {width n : Nat} (hw : 0 < width) (h : n < 10 ^ width) :
    (digits n).length ≤ width := by
  fun_induction digits n generalizing width with
  | case1 n hn => exact hw
  | case2 n hn ih =>
    rw [List.length_append, List.length_singleton]
    obtain ⟨w, rfl⟩ := Nat.exists_eq_succ_of_ne_zero (Nat.ne_of_gt hw)
    have hlt : n / 10 < 10 ^ w := by
      rw [Nat.div_lt_iff_lt_mul (by decide), ← Nat.pow_succ]
      exact h
    have hw : 0 < w := by
      by_contra hzero
      obtain rfl : w = 0 := by omega
      omega
    exact Nat.succ_le_succ (ih hw hlt)

/-- **A number that fits is written to the width.** -/
theorem length_padded {width n : Nat} (hw : 0 < width) (h : n < 10 ^ width) :
    (padded width n).length = width := by
  have hle := length_digits_le hw h
  rw [padded, List.length_append, List.length_replicate]
  omega

/-! ### Reading back -/

theorem digits?_eq_some {cs rest : List Char} {width n : Nat} (h : Reads cs n)
    (hl : cs.length = width) : digits? width (cs ++ rest) = some (n, rest) := by
  obtain ⟨ds, hds, rfl⟩ := h
  have hle : width ≤ (cs ++ rest).length := by
    rw [List.length_append]
    omega
  rw [digits?, if_pos hle, ← hl, List.take_left, List.drop_left, mapM_eq_some_iff.mpr hds]
  rfl

/-- **What is written to a width is read back,** whatever follows. -/
theorem digits?_padded {width n : Nat} {rest : List Char} (hw : 0 < width) (h : n < 10 ^ width) :
    digits? width (padded width n ++ rest) = some (n, rest) :=
  digits?_eq_some (reads_padded width n) (length_padded hw h)

theorem value?_lt {c : Char} {d : Nat} (h : value? c = some d) : d < 10 := by
  unfold value? at h
  split at h
  · cases h
    omega
  · cases h

theorem worth_lt {ds : List Nat} (h : ∀ d ∈ ds, d < 10) : worth ds < 10 ^ ds.length := by
  induction ds using List.reverseRecOn with
  | nil => decide
  | append_singleton ds d ih =>
    have hds := ih fun d' hd' => h d' (List.mem_append_left _ hd')
    have hd := h d (List.mem_append_right _ List.mem_cons_self)
    rw [worth_append_singleton, List.length_append, List.length_singleton, Nat.pow_succ]
    omega

/-- **A number of so many digits is below the next power of ten.** -/
theorem lt_of_digits? {cs rest : List Char} {width n : Nat} (h : digits? width cs = some (n, rest)) :
    n < 10 ^ width := by
  unfold digits? at h
  split at h
  · rename_i hle
    obtain ⟨ds, hds, heq⟩ := Option.map_eq_some_iff.mp h
    cases heq
    have hlength := (mapM_eq_some_iff.mp hds).length_eq
    rw [List.length_take, Nat.min_eq_left hle] at hlength
    rw [hlength]
    refine worth_lt fun d hd => ?_
    obtain ⟨c, -, hc⟩ := exists_of_mem_mapM_eq_some hds hd
    exact value?_lt hc
  · cases h

/-- A character that is no digit comes too early. -/
theorem digits?_eq_none {cs rest : List Char} {c : Char} {width : Nat} (h : cs.length < width)
    (hc : value? c = none) : digits? width (cs ++ c :: rest) = none := by
  rw [digits?]
  split
  · have hnone : ((cs ++ c :: rest).take width).mapM value? = none := by
      rw [Option.eq_none_iff_forall_ne_some]
      intro ds hds
      have hmem : c ∈ (cs ++ c :: rest).take width := by
        obtain ⟨k, rfl⟩ := Nat.exists_eq_add_of_lt h
        rw [List.take_append, show cs.length + k + 1 - cs.length = k + 1 by omega,
          List.take_succ_cons]
        exact List.mem_append_right _ List.mem_cons_self
      obtain ⟨d, -, hd⟩ := exists_of_mapM_eq_some hds hmem
      rw [hc] at hd
      cases hd
    rw [hnone]
    rfl
  · rfl

theorem Reads.exists_cons {cs : List Char} {n : Nat} (h : Reads cs n) (hl : 0 < cs.length) :
    ∃ c rest d, cs = c :: rest ∧ value? c = some d := by
  obtain ⟨ds, hds, -⟩ := h
  cases hds with
  | nil => cases hl
  | cons hd _ => exact ⟨_, _, _, rfl, hd⟩

end Timestamp

end ClusterWait
