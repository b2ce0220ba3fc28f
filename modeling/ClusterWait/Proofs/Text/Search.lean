import ClusterWait.Text.Search
import Mathlib.Data.List.Infix
import Mathlib.Tactic.Common

/-! # What is found in a text

A text that contains another is the other between two texts (`contains_iff`). A split goes to the first
separator: there is none in what comes before it (`splitOnce_eq_some_iff`), and nothing is split where
there is none at all (`splitOnce_of_notMem`). -/

namespace ClusterWait.Text

theorem startsWith_iff {s start : String} :
    startsWith s start = true ↔ start.toList <+: s.toList :=
  List.isPrefixOf_iff_prefix

theorem occursIn_iff {part : List Char} : ∀ {cs : List Char}, occursIn part cs = true ↔ part <:+: cs
  | [] => by rw [occursIn, List.isEmpty_iff, List.infix_nil]
  | c :: cs => by
    rw [occursIn, Bool.or_eq_true, List.isPrefixOf_iff_prefix, occursIn_iff, List.infix_cons_iff]

/-- A text contains another if it is the other with a text before it and one after it. -/
theorem contains_iff {s part : String} :
    contains s part = true ↔ ∃ before after, s = before ++ part ++ after := by
  rw [contains, occursIn_iff]
  constructor
  · rintro ⟨before, after, h⟩
    refine ⟨String.ofList before, String.ofList after, String.toList_inj.mp ?_⟩
    rw [String.toList_append, String.toList_append, String.toList_ofList, String.toList_ofList, h]
  · rintro ⟨before, after, rfl⟩
    exact ⟨before.toList, after.toList, by rw [String.toList_append, String.toList_append]⟩

/-! ### Splitting -/

variable {sep : Char} {cs before after : List Char}

theorem splitOnce_of_notMem (h : sep ∉ cs) : splitOnce sep cs = none := by
  induction cs with
  | nil => rfl
  | cons c rest ih =>
    obtain ⟨hc, hrest⟩ := List.ne_and_not_mem_of_not_mem_cons h
    rw [splitOnce, if_neg hc.symm, ih hrest]
    rfl

theorem splitOnce_append_cons (h : sep ∉ before) (after : List Char) :
    splitOnce sep (before ++ sep :: after) = some (before, after) := by
  induction before with
  | nil => rw [List.nil_append, splitOnce, if_pos rfl]
  | cons c rest ih =>
    obtain ⟨hc, hrest⟩ := List.ne_and_not_mem_of_not_mem_cons h
    rw [List.cons_append, splitOnce, if_neg hc.symm, ih hrest]
    rfl

/-- **A split goes to the first separator.** -/
theorem splitOnce_eq_some_iff :
    splitOnce sep cs = some (before, after) ↔ sep ∉ before ∧ cs = before ++ sep :: after := by
  constructor
  · intro h
    induction cs generalizing before with
    | nil => cases h
    | cons c rest ih =>
      rw [splitOnce] at h
      by_cases hc : c = sep
      · rw [if_pos hc] at h
        cases h
        exact ⟨List.not_mem_nil, by rw [hc, List.nil_append]⟩
      · rw [if_neg hc] at h
        obtain ⟨⟨b, a⟩, hsplit, heq⟩ := Option.map_eq_some_iff.mp h
        cases heq
        obtain ⟨hb, rfl⟩ := ih hsplit
        exact ⟨List.not_mem_cons_of_ne_of_not_mem (Ne.symm hc) hb, rfl⟩
  · rintro ⟨hbefore, rfl⟩
    exact splitOnce_append_cons hbefore after

theorem splitOnce_eq_none_iff : splitOnce sep cs = none ↔ sep ∉ cs := by
  refine ⟨fun h hmem => ?_, splitOnce_of_notMem⟩
  obtain ⟨before, after, rfl, hbefore⟩ := List.eq_append_cons_of_mem hmem
  rw [splitOnce_append_cons hbefore after] at h
  cases h

end ClusterWait.Text
