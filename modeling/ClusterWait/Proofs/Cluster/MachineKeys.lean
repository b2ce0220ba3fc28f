import ClusterWait.Cluster.Lookup
import ClusterWait.Proofs.Text.Search
import Mathlib.Data.List.Count

/-! # Which machine a node's annotation names

A key can be told from its written form if its parts are `Separable`: neither is empty, and neither has
a slash in it. The texts of such keys are those that are read (`MachineKey.read?_eq_some_iff`), and all
others are `Malformed` (`MachineKey.read?_eq_none_iff`): they have no slash, more than one, or nothing
before or after it.

`annotations_name_machines` says what this makes of a node, for any namespace that its machine is
expected in. -/

namespace ClusterWait

namespace MachineKey

/-- **The parts of a key can be told apart** with a slash between them. -/
structure Separable (k : MachineKey) : Prop where
  inNamespace_ne : k.inNamespace ≠ ""
  inNamespace : '/' ∉ k.inNamespace.toList
  name_ne : k.name ≠ ""
  name : '/' ∉ k.name.toList

/-- **The characters are no two parts around a slash.** -/
inductive Malformed : List Char → Prop
  | whole {cs : List Char} (h : '/' ∉ cs) : Malformed cs
  | noNamespace (cs : List Char) : Malformed ('/' :: cs)
  | noName (cs : List Char) : Malformed (cs ++ ['/'])
  | parts (a b c : List Char) : Malformed (a ++ '/' :: (b ++ '/' :: c))

variable {s : String} {k : MachineKey}

theorem toList_render (k : MachineKey) :
    k.render.toList = k.inNamespace.toList ++ '/' :: k.name.toList := by
  simp [render, String.toList_append]

/-- The written form has one slash, and so its parts are found in one way only. -/
theorem Separable.eq_parts {a b : List Char} (hk : k.Separable)
    (h : k.render.toList = a ++ '/' :: b) : a = k.inNamespace.toList ∧ b = k.name.toList := by
  have hcount : a.count '/' + b.count '/' = 0 := by
    have heq := congrArg (List.count '/') h
    rw [toList_render, List.count_append, List.count_append, List.count_cons_self,
      List.count_cons_self, List.count_eq_zero.mpr hk.inNamespace,
      List.count_eq_zero.mpr hk.name] at heq
    omega
  have ha : '/' ∉ a := List.count_eq_zero.mp (by omega)
  have hsplit := Text.splitOnce_append_cons ha b
  rw [← h, toList_render, Text.splitOnce_append_cons hk.inNamespace] at hsplit
  cases hsplit
  exact ⟨rfl, rfl⟩

/-- **What is read are the written forms of keys,** each as its own. -/
theorem read?_eq_some_iff : read? s = some k ↔ k.Separable ∧ s = k.render := by
  constructor
  · intro h
    unfold read? at h
    cases hsplit : Text.splitOnce '/' s.toList with
    | none =>
      rw [hsplit] at h
      cases h
    | some parts =>
      obtain ⟨a, b⟩ := parts
      obtain ⟨ha, hs⟩ := Text.splitOnce_eq_some_iff.mp hsplit
      rw [hsplit] at h
      by_cases hbad : (a.isEmpty || b.isEmpty || b.contains '/') = true
      · simp only [if_pos hbad, reduceCtorEq] at h
      · simp only [if_neg hbad, Option.some.injEq] at h
        subst h
        obtain ⟨⟨hane, hbne⟩, hb⟩ : (a ≠ [] ∧ b ≠ []) ∧ '/' ∉ b := by simpa using hbad
        refine ⟨⟨by simpa using hane, by simpa using ha, by simpa using hbne, by simpa using hb⟩, ?_⟩
        rw [← String.toList_inj, toList_render, String.toList_ofList, String.toList_ofList, hs]
  · rintro ⟨hk, rfl⟩
    have hparts : ¬ (k.inNamespace.toList.isEmpty || k.name.toList.isEmpty ||
        k.name.toList.contains '/') = true := by
      simpa using ⟨⟨hk.inNamespace_ne, hk.name_ne⟩, hk.name⟩
    unfold read?
    rw [toList_render, Text.splitOnce_append_cons hk.inNamespace]
    simp only [if_neg hparts, String.ofList_toList]

/-- **All other texts are malformed.** -/
theorem read?_eq_none_iff : read? s = none ↔ Malformed s.toList := by
  constructor
  · intro h
    cases hsplit : Text.splitOnce '/' s.toList with
    | none => exact .whole (Text.splitOnce_eq_none_iff.mp hsplit)
    | some parts =>
      obtain ⟨a, b⟩ := parts
      obtain ⟨ha, hs⟩ := Text.splitOnce_eq_some_iff.mp hsplit
      rw [hs]
      by_cases hane : a = []
      · subst hane
        exact .noNamespace b
      by_cases hbne : b = []
      · subst hbne
        exact .noName a
      by_cases hb : '/' ∈ b
      · obtain ⟨c, d, rfl⟩ := List.append_of_mem hb
        exact .parts a c d
      · have hkey : read? s = some ⟨String.ofList a, String.ofList b⟩ := by
          refine read?_eq_some_iff.mpr ⟨⟨?_, ?_, ?_, ?_⟩, ?_⟩
          · simpa using hane
          · simpa using ha
          · simpa using hbne
          · simpa using hb
          · rw [← String.toList_inj, toList_render, String.toList_ofList, String.toList_ofList, hs]
        rw [h] at hkey
        cases hkey
  · intro h
    rw [Option.eq_none_iff_forall_ne_some]
    intro k hread
    obtain ⟨hk, rfl⟩ := read?_eq_some_iff.mp hread
    generalize hcs : k.render.toList = cs at h
    cases h with
    | whole h =>
      rw [← hcs, toList_render] at h
      exact h (List.mem_append_right _ List.mem_cons_self)
    | noNamespace cs =>
      have hempty := (hk.eq_parts (a := []) hcs).1
      exact hk.inNamespace_ne (String.toList_eq_nil_iff.mp hempty.symm)
    | noName cs =>
      have hempty := (hk.eq_parts hcs).2
      exact hk.name_ne (String.toList_eq_nil_iff.mp hempty.symm)
    | parts a b c =>
      have hname := (hk.eq_parts hcs).2
      exact hk.name (hname ▸ List.mem_append_right _ List.mem_cons_self)

end MachineKey

/-! ### Nodes -/

/-- The text of the annotation that names a node's machine. -/
def Node.machineText? (node : Node) : Option String :=
  (node.metadata.annotations.getD .empty).get? machineKeyLabel

namespace MachineKey

section OfNode

variable {node : Node} {expected text : String} {k : MachineKey}

/-- **What a node's annotation comes to.** -/
inductive Answers (node : Node) (expected : String) : Except ClusterError MachineKey → Prop
  | missing (h : node.machineText? = none) :
    Answers node expected (.error (.missingKey node.nameAny))
  | malformed {text : String} (h : node.machineText? = some text) (hm : Malformed text.toList) :
    Answers node expected (.error (.malformedKey text))
  | foreign {k : MachineKey} (h : node.machineText? = some k.render) (hk : k.Separable)
      (he : k.inNamespace ≠ expected) :
    Answers node expected (.error (.foreignNamespace k.render expected))
  | named {k : MachineKey} (h : node.machineText? = some k.render) (hk : k.Separable)
      (he : k.inNamespace = expected) : Answers node expected (.ok k)

theorem Answers.ofNode_eq {answer : Except ClusterError MachineKey}
    (h : Answers node expected answer) : ofNode node expected = answer := by
  cases h with
  | missing h =>
    unfold Node.machineText? at h
    simp only [ofNode, h]
  | malformed h hm =>
    unfold Node.machineText? at h
    simp only [ofNode, h, read?_eq_none_iff.mpr hm]
  | foreign h hk he =>
    unfold Node.machineText? at h
    simp only [ofNode, h, read?_eq_some_iff.mpr ⟨hk, rfl⟩, if_neg he]
  | named h hk he =>
    unfold Node.machineText? at h
    simp only [ofNode, h, read?_eq_some_iff.mpr ⟨hk, rfl⟩, if_pos he]

theorem exists_answers (node : Node) (expected : String) : ∃ answer, Answers node expected answer := by
  cases h : node.machineText? with
  | none => exact ⟨_, .missing h⟩
  | some text =>
    cases hread : read? text with
    | none => exact ⟨_, .malformed h (read?_eq_none_iff.mp hread)⟩
    | some k =>
      obtain ⟨hk, rfl⟩ := read?_eq_some_iff.mp hread
      by_cases he : k.inNamespace = expected
      · exact ⟨_, .named h hk he⟩
      · exact ⟨_, .foreign h hk he⟩

theorem ofNode_eq_iff {answer : Except ClusterError MachineKey} :
    ofNode node expected = answer ↔ Answers node expected answer := by
  refine ⟨fun h => ?_, Answers.ofNode_eq⟩
  obtain ⟨answer', h'⟩ := exists_answers node expected
  rwa [← h, h'.ofNode_eq]

end OfNode

/-- **A node's annotation names its machine,** if it is the written form of a key in the namespace that
is expected. -/
structure Names (node : Node) (expected : String) : Prop where
  ok_iff : ∀ k, ofNode node expected = .ok k ↔
    node.machineText? = some (expected ++ "/" ++ k.name) ∧ k.inNamespace = expected ∧ k.Separable
  missing_iff : ∀ name, ofNode node expected = .error (.missingKey name) ↔
    node.machineText? = none ∧ name = node.nameAny
  /-- A key of another namespace is told with the text and the namespace that was expected; -/
  foreign_iff : ∀ text other, ofNode node expected = .error (.foreignNamespace text other) ↔
    node.machineText? = some text ∧ other = expected ∧
      ∃ k : MachineKey, k.Separable ∧ text = k.render ∧ k.inNamespace ≠ expected
  /-- a malformed text is told as it is, whatever namespace was expected. -/
  malformed_iff : ∀ text, ofNode node expected = .error (.malformedKey text) ↔
    node.machineText? = some text ∧ Malformed text.toList
  /-- There are no texts but written forms of keys and malformed ones. -/
  otherwise : ∀ text : String, Malformed text.toList ↔
    ¬ ∃ k : MachineKey, k.Separable ∧ text = k.render
  errors : ∀ e, ofNode node expected = .error e → e = .missingKey node.nameAny ∨
    ∃ text, node.machineText? = some text ∧
      (e = .malformedKey text ∨ e = .foreignNamespace text expected)
  /-- The parts of the key that is found make up the annotation, -/
  rejoined : ∀ k, ofNode node expected = .ok k → node.machineText? = some (k.inNamespace ++ "/" ++ k.name)
  /-- and every key whose parts can be told apart is found in its written form. -/
  recovered : ∀ k : MachineKey, k.Separable → node.machineText? = some (k.inNamespace ++ "/" ++ k.name) →
    ofNode node k.inNamespace = .ok k

theorem annotations_name_machines (node : Node) (expected : String) : Names node expected where
  ok_iff k := by
    rw [ofNode_eq_iff]
    constructor
    · intro h
      cases h with
      | named h hk he =>
        subst he
        exact ⟨h, rfl, hk⟩
    · rintro ⟨h, rfl, hk⟩
      exact .named h hk rfl
  missing_iff name := by
    rw [ofNode_eq_iff]
    constructor
    · intro h
      cases h with
      | missing h => exact ⟨h, rfl⟩
    · rintro ⟨h, rfl⟩
      exact .missing h
  foreign_iff text other := by
    rw [ofNode_eq_iff]
    constructor
    · intro h
      cases h with
      | foreign h hk he => exact ⟨h, rfl, _, hk, rfl, he⟩
    · rintro ⟨h, rfl, k, hk, rfl, he⟩
      exact .foreign h hk he
  malformed_iff text := by
    rw [ofNode_eq_iff]
    constructor
    · intro h
      cases h with
      | malformed h hm => exact ⟨h, hm⟩
    · rintro ⟨h, hm⟩
      exact .malformed h hm
  otherwise text := by
    rw [← read?_eq_none_iff, Option.eq_none_iff_forall_ne_some, not_exists]
    exact forall_congr' fun k => not_congr read?_eq_some_iff
  errors e h := by
    cases ofNode_eq_iff.mp h with
    | missing htext => exact Or.inl rfl
    | malformed htext hm => exact Or.inr ⟨_, htext, Or.inl rfl⟩
    | foreign htext hk he => exact Or.inr ⟨_, htext, Or.inr rfl⟩
  rejoined k h := by
    cases ofNode_eq_iff.mp h with
    | named htext hk he => exact htext
  recovered k hk h := ofNode_eq_iff.mpr (.named h hk rfl)

end MachineKey

end ClusterWait
