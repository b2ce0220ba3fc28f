import ClusterWait.Cluster.Lookup
import ClusterWait.Proofs.Cluster.Requests
import ClusterWait.Proofs.Dictionary
import ClusterWait.Proofs.Resource.Conditions

/-! # What the words of a selector say

A selector whose keys and values have no marks in them is found again in its words: whoever reads
these has the labels in the order of their keys, and then the requirements in their order
(`LabelSelector.read?_render`). So two selectors with the same words say the same, the words choose
the objects that the selector chooses, and there are no words only where there is nothing to say
(`LabelSelector.losesNothing`). -/

namespace ClusterWait

open Condition

/-! ### One requirement -/

namespace LabelRequirement

/-- The requirement with its values written out, none where they were absent. -/
def filled (r : LabelRequirement) : LabelRequirement := { r with values := some (r.values.getD []) }

/-- **The requirement can stand in a list.** Its key and its values have no marks in them, and there
are values for the operators that take some, none for the others. -/
structure Listable (r : LabelRequirement) : Prop where
  key_ne : r.key ≠ ""
  key : isName r.key = true
  values : ∀ v ∈ r.values.getD [], isName v = true
  form : (r.operator = "In" ∨ r.operator = "NotIn") ∧ r.values.getD [] ≠ [] ∨
    (r.operator = "Exists" ∨ r.operator = "DoesNotExist") ∧ r.values.getD [] = []

instance (r : LabelRequirement) : Decidable r.Listable :=
  decidable_of_iff (r.key ≠ "" ∧ isName r.key = true ∧ (∀ v ∈ r.values.getD [], isName v = true) ∧
    ((r.operator = "In" ∨ r.operator = "NotIn") ∧ r.values.getD [] ≠ [] ∨
      (r.operator = "Exists" ∨ r.operator = "DoesNotExist") ∧ r.values.getD [] = []))
    ⟨fun ⟨hne, hkey, hvalues, hform⟩ => ⟨hne, hkey, hvalues, hform⟩,
      fun ⟨hne, hkey, hvalues, hform⟩ => ⟨hne, hkey, hvalues, hform⟩⟩

def condition (r : LabelRequirement) : Condition :=
  if r.operator = "In" then .among r.key (r.values.getD [])
  else if r.operator = "NotIn" then .notAmong r.key (r.values.getD [])
  else if r.operator = "Exists" then .present r.key
  else .absent r.key

theorem label?_condition (r : LabelRequirement) : r.condition.label? = none := by
  unfold condition
  split_ifs <;> rfl

theorem toList_listed (r : LabelRequirement) : r.listed.toList =
    '(' :: ([','].intercalate ((r.values.getD []).map String.toList) ++ [')']) := by
  simp [listed, String.toList_intercalate]

/-- **The words of a requirement state its condition,** which is the requirement again and holds of
the same objects. -/
structure Stated (r : LabelRequirement) : Prop where
  words : States r.render.toList r.condition
  requirement : r.condition.requirement? = some r.filled
  holds (labels : Dictionary String) : r.condition.Holds labels ↔ r.holds labels = true

theorem any_contains_iff {values : List String} {value : Option String} :
    value.any values.contains = true ↔ ∃ v ∈ values, value = some v := by
  cases value <;> simp

section Operators
variable {key : String} {values : Option (List String)} (hkey : isName key = true) (hne : key ≠ "")
include hkey hne

theorem stated_in (hvalues : ∀ v ∈ values.getD [], isName v = true) (hsome : values.getD [] ≠ []) :
    Stated ⟨key, "In", values⟩ where
  words := by
    have hrender : (render ⟨key, "In", values⟩).toList = key.toList ++ ' ' :: ("in".toList ++ ' ' ::
        '(' :: ([','].intercalate ((values.getD []).map String.toList) ++ [')'])) := by
      simp [render, toList_listed]
    rw [hrender]
    exact states_listed hkey hne (by decide) (by decide) hvalues hsome rfl
  requirement := rfl
  holds labels := any_contains_iff.symm

theorem stated_notIn (hvalues : ∀ v ∈ values.getD [], isName v = true)
    (hsome : values.getD [] ≠ []) : Stated ⟨key, "NotIn", values⟩ where
  words := by
    have hrender : (render ⟨key, "NotIn", values⟩).toList = key.toList ++ ' ' ::
        ("notin".toList ++ ' ' :: '(' ::
          ([','].intercalate ((values.getD []).map String.toList) ++ [')'])) := by
      simp [render, toList_listed]
    rw [hrender]
    exact states_listed hkey hne (by decide) (by decide) hvalues hsome rfl
  requirement := rfl
  holds labels := by
    have hany : holds ⟨key, "NotIn", values⟩ labels =
      !(labels.get? key).any (values.getD []).contains := rfl
    rw [hany, Bool.not_eq_true', ← Bool.not_eq_true, any_contains_iff]
    simp [condition, Holds]

theorem stated_exists (hnone : values.getD [] = []) : Stated ⟨key, "Exists", values⟩ where
  words := states_present hkey hne
  requirement := by simp [condition, requirement?, filled, hnone]
  holds labels := by simp [condition, Holds, holds, Option.isSome_iff_exists]

theorem stated_doesNotExist (hnone : values.getD [] = []) :
    Stated ⟨key, "DoesNotExist", values⟩ where
  words := by
    have hrender : (render ⟨key, "DoesNotExist", values⟩).toList = '!' :: key.toList := by
      simp [render]
    rw [hrender]
    exact states_absent hkey hne
  requirement := by simp [condition, requirement?, filled, hnone]
  holds labels := by simp [condition, Holds, holds]

end Operators

/-- **The words of a requirement that can stand in a list state it,** whatever its operator. -/
theorem Listable.stated {r : LabelRequirement} (h : r.Listable) : r.Stated := by
  obtain ⟨key, operator, values⟩ := r
  obtain ⟨hne, hkey, hvalues, ⟨rfl | rfl, hv⟩ | ⟨rfl | rfl, hv⟩⟩ := h
  · exact stated_in hkey hne hvalues hv
  · exact stated_notIn hkey hne hvalues hv
  · exact stated_exists hkey hne hv
  · exact stated_doesNotExist hkey hne hv

end LabelRequirement

/-! ### The selector -/

namespace LabelSelector

/-- The selector with everything written out that may be absent. -/
def filled (s : LabelSelector) : LabelSelector where
  matchExpressions := some (s.requirements.map (·.filled))
  matchLabels := some (s.matchLabels.getD .empty)

/-- **The words of the selector can be read.** No key is empty, and keys and values have no marks in
them; a value may be empty. -/
structure Listable (s : LabelSelector) : Prop where
  labels : ∀ l ∈ s.labels, l.1 ≠ "" ∧ isName l.1 = true ∧ isName l.2 = true
  requirements : ∀ r ∈ s.requirements, r.Listable

/-- The conditions that the selector states, those of its labels first. -/
def stated (s : LabelSelector) : List Condition :=
  s.labels.map (fun l => .equal l.1 l.2) ++ s.requirements.map (·.condition)

theorem labels_eq_entries (s : LabelSelector) : s.labels = (s.matchLabels.getD .empty).entries := by
  unfold labels
  cases s.matchLabels <;> rfl

/-- The labels stand in the order of their keys. -/
theorem sorted_labels (s : LabelSelector) : s.labels.Pairwise fun l l' => l.1 < l'.1 := by
  rw [labels_eq_entries]
  exact (s.matchLabels.getD .empty).sorted

theorem toList_render (s : LabelSelector) :
    s.render.toList = [','].intercalate (s.conditions.map String.toList) := by
  rw [render, String.toList_intercalate]
  rfl

theorem filterMap_label?_stated (s : LabelSelector) : s.stated.filterMap label? = s.labels := by
  have hnone : s.requirements.filterMap (fun r => r.condition.label?) = [] :=
    List.filterMap_eq_nil_iff.mpr fun r _ => r.label?_condition
  rw [stated, List.filterMap_append, List.filterMap_map, List.filterMap_map]
  exact (congrArg₂ (· ++ ·) List.filterMap_some hnone).trans (List.append_nil _)

section Listable
variable {s : LabelSelector} (h : s.Listable)
include h

/-- **The words are read as the conditions of the selector,** in their order. -/
theorem read?_render : read? s.render = some s.stated := by
  refine read?_of_states s.toList_render ?_
  rw [conditions, stated, List.map_append]
  refine List.rel_append ?_ ?_
  · rw [List.map_map, List.forall₂_map_left_iff, List.forall₂_map_right_iff, List.forall₂_same]
    intro l hl
    obtain ⟨hne, hkey, hvalue⟩ := h.labels l hl
    have htext : (l.1 ++ "=" ++ l.2).toList = l.1.toList ++ '=' :: l.2.toList := by simp
    rw [Function.comp_apply, htext]
    exact states_equal hkey hne hvalue
  · rw [List.map_map, List.forall₂_map_left_iff, List.forall₂_map_right_iff, List.forall₂_same]
    exact fun r hr => (h.requirements r hr).stated.words

theorem filterMap_requirement?_stated :
    s.stated.filterMap requirement? = s.requirements.map (·.filled) := by
  have hnone : s.labels.filterMap (fun l => (equal l.1 l.2).requirement?) = [] :=
    List.filterMap_eq_nil_iff.mpr fun l _ => rfl
  have hsome : s.requirements.filterMap (fun r => r.condition.requirement?) =
      s.requirements.map (·.filled) :=
    List.filterMap_eq_map_iff_forall_eq_some.mpr fun r hr =>
      (h.requirements r hr).stated.requirement
  rw [stated, List.filterMap_append, List.filterMap_map, List.filterMap_map]
  exact congrArg₂ (· ++ ·) hnone hsome

/-- **Two selectors with the same words say the same.** -/
theorem filled_eq_of_render_eq {s' : LabelSelector} (h' : s'.Listable)
    (hrender : s'.render = s.render) : s'.filled = s.filled := by
  have hstated : s'.stated = s.stated := by
    have hread := read?_render h'
    rw [hrender, read?_render h] at hread
    exact (Option.some.inj hread).symm
  have hlabels : s'.labels = s.labels := by
    rw [← filterMap_label?_stated, hstated, filterMap_label?_stated]
  have hrequirements : s'.requirements.map (·.filled) = s.requirements.map (·.filled) := by
    rw [← filterMap_requirement?_stated h', hstated, filterMap_requirement?_stated h]
  rw [filled, filled, hrequirements,
    Dictionary.ext (s'.labels_eq_entries.symm.trans (hlabels.trans s.labels_eq_entries))]

/-- **The words choose what the selector chooses.** -/
theorem forall_holds_iff (objectLabels : Dictionary String) :
    (∀ c ∈ s.stated, c.Holds objectLabels) ↔ s.selects objectLabels = true := by
  rw [selects, Bool.and_eq_true, List.all_eq_true, List.all_eq_true, stated, List.forall_mem_append,
    List.forall_mem_map, List.forall_mem_map]
  refine and_congr ?_ ?_
  · simp [Holds]
  · exact forall₂_congr fun r hr => (h.requirements r hr).stated.holds objectLabels

/-- **There are no words only where the selector asks for nothing.** -/
theorem render_eq_empty_iff : s.render = "" ↔ s.labels = [] ∧ s.requirements = [] := by
  constructor
  · intro hrender
    have hread := read?_render h
    rw [hrender] at hread
    have hnil : s.stated = [] := (Option.some.inj hread).symm
    rwa [stated, List.append_eq_nil_iff, List.map_eq_nil_iff, List.map_eq_nil_iff] at hnil
  · rintro ⟨hlabels, hrequirements⟩
    rw [render, conditions, hlabels, hrequirements]
    rfl

end Listable

/-- **The words of a selector say what the selector says,** no more and no less. -/
structure LosesNothing (s : LabelSelector) : Prop where
  /-- What is read are the labels in the order of their keys, and after them the requirements in
  their order. -/
  found : ∃ ls rs, read? s.render = some (ls ++ rs) ∧ ls.map label? = s.labels.map some ∧
    rs.map requirement? = s.requirements.map (some ·.filled)
  sorted : s.labels.Pairwise fun l l' => l.1 < l'.1
  /-- Another selector with the same words is the same, but for what may be absent or empty. -/
  alone : ∀ s' : LabelSelector, s'.Listable → s'.render = s.render → s'.filled = s.filled
  /-- An object meets all that is read if the selector chooses it. -/
  chosen : ∀ objectLabels, (∃ cs, read? s.render = some cs ∧ ∀ c ∈ cs, c.Holds objectLabels) ↔
    s.selects objectLabels = true
  empty : s.render = "" ↔ s.labels = [] ∧ s.requirements = []
  /-- The request for the machines that the selector chooses carries its words, none if it asks for
  nothing; -/
  machines {τ : Type} (service : Service τ) (inNamespace : String) (r : Run (Traffic τ)) :
    Asked r (listMachines service inNamespace (some s) r).2
      [.list (Machine.api inNamespace).collection
        (if s.labels = [] ∧ s.requirements = [] then none else some s.render)]
  /-- and so does the request for the sets of machines. -/
  machineSets {τ : Type} (service : Service τ) (inNamespace : String) (r : Run (Traffic τ)) :
    Asked r (listMachineSets service inNamespace (some s) r).2
      [.list (MachineSet.api inNamespace).collection
        (if s.labels = [] ∧ s.requirements = [] then none else some s.render)]

/-- The words that a request for a list carries. -/
theorem filter_render {s : LabelSelector} (h : s.Listable) : (some s.render).filter (· ≠ "") =
    if s.labels = [] ∧ s.requirements = [] then none else some s.render := by
  by_cases he : s.render = ""
  · rw [if_pos ((render_eq_empty_iff h).mp he), Option.filter_some_neg (by simp [he])]
  · rw [if_neg (fun hn => he ((render_eq_empty_iff h).mpr hn)),
      Option.filter_some_pos (by simp [he])]

/-- A request for a list, sent through one of its functions. -/
theorem asked_list {τ α : Type} {s : LabelSelector} (h : s.Listable) (api : Api α)
    (service : Service τ) (r : Run (Traffic τ)) :
    Asked r (api.list service ((some s).map render) r).2 [.list api.collection
      (if s.labels = [] ∧ s.requirements = [] then none else some s.render)] := by
  rw [← filter_render h]
  exact api.asked_list service _ r

/-- **A selector whose words can be read loses nothing in them.** -/
theorem losesNothing {s : LabelSelector} (h : s.Listable) : s.LosesNothing where
  found := by
    refine ⟨_, _, read?_render h, ?_, ?_⟩
    · rw [List.map_map]
      rfl
    · rw [List.map_map]
      exact List.map_congr_left fun r hr => (h.requirements r hr).stated.requirement
  sorted := s.sorted_labels
  alone _ h' hrender := filled_eq_of_render_eq h h' hrender
  chosen objectLabels := by
    rw [← forall_holds_iff h objectLabels, read?_render h]
    simp
  empty := render_eq_empty_iff h
  machines service inNamespace r := asked_list h (Machine.api inNamespace) service r
  machineSets service inNamespace r := asked_list h (MachineSet.api inNamespace) service r

/-- A selector with a label of no value and with all four operators. -/
theorem losesNothing_mixed :
    let s : LabelSelector := ⟨some [⟨"tier", "In", some ["", "b"]⟩, ⟨"zone", "NotIn", some ["c"]⟩,
      ⟨"app", "Exists", none⟩, ⟨"old", "DoesNotExist", some []⟩],
      some (Dictionary.ofList [("role", "worker"), ("app", "")])⟩
    s.Listable ∧ s.LosesNothing := by
  intro s
  have hlistable : s.Listable := ⟨by decide, by decide⟩
  exact ⟨hlistable, losesNothing hlistable⟩

end LabelSelector

end ClusterWait
