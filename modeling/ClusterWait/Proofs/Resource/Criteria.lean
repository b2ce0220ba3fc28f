import ClusterWait.Resource.Machine
import ClusterWait.Resource.Node
import Mathlib.Tactic.Common

/-! # What machines, sets and nodes are judged by

A listing of machines is judged by whose they are, how many of them are wanted, which phases they
report and whether their nodes are ready. `Criteria` tells each of these in the members of the
documents alone, and `criteria` says that it is so for every set. -/

namespace ClusterWait

theorem MachinePhase.ofName?_eq_some_iff {s : String} {p : MachinePhase} :
    ofName? s = some p ↔ s = p.name := by
  constructor
  · intro h
    have hname := List.find?_some (p := fun p : MachinePhase => p.name = s) h
    exact (of_decide_eq_true hname).symm
  · rintro rfl
    cases p <;> decide

namespace Machine

variable {m : Machine} {machines : List Machine}

/-- **A machine is in a phase** if its status has the word for it. -/
theorem phase_eq_some_iff {p : MachinePhase} : m.phase = some p ↔
    ∃ status, m.status = some status ∧ status.phase = some p.name := by
  simp only [phase, Option.bind_eq_some_iff, MachinePhase.ofName?_eq_some_iff]
  constructor
  · rintro ⟨_, ⟨status, hs, hp⟩, rfl⟩
    exact ⟨status, hs, hp⟩
  · rintro ⟨status, hs, hp⟩
    exact ⟨_, ⟨status, hs, hp⟩, rfl⟩

theorem mem_failed_iff : m ∈ failed machines ↔ m ∈ machines ∧ m.phase = some .failed := by
  rw [failed, inPhase, List.mem_filter, decide_eq_true_eq]

/-- **A machine is controlled by a set** if one of its owners is the controller and has the unique
identifier of the set. -/
theorem isControlledBy_iff {set : MachineSet} : m.isControlledBy set = true ↔
    ∃ uid owners, set.metadata.uid = some uid ∧ m.metadata.ownerReferences = some owners ∧
      ∃ o ∈ owners, o.controller = some true ∧ o.uid = uid := by
  unfold isControlledBy
  cases set.metadata.uid with
  | none => simp
  | some uid =>
    simp only [List.any_eq_true, Bool.and_eq_true, beq_iff_eq, Option.some.injEq]
    cases m.metadata.ownerReferences with
    | none => simp
    | some owners => exact ⟨fun h => ⟨uid, owners, rfl, rfl, h⟩, fun ⟨_, _, rfl, rfl, h⟩ => h⟩

end Machine

/-- **A set wants as many machines as it names,** and none if it names no number or a negative one. -/
theorem MachineSet.wanted_eq (set : MachineSet) :
    (set.wanted : Int) = max (set.spec.replicas.getD 0) 0 := Int.ofNat_toNat _

/-- **A node is ready** if it has a condition of this type that is true. -/
theorem Node.isReady_iff {node : Node} : node.isReady = true ↔
    ∃ c ∈ node.conditions, c.type = "Ready" ∧ c.status = "True" := by
  simp only [isReady, List.any_eq_true, Bool.and_eq_true, beq_iff_eq]

/-- **What a listing of the machines of a set is judged by.** -/
structure Criteria (set : MachineSet) : Prop where
  /-- The machines are those of which an owner is the controller and has the unique identifier of the
  set. -/
  controlled_iff : ∀ m : Machine, m.isControlledBy set = true ↔
    ∃ uid owners, set.metadata.uid = some uid ∧ m.metadata.ownerReferences = some owners ∧
      ∃ o ∈ owners, o.controller = some true ∧ o.uid = uid
  /-- As many are wanted as the set names, and none if it names no number or a negative one. -/
  wanted_eq : (set.wanted : Int) = max (set.spec.replicas.getD 0) 0
  /-- The phase of a machine is the word in its status. -/
  phase_iff : ∀ (m : Machine) (p : MachinePhase), m.phase = some p ↔
    ∃ status, m.status = some status ∧ status.phase = some p.name
  /-- The failed machines are those in this phase, in their order. -/
  failed_iff : ∀ (machines : List Machine) (m : Machine),
    m ∈ Machine.failed machines ↔ m ∈ machines ∧ m.phase = some .failed
  failed_sublist : ∀ machines : List Machine, (Machine.failed machines).Sublist machines
  /-- A node is ready if it has a condition of this type that is true. -/
  ready_iff : ∀ node : Node, node.isReady = true ↔
    ∃ c ∈ node.conditions, c.type = "Ready" ∧ c.status = "True"

theorem criteria (set : MachineSet) : Criteria set where
  controlled_iff _ := Machine.isControlledBy_iff
  wanted_eq := set.wanted_eq
  phase_iff _ _ := Machine.phase_eq_some_iff
  failed_iff _ _ := Machine.mem_failed_iff
  failed_sublist _ := List.filter_sublist
  ready_iff _ := Node.isReady_iff

end ClusterWait
