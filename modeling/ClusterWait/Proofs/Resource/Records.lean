import ClusterWait.Proofs.Resource.ReadingBack
import ClusterWait.Resource.ClusterConfig
import ClusterWait.Resource.Machine

/-! # The records of the cluster's objects are read back

For each record that holds timestamps, integers or documents, `leaves` lists them and `truncated` cuts
the fractions of its seconds. A lemma `readsBack` puts the record together from its members, in the
order in which it is read; a lemma `plain_x` does so for a record that holds nothing of the kind.
Members that are left out when they are empty are read as empty (`plain_templateMeta`,
`recovers_taints`).

The objects themselves are `Machine.readsBack`, `MachineSet.readsBack`, `Infrastructure.readsBack` and
`ClusterOperator.readsBack`. -/

namespace ClusterWait

/-! ### Metadata -/

theorem plain_ownerReference : Plain OwnerReference.decode OwnerReference.encode where
  reads x := by
    rw [OwnerReference.decode, OwnerReference.encode, Writing.object_ofFields (by simp)]
    simp [-Option.bind_eq_bind]
  ne_null _ := nofun

namespace ManagedFields

def truncated (m : ManagedFields) : ManagedFields := { m with time := m.time.map .truncated }

def leaves (m : ManagedFields) : List Leaf :=
  within (fun v => [.document v]) m.fieldsV1 ++ within (fun t => [.time t]) m.time

theorem readsBack : ReadsBack decode encode truncated leaves where
  reads m hs := by
    obtain ⟨hfields, htime⟩ := List.forall_mem_append.mp hs
    have hdecode : decode m.encode = (do
      let fieldsV1 ← Decoder.any.ofMember m.fieldsV1
      let time ← Timestamp.decode.ofMember (m.time.map Timestamp.encode)
      some { m with fieldsV1, time }) := by
      rw [decode, encode, Writing.object_ofFields (by simp)]
      simp [-Option.bind_eq_bind]
    rw [hdecode]
    exact (recovers_document hfields).bind ((readsBack_timestamp.optional htime).last _)
  ne_null _ _ := nofun
  writes m := by
    have htime := readsBack_timestamp.optional_writes m.time
    rw [encode, encode, truncated, htime]
  sound j m _ h := by
    cases j with
    | obj fs =>
      simp only [decode, Decoder.object, bind_eq_some] at h
      obtain ⟨_, -, _, -, _, hfields, _, -, _, -, _, -, _, htime, h⟩ := h
      cases h
      exact List.forall_mem_append.mpr
        ⟨readsBack_any.sound_of_lenient hfields, readsBack_timestamp.sound_of_lenient htime⟩
    | _ => cases h
  whole m hw := by
    obtain ⟨-, htime⟩ := List.forall_mem_append.mp hw
    rw [truncated, readsBack_timestamp.optional_whole htime]

end ManagedFields

namespace ObjectMeta

def truncated (m : ObjectMeta) : ObjectMeta := { m with
  creationTimestamp := m.creationTimestamp.map .truncated
  deletionTimestamp := m.deletionTimestamp.map .truncated
  managedFields := m.managedFields.map (List.map ManagedFields.truncated) }

def leaves (m : ObjectMeta) : List Leaf :=
  within (fun t => [.time t]) m.creationTimestamp ++
  (within (fun n => [.number 64 n]) m.deletionGracePeriodSeconds ++
  (within (fun t => [.time t]) m.deletionTimestamp ++
  (within (fun n => [.number 64 n]) m.generation ++
  within (List.flatMap ManagedFields.leaves) m.managedFields)))

theorem readsBack : ReadsBack decode encode truncated leaves where
  reads m hs := by
    simp only [leaves, List.forall_mem_append] at hs
    obtain ⟨hcreation, hgrace, hdeletion, hgeneration, hmanaged⟩ := hs
    have howners := plain_ownerReference.list.optional m.ownerReferences
    have hdecode : decode m.encode = (do
      let creationTimestamp ← Timestamp.decode.ofMember (m.creationTimestamp.map Timestamp.encode)
      let deletionGracePeriodSeconds ←
        (Decoder.int 64).ofMember (m.deletionGracePeriodSeconds.map Json.ofInt)
      let deletionTimestamp ← Timestamp.decode.ofMember (m.deletionTimestamp.map Timestamp.encode)
      let generation ← (Decoder.int 64).ofMember (m.generation.map Json.ofInt)
      let managedFields ← ManagedFields.decode.list.ofMember
        (m.managedFields.map fun ms => .arr (ms.map ManagedFields.encode))
      some { m with creationTimestamp, deletionGracePeriodSeconds, deletionTimestamp, generation
                    managedFields }) := by
      rw [decode, encode, Writing.object_ofFields (by simp)]
      simp [-Option.bind_eq_bind, howners]
    rw [hdecode]
    exact (readsBack_timestamp.optional hcreation).bind <|
      ((readsBack_int 64).optional_id hgrace).bind <|
      (readsBack_timestamp.optional hdeletion).bind <|
      ((readsBack_int 64).optional_id hgeneration).bind <|
      ((ManagedFields.readsBack.list rfl).optional hmanaged).last _
  ne_null _ _ := nofun
  writes m := by
    have hcreation := readsBack_timestamp.optional_writes m.creationTimestamp
    have hdeletion := readsBack_timestamp.optional_writes m.deletionTimestamp
    have hmanaged := (ManagedFields.readsBack.list rfl).optional_writes m.managedFields
    rw [encode, encode, truncated, hcreation, hdeletion, hmanaged]
  sound j m _ h := by
    cases j with
    | obj fs =>
      simp only [decode, Decoder.object, bind_eq_some] at h
      obtain ⟨_, -, _, hcreation, _, hgrace, _, hdeletion, _, -, _, -, _, hgeneration, _, -, _,
        hmanaged, _, -, _, -, _, -, _, -, _, -, _, -, h⟩ := h
      cases h
      simp only [leaves, List.forall_mem_append]
      exact ⟨readsBack_timestamp.sound_of_lenient hcreation,
        (readsBack_int 64).sound_of_lenient hgrace,
        readsBack_timestamp.sound_of_lenient hdeletion,
        (readsBack_int 64).sound_of_lenient hgeneration,
        (ManagedFields.readsBack.list rfl).sound_of_lenient hmanaged⟩
    | _ => cases h
  whole m hw := by
    simp only [leaves, List.forall_mem_append] at hw
    obtain ⟨hcreation, -, hdeletion, -, hmanaged⟩ := hw
    rw [truncated, readsBack_timestamp.optional_whole hcreation,
      readsBack_timestamp.optional_whole hdeletion,
      (ManagedFields.readsBack.list rfl).optional_whole hmanaged]

end ObjectMeta

/-! ### References, taints and selectors -/

theorem plain_objectReference : Plain ObjectReference.decode ObjectReference.encode where
  reads x := by
    rw [ObjectReference.decode, ObjectReference.encode, Writing.object_ofFields (by simp)]
    simp [-Option.bind_eq_bind]
  ne_null _ := nofun

theorem plain_labelRequirement : Plain LabelRequirement.decode LabelRequirement.encode where
  reads x := by
    rw [LabelRequirement.decode, LabelRequirement.encode, Writing.object_ofFields (by simp)]
    simp [-Option.bind_eq_bind]
  ne_null _ := nofun

theorem plain_labelSelector : Plain LabelSelector.decode LabelSelector.encode where
  reads x := by
    have hexpressions := plain_labelRequirement.list.optional x.matchExpressions
    rw [LabelSelector.decode, LabelSelector.encode, Writing.object_ofFields (by simp)]
    simp [-Option.bind_eq_bind, hexpressions]
  ne_null _ := nofun

namespace Taint

def truncated (t : Taint) : Taint := { t with timeAdded := t.timeAdded.map .truncated }

def leaves (t : Taint) : List Leaf := within (fun t => [.time t]) t.timeAdded

theorem readsBack : ReadsBack decode encode truncated leaves where
  reads t hs := by
    have hdecode : decode t.encode = (do
      let timeAdded ← Timestamp.decode.ofMember (t.timeAdded.map Timestamp.encode)
      some { t with timeAdded }) := by
      rw [decode, encode, Writing.object_ofFields (by simp)]
      simp [-Option.bind_eq_bind]
    rw [hdecode]
    exact (readsBack_timestamp.optional hs).last _
  ne_null _ _ := nofun
  writes t := by
    have htime := readsBack_timestamp.optional_writes t.timeAdded
    rw [encode, encode, truncated, htime]
  sound j t _ h := by
    cases j with
    | obj fs =>
      simp only [decode, Decoder.object, bind_eq_some] at h
      obtain ⟨_, -, _, -, _, htime, _, -, h⟩ := h
      cases h
      exact readsBack_timestamp.sound_of_lenient htime
    | _ => cases h
  whole t hw := by rw [truncated, readsBack_timestamp.optional_whole hw]

end Taint

/-! ### Machines -/

namespace ProviderSpec

def leaves (s : ProviderSpec) : List Leaf := within (fun v => [.document v]) s.value

theorem readsBack : ReadsBack decode encode id leaves where
  reads s hs := by
    have hdecode : decode s.encode = (do
      let value ← Decoder.any.ofMember s.value
      some { value }) := by
      rw [decode, encode, Writing.of?_ofFields (by simp)]
      simp [-Option.bind_eq_bind]
    rw [hdecode]
    exact (recovers_document hs).last _
  ne_null _ _ := nofun
  writes _ := rfl
  sound j s _ h := by
    simp only [decode, bind_eq_some] at h
    obtain ⟨_, -, _, hvalue, h⟩ := h
    cases h
    exact readsBack_any.sound_of_orAbsent hvalue
  whole _ _ := rfl

end ProviderSpec

/-- Taints are left out if there are none. -/
theorem recovers_taints {ts : List Taint} (hs : ∀ l ∈ ts.flatMap Taint.leaves, l.Sound) :
    Recovers ((if ts.isEmpty then none else some (Json.arr (ts.map Taint.encode))).elim (some [])
      Taint.decode.list) (ts.flatMap Taint.leaves) (ts.map Taint.truncated) := by
  cases ts with
  | nil => exact .of_dated nofun
  | cons t ts => exact (Taint.readsBack.list rfl).reads (t :: ts) hs

namespace MachineSpec

def truncated (s : MachineSpec) : MachineSpec := { s with taints := s.taints.map .truncated }

def leaves (s : MachineSpec) : List Leaf := s.providerSpec.leaves ++ s.taints.flatMap Taint.leaves

theorem readsBack : ReadsBack decode encode truncated leaves where
  reads s hs := by
    obtain ⟨hprovider, htaints⟩ := List.forall_mem_append.mp hs
    have hdecode : decode s.encode = (do
      let providerSpec ← ProviderSpec.decode s.providerSpec.encode
      let taints ← (if s.taints.isEmpty then none
        else some (Json.arr (s.taints.map Taint.encode))).elim (some []) Taint.decode.list
      some { s with providerSpec, taints }) := by
      rw [decode, encode, Writing.of?_ofFields (by simp)]
      simp [-Option.bind_eq_bind]
    rw [hdecode]
    exact (ProviderSpec.readsBack.reads _ hprovider).bind ((recovers_taints htaints).last _)
  ne_null _ _ := nofun
  writes s := by
    have htaints := (Taint.readsBack.list rfl).writes s.taints
    rw [encode, encode, truncated, htaints, List.isEmpty_map]
  sound j s _ h := by
    simp only [decode, bind_eq_some] at h
    obtain ⟨_, -, _, hprovider, _, htaints, _, -, h⟩ := h
    cases h
    exact List.forall_mem_append.mpr
      ⟨ProviderSpec.readsBack.sound_of_withDefault rfl (List.forall_mem_nil _) hprovider,
        (Taint.readsBack.list rfl).sound_of_withDefault rfl (List.forall_mem_nil _) htaints⟩
  whole s hw := by
    obtain ⟨-, htaints⟩ := List.forall_mem_append.mp hw
    rw [truncated, (Taint.readsBack.list rfl).whole s.taints htaints]

end MachineSpec

namespace MachineStatus

def leaves (s : MachineStatus) : List Leaf := within (fun v => [.document v]) s.providerStatus

theorem readsBack : ReadsBack decode encode id leaves where
  reads s hs := by
    have hnode := plain_objectReference.optional s.nodeRef
    have hdecode : decode s.encode = (do
      let providerStatus ← Decoder.any.ofMember s.providerStatus
      some { s with providerStatus }) := by
      rw [decode, encode, Writing.of?_ofFields (by simp)]
      simp [-Option.bind_eq_bind, hnode]
    rw [hdecode]
    exact (recovers_document hs).last _
  ne_null _ _ := nofun
  writes _ := rfl
  sound j s _ h := by
    simp only [decode, bind_eq_some] at h
    obtain ⟨_, -, _, -, _, -, _, -, _, -, _, hstatus, h⟩ := h
    cases h
    exact readsBack_any.sound_of_orAbsent hstatus
  whole _ _ := rfl

end MachineStatus

namespace Machine

def truncated (x : Machine) : Machine :=
  { x with metadata := x.metadata.truncated, spec := x.spec.truncated }

/-- **The leaves of a machine.** -/
def leaves (x : Machine) : List Leaf :=
  x.metadata.leaves ++ (x.spec.leaves ++ within MachineStatus.leaves x.status)

theorem readsBack : ReadsBack decode encode truncated leaves where
  reads x hs := by
    simp only [leaves, List.forall_mem_append] at hs
    obtain ⟨hmetadata, hspec, hstatus⟩ := hs
    have hdecode : decode x.encode = (do
      let metadata ← ObjectMeta.decode x.metadata.encode
      let spec ← MachineSpec.decode x.spec.encode
      let status ← MachineStatus.decode.ofMember (x.status.map MachineStatus.encode)
      some { metadata, spec, status }) := by
      rw [decode, encode, Writing.of?_ofFields (by simp)]
      simp [-Option.bind_eq_bind]
    rw [hdecode]
    exact (ObjectMeta.readsBack.reads _ hmetadata).bind <|
      (MachineSpec.readsBack.reads _ hspec).bind <|
      (MachineStatus.readsBack.optional_id hstatus).last _
  ne_null _ _ := nofun
  writes x := by
    rw [encode, encode, truncated, ObjectMeta.readsBack.writes, MachineSpec.readsBack.writes]
  sound j x _ h := by
    simp only [decode, bind_eq_some] at h
    obtain ⟨_, -, _, hmetadata, _, hspec, _, hstatus, h⟩ := h
    cases h
    simp only [leaves, List.forall_mem_append]
    exact ⟨ObjectMeta.readsBack.sound_of_required rfl hmetadata,
      MachineSpec.readsBack.sound_of_required rfl hspec,
      MachineStatus.readsBack.sound_of_nullable hstatus⟩
  whole x hw := by
    simp only [leaves, List.forall_mem_append] at hw
    obtain ⟨hmetadata, hspec, -⟩ := hw
    rw [truncated, ObjectMeta.readsBack.whole _ hmetadata, MachineSpec.readsBack.whole _ hspec]

end Machine

/-! ### Machine sets -/

/-- Labels are left out if there are none. -/
theorem plain_templateMeta : Plain TemplateMeta.decode TemplateMeta.encode where
  reads t := by
    obtain ⟨labels⟩ := t
    by_cases h : labels.isEmpty = true
    · have hempty : labels = .empty := Dictionary.ext (List.isEmpty_iff.mp h)
      rw [TemplateMeta.decode, TemplateMeta.encode, Writing.of?_ofFields (by simp)]
      simp [-Option.bind_eq_bind, hempty, Dictionary.isEmpty, Dictionary.empty]
    · rw [TemplateMeta.decode, TemplateMeta.encode, Writing.of?_ofFields (by simp)]
      simp [-Option.bind_eq_bind, h, plain_labels.reads]
  ne_null _ := nofun

namespace MachineTemplate

def truncated (t : MachineTemplate) : MachineTemplate := { t with spec := t.spec.truncated }

def leaves (t : MachineTemplate) : List Leaf := t.spec.leaves

theorem readsBack : ReadsBack decode encode truncated leaves where
  reads t hs := by
    have hdecode : decode t.encode = (do
      let spec ← MachineSpec.decode t.spec.encode
      some { t with spec }) := by
      rw [decode, encode, Writing.of?_ofFields (by simp)]
      simp [-Option.bind_eq_bind, plain_templateMeta.reads]
    rw [hdecode]
    exact (MachineSpec.readsBack.reads _ hs).last _
  ne_null _ _ := nofun
  writes t := by rw [encode, encode, truncated, MachineSpec.readsBack.writes]
  sound j t _ h := by
    simp only [decode, bind_eq_some] at h
    obtain ⟨_, -, _, -, _, hspec, h⟩ := h
    cases h
    exact MachineSpec.readsBack.sound_of_withDefault rfl (List.forall_mem_nil _) hspec
  whole t hw := by rw [truncated, MachineSpec.readsBack.whole _ hw]

end MachineTemplate

namespace MachineSetSpec

def truncated (s : MachineSetSpec) : MachineSetSpec := { s with template := s.template.truncated }

def leaves (s : MachineSetSpec) : List Leaf :=
  within (fun n => [.number 32 n]) s.replicas ++ s.template.leaves

theorem readsBack : ReadsBack decode encode truncated leaves where
  reads s hs := by
    obtain ⟨hreplicas, htemplate⟩ := List.forall_mem_append.mp hs
    have hdecode : decode s.encode = (do
      let replicas ← (Decoder.int 32).ofMember (s.replicas.map Json.ofInt)
      let template ← MachineTemplate.decode s.template.encode
      some { s with replicas, template }) := by
      rw [decode, encode, Writing.of?_ofFields (by simp)]
      simp [-Option.bind_eq_bind, plain_labelSelector.reads]
    rw [hdecode]
    exact ((readsBack_int 32).optional_id hreplicas).bind
      ((MachineTemplate.readsBack.reads _ htemplate).last _)
  ne_null _ _ := nofun
  writes s := by rw [encode, encode, truncated, MachineTemplate.readsBack.writes]
  sound j s _ h := by
    simp only [decode, bind_eq_some] at h
    obtain ⟨_, -, _, hreplicas, _, -, _, htemplate, h⟩ := h
    cases h
    exact List.forall_mem_append.mpr ⟨(readsBack_int 32).sound_of_orAbsent hreplicas,
      MachineTemplate.readsBack.sound_of_withDefault rfl (List.forall_mem_nil _) htemplate⟩
  whole s hw := by
    obtain ⟨-, htemplate⟩ := List.forall_mem_append.mp hw
    rw [truncated, MachineTemplate.readsBack.whole _ htemplate]

end MachineSetSpec

namespace MachineSetStatus

def leaves (s : MachineSetStatus) : List Leaf :=
  [.number 32 s.replicas] ++ ([.number 32 s.readyReplicas] ++ [.number 32 s.availableReplicas])

theorem readsBack : ReadsBack decode encode id leaves where
  reads s hs := by
    simp only [leaves, List.forall_mem_append] at hs
    obtain ⟨hreplicas, hready, havailable⟩ := hs
    have hdecode : decode s.encode = (do
      let replicas ← Decoder.int 32 (Json.ofInt s.replicas)
      let readyReplicas ← Decoder.int 32 (Json.ofInt s.readyReplicas)
      let availableReplicas ← Decoder.int 32 (Json.ofInt s.availableReplicas)
      some { replicas, readyReplicas, availableReplicas }) := by
      rw [decode, encode, Writing.of?_ofFields (by simp)]
      simp [-Option.bind_eq_bind]
    rw [hdecode]
    exact ((readsBack_int 32).reads _ hreplicas).bind <|
      ((readsBack_int 32).reads _ hready).bind <| ((readsBack_int 32).reads _ havailable).last _
  ne_null _ _ := nofun
  writes _ := rfl
  sound j s _ h := by
    simp only [decode, bind_eq_some] at h
    obtain ⟨_, -, _, hreplicas, _, hready, _, havailable, h⟩ := h
    cases h
    have hzero : ∀ l ∈ [Leaf.number 32 0], l.Sound :=
      List.forall_mem_singleton.mpr ⟨by decide, by decide⟩
    simp only [leaves, List.forall_mem_append]
    exact ⟨(readsBack_int 32).sound_of_withDefault rfl hzero hreplicas,
      (readsBack_int 32).sound_of_withDefault rfl hzero hready,
      (readsBack_int 32).sound_of_withDefault rfl hzero havailable⟩
  whole _ _ := rfl

end MachineSetStatus

namespace MachineSet

def truncated (x : MachineSet) : MachineSet :=
  { x with metadata := x.metadata.truncated, spec := x.spec.truncated }

/-- **The leaves of a machine set.** -/
def leaves (x : MachineSet) : List Leaf :=
  x.metadata.leaves ++ (x.spec.leaves ++ within MachineSetStatus.leaves x.status)

theorem readsBack : ReadsBack decode encode truncated leaves where
  reads x hs := by
    simp only [leaves, List.forall_mem_append] at hs
    obtain ⟨hmetadata, hspec, hstatus⟩ := hs
    have hdecode : decode x.encode = (do
      let metadata ← ObjectMeta.decode x.metadata.encode
      let spec ← MachineSetSpec.decode x.spec.encode
      let status ← MachineSetStatus.decode.ofMember (x.status.map MachineSetStatus.encode)
      some { metadata, spec, status }) := by
      rw [decode, encode, Writing.of?_ofFields (by simp)]
      simp [-Option.bind_eq_bind]
    rw [hdecode]
    exact (ObjectMeta.readsBack.reads _ hmetadata).bind <|
      (MachineSetSpec.readsBack.reads _ hspec).bind <|
      (MachineSetStatus.readsBack.optional_id hstatus).last _
  ne_null _ _ := nofun
  writes x := by
    rw [encode, encode, truncated, ObjectMeta.readsBack.writes, MachineSetSpec.readsBack.writes]
  sound j x _ h := by
    simp only [decode, bind_eq_some] at h
    obtain ⟨_, -, _, hmetadata, _, hspec, _, hstatus, h⟩ := h
    cases h
    simp only [leaves, List.forall_mem_append]
    exact ⟨ObjectMeta.readsBack.sound_of_required rfl hmetadata,
      MachineSetSpec.readsBack.sound_of_required rfl hspec,
      MachineSetStatus.readsBack.sound_of_nullable hstatus⟩
  whole x hw := by
    simp only [leaves, List.forall_mem_append] at hw
    obtain ⟨hmetadata, hspec, -⟩ := hw
    rw [truncated, ObjectMeta.readsBack.whole _ hmetadata, MachineSetSpec.readsBack.whole _ hspec]

end MachineSet

/-! ### Configuration objects -/

theorem plain_platformStatus : Plain PlatformStatus.decode PlatformStatus.encode where
  reads x := by
    rw [PlatformStatus.decode, PlatformStatus.encode, Writing.of?_ofFields (by simp)]
    simp [-Option.bind_eq_bind]
  ne_null _ := nofun

theorem plain_infrastructureStatus :
    Plain InfrastructureStatus.decode InfrastructureStatus.encode where
  reads x := by
    have hplatform := plain_platformStatus.optional x.platformStatus
    rw [InfrastructureStatus.decode, InfrastructureStatus.encode, Writing.of?_ofFields (by simp)]
    simp [-Option.bind_eq_bind, hplatform]
  ne_null _ := nofun

theorem plain_operatorCondition : Plain OperatorCondition.decode OperatorCondition.encode where
  reads x := by
    rw [OperatorCondition.decode, OperatorCondition.encode, Writing.of?_ofFields (by simp)]
    simp [-Option.bind_eq_bind]
  ne_null _ := nofun

theorem plain_clusterOperatorStatus :
    Plain ClusterOperatorStatus.decode ClusterOperatorStatus.encode where
  reads x := by
    have hconditions := plain_operatorCondition.list.reads x.conditions
    rw [ClusterOperatorStatus.decode, ClusterOperatorStatus.encode, Writing.of?_ofFields (by simp)]
    simp [-Option.bind_eq_bind, hconditions]
  ne_null _ := nofun

theorem emptySpec_decode_empty : EmptySpec.decode (.obj []) = some {} := rfl

namespace Infrastructure

def truncated (x : Infrastructure) : Infrastructure := { x with metadata := x.metadata.truncated }

/-- **The leaves of an infrastructure.** -/
def leaves (x : Infrastructure) : List Leaf := x.metadata.leaves

theorem readsBack : ReadsBack decode encode truncated leaves where
  reads x hs := by
    have hstatus := plain_infrastructureStatus.optional x.status
    have hdecode : decode x.encode = (do
      let metadata ← ObjectMeta.decode x.metadata.encode
      some { x with metadata }) := by
      rw [decode, encode, Writing.of?_ofFields (by simp)]
      simp [-Option.bind_eq_bind, emptySpec_decode_empty, hstatus]
    rw [hdecode]
    exact (ObjectMeta.readsBack.reads _ hs).last _
  ne_null _ _ := nofun
  writes x := by rw [encode, encode, truncated, ObjectMeta.readsBack.writes]
  sound j x _ h := by
    simp only [decode, bind_eq_some] at h
    obtain ⟨_, -, _, hmetadata, _, -, _, -, h⟩ := h
    cases h
    exact ObjectMeta.readsBack.sound_of_required rfl hmetadata
  whole x hw := by rw [truncated, ObjectMeta.readsBack.whole _ hw]

end Infrastructure

namespace ClusterOperator

def truncated (x : ClusterOperator) : ClusterOperator := { x with metadata := x.metadata.truncated }

/-- **The leaves of an operator.** -/
def leaves (x : ClusterOperator) : List Leaf := x.metadata.leaves

theorem readsBack : ReadsBack decode encode truncated leaves where
  reads x hs := by
    have hstatus := plain_clusterOperatorStatus.optional x.status
    have hdecode : decode x.encode = (do
      let metadata ← ObjectMeta.decode x.metadata.encode
      some { x with metadata }) := by
      rw [decode, encode, Writing.of?_ofFields (by simp)]
      simp [-Option.bind_eq_bind, emptySpec_decode_empty, hstatus]
    rw [hdecode]
    exact (ObjectMeta.readsBack.reads _ hs).last _
  ne_null _ _ := nofun
  writes x := by rw [encode, encode, truncated, ObjectMeta.readsBack.writes]
  sound j x _ h := by
    simp only [decode, bind_eq_some] at h
    obtain ⟨_, -, _, hmetadata, _, -, _, -, h⟩ := h
    cases h
    exact ObjectMeta.readsBack.sound_of_required rfl hmetadata
  whole x hw := by rw [truncated, ObjectMeta.readsBack.whole _ hw]

end ClusterOperator

end ClusterWait
