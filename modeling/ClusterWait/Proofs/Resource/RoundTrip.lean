import ClusterWait.Proofs.Cluster.Requests
import ClusterWait.Proofs.Resource.Bodies

/-! # Objects of the cluster are read back from what is written of them

`RoundTrips` says of a kind of object when one that was read is read again, that it is settled after the
first reading, and which objects are read back as they are. It is had from `ReadsBack`
(`ReadsBack.roundTrips`). The set of a description holds what the description does
(`leaves_toMachineSet`), and making it asks for one request (`asked_createMachineSet`), which carries a
document and is sent as the text of it.

`documents_round_trip` puts this together for machines, machine sets, infrastructures and operators, with
what is read of a text. Three exceptions are in `documents_lost`: a timestamp before the year 0, which is
written in a form that is not read; null among the fields of a manager, which is read as nothing; and a
float that is read from its text as the one beside it. -/

namespace ClusterWait

/-- **A leaf that is read back as it is.** -/
structure Leaf.Kept (l : Leaf) : Prop where
  sound : l.Sound
  dated : l.Dated
  whole : l.Whole

example : Leaf.Kept (.time ⟨2024, 2, 29, 23, 59, 59, 0⟩) where
  sound := ⟨Timestamp.isValid_iff.mp (by decide), by decide⟩
  dated := Int.natCast_nonneg 2024
  whole := rfl

/-- **Objects of a kind are read back.** -/
structure RoundTrips {α : Type} (decode : Decoder α) (encode : α → Json) (truncated : α → α)
    (leaves : α → List Leaf) : Prop where
  /-- What was read is read again from what is written of it exactly if no timestamp in it is before the
  year 0. -/
  again : ∀ j x, decode j = some x → ((decode (encode x)).isSome ↔ ∀ l ∈ leaves x, l.Dated)
  /-- It is the same then apart from fractions of seconds, and the same is written of it. -/
  settles : ∀ j x y, decode j = some x → decode (encode x) = some y →
    y = truncated x ∧ encode y = encode x
  /-- Objects that hold nothing that is lost or changed are read back as they are. -/
  kept : ∀ x, (∀ l ∈ leaves x, l.Kept) → decode (encode x) = some x

theorem ReadsBack.roundTrips {α : Type} {decode : Decoder α} {encode : α → Json}
    {truncated : α → α} {leaves : α → List Leaf} (h : ReadsBack decode encode truncated leaves)
    (hnull : decode .null = none) : RoundTrips decode encode truncated leaves := by
  have hreads : ∀ j x, decode j = some x → Recovers (decode (encode x)) (leaves x) (truncated x) := by
    intro j x hx
    refine h.reads x (h.sound j x (fun hj => ?_) hx)
    rw [hj, hnull] at hx
    cases hx
  refine ⟨fun j x hx => ?_, fun j x y hx hy => ?_, fun x hkept => ?_⟩
  · rw [Option.isSome_iff_exists]
    constructor
    · rintro ⟨y, hy⟩
      exact ((hreads j x hx y).mp hy).1
    · intro hdated
      exact ⟨truncated x, (hreads j x hx _).mpr ⟨hdated, rfl⟩⟩
  · obtain ⟨-, rfl⟩ := (hreads j x hx y).mp hy
    exact ⟨rfl, h.writes x⟩
  · have hwhole : truncated x = x := h.whole x fun l hl => (hkept l hl).whole
    exact (h.reads x (fun l hl => (hkept l hl).sound) x).mpr
      ⟨fun l hl => (hkept l hl).dated, hwhole.symm⟩

/-! ### Sets of a test's own -/

/-- **The leaves of the description of a set.** -/
def TestSet.leaves (t : TestSet) : List Leaf :=
  [.number 32 t.replicas] ++ (t.providerSpec.leaves ++ t.taints.flatMap Taint.leaves)

/-- The set holds what its description does. -/
theorem leaves_toMachineSet (t : TestSet) (inNamespace : String) :
    (t.toMachineSet inNamespace).leaves = t.leaves := by
  have hstatus : within MachineSetStatus.leaves (t.toMachineSet inNamespace).status = [] := rfl
  have hspec : (t.toMachineSet inNamespace).spec.leaves = t.leaves := rfl
  rw [MachineSet.leaves, hstatus, hspec, List.append_nil]
  rfl

variable {τ : Type}

/-- **Making a set asks for one request,** with the document of the set. -/
theorem asked_createMachineSet (service : Service τ) (inNamespace : String) (t : TestSet)
    (r : Run (Traffic τ)) : Asked r (createMachineSet service inNamespace t r).2
      [.create (MachineSet.api inNamespace).collection (t.toMachineSet inNamespace).encode] :=
  asked_ask service _ _ r

/-! ### All kinds of object -/

/-- **Documents of the cluster's objects are read back,** those of sets that are made included. -/
structure DocumentsRoundTrip : Prop where
  machines : RoundTrips Machine.decode Machine.encode Machine.truncated Machine.leaves
  machineSets : RoundTrips MachineSet.decode MachineSet.encode MachineSet.truncated MachineSet.leaves
  infrastructures : RoundTrips Infrastructure.decode Infrastructure.encode Infrastructure.truncated
    Infrastructure.leaves
  operators : RoundTrips ClusterOperator.decode ClusterOperator.encode ClusterOperator.truncated
    ClusterOperator.leaves
  /-- Making a set from a description asks for one request, and the set is read back from the document
  that it carries. From the text of it, which is what is sent, the set is read back exactly if the
  provider's document is legible inside the five levels around it. -/
  posts : ∀ (τ : Type) (service : Service τ) (inNamespace : String) (t : TestSet)
    (r : Run (Traffic τ)), (∀ l ∈ t.leaves, l.Kept) → ∃ request body,
      request = .create (MachineSet.api inNamespace).collection body ∧
      Asked r (createMachineSet service inNamespace t r).2 [request] ∧
      MachineSet.decode body = some (t.toMachineSet inNamespace) ∧
      (request.received?.bind MachineSet.decode = some (t.toMachineSet inNamespace) ↔
        ∀ v ∈ t.providerSpec.value, v.Legible 122)
  /-- A document is read back from its text exactly if it is legible. -/
  texts : ∀ v : Json, Json.parse? v.render = some v ↔ v.Legible Json.maxDepth
  /-- All integers of 64 bits are legible. -/
  integers : ∀ n : Int, -(Nat.pow 2 63 : Int) ≤ n → n < Nat.pow 2 64 →
    (Json.Number.int n).Legible

theorem documents_round_trip : DocumentsRoundTrip where
  machines := Machine.readsBack.roundTrips rfl
  machineSets := MachineSet.readsBack.roundTrips rfl
  infrastructures := Infrastructure.readsBack.roundTrips rfl
  operators := ClusterOperator.readsBack.roundTrips rfl
  posts τ service inNamespace t r hkept := by
    have hreplicas : (Leaf.number 32 t.replicas).Sound := (hkept _ List.mem_cons_self).sound
    rw [← leaves_toMachineSet t inNamespace] at hkept
    have hdecode := (MachineSet.readsBack.roundTrips rfl).kept _ hkept
    exact ⟨_, _, rfl, asked_createMachineSet service inNamespace t r, hdecode,
      TestSet.received_iff _ inNamespace hreplicas hdecode⟩
  texts _ := Json.parse?_render_eq_self_iff
  integers _ := Json.Number.legible_int

/-! ### What is lost -/

/-- A machine with a taint from before the year 0, as it may be sent. -/
def agedDraft : Json := .obj [("metadata", .obj []), ("spec", .obj [("taints", .arr [.obj [
  ("effect", .str "e"), ("key", .str "k"), ("timeAdded", .str "-000001-01-01T00:00:00Z")]])])]

/-- What is read of it. -/
def agedMachine : Machine where
  spec := { taints := [{ key := "k", effect := "e", timeAdded := some ⟨-1, 1, 1, 0, 0, 0, 0⟩ }] }

/-- A machine with a manager whose fields are null. -/
def nullManaged : Machine where
  metadata := { managedFields := some [{
    apiVersion := none, fieldsType := none, fieldsV1 := some .null, manager := none
    operation := none, subresource := none, time := none }] }

/-- A set whose provider is told a ratio. -/
def setOfRatio (ratio : Json.Number) : TestSet where
  name := "ci-ln"
  replicas := 1
  labels := .ofList [(runLabel, "run-1")]
  taints := []
  providerSpec := ⟨some (.obj [("ratio", .num ratio)])⟩

/-- **What is lost.** A timestamp before the year 0 is read, and what is written of it is not; null among
the fields of a manager is not read back, though there is no timestamp and no other document; a ratio is
read as the float beside it from the text of the request that makes a set. -/
theorem documents_lost :
    (Machine.decode agedDraft = some agedMachine ∧ Machine.decode agedMachine.encode = none) ∧
      nullManaged.leaves = [.document .null] ∧ nullManaged.spec.providerSpec.value = none ∧
      nullManaged.status = none ∧ Machine.decode nullManaged.encode ≠ some nullManaged ∧
      (Request.create (MachineSet.api "ns").collection
        ((setOfRatio (.float false 32234061574414364 (-34))).toMachineSet "ns").encode).received?.bind
          MachineSet.decode =
        some ((setOfRatio (.float false 32234061574414367 (-34))).toMachineSet "ns") := by
  have hread : Machine.decode agedDraft = some agedMachine := by decide +kernel
  refine ⟨⟨hread, ?_⟩, rfl, rfl, rfl, by decide +kernel, by decide +kernel⟩
  have hleaves : agedMachine.leaves = [.time ⟨-1, 1, 1, 0, 0, 0, 0⟩] := rfl
  have hlost : ¬ ∀ l ∈ agedMachine.leaves, l.Dated := by
    rw [hleaves, List.forall_mem_singleton]
    exact (by decide : ¬ (0 : Int) ≤ -1)
  have hagain := (Machine.readsBack.roundTrips rfl).again agedDraft agedMachine hread
  rwa [← hagain, Bool.not_eq_true, Option.isSome_eq_false_iff, Option.isNone_iff_eq_none] at hlost

end ClusterWait
