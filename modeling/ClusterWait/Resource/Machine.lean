import ClusterWait.Resource.Reference
import ClusterWait.Resource.LabelSelector

/-! # Machines and machine sets

A *machine* is a host that backs a node; a *machine set* keeps a number of equal machines. What
concerns the cloud provider is an opaque document in either.

* `Machine`, `MachineSet` with `decode` and `encode`: strict records, metadata apart. Empty taints,
  empty template labels and absent members are left out when written; the other defaults are written.
* `Machine.phase`, `Machine.failureSummary`: what a machine reports.
* `Machine.isControlledBy`: the machine belongs to the set.
* `MachineSet.isWorker`: the set makes machines with the worker role. -/

namespace ClusterWait

def clusterLabel : String := "machine.openshift.io/cluster-api-cluster"

def machineSetLabel : String := "machine.openshift.io/cluster-api-machineset"

def machineRoleLabel : String := "machine.openshift.io/cluster-api-machine-role"

def machineTypeLabel : String := "machine.openshift.io/cluster-api-machine-type"

def machineApiVersion : String := "machine.openshift.io/v1beta1"

/-! ### Machines -/

/-- **A phase of a machine's life.** -/
inductive MachinePhase where
  | provisioning
  | provisioned
  | running
  | deleting
  | failed
deriving Repr, DecidableEq

namespace MachinePhase

def name : MachinePhase → String
  | .provisioning => "Provisioning"
  | .provisioned => "Provisioned"
  | .running => "Running"
  | .deleting => "Deleting"
  | .failed => "Failed"

def all : List MachinePhase := [.provisioning, .provisioned, .running, .deleting, .failed]

/-- The phase of a word, if it is a known one. -/
def ofName? (s : String) : Option MachinePhase := all.find? (·.name = s)

end MachinePhase

/-- What a provider needs to know about a machine, an opaque document. -/
structure ProviderSpec where
  value : Option Json := none
deriving DecidableEq

namespace ProviderSpec

def decode : Decoder ProviderSpec := fun j => do
  let m ← Members.of? ["value"] j
  let value ← m.orAbsent "value" Decoder.any
  pure { value }

def encode (s : ProviderSpec) : Json := .ofFields [("value", s.value)]

end ProviderSpec

structure MachineSpec where
  providerSpec : ProviderSpec := {}
  taints : List Taint := []
  providerID : Option String := none
deriving DecidableEq

namespace MachineSpec

def decode : Decoder MachineSpec := fun j => do
  let m ← Members.of? ["providerSpec", "taints", "providerID"] j
  let providerSpec ← m.withDefault "providerSpec" {} ProviderSpec.decode
  let taints ← m.withDefault "taints" [] Taint.decode.list
  let providerID ← m.orAbsent "providerID" Decoder.text
  pure { providerSpec, taints, providerID }

def encode (s : MachineSpec) : Json := .ofFields [
  ("providerID", s.providerID.map .str),
  ("providerSpec", some s.providerSpec.encode),
  ("taints", if s.taints.isEmpty then none else some (.arr (s.taints.map Taint.encode)))]

end MachineSpec

structure MachineStatus where
  phase : Option String := none
  nodeRef : Option ObjectReference := none
  errorReason : Option String := none
  errorMessage : Option String := none
  providerStatus : Option Json := none
deriving DecidableEq

namespace MachineStatus

def decode : Decoder MachineStatus := fun j => do
  let m ← Members.of? ["phase", "nodeRef", "errorReason", "errorMessage", "providerStatus"] j
  let phase ← m.orAbsent "phase" Decoder.text
  let nodeRef ← m.orAbsent "nodeRef" ObjectReference.decode
  let errorReason ← m.orAbsent "errorReason" Decoder.text
  let errorMessage ← m.orAbsent "errorMessage" Decoder.text
  let providerStatus ← m.orAbsent "providerStatus" Decoder.any
  pure { phase, nodeRef, errorReason, errorMessage, providerStatus }

def encode (s : MachineStatus) : Json := .ofFields [
  ("errorMessage", s.errorMessage.map .str),
  ("errorReason", s.errorReason.map .str),
  ("nodeRef", s.nodeRef.map ObjectReference.encode),
  ("phase", s.phase.map .str),
  ("providerStatus", s.providerStatus)]

end MachineStatus

/-- **A machine.** -/
structure Machine where
  metadata : ObjectMeta := {}
  spec : MachineSpec := {}
  status : Option MachineStatus := none
deriving DecidableEq

namespace Machine

/-- **The machine in a document.** -/
def decode : Decoder Machine := fun j => do
  let m ← Members.of? ["metadata", "spec", "status"] j
  let metadata ← m.required "metadata" ObjectMeta.decode
  let spec ← m.required "spec" MachineSpec.decode
  let status ← m.nullable "status" MachineStatus.decode
  pure { metadata, spec, status }

/-- **The document of a machine.** -/
def encode (x : Machine) : Json := .ofFields [
  ("apiVersion", some (.str machineApiVersion)),
  ("kind", some (.str "Machine")),
  ("metadata", some x.metadata.encode),
  ("spec", some x.spec.encode),
  ("status", x.status.map MachineStatus.encode)]

def nameAny (x : Machine) : String := x.metadata.nameAny

/-- **The phase that a machine reports,** if it is a known one. -/
def phase (x : Machine) : Option MachinePhase :=
  (x.status.bind (·.phase)).bind MachinePhase.ofName?

def nodeName (x : Machine) : Option String := (x.status.bind (·.nodeRef)).bind (·.name)

def providerStatus (x : Machine) : Option Json := x.status.bind (·.providerStatus)

/-- **Why a machine failed,** in one line. -/
def failureSummary (x : Machine) : String :=
  let reason := (x.status.bind (·.errorReason)).getD "failureReason not present in Machine.status"
  let message := (x.status.bind (·.errorMessage)).getD "failureMessage not present in Machine.status"
  "Reason: " ++ reason ++ ", Message: " ++ message

def inPhase (p : MachinePhase) (machines : List Machine) : List Machine :=
  machines.filter (·.phase = some p)

def running (machines : List Machine) : List Machine := inPhase .running machines

def failed (machines : List Machine) : List Machine := inPhase .failed machines

end Machine

/-! ### Machine sets -/

/-- The metadata of the machines that a set makes, of which only the labels matter. -/
structure TemplateMeta where
  labels : Dictionary String := .empty
deriving DecidableEq

namespace TemplateMeta

def decode : Decoder TemplateMeta := fun j => do
  let m ← Members.of? ["labels"] j
  let labels ← m.withDefault "labels" .empty Decoder.text.dictionary
  pure { labels }

def encode (t : TemplateMeta) : Json := .ofFields [
  ("labels", if t.labels.isEmpty then none else some (.ofLabels t.labels))]

end TemplateMeta

structure MachineTemplate where
  metadata : TemplateMeta := {}
  spec : MachineSpec := {}
deriving DecidableEq

namespace MachineTemplate

def decode : Decoder MachineTemplate := fun j => do
  let m ← Members.of? ["metadata", "spec"] j
  let metadata ← m.withDefault "metadata" {} TemplateMeta.decode
  let spec ← m.withDefault "spec" {} MachineSpec.decode
  pure { metadata, spec }

def encode (t : MachineTemplate) : Json := .ofFields [
  ("metadata", some t.metadata.encode),
  ("spec", some t.spec.encode)]

end MachineTemplate

/-- The desired state of a set. No number of replicas means none. -/
structure MachineSetSpec where
  replicas : Option Int := none
  selector : LabelSelector := {}
  template : MachineTemplate := {}
deriving DecidableEq

namespace MachineSetSpec

def decode : Decoder MachineSetSpec := fun j => do
  let m ← Members.of? ["replicas", "selector", "template"] j
  let replicas ← m.orAbsent "replicas" (Decoder.int 32)
  let selector ← m.withDefault "selector" {} LabelSelector.decode
  let template ← m.withDefault "template" {} MachineTemplate.decode
  pure { replicas, selector, template }

def encode (s : MachineSetSpec) : Json := .ofFields [
  ("replicas", s.replicas.map Json.ofInt),
  ("selector", some s.selector.encode),
  ("template", some s.template.encode)]

end MachineSetSpec

structure MachineSetStatus where
  replicas : Int := 0
  readyReplicas : Int := 0
  availableReplicas : Int := 0
deriving DecidableEq

namespace MachineSetStatus

def decode : Decoder MachineSetStatus := fun j => do
  let m ← Members.of? ["replicas", "readyReplicas", "availableReplicas"] j
  let replicas ← m.withDefault "replicas" 0 (Decoder.int 32)
  let readyReplicas ← m.withDefault "readyReplicas" 0 (Decoder.int 32)
  let availableReplicas ← m.withDefault "availableReplicas" 0 (Decoder.int 32)
  pure { replicas, readyReplicas, availableReplicas }

def encode (s : MachineSetStatus) : Json := .ofFields [
  ("availableReplicas", some (.ofInt s.availableReplicas)),
  ("readyReplicas", some (.ofInt s.readyReplicas)),
  ("replicas", some (.ofInt s.replicas))]

end MachineSetStatus

/-- **A set of equal machines.** -/
structure MachineSet where
  metadata : ObjectMeta := {}
  spec : MachineSetSpec := {}
  status : Option MachineSetStatus := none
deriving DecidableEq

namespace MachineSet

/-- **The set in a document.** -/
def decode : Decoder MachineSet := fun j => do
  let m ← Members.of? ["metadata", "spec", "status"] j
  let metadata ← m.required "metadata" ObjectMeta.decode
  let spec ← m.required "spec" MachineSetSpec.decode
  let status ← m.nullable "status" MachineSetStatus.decode
  pure { metadata, spec, status }

/-- **The document of a set.** -/
def encode (x : MachineSet) : Json := .ofFields [
  ("apiVersion", some (.str machineApiVersion)),
  ("kind", some (.str "MachineSet")),
  ("metadata", some x.metadata.encode),
  ("spec", some x.spec.encode),
  ("status", x.status.map MachineSetStatus.encode)]

def nameAny (x : MachineSet) : String := x.metadata.nameAny

/-- The namespace of a set, empty when it has none. -/
def namespaceAny (x : MachineSet) : String := x.metadata.namespaceAny

/-- **The number of machines that a set wants;** none when it names no number or a negative one. -/
def wanted (x : MachineSet) : Nat := (x.spec.replicas.getD 0).toNat

def templateLabels (x : MachineSet) : Dictionary String := x.spec.template.metadata.labels

/-- **The set makes workers:** the labels of its template say so. -/
def isWorker (x : MachineSet) : Bool := x.templateLabels.get? machineRoleLabel == some "worker"

end MachineSet

/-- **The machine is controlled by the set:** one of its owners controls it and is the set, by its
unique name. A set without one controls nothing. -/
def Machine.isControlledBy (x : Machine) (owner : MachineSet) : Bool :=
  match owner.metadata.uid with
  | none => false
  | some uid =>
    (x.metadata.ownerReferences.getD []).any fun o => o.controller == some true && o.uid == uid

end ClusterWait
