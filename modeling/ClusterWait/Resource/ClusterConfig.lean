import ClusterWait.Resource.Metadata

/-! # The cluster's configuration objects

* `Infrastructure`: which platform the cluster runs on, its unique name and its address.
* `ClusterOperator`: the state of one of the cluster's own services, as a list of conditions.
  `unavailableReason` tells why it is not settled. Of several conditions of one type the first counts,
  and a missing one does not count against the service. -/

namespace ClusterWait

def configApiVersion : String := "config.openshift.io/v1"

/-- A record without members, as the configuration objects have for their desired state. -/
structure EmptySpec where
deriving DecidableEq

def EmptySpec.decode : Decoder EmptySpec := fun j => (Members.of? [] j).map fun _ => {}

/-! ### Infrastructure -/

structure PlatformStatus where
  type : String
deriving DecidableEq

namespace PlatformStatus

def decode : Decoder PlatformStatus := fun j => do
  let m ← Members.of? ["type"] j
  let type ← m.required "type" Decoder.text
  pure { type }

def encode (p : PlatformStatus) : Json := .ofFields [("type", some (.str p.type))]

end PlatformStatus

structure InfrastructureStatus where
  infrastructureName : String := ""
  apiServerURL : String := ""
  platformStatus : Option PlatformStatus := none
deriving DecidableEq

namespace InfrastructureStatus

def decode : Decoder InfrastructureStatus := fun j => do
  let m ← Members.of? ["infrastructureName", "apiServerURL", "platformStatus"] j
  let infrastructureName ← m.withDefault "infrastructureName" "" Decoder.text
  let apiServerURL ← m.withDefault "apiServerURL" "" Decoder.text
  let platformStatus ← m.orAbsent "platformStatus" PlatformStatus.decode
  pure { infrastructureName, apiServerURL, platformStatus }

def encode (s : InfrastructureStatus) : Json := .ofFields [
  ("apiServerURL", some (.str s.apiServerURL)),
  ("infrastructureName", some (.str s.infrastructureName)),
  ("platformStatus", s.platformStatus.map PlatformStatus.encode)]

end InfrastructureStatus

/-- **The infrastructure of a cluster.** -/
structure Infrastructure where
  metadata : ObjectMeta := {}
  spec : EmptySpec := {}
  status : Option InfrastructureStatus := none
deriving DecidableEq

namespace Infrastructure

/-- **The infrastructure in a document.** -/
def decode : Decoder Infrastructure := fun j => do
  let m ← Members.of? ["metadata", "spec", "status"] j
  let metadata ← m.required "metadata" ObjectMeta.decode
  let spec ← m.required "spec" EmptySpec.decode
  let status ← m.nullable "status" InfrastructureStatus.decode
  pure { metadata, spec, status }

/-- **The document of an infrastructure.** -/
def encode (x : Infrastructure) : Json := .ofFields [
  ("apiVersion", some (.str configApiVersion)),
  ("kind", some (.str "Infrastructure")),
  ("metadata", some x.metadata.encode),
  ("spec", some (.obj [])),
  ("status", x.status.map InfrastructureStatus.encode)]

end Infrastructure

/-! ### Operators -/

structure OperatorCondition where
  type : String
  status : String
  reason : Option String := none
  message : Option String := none
  lastTransitionTime : Option String := none
deriving DecidableEq

namespace OperatorCondition

def decode : Decoder OperatorCondition := fun j => do
  let m ← Members.of? ["type", "status", "reason", "message", "lastTransitionTime"] j
  let type ← m.required "type" Decoder.text
  let status ← m.required "status" Decoder.text
  let reason ← m.orAbsent "reason" Decoder.text
  let message ← m.orAbsent "message" Decoder.text
  let lastTransitionTime ← m.orAbsent "lastTransitionTime" Decoder.text
  pure { type, status, reason, message, lastTransitionTime }

def encode (c : OperatorCondition) : Json := .ofFields [
  ("lastTransitionTime", c.lastTransitionTime.map .str),
  ("message", c.message.map .str),
  ("reason", c.reason.map .str),
  ("status", some (.str c.status)),
  ("type", some (.str c.type))]

end OperatorCondition

structure ClusterOperatorStatus where
  conditions : List OperatorCondition := []
deriving DecidableEq

namespace ClusterOperatorStatus

def decode : Decoder ClusterOperatorStatus := fun j => do
  let m ← Members.of? ["conditions"] j
  let conditions ← m.withDefault "conditions" [] OperatorCondition.decode.list
  pure { conditions }

def encode (s : ClusterOperatorStatus) : Json := .ofFields [
  ("conditions", some (.arr (s.conditions.map OperatorCondition.encode)))]

end ClusterOperatorStatus

/-- **An operator:** one of the cluster's own services. -/
structure ClusterOperator where
  metadata : ObjectMeta := {}
  spec : EmptySpec := {}
  status : Option ClusterOperatorStatus := none
deriving DecidableEq

namespace ClusterOperator

/-- **The operator in a document.** -/
def decode : Decoder ClusterOperator := fun j => do
  let m ← Members.of? ["metadata", "spec", "status"] j
  let metadata ← m.required "metadata" ObjectMeta.decode
  let spec ← m.required "spec" EmptySpec.decode
  let status ← m.nullable "status" ClusterOperatorStatus.decode
  pure { metadata, spec, status }

/-- **The document of an operator.** -/
def encode (x : ClusterOperator) : Json := .ofFields [
  ("apiVersion", some (.str configApiVersion)),
  ("kind", some (.str "ClusterOperator")),
  ("metadata", some x.metadata.encode),
  ("spec", some (.obj [])),
  ("status", x.status.map ClusterOperatorStatus.encode)]

def conditions (x : ClusterOperator) : List OperatorCondition :=
  (x.status.map (·.conditions)).getD []

def condition (x : ClusterOperator) (type : String) : Option OperatorCondition :=
  x.conditions.find? (·.type = type)

/-- The types of condition that count against an operator, each with the status that does. -/
def unsettled : List (String × String) :=
  [("Available", "False"), ("Progressing", "True"), ("Degraded", "True")]

/-- A condition in words, with its message. -/
def complaint (c : OperatorCondition) : String :=
  c.type ++ "=" ++ c.status ++ " (" ++ c.message.getD "no message" ++ ")"

/-- The conditions that count against an operator, in words. -/
def complaints (x : ClusterOperator) : List String :=
  unsettled.filterMap fun u =>
    ((x.condition u.1).filter (·.status = u.2)).map complaint

/-- **Why an operator is not settled,** nothing when it is available, and neither progressing nor
degraded. -/
def unavailableReason (x : ClusterOperator) : Option String :=
  if x.complaints.isEmpty then none else some (", ".intercalate x.complaints)

def isAvailable (x : ClusterOperator) : Bool := x.unavailableReason.isNone

end ClusterOperator

end ClusterWait
