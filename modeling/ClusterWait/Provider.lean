import ClusterWait.Json.Printer
import ClusterWait.Platform
import ClusterWait.Text.Quoted
import ClusterWait.Text.Search

/-! # Cloud providers

What differs from one provider to the next: the document that describes a machine, where its type and
its zone stand in it, which other types may be tried, and how the provider says that it has no
machine left.

* `Provider.ofPlatform`: the provider of a platform, for the four that are supported.
* `Provider.minimalSpec`, `Provider.withInstanceType`, `Provider.zone`,
  `Provider.alternativeInstanceTypes`.
* `Provider.hasInsufficientCapacity`: the machine could not be made for lack of capacity. It is told
  from the first failed condition on the making of the machine in the provider's report; a report
  that cannot be read is an error (`ReportError`), wherever the fault stands in it. -/

namespace ClusterWait

/-- **A cloud provider.** -/
inductive Provider where
  | aws
  | azure
  | gcp
  | vsphere
deriving Repr, DecidableEq

/-! ### Reports -/

inductive ReportError where
  | invalidType (found : Json) (expected : String)
  | missingField (name : String)
  | tooShort (length : Nat)
  | tooLong (length : Nat)
deriving DecidableEq

namespace ReportError

/-- A document in a message: its type, and its value where that is short. -/
def shown : Json → String
  | .null | .unfit => "null"
  | .bool b => "boolean `" ++ (if b then "true" else "false") ++ "`"
  | .num (.int n) => "integer `" ++ (Json.Number.int n).render ++ "`"
  | .num n => "floating point `" ++ n.render ++ "`"
  | .str s => "string " ++ Text.quoted s
  | .arr _ => "sequence"
  | .obj _ => "map"

def length (n : Nat) : String := "invalid length " ++ Text.Decimal.render n

def message : ReportError → String
  | .invalidType found expected => "invalid type: " ++ shown found ++ ", expected " ++ expected
  | .missingField name => "missing field `" ++ name ++ "`"
  | .tooShort n => length n ++ ", expected struct StatusCondition with 3 elements"
  | .tooLong n => length n ++ ", expected fewer elements in array"

end ReportError

structure ReportCondition where
  type : String
  status : String
  message : String
deriving Repr, DecidableEq

namespace ReportCondition

def text : Json → Except ReportError String
  | .str s => .ok s
  | j => .error (.invalidType j "a string")

def textOr? : Option Json → Except ReportError (Option String)
  | none => .ok none
  | some j => (text j).map some

/-- The condition of the members of an object. They are read in ascending order of the name, so that
of two faults the first in that order is told, and a missing one only when there is no other. -/
def ofFields (fields : List (String × Json)) : Except ReportError ReportCondition := do
  let message ← textOr? (Json.lookup "message" fields)
  let status ← textOr? (Json.lookup "status" fields)
  let type ← textOr? (Json.lookup "type" fields)
  match type, status with
  | none, _ => throw (.missingField "type")
  | _, none => throw (.missingField "status")
  | some type, some status => pure { type, status, message := message.getD "" }

def ofItems : List Json → Except ReportError ReportCondition
  | [] => .error (.tooShort 0)
  | [type] => do
    let _ ← text type
    throw (.tooShort 1)
  | [type, status] => do
    let type ← text type
    let status ← text status
    pure { type, status, message := "" }
  | type :: status :: message :: rest => do
    let type ← text type
    let status ← text status
    let message ← text message
    if rest.isEmpty then pure { type, status, message } else throw (.tooLong (3 + rest.length))

/-- **The condition in a document.** -/
def read : Json → Except ReportError ReportCondition
  | .obj fields => ofFields fields
  | .arr items => ofItems items
  | j => .error (.invalidType j "struct StatusCondition")

/-- The condition tells that the making of the machine failed. -/
def creationFailed (c : ReportCondition) : Bool :=
  (c.type == "MachineCreation" || c.type == "MachineCreated") && c.status == "False"

end ReportCondition

def readConditions : Json → Except ReportError (List ReportCondition)
  | .arr items => items.mapM ReportCondition.read
  | j => .error (.invalidType j "a sequence")

/-- **The conditions of a provider's report.** -/
def readReport : Json → Except ReportError (List ReportCondition)
  | .obj fields => match Json.lookup "conditions" fields with
    | none => .ok []
    | some j => readConditions j
  | .arr [] => .ok []
  | .arr (j :: rest) => do
    let conditions ← readConditions j
    if rest.isEmpty then pure conditions else throw (.tooLong (1 + rest.length))
  | j => .error (.invalidType j "struct ProviderStatus")

/-! ### Providers -/

inductive ProviderError where
  | unsupportedPlatform (platform : Platform)
  | unsupported (provider : Provider) (operation : String)
  | notAnObject
  | malformedReport (cause : ReportError)
deriving DecidableEq

namespace Provider

def name : Provider → String
  | .aws => "AWS"
  | .azure => "Azure"
  | .gcp => "GCP"
  | .vsphere => "vSphere"

/-- **The provider of a platform.** -/
def ofPlatform : Platform → Except ProviderError Provider
  | .aws => .ok .aws
  | .azure => .ok .azure
  | .gcp => .ok .gcp
  | .vsphere => .ok .vsphere
  | p => .error (.unsupportedPlatform p)

def specVersion : String := "machine.openshift.io/v1beta1"

def specKind : Provider → String
  | .aws => "AWSMachineProviderConfig"
  | .azure => "AzureMachineProviderSpec"
  | .gcp => "GCPMachineProviderSpec"
  | .vsphere => "VSphereMachineProviderSpec"

/-- The key of a machine's type, for the providers that name one. -/
def typeKey? : Provider → Option String
  | .aws => some "instanceType"
  | .azure => some "vmSize"
  | .gcp => some "machineType"
  | .vsphere => none

/-- **The smallest document that describes a machine.** -/
def minimalSpec (p : Provider) : Json :=
  let head := [("apiVersion", Json.str specVersion)]
  let kind := [("kind", Json.str p.specKind)]
  match p with
  | .aws => .obj (head ++ [("instanceType", .str "m5.xlarge")] ++ kind)
  | .azure => .obj (head ++ kind ++ [("vmSize", .str "Standard_D4s_v3")])
  | .gcp => .obj (head ++ kind ++ [("machineType", .str "n1-standard-4")])
  | .vsphere => .obj (head ++ [("diskGiB", .ofNat 120)] ++ kind
      ++ [("memoryMiB", .ofNat 16384), ("numCPUs", .ofNat 4)])

/-- **The document with another type of machine.** -/
def withInstanceType (p : Provider) (base : Json) (instanceType : String) :
    Except ProviderError Json :=
  match p.typeKey? with
  | none => .error (.unsupported p "build_template")
  | some key => match base.set? key (.str instanceType) with
    | none => .error .notAnObject
    | some j => .ok j

/-- The path of a machine's zone, for the providers that have zones. -/
def zonePath? : Provider → Option String
  | .aws => some "/placement/availabilityZone"
  | .azure => some "/zone"
  | .gcp => some "/zone"
  | .vsphere => none

/-- **The zone that a document puts its machine in:** a text that is not empty. -/
def zone (p : Provider) (spec : Json) : Option String :=
  ((p.zonePath?.bind (Json.pointer? · spec)).bind Json.text?).filter (· ≠ "")

/-- **The types that may be tried** when the usual one is not to be had. -/
def alternativeInstanceTypes : Provider → Except ProviderError (List String)
  | .aws => .ok ["c5.xlarge", "c5a.xlarge", "m5.xlarge"]
  | .azure => .ok ["Standard_F4s_v2", "Standard_D4as_v5", "Standard_D4as_v4"]
  | p => .error (.unsupported p "alternative instance types")

def capacityMarker? : Provider → Option String
  | .aws => some "InsufficientInstanceCapacity"
  | .azure => some "SkuNotAvailable"
  | _ => none

/-- The first failed condition on the making of the machine holds the marker. -/
def reportsExhaustion (marker : String) (conditions : List ReportCondition) : Bool :=
  (conditions.find? ReportCondition.creationFailed).any fun c => Text.contains c.message marker

/-- **The machine could not be made for lack of capacity,** by the provider's report on it. -/
def hasInsufficientCapacity (p : Provider) (report : Option Json) : Except ProviderError Bool :=
  match p.capacityMarker? with
  | none => .error (.unsupported p "insufficient capacity detection")
  | some marker => match report with
    | none => .ok false
    | some j => match readReport j with
      | .error e => .error (.malformedReport e)
      | .ok conditions => .ok (reportsExhaustion marker conditions)

end Provider

def ProviderError.message : ProviderError → String
  | .unsupportedPlatform p => "platform " ++ p.name ++ " is not supported"
  | .unsupported p operation => operation ++ " is not implemented for " ++ p.name
  | .notAnObject => "providerSpec value is not a JSON object"
  | .malformedReport e => "malformed provider status: " ++ e.message

end ClusterWait
