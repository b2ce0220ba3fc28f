import ClusterWait.Resource.ClusterConfig
import ClusterWait.Resource.Machine

/-! # Definitions: how the kinds of object are announced to a cluster

A cluster learns a kind of object from its *definition*: names, scope and the schema of its
documents. What a schema gives as the default of a member is what the encoder writes for the value
that the decoder takes in the member's absence.

* `Schema`: the members of a schema document, with `text`, `int32`, `list`, `dictionary`, `record`
  and the notes `described`, `defaulting`, `nullable`.
* `Manual`: a place in the cluster's manuals that a description points to.
* `Definition.encode`: the document of a definition.
* `Machine.definition`, `MachineSet.definition`, `Infrastructure.definition`,
  `ClusterOperator.definition`. -/

namespace ClusterWait

/-- **The members of a schema document,** ascending. -/
abbrev Schema := List (String × Json)

namespace Schema

def ofType (name : String) : Schema := [("type", .str name)]

def text : Schema := ofType "string"

/-- An instant, written as a text. -/
def instant : Schema := Json.insert "format" (.str "date-time") text

def int32 : Schema := Json.insert "format" (.str "int32") (ofType "integer")

def free : Schema := Json.insert "x-kubernetes-preserve-unknown-fields" (.bool true) (ofType "object")

def list (items : Schema) : Schema := Json.insert "items" (.obj items) (ofType "array")

def dictionary (values : Schema) : Schema :=
  Json.insert "additionalProperties" (.obj values) (ofType "object")

/-- A record, of which some members have to be there. -/
def record (members : List (String × Schema)) (required : List String) : Schema :=
  let properties := if members.isEmpty then none
    else some (Json.obj (members.map fun m => (m.1, .obj m.2)))
  let required := if required.isEmpty then none else some (Json.ofTexts required)
  [("properties", properties), ("required", required), ("type", some (.str "object"))].filterMap
    fun f => f.2.map fun v => (f.1, v)

def described (s : Schema) (description : String) : Schema :=
  Json.insert "description" (.str description) s

def defaulting (s : Schema) (value : Json) : Schema := Json.insert "default" value s

def nullable (s : Schema) : Schema := Json.insert "nullable" (.bool true) s

end Schema

/-! ### Manuals -/

/-- **A place in the cluster's manuals:** a page of a site, and a heading on it if there is one. -/
structure Manual where
  site : String
  page : String
  heading : Option String := none
deriving Repr, DecidableEq

namespace Manual

def scheme : String := "https"

def address (m : Manual) : String :=
  scheme ++ "://" ++ m.site ++ "/" ++ m.page ++ ((m.heading.map ("#" ++ ·)).getD "")

def after (m : Manual) (sentence : String) : String := sentence ++ " More info: " ++ m.address

/-- The conventions of the cluster's interface, by a heading. -/
def conventions (heading : String) : Manual where
  site := "git.k8s.io"
  page := "community/contributors/devel/sig-architecture/api-conventions.md"
  heading := some heading

def types : Manual := conventions "types-kinds"

def concurrency : Manual := conventions "concurrency-control-and-consistency"

/-- The concepts of objects, by a page and a heading. -/
def concepts (page : String) (heading : Option String) : Manual where
  site := "kubernetes.io"
  page := "docs/concepts/overview/working-with-objects/" ++ page ++ "/"
  heading := heading

def names : Manual := concepts "names" (some "names")

def identifiers : Manual := concepts "names" (some "uids")

def namespaces : Manual := concepts "namespaces" none

end Manual

/-- **The definition of a kind of object.** -/
structure Definition where
  group : String
  version : String
  kind : String
  plural : String
  singular : String
  namespaced : Bool
  spec : Schema
  status : Schema

namespace Definition

def schema (d : Definition) : Schema :=
  Json.insert "title" (.str d.kind)
    ((Schema.record [("spec", d.spec), ("status", d.status.nullable)] ["spec"]).described
      ("Auto-generated derived type for " ++ d.kind ++ "Spec via `CustomResource`"))

def encodeVersion (d : Definition) : Json := .obj [
  ("additionalPrinterColumns", .arr []),
  ("name", .str d.version),
  ("schema", .obj [("openAPIV3Schema", .obj d.schema)]),
  ("served", .bool true),
  ("storage", .bool true),
  ("subresources", .obj [("status", .obj [])])]

/-- **The document of a definition.** -/
def encode (d : Definition) : Json := .obj [
  ("apiVersion", .str "apiextensions.k8s.io/v1"),
  ("kind", .str "CustomResourceDefinition"),
  ("metadata", .obj [("name", .str (d.plural ++ "." ++ d.group))]),
  ("spec", .obj [
    ("group", .str d.group),
    ("names", .obj [
      ("categories", .arr []),
      ("kind", .str d.kind),
      ("plural", .str d.plural),
      ("shortNames", .arr []),
      ("singular", .str d.singular)]),
    ("scope", .str (if d.namespaced then "Namespaced" else "Cluster")),
    ("versions", .arr [d.encodeVersion])])]

end Definition

/-! ### Parts that several kinds share -/

def ObjectReference.schema : Schema :=
  (Schema.record [
    ("apiVersion", Schema.text.described "API version of the referent."),
    ("fieldPath", Schema.text.described
      "If referring to a piece of an object instead of an entire object, this string should contain a valid JSON/Go field access statement, such as desiredState.manifest.containers[2]. For example, if the object reference is to a container within a pod, this would take on a value like: \"spec.containers\x7bname\x7d\" (where \"name\" refers to the name of the container that triggered the event) or if no container name is specified \"spec.containers[2]\" (container with index 2 in this pod). This syntax is chosen only to have some well-defined way of referencing a part of an object."),
    ("kind", Schema.text.described (Manual.types.after "Kind of the referent.")),
    ("name", Schema.text.described (Manual.names.after "Name of the referent.")),
    ("namespace", Schema.text.described (Manual.namespaces.after "Namespace of the referent.")),
    ("resourceVersion", Schema.text.described (Manual.concurrency.after
      "Specific resourceVersion to which this reference is made, if any.")),
    ("uid", Schema.text.described (Manual.identifiers.after "UID of the referent."))] []).described
    "ObjectReference contains enough information to let you inspect or modify the referred object."

def Taint.schema : Schema :=
  (Schema.record [
    ("effect", Schema.text.described
      "Required. The effect of the taint on pods that do not tolerate the taint. Valid effects are NoSchedule, PreferNoSchedule and NoExecute."),
    ("key", Schema.text.described "Required. The taint key to be applied to a node."),
    ("timeAdded", Schema.instant.described
      "TimeAdded represents the time at which the taint was added."),
    ("value", Schema.text.described "The taint value corresponding to the taint key.")]
    ["effect", "key"]).described
    "The node this Taint is attached to has the \"effect\" on any pod that does not tolerate the Taint."

def LabelRequirement.schema : Schema :=
  (Schema.record [
    ("key", Schema.text.described "key is the label key that the selector applies to."),
    ("operator", Schema.text.described
      "operator represents a key's relationship to a set of values. Valid operators are In, NotIn, Exists and DoesNotExist."),
    ("values", (Schema.list Schema.text).described
      "values is an array of string values. If the operator is In or NotIn, the values array must be non-empty. If the operator is Exists or DoesNotExist, the values array must be empty. This array is replaced during a strategic merge patch.")]
    ["key", "operator"]).described
    "A label selector requirement is a selector that contains values, a key, and an operator that relates the key and values."

def LabelSelector.schema : Schema :=
  (Schema.record [
    ("matchExpressions", (Schema.list LabelRequirement.schema).described
      "matchExpressions is a list of label selector requirements. The requirements are ANDed."),
    ("matchLabels", (Schema.dictionary Schema.text).described
      "matchLabels is a map of \x7bkey,value\x7d pairs. A single \x7bkey,value\x7d in the matchLabels map is equivalent to an element of matchExpressions, whose key field is \"key\", the operator is \"In\", and the values array contains only \"value\". The requirements are ANDed.")]
    []).described
    "A label selector is a label query over a set of resources. The result of matchLabels and matchExpressions are ANDed. An empty label selector matches all objects. A null label selector matches no objects."

def ProviderSpec.schema : Schema :=
  (Schema.record [("value", Schema.free)] []).described
    "Opaque provider configuration embedded in a Machine spec."

def MachineSpec.schema : Schema :=
  (Schema.record [
    ("providerID", Schema.text.nullable),
    ("providerSpec", ProviderSpec.schema.defaulting (ProviderSpec.encode {})),
    ("taints", Schema.list Taint.schema)] []).described
    "Desired state of a Machine API machine (`machine.openshift.io/v1beta1`)."

def MachineStatus.schema : Schema :=
  Schema.record [
    ("errorMessage", Schema.text.nullable),
    ("errorReason", Schema.text.nullable),
    ("nodeRef", ObjectReference.schema.nullable),
    ("phase", Schema.text.nullable.described
      "Kept as a string so phases added by newer controllers still parse."),
    ("providerStatus", Schema.free)] []

def TemplateMeta.schema : Schema :=
  Schema.record [("labels", Schema.dictionary Schema.text)] []

def MachineTemplate.schema : Schema :=
  Schema.record [
    ("metadata", TemplateMeta.schema.defaulting (TemplateMeta.encode {})),
    ("spec", MachineSpec.schema.defaulting (MachineSpec.encode {}))] []

def MachineSetSpec.schema : Schema :=
  (Schema.record [
    ("replicas", Schema.int32.nullable.described "`None` means zero replicas."),
    ("selector", LabelSelector.schema.defaulting (LabelSelector.encode {})),
    ("template", MachineTemplate.schema.defaulting (MachineTemplate.encode {}))] []).described
    "A group of identical machines (`machine.openshift.io/v1beta1`)."

def MachineSetStatus.schema : Schema :=
  Schema.record [
    ("availableReplicas", Schema.int32.defaulting (.ofInt 0)),
    ("readyReplicas", Schema.int32.defaulting (.ofInt 0)),
    ("replicas", Schema.int32.defaulting (.ofInt 0))] []

def PlatformStatus.schema : Schema := Schema.record [("type", Schema.text)] ["type"]

def InfrastructureStatus.schema : Schema :=
  Schema.record [
    ("apiServerURL", Schema.text.defaulting (.str "")),
    ("infrastructureName", (Schema.text.defaulting (.str "")).described
      "Unique name given to the cluster's cloud resources, e.g. \"ci-ln-4q2cbq2-76ef8\"."),
    ("platformStatus", PlatformStatus.schema.nullable)] []

def OperatorCondition.schema : Schema :=
  Schema.record [
    ("lastTransitionTime", Schema.text.nullable),
    ("message", Schema.text.nullable),
    ("reason", Schema.text.nullable),
    ("status", Schema.text),
    ("type", Schema.text)] ["status", "type"]

def ClusterOperatorStatus.schema : Schema :=
  Schema.record [
    ("conditions", (Schema.list OperatorCondition.schema).defaulting (.arr []))] []

/-! ### The kinds -/

/-- **How machines are announced.** -/
def Machine.definition : Definition where
  group := "machine.openshift.io"
  version := "v1beta1"
  kind := "Machine"
  plural := "machines"
  singular := "machine"
  namespaced := true
  spec := MachineSpec.schema
  status := MachineStatus.schema

/-- **How machine sets are announced.** -/
def MachineSet.definition : Definition where
  group := "machine.openshift.io"
  version := "v1beta1"
  kind := "MachineSet"
  plural := "machinesets"
  singular := "machineset"
  namespaced := true
  spec := MachineSetSpec.schema
  status := MachineSetStatus.schema

/-- **How the infrastructure is announced.** -/
def Infrastructure.definition : Definition where
  group := "config.openshift.io"
  version := "v1"
  kind := "Infrastructure"
  plural := "infrastructures"
  singular := "infrastructure"
  namespaced := false
  spec := (Schema.record [] []).described
    "Cluster-wide infrastructure configuration (`config.openshift.io/v1`).\n\nOnly the status fields the suite reads are modelled."
  status := InfrastructureStatus.schema

/-- **How operators are announced.** -/
def ClusterOperator.definition : Definition where
  group := "config.openshift.io"
  version := "v1"
  kind := "ClusterOperator"
  plural := "clusteroperators"
  singular := "clusteroperator"
  namespaced := false
  spec := (Schema.record [] []).described
    "Cluster operator status (`config.openshift.io/v1`)."
  status := ClusterOperatorStatus.schema

end ClusterWait
