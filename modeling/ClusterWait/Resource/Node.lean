import ClusterWait.Resource.Shape

/-! # Nodes

A node is read, never written. Of its content only the metadata and the conditions matter; the rest
has to have the right shape. A document may name its kind and version, but no other ones.

* `Node.isReady`: some condition of type `Ready` has the status `True`. -/

namespace ClusterWait

structure NodeCondition where
  type : String
  status : String
deriving DecidableEq

/-- **A node of the cluster.** -/
structure Node where
  metadata : ObjectMeta
  conditions : List NodeCondition
deriving DecidableEq

namespace NodeCondition

def shape : Shape := .lenient [
  ("lastHeartbeatTime", .time), ("lastTransitionTime", .time), ("message", .text),
  ("reason", .text), ("status", .text), ("type", .text)]

/-- The condition in a document, a lenient record. -/
def decode : Decoder NodeCondition := Decoder.object fun fs => do
  guard (shape.accepts (.obj fs))
  let type ← Decoder.text.lenient "type" fs
  let status ← Decoder.text.lenient "status" fs
  pure { type := type.getD "", status := status.getD "" }

end NodeCondition

namespace Node

def configSource : Shape := .lenient [
  ("configMap", .texts ["kubeletConfigKey", "name", "namespace", "resourceVersion", "uid"])]

def specShape : Shape := .lenient [
  ("configSource", configSource), ("externalID", .text), ("podCIDR", .text),
  ("podCIDRs", .list .text), ("providerID", .text), ("taints", .list .taint),
  ("unschedulable", .flag)]

def statusShape : Shape := .lenient [
  ("addresses", .list (.texts ["address", "type"])),
  ("allocatable", .dictionary .quantity),
  ("capacity", .dictionary .quantity),
  ("conditions", .list NodeCondition.shape),
  ("config", .lenient [("active", configSource), ("assigned", configSource), ("error", .text),
    ("lastKnownGood", configSource)]),
  ("daemonEndpoints", .lenient [("kubeletEndpoint", .lenient [("Port", .int 32)])]),
  ("declaredFeatures", .list .text),
  ("features", .lenient [("supplementalGroupsPolicy", .flag)]),
  ("images", .list (.lenient [("names", .list .text), ("sizeBytes", .int 64)])),
  ("nodeInfo", .lenient [("architecture", .text), ("bootID", .text),
    ("containerRuntimeVersion", .text), ("kernelVersion", .text), ("kubeProxyVersion", .text),
    ("kubeletVersion", .text), ("machineID", .text), ("operatingSystem", .text),
    ("osImage", .text), ("swap", .lenient [("capacity", .int 64)]), ("systemUUID", .text)]),
  ("phase", .text),
  ("runtimeHandlers", .list (.lenient [
    ("features", .lenient [("recursiveReadOnlyMounts", .flag), ("userNamespaces", .flag)]),
    ("name", .text)])),
  ("volumesAttached", .list (.texts ["devicePath", "name"])),
  ("volumesInUse", .list .text)]

def shape : Shape := .object "v1" "Node" [
  ("metadata", .objectMeta), ("spec", specShape), ("status", statusShape)]

/-- The conditions in the reported state of a node. -/
def conditions? : Decoder (List NodeCondition) := Decoder.object fun fs => do
  let conditions ← NodeCondition.decode.list.lenient "conditions" fs
  pure (conditions.getD [])

/-- **The node in a document.** -/
def decode : Decoder Node := Decoder.object fun fs => do
  guard (shape.accepts (.obj fs))
  let metadata ← ObjectMeta.decode.lenient "metadata" fs
  let conditions ← conditions?.lenient "status" fs
  pure { metadata := metadata.getD {}, conditions := conditions.getD [] }

def nameAny (n : Node) : String := n.metadata.nameAny

/-- **The node is ready:** some condition says so. -/
def isReady (n : Node) : Bool :=
  n.conditions.any fun c => c.type == "Ready" && c.status == "True"

end Node

def nodesAreReady (nodes : List Node) : Bool := nodes.all Node.isReady

end ClusterWait
