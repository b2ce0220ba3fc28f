import ClusterWait.Resource.Metadata

/-! # References and taints

* `ObjectReference`: a pointer from one object to another. A lenient record.
* `Taint`: keeps pods off a node unless they tolerate it. A lenient record that always writes its key
  and its effect. -/

namespace ClusterWait

/-- **A pointer to an object.** -/
structure ObjectReference where
  apiVersion : Option String := none
  fieldPath : Option String := none
  kind : Option String := none
  name : Option String := none
  inNamespace : Option String := none
  resourceVersion : Option String := none
  uid : Option String := none
deriving DecidableEq

namespace ObjectReference

def decode : Decoder ObjectReference := Decoder.object fun fs => do
  let apiVersion ← Decoder.text.lenient "apiVersion" fs
  let fieldPath ← Decoder.text.lenient "fieldPath" fs
  let kind ← Decoder.text.lenient "kind" fs
  let name ← Decoder.text.lenient "name" fs
  let inNamespace ← Decoder.text.lenient "namespace" fs
  let resourceVersion ← Decoder.text.lenient "resourceVersion" fs
  let uid ← Decoder.text.lenient "uid" fs
  pure { apiVersion, fieldPath, kind, name, inNamespace, resourceVersion, uid }

def encode (r : ObjectReference) : Json := .ofFields [
  ("apiVersion", r.apiVersion.map .str),
  ("fieldPath", r.fieldPath.map .str),
  ("kind", r.kind.map .str),
  ("name", r.name.map .str),
  ("namespace", r.inNamespace.map .str),
  ("resourceVersion", r.resourceVersion.map .str),
  ("uid", r.uid.map .str)]

end ObjectReference

/-- **A taint of a node.** -/
structure Taint where
  effect : String
  key : String
  timeAdded : Option Timestamp := none
  value : Option String := none
deriving DecidableEq

namespace Taint

def decode : Decoder Taint := Decoder.object fun fs => do
  let effect ← Decoder.text.lenient "effect" fs
  let key ← Decoder.text.lenient "key" fs
  let timeAdded ← Timestamp.decode.lenient "timeAdded" fs
  let value ← Decoder.text.lenient "value" fs
  pure { effect := effect.getD "", key := key.getD "", timeAdded, value }

def encode (t : Taint) : Json := .ofFields [
  ("effect", some (.str t.effect)),
  ("key", some (.str t.key)),
  ("timeAdded", t.timeAdded.map Timestamp.encode),
  ("value", t.value.map .str)]

end Taint

end ClusterWait
