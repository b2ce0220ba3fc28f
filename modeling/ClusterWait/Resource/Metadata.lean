import ClusterWait.Resource.Members
import ClusterWait.Resource.Timestamp.Parser

/-! # Metadata: what every object of a cluster says about itself

* `ObjectMeta`: name, namespace, labels, annotations, owners, timestamps. A lenient record; absent
  members are left out when it is written, empty ones are kept.
* `ObjectMeta.nameAny`: the name, or the stem of a name that the cluster is to complete.
* `OwnerReference`: an object that this one belongs to. -/

namespace ClusterWait

namespace Timestamp

def decode : Decoder Timestamp := fun j => j.text?.bind read?

def encode (t : Timestamp) : Json := .str t.render

end Timestamp

/-- **An object that another belongs to.** -/
structure OwnerReference where
  apiVersion : String
  blockOwnerDeletion : Option Bool
  controller : Option Bool
  kind : String
  name : String
  uid : String
deriving DecidableEq

namespace OwnerReference

def decode : Decoder OwnerReference := Decoder.object fun fs => do
  let apiVersion ← Decoder.text.lenient "apiVersion" fs
  let blockOwnerDeletion ← Decoder.flag.lenient "blockOwnerDeletion" fs
  let controller ← Decoder.flag.lenient "controller" fs
  let kind ← Decoder.text.lenient "kind" fs
  let name ← Decoder.text.lenient "name" fs
  let uid ← Decoder.text.lenient "uid" fs
  pure { apiVersion := apiVersion.getD "", blockOwnerDeletion, controller
         kind := kind.getD "", name := name.getD "", uid := uid.getD "" }

def encode (o : OwnerReference) : Json := .ofFields [
  ("apiVersion", some (.str o.apiVersion)),
  ("blockOwnerDeletion", o.blockOwnerDeletion.map .bool),
  ("controller", o.controller.map .bool),
  ("kind", some (.str o.kind)),
  ("name", some (.str o.name)),
  ("uid", some (.str o.uid))]

end OwnerReference

structure ManagedFields where
  apiVersion : Option String
  fieldsType : Option String
  fieldsV1 : Option Json
  manager : Option String
  operation : Option String
  subresource : Option String
  time : Option Timestamp
deriving DecidableEq

namespace ManagedFields

def decode : Decoder ManagedFields := Decoder.object fun fs => do
  let apiVersion ← Decoder.text.lenient "apiVersion" fs
  let fieldsType ← Decoder.text.lenient "fieldsType" fs
  let fieldsV1 ← Decoder.any.lenient "fieldsV1" fs
  let manager ← Decoder.text.lenient "manager" fs
  let operation ← Decoder.text.lenient "operation" fs
  let subresource ← Decoder.text.lenient "subresource" fs
  let time ← Timestamp.decode.lenient "time" fs
  pure { apiVersion, fieldsType, fieldsV1, manager, operation, subresource, time }

def encode (m : ManagedFields) : Json := .ofFields [
  ("apiVersion", m.apiVersion.map .str),
  ("fieldsType", m.fieldsType.map .str),
  ("fieldsV1", m.fieldsV1),
  ("manager", m.manager.map .str),
  ("operation", m.operation.map .str),
  ("subresource", m.subresource.map .str),
  ("time", m.time.map Timestamp.encode)]

end ManagedFields

/-- **What an object says about itself.** -/
structure ObjectMeta where
  annotations : Option (Dictionary String) := none
  creationTimestamp : Option Timestamp := none
  deletionGracePeriodSeconds : Option Int := none
  deletionTimestamp : Option Timestamp := none
  finalizers : Option (List String) := none
  generateName : Option String := none
  generation : Option Int := none
  labels : Option (Dictionary String) := none
  managedFields : Option (List ManagedFields) := none
  name : Option String := none
  inNamespace : Option String := none
  ownerReferences : Option (List OwnerReference) := none
  resourceVersion : Option String := none
  selfLink : Option String := none
  uid : Option String := none
deriving DecidableEq

namespace ObjectMeta

/-- **The name of an object,** or the stem of one that the cluster is to complete. -/
def nameAny (m : ObjectMeta) : String := (m.name.or m.generateName).getD ""

/-- The namespace of an object, empty when it has none. -/
def namespaceAny (m : ObjectMeta) : String := m.inNamespace.getD ""

def decode : Decoder ObjectMeta := Decoder.object fun fs => do
  let annotations ← (Decoder.text.dictionary).lenient "annotations" fs
  let creationTimestamp ← Timestamp.decode.lenient "creationTimestamp" fs
  let deletionGracePeriodSeconds ← (Decoder.int 64).lenient "deletionGracePeriodSeconds" fs
  let deletionTimestamp ← Timestamp.decode.lenient "deletionTimestamp" fs
  let finalizers ← (Decoder.text.list).lenient "finalizers" fs
  let generateName ← Decoder.text.lenient "generateName" fs
  let generation ← (Decoder.int 64).lenient "generation" fs
  let labels ← (Decoder.text.dictionary).lenient "labels" fs
  let managedFields ← (ManagedFields.decode.list).lenient "managedFields" fs
  let name ← Decoder.text.lenient "name" fs
  let inNamespace ← Decoder.text.lenient "namespace" fs
  let ownerReferences ← (OwnerReference.decode.list).lenient "ownerReferences" fs
  let resourceVersion ← Decoder.text.lenient "resourceVersion" fs
  let selfLink ← Decoder.text.lenient "selfLink" fs
  let uid ← Decoder.text.lenient "uid" fs
  pure { annotations, creationTimestamp, deletionGracePeriodSeconds, deletionTimestamp, finalizers
         generateName, generation, labels, managedFields, name, inNamespace
         ownerReferences, resourceVersion, selfLink, uid }

def encode (m : ObjectMeta) : Json := .ofFields [
  ("annotations", m.annotations.map Json.ofLabels),
  ("creationTimestamp", m.creationTimestamp.map Timestamp.encode),
  ("deletionGracePeriodSeconds", m.deletionGracePeriodSeconds.map Json.ofInt),
  ("deletionTimestamp", m.deletionTimestamp.map Timestamp.encode),
  ("finalizers", m.finalizers.map Json.ofTexts),
  ("generateName", m.generateName.map .str),
  ("generation", m.generation.map Json.ofInt),
  ("labels", m.labels.map Json.ofLabels),
  ("managedFields", m.managedFields.map fun ms => .arr (ms.map ManagedFields.encode)),
  ("name", m.name.map .str),
  ("namespace", m.inNamespace.map .str),
  ("ownerReferences", m.ownerReferences.map fun os => .arr (os.map OwnerReference.encode)),
  ("resourceVersion", m.resourceVersion.map .str),
  ("selfLink", m.selfLink.map .str),
  ("uid", m.uid.map .str)]

end ObjectMeta

end ClusterWait
