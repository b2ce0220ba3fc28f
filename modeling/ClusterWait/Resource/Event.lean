import ClusterWait.Resource.Reference
import ClusterWait.Resource.Shape

/-! # Events

An event is the cluster's report of something that happened to an object. It is read, never
written; what nothing here reads only has to have the right shape.

* `Event.isAbout`: the event has a reason and involves an object of a kind and name. -/

namespace ClusterWait

/-- **An event.** -/
structure Event where
  metadata : ObjectMeta
  involved : ObjectReference
  reason : Option String
  message : Option String
  component : Option String
deriving DecidableEq

namespace Event

def shape : Shape := .object "v1" "Event" [
  ("action", .text), ("count", .int 32), ("eventTime", .time), ("firstTimestamp", .time),
  ("involvedObject", .objectReference), ("lastTimestamp", .time), ("message", .text),
  ("metadata", .objectMeta), ("reason", .text), ("related", .objectReference),
  ("reportingComponent", .text), ("reportingInstance", .text),
  ("series", .lenient [("count", .int 32), ("lastObservedTime", .time)]),
  ("source", .texts ["component", "host"]), ("type", .text)]

def component? : Decoder (Option String) := Decoder.object (Decoder.text.lenient "component")

/-- **The event in a document.** -/
def decode : Decoder Event := Decoder.object fun fs => do
  guard (shape.accepts (.obj fs))
  let metadata ← ObjectMeta.decode.lenient "metadata" fs
  let involved ← ObjectReference.decode.lenient "involvedObject" fs
  let reason ← Decoder.text.lenient "reason" fs
  let message ← Decoder.text.lenient "message" fs
  let component ← component?.lenient "source" fs
  pure { metadata := metadata.getD {}, involved := involved.getD {}, reason, message
         component := component.join }

/-- **The event has the reason and involves the object of the kind and name.** -/
def isAbout (e : Event) (kind name reason : String) : Bool :=
  e.reason == some reason && e.involved.kind == some kind && e.involved.name == some name

end Event

end ClusterWait
