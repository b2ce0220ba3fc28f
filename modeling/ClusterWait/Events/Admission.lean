import ClusterWait.Resource.Event

/-! # Admission: each new event once

The cluster tells of an event again when it changes and when the events are listed anew. An
*admission* lets an event pass when it was created at or after an instant, and only the first time.
Creation times have whole seconds, so the instant is cut to its second.

* `Event.key`: by what events are told apart.
* `Admission.check`: whether an event passes, and the admission afterwards. -/

namespace ClusterWait

/-- **By what events are told apart:** the unique identifier, or namespace and name in its absence. -/
def Event.key (e : Event) : String :=
  e.metadata.uid.getD (e.metadata.namespaceAny ++ "/" ++ e.metadata.name.getD "")

/-- **Which events pass:** those created since an instant, of which none has passed before. -/
structure Admission where
  since : Timestamp
  seen : List String
deriving DecidableEq

namespace Admission

/-- The admission of events created since an instant, before any has passed. -/
def opening (since : Timestamp) : Admission := ⟨since.truncated, []⟩

/-- The event is new enough. -/
def isEligible (a : Admission) (e : Event) : Bool :=
  e.metadata.creationTimestamp.any (·.notBefore a.since)

/-- **Whether an event passes.** -/
def check (a : Admission) (e : Event) : Bool × Admission :=
  if a.isEligible e && !a.seen.contains e.key then (true, { a with seen := e.key :: a.seen })
  else (false, a)

end Admission

end ClusterWait
