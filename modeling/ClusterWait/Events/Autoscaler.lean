import ClusterWait.Resource.Event
import ClusterWait.Text.Search

/-! # What the autoscaler reports

The autoscaler tells of its decisions by events on an object of its own; the beginning of the message
says what kind of decision it was.

* `ScalingReport`: the kinds of report, `Event.reports` recognises them.
* `ScaledGroups`: the groups that are expected to grow, each with a flag that tells whether a message
  has named it. `ScaledGroups.observe` raises flags; none is ever lowered. -/

namespace ClusterWait

def autoscalerComponent : String := "cluster-autoscaler"

def autoscalerObjectKind : String := "ConfigMap"

/-- **A kind of report.** -/
inductive ScalingReport where
  | scaledUp
  | scaledDown
  | nodeLimitReached
deriving Repr, DecidableEq

namespace ScalingReport

def reason : ScalingReport → String
  | .scaledUp => "ScaledUpGroup"
  | .scaledDown => "ScaleDownEmpty"
  | .nodeLimitReached => "MaxNodesTotalReached"

def opening : ScalingReport → String
  | .scaledUp => "Scale-up:"
  | .scaledDown => "Scale-down: empty node"
  | .nodeLimitReached => "Max total nodes in cluster reached"

end ScalingReport

/-- **The event is the autoscaler's report of the kind.** -/
def Event.reports (e : Event) (r : ScalingReport) : Bool :=
  e.component == some autoscalerComponent && e.reason == some r.reason
    && e.involved.kind == some autoscalerObjectKind
    && e.message.any (Text.startsWith · r.opening)

/-- The message of an event, empty when there is none. -/
def Event.text (e : Event) : String := e.message.getD ""

/-- The message tells that a group begins to grow; this is what is counted. -/
def startsScaleUp (message : String) : Bool :=
  Text.startsWith message "Scale-up: setting group"

/-- **The message names the group,** in one of two forms. -/
def namesGroup (message group : String) : Bool :=
  Text.startsWith message ("Scale-up: group " ++ group ++ " size set to")
    || Text.startsWith message ("Scale-up: setting group " ++ group ++ " size")

/-- **The groups that are expected to grow,** each with its flag. -/
structure ScaledGroups where
  flags : Dictionary Bool
deriving DecidableEq

namespace ScaledGroups

/-- Groups that no message has named yet. -/
def ofNames (names : List String) : ScaledGroups := ⟨.ofList (names.map fun n => (n, false))⟩

def isScaled (g : ScaledGroups) (name : String) : Bool := (g.flags.get? name).getD false

def allScaled (g : ScaledGroups) : Bool := g.flags.entries.all (·.2)

/-- **Raises the flag of the groups that the message names.** -/
def observe (g : ScaledGroups) (message : String) : ScaledGroups :=
  ⟨g.flags.map fun name scaled => scaled || namesGroup message name⟩

end ScaledGroups

end ClusterWait
