import ClusterWait.Cluster.Infrastructure
import ClusterWait.Provider
import ClusterWait.Wait.WaitError

/-! # Finding machines, machine sets and nodes

* `listNodes`, `listMachines`, `listMachineSets`: the objects that a selector chooses.
* `workerMachineSets`: the sets that make workers, of which a cluster has at least one.
* `machinesOf`: the machines that a set controls.
* `nodeOf`: the node that a machine backs. `machineOf`: the machine that backs a node, which the node
  names in an annotation (`MachineKey`). -/

namespace ClusterWait

/-- **How working with machines fails.** -/
inductive ClusterError where
  | request (cause : RequestError)
  | wait (cause : WaitError)
  | infrastructure (cause : InfrastructureError)
  | provider (cause : ProviderError)
  | noNodeRef (machine : String)
  | missingKey (node : String)
  | malformedKey (text : String)
  | foreignNamespace (text expected : String)
  | noWorkerSets (inNamespace : String)
  | insufficientCapacity (machine : String)
deriving DecidableEq

def machineKeyLabel : String := "machine.openshift.io/machine"

def ClusterError.message : ClusterError → String
  | .request e => e.message
  | .wait e => e.message
  | .infrastructure e => e.message
  | .provider e => e.message
  | .noNodeRef machine => machine ++ ": machine has no NodeRef"
  | .missingKey node =>
    "node " ++ Text.quoted node ++ " does not have a " ++ Text.quoted machineKeyLabel ++ " annotation"
  | .malformedKey text => "machine annotation format is incorrect: " ++ Text.quoted text
  | .foreignNamespace text expected =>
    "Machine " ++ Text.quoted text ++ " is forbidden to live outside of the " ++ expected
      ++ " namespace"
  | .noWorkerSets inNamespace => "no worker MachineSets found in " ++ inNamespace
  | .insufficientCapacity machine =>
    "machine creation failed due to insufficient cloud provider capacity: " ++ machine

/-! ### Machine keys -/

/-- **A machine by its namespace and name.** -/
structure MachineKey where
  inNamespace : String
  name : String
deriving Repr, DecidableEq

namespace MachineKey

def render (k : MachineKey) : String := k.inNamespace ++ "/" ++ k.name

/-- **The key of a text:** two parts that are not empty, with one slash between them. -/
def read? (s : String) : Option MachineKey :=
  match Text.splitOnce '/' s.toList with
  | none => none
  | some (inNamespace, name) =>
    if inNamespace.isEmpty || name.isEmpty || name.contains '/' then none
    else some ⟨String.ofList inNamespace, String.ofList name⟩

/-- **The key that a node's annotation holds,** of a machine in the expected namespace. A malformed
key is told before a foreign namespace. -/
def ofNode (node : Node) (expected : String) : Except ClusterError MachineKey :=
  match (node.metadata.annotations.getD .empty).get? machineKeyLabel with
  | none => .error (.missingKey node.nameAny)
  | some text => match read? text with
    | none => .error (.malformedKey text)
    | some key =>
      if key.inNamespace = expected then .ok key else .error (.foreignNamespace text expected)

end MachineKey

/-! ### Requests -/

variable {τ : Type}

def workerNodeLabel : String := "node-role.kubernetes.io/worker"

/-- The nodes that the labels choose, all when there are none. -/
def listNodes (service : Service τ) (labels : String) :
    Act (Traffic τ) (Except RequestError (List Node)) :=
  Node.api.list service (some labels)

def workerNodes (service : Service τ) : Act (Traffic τ) (Except RequestError (List Node)) :=
  listNodes service workerNodeLabel

def getMachineSet (service : Service τ) (inNamespace name : String) :
    Act (Traffic τ) (Except RequestError MachineSet) :=
  (MachineSet.api inNamespace).get service name

def listMachineSets (service : Service τ) (inNamespace : String)
    (selector : Option LabelSelector) : Act (Traffic τ) (Except RequestError (List MachineSet)) :=
  (MachineSet.api inNamespace).list service (selector.map LabelSelector.render)

def listMachines (service : Service τ) (inNamespace : String) (selector : Option LabelSelector) :
    Act (Traffic τ) (Except RequestError (List Machine)) :=
  (Machine.api inNamespace).list service (selector.map LabelSelector.render)

/-- The sets that make workers, of which there has to be one. -/
def chooseWorkers (inNamespace : String) (sets : List MachineSet) :
    Except ClusterError (List MachineSet) :=
  let workers := sets.filter MachineSet.isWorker
  if workers.isEmpty then .error (.noWorkerSets inNamespace) else .ok workers

/-- **The machine sets of a namespace that make workers.** -/
def workerMachineSets (service : Service τ) (inNamespace : String) :
    Act (Traffic τ) (Except ClusterError (List MachineSet)) := do
  match ← listMachineSets service inNamespace none with
  | .error e => pure (.error (.request e))
  | .ok sets => pure (chooseWorkers inNamespace sets)

/-- **The machines that a set controls,** in the order of the list. -/
def machinesOf (service : Service τ) (set : MachineSet) :
    Act (Traffic τ) (Except RequestError (List Machine)) := do
  let listing ← listMachines service set.namespaceAny none
  pure (listing.map fun machines => machines.filter (·.isControlledBy set))

/-- **The node that a machine backs.** -/
def nodeOf (service : Service τ) (machine : Machine) :
    Act (Traffic τ) (Except ClusterError Node) :=
  match machine.nodeName with
  | none => pure (.error (.noNodeRef machine.nameAny))
  | some name => do pure ((← Node.api.get service name).mapError .request)

/-- **The machine that backs a node.** -/
def machineOf (service : Service τ) (node : Node) (expected : String) :
    Act (Traffic τ) (Except ClusterError Machine) :=
  match MachineKey.ofNode node expected with
  | .error e => pure (.error e)
  | .ok key => do pure ((← (Machine.api key.inNamespace).get service key.name).mapError .request)

end ClusterWait
