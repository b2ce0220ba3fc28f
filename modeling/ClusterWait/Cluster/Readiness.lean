import ClusterWait.Cluster.Lookup
import ClusterWait.Settings
import ClusterWait.Wait.CheckUntil

/-! # Waiting for readiness

Each attempt asks the cluster and judges its answer: a judgement is a function of the answer alone. A
request that fails is a reason to try again.

* `awaitNodesReady`, `awaitOperator`, `awaitEvent`: the nodes are ready, an operator is settled, an
  event was reported.
* `awaitMachineSet`: the machines of a set run and their nodes are ready, while none of them has
  failed. -/

namespace ClusterWait

open Text.Decimal (render)

variable {τ : Type}

/-! ### Nodes -/

/-- **What a list of nodes decides:** all of them have to be ready. -/
def judgeNodes : Except RequestError (List Node) → Attempt Unit
  | .error e => .retry ("error listing nodes: " ++ e.message)
  | .ok nodes =>
    let waiting := (nodes.filter (!·.isReady)).map Node.nameAny
    if waiting.isEmpty then .done ()
    else .retry (render waiting.length ++ " of " ++ render nodes.length ++ " nodes not ready: "
      ++ ", ".intercalate waiting)

/-- **Waits until every node is ready.** -/
def awaitNodesReady (service : Service τ) (timeouts : Timeouts) (c : Context) :
    Wait (Traffic τ) (Except WaitError Unit) :=
  Poll.untilDone ⟨timeouts.retryMedium, some timeouts.nodesReady⟩ c fun _ => do
    pure (judgeNodes (← listNodes service ""))

/-! ### Operators -/

def machineOperator : String := "machine-api"

/-- **What an operator decides:** it has to be settled. -/
def judgeOperator (name : String) : Except RequestError ClusterOperator → Attempt Unit
  | .error e => .retry ("error querying api for ClusterOperator " ++ name ++ ": " ++ e.message)
  | .ok operator => match operator.unavailableReason with
    | none => .done ()
    | some reason => .retry (name ++ ": " ++ reason)

/-- **Waits until an operator is settled,** at most the given time. -/
def awaitOperator (service : Service τ) (timeouts : Timeouts) (timeout : Nat) (name : String)
    (c : Context) : Wait (Traffic τ) (Except WaitError Unit) :=
  Poll.untilDone ⟨timeouts.retryMedium, some timeout⟩ c fun _ => do
    pure (judgeOperator name (← ClusterOperator.api.get service name))

/-! ### Events -/

/-- **What a list of events decides:** one of them has to be the awaited one. -/
def judgeEvents (kind name reason : String) : Except RequestError (List Event) → Attempt Unit
  | .error e => .retry ("error querying api for events: " ++ e.message)
  | .ok events =>
    if events.any (·.isAbout kind name reason) then .done ()
    else .retry ("no " ++ reason ++ " event for " ++ kind ++ " " ++ name ++ " yet")

/-- **Waits until an event was reported.** -/
def awaitEvent (service : Service τ) (timeouts : Timeouts) (kind name reason : String)
    (c : Context) : Wait (Traffic τ) (Except WaitError Unit) :=
  Poll.untilDone ⟨timeouts.retryMedium, some timeouts.waitMedium⟩ c fun _ => do
    pure (judgeEvents kind name reason (← Event.api.list service none))

/-! ### Machine sets -/

/-- What keeps the node of a machine from being ready. -/
inductive NodeProblem where
  | notFound (machine : String) (cause : ClusterError)
  | notReady (node : String)
deriving DecidableEq

/-- **The first machine whose node is not ready.** No node is asked for beyond it. -/
def firstNodeProblem (service : Service τ) : List Machine → Act (Traffic τ) (Option NodeProblem)
  | [] => pure none
  | machine :: rest => do
    match ← nodeOf service machine with
    | .error e => pure (some (.notFound machine.nameAny e))
    | .ok node =>
      if node.isReady then firstNodeProblem service rest
      else pure (some (.notReady node.nameAny))

def notReadyText (node : String) : String := node ++ ": node is not ready"

def miscountText (set : String) (found wanted : Nat) : String :=
  Text.quoted set ++ ": found " ++ render found ++ " Machines, but MachineSet has "
    ++ render wanted ++ " replicas"

def notRunningText (set : String) (running total : Nat) : String :=
  Text.quoted set ++ ": not all Machines are running: " ++ render running ++ " of "
    ++ render total

def failedText (machine : Machine) : String :=
  "machine " ++ machine.nameAny ++ " is Failed: " ++ machine.failureSummary

/-- **The check:** no machine of the set has failed. A list that cannot be had shows no failure. -/
def noneFailed (service : Service τ) (set : MachineSet) : Assertion (Traffic τ) := fun _ sink => do
  match ← machinesOf service set with
  | .error _ => pure (true, sink)
  | .ok machines =>
    let failed := Machine.failed machines
    pure (failed.isEmpty, failed.foldl (fun sink machine => sink.record (failedText machine)) sink)

/-- **The condition:** the set has the machines that it wants, all of them run, and their nodes are
ready. -/
def allReady (service : Service τ) (set : MachineSet) : Assertion (Traffic τ) := fun _ sink => do
  match ← machinesOf service set with
  | .error e => pure (sink.fail ("error querying api for machines: " ++ e.message))
  | .ok machines =>
    let running := (Machine.running machines).length
    if machines.length ≠ set.wanted then
      pure (sink.fail (miscountText set.nameAny machines.length set.wanted))
    else if running ≠ machines.length then
      pure (sink.fail (notRunningText set.nameAny running machines.length))
    else match ← firstNodeProblem service machines with
      | none => pure (true, sink)
      | some (.notFound _ e) => pure (sink.fail ("getting node: " ++ e.message))
      | some (.notReady node) => pure (sink.fail (notReadyText node))

def awaitMachinesOf (service : Service τ) (timeouts : Timeouts) (set : MachineSet) (c : Context) :
    Wait (Traffic τ) (Except WaitError Unit) := do
  let c ← (Act.onTime fun l => l.childWithTimeout c timeouts.waitOverLong : Act (Traffic τ) Context)
  checkUntil timeouts.retryMedium c (noneFailed service set) (allReady service set)

/-- **Waits until the machines of a set are ready.** The set is asked for once; how many machines it
wants is read then. -/
def awaitMachineSet (service : Service τ) (timeouts : Timeouts) (inNamespace name : String)
    (c : Context) : Wait (Traffic τ) (Except ClusterError Unit) := do
  match ← (getMachineSet service inNamespace name : Act (Traffic τ) _) with
  | .error e => pure (.error (.request e))
  | .ok set => do pure ((← awaitMachinesOf service timeouts set c).mapError .wait)

end ClusterWait
