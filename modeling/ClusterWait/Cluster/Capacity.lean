import ClusterWait.Cluster.Readiness

/-! # Waiting for machines that the provider may not have

Machines on spare capacity may never come. `awaitSpotMachineSet` waits for a set of them; when the
provider reports that it has no machine left, the wait ends with the error
`insufficientCapacity`, on which a caller may try another type of machine.

An attempt first looks at the number of machines, then at failed ones, then asks the provider about
each machine in the order of the list (`firstExhausted`), and only then looks at phases and nodes. A
wrong number of machines, a machine that does not run yet and a node that is not ready are tried
again; a list that cannot be had, a failed machine and a report that cannot be read end the wait. -/

namespace ClusterWait

open Text.Decimal (render)

variable {τ : Type}

/-- How a spot wait is decided: the machines run, or one of them could not be made. -/
inductive SpotOutcome where
  | running
  | exhausted (machine : String)
deriving Repr, DecidableEq

/-- What the provider says about the machines of a set. -/
inductive CapacityFinding where
  | sufficient
  | exhausted (machine : String)
  | unreadable (machine : String) (cause : ProviderError)
deriving DecidableEq

/-- **The first machine that the provider has no capacity for,** or whose report cannot be read. -/
def firstExhausted (provider : Provider) : List Machine → CapacityFinding
  | [] => .sufficient
  | machine :: rest =>
    match provider.hasInsufficientCapacity machine.providerStatus with
    | .error e => .unreadable machine.nameAny e
    | .ok true => .exhausted machine.nameAny
    | .ok false => firstExhausted provider rest

/-- **What a list of machines decides by itself,** nothing when the nodes have to be asked. -/
def judgeSpot (provider : Provider) (set : MachineSet) (name : String) (machines : List Machine) :
    Option (Attempt SpotOutcome) :=
  let failed := (Machine.failed machines).length
  let running := (Machine.running machines).length
  if machines.length ≠ set.wanted then
    some (.retry (miscountText name machines.length set.wanted))
  else if failed ≠ 0 then some (.stop ("found " ++ render failed ++ " Machines in failed phase"))
  else match firstExhausted provider machines with
    | .unreadable machine e =>
      some (.stop ("error checking if machine " ++ machine ++ " has insufficient capacity: "
        ++ e.message))
    | .exhausted machine => some (.done (.exhausted machine))
    | .sufficient =>
      if running ≠ machines.length then some (.retry (notRunningText name running machines.length))
      else none

/-- What the nodes of running machines decide. -/
def judgeNodeProblem : Option NodeProblem → Attempt SpotOutcome
  | none => .done .running
  | some (.notFound machine e) =>
    .retry ("node for machine " ++ machine ++ " not found yet: " ++ e.message)
  | some (.notReady node) => .retry (notReadyText node)

/-- **An attempt of a spot wait.** -/
def spotAttempt (service : Service τ) (provider : Provider) (set : MachineSet) (name : String) :
    Act (Traffic τ) (Attempt SpotOutcome) := do
  match ← machinesOf service set with
  | .error e =>
    pure (.stop ("error getting machines from machineSet " ++ name ++ ": " ++ e.message))
  | .ok machines =>
    match judgeSpot provider set name machines with
    | some decision => pure decision
    | none => pure (judgeNodeProblem (← firstNodeProblem service machines))

def spotResult : Except WaitError SpotOutcome → Except ClusterError Unit
  | .ok .running => .ok ()
  | .ok (.exhausted machine) => .error (.insufficientCapacity machine)
  | .error e => .error (.wait e)

/-- **Waits until the machines of a set run on spare capacity.** The set is asked for once. -/
def awaitSpotMachineSet (service : Service τ) (timeouts : Timeouts) (provider : Provider)
    (inNamespace name : String) (c : Context) : Wait (Traffic τ) (Except ClusterError Unit) := do
  match ← (getMachineSet service inNamespace name : Act (Traffic τ) _) with
  | .error e => pure (.error (.request e))
  | .ok set =>
    let result ← Poll.untilDone ⟨timeouts.retryMedium, some timeouts.waitLong⟩ c fun _ =>
      spotAttempt service provider set name
    pure (spotResult result)

end ClusterWait
