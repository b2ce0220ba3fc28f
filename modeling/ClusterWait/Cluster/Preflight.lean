import ClusterWait.Cluster.Readiness
import ClusterWait.Cluster.Suite

/-! # Preflight: is a cluster fit for tests?

The operator of the machines has to be settled, then every node has to be ready, then every worker
machine set has to run in full, one set after the other. The first step that fails ends the rest.

* `preflight`: the steps in order.
* `PreflightError.report`: the step that failed, and why. -/

namespace ClusterWait

variable {τ : Type}

/-- **The step that failed.** -/
inductive PreflightError where
  | noSuite (cause : InfrastructureError)
  | operatorUnavailable (cause : WaitError)
  | nodesNotReady (cause : WaitError)
  | noWorkerSets (cause : ClusterError)
  | setNotRunning (set : String) (cause : ClusterError)
deriving DecidableEq

namespace PreflightError

/-- The words for the step, and those for its cause if they are not the same. -/
def words : PreflightError → String × Option String
  | .noSuite e => (e.message, none)
  | .operatorUnavailable e => (machineOperator ++ " operator is not available", some e.message)
  | .nodesNotReady e => ("nodes are not ready", some e.message)
  | .noWorkerSets e => (e.message, none)
  | .setNotRunning set e => ("worker machine set " ++ set ++ " is not running", some e.message)

/-- **The failure in full:** the step, and its cause in a paragraph of its own. -/
def report (e : PreflightError) : String :=
  match e.words with
  | (step, none) => "Error: " ++ step
  | (step, some cause) => "Error: " ++ step ++ "\n\nCaused by:\n    " ++ cause

end PreflightError

def awaitSets (service : Service τ) (timeouts : Timeouts) (inNamespace : String) (c : Context) :
    List MachineSet → Wait (Traffic τ) (Except PreflightError Unit)
  | [] => pure (.ok ())
  | set :: rest => do
    match ← awaitMachineSet service timeouts inNamespace set.nameAny c with
    | .error e => pure (.error (.setNotRunning set.nameAny e))
    | .ok () => awaitSets service timeouts inNamespace c rest

/-- The steps on a known suite; the number of worker machine sets. -/
def Suite.preflight (suite : Suite) (service : Service τ) (c : Context) :
    Wait (Traffic τ) (Except PreflightError Nat) := do
  let timeouts := suite.timeouts
  match ← awaitOperator service timeouts timeouts.waitOverLong machineOperator c with
  | .error e => pure (.error (.operatorUnavailable e))
  | .ok () =>
    match ← awaitNodesReady service timeouts c with
    | .error e => pure (.error (.nodesNotReady e))
    | .ok () =>
      match ← (workerMachineSets service suite.machineNamespace : Act (Traffic τ) _) with
      | .error e => pure (.error (.noWorkerSets e))
      | .ok sets => do
        pure ((← awaitSets service timeouts suite.machineNamespace c sets).map fun _ => sets.length)

/-- **The preflight of a cluster:** its suite and the number of its worker machine sets. -/
def preflight (service : Service τ) (settings : Settings) (c : Context) :
    Wait (Traffic τ) (Except PreflightError (Suite × Nat)) := do
  match ← (Suite.connect service settings : Act (Traffic τ) _) with
  | .error e => pure (.error (.noSuite e))
  | .ok suite => do
    pure ((← suite.preflight service c).map fun count => (suite, count))

end ClusterWait
