import ClusterWait.Cluster.Lookup

/-! # Machine sets of a test's own

A test makes machine sets of its own, after the model of a worker set of the cluster, and marks them
with the identifier of its run and with a taint that keeps ordinary work off them. Their machines do
not carry the worker role, so that a test's set is never the model of another.

* `TestSet`: the description of such a set; `TestSet.toMachineSet` is the set.
* `TestSet.ofWorker`, `planTestSet`: the description after the model of a worker set.
* `TestSet.alternatives`: the same with other types of machine.
* `createMachineSet`: makes the set. -/

namespace ClusterWait

def runLabel : String := "e2e.openshift.io"

def testTaint : String := "cluster-api-actuator-pkg"

/-- **The description of a test's machine set.** The name is the stem of the set's name. -/
structure TestSet where
  name : String
  replicas : Int
  labels : Dictionary String
  taints : List Taint
  providerSpec : ProviderSpec
deriving DecidableEq

namespace TestSet

/-- **The set of a description.** -/
def toMachineSet (t : TestSet) (inNamespace : String) : MachineSet where
  metadata := {
    generateName := some t.name
    inNamespace := some inNamespace
    labels := some t.labels }
  spec := {
    replicas := some t.replicas
    selector := { matchLabels := some t.labels }
    template := {
      metadata := { labels := t.labels }
      spec := { providerSpec := t.providerSpec, taints := t.taints } } }

/-- **A description after the model of a worker set,** for a cluster and a run. -/
def ofWorker (worker : MachineSet) (cluster : String) (replicas : Int) (run : String) : TestSet where
  name := cluster
  replicas := replicas
  labels := .ofList [
    (runLabel, run), (clusterLabel, (worker.templateLabels.get? clusterLabel).getD "")]
  taints := [{ key := testTaint, effect := "PreferNoSchedule" }]
  providerSpec := worker.spec.template.spec.providerSpec

def withInstanceType (t : TestSet) (provider : Provider) (instanceType : String) :
    Except ProviderError TestSet := do
  let spec ← provider.withInstanceType (t.providerSpec.value.getD .null) instanceType
  pure { t with providerSpec := ⟨some spec⟩ }

/-- **The same set with each of the provider's other types of machine,** in their order. -/
def alternatives (t : TestSet) (provider : Provider) : Except ProviderError (List TestSet) := do
  (← provider.alternativeInstanceTypes).mapM (t.withInstanceType provider)

end TestSet

variable {τ : Type}

/-- **A description after the model of the cluster's first worker set.** The cluster is only asked
for its name when there is one. -/
def planTestSet (service : Service τ) (inNamespace : String) (replicas : Int) (run : String) :
    Act (Traffic τ) (Except ClusterError TestSet) := do
  match ← workerMachineSets service inNamespace with
  | .error e => pure (.error e)
  | .ok [] => pure (.error (.noWorkerSets inNamespace))
  | .ok (worker :: _) =>
    match ← infrastructureName service with
    | .error e => pure (.error (.infrastructure e))
    | .ok cluster => pure (.ok (.ofWorker worker cluster replicas run))

/-- **Makes the set of a description.** -/
def createMachineSet (service : Service τ) (inNamespace : String) (t : TestSet) :
    Act (Traffic τ) (Except RequestError MachineSet) :=
  (MachineSet.api inNamespace).create service (t.toMachineSet inNamespace).encode

end ClusterWait
