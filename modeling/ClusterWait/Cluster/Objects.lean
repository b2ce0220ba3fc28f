import ClusterWait.Api.Service
import ClusterWait.Resource.ClusterConfig
import ClusterWait.Resource.Event
import ClusterWait.Resource.Machine
import ClusterWait.Resource.Node

/-! # Where the objects of a cluster are found

Nodes, infrastructures and operators belong to the whole cluster, machines and machine sets to a
namespace. Events belong to namespaces but are read from all of them at once. -/

namespace ClusterWait

def coreRoot : String := "/api/v1"

def configRoot : String := "/apis/" ++ configApiVersion

def machineRoot : String := "/apis/" ++ machineApiVersion

def Node.api : Api Node := ⟨⟨coreRoot, none, "nodes"⟩, Node.decode⟩

def Event.api : Api Event := ⟨⟨coreRoot, none, "events"⟩, Event.decode⟩

/-- The infrastructures of the cluster, of which there is one. -/
def Infrastructure.api : Api Infrastructure :=
  ⟨⟨configRoot, none, "infrastructures"⟩, Infrastructure.decode⟩

def ClusterOperator.api : Api ClusterOperator :=
  ⟨⟨configRoot, none, "clusteroperators"⟩, ClusterOperator.decode⟩

def Machine.api (inNamespace : String) : Api Machine :=
  ⟨⟨machineRoot, some inNamespace, "machines"⟩, Machine.decode⟩

def MachineSet.api (inNamespace : String) : Api MachineSet :=
  ⟨⟨machineRoot, some inNamespace, "machinesets"⟩, MachineSet.decode⟩

end ClusterWait
