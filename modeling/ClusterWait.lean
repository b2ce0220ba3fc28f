import ClusterWait.Cluster.Capacity
import ClusterWait.Cluster.Deletion
import ClusterWait.Cluster.TestSet
import ClusterWait.Main
import ClusterWait.Proofs.Cluster.Agreement
import ClusterWait.Proofs.Cluster.Classification
import ClusterWait.Proofs.Cluster.Deadlines
import ClusterWait.Proofs.Cluster.Deletions
import ClusterWait.Proofs.Cluster.MachineKeys
import ClusterWait.Proofs.Cluster.MachineReasons
import ClusterWait.Proofs.Cluster.Operators
import ClusterWait.Proofs.Cluster.Removal
import ClusterWait.Proofs.Cluster.RetryingWaits
import ClusterWait.Proofs.Cluster.TestSets
import ClusterWait.Proofs.Events.Dispatching
import ClusterWait.Proofs.Events.History
import ClusterWait.Proofs.Events.Naming
import ClusterWait.Proofs.Events.Start
import ClusterWait.Proofs.Json.Settled
import ClusterWait.Proofs.Provider.Capacity
import ClusterWait.Proofs.Provider.Templates
import ClusterWait.Proofs.Resource.ReadingBack
import ClusterWait.Proofs.Resource.Records
import ClusterWait.Proofs.Resource.RoundTrip
import ClusterWait.Proofs.Resource.Selectors
import ClusterWait.Proofs.Resource.Timestamps
import ClusterWait.Proofs.Settings
import ClusterWait.Proofs.Text.Numerals
import ClusterWait.Proofs.Wait.Awaiting
import ClusterWait.Proofs.Wait.Bounds
import ClusterWait.Proofs.Wait.Bystanders
import ClusterWait.Proofs.Wait.Extension
import ClusterWait.Proofs.Wait.Reasons
import ClusterWait.Resource.ClusterConfig
import ClusterWait.Resource.Definition
import ClusterWait.Wait.Script
import ClusterWait.Proofs.Json.Numbers
import ClusterWait.Proofs.Json.Legible
