import ClusterWait.Json.Printer
import ClusterWait.Proofs.Cluster.Requests

/-! # Clusters that stay as they are

A service is *fixed* if the reply to a request does not depend on the state, so that the same request
is always answered in the same way, after the same time. Then every listing of the machines of a set
is the same (`Listed.listing_eq`), and so is the first problem with their nodes
(`firstNodeProblem_eq_of_fixed`).

`Service.showing` is such a service: it shows one set, some machines and one node. Samples of these
are beside it. -/

namespace ClusterWait

variable {τ : Type}

/-- **The service always answers a request in the same way.** -/
def Service.Fixed (service : Service τ) : Prop :=
  ∀ request s s', (service.reply request s).1 = (service.reply request s').1

section Fixed
variable {service : Service τ} (hfix : service.Fixed)
include hfix

theorem ask_eq_of_fixed {α : Type} (request : Request) (decode : Decoder α)
    (r r' : Run (Traffic τ)) :
    (service.ask request decode r).1 = (service.ask request decode r').1 := by
  unfold Service.ask
  cases request.check with
  | some e => rfl
  | none =>
    have hreply := hfix request r.world.state r'.world.state
    simp only [bind, StateT.bind, Service.send, hreply]
    rfl

/-- **Every listing is the same.** -/
theorem Listed.listing_eq {set : MachineSet} {r r₁ r' r₁' : Run (Traffic τ)}
    {listing listing' : Except RequestError (List Machine)} (h : Listed service set r listing r₁)
    (h' : Listed service set r' listing' r₁') : listing = listing' := by
  obtain ⟨answer, hask, rfl⟩ := h
  obtain ⟨answer', hask', rfl⟩ := h'
  have heq := ask_eq_of_fixed hfix (listRequest set) (Listing.decode Machine.decode) r r'
  rw [hask, hask'] at heq
  rw [show answer = answer' from heq]

theorem nodeOf_eq_of_fixed (m : Machine) (r r' : Run (Traffic τ)) :
    (nodeOf service m r).1 = (nodeOf service m r').1 := by
  cases hm : m.nodeName with
  | none =>
    unfold nodeOf
    rw [hm]
    rfl
  | some name =>
    rcases hask : service.ask (nodeRequest name) Node.decode r with ⟨answer, r₁⟩
    rcases hask' : service.ask (nodeRequest name) Node.decode r' with ⟨answer', r₁'⟩
    have heq := ask_eq_of_fixed hfix (nodeRequest name) Node.decode r r'
    rw [hask, hask'] at heq
    rw [nodeOf_of_ask hm hask, nodeOf_of_ask hm hask', show answer = answer' from heq]

/-- **The first problem with the nodes is the same.** -/
theorem firstNodeProblem_eq_of_fixed (machines : List Machine) (r r' : Run (Traffic τ)) :
    (firstNodeProblem service machines r).1 = (firstNodeProblem service machines r').1 := by
  induction machines generalizing r r' with
  | nil => rfl
  | cons m rest ih =>
    have hnode := nodeOf_eq_of_fixed hfix m r r'
    rw [firstNodeProblem_cons, firstNodeProblem_cons]
    generalize nodeOf service m r = x at hnode ⊢
    generalize nodeOf service m r' = y at hnode ⊢
    obtain ⟨found, r₁⟩ := x
    obtain ⟨found', r₁'⟩ := y
    obtain rfl : found = found' := hnode
    cases found with
    | error e => rfl
    | ok node =>
      simp only
      split_ifs
      · exact ih r₁ r₁'
      · rfl

end Fixed

/-! ### A cluster that can be shown -/

/-- **A cluster of one set, some machines and one node,** which answers at once. -/
def Service.showing (set : MachineSet) (machines : List Machine) (node : Json) : Service Unit where
  reply request s :=
    let shown : Json := match request with
      | .list .. => .obj [("items", .arr (machines.map Machine.encode))]
      | .get collection _ => if collection.plural = "nodes" then node else set.encode
      | _ => .null
    (⟨0, .response 200 ⟨shown.render, some shown⟩⟩, s)

theorem fixed_showing (set : MachineSet) (machines : List Machine) (node : Json) :
    (Service.showing set machines node).Fixed := fun _ _ _ => rfl

theorem getMachineSet_of_fst {service : Service τ} {inNamespace name : String}
    {r : Run (Traffic τ)} {set : MachineSet}
    (h : (getMachineSet service inNamespace name r).1 = .ok set) :
    getMachineSet service inNamespace name r =
      (.ok set, (getMachineSet service inNamespace name r).2) :=
  Prod.ext h rfl

/-- A set with a number of replicas. -/
def MachineSet.sample (replicas : Int) : MachineSet where
  metadata := { name := some "spot", inNamespace := some "ns", uid := some "set" }
  spec := { replicas := some replicas }

/-- A machine that the owner controls, in a phase, with the provider's report on it. -/
def Machine.sample (owner name phase : String) (report : Option Json) : Machine where
  metadata := {
    name := some name
    ownerReferences := some [{
      apiVersion := machineApiVersion, blockOwnerDeletion := none, controller := some true
      kind := "MachineSet", name := "spot", uid := owner }] }
  status := some {
    phase := some phase, nodeRef := some { name := some "node" }, providerStatus := report }

/-- The report that there was no capacity for a machine. -/
def exhaustionReport : Json := .obj [("conditions", .arr [.obj [
  ("message", .str "InsufficientInstanceCapacity: no spot capacity"), ("status", .str "False"),
  ("type", .str "MachineCreation")]])]

def readyNode : Json := .obj [
  ("metadata", .obj [("name", .str "node")]),
  ("status", .obj [("conditions", .arr [.obj [("status", .str "True"), ("type", .str "Ready")]])])]

def Run.fresh : Run (Traffic Unit) := ⟨.start, 0, ⟨(), []⟩⟩

end ClusterWait
