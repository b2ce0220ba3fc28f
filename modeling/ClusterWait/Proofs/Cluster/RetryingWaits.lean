import ClusterWait.Cluster.Deletion
import ClusterWait.Proofs.Cluster.Persevering

/-! # Waits for nodes, operators, events and machines that are gone

Each of these waits judges answers of the cluster, and no answer makes it give up: neither a refusal
with any code, nor a connection that fails, nor a body that cannot be read. What it waits for is told
of the answers alone: `AllReady`, `Absent`, `Settled`, `Shows`.

Waiting for machines that are gone takes a sweep with each attempt: machines are looked for in their
order, up to the first that is there or about which nothing is learnt (`Swept`). Success takes one sweep
that finds all of them absent; machines that are absent in different sweeps are not enough.

`waits_try_again` puts this together. -/

namespace ClusterWait

variable {τ : Type}

/-! ### What is waited for -/

/-- The nodes are listed, and all of them are ready. -/
def AllReady (answer : Except RequestError (Listing Node)) : Prop :=
  ∃ listing, answer = .ok listing ∧ ∀ node ∈ listing.items, node.isReady = true

/-- The operator is there, and there is no reason for which it is not settled. -/
def Settled (answer : Except RequestError ClusterOperator) : Prop :=
  ∃ operator, answer = .ok operator ∧ operator.unavailableReason = none

/-- The events are listed, and one of them has the reason and involves the object. -/
def Shows (kind name reason : String) (answer : Except RequestError (Listing Event)) : Prop :=
  ∃ listing, answer = .ok listing ∧ ∃ e ∈ listing.items, e.reason = some reason ∧
    e.involved.kind = some kind ∧ e.involved.name = some name

theorem judges_nodes : Judges (fun answer => judgeNodes (answer.map Listing.items)) AllReady := by
  have hwaiting (nodes : List Node) :
      ((nodes.filter (!·.isReady)).map Node.nameAny).isEmpty = true ↔
        ∀ node ∈ nodes, node.isReady = true := by
    rw [List.isEmpty_iff, List.map_eq_nil_iff, List.filter_eq_nil_iff]
    simp
  refine ⟨fun answer h => ?_, fun answer h => ?_⟩
  · obtain ⟨listing, rfl, hready⟩ := h
    simp only [Except.map, judgeNodes]
    rw [if_pos ((hwaiting listing.items).mpr hready)]
  · cases answer with
    | error e => exact ⟨_, rfl⟩
    | ok listing =>
      have hnot : ¬ ∀ node ∈ listing.items, node.isReady = true := fun hall => h ⟨listing, rfl, hall⟩
      simp only [Except.map, judgeNodes]
      rw [if_neg ((hwaiting listing.items).not.mpr hnot)]
      exact ⟨_, rfl⟩

theorem judges_nodeGone (name : String) :
    Judges (fun answer => judgeNodeGone name (Api.presence answer)) Absent :=
  judges_absent (judgeNodeGone name) rfl (fun _ => ⟨_, rfl⟩) fun _ => ⟨_, rfl⟩

theorem judges_operator (name : String) : Judges (judgeOperator name) Settled := by
  refine ⟨fun answer h => ?_, fun answer h => ?_⟩
  · obtain ⟨operator, rfl, hnone⟩ := h
    simp only [judgeOperator, hnone]
  · cases answer with
    | error e => exact ⟨_, rfl⟩
    | ok operator =>
      cases hreason : operator.unavailableReason with
      | none => exact absurd ⟨operator, rfl, hreason⟩ h
      | some reason => exact ⟨name ++ ": " ++ reason, by simp only [judgeOperator, hreason]⟩

theorem isAbout_iff {e : Event} {kind name reason : String} : e.isAbout kind name reason = true ↔
    e.reason = some reason ∧ e.involved.kind = some kind ∧ e.involved.name = some name := by
  simp only [Event.isAbout, Bool.and_eq_true, beq_iff_eq, and_assoc]

theorem judges_events (kind name reason : String) :
    Judges (fun answer => judgeEvents kind name reason (answer.map Listing.items))
      (Shows kind name reason) := by
  refine ⟨fun answer h => ?_, fun answer h => ?_⟩
  · obtain ⟨listing, rfl, e, he, habout⟩ := h
    have hany : listing.items.any (·.isAbout kind name reason) = true :=
      List.any_eq_true.mpr ⟨e, he, isAbout_iff.mpr habout⟩
    simp only [Except.map, judgeEvents]
    rw [if_pos hany]
  · cases answer with
    | error e => exact ⟨_, rfl⟩
    | ok listing =>
      have hany : ¬ listing.items.any (·.isAbout kind name reason) = true := by
        intro hany
        obtain ⟨e, he, habout⟩ := List.any_eq_true.mp hany
        exact h ⟨listing, rfl, e, he, isAbout_iff.mp habout⟩
      simp only [Except.map, judgeEvents]
      rw [if_neg hany]
      exact ⟨_, rfl⟩

/-! ### Sweeps -/

def machineRequest (m : Machine) : Request :=
  .get (Machine.api m.metadata.namespaceAny).collection m.nameAny

section Sweep
variable (service : Service τ)

/-- **The ways of a sweep:** machines are looked for in their order, up to the first that is not found
to be absent. -/
inductive Swept : List Machine → Ways τ
  | all {r : Run (Traffic τ)} : Swept [] r [] none r
  | left {m : Machine} {rest : List Machine} {r r' : Run (Traffic τ)}
      {answer : Except RequestError Machine} {why : String}
      (hask : service.ask (machineRequest m) Machine.decode r = (answer, r')) (h : ¬ Absent answer)
      (hj : judgeMachineGone m.nameAny (Api.presence answer) = .retry why) :
    Swept (m :: rest) r [machineRequest m] (some why) r'
  | gone {m : Machine} {rest : List Machine} {r r' r'' : Run (Traffic τ)}
      {answer : Except RequestError Machine} {requests : List Request} {reason : Option String}
      (hask : service.ask (machineRequest m) Machine.decode r = (answer, r')) (h : Absent answer)
      (hrest : Swept rest r' requests reason r'') :
    Swept (m :: rest) r (machineRequest m :: requests) reason r''

variable {service}

theorem judges_machineGone (name : String) :
    Judges (fun answer => judgeMachineGone name (Api.presence answer)) Absent :=
  judges_absent (judgeMachineGone name) rfl (fun _ => ⟨_, rfl⟩) fun _ => ⟨_, rfl⟩

/-- A machine is judged, and if it is gone the sweep goes on. -/
theorem sweepMachines_cons {m : Machine} {rest : List Machine} {r r' : Run (Traffic τ)}
    {answer : Except RequestError Machine}
    (hask : service.ask (machineRequest m) Machine.decode r = (answer, r')) :
    sweepMachines service (m :: rest) r =
      match judgeMachineGone m.nameAny (Api.presence answer) with
      | .done () => sweepMachines service rest r'
      | decision => (decision, r') := by
  have hfind : (Machine.api m.metadata.namespaceAny).find service m.nameAny r =
      (Api.presence answer, r') := by
    have hget : (Machine.api m.metadata.namespaceAny).get service m.nameAny r = (answer, r') := hask
    simp only [Api.find, bind, StateT.bind, hget]
    rfl
  simp only [sweepMachines, bind, StateT.bind, hfind]
  cases judgeMachineGone m.nameAny (Api.presence answer) <;> rfl

/-- **The sweep goes one of the ways.** -/
theorem follows_sweep (machines : List Machine) :
    Follows (sweepMachines service machines) (Swept service machines) := by
  refine ⟨fun r => ?_, fun hway => ?_, fun hway => ?_⟩
  · induction machines generalizing r with
    | nil => exact ⟨_, _, _, .all⟩
    | cons m rest ih =>
      rcases hask : service.ask (machineRequest m) Machine.decode r with ⟨answer, r'⟩
      by_cases h : Absent answer
      · obtain ⟨_, _, _, hrest⟩ := ih r'
        exact ⟨_, _, _, .gone hask h hrest⟩
      · obtain ⟨why, hj⟩ := (judges_machineGone m.nameAny).unmet answer h
        exact ⟨_, _, _, .left hask h hj⟩
  · induction hway with
    | all => rfl
    | left hask h hj =>
      rw [sweepMachines_cons hask, hj]
      rfl
    | @gone m rest r r' r'' answer requests reason hask h hrest ih =>
      have hj := (judges_machineGone m.nameAny).met answer h
      rw [sweepMachines_cons hask, hj]
      exact ih
  · induction hway with
    | all => exact .refl _
    | left hask => exact asked_of_ask hask
    | gone hask h hrest ih => exact (asked_of_ask hask).trans ih

/-- **A sweep asks for the first machines,** in their order, and for all of them if they are gone. -/
theorem Swept.requests_prefix {machines : List Machine} {r r' : Run (Traffic τ)}
    {requests : List Request} {reason : Option String}
    (h : Swept service machines r requests reason r') : requests <+: machines.map machineRequest ∧
      (reason = none → requests = machines.map machineRequest) := by
  induction h with
  | all => exact ⟨List.prefix_refl _, fun _ => rfl⟩
  | left => exact ⟨by simp, nofun⟩
  | gone _ _ _ ih =>
    refine ⟨?_, fun hnone => ?_⟩
    · rw [List.map_cons]
      exact (List.prefix_cons_inj _).mpr ih.1
    · rw [List.map_cons, ih.2 hnone]

end Sweep

/-! ### The main result -/

/-- **Waits that try again whatever the cluster answers,** each with the ways of its attempts, the
attempts and what comes of it. -/
structure TryAgain (service : Service τ) (timeouts : Timeouts) (c : Context) (r : Run (Traffic τ)) :
    Prop where
  /-- An object is absent if an error code comes with a refusal for this reason; no other answer says so. -/
  absent_iff : ∀ {α : Type} (decode : Decoder α) (answer : Answer),
    Absent (Service.readAnswer decode answer) ↔ ∃ code body, answer = .response code body ∧
      400 ≤ code ∧ code < 600 ∧ (Refusal.ofBody code body).isNotFound = true
  /-- A node is ready if it has a condition of this type that is true. -/
  ready_iff : ∀ node : Node, node.isReady = true ↔
    ∃ c ∈ node.conditions, c.type = "Ready" ∧ c.status = "True"
  /-- Nodes are listed until all of them are ready. -/
  nodesReady : TriesAgain
    (Answered service (.list Node.api.collection none) (Listing.decode Node.decode)
      (fun answer => judgeNodes (answer.map Listing.items)) AllReady)
    ⟨timeouts.retryMedium, some timeouts.nodesReady⟩
    (do pure (judgeNodes (← listNodes service ""))) c r (awaitNodesReady service timeouts c r)
  /-- A node is asked for until it does not exist. -/
  nodeGone : ∀ name, TriesAgain
    (Answered service (nodeRequest name) Node.decode
      (fun answer => judgeNodeGone name (Api.presence answer)) Absent)
    ⟨timeouts.retryMedium, some timeouts.waitLong⟩
    (do pure (judgeNodeGone name (← Node.api.find service name))) c r
    (awaitNodeGone service timeouts name c r)
  /-- An operator is asked for until it is there and settled. -/
  operator : ∀ timeout name, TriesAgain
    (Answered service (.get ClusterOperator.api.collection name) ClusterOperator.decode
      (judgeOperator name) Settled)
    ⟨timeouts.retryMedium, some timeout⟩
    (do pure (judgeOperator name (← ClusterOperator.api.get service name))) c r
    (awaitOperator service timeouts timeout name c r)
  /-- Events are listed until they show the awaited one. -/
  event : ∀ kind name reason, TriesAgain
    (Answered service (.list Event.api.collection none) (Listing.decode Event.decode)
      (fun answer => judgeEvents kind name reason (answer.map Listing.items)) (Shows kind name reason))
    ⟨timeouts.retryMedium, some timeouts.waitMedium⟩
    (do pure (judgeEvents kind name reason (← Event.api.list service none))) c r
    (awaitEvent service timeouts kind name reason c r)
  /-- Machines are swept until one sweep finds all of them absent, -/
  machinesGone : ∀ machines, TriesAgain (Swept service machines)
    ⟨timeouts.retryMedium, some timeouts.waitLong⟩ (sweepMachines service machines) c r
    (awaitMachinesGone service timeouts machines c r)
  /-- and a sweep asks for the first of them, in their order, up to one that is not found to be absent,
  and for all of them if there is none. -/
  sweep : ∀ machines run requests reason run', Swept service machines run requests reason run' →
    requests <+: machines.map machineRequest ∧
      (reason = none → requests = machines.map machineRequest)

/-- The attempt of a wait on a list judges the answer to its request. -/
theorem bind_list {α β : Type} (api : Api α) (service : Service τ) (selector : Option String)
    (judge : Except RequestError (List α) → β) (r : Run (Traffic τ)) :
    (do pure (judge (← api.list service selector)) : Act (Traffic τ) β) r =
      let x := service.ask (.list api.collection (selector.filter (· ≠ "")))
        (Listing.decode api.decode) r
      (judge (x.1.map Listing.items), x.2) := rfl

/-- **The waits for nodes, operators, events and machines that are gone try again whatever the cluster
answers,** for every service and every context. -/
theorem waits_try_again (service : Service τ) (timeouts : Timeouts) (c : Context)
    (r : Run (Traffic τ)) : TryAgain service timeouts c r where
  absent_iff _ _ := absent_readAnswer_iff
  ready_iff _ := Node.isReady_iff
  nodesReady := triesAgain (follows_answered judges_nodes fun r =>
    bind_list Node.api service (some "") judgeNodes r) rfl c r
  nodeGone name := triesAgain (follows_answered (judges_nodeGone name) fun _ => rfl) rfl c r
  operator _ name := triesAgain (follows_answered (judges_operator name) fun _ => rfl) rfl c r
  event kind name reason := triesAgain (follows_answered (judges_events kind name reason) fun r =>
    bind_list Event.api service none (judgeEvents kind name reason) r) rfl c r
  machinesGone machines := triesAgain (follows_sweep machines) rfl c r
  sweep _ _ _ _ _ h := h.requests_prefix

end ClusterWait
