import ClusterWait.Cluster.Readiness
import ClusterWait.Proofs.Resource.Criteria
import ClusterWait.Proofs.Wait.Polling

/-! # Requests: what is asked, what is sent, and the time it takes

`Asked r r' requests` says that a run came from another by asking for these, in this order: the
service was sent those of them that can be sent, nothing else, and time only went on. It is closed
under composition (`Asked.trans`), and a single request is `asked_ask`.

* `readAnswer_eq_ok_iff`, `readAnswer_eq_error_iff`: what is read off an answer, and how it fails.
* `asked_left`: a wait asks for what its attempts ask for, and for nothing else.
* `Listed`: the machines of a set are listed, with one request, and those that it controls are kept.
* `NodesAsked`: the nodes of machines are asked for one by one, up to the first that is missing,
  cannot be had or is not ready. It is what `firstNodeProblem` does (`nodesAsked_firstNodeProblem`).
  -/

namespace ClusterWait

variable {τ : Type}

/-- **The second run came from the first by asking for these.** -/
structure Asked (r r' : Run (Traffic τ)) (requests : List Request) : Prop where
  /-- What can be sent was sent, the last first. -/
  sent : r'.world.sent.map (·.request) =
    (requests.filter (·.check = none)).reverse ++ r.world.sent.map (·.request)
  time : r.time.Precedes r'.time

section Asked
variable {r r' r'' : Run (Traffic τ)} {xs ys : List Request}

theorem Asked.refl (r : Run (Traffic τ)) : Asked r r [] := ⟨rfl, .refl _⟩

theorem Asked.trans (h₁ : Asked r r' xs) (h₂ : Asked r' r'' ys) : Asked r r'' (xs ++ ys) := by
  refine ⟨?_, h₁.time.trans h₂.time⟩
  rw [h₂.sent, h₁.sent, List.filter_append, List.reverse_append, List.append_assoc]

/-- Nothing is asked while time passes. -/
theorem Asked.withTime {l : Timeline} (h : Asked r r' xs) (hl : r'.time.Precedes l) :
    Asked r (r'.withTime l) xs :=
  ⟨h.sent, h.time.trans hl⟩

/-- **A single request.** -/
theorem asked_ask {α : Type} (service : Service τ) (request : Request) (decode : Decoder α)
    (r : Run (Traffic τ)) : Asked r (service.ask request decode r).2 [request] := by
  unfold Service.ask
  cases hc : request.check with
  | some e => exact ⟨by rw [List.filter_cons_of_neg (by simp [hc])]; rfl, .refl _⟩
  | none => exact ⟨by simp [hc]; rfl, Timeline.precedes_advance _ _⟩

theorem asked_of_ask {α : Type} {service : Service τ} {request : Request} {decode : Decoder α}
    {answer : Except RequestError α} (h : service.ask request decode r = (answer, r')) :
    Asked r r' [request] := by
  have hask := asked_ask service request decode r
  rwa [h] at hask

/-- What is made of an answer asks for nothing. -/
theorem Asked.bind_pure {α β : Type} {act : Act (Traffic τ) α} (h : Asked r (act r).2 xs)
    (f : α → β) : Asked r ((act >>= fun answer => pure (f answer)) r).2 xs := h

theorem Api.asked_list {α : Type} (api : Api α) (service : Service τ) (selector : Option String)
    (r : Run (Traffic τ)) : Asked r (api.list service selector r).2
      [.list api.collection (selector.filter (· ≠ ""))] :=
  (asked_ask service _ _ r).bind_pure _

theorem Api.asked_get {α : Type} (api : Api α) (service : Service τ) (name : String)
    (r : Run (Traffic τ)) : Asked r (api.get service name r).2 [.get api.collection name] :=
  asked_ask service _ _ r

end Asked

/-! ### How an answer is read -/

section Answers
variable {α : Type} {decode : Decoder α} {answer : Answer} {v : α} {e : RequestError}

theorem readAnswer_eq_ok_iff : Service.readAnswer decode answer = .ok v ↔
    ∃ code body, answer = .response code body ∧ ¬ (400 ≤ code ∧ code < 600) ∧
      body.draft.bind decode = some v := by
  constructor
  · intro h
    cases answer with
    | failure text => cases h
    | response code body =>
      by_cases hcode : 400 ≤ code ∧ code < 600
      · simp only [Service.readAnswer, if_pos hcode] at h
        cases h
      · simp only [Service.readAnswer, if_neg hcode] at h
        cases hd : body.draft.bind decode with
        | none =>
          rw [hd] at h
          cases h
        | some w =>
          rw [hd] at h
          cases h
          exact ⟨code, body, rfl, hcode, hd⟩
  · rintro ⟨code, body, rfl, hcode, hd⟩
    simp only [Service.readAnswer, if_neg hcode, hd]

/-- **How an answer fails.** -/
inductive Failing (decode : Decoder α) : Answer → RequestError → Prop
  | transport {text : String} : Failing decode (.failure text) (.transport text)
  | refused {code : Nat} {body : Body} (h : 400 ≤ code ∧ code < 600) :
    Failing decode (.response code body) (.refused (.ofBody code body))
  | unreadable {code : Nat} {body : Body} (h : ¬ (400 ≤ code ∧ code < 600))
      (hd : body.draft.bind decode = none) : Failing decode (.response code body) .unreadable

theorem readAnswer_eq_error_iff :
    Service.readAnswer decode answer = .error e ↔ Failing decode answer e := by
  constructor
  · intro h
    cases answer with
    | failure text =>
      cases h
      exact .transport
    | response code body =>
      by_cases hcode : 400 ≤ code ∧ code < 600
      · simp only [Service.readAnswer, if_pos hcode] at h
        cases h
        exact .refused hcode
      · simp only [Service.readAnswer, if_neg hcode] at h
        cases hd : body.draft.bind decode with
        | none =>
          rw [hd] at h
          cases h
          exact .unreadable hcode hd
        | some w =>
          rw [hd] at h
          cases h
  · rintro (_ | hcode | ⟨hcode, hd⟩)
    · rfl
    · simp only [Service.readAnswer, if_pos hcode]
    · simp only [Service.readAnswer, if_neg hcode, hd]

end Answers

/-! ### The requests of a wait -/

/-- Nothing is asked for before the first attempt. -/
theorem asked_opening {α : Type} (p : Poll) (c : Context)
    (attempt : Context → Act (Traffic τ) (Attempt α)) (r : Run (Traffic τ)) :
    Asked r (Course.of p c attempt r).opening [] := by
  obtain ⟨hnow, hcancels, hworld, -⟩ := Poll.scope_opening p c r
  refine ⟨congrArg (fun t => t.sent.map (·.request)) hworld, hnow.ge, fun x hx => ?_⟩
  exact hcancels.symm ▸ hx

section Wait
variable {α : Type} {w : Course (Traffic τ) α} {r : Run (Traffic τ)} {issued : Nat → List Request}
  (hr : Asked r w.opening []) (h : ∀ k, w.Started k → Asked (w.before k) (w.after k) (issued k))
include hr h

theorem asked_before (k : Nat) (hs : ∀ j < k, w.Started j) :
    Asked r (w.before k) ((List.range k).flatMap issued) := by
  induction k with
  | zero => exact hr
  | succ k ih =>
    rw [List.range_succ, List.flatMap_append, List.flatMap_singleton, Course.before_succ]
    have hk := (ih fun j hj => hs j (Nat.lt_succ_of_lt hj)).trans (h k (hs k (Nat.lt_succ_self k)))
    exact hk.withTime (Timeline.precedes_advance _ _)

theorem asked_after {k : Nat} (hs : w.Started k) :
    Asked r (w.after k) ((List.range (k + 1)).flatMap issued) := by
  rw [List.range_succ, List.flatMap_append, List.flatMap_singleton]
  exact (asked_before hr h k fun j hj => hs.of_le hj.le).trans (h k hs)

/-- **The wait asks for what its attempts ask for,** and for nothing else. -/
theorem asked_left {n : Nat} {result : Except WaitError α} {left : Run (Traffic τ)}
    (he : w.Ends n result left) : Asked r left ((List.range n).flatMap issued) := by
  rcases he.left with ⟨rfl, rfl⟩ | ⟨k, i, rfl, hs, hi, rfl⟩
  · exact hr
  · exact (asked_after hr h hs).withTime (Timeline.precedes_atInstant hi)

end Wait

variable (service : Service τ)

/-! ### The machines of a set -/

def setRequest (inNamespace name : String) : Request :=
  .get (MachineSet.api inNamespace).collection name

/-- The request for the machines in the namespace of a set. -/
def listRequest (set : MachineSet) : Request :=
  .list (Machine.api set.namespaceAny).collection none

/-- **The machines of a set are listed:** those of its namespace are asked for, and those that it
controls are kept, in their order. -/
def Listed (set : MachineSet) (r : Run (Traffic τ)) (listing : Except RequestError (List Machine))
    (r' : Run (Traffic τ)) : Prop :=
  ∃ answer, service.ask (listRequest set) (Listing.decode Machine.decode) r = (answer, r') ∧
    listing = answer.map fun l => l.items.filter (·.isControlledBy set)

section Listed
variable {service} {set : MachineSet} {r r' : Run (Traffic τ)}
  {listing : Except RequestError (List Machine)}

theorem machinesOf_of_ask {answer : Except RequestError (Listing Machine)}
    (hask : service.ask (listRequest set) (Listing.decode Machine.decode) r = (answer, r')) :
    machinesOf service set r = (answer.map fun l => l.items.filter (·.isControlledBy set), r') := by
  have hlist : (Machine.api set.namespaceAny).list service none r = (answer.map (·.items), r') := by
    have hask' : service.ask (.list (Machine.api set.namespaceAny).collection none)
        (Listing.decode (Machine.api set.namespaceAny).decode) r = (answer, r') := hask
    simp only [Api.list, Option.filter_none, bind, StateT.bind, hask']
    rfl
  simp only [machinesOf, listMachines, Option.map_none, bind, StateT.bind, hlist]
  cases answer <;> rfl

theorem Listed.machinesOf_eq (h : Listed service set r listing r') :
    machinesOf service set r = (listing, r') := by
  obtain ⟨answer, hask, rfl⟩ := h
  exact machinesOf_of_ask hask

theorem exists_listed (service : Service τ) (set : MachineSet) (r : Run (Traffic τ)) :
    ∃ listing r', Listed service set r listing r' := by
  rcases hask : service.ask (listRequest set) (Listing.decode Machine.decode) r with ⟨answer, r'⟩
  exact ⟨_, r', answer, hask, rfl⟩

/-- What is found of the machines is their listing. -/
theorem listed_of_machinesOf (h : (machinesOf service set r).1 = listing) :
    Listed service set r listing (machinesOf service set r).2 := by
  obtain ⟨listing', r', hlist⟩ := exists_listed service set r
  rw [hlist.machinesOf_eq] at h ⊢
  cases h
  exact hlist

theorem Listed.asked (h : Listed service set r listing r') : Asked r r' [listRequest set] := by
  obtain ⟨answer, hask, -⟩ := h
  exact asked_of_ask hask

end Listed

/-! ### The nodes of machines -/

def nodeRequest (name : String) : Request := .get Node.api.collection name

/-- **The nodes of machines are asked for one by one,** in the order of the machines and up to the
first problem. -/
inductive NodesAsked : List Machine → Run (Traffic τ) → List Request → Option NodeProblem →
    Run (Traffic τ) → Prop
  | all {r : Run (Traffic τ)} : NodesAsked [] r [] none r
  | unnamed {m : Machine} {rest : List Machine} {r : Run (Traffic τ)} (hm : m.nodeName = none) :
    NodesAsked (m :: rest) r [] (some (.notFound m.nameAny (.noNodeRef m.nameAny))) r
  | missing {m : Machine} {rest : List Machine} {r r' : Run (Traffic τ)} {name : String}
      {e : RequestError} (hm : m.nodeName = some name)
      (hask : service.ask (nodeRequest name) Node.decode r = (.error e, r')) :
    NodesAsked (m :: rest) r [nodeRequest name] (some (.notFound m.nameAny (.request e))) r'
  | notReady {m : Machine} {rest : List Machine} {r r' : Run (Traffic τ)} {name : String}
      {node : Node} (hm : m.nodeName = some name)
      (hask : service.ask (nodeRequest name) Node.decode r = (.ok node, r'))
      (hn : node.isReady = false) :
    NodesAsked (m :: rest) r [nodeRequest name] (some (.notReady node.nameAny)) r'
  | ready {m : Machine} {rest : List Machine} {r r' r'' : Run (Traffic τ)} {name : String}
      {node : Node} {requests : List Request} {problem : Option NodeProblem}
      (hm : m.nodeName = some name)
      (hask : service.ask (nodeRequest name) Node.decode r = (.ok node, r'))
      (hn : node.isReady = true) (h : NodesAsked rest r' requests problem r'') :
    NodesAsked (m :: rest) r (nodeRequest name :: requests) problem r''

section NodesAsked
variable {service} {machines : List Machine} {r r' : Run (Traffic τ)} {requests : List Request}
  {problem : Option NodeProblem}

theorem NodesAsked.asked (h : NodesAsked service machines r requests problem r') :
    Asked r r' requests := by
  induction h with
  | all => exact .refl _
  | unnamed hm => exact .refl _
  | missing hm hask => exact asked_of_ask hask
  | notReady hm hask hn => exact asked_of_ask hask
  | ready hm hask hn _ ih => exact (asked_of_ask hask).trans ih

theorem nodeOf_of_ask {m : Machine} {name : String} {answer : Except RequestError Node}
    (hm : m.nodeName = some name)
    (hask : service.ask (nodeRequest name) Node.decode r = (answer, r')) :
    nodeOf service m r = (answer.mapError .request, r') := by
  have hget : Node.api.get service name r = (answer, r') := hask
  unfold nodeOf
  rw [hm]
  simp only [bind, StateT.bind, hget]
  rfl

theorem firstNodeProblem_cons (m : Machine) (rest : List Machine) (r : Run (Traffic τ)) :
    firstNodeProblem service (m :: rest) r = match nodeOf service m r with
      | (.error e, r') => (some (.notFound m.nameAny e), r')
      | (.ok node, r') =>
        if node.isReady then firstNodeProblem service rest r'
        else (some (.notReady node.nameAny), r') := by
  simp only [firstNodeProblem, bind, StateT.bind]
  rcases nodeOf service m r with ⟨_ | node, r'⟩
  · rfl
  · simp only
    split_ifs <;> rfl

/-- **This is how the first problem is looked for.** -/
theorem NodesAsked.firstNodeProblem_eq (h : NodesAsked service machines r requests problem r') :
    firstNodeProblem service machines r = (problem, r') := by
  induction h with
  | all => rfl
  | @unnamed m rest r hm =>
    have hnode : nodeOf service m r = (.error (.noNodeRef m.nameAny), r) := by
      unfold nodeOf
      rw [hm]
      rfl
    rw [firstNodeProblem_cons, hnode]
  | missing hm hask => rw [firstNodeProblem_cons, nodeOf_of_ask hm hask]; rfl
  | notReady hm hask hn =>
    rw [firstNodeProblem_cons, nodeOf_of_ask hm hask]
    simp [Except.mapError, hn]
  | ready hm hask hn _ ih =>
    rw [firstNodeProblem_cons, nodeOf_of_ask hm hask]
    simp [Except.mapError, hn, ih]

/-- **The nodes asked for** are those that the first machines name, in the order of the machines,
and without a problem those that all of them name. -/
theorem NodesAsked.names (h : NodesAsked service machines r requests problem r') :
    ∃ names : List String, requests = names.map nodeRequest ∧
      names.map some <+: machines.map Machine.nodeName ∧
      (problem = none → names.map some = machines.map Machine.nodeName) := by
  induction h with
  | all => exact ⟨[], rfl, List.nil_prefix, fun _ => rfl⟩
  | unnamed hm => exact ⟨[], rfl, List.nil_prefix, nofun⟩
  | missing hm hask => exact ⟨[_], rfl, by simp [hm], nofun⟩
  | notReady hm hask hn => exact ⟨[_], rfl, by simp [hm], nofun⟩
  | @ready m rest _ _ _ name _ _ _ hm _ _ _ ih =>
    obtain ⟨names, rfl, hfirst, hall⟩ := ih
    refine ⟨name :: names, rfl, ?_, fun hp => ?_⟩
    · rw [List.map_cons, List.map_cons, hm]
      exact (List.prefix_cons_inj _).mpr hfirst
    · rw [List.map_cons, List.map_cons, hm, hall hp]

theorem exists_nodesAsked (machines : List Machine) (r : Run (Traffic τ)) :
    ∃ requests problem r', NodesAsked service machines r requests problem r' := by
  induction machines generalizing r with
  | nil => exact ⟨_, _, _, .all⟩
  | cons m rest ih =>
    cases hm : m.nodeName with
    | none => exact ⟨_, _, _, .unnamed hm⟩
    | some name =>
      rcases hask : service.ask (nodeRequest name) Node.decode r with ⟨e | node, left⟩
      · exact ⟨_, _, _, .missing hm hask⟩
      · cases hn : node.isReady with
        | false => exact ⟨_, _, _, .notReady hm hask hn⟩
        | true =>
          obtain ⟨_, _, _, h⟩ := ih left
          exact ⟨_, _, _, .ready hm hask hn h⟩

end NodesAsked

end ClusterWait
