import ClusterWait.Cluster.Capacity
import ClusterWait.Proofs.Cluster.MachineAttempt

/-! # An attempt on machines that the provider may not have

An attempt lists the machines of the set once. The listing decides (`judgeSpot`), unless it shows as
many machines as are wanted, all of them running and none of them reported for lack of capacity: then
the nodes of the machines are asked for.

* `firstExhausted_eq_sufficient_iff`, `firstExhausted_eq_exhausted_iff`, `exists_exhausted`: what is
  found in the provider's reports.
* `judgeSpot_of_miscounted`, `judgeSpot_of_failed`, `judgeSpot_of_exhausted`,
  `judgeSpot_of_notRunning`,
  `judgeSpot_of_running`: what a listing decides, in the order in which it is looked at.
* `SpotAttempted` has a constructor for each way of an attempt. It covers every attempt
  (`exists_spotAttempted`), and an attempt goes no other way (`SpotAttempted.decides`). -/

namespace ClusterWait

variable {τ : Type}

/-! ### Reports -/

section Reports
variable {provider : Provider} {machines : List Machine}

/-- **The provider reports that it had no capacity for the machine.** -/
def Machine.Exhausted (provider : Provider) (m : Machine) : Prop :=
  provider.hasInsufficientCapacity m.providerStatus = .ok true

/-- The provider has not reported that it had no capacity for the machine. -/
def Machine.Supplied (provider : Provider) (m : Machine) : Prop :=
  provider.hasInsufficientCapacity m.providerStatus = .ok false

theorem firstExhausted_of_supplied {m : Machine} {rest : List Machine} (h : m.Supplied provider) :
    firstExhausted provider (m :: rest) = firstExhausted provider rest := by
  have h : provider.hasInsufficientCapacity m.providerStatus = .ok false := h
  simp only [firstExhausted, h]

theorem firstExhausted_of_exhausted {m : Machine} {rest : List Machine} (h : m.Exhausted provider) :
    firstExhausted provider (m :: rest) = .exhausted m.nameAny := by
  have h : provider.hasInsufficientCapacity m.providerStatus = .ok true := h
  simp only [firstExhausted, h]

theorem firstExhausted_eq_sufficient (h : ∀ m ∈ machines, m.Supplied provider) :
    firstExhausted provider machines = .sufficient := by
  induction machines with
  | nil => rfl
  | cons m rest ih =>
    rw [firstExhausted_of_supplied (h m List.mem_cons_self)]
    exact ih fun x hx => h x (List.mem_cons_of_mem _ hx)

/-- **The first machine reported** is found, if all reports before it can be read. -/
theorem firstExhausted_append {before after : List Machine} {m : Machine}
    (hbefore : ∀ x ∈ before, x.Supplied provider) (hm : m.Exhausted provider) :
    firstExhausted provider (before ++ m :: after) = .exhausted m.nameAny := by
  induction before with
  | nil => exact firstExhausted_of_exhausted hm
  | cons x rest ih =>
    rw [List.cons_append, firstExhausted_of_supplied (hbefore x List.mem_cons_self)]
    exact ih fun y hy => hbefore y (List.mem_cons_of_mem _ hy)

/-- There is a first machine among those reported, if all reports can be read. -/
theorem exists_exhausted
    (hread : ∀ m ∈ machines, ∃ b, provider.hasInsufficientCapacity m.providerStatus = .ok b)
    (hex : ∃ m ∈ machines, m.Exhausted provider) : ∃ before m after,
      machines = before ++ m :: after ∧ (∀ x ∈ before, x.Supplied provider) ∧
        m.Exhausted provider := by
  induction machines with
  | nil => simp at hex
  | cons m rest ih =>
    obtain ⟨_ | _, hm⟩ := hread m List.mem_cons_self
    · -- the machine in front is not the one reported
      have hex : ∃ x ∈ rest, x.Exhausted provider := by
        obtain ⟨x, hx, he⟩ := hex
        rcases List.mem_cons.mp hx with rfl | hx
        · rw [Machine.Exhausted, hm] at he
          cases he
        · exact ⟨x, hx, he⟩
      obtain ⟨before, x, after, rfl, hbefore, hx⟩ :=
        ih (fun x hx => hread x (List.mem_cons_of_mem _ hx)) hex
      refine ⟨m :: before, x, after, rfl, fun y hy => ?_, hx⟩
      rcases List.mem_cons.mp hy with rfl | hy
      · exact hm
      · exact hbefore y hy
    · exact ⟨[], m, rest, rfl, by simp, hm⟩

end Reports

/-! ### What a listing decides -/

def failedCountText (n : Nat) : String :=
  "found " ++ Text.Decimal.render n ++ " Machines in failed phase"

section Judge
variable {provider : Provider} {set : MachineSet} {name : String} {machines : List Machine}

theorem judgeSpot_of_miscounted (hn : machines.length ≠ set.wanted) :
    judgeSpot provider set name machines =
      some (.retry (miscountText name machines.length set.wanted)) := by
  simp only [judgeSpot, if_pos hn]

theorem judgeSpot_of_failed (hn : machines.length = set.wanted) (hf : Machine.failed machines ≠ []) :
    judgeSpot provider set name machines =
      some (.stop (failedCountText (Machine.failed machines).length)) := by
  have hf : (Machine.failed machines).length ≠ 0 := by simpa using hf
  simp only [judgeSpot, if_neg (not_not.mpr hn), if_pos hf, failedCountText]

theorem judgeSpot_of_exhausted (hn : machines.length = set.wanted)
    (hf : Machine.failed machines = []) {machine : String}
    (hx : firstExhausted provider machines = .exhausted machine) :
    judgeSpot provider set name machines = some (.done (.exhausted machine)) := by
  have hf : ¬ (Machine.failed machines).length ≠ 0 := by simp [hf]
  simp only [judgeSpot, if_neg (not_not.mpr hn), if_neg hf, hx]

theorem judgeSpot_of_notRunning (hn : machines.length = set.wanted)
    (hf : Machine.failed machines = []) (hx : firstExhausted provider machines = .sufficient)
    (hr : ¬ ∀ m ∈ machines, m.phase = some .running) :
    judgeSpot provider set name machines = some (.retry
      (notRunningText name (Machine.running machines).length machines.length)) := by
  have hf : ¬ (Machine.failed machines).length ≠ 0 := by simp [hf]
  rw [← length_running_eq_iff] at hr
  simp only [judgeSpot, if_neg (not_not.mpr hn), if_neg hf, hx, if_pos hr]

theorem judgeSpot_of_running (hn : machines.length = set.wanted)
    (hf : Machine.failed machines = []) (hx : firstExhausted provider machines = .sufficient)
    (hr : ∀ m ∈ machines, m.phase = some .running) :
    judgeSpot provider set name machines = none := by
  have hf : ¬ (Machine.failed machines).length ≠ 0 := by simp [hf]
  rw [← length_running_eq_iff] at hr
  simp only [judgeSpot, if_neg (not_not.mpr hn), if_neg hf, hx, if_neg (not_not.mpr hr)]

/-- Machines that run have not failed. -/
theorem failed_eq_nil_of_running (hr : ∀ m ∈ machines, m.phase = some .running) :
    Machine.failed machines = [] := by
  simp only [Machine.failed, Machine.inPhase, List.filter_eq_nil_iff, decide_eq_true_eq]
  intro m hm
  rw [hr m hm]
  simp

end Judge

/-! ### The ways of an attempt -/

section Attempt
variable (service : Service τ) (provider : Provider) (set : MachineSet) (name : String)

/-- **The ways of an attempt:** its requests, what it decides, and the run that it leaves. -/
inductive SpotAttempted (r : Run (Traffic τ)) :
    List Request → Attempt SpotOutcome → Run (Traffic τ) → Prop
  | unlisted {e : RequestError} {r' : Run (Traffic τ)} (hlist : Listed service set r (.error e) r') :
    SpotAttempted r [listRequest set]
      (.stop ("error getting machines from machineSet " ++ name ++ ": " ++ e.message)) r'
  | judged {machines : List Machine} {r' : Run (Traffic τ)} {d : Attempt SpotOutcome}
      (hlist : Listed service set r (.ok machines) r')
      (hj : judgeSpot provider set name machines = some d) :
    SpotAttempted r [listRequest set] d r'
  | asked {machines : List Machine} {requests : List Request} {problem : Option NodeProblem}
      {r' r'' : Run (Traffic τ)} (hlist : Listed service set r (.ok machines) r')
      (hj : judgeSpot provider set name machines = none)
      (hnodes : NodesAsked service machines r' requests problem r'') :
    SpotAttempted r (listRequest set :: requests) (judgeNodeProblem problem) r''

variable {service provider set name} {r r' : Run (Traffic τ)} {requests : List Request}
  {d : Attempt SpotOutcome}

/-- **An attempt goes no other way.** -/
theorem SpotAttempted.decides (h : SpotAttempted service provider set name r requests d r') :
    spotAttempt service provider set name r = (d, r') := by
  cases h with
  | unlisted hlist =>
    have hlist := hlist.machinesOf_eq
    simp only [spotAttempt, bind, StateT.bind, hlist]
    rfl
  | judged hlist hj =>
    have hlist := hlist.machinesOf_eq
    simp only [spotAttempt, bind, StateT.bind, hlist, hj]
    rfl
  | asked hlist hj hnodes =>
    have hlist := hlist.machinesOf_eq
    simp only [spotAttempt, bind, StateT.bind, hlist, hj, hnodes.firstNodeProblem_eq]
    rfl

/-- **Every attempt goes one of the ways.** -/
theorem exists_spotAttempted (service : Service τ) (provider : Provider) (set : MachineSet)
    (name : String) (r : Run (Traffic τ)) :
    ∃ requests d r', SpotAttempted service provider set name r requests d r' := by
  obtain ⟨_ | machines, r', hlist⟩ := exists_listed service set r
  · exact ⟨_, _, _, .unlisted hlist⟩
  · cases hj : judgeSpot provider set name machines with
    | some d => exact ⟨_, _, _, .judged hlist hj⟩
    | none =>
      have hasked : ∃ requests problem r'', NodesAsked service machines r' requests problem r'' :=
        exists_nodesAsked machines r'
      obtain ⟨_, _, _, hnodes⟩ := hasked
      exact ⟨_, _, _, .asked hlist hj hnodes⟩

theorem SpotAttempted.asked_requests
    (h : SpotAttempted service provider set name r requests d r') : Asked r r' requests := by
  cases h with
  | unlisted hlist => exact hlist.asked
  | judged hlist hj => exact hlist.asked
  | asked hlist hj hnodes => exact hlist.asked.trans hnodes.asked

theorem keepsTime_spotAttempt (service : Service τ) (provider : Provider) (set : MachineSet)
    (name : String) : (spotAttempt service provider set name).KeepsTime := by
  intro r
  obtain ⟨requests, d, r', hway⟩ := exists_spotAttempted service provider set name r
  rw [hway.decides]
  exact hway.asked_requests.time

end Attempt

end ClusterWait
