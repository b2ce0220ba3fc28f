import ClusterWait.Proofs.Cluster.MachineAttempt
import ClusterWait.Proofs.Wait.Reasons

/-! # The wait for the machines of a set gives its reasons

The check and the condition of the wait for the machines of a set are conjunctions of calls. The
check makes one call for each failed machine that it lists, none of which passes. The condition
unwraps the listing, and then the node of each machine in turn; it stops at the first call that does
not pass.

So neither fails without a reason (`machines_reasoned`). -/

namespace ClusterWait

/-- Calls that fail, one for each message. -/
def Conjunction.failAll {σ : Type} : List String → Conjunction σ
  | [] => .finish
  | message :: rest => .call (.fail message) fun _ => failAll rest

theorem Conjunction.evaluation_failAll {σ : Type} (messages : List String) (s : Sink) (r : Run σ) :
    (Conjunction.failAll messages).evaluation s r =
      ((messages.isEmpty, messages.foldl Sink.record s), r) := by
  induction messages generalizing s with
  | nil => rfl
  | cons message rest ih =>
    rw [failAll, evaluation_call, ih]
    rfl

variable {τ : Type} (service : Service τ) (set : MachineSet)

/-! ### The check -/

def noneFailedCalls : Conjunction (Traffic τ) :=
  .step (machinesOf service set) fun
    | .error _ => .finish
    | .ok machines => .failAll ((Machine.failed machines).map failedText)

/-- **The check is a conjunction of its calls.** -/
theorem noneFailed_eq_assertion :
    noneFailed service set = Conjunction.assertion fun _ => noneFailedCalls service set := by
  funext c s r
  obtain ⟨listing, r', hlist⟩ := exists_listed service set r
  rw [noneFailed_of_listed hlist, Conjunction.assertion, noneFailedCalls,
    Conjunction.evaluation_step hlist.machinesOf_eq]
  cases listing with
  | error e => rfl
  | ok machines => simp only [Conjunction.evaluation_failAll, List.foldl_map, List.isEmpty_map]

/-! ### The condition -/

def nodesReadyCalls : List Machine → Conjunction (Traffic τ)
  | [] => .finish
  | machine :: rest =>
    .step (nodeOf service machine) fun answer =>
      .call (.expectOk answer ClusterError.message "getting node") fun
        | none => .finish
        | some node =>
          if node.isReady then nodesReadyCalls rest
          else .call (.fail (notReadyText node.nameAny)) fun _ => .finish

def allReadyCalls : Conjunction (Traffic τ) :=
  .step (machinesOf service set) fun listing =>
    .call (.expectOk listing RequestError.message "error querying api for machines") fun
      | none => .finish
      | some machines =>
        let running := (Machine.running machines).length
        if machines.length ≠ set.wanted then
          .call (.fail (miscountText set.nameAny machines.length set.wanted)) fun _ => .finish
        else if running ≠ machines.length then
          .call (.fail (notRunningText set.nameAny running machines.length)) fun _ => .finish
        else nodesReadyCalls service machines

theorem evaluation_nodesReadyCalls (machines : List Machine) (s : Sink) (r : Run (Traffic τ)) :
    (nodesReadyCalls service machines).evaluation s r =
      match firstNodeProblem service machines r with
        | (none, r') => ((true, s), r')
        | (some problem, r') => (s.fail problem.reason, r') := by
  induction machines generalizing r with
  | nil => rfl
  | cons machine rest ih =>
    rw [firstNodeProblem_cons, nodesReadyCalls]
    rcases hnode : nodeOf service machine r with ⟨e | node, r'⟩
    · rw [Conjunction.evaluation_step hnode]
      rfl
    · rw [Conjunction.evaluation_step hnode, Conjunction.evaluation_call_of_ok rfl]
      cases hready : node.isReady with
      | true => simp only [hready, if_true, ih]
      | false =>
        simp only [hready, Bool.false_eq_true, if_false]
        rfl

/-- **The condition is a conjunction of its calls.** -/
theorem allReady_eq_assertion :
    allReady service set = Conjunction.assertion fun _ => allReadyCalls service set := by
  funext c s r
  obtain ⟨listing, r', hlist⟩ := exists_listed service set r
  rw [allReady_of_listed hlist, Conjunction.assertion, allReadyCalls,
    Conjunction.evaluation_step hlist.machinesOf_eq]
  cases listing with
  | error e => rfl
  | ok machines =>
    rw [Conjunction.evaluation_call_of_ok rfl]
    simp only
    split_ifs
    · rfl
    · rfl
    · exact (evaluation_nodesReadyCalls service machines s r').symm

/-! ### The main result -/

/-- **The check and the condition never fail without a reason,** and so the wait for the machines of
a set tells what they recorded. -/
theorem machines_reasoned (interval : Nat) (c : Context) (r : Run (Traffic τ)) :
    Reasoned (noneFailed service set) (allReady service set) interval c r := by
  rw [noneFailed_eq_assertion, allReady_eq_assertion]
  exact reasoned (Conjunction.givesReasons _) (Conjunction.givesReasons _) interval c r

end ClusterWait
