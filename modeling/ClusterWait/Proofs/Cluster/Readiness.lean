import ClusterWait.Proofs.Cluster.MachineAttempt

/-! # Waiting for the machines of a set decides exactly

`readiness` is the course of the wait for a set that was found. Each of its attempts goes one of the
ways of `Attempted`. So the wait asks for what its attempts ask for, it succeeds
exactly with an attempt that finds everything ready (`ok_iff_of_ends`), it fails with its check
exactly with one that sees a failed machine (`checkFailed_iff_of_ends`), and else its context ended.
Since the context has a bound it does come to an end (`not_goesOn_readiness`).

`awaitMachineSet_decides` puts this together, with the request for the set that comes first. -/

namespace ClusterWait

variable {τ : Type}

/-! ### The course of the wait -/

/-- **The course of the wait for the machines of a set** that was found in a run. -/
def readiness (service : Service τ) (timeouts : Timeouts) (set : MachineSet) (c : Context)
    (r : Run (Traffic τ)) : Course (Traffic τ) Unit :=
  Course.of ⟨timeouts.retryMedium, some timeouts.waitOverLong⟩ c
    (checkThenCondition (noneFailed service set) (allReady service set)) r

/-- What is told of a wait for machines that failed. -/
def ClusterError.ofWait (e : WaitError) : ClusterError := .wait e.asCheckFailure

section Course
variable {service : Service τ} {timeouts : Timeouts} {set : MachineSet} {c : Context}
  {r : Run (Traffic τ)}

theorem attempt_readiness : (readiness service timeouts set c r).attempt =
    checkThenCondition (noneFailed service set) (allReady service set) := rfl

theorem awaitMachinesOf_eq : awaitMachinesOf service timeouts set c r =
    (readiness service timeouts set c r).outcome (Except.mapError WaitError.asCheckFailure) := by
  have heq : awaitMachinesOf service timeouts set c r =
      checkUntil timeouts.retryMedium (readiness service timeouts set c r).context
        (noneFailed service set) (allReady service set)
        (readiness service timeouts set c r).opening := rfl
  rw [heq, checkUntil_eq_map, Poll.untilDone_eq_run]
  rfl

theorem awaitMachineSet_of_found {inNamespace name : String} {opened : Run (Traffic τ)}
    (h : getMachineSet service inNamespace name r = (.ok set, opened)) :
    awaitMachineSet service timeouts inNamespace name c r =
      (readiness service timeouts set c opened).outcome (Except.mapError ClusterError.ofWait) := by
  have heq : awaitMachineSet service timeouts inNamespace name c r =
      (awaitMachinesOf service timeouts set c opened).map
        fun x => (x.1.mapError ClusterError.wait, x.2) := by
    simp only [awaitMachineSet, bind, StateT.bind, liftM, monadLift, MonadLift.monadLift, h,
      Option.bind_some]
    cases awaitMachinesOf service timeouts set c opened <;> rfl
  rw [heq, awaitMachinesOf_eq, Course.outcome, Course.outcome, Option.map_map]
  congr 1
  funext x
  rcases x with ⟨_ | _, left⟩ <;> rfl

theorem awaitMachineSet_of_refused {inNamespace name : String} {e : RequestError}
    {left : Run (Traffic τ)} (h : getMachineSet service inNamespace name r = (.error e, left)) :
    awaitMachineSet service timeouts inNamespace name c r = some (.error (.request e), left) := by
  simp only [awaitMachineSet, bind, StateT.bind, liftM, monadLift, MonadLift.monadLift, h,
    Option.bind_some]
  rfl

/-- The wait comes to an end, since its context does. -/
theorem not_goesOn_readiness (hi : 0 < timeouts.retryMedium) :
    ¬ (readiness service timeouts set c r).GoesOn (readiness service timeouts set c r).granted :=
  Poll.not_goesOn_granted hi (Poll.isSome_endOf_scope _ c r rfl _)
    (keepsTime_of_machines attempt_readiness)

end Course

/-! ### The result of the wait -/

section Ends
variable {service : Service τ} {set : MachineSet} {w : Course (Traffic τ) Unit}
  (hw : w.attempt = checkThenCondition (noneFailed service set) (allReady service set)) {n : Nat}
  {result : Except WaitError Unit} {left : Run (Traffic τ)} (he : w.Ends n result left)
include hw he

theorem ok_iff_of_ends : result.mapError ClusterError.ofWait = .ok () ↔
    ∃ k machines r' requests r'', w.Started k ∧
      Relisted service set w.context (w.before k) (.ok machines) r' ∧
      machines.length = set.wanted ∧ (∀ m ∈ machines, m.phase = some .running) ∧
      NodesAsked service machines r' requests none r'' := by
  constructor
  · intro hok
    rcases he.result_cases fun k => err_of_cancelled hw with ⟨k, v, hs, hd, -⟩ | ⟨k, m, -, -, rfl⟩ |
      ⟨e, -, rfl⟩
    · obtain ⟨requests, hway⟩ := attempted_of_started hw hs
      rw [hd] at hway
      cases hway with
      | ready hlist hn hr hnodes => exact ⟨k, _, _, _, _, hs, hlist, hn, hr, hnodes⟩
    · cases hok
    · cases hok
  · rintro ⟨k, machines, r', requests, r'', hs, hlist, hn, hr, hnodes⟩
    have hd := decision_of_attempted hw hs (.ready hlist hn hr hnodes)
    rw [(he.unique (.done hs hd)).1]
    rfl

theorem checkFailed_iff_of_ends {k : UInt32} {m : String} :
    result.mapError ClusterError.ofWait = .error (.wait (.checkFailed k m)) ↔
      ∃ j machines r', k = .ofNat (j + 1) ∧ m = failedTexts machines ∧ w.Started j ∧
        Listed service set (w.before j) (.ok machines) r' ∧ Machine.failed machines ≠ [] := by
  constructor
  · intro hfailed
    rcases he.result_cases fun k => err_of_cancelled hw with ⟨j, v, -, -, rfl⟩ |
      ⟨j, why, hs, hd, rfl⟩ | ⟨e, -, rfl⟩
    · cases hfailed
    · obtain ⟨requests, hway⟩ := attempted_of_started hw hs
      cases hfailed
      rw [hd] at hway
      generalize hstop : Attempt.stop m = d at hway
      cases hway with
      | failed hlist hf =>
        cases hstop
        exact ⟨j, _, _, rfl, rfl, hs, hlist, hf⟩
      | _ => cases hstop
    · cases e <;> cases hfailed
  · rintro ⟨j, machines, r', rfl, rfl, hs, hlist, hf⟩
    have hd := decision_of_attempted hw hs (.failed hlist hf)
    rw [(he.unique (.stopped hs hd)).1]
    rfl

theorem otherwise_of_ends : result.mapError ClusterError.ofWait = .ok () ∨
    (∃ k m, result.mapError ClusterError.ofWait = .error (.wait (.checkFailed k m))) ∨
    ∃ n e, (∀ k, w.Started k ↔ k < n) ∧ left.time.err w.context = some e ∧
      result.mapError ClusterError.ofWait =
        .error (.wait (.ofCancellation e (.ofNat n) (w.lastRetry n))) := by
  rcases he.result_cases fun k => err_of_cancelled hw with ⟨k, v, -, -, rfl⟩ | ⟨k, m, -, -, rfl⟩ |
    ⟨e, hend, rfl⟩
  · exact Or.inl rfl
  · exact Or.inr (Or.inl ⟨_, _, rfl⟩)
  · refine Or.inr (Or.inr ⟨n, e, he.started_iff, hend, ?_⟩)
    cases e <;> rfl

end Ends

/-! ### The main result -/

/-- **A wait for the machines of a set** that was found in a run, by its course, the requests that
each attempt issues, and what comes of it. -/
structure Awaits (service : Service τ) (timeouts : Timeouts) (set : MachineSet) (c : Context)
    (r : Run (Traffic τ)) (w : Course (Traffic τ) Unit) (issued : Nat → List Request)
    (outcome : Option (Except ClusterError Unit × Run (Traffic τ))) : Prop where
  /-- What machines and nodes are judged by. -/
  criteria : Criteria set
  /-- The context of the attempts is live while the caller's token and its own are not cancelled,
  and neither the caller's deadline nor the bound of the wait has come. -/
  live_iff : ∀ l : Timeline, l.err w.context = none ↔ l.cancelledAt c.token l.now = false ∧
    (∀ x ∈ l.cancels, x.instant ≤ l.now → x.token ≠ w.context.token) ∧
    (∀ d, c.deadline = some d → l.now < d) ∧ l.now < r.time.now + timeouts.waitOverLong
  /-- The first attempt is due at once, -/
  first : (w.before 0).time.now = r.time.now ∧ (w.before 0).time.cancels = r.time.cancels ∧
    (w.before 0).world = r.world
  /-- and each further one the interval after the one before. -/
  next : ∀ k, w.before (k + 1) =
    (w.after k).withTime ((w.after k).time.advance timeouts.retryMedium)
  /-- Each attempt that is made goes one of the ways, -/
  attempts : ∀ k, w.Started k →
    Attempted service set w.context (w.before k) (issued k) (w.decision k) (w.after k)
  /-- whose requests for nodes are for those that the first machines name, in the order of the
  machines, and for those of all machines if there is no problem; -/
  nodes : ∀ machines r' requests problem r'', NodesAsked service machines r' requests problem r'' →
    ∃ names : List String, requests = names.map nodeRequest ∧
      names.map some <+: machines.map Machine.nodeName ∧
      (problem = none → names.map some = machines.map Machine.nodeName)
  /-- and what is sent until the wait ends is what the attempts issue, in their order. -/
  requests : ∀ result left, outcome = some (result, left) → ∃ n, (∀ k, w.Started k ↔ k < n) ∧
    Asked r left ((List.range n).flatMap issued)
  /-- The wait succeeds exactly if an attempt is made whose check shows no failure, and whose
  condition finds as many machines as are wanted, all of them running and each with a node that is
  ready. -/
  ok_iff : ∀ result left, outcome = some (result, left) → (result = .ok () ↔
    ∃ k machines r' requests r'', w.Started k ∧
      Relisted service set w.context (w.before k) (.ok machines) r' ∧
      machines.length = set.wanted ∧ (∀ m ∈ machines, m.phase = some .running) ∧
      NodesAsked service machines r' requests none r'')
  /-- It fails with its check exactly if an attempt is made whose first listing shows failed
  machines, and these are told, in the order of the listing. -/
  checkFailed_iff : ∀ result left, outcome = some (result, left) → ∀ n m,
    result = .error (.wait (.checkFailed n m)) ↔ ∃ k machines r', n = .ofNat (k + 1) ∧
      m = failedTexts machines ∧ w.Started k ∧ Listed service set (w.before k) (.ok machines) r' ∧
      Machine.failed machines ≠ []
  /-- Else its context ended, and it is told why, with the number of attempts and the reason of the
  last that asked for another. -/
  otherwise : ∀ result left, outcome = some (result, left) → result = .ok () ∨
    (∃ n m, result = .error (.wait (.checkFailed n m))) ∨
    ∃ n e, (∀ k, w.Started k ↔ k < n) ∧ left.time.err w.context = some e ∧
      result = .error (.wait (.ofCancellation e (.ofNat n) (w.lastRetry n)))
  /-- There is no result only when all attempts granted ask for another, -/
  endless_iff : outcome = none ↔ w.GoesOn w.granted
  /-- and this does not happen when attempts are some time apart. -/
  ends : 0 < timeouts.retryMedium → ∃ result left, outcome = some (result, left)

/-- **Waiting for a set:** one that cannot be had is told, with nothing else asked, and one that was
found is waited for. -/
structure Decides (service : Service τ) (timeouts : Timeouts) (inNamespace name : String)
    (c : Context) (r : Run (Traffic τ)) : Prop where
  asked : Asked r (getMachineSet service inNamespace name r).2 [setRequest inNamespace name]
  refused : ∀ e left, getMachineSet service inNamespace name r = (.error e, left) →
    awaitMachineSet service timeouts inNamespace name c r = some (.error (.request e), left)
  found : ∀ set opened, getMachineSet service inNamespace name r = (.ok set, opened) →
    ∃ issued, Awaits service timeouts set c opened (readiness service timeouts set c opened) issued
      (awaitMachineSet service timeouts inNamespace name c r)

theorem exists_awaits (service : Service τ) (timeouts : Timeouts) (set : MachineSet) (c : Context)
    (r : Run (Traffic τ)) : ∃ issued, Awaits service timeouts set c r
      (readiness service timeouts set c r) issued
      ((readiness service timeouts set c r).outcome (Except.mapError ClusterError.ofWait)) := by
  have hways (k : Nat) : ∃ requests, (readiness service timeouts set c r).Started k →
      Attempted service set (readiness service timeouts set c r).context
        ((readiness service timeouts set c r).before k) requests
        ((readiness service timeouts set c r).decision k)
        ((readiness service timeouts set c r).after k) := by
    by_cases hs : (readiness service timeouts set c r).Started k
    · obtain ⟨requests, hway⟩ := attempted_of_started attempt_readiness hs
      exact ⟨requests, fun _ => hway⟩
    · exact ⟨[], fun h => absurd h hs⟩
  choose issued hissued using hways
  obtain ⟨hnow, hcancels, hworld, -⟩ :=
    Poll.scope_opening ⟨timeouts.retryMedium, some timeouts.waitOverLong⟩ c r
  refine ⟨issued, criteria set, fun l => ?_, ⟨hnow, hcancels, hworld⟩, Course.before_succ, hissued,
    fun _ _ _ _ _ h => h.names, fun result left h => ?_, fun result left h => ?_,
    fun result left h n m => ?_, fun result left h => ?_, ?_, fun hi => ?_⟩
  · refine (Poll.err_scope_eq_none_iff
      ⟨timeouts.retryMedium, some timeouts.waitOverLong⟩ c r l).trans ?_
    simp only [Option.some.injEq, forall_eq']
    exact Iff.rfl
  · obtain ⟨n, result', he, rfl⟩ := Course.exists_ends_of_outcome h
    exact ⟨n, he.started_iff, asked_left (asked_opening _ c _ r) (fun k hs => (hissued k hs).asked) he⟩
  · obtain ⟨n, result', he, rfl⟩ := Course.exists_ends_of_outcome h
    exact ok_iff_of_ends attempt_readiness he
  · obtain ⟨_, result', he, rfl⟩ := Course.exists_ends_of_outcome h
    exact checkFailed_iff_of_ends attempt_readiness he
  · obtain ⟨n, result', he, rfl⟩ := Course.exists_ends_of_outcome h
    exact otherwise_of_ends attempt_readiness he
  · exact Course.outcome_eq_none_iff
  · exact Course.exists_outcome _ (not_goesOn_readiness hi)

/-- **Waiting for the machines of a set decides exactly,** for every service and every context. -/
theorem awaitMachineSet_decides (service : Service τ) (timeouts : Timeouts)
    (inNamespace name : String) (c : Context) (r : Run (Traffic τ)) :
    Decides service timeouts inNamespace name c r := by
  refine ⟨asked_ask service (setRequest inNamespace name) _ r,
    fun e left h => awaitMachineSet_of_refused h, fun set opened h => ?_⟩
  rw [awaitMachineSet_of_found h]
  exact exists_awaits service timeouts set c opened

end ClusterWait
