import ClusterWait.Proofs.Cluster.Snapshot
import ClusterWait.Proofs.Cluster.SpotAttempt

/-! # When a lack of capacity is told

`spotReadiness` is the course of a wait for machines that the provider may not have. An attempt whose
listing shows a machine that the provider reports for lack of capacity should end the wait with that
report. It does so exactly if the listing shows as many machines as are wanted and no failed one
(`exhaustion_told_iff`), because the provider's reports are looked at last: of a wrong number of
machines the wait tries again, and of a failed machine it tells the number of these instead. -/

namespace ClusterWait

variable {τ : Type}

/-! ### The course of the wait -/

/-- **The course of the wait for machines that the provider may not have,** of a set that was found in
a run. -/
def spotReadiness (service : Service τ) (timeouts : Timeouts) (provider : Provider)
    (set : MachineSet) (name : String) (c : Context) (r : Run (Traffic τ)) :
    Course (Traffic τ) SpotOutcome :=
  Course.of ⟨timeouts.retryMedium, some timeouts.waitLong⟩ c
    (fun _ => spotAttempt service provider set name) r

section Course
variable {service : Service τ} {timeouts : Timeouts} {provider : Provider} {set : MachineSet}
  {inNamespace name : String} {c : Context} {r opened : Run (Traffic τ)}

theorem awaitSpotMachineSet_of_found
    (h : getMachineSet service inNamespace name r = (.ok set, opened)) :
    awaitSpotMachineSet service timeouts provider inNamespace name c r =
      (spotReadiness service timeouts provider set name c opened).outcome spotResult := by
  have heq : awaitSpotMachineSet service timeouts provider inNamespace name c r =
      (Poll.untilDone ⟨timeouts.retryMedium, some timeouts.waitLong⟩ c
        (fun _ => spotAttempt service provider set name) opened).map
          fun x => (spotResult x.1, x.2) := by
    simp only [awaitSpotMachineSet, bind, StateT.bind, liftM, monadLift, MonadLift.monadLift, h,
      Option.bind_some]
    cases Poll.untilDone ⟨timeouts.retryMedium, some timeouts.waitLong⟩ c
      (fun _ => spotAttempt service provider set name) opened <;> rfl
  rw [heq, Poll.untilDone_eq_run]
  rfl

/-- The wait comes to an end, since its context does. -/
theorem not_goesOn_spotReadiness (hi : 0 < timeouts.retryMedium) :
    ¬ (spotReadiness service timeouts provider set name c r).GoesOn
      (spotReadiness service timeouts provider set name c r).granted :=
  Poll.not_goesOn_granted hi (Poll.isSome_endOf_scope _ c r rfl _)
    (keepsTime_spotAttempt service provider set name)

/-- An attempt that is made is granted if attempts are some time apart, or the run is patient. -/
theorem lt_granted_spotReadiness {k : Nat} (hk : 0 < timeouts.retryMedium ∨ k ≤ r.patience)
    (hs : (spotReadiness service timeouts provider set name c r).Started k) :
    k < (spotReadiness service timeouts provider set name c r).granted := by
  rcases hk with hi | hk
  · exact Course.lt_of_not_goesOn hs (not_goesOn_spotReadiness hi)
  · exact Poll.lt_granted_of_le_patience _ c _ r hk

/-- An attempt that is described is the one that is made. -/
theorem spotReadiness_of_attempted {k : Nat} {requests : List Request} {d : Attempt SpotOutcome}
    {r' : Run (Traffic τ)} (hway : SpotAttempted service provider set name
      ((spotReadiness service timeouts provider set name c r).before k) requests d r') :
    (spotReadiness service timeouts provider set name c r).decision k = d ∧
      (spotReadiness service timeouts provider set name c r).after k = r' := by
  exact Course.decision_of_attempt hway.decides

theorem spotResult_eq_exhausted {result : Except WaitError SpotOutcome} {machine : String}
    (h : spotResult result = .error (.insufficientCapacity machine)) :
    result = .ok (.exhausted machine) := by
  rcases result with e | _ | n
  · cases h
  · cases h
  · cases h
    rfl

end Course

/-! ### The main result -/

section Told
variable {service : Service τ} {timeouts : Timeouts} {provider : Provider} {set : MachineSet}
  {inNamespace name : String} {c : Context} {r opened listed : Run (Traffic τ)} {k : Nat}
  {machines : List Machine}

/-- **What comes of an attempt** whose listing shows a machine that is reported for lack of capacity. -/
structure Told (provider : Provider) (set : MachineSet) (name : String) (machines : List Machine)
    (w : Course (Traffic τ) SpotOutcome) (k : Nat)
    (outcome : Option (Except ClusterError Unit × Run (Traffic τ))) : Prop where
  /-- The attempt ends the wait with such a machine exactly if the number of machines is right and
  none of them failed. -/
  told_iff : (∃ m ∈ machines, m.Exhausted provider ∧
    w.EndsWith k (.error (.insufficientCapacity m.nameAny)) outcome) ↔
      machines.length = set.wanted ∧ Machine.failed machines = []
  /-- It is the first one in the order of the listing. -/
  first : machines.length = set.wanted → Machine.failed machines = [] → ∃ before m after,
    machines = before ++ m :: after ∧ (∀ x ∈ before, x.Supplied provider) ∧ m.Exhausted provider ∧
      w.EndsWith k (.error (.insufficientCapacity m.nameAny)) outcome
  /-- If the number of machines is wrong, another attempt is asked for. -/
  miscounted : machines.length ≠ set.wanted →
    w.decision k = .retry (miscountText name machines.length set.wanted)
  /-- If machines failed, the attempt ends the wait with the number of these. -/
  failed : machines.length = set.wanted → Machine.failed machines ≠ [] →
    w.EndsWith k (.error (.wait (.stoppedTrying (.ofNat (k + 1))
      (failedCountText (Machine.failed machines).length)))) outcome

/-- **A lack of capacity is told exactly if the number of machines is right and none of them failed,**
by any attempt that is made. -/
theorem exhaustion_told_iff
    (hset : getMachineSet service inNamespace name r = (.ok set, opened))
    (hk : 0 < timeouts.retryMedium ∨ k ≤ opened.patience)
    (hs : (spotReadiness service timeouts provider set name c opened).Started k)
    (hlist : Listed service set
      ((spotReadiness service timeouts provider set name c opened).before k) (.ok machines) listed)
    (hread : ∀ m ∈ machines, ∃ b, provider.hasInsufficientCapacity m.providerStatus = .ok b)
    (hex : ∃ m ∈ machines, m.Exhausted provider) :
    Told provider set name machines (spotReadiness service timeouts provider set name c opened) k
      (awaitSpotMachineSet service timeouts provider inNamespace name c r) := by
  rw [awaitSpotMachineSet_of_found hset]
  have hk := lt_granted_spotReadiness hk hs
  have judged {d : Attempt SpotOutcome} (hj : judgeSpot provider set name machines = some d) :
      (spotReadiness service timeouts provider set name c opened).decision k = d :=
    (spotReadiness_of_attempted (.judged hlist hj)).1
  have miscounted (hn : machines.length ≠ set.wanted) :
      (spotReadiness service timeouts provider set name c opened).decision k =
        .retry (miscountText name machines.length set.wanted) :=
    judged (judgeSpot_of_miscounted hn)
  have failed (hn : machines.length = set.wanted) (hf : Machine.failed machines ≠ []) :
      (spotReadiness service timeouts provider set name c opened).decision k =
        .stop (failedCountText (Machine.failed machines).length) :=
    judged (judgeSpot_of_failed hn hf)
  have first (hn : machines.length = set.wanted) (hf : Machine.failed machines = []) :
      ∃ before m after, machines = before ++ m :: after ∧ (∀ x ∈ before, x.Supplied provider) ∧
        m.Exhausted provider ∧
        (spotReadiness service timeouts provider set name c opened).EndsWith k
          (.error (.insufficientCapacity m.nameAny))
          ((spotReadiness service timeouts provider set name c opened).outcome spotResult) := by
    obtain ⟨before, m, after, heq, hbefore, hm⟩ := exists_exhausted hread hex
    have hx : firstExhausted provider machines = .exhausted m.nameAny := by
      rw [heq]
      exact firstExhausted_append hbefore hm
    have hd := judged (judgeSpot_of_exhausted hn hf hx)
    exact ⟨before, m, after, heq, hbefore, hm,
      Course.endsWith_of_decided spotResult hk (.done hs hd) (by rw [hd]; nofun)⟩
  refine ⟨⟨?_, ?_⟩, first, miscounted, fun hn hf => ?_⟩
  · rintro ⟨m, -, -, hends⟩
    obtain ⟨result, he, htold⟩ := hends.ends
    rw [spotResult_eq_exhausted htold.symm] at he
    have hdone := he.decision_of_ok
    -- no other decision is a report on a machine
    have hn : machines.length = set.wanted := by
      by_contra hn
      rw [miscounted hn] at hdone
      cases hdone
    refine ⟨hn, ?_⟩
    by_contra hf
    rw [failed hn hf] at hdone
    cases hdone
  · rintro ⟨hn, hf⟩
    obtain ⟨before, m, after, rfl, -, hm, hends⟩ := first hn hf
    exact ⟨m, by simp, hm, hends⟩
  · have hd := failed hn hf
    exact Course.endsWith_of_decided spotResult hk (.stopped hs hd) (by rw [hd]; nofun)

end Told

/-- A cluster with a machine that the provider had no capacity for, beside one that runs. -/
def exhaustedCluster : Service Unit := .showing (.sample 2)
  [.sample "set" "a" "Running" none, .sample "set" "b" "Provisioning" exhaustionReport] readyNode

/-- The first attempt sees it, and tells. -/
theorem exhaustion_told : Told .aws (.sample 2) "spot"
    [.sample "set" "a" "Running" none, .sample "set" "b" "Provisioning" exhaustionReport]
    (spotReadiness exhaustedCluster {} .aws (.sample 2) "spot" ⟨⟨[]⟩, none⟩
      (getMachineSet exhaustedCluster "ns" "spot" .fresh).2) 0
    (awaitSpotMachineSet exhaustedCluster {} .aws "ns" "spot" ⟨⟨[]⟩, none⟩ .fresh) := by
  have hset : (getMachineSet exhaustedCluster "ns" "spot" .fresh).1 = .ok (.sample 2) := by
    decide +kernel
  have hlist : (machinesOf exhaustedCluster (.sample 2)
      ((spotReadiness exhaustedCluster {} .aws (.sample 2) "spot" ⟨⟨[]⟩, none⟩
        (getMachineSet exhaustedCluster "ns" "spot" .fresh).2).before 0)).1 = .ok
        [.sample "set" "a" "Running" none, .sample "set" "b" "Provisioning" exhaustionReport] := by
    decide +kernel
  have hs : (spotReadiness exhaustedCluster {} .aws (.sample 2) "spot" ⟨⟨[]⟩, none⟩
      (getMachineSet exhaustedCluster "ns" "spot" .fresh).2).Started 0 := by
    unfold Course.Started Course.Live
    decide +kernel
  refine exhaustion_told_iff (getMachineSet_of_fst hset) (Or.inr (Nat.zero_le _)) hs
    (listed_of_machinesOf hlist) ?_ ⟨_, List.mem_cons_of_mem _ List.mem_cons_self, ?_⟩
  · simp only [List.forall_mem_cons]
    exact ⟨⟨false, by decide +kernel⟩, ⟨true, by decide +kernel⟩, List.forall_mem_nil _⟩
  · unfold Machine.Exhausted
    decide +kernel

/-- A failed machine hides that there was no capacity for another. -/
theorem exhaustion_hidden_by_failure :
    (awaitSpotMachineSet (.showing (.sample 2) [.sample "set" "a" "Failed" none,
      .sample "set" "b" "Provisioning" exhaustionReport] readyNode) {} .aws "ns" "spot" ⟨⟨[]⟩, none⟩
        .fresh).map Prod.fst =
      some (.error (.wait (.stoppedTrying 1 "found 1 Machines in failed phase"))) ∧
    Provider.hasInsufficientCapacity .aws
      (Machine.sample "set" "b" "Provisioning" exhaustionReport).providerStatus = .ok true := by
  decide +kernel

end ClusterWait
