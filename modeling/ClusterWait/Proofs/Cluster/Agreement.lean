import ClusterWait.Proofs.Cluster.Exhaustion
import ClusterWait.Proofs.Cluster.Readiness

/-! # Two waits for the machines of a set

The machines of a set can be waited for with the provider's reports in view or without. As long as no
report tells of a lack of capacity, the two waits should come to the same in a cluster that stays as
it is: both succeed at once, both fail at once because of a failed machine, or both go on until their
contexts end (`Agree`).

They do exactly if no machine failed or the number of machines is right (`waits_agree_iff`). Of a
failed machine among too few or too many the first wait tells at once, whereas the other goes on until
its context ends, since it counts the machines before it looks at their phases. -/

namespace ClusterWait

variable {τ : Type}

/-! ### Waits that go on until their context ends -/

/-- **The wait goes on until its context ends:** an attempt that is made asks for another, unless it is
cut off, and what is told is why the context ended. -/
structure Course.RunsOut {α : Type} (w : Course (Traffic τ) α)
    (outcome : Option (Except ClusterError Unit × Run (Traffic τ))) : Prop where
  retried : ∀ k, w.Started k → (∃ m, w.decision k = .retry m) ∨
    (w.decision k = .cancelled ∧ (w.after k).time.err w.context ≠ none)
  told : ∀ result left, outcome = some (result, left) →
    ∃ n e, (∀ k, w.Started k ↔ k < n) ∧ left.time.err w.context = some e ∧
      result = .error (.wait (.ofCancellation e (.ofNat n) (w.lastRetry n)))
  ends : 0 < w.interval → ∃ result left, outcome = some (result, left)

section RunsOut
variable {α : Type} {w : Course (Traffic τ) α} {tell : Except WaitError α → Except ClusterError Unit}

theorem Course.runsOut
    (hretried : ∀ k, w.Started k → (∃ m, w.decision k = .retry m) ∨
      (w.decision k = .cancelled ∧ (w.after k).time.err w.context ≠ none))
    (htell : ∀ e n last, tell (.error (.ofCancellation e n last)) =
      .error (.wait (.ofCancellation e n last)))
    (hends : 0 < w.interval → ¬ w.GoesOn w.granted) :
    w.RunsOut (w.outcome tell) := by
  have hcut (k : Nat) (hs : w.Started k) (hd : w.decision k = .cancelled) :
      (w.after k).time.err w.context ≠ none := by
    rcases hretried k hs with ⟨m, hm⟩ | ⟨-, he⟩
    · rw [hm] at hd
      cases hd
    · exact he
  refine ⟨hretried, fun result left h => ?_, fun hi => ?_⟩
  · obtain ⟨n, result', he, rfl⟩ := exists_ends_of_outcome h
    rcases he.result_cases hcut with ⟨k, v, hs, hd, -⟩ | ⟨k, m, hs, hd, -⟩ | ⟨e, hend, rfl⟩
    · rcases hretried k hs with ⟨m, hm⟩ | ⟨hm, -⟩ <;> rw [hd] at hm <;> cases hm
    · rcases hretried k hs with ⟨m, hm⟩ | ⟨hm, -⟩ <;> rw [hd] at hm <;> cases hm
    · exact ⟨n, e, he.started_iff, hend, htell e _ _⟩
  · exact exists_outcome tell (hends hi)

/-- A wait that goes on until its context ends tells nothing else. -/
theorem Course.RunsOut.eq_of_endsWith {k : Nat} {told : Except ClusterError Unit}
    {outcome : Option (Except ClusterError Unit × Run (Traffic τ))} (h : w.RunsOut outcome)
    (he : w.EndsWith k told outcome) : ∃ e n last, told = .error (.wait (.ofCancellation e n last)) := by
  obtain ⟨n, e, -, -, heq⟩ := h.told _ _ he.outcome_eq
  exact ⟨e, _, _, heq⟩

end RunsOut

/-! ### The two waits -/

/-- **The machines are ready:** as many as are wanted, all of them running, with nodes that are
ready. -/
structure AllSet (service : Service τ) (set : MachineSet) (machines : List Machine) : Prop where
  count : machines.length = set.wanted
  running : ∀ m ∈ machines, m.phase = some .running
  nodes : ∀ r, (firstNodeProblem service machines r).1 = none

section Waits
variable {service : Service τ} {timeouts : Timeouts} {provider : Provider} {set : MachineSet}
  {inNamespace name : String} {c : Context} {r opened listed : Run (Traffic τ)}
  {machines : List Machine} (hfix : service.Fixed)
  (hlist : Listed service set opened (.ok machines) listed)

include hfix hlist

/-- Whenever machines are listed, they are these. -/
theorem listed_eq {r r' : Run (Traffic τ)} {listing : Except RequestError (List Machine)}
    (h : Listed service set r listing r') : listing = .ok machines :=
  h.listing_eq hfix hlist

theorem exists_listed_machines (r : Run (Traffic τ)) :
    ∃ r', Listed service set r (.ok machines) r' := by
  obtain ⟨listing, r', h⟩ := exists_listed service set r
  exact ⟨r', listed_eq hfix hlist h ▸ h⟩

omit hlist in
/-- No problem is found once, and so none is ever found. -/
theorem allSet_of_nodesAsked (hn : machines.length = set.wanted)
    (hr : ∀ m ∈ machines, m.phase = some .running) {r r' : Run (Traffic τ)}
    {requests : List Request} (h : NodesAsked service machines r requests none r') :
    AllSet service set machines := by
  refine ⟨hn, hr, fun r₀ => ?_⟩
  rw [firstNodeProblem_eq_of_fixed hfix machines r₀ r, h.firstNodeProblem_eq]

omit hfix hlist in
/-- No problem is found with the nodes of machines that are ready. -/
theorem AllSet.problem_eq (h : AllSet service set machines) {r r' : Run (Traffic τ)}
    {requests : List Request} {problem : Option NodeProblem}
    (hnodes : NodesAsked service machines r requests problem r') : problem = none := by
  rw [← h.nodes r, hnodes.firstNodeProblem_eq]

omit hfix hlist in
theorem AllSet.nodesAsked (h : AllSet service set machines) (r : Run (Traffic τ)) :
    ∃ requests r', NodesAsked service machines r requests none r' := by
  have hasked : ∃ requests problem r', NodesAsked service machines r requests problem r' :=
    exists_nodesAsked machines r
  obtain ⟨requests, problem, r', hnodes⟩ := hasked
  obtain rfl := h.problem_eq hnodes
  exact ⟨requests, r', hnodes⟩

end Waits

/-! ### The wait without the reports -/

section Main
variable {service : Service τ} {timeouts : Timeouts} {set : MachineSet} {c : Context}
  {opened listed r' : Run (Traffic τ)} {machines : List Machine}

/-- A failed machine is told with the first attempt, whatever the number of machines. -/
theorem endsWith_of_failed (hs : (readiness service timeouts set c opened).Started 0)
    (hfirst : Listed service set (readiness service timeouts set c opened).opening (.ok machines) r')
    (hf : Machine.failed machines ≠ []) :
    (readiness service timeouts set c opened).EndsWith 0
      (.error (.wait (.checkFailed 1 (failedTexts machines))))
      ((readiness service timeouts set c opened).outcome (Except.mapError ClusterError.ofWait)) := by
  have hd : (readiness service timeouts set c opened).decision 0 = .stop (failedTexts machines) :=
    decision_of_attempted attempt_readiness hs (.failed hfirst hf)
  exact Course.endsWith_of_decided (Except.mapError ClusterError.ofWait) Course.granted_pos
    (.stopped hs hd) (by rw [hd]; nofun)

/-- Machines that are ready are found to be so with the first attempt. -/
theorem endsWith_of_allSet (hfix : service.Fixed)
    (hlist : Listed service set opened (.ok machines) listed)
    (hs : (readiness service timeouts set c opened).Started 0)
    (hfirst : Listed service set (readiness service timeouts set c opened).opening (.ok machines) r')
    (hl : r'.time.err (readiness service timeouts set c opened).context = none)
    (h : AllSet service set machines) :
    (readiness service timeouts set c opened).EndsWith 0 (.ok ())
      ((readiness service timeouts set c opened).outcome (Except.mapError ClusterError.ofWait)) := by
  obtain ⟨r₂, hagain⟩ := exists_listed_machines hfix hlist r'
  obtain ⟨requests, r₃, hnodes⟩ := h.nodesAsked r₂
  have hre : Relisted service set (readiness service timeouts set c opened).context
      (readiness service timeouts set c opened).opening (.ok machines) r₂ :=
    ⟨.ok machines, r', hfirst, failed_eq_nil_of_running h.running, hl, hagain⟩
  have hd : (readiness service timeouts set c opened).decision 0 = .done () :=
    decision_of_attempted attempt_readiness hs (.ready hre h.count h.running hnodes)
  exact Course.endsWith_of_decided (Except.mapError ClusterError.ofWait) Course.granted_pos
    (.done hs hd) (by rw [hd]; nofun)

/-- Machines that are neither failed nor ready are tried again. -/
theorem runsOut_of_not_allSet (hfix : service.Fixed)
    (hlist : Listed service set opened (.ok machines) listed) (hf : Machine.failed machines = [])
    (h : ¬ AllSet service set machines) :
    (readiness service timeouts set c opened).RunsOut
      ((readiness service timeouts set c opened).outcome (Except.mapError ClusterError.ofWait)) := by
  refine Course.runsOut (fun k hs => ?_) (fun e _ _ => by cases e <;> rfl) not_goesOn_readiness
  obtain ⟨requests, hway⟩ := attempted_of_started attempt_readiness hs
  have hcut := err_of_cancelled attempt_readiness hs
  generalize (readiness service timeouts set c opened).decision k = d at hway hcut ⊢
  cases hway with
  | failed hlisted hfailed =>
    cases listed_eq hfix hlist hlisted
    exact absurd hf hfailed
  | cutOff => exact Or.inr ⟨rfl, hcut rfl⟩
  | unlisted => exact Or.inl ⟨_, rfl⟩
  | miscounted => exact Or.inl ⟨_, rfl⟩
  | notRunning => exact Or.inl ⟨_, rfl⟩
  | nodeProblem => exact Or.inl ⟨_, rfl⟩
  | ready hrelisted hn hr hnodes =>
    obtain ⟨_, _, _, _, _, hlisted⟩ := hrelisted
    cases listed_eq hfix hlist hlisted
    exact absurd (allSet_of_nodesAsked hfix hn hr hnodes) h

end Main

/-! ### The wait with the reports -/

section Spot
variable {service : Service τ} {timeouts : Timeouts} {provider : Provider} {set : MachineSet}
  {name : String} {c : Context} {opened listed r r' : Run (Traffic τ)} {machines : List Machine}
  {requests : List Request} {d : Attempt SpotOutcome} (hfix : service.Fixed)
  (hlist : Listed service set opened (.ok machines) listed)

include hfix hlist

section Way
variable (hway : SpotAttempted service provider set name r requests d r')
include hway

/-- What the machines decide by themselves is decided. -/
theorem decides_of_judged {d' : Attempt SpotOutcome}
    (hj : judgeSpot provider set name machines = some d') : d = d' := by
  cases hway with
  | unlisted hlisted => cases listed_eq hfix hlist hlisted
  | judged hlisted hj' =>
    cases listed_eq hfix hlist hlisted
    exact Option.some.inj (hj'.symm.trans hj)
  | asked hlisted hj' =>
    cases listed_eq hfix hlist hlisted
    rw [hj] at hj'
    cases hj'

/-- What they do not decide, their nodes do. -/
theorem asked_of_not_judged (hj : judgeSpot provider set name machines = none) :
    ∃ r₁ requests problem r₂, NodesAsked service machines r₁ requests problem r₂ ∧
      d = judgeNodeProblem problem := by
  cases hway with
  | unlisted hlisted => cases listed_eq hfix hlist hlisted
  | judged hlisted hj' =>
    cases listed_eq hfix hlist hlisted
    rw [hj] at hj'
    cases hj'
  | asked hlisted hj' hnodes =>
    cases listed_eq hfix hlist hlisted
    exact ⟨_, _, _, _, hnodes, rfl⟩

/-- An attempt that finds the machines ready. -/
theorem decides_done (hsup : ∀ m ∈ machines, m.Supplied provider) (h : AllSet service set machines) :
    d = .done .running := by
  have hj : judgeSpot provider set name machines = none :=
    judgeSpot_of_running h.count (failed_eq_nil_of_running h.running)
      (firstExhausted_eq_sufficient hsup) h.running
  obtain ⟨r₁, requests, problem, r₂, hnodes, rfl⟩ := asked_of_not_judged hfix hlist hway hj
  rw [h.problem_eq hnodes]
  rfl

/-- **An attempt that asks for another.** Too few or too many machines are enough for it. -/
theorem decides_retry (hsup : ∀ m ∈ machines, m.Supplied provider)
    (hnf : machines.length ≠ set.wanted ∨ Machine.failed machines = [])
    (h : ¬ AllSet service set machines) : ∃ m, d = .retry m := by
  have hx := firstExhausted_eq_sufficient hsup
  by_cases hn : machines.length = set.wanted
  · have hf := hnf.resolve_left (not_not.mpr hn)
    by_cases hr : ∀ m ∈ machines, m.phase = some .running
    · obtain ⟨r₁, requests, problem, r₂, hnodes, rfl⟩ :=
        asked_of_not_judged hfix hlist hway (judgeSpot_of_running hn hf hx hr)
      cases problem with
      | none => exact absurd (allSet_of_nodesAsked hfix hn hr hnodes) h
      | some problem => cases problem <;> exact ⟨_, rfl⟩
    · exact ⟨_, decides_of_judged hfix hlist hway (judgeSpot_of_notRunning hn hf hx hr)⟩
  · exact ⟨_, decides_of_judged hfix hlist hway (judgeSpot_of_miscounted hn)⟩

end Way

variable (timeouts name c) in
/-- So does every attempt of the wait. -/
theorem spot_runsOut (hsup : ∀ m ∈ machines, m.Supplied provider)
    (hnf : machines.length ≠ set.wanted ∨ Machine.failed machines = [])
    (h : ¬ AllSet service set machines) :
    (spotReadiness service timeouts provider set name c opened).RunsOut
      ((spotReadiness service timeouts provider set name c opened).outcome spotResult) := by
  refine Course.runsOut (fun k _ => Or.inl ?_) (fun _ _ _ => rfl) not_goesOn_spotReadiness
  obtain ⟨requests, d, r', hway⟩ := exists_spotAttempted service provider set name
    ((spotReadiness service timeouts provider set name c opened).before k)
  rw [(spotReadiness_of_attempted hway).1]
  exact decides_retry hfix hlist hway hsup hnf h

end Spot

/-! ### The main result -/

/-- **Two waits come to the same** in a cluster with these machines. -/
inductive Agree (service : Service τ) (set : MachineSet) (machines : List Machine)
    (plain : Course (Traffic τ) Unit) (spot : Course (Traffic τ) SpotOutcome)
    (plainOutcome spotOutcome : Option (Except ClusterError Unit × Run (Traffic τ))) : Prop
  /-- The machines are ready, and both succeed with the first attempt. -/
  | ready (h : AllSet service set machines) (hplain : plain.EndsWith 0 (.ok ()) plainOutcome)
      (hspot : spot.EndsWith 0 (.ok ()) spotOutcome)
  /-- Machines failed, and both tell so with the first attempt. -/
  | failed (h : Machine.failed machines ≠ [])
      (hplain : plain.EndsWith 0 (.error (.wait (.checkFailed 1 (failedTexts machines))))
        plainOutcome)
      (hspot : spot.EndsWith 0 (.error (.wait (.stoppedTrying 1
        (failedCountText (Machine.failed machines).length)))) spotOutcome)
  /-- The machines are neither, and both go on until their contexts end. -/
  | unready (hf : Machine.failed machines = []) (h : ¬ AllSet service set machines)
      (hplain : plain.RunsOut plainOutcome) (hspot : spot.RunsOut spotOutcome)

/-- **How the two waits compare** when no report tells of a lack of capacity. -/
structure Compared (service : Service τ) (set : MachineSet) (machines : List Machine)
    (plain : Course (Traffic τ) Unit) (spot : Course (Traffic τ) SpotOutcome)
    (plainOutcome spotOutcome : Option (Except ClusterError Unit × Run (Traffic τ))) : Prop where
  agree_iff : Agree service set machines plain spot plainOutcome spotOutcome ↔
    Machine.failed machines = [] ∨ machines.length = set.wanted
  /-- Of failed machines among too few or too many only one wait tells. -/
  miscounted : Machine.failed machines ≠ [] → machines.length ≠ set.wanted →
    plain.EndsWith 0 (.error (.wait (.checkFailed 1 (failedTexts machines)))) plainOutcome ∧
      spot.RunsOut spotOutcome

section Compared
variable {service : Service τ} {timeouts : Timeouts} {provider : Provider} {set : MachineSet}
  {inNamespace name : String} {c : Context} {r opened listed : Run (Traffic τ)}
  {machines : List Machine}

/-- **The two waits agree exactly if no machine failed or the number of machines is right,** in a
cluster that stays as it is and where no report tells of a lack of capacity. -/
theorem waits_agree_iff (hfix : service.Fixed)
    (hset : getMachineSet service inNamespace name r = (.ok set, opened))
    (hlist : Listed service set opened (.ok machines) listed)
    (hsup : ∀ m ∈ machines, m.Supplied provider)
    (hplain : ∀ listing r', Listed service set (readiness service timeouts set c opened).opening
      listing r' → r'.time.err (readiness service timeouts set c opened).context = none)
    (hspot : (spotReadiness service timeouts provider set name c opened).Started 0) :
    Compared service set machines (readiness service timeouts set c opened)
      (spotReadiness service timeouts provider set name c opened)
      (awaitMachineSet service timeouts inNamespace name c r)
      (awaitSpotMachineSet service timeouts provider inNamespace name c r) := by
  rw [awaitMachineSet_of_found hset, awaitSpotMachineSet_of_found hset]
  obtain ⟨r', hfirst⟩ := exists_listed_machines hfix hlist
    (readiness service timeouts set c opened).opening
  have hl := hplain _ _ hfirst
  have hs : (readiness service timeouts set c opened).Started 0 := hfirst.asked.time.live hl
  obtain ⟨requests, d, r₁, hway⟩ := exists_spotAttempted service provider set name
    (spotReadiness service timeouts provider set name c opened).opening
  have hd : (spotReadiness service timeouts provider set name c opened).decision 0 = d :=
    (spotReadiness_of_attempted (k := 0) hway).1
  have miscounted (hf : Machine.failed machines ≠ []) (hn : machines.length ≠ set.wanted) :=
    And.intro (endsWith_of_failed hs hfirst hf)
      (spot_runsOut timeouts name c hfix hlist hsup (Or.inl hn) fun h => hn h.count)
  refine ⟨⟨fun hagree => ?_, fun hnf => ?_⟩, miscounted⟩
  · by_contra hnf
    rw [not_or] at hnf
    obtain ⟨hplain, hspot⟩ := miscounted hnf.1 hnf.2
    cases hagree with
    | ready h => exact hnf.2 h.count
    | failed _ _ hspot' =>
      obtain ⟨e, n, last, heq⟩ := hspot.eq_of_endsWith hspot'
      cases e <;> cases heq
    | unready hf => exact hnf.1 hf
  · by_cases h : AllSet service set machines
    · obtain rfl := decides_done hfix hlist hway hsup h
      exact .ready h (endsWith_of_allSet hfix hlist hs hfirst hl h)
        (Course.endsWith_of_decided spotResult Course.granted_pos (.done hspot hd)
          (by rw [hd]; nofun))
    · by_cases hf : Machine.failed machines = []
      · exact .unready hf h (runsOut_of_not_allSet hfix hlist hf h)
          (spot_runsOut timeouts name c hfix hlist hsup (Or.inr hf) h)
      · obtain rfl := decides_of_judged hfix hlist hway
          (judgeSpot_of_failed (hnf.resolve_left hf) hf)
        exact .failed hf (endsWith_of_failed hs hfirst hf)
          (Course.endsWith_of_decided spotResult Course.granted_pos (.stopped hspot hd)
            (by rw [hd]; nofun))

end Compared

/-- A cluster where the one machine that the set wants runs, and a machine of another set failed. -/
def settledCluster : Service Unit := .showing (.sample 1)
  [.sample "set" "a" "Running" none, .sample "other" "b" "Failed" none] readyNode

theorem waits_compared : Compared settledCluster (.sample 1) [.sample "set" "a" "Running" none]
    (readiness settledCluster {} (.sample 1) ⟨⟨[]⟩, none⟩
      (getMachineSet settledCluster "ns" "spot" .fresh).2)
    (spotReadiness settledCluster {} .aws (.sample 1) "spot" ⟨⟨[]⟩, none⟩
      (getMachineSet settledCluster "ns" "spot" .fresh).2)
    (awaitMachineSet settledCluster {} "ns" "spot" ⟨⟨[]⟩, none⟩ .fresh)
    (awaitSpotMachineSet settledCluster {} .aws "ns" "spot" ⟨⟨[]⟩, none⟩ .fresh) := by
  have hset : (getMachineSet settledCluster "ns" "spot" .fresh).1 = .ok (.sample 1) := by
    decide +kernel
  have hlist : (machinesOf settledCluster (.sample 1)
      (getMachineSet settledCluster "ns" "spot" .fresh).2).1 =
        .ok [.sample "set" "a" "Running" none] := by decide +kernel
  refine waits_agree_iff (fixed_showing _ _ _) (getMachineSet_of_fst hset)
    (listed_of_machinesOf hlist) ?_ (fun listing r' h => ?_) ?_
  · simp only [List.forall_mem_singleton, Machine.Supplied]
    decide +kernel
  · have hleft := congrArg Prod.snd h.machinesOf_eq
    rw [← show _ = r' from hleft]
    decide +kernel
  · unfold Course.Started Course.Live
    decide +kernel

/-- One machine of two failed. It is told at once by the one wait, and not at all by the other. -/
theorem waits_disagree :
    (awaitMachineSet (.showing (.sample 2) [.sample "set" "a" "Failed" none] readyNode)
      { waitOverLong := 6000 } "ns" "spot" ⟨⟨[]⟩, none⟩ .fresh).map Prod.fst =
        some (.error (.wait (.checkFailed 1 ("machine a is Failed: Reason: " ++
          "failureReason not present in Machine.status, Message: " ++
          "failureMessage not present in Machine.status")))) ∧
    (awaitSpotMachineSet (.showing (.sample 2) [.sample "set" "a" "Failed" none] readyNode)
      { waitLong := 6000 } .aws "ns" "spot" ⟨⟨[]⟩, none⟩ .fresh).map Prod.fst =
        some (.error (.wait (.timedOut 2
          (some "\"spot\": found 1 Machines, but MachineSet has 2 replicas")))) := by
  decide +kernel

end ClusterWait
