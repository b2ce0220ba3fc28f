import ClusterWait.Proofs.Cluster.Requests
import ClusterWait.Proofs.Provider.Templates

/-! # The sets of tests are no models

A test plans its set after the first worker set of the cluster (`planTestSet`), and sets that earlier
tests left behind are among those that are listed. They are not taken for worker sets: what a test plans
has no label for a role (`Derived.get?_machineRoleLabel`), and the labels of a plan are those of the
machines of its set.

* `LeftOver`: a set that a test made. `Littered`: a list of sets with such sets among them.
* `filter_isWorker_of_littered`: the worker sets of both lists are the same.
* `CopiesWorker`: what a description takes over from a worker set, and what it adds.
* `left_overs_are_no_models`: how the worker sets are chosen, and that two runs, with one list and with
  the other, come to the same workers and the same plan. -/

namespace ClusterWait

variable {τ τ' : Type}

/-! ### What a plan comes to -/

def setsRequest (inNamespace : String) : Request :=
  .list (MachineSet.api inNamespace).collection none

def infrastructureRequest : Request :=
  .get Infrastructure.api.collection Infrastructure.globalName

theorem MachineSet.isWorker_eq (x : MachineSet) :
    x.isWorker = decide (x.templateLabels.get? machineRoleLabel = some "worker") := by
  rw [isWorker, Bool.eq_iff_iff, beq_iff_eq, decide_eq_true_eq]

section Planning

variable {service : Service τ} {inNamespace run : String} {replicas : Int}
  {r r₁ : Run (Traffic τ)} {L ws : List MachineSet}

theorem asked_listMachineSets (service : Service τ) (inNamespace : String) (r : Run (Traffic τ)) :
    Asked r (listMachineSets service inNamespace none r).2 [setsRequest inNamespace] :=
  (MachineSet.api inNamespace).asked_list service none r

theorem asked_infrastructureName (service : Service τ) (r : Run (Traffic τ)) :
    Asked r (infrastructureName service r).2 [infrastructureRequest] :=
  ((Infrastructure.api.asked_get service Infrastructure.globalName r).bind_pure _).bind_pure _

theorem chooseWorkers_eq_ok_iff :
    chooseWorkers inNamespace L = .ok ws ↔ ws ≠ [] ∧ ws = L.filter MachineSet.isWorker := by
  unfold chooseWorkers
  cases L.filter MachineSet.isWorker with
  | nil => simp
  | cons worker rest =>
    constructor
    · intro h
      cases h
      exact ⟨List.cons_ne_nil _ _, rfl⟩
    · rintro ⟨-, rfl⟩
      rfl

theorem chooseWorkers_eq_error_iff {e : ClusterError} : chooseWorkers inNamespace L = .error e ↔
    e = .noWorkerSets inNamespace ∧ L.filter MachineSet.isWorker = [] := by
  unfold chooseWorkers
  cases L.filter MachineSet.isWorker with
  | nil => simp [eq_comm]
  | cons worker rest => simp

/-- The worker sets are chosen from those that are listed, without a further request. -/
theorem workerMachineSets_eq (service : Service τ) (inNamespace : String) (r : Run (Traffic τ)) :
    workerMachineSets service inNamespace r =
      (((listMachineSets service inNamespace none r).1.mapError .request).bind
        (chooseWorkers inNamespace), (listMachineSets service inNamespace none r).2) := by
  simp only [workerMachineSets, bind, StateT.bind]
  rcases listMachineSets service inNamespace none r with ⟨_ | L, r₁⟩
  · rfl
  · rfl

theorem workerMachineSets_of_listed (h : (listMachineSets service inNamespace none r).1 = .ok L) :
    (workerMachineSets service inNamespace r).1 = chooseWorkers inNamespace L := by
  rw [workerMachineSets_eq, h]
  rfl

theorem workerMachineSets_ne_nil : (workerMachineSets service inNamespace r).1 ≠ .ok [] := by
  intro h
  rw [workerMachineSets_eq] at h
  cases hlist : (listMachineSets service inNamespace none r).1 with
  | error e =>
    rw [hlist] at h
    cases h
  | ok L =>
    rw [hlist] at h
    exact (chooseWorkers_eq_ok_iff.mp h).1 rfl

theorem workerMachineSets_snd (service : Service τ) (inNamespace : String) (r : Run (Traffic τ)) :
    (workerMachineSets service inNamespace r).2 = (listMachineSets service inNamespace none r).2 := by
  rw [workerMachineSets_eq]

/-- Without a worker set nothing is planned, and nothing more is asked. -/
theorem planTestSet_of_error {e : ClusterError}
    (h : workerMachineSets service inNamespace r = (.error e, r₁)) :
    planTestSet service inNamespace replicas run r = (.error e, r₁) := by
  simp only [planTestSet, bind, StateT.bind, h]
  rfl

/-- With one the cluster is asked for its name. -/
theorem planTestSet_of_ok {worker : MachineSet} {rest : List MachineSet}
    (h : workerMachineSets service inNamespace r = (.ok (worker :: rest), r₁)) :
    planTestSet service inNamespace replicas run r =
      (((infrastructureName service r₁).1.mapError .infrastructure).map
        fun cluster => .ofWorker worker cluster replicas run, (infrastructureName service r₁).2) := by
  simp only [planTestSet, bind, StateT.bind, h]
  rcases infrastructureName service r₁ with ⟨_ | cluster, r₂⟩
  · rfl
  · rfl

/-- **A plan is made after a worker set.** -/
theorem exists_of_planTestSet {t : TestSet}
    (h : (planTestSet service inNamespace replicas run r).1 = .ok t) :
    ∃ worker rest cluster, (workerMachineSets service inNamespace r).1 = .ok (worker :: rest) ∧
      t = .ofWorker worker cluster replicas run := by
  rcases hws : workerMachineSets service inNamespace r with ⟨e | ⟨_ | ⟨worker, rest⟩⟩, r₁⟩
  · rw [planTestSet_of_error hws] at h
    cases h
  · exact absurd (congrArg Prod.fst hws) workerMachineSets_ne_nil
  · rw [planTestSet_of_ok hws] at h
    cases hname : (infrastructureName service r₁).1 with
    | error e =>
      rw [hname] at h
      cases h
    | ok cluster =>
      rw [hname] at h
      cases h
      exact ⟨worker, rest, cluster, rfl, rfl⟩

end Planning

/-! ### What tests leave behind -/

/-- **The description is one of a test's:** a plan for any cluster and run, or an alternative of such a
description. -/
inductive Derived : TestSet → Prop
  | planned {τ : Type} {service : Service τ} {inNamespace run : String} {replicas : Int}
      {r : Run (Traffic τ)} {t : TestSet}
      (h : (planTestSet service inNamespace replicas run r).1 = .ok t) : Derived t
  | alternative {x t : TestSet} {p : Provider} {ts : List TestSet} (hx : Derived x)
      (h : x.alternatives p = .ok ts) (ht : t ∈ ts) : Derived t

/-- **The set is one that a test made.** What the cluster says about it, its name for one, may be
anything. -/
def LeftOver (x : MachineSet) : Prop :=
  ∃ t inNamespace, Derived t ∧ x.spec = (t.toMachineSet inNamespace).spec

/-- **The second list is the first with left-over sets among them,** wherever they are. -/
inductive Littered : List MachineSet → List MachineSet → Prop
  | nil : Littered [] []
  | keep (x : MachineSet) {L L' : List MachineSet} (h : Littered L L') : Littered (x :: L) (x :: L')
  | leftOver {x : MachineSet} {L L' : List MachineSet} (hx : LeftOver x) (h : Littered L L') :
      Littered L (x :: L')

/-- A test's description has no label for a role. -/
theorem Derived.get?_machineRoleLabel {t : TestSet} (h : Derived t) :
    t.labels.get? machineRoleLabel = none := by
  induction h with
  | planned h =>
    obtain ⟨worker, _, cluster, -, rfl⟩ := exists_of_planTestSet h
    rw [← Option.not_isSome_iff_eq_none]
    intro hsome
    have hmem := (Dictionary.isSome_get?_ofList _).mp hsome
    revert hmem
    simp [runLabel, clusterLabel, machineRoleLabel]
  | alternative _ h ht ih =>
    obtain ⟨s, hs⟩ := TestSet.exists_of_mem_alternatives h ht
    obtain ⟨spec, -, rfl⟩ := TestSet.withInstanceType_eq_ok_iff.mp hs
    exact ih

theorem LeftOver.isWorker_eq_false {x : MachineSet} (h : LeftOver x) : x.isWorker = false := by
  obtain ⟨t, inNamespace, ht, hspec⟩ := h
  have hlabels : x.templateLabels = t.labels := by
    rw [MachineSet.templateLabels, hspec]
    rfl
  rw [MachineSet.isWorker, hlabels, ht.get?_machineRoleLabel]
  rfl

/-- **Left-over sets are not chosen.** -/
theorem filter_isWorker_of_littered {L L' : List MachineSet} (h : Littered L L') :
    L'.filter MachineSet.isWorker = L.filter MachineSet.isWorker := by
  induction h with
  | nil => rfl
  | keep x _ ih => rw [List.filter_cons, List.filter_cons, ih]
  | leftOver hx _ ih => rw [List.filter_cons, hx.isWorker_eq_false, ih]; rfl

/-! ### Two runs -/

/-- **The two descriptions are after one model:** they may differ in the number of machines and in the
identifier of the run. -/
structure SameModel (t t' : TestSet) : Prop where
  name : t'.name = t.name
  taints : t'.taints = t.taints
  providerSpec : t'.providerSpec = t.providerSpec
  cluster : t'.labels.get? clusterLabel = t.labels.get? clusterLabel

/-- **Two plans come to the same:** both fail in the same way, or both are after one model. -/
inductive SamePlan : Except ClusterError TestSet → Except ClusterError TestSet → Prop
  | failed (e : ClusterError) : SamePlan (.error e) (.error e)
  | planned {t t' : TestSet} (h : SameModel t t') : SamePlan (.ok t) (.ok t')

/-- **The description is a copy of the worker set** for a cluster and a run: what the provider needs to know
and the label of the cluster are the worker set's, the name is the cluster's, the taint keeps ordinary work
off, and no other label than the identifier of the run is added. -/
structure CopiesWorker (worker : MachineSet) (cluster : String) (replicas : Int) (run : String)
    (t : TestSet) : Prop where
  name : t.name = cluster
  replicas : t.replicas = replicas
  providerSpec : t.providerSpec = worker.spec.template.spec.providerSpec
  taints : t.taints = [{ key := testTaint, effect := "PreferNoSchedule" }]
  clusterLabelled : t.labels.get? clusterLabel =
    some ((worker.templateLabels.get? clusterLabel).getD "")
  runLabelled : t.labels.get? runLabel = some run
  unlabelled : ∀ key, key ≠ clusterLabel → key ≠ runLabel → t.labels.get? key = none

theorem get?_labels_ofWorker (worker : MachineSet) (cluster : String) (replicas : Int)
    (run key : String) : (TestSet.ofWorker worker cluster replicas run).labels.get? key =
      if clusterLabel = key then some ((worker.templateLabels.get? clusterLabel).getD "")
      else if runLabel = key then some run else none := by
  have hlabels : (TestSet.ofWorker worker cluster replicas run).labels =
      (Dictionary.empty.insert runLabel run).insert clusterLabel
        ((worker.templateLabels.get? clusterLabel).getD "") := rfl
  rw [hlabels, Dictionary.get?_insert, Dictionary.get?_insert]
  rfl

theorem copiesWorker_ofWorker (worker : MachineSet) (cluster : String) (replicas : Int) (run : String) :
    CopiesWorker worker cluster replicas run (.ofWorker worker cluster replicas run) where
  name := rfl
  replicas := rfl
  providerSpec := rfl
  taints := rfl
  clusterLabelled := by rw [get?_labels_ofWorker, if_pos rfl]
  runLabelled := by
    have hne : clusterLabel ≠ runLabel := by decide
    rw [get?_labels_ofWorker, if_neg hne, if_pos rfl]
  unlabelled key hcluster hrun := by
    rw [get?_labels_ofWorker, if_neg hcluster.symm, if_neg hrun.symm]

theorem CopiesWorker.sameModel {worker : MachineSet} {cluster run run' : String}
    {replicas replicas' : Int} {t t' : TestSet} (h : CopiesWorker worker cluster replicas run t)
    (h' : CopiesWorker worker cluster replicas' run' t') : SameModel t t' where
  name := h'.name.trans h.name.symm
  taints := h'.taints.trans h.taints.symm
  providerSpec := h'.providerSpec.trans h.providerSpec.symm
  cluster := h'.clusterLabelled.trans h.clusterLabelled.symm

/-- **The worker sets are chosen from those that are listed.** They are the sets whose machines are
labelled as workers, in the order of the list (`chosen`), and there is none exactly if no set is such a
one (`missing`). Then nothing is planned and only the sets were asked for (`unasked`); else the cluster
was asked for its name too, and the plan is a copy of the first worker set for the cluster of that name
(`asked`). -/
structure ChoosesWorkers (service : Service τ) (inNamespace : String) (r : Run (Traffic τ)) : Prop where
  chosen : ∀ L ws, (listMachineSets service inNamespace none r).1 = .ok L →
    ((workerMachineSets service inNamespace r).1 = .ok ws ↔ ws ≠ [] ∧
      ws = L.filter fun x => x.templateLabels.get? machineRoleLabel = some "worker")
  missing : ∀ L e, (listMachineSets service inNamespace none r).1 = .ok L →
    ((workerMachineSets service inNamespace r).1 = .error e ↔ e = .noWorkerSets inNamespace ∧
      ∀ x ∈ L, x.templateLabels.get? machineRoleLabel ≠ some "worker")
  unasked : ∀ e replicas run, (workerMachineSets service inNamespace r).1 = .error e →
    (planTestSet service inNamespace replicas run r).1 = .error e ∧
      Asked r (planTestSet service inNamespace replicas run r).2 [setsRequest inNamespace]
  asked : ∀ worker rest replicas run,
    (workerMachineSets service inNamespace r).1 = .ok (worker :: rest) →
    (∀ cluster, (infrastructureName service (workerMachineSets service inNamespace r).2).1 =
        .ok cluster → ∃ t, (planTestSet service inNamespace replicas run r).1 = .ok t ∧
          CopiesWorker worker cluster replicas run t) ∧
      (∀ e, (infrastructureName service (workerMachineSets service inNamespace r).2).1 = .error e →
        (planTestSet service inNamespace replicas run r).1 = .error (.infrastructure e)) ∧
      Asked r (planTestSet service inNamespace replicas run r).2
        [setsRequest inNamespace, infrastructureRequest]

theorem choosesWorkers (service : Service τ) (inNamespace : String) (r : Run (Traffic τ)) :
    ChoosesWorkers service inNamespace r where
  chosen L ws h := by
    rw [workerMachineSets_of_listed h, chooseWorkers_eq_ok_iff, funext MachineSet.isWorker_eq]
  missing L e h := by
    rw [workerMachineSets_of_listed h, chooseWorkers_eq_error_iff, List.filter_eq_nil_iff,
      funext MachineSet.isWorker_eq]
    simp only [decide_eq_true_eq]
  unasked e replicas run h := by
    have hasked := asked_listMachineSets service inNamespace r
    rw [← workerMachineSets_snd] at hasked
    rcases hws : workerMachineSets service inNamespace r with ⟨answer, r₁⟩
    rw [hws] at h hasked
    obtain rfl : answer = .error e := h
    rw [planTestSet_of_error hws]
    exact ⟨rfl, hasked⟩
  asked worker rest replicas run h := by
    have hasked := asked_listMachineSets service inNamespace r
    rw [← workerMachineSets_snd] at hasked
    rcases hws : workerMachineSets service inNamespace r with ⟨answer, r₁⟩
    rw [hws] at h hasked
    obtain rfl : answer = .ok (worker :: rest) := h
    rw [planTestSet_of_ok hws]
    refine ⟨fun cluster hcluster => ?_, fun e he => ?_, ?_⟩
    · exact ⟨_, by rw [hcluster]; rfl, copiesWorker_ofWorker worker cluster replicas run⟩
    · rw [he]
      rfl
    · exact hasked.trans (asked_infrastructureName service r₁)

/-- **Left-over sets change nothing.** Of two runs that are given a list of sets, one of them with sets
among it that tests left behind, both find the same worker sets (`workers`), and if the cluster gives
both the same name, or the same failure, their plans come to the same (`plans`). -/
structure IgnoresLeftOvers (service : Service τ) (service' : Service τ') (inNamespace : String)
    (r : Run (Traffic τ)) (r' : Run (Traffic τ')) : Prop where
  workers : ∀ L L', (listMachineSets service inNamespace none r).1 = .ok L →
    (listMachineSets service' inNamespace none r').1 = .ok L' → Littered L L' →
    (workerMachineSets service' inNamespace r').1 = (workerMachineSets service inNamespace r).1
  plans : ∀ L L' replicas replicas' run run', (listMachineSets service inNamespace none r).1 = .ok L →
    (listMachineSets service' inNamespace none r').1 = .ok L' → Littered L L' →
    (infrastructureName service' (listMachineSets service' inNamespace none r').2).1 =
      (infrastructureName service (listMachineSets service inNamespace none r).2).1 →
    SamePlan (planTestSet service inNamespace replicas run r).1
      (planTestSet service' inNamespace replicas' run' r').1

theorem workerMachineSets_of_littered {service : Service τ} {service' : Service τ'}
    {inNamespace : String} {r : Run (Traffic τ)} {r' : Run (Traffic τ')} {L L' : List MachineSet}
    (hL : (listMachineSets service inNamespace none r).1 = .ok L)
    (hL' : (listMachineSets service' inNamespace none r').1 = .ok L') (h : Littered L L') :
    (workerMachineSets service' inNamespace r').1 = (workerMachineSets service inNamespace r).1 := by
  rw [workerMachineSets_of_listed hL, workerMachineSets_of_listed hL', chooseWorkers, chooseWorkers,
    filter_isWorker_of_littered h]

theorem ignoresLeftOvers (service : Service τ) (service' : Service τ') (inNamespace : String)
    (r : Run (Traffic τ)) (r' : Run (Traffic τ')) :
    IgnoresLeftOvers service service' inNamespace r r' where
  workers L L' hL hL' h := workerMachineSets_of_littered hL hL' h
  plans L L' replicas replicas' run run' hL hL' h hname := by
    have hsame := workerMachineSets_of_littered hL hL' h
    rw [← workerMachineSets_snd, ← workerMachineSets_snd] at hname
    rcases hws : workerMachineSets service inNamespace r with ⟨answer, r₁⟩
    rcases hws' : workerMachineSets service' inNamespace r' with ⟨answer', r₁'⟩
    rw [hws, hws'] at hsame hname
    obtain rfl : answer = answer' := hsame.symm
    match answer, hws, hws' with
    | .error e, hws, hws' =>
      rw [planTestSet_of_error hws, planTestSet_of_error hws']
      exact .failed e
    | .ok [], hws, _ => exact absurd (congrArg Prod.fst hws) workerMachineSets_ne_nil
    | .ok (worker :: rest), hws, hws' =>
      have hname : (infrastructureName service' r₁').1 = (infrastructureName service r₁).1 := hname
      rw [planTestSet_of_ok hws, planTestSet_of_ok hws', hname]
      cases (infrastructureName service r₁).1 with
      | error e => exact .failed _
      | ok cluster =>
        have hcopy := copiesWorker_ofWorker worker cluster
        exact .planned ((hcopy replicas run).sameModel (hcopy replicas' run'))

/-- **The sets that tests leave behind are no models for other tests.** -/
theorem left_overs_are_no_models (service : Service τ) (service' : Service τ') (inNamespace : String)
    (r : Run (Traffic τ)) (r' : Run (Traffic τ')) : ChoosesWorkers service inNamespace r ∧
      IgnoresLeftOvers service service' inNamespace r r' :=
  ⟨choosesWorkers service inNamespace r, ignoresLeftOvers service service' inNamespace r r'⟩

/-- A set of an earlier test stands before the only worker set, and the plan is after the worker set. -/
example :
    let worker : MachineSet := { spec := { template := {
      metadata := { labels := .ofList [(machineRoleLabel, "worker"), (clusterLabel, "c")] }
      spec := { providerSpec := ⟨some (.obj [("zone", .str "2")])⟩ } } } }
    let service (sets : List MachineSet) : Service Unit := ⟨fun request _ =>
      (⟨0, .response 200 ⟨"", match request with
        | .list .. => some (.obj [("items", .arr (sets.map MachineSet.encode)), ("metadata", .obj [])])
        | _ => some (Infrastructure.encode { status := some { infrastructureName := "c-1" } })⟩⟩, ())⟩
    let plan sets run := (planTestSet (service sets) "ns" 1 run ⟨.start, 0, ⟨(), []⟩⟩).1
    plan [worker] "a" = .ok (.ofWorker worker "c-1" 1 "a") ∧
      plan [(TestSet.ofWorker worker "c-1" 1 "a").toMachineSet "ns", worker] "b" =
        .ok (.ofWorker worker "c-1" 1 "b") ∧
      plan [(TestSet.ofWorker worker "c-1" 1 "a").toMachineSet "ns"] "b" =
        .error (.noWorkerSets "ns") := by
  decide +kernel

end ClusterWait
