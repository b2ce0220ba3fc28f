import ClusterWait.Proofs.Cluster.Classification
import ClusterWait.Proofs.Cluster.Readiness
import ClusterWait.Proofs.Cluster.Removal
import ClusterWait.Proofs.Cluster.RetryingWaits
import ClusterWait.Proofs.Wait.Bounds

/-! # Waits keep to their bounds and to those of the caller

An attempt is *in bounds* (`InBounds`) when it begins before the bound of its wait, before the caller's
deadline and before every cancel of the caller's context or of one above it. `Poll.KeepsBounds` says of
a wait with a bound that all its attempts are, that it is over by then or with its last attempt, and
that it asks for nothing when the caller's context has ended before. It holds of every wait with a
bound, whatever its attempts take (`Poll.keepsBounds`).

The waits for machine sets differ in where the bound counts from. `OpensWithin` is a wait that first
asks for the set, whatever the bounds, and counts from the answer. The removal of sets takes phases, and
each of them counts from its own beginning (`Phase.keepsBounds`).

`waits_keep_bounds` puts this together. -/

namespace ClusterWait

/-! ### Waits with a bound -/

section Bound
variable {σ α β ε : Type}

/-- **An attempt that begins at this instant is in bounds:** it begins before the limit of its wait,
before the caller's deadline, and before every cancel of the caller's context or of one above it. -/
structure InBounds (caller : Context) (limit : Nat) (l : Timeline) : Prop where
  before_limit : l.now < limit
  before_deadline : ∀ d, caller.deadline = some d → l.now < d
  before_cancels : ∀ x ∈ l.cancels, x.token.covers caller.token = true → l.now < x.instant

/-- **A wait with a bound keeps to it,** when it is begun in a run by a caller. What comes of it is told
in other words, a failed wait in the given ones. -/
structure Poll.KeepsBounds (p : Poll) (caller : Context) (attempt : Context → Act σ (Attempt α))
    (r : Run σ) (bound : Nat) (tell : Except WaitError α → Except ε β) (fail : WaitError → ε)
    (outcome : Option (Except ε β × Run σ)) : Prop where
  /-- It makes attempts until one succeeds. -/
  polls : outcome = (p.untilDone caller attempt r).map fun x => (tell x.1, x.2)
  /-- Every attempt that is made is in bounds, also with a view to the cancels known from the
  beginning. -/
  begins : ∀ k, (Course.of p caller attempt r).Started k →
    InBounds caller (r.time.now + bound) ((Course.of p caller attempt r).before k).time ∧
      r.time.Precedes ((Course.of p caller attempt r).before k).time
  /-- When the wait ends, these are the attempts that were made, and no instant passed after the last
  of them but up to the bound and to the caller's deadline. -/
  ends : ∀ result left, p.untilDone caller attempt r = some (result, left) → ∃ n,
    (∀ k, (Course.of p caller attempt r).Started k ↔ k < n) ∧
    p.untilDone caller (recorded attempt) (r.withLog []) =
      some (result, left.withLog ((Course.of p caller attempt r).made n)) ∧
    left.time.now ≤ max (r.time.now + bound)
      (Made.closing r.time.now ((Course.of p caller attempt r).made n)) ∧
    ∀ d, caller.deadline = some d →
      left.time.now ≤ max d (Made.closing r.time.now ((Course.of p caller attempt r).made n))
  /-- If the caller's context has ended before, the wait fails at once, without any attempt. -/
  dead : r.time.ended caller = true → ∃ why left,
    outcome = some (.error (fail (.ofCancellation why 0 none)), left) ∧
      left.world = r.world ∧ left.time.now = r.time.now ∧ left.time.cancels = r.time.cancels

variable {p : Poll} {caller : Context} {attempt : Context → Act σ (Attempt α)} {r : Run σ}
  {bound : Nat}

/-- **Attempts that are made are in bounds.** -/
theorem inBounds_of_started (ht : p.timeout = some bound) {k : Nat}
    (hs : (Course.of p caller attempt r).Started k) :
    InBounds caller (r.time.now + bound) ((Course.of p caller attempt r).before k).time := by
  obtain ⟨hcancelled, -, hdeadline, hbound⟩ := (Poll.err_scope_eq_none_iff p caller r _).mp hs.live
  refine ⟨hbound bound ht, hdeadline, fun x hx hcovers => ?_⟩
  by_contra hlate
  have h := Timeline.cancelledAt_iff.mpr ⟨x, hx, Nat.not_lt.mp hlate, hcovers⟩
  rw [hcancelled] at h
  cases h

variable (caller r) in
/-- The context of the attempts ends at the bound or before, and not after the caller's deadline. -/
theorem Poll.exists_scope_deadline (ht : p.timeout = some bound) :
    ∃ d, (p.scope caller r).1.deadline = some d ∧ d ≤ r.time.now + bound ∧
      ∀ d', caller.deadline = some d' → d ≤ d' := by
  rw [scope_deadline, ht]
  cases hd : caller.deadline with
  | none => exact ⟨_, rfl, le_rfl, nofun⟩
  | some d' =>
    refine ⟨_, rfl, min_le_right _ _, ?_⟩
    rintro _ ⟨⟩
    exact min_le_left _ _

/-- What has ended for the caller has ended for the attempts. -/
theorem Poll.ended_scope (h : r.time.ended caller = true) :
    (p.scope caller r).2.time.ended (p.scope caller r).1 = true := by
  obtain ⟨hnow, hcancels, -, -⟩ := scope_opening p caller r
  by_contra hlive
  have hnone := Timeline.ended_eq_false_iff.mp (Bool.eq_false_iff.mpr hlive)
  obtain ⟨hcancelled, -, hdeadline, -⟩ := (err_scope_eq_none_iff p caller r _).mp hnone
  rw [hnow] at hcancelled hdeadline
  have hsame : r.time.err caller = none :=
    Timeline.err_eq_none_iff.mpr ⟨by rw [← hcancelled, Timeline.cancelledAt,
      Timeline.cancelledAt, hcancels], hdeadline⟩
  rw [Timeline.ended, hsame] at h
  cases h

/-- **A wait with a bound keeps to it and to those of the caller,** whatever its attempts take. -/
theorem Poll.keepsBounds (ht : p.timeout = some bound) (hkeep : ∀ c, (attempt c).KeepsTime)
    (tell : Except WaitError α → Except ε β) {fail : WaitError → ε}
    (htell : ∀ why, tell (.error (.ofCancellation why 0 none)) =
      .error (fail (.ofCancellation why 0 none))) :
    p.KeepsBounds caller attempt r bound tell fail
      ((p.untilDone caller attempt r).map fun x => (tell x.1, x.2)) := by
  obtain ⟨hnow, hcancels, hworld, -⟩ := scope_opening p caller r
  have hopening : r.time.Precedes (Course.of p caller attempt r).opening.time :=
    ⟨hnow.ge, fun x hx => by rw [show (Course.of p caller attempt r).opening.time.cancels =
      r.time.cancels from hcancels]; exact hx⟩
  refine ⟨rfl, fun k hs => ⟨inBounds_of_started ht hs, hopening.trans
    (opening_precedes_before (hkeep _) k).1⟩, fun result left h => ?_, fun hdead => ?_⟩
  · rw [untilDone_eq_run, Course.run_eq_some_iff] at h
    obtain ⟨hb, n, he⟩ := h
    obtain ⟨d, hd, hbound, hcaller⟩ := exists_scope_deadline caller r ht
    have hle := he.now_le hd
    have hstart : (Course.of p caller attempt r).opening.time.now = r.time.now := hnow
    rw [hstart] at hle
    exact ⟨n, he.started_iff, untilDone_recorded he hb, hle.trans (max_le_max_right _ hbound),
      fun d' hd' => hle.trans (max_le_max_right _ (hcaller d' hd'))⟩
  · obtain ⟨why, hwhy⟩ := Option.isSome_iff_exists.mp (ended_scope (p := p) hdead)
    have hends : (Course.of p caller attempt r).Ends 0 (.error (.ofCancellation why 0 none))
      (p.scope caller r).2 := .atOnce hwhy
    refine ⟨why, _, ?_, hworld, hnow, hcancels⟩
    rw [untilDone_eq_run, Course.run_of_ends hends (hends.not_goesOn Course.granted_pos),
      Option.map_some, htell]

end Bound

/-! ### Waits that first ask for a machine set -/

section Sets
variable {τ α : Type} {service : Service τ} {inNamespace name : String} {caller : Context}
  {r opened : Run (Traffic τ)} {set : MachineSet}

/-- **A wait that first asks for a machine set,** with one request, and begins when it was found. -/
structure OpensWithin (service : Service τ) (inNamespace name : String) (caller : Context)
    (r : Run (Traffic τ)) (p : Poll) (bound : Nat)
    (attempt : MachineSet → Context → Act (Traffic τ) (Attempt α))
    (tell : Except WaitError α → Except ClusterError Unit)
    (outcome : Option (Except ClusterError Unit × Run (Traffic τ))) : Prop where
  asked : Asked r (getMachineSet service inNamespace name r).2 [setRequest inNamespace name]
  /-- A set that cannot be had ends the wait, with nothing else asked. -/
  refused : ∀ e left, getMachineSet service inNamespace name r = (.error e, left) →
    outcome = some (.error (.request e), left)
  /-- The bound counts from the answer. -/
  found : ∀ set opened, getMachineSet service inNamespace name r = (.ok set, opened) →
    p.KeepsBounds caller (attempt set) opened bound tell .wait outcome
  /-- If the caller's context has ended before, nothing but the set is asked for. -/
  dead : r.time.ended caller = true →
    ∀ set opened, getMachineSet service inNamespace name r = (.ok set, opened) → ∃ why left,
      outcome = some (.error (.wait (.ofCancellation why 0 none)), left) ∧
      Asked r left [setRequest inNamespace name]

theorem asked_getMachineSet (service : Service τ) (inNamespace name : String)
    (r : Run (Traffic τ)) :
    Asked r (getMachineSet service inNamespace name r).2 [setRequest inNamespace name] :=
  asked_ask service (setRequest inNamespace name) _ r

theorem opensWithin {p : Poll} {bound : Nat}
    {attempt : MachineSet → Context → Act (Traffic τ) (Attempt α)}
    {tell : Except WaitError α → Except ClusterError Unit}
    {outcome : Option (Except ClusterError Unit × Run (Traffic τ))} (ht : p.timeout = some bound)
    (hkeep : ∀ set c, (attempt set c).KeepsTime)
    (htell : ∀ why, tell (.error (.ofCancellation why 0 none)) =
      .error (.wait (.ofCancellation why 0 none)))
    (hrefused : ∀ e left, getMachineSet service inNamespace name r = (.error e, left) →
      outcome = some (.error (.request e), left))
    (hfound : ∀ set opened, getMachineSet service inNamespace name r = (.ok set, opened) →
      outcome = (p.untilDone caller (attempt set) opened).map fun x => (tell x.1, x.2)) :
    OpensWithin service inNamespace name caller r p bound attempt tell outcome := by
  have hopens (set : MachineSet) (opened : Run (Traffic τ))
      (h : getMachineSet service inNamespace name r = (.ok set, opened)) :
      p.KeepsBounds caller (attempt set) opened bound tell .wait outcome := by
    rw [hfound set opened h]
    exact Poll.keepsBounds ht (hkeep set) tell htell
  have hasked := asked_getMachineSet service inNamespace name r
  refine ⟨hasked, hrefused, hopens, fun hdead set opened h => ?_⟩
  rw [h] at hasked
  obtain ⟨why, left, hout, hworld, hnow, hcancels⟩ :=
    (hopens set opened h).dead (hasked.time.ended hdead)
  have hnothing : Asked opened left [] :=
    ⟨congrArg (fun t => t.sent.map (·.request)) hworld, hnow.ge, fun x hx => hcancels.symm ▸ hx⟩
  exact ⟨why, left, hout, hasked.trans hnothing⟩

theorem keepsTime_machineAttempt (set : MachineSet) (c : Context) :
    (checkThenCondition (noneFailed service set) (allReady service set) c).KeepsTime := fun run =>
  let w : Course (Traffic τ) Unit :=
    ⟨0, c, checkThenCondition (noneFailed service set) (allReady service set), run⟩
  (keepsTime_of_machines rfl : (w.attempt w.context).KeepsTime) run

theorem opensWithin_awaitMachineSet (service : Service τ) (timeouts : Timeouts)
    (inNamespace name : String) (caller : Context) (r : Run (Traffic τ)) :
    OpensWithin service inNamespace name caller r
      ⟨timeouts.retryMedium, some timeouts.waitOverLong⟩ timeouts.waitOverLong
      (fun set => checkThenCondition (noneFailed service set) (allReady service set))
      (Except.mapError ClusterError.ofWait)
      (awaitMachineSet service timeouts inNamespace name caller r) :=
  opensWithin rfl keepsTime_machineAttempt
    (fun why => by cases why <;> rfl) (fun _ _ => awaitMachineSet_of_refused)
    fun _ _ h => awaitMachineSet_of_found h

theorem opensWithin_awaitSpotMachineSet (service : Service τ) (timeouts : Timeouts)
    (provider : Provider) (inNamespace name : String) (caller : Context) (r : Run (Traffic τ)) :
    OpensWithin service inNamespace name caller r
      ⟨timeouts.retryMedium, some timeouts.waitLong⟩ timeouts.waitLong
      (fun set _ => spotAttempt service provider set name) spotResult
      (awaitSpotMachineSet service timeouts provider inNamespace name caller r) :=
  opensWithin rfl (fun set _ => keepsTime_spotAttempt service provider set name) (fun _ => rfl)
    (fun _ _ => awaitSpotMachineSet_of_refused) fun _ _ h => awaitSpotMachineSet_of_found h

end Sets

/-! ### Waits for the cluster -/

section Polls
variable {τ : Type} {service : Service τ} {timeouts : Timeouts} {caller : Context}
  {r : Run (Traffic τ)}

/-- **A wait with a bound** that tells its result as it is. -/
theorem keepsBounds_of_follows {attempt : Act (Traffic τ) (Attempt Unit)} {way : Ways τ}
    (hf : Follows attempt way) (interval bound : Nat) (caller : Context) (r : Run (Traffic τ)) :
    Poll.KeepsBounds ⟨interval, some bound⟩ caller (fun _ => attempt) r bound id id
      (Poll.untilDone ⟨interval, some bound⟩ caller (fun _ => attempt) r) := by
  have h : Poll.KeepsBounds ⟨interval, some bound⟩ caller (fun _ => attempt) r bound id id
      ((Poll.untilDone ⟨interval, some bound⟩ caller (fun _ => attempt) r).map id) :=
    Poll.keepsBounds rfl (fun _ => hf.keepsTime) id fun _ => rfl
  rwa [Option.map_id] at h

/-- The bound of a phase. -/
def Phase.bound (timeouts : Timeouts) : Phase → Nat
  | .begun _ => timeouts.waitShort
  | .drained _ => timeouts.waitLong

theorem Phase.keepsBounds (phase : Phase) (service : Service τ) (timeouts : Timeouts)
    (caller : Context) (mid : Run (Traffic τ)) : (phase.poll timeouts).KeepsBounds caller
      (fun _ => phase.attempt service) mid (phase.bound timeouts) id id
      (phase.await service timeouts caller mid) := by
  cases phase with
  | begun set => exact keepsBounds_of_follows (follows (.begun set)) _ _ caller mid
  | drained set => exact keepsBounds_of_follows (follows (.drained set)) _ _ caller mid

/-- **The wait for sets fails at once** if the caller's context has ended before, and there is a set to
wait for. -/
theorem awaitMachineSetsGone_dead (sets : List MachineSet) (hsets : sets ≠ [])
    (hdead : r.time.ended caller = true) : ∃ why left,
      awaitMachineSetsGone service timeouts caller sets r =
        some (.error (.ofCancellation why 0 none), left) ∧ left.world = r.world := by
  obtain ⟨set, rest, rfl⟩ := List.exists_cons_of_ne_nil hsets
  obtain ⟨why, left, hfirst, hworld, -⟩ :=
    ((Phase.begun set).keepsBounds service timeouts caller r).dead hdead
  refine ⟨why, left, ?_, hworld⟩
  have hphases : phases (set :: rest) = .begun set :: .drained set :: phases rest := rfl
  rw [awaitMachineSetsGone_eq, hphases, awaitPhases_cons, hfirst]
  rfl

end Polls

/-! ### The main result -/

/-- **The waits keep to their bounds and to those of the caller,** when they are begun in a run. -/
structure WaitsKeepBounds {τ : Type} (service : Service τ) (timeouts : Timeouts) (caller : Context)
    (r : Run (Traffic τ)) : Prop where
  machineSet : ∀ inNamespace name, OpensWithin service inNamespace name caller r
    ⟨timeouts.retryMedium, some timeouts.waitOverLong⟩ timeouts.waitOverLong
    (fun set => checkThenCondition (noneFailed service set) (allReady service set))
    (Except.mapError ClusterError.ofWait)
    (awaitMachineSet service timeouts inNamespace name caller r)
  spotMachineSet : ∀ provider inNamespace name, OpensWithin service inNamespace name caller r
    ⟨timeouts.retryMedium, some timeouts.waitLong⟩ timeouts.waitLong
    (fun set _ => spotAttempt service provider set name) spotResult
    (awaitSpotMachineSet service timeouts provider inNamespace name caller r)
  machinesGone : ∀ machines, Poll.KeepsBounds ⟨timeouts.retryMedium, some timeouts.waitLong⟩ caller
    (fun _ => sweepMachines service machines) r timeouts.waitLong id id
    (awaitMachinesGone service timeouts machines caller r)
  nodesReady : Poll.KeepsBounds ⟨timeouts.retryMedium, some timeouts.nodesReady⟩ caller
    (fun _ => do pure (judgeNodes (← listNodes service ""))) r timeouts.nodesReady id id
    (awaitNodesReady service timeouts caller r)
  nodeGone : ∀ name, Poll.KeepsBounds ⟨timeouts.retryMedium, some timeouts.waitLong⟩ caller
    (fun _ => do pure (judgeNodeGone name (← Node.api.find service name))) r timeouts.waitLong id id
    (awaitNodeGone service timeouts name caller r)
  operator : ∀ timeout name, Poll.KeepsBounds ⟨timeouts.retryMedium, some timeout⟩ caller
    (fun _ => do pure (judgeOperator name (← ClusterOperator.api.get service name))) r timeout id id
    (awaitOperator service timeouts timeout name caller r)
  event : ∀ kind name reason, Poll.KeepsBounds ⟨timeouts.retryMedium, some timeouts.waitMedium⟩
    caller (fun _ => do pure (judgeEvents kind name reason (← Event.api.list service none))) r
    timeouts.waitMedium id id (awaitEvent service timeouts kind name reason caller r)
  /-- The removal of sets takes two phases for each of them, one after the other, -/
  phases : ∀ sets, awaitMachineSetsGone service timeouts caller sets r =
    awaitPhases service timeouts caller (phases sets) r
  /-- and each of them has its bound afresh, from the run in which it begins. -/
  phase : ∀ (phase : Phase) (mid : Run (Traffic τ)), (phase.poll timeouts).KeepsBounds caller
    (fun _ => phase.attempt service) mid (phase.bound timeouts) id id
    (phase.await service timeouts caller mid)
  /-- If the caller's context has ended before and there is a set, nothing is asked for. -/
  machineSetsGone_dead : ∀ sets, sets ≠ [] → r.time.ended caller = true → ∃ why left,
    awaitMachineSetsGone service timeouts caller sets r =
      some (.error (.ofCancellation why 0 none), left) ∧ left.world = r.world

/-- **The waits keep to their bounds and to those of the caller,** for every service, every context and
every run. -/
theorem waits_keep_bounds {τ : Type} (service : Service τ) (timeouts : Timeouts) (caller : Context)
    (r : Run (Traffic τ)) : WaitsKeepBounds service timeouts caller r where
  machineSet inNamespace name :=
    opensWithin_awaitMachineSet service timeouts inNamespace name caller r
  spotMachineSet provider inNamespace name :=
    opensWithin_awaitSpotMachineSet service timeouts provider inNamespace name caller r
  machinesGone machines := keepsBounds_of_follows (follows_sweep machines) _ _ caller r
  nodesReady := keepsBounds_of_follows (follows_answered judges_nodes fun r =>
    bind_list Node.api service (some "") judgeNodes r) _ _ caller r
  nodeGone name := keepsBounds_of_follows
    (follows_answered (judges_nodeGone name) fun _ => rfl) _ _ caller r
  operator _ name := keepsBounds_of_follows
    (follows_answered (judges_operator name) fun _ => rfl) _ _ caller r
  event kind name reason := keepsBounds_of_follows
    (follows_answered (judges_events kind name reason) fun r =>
      bind_list Event.api service none (judgeEvents kind name reason) r) _ _ caller r
  phases sets := awaitMachineSetsGone_eq sets r
  phase phase mid := phase.keepsBounds service timeouts caller mid
  machineSetsGone_dead sets := awaitMachineSetsGone_dead sets

end ClusterWait
