import ClusterWait.Cluster.Deletion
import ClusterWait.Proofs.Cluster.Persevering

/-! # Waiting until machine sets are gone

Each set takes two *phases*: the first is over when the deletion of the set has begun (`DeletionBegun`),
the second when a listing shows none of its machines and the set, asked for right after, does not exist
(`Drained`). Each phase is a wait that tries again whatever the cluster answers.

So the wait for some sets is the list of their phases, one after the other (`awaitMachineSetsGone_eq`).
`Passes` tells that phases are over one after the other, with the requests that they took, and
`exists_passes` that either all of them are or the wait is stuck in the first that is not.

`awaitMachineSetsGone_takes_phases` puts this together. -/

namespace ClusterWait

variable {τ : Type}

/-! ### The two phases of a set -/

def soughtRequest (set : MachineSet) : Request := setRequest set.namespaceAny set.nameAny

/-- The request for the machines that the selector of a set chooses. A selector that says nothing is
left out. -/
def drainRequest (set : MachineSet) : Request :=
  .list (Machine.api set.namespaceAny).collection
    ((some set.spec.selector.render).filter (· ≠ ""))

/-- **The deletion has begun:** the set does not exist, or it says when it was deleted. -/
def DeletionBegun (answer : Except RequestError MachineSet) : Prop :=
  Absent answer ∨ ∃ set, answer = .ok set ∧ set.metadata.deletionTimestamp.isSome = true

theorem judges_deletionBegun (name : String) :
    Judges (fun answer => judgeDeletionBegun name (Api.presence answer)) DeletionBegun := by
  refine ⟨fun answer h => ?_, fun answer h => ?_⟩
  · rcases h with h | ⟨set, rfl, ht⟩
    · rw [presence_of_absent h]
      rfl
    · simp only [Api.presence, judgeDeletionBegun]
      rw [if_pos ht]
  · have habsent : ¬ Absent answer := fun ha => h (.inl ha)
    rcases presence_of_not_absent habsent with ⟨set, rfl, hp⟩ | ⟨e, -, hp⟩
    · have ht : ¬ set.metadata.deletionTimestamp.isSome = true := fun ht => h (.inr ⟨set, rfl, ht⟩)
      rw [hp]
      simp only [judgeDeletionBegun]
      rw [if_neg ht]
      exact ⟨_, rfl⟩
    · rw [hp]
      exact ⟨_, rfl⟩

section Drained
variable (service : Service τ) (set : MachineSet)

/-- **The ways of an attempt of the second phase:** machines are listed, and the set is looked for only
if there are none. -/
inductive Drained : Ways τ
  | unlisted {r r' : Run (Traffic τ)} {e : RequestError} {why : String}
      (hlist : service.ask (drainRequest set) (Listing.decode Machine.decode) r = (.error e, r'))
      (hj : judgeMachinesLeft set.nameAny (.error e) = some (.retry why)) :
    Drained r [drainRequest set] (some why) r'
  | crowded {r r' : Run (Traffic τ)} {listing : Listing Machine} {why : String}
      (hlist : service.ask (drainRequest set) (Listing.decode Machine.decode) r = (.ok listing, r'))
      (h : listing.items ≠ [])
      (hj : judgeMachinesLeft set.nameAny (.ok listing.items) = some (.retry why)) :
    Drained r [drainRequest set] (some why) r'
  | kept {r r' r'' : Run (Traffic τ)} {listing : Listing Machine}
      {answer : Except RequestError MachineSet} {why : String}
      (hlist : service.ask (drainRequest set) (Listing.decode Machine.decode) r = (.ok listing, r'))
      (h : listing.items = [])
      (hask : service.ask (soughtRequest set) MachineSet.decode r' = (answer, r''))
      (hp : ¬ Absent answer) (hj : judgeSetGone set.nameAny (Api.presence answer) = .retry why) :
    Drained r [drainRequest set, soughtRequest set] (some why) r''
  | gone {r r' r'' : Run (Traffic τ)} {listing : Listing Machine}
      {answer : Except RequestError MachineSet}
      (hlist : service.ask (drainRequest set) (Listing.decode Machine.decode) r = (.ok listing, r'))
      (h : listing.items = [])
      (hask : service.ask (soughtRequest set) MachineSet.decode r' = (answer, r''))
      (hp : Absent answer) :
    Drained r [drainRequest set, soughtRequest set] none r''

variable {service set} {r r' r'' : Run (Traffic τ)}

theorem judges_setGone (name : String) :
    Judges (fun answer => judgeSetGone name (Api.presence answer)) Absent :=
  judges_absent (judgeSetGone name) rfl (fun _ => ⟨_, rfl⟩) fun _ => ⟨_, rfl⟩

theorem listMachines_of_ask {answer : Except RequestError (Listing Machine)}
    (hlist : service.ask (drainRequest set) (Listing.decode Machine.decode) r = (answer, r')) :
    listMachines service set.namespaceAny (some set.spec.selector) r =
      (answer.map Listing.items, r') := by
  have hask : service.ask (.list (Machine.api set.namespaceAny).collection
      ((some set.spec.selector.render).filter (· ≠ "")))
      (Listing.decode (Machine.api set.namespaceAny).decode) r = (answer, r') := hlist
  simp only [listMachines, Option.map_some, Api.list, bind, StateT.bind, hask]
  rfl

theorem drainAttempt_of_judged {answer : Except RequestError (Listing Machine)} {d : Attempt Unit}
    (hlist : service.ask (drainRequest set) (Listing.decode Machine.decode) r = (answer, r'))
    (hj : judgeMachinesLeft set.nameAny (answer.map Listing.items) = some d) :
    drainAttempt service set r = (d, r') := by
  have hmachines := listMachines_of_ask hlist
  simp only [drainAttempt, bind, StateT.bind, hmachines, hj]
  rfl

theorem drainAttempt_of_empty {listing : Listing Machine}
    {answer : Except RequestError MachineSet}
    (hlist : service.ask (drainRequest set) (Listing.decode Machine.decode) r = (.ok listing, r'))
    (h : listing.items = [])
    (hask : service.ask (soughtRequest set) MachineSet.decode r' = (answer, r'')) :
    drainAttempt service set r = (judgeSetGone set.nameAny (Api.presence answer), r'') := by
  have hmachines := listMachines_of_ask hlist
  have hj : judgeMachinesLeft set.nameAny ((Except.ok listing).map Listing.items) = none := by
    simp only [Except.map, judgeMachinesLeft, h, List.isEmpty_nil, if_true]
  have hfind : findMachineSet service set r' = (Api.presence answer, r'') := by
    have hget : (MachineSet.api set.namespaceAny).get service set.nameAny r' = (answer, r'') := hask
    simp only [findMachineSet, Api.find, bind, StateT.bind, hget]
    rfl
  simp only [drainAttempt, bind, StateT.bind, hmachines, hj, hfind]
  rfl

theorem follows_drained : Follows (drainAttempt service set) (Drained service set) := by
  refine ⟨fun r => ?_, fun hway => ?_, fun hway => ?_⟩
  · rcases hlist : service.ask (drainRequest set) (Listing.decode Machine.decode) r with
      ⟨e | listing, r'⟩
    · exact ⟨_, _, _, .unlisted hlist rfl⟩
    · by_cases h : listing.items = []
      · rcases hask : service.ask (soughtRequest set) MachineSet.decode r' with ⟨answer, r''⟩
        by_cases hp : Absent answer
        · exact ⟨_, _, _, .gone hlist h hask hp⟩
        · obtain ⟨why, hj⟩ := (judges_setGone set.nameAny).unmet answer hp
          exact ⟨_, _, _, .kept hlist h hask hp hj⟩
      · have hne : listing.items.isEmpty = false := by simpa using h
        have hj : judgeMachinesLeft set.nameAny (.ok listing.items) = some (.retry
            (Text.Decimal.render listing.items.length ++ " Machines still present for MachineSet "
              ++ set.nameAny)) := by
          simp only [judgeMachinesLeft, hne, Bool.false_eq_true, if_false]
        exact ⟨_, _, _, .crowded hlist h hj⟩
  · cases hway with
    | unlisted hlist hj => exact drainAttempt_of_judged hlist hj
    | crowded hlist h hj => exact drainAttempt_of_judged hlist hj
    | kept hlist h hask hp hj => rw [drainAttempt_of_empty hlist h hask, hj]; rfl
    | @gone _ _ _ _ answer hlist h hask hp =>
      have hj := (judges_setGone set.nameAny).met answer hp
      rw [drainAttempt_of_empty hlist h hask, hj]
      rfl
  · cases hway with
    | unlisted hlist => exact asked_of_ask hlist
    | crowded hlist => exact asked_of_ask hlist
    | kept hlist h hask => exact (asked_of_ask hlist).trans (asked_of_ask hask)
    | gone hlist h hask => exact (asked_of_ask hlist).trans (asked_of_ask hask)

end Drained

/-! ### Phases one after the other -/

/-- **A phase** of the removal of a set. -/
inductive Phase where
  | begun (set : MachineSet)
  | drained (set : MachineSet)

/-- The phases of some sets, in their order. -/
def phases (sets : List MachineSet) : List Phase := sets.flatMap fun set => [.begun set, .drained set]

namespace Phase
variable (service : Service τ) (timeouts : Timeouts) (c : Context)

def poll : Phase → Poll
  | .begun _ => ⟨timeouts.retryShort, some timeouts.waitShort⟩
  | .drained _ => ⟨timeouts.retryMedium, some timeouts.waitLong⟩

def attempt : Phase → Act (Traffic τ) (Attempt Unit)
  | .begun set => do pure (judgeDeletionBegun set.nameAny (← findMachineSet service set))
  | .drained set => drainAttempt service set

/-- **The ways of the attempts of a phase.** -/
def ways : Phase → Ways τ
  | .begun set => Answered service (soughtRequest set) MachineSet.decode
      (fun answer => judgeDeletionBegun set.nameAny (Api.presence answer)) DeletionBegun
  | .drained set => Drained service set

def await (phase : Phase) : Wait (Traffic τ) (Except WaitError Unit) :=
  (phase.poll timeouts).untilDone c fun _ => phase.attempt service

def course (phase : Phase) (r : Run (Traffic τ)) : Course (Traffic τ) Unit :=
  Course.of (phase.poll timeouts) c (fun _ => phase.attempt service) r

variable {service timeouts c}

theorem follows (phase : Phase) : Follows (phase.attempt service) (phase.ways service) := by
  cases phase with
  | begun set => exact follows_answered (judges_deletionBegun set.nameAny) fun _ => rfl
  | drained set => exact follows_drained

theorem perseveres (phase : Phase) (r : Run (Traffic τ)) : ∃ issued,
    Perseveres (phase.ways service) (phase.poll timeouts) c r (phase.course service timeouts c r) issued
      (phase.await service timeouts c r) := by
  cases phase with
  | begun set => exact triesAgain (follows (.begun set)) rfl c r
  | drained set => exact triesAgain (follows (.drained set)) rfl c r

end Phase

section Passes
variable (service : Service τ) (timeouts : Timeouts) (c : Context)

/-- Waits for some phases in turn. -/
def awaitPhases : List Phase → Wait (Traffic τ) (Except WaitError Unit)
  | [] => pure (.ok ())
  | phase :: rest => do
    match ← phase.await service timeouts c with
    | .error e => pure (.error e)
    | .ok () => awaitPhases rest

/-- **Phases are over one after the other:** in each of them an attempt is made, as one of those that
are granted, that finds what the phase is for. The next phase begins in the run that it leaves. -/
inductive Passes : List Phase → Run (Traffic τ) → List Request → Run (Traffic τ) → Prop
  | done {r : Run (Traffic τ)} : Passes [] r [] r
  | next {phase : Phase} {rest : List Phase} {r left : Run (Traffic τ)} {k : Nat}
      {issued : Nat → List Request} {requests : List Request}
      (hways : ∀ j, ∃ reason, phase.ways service ((phase.course service timeouts c r).before j)
        (issued j) reason ((phase.course service timeouts c r).after j))
      (hs : (phase.course service timeouts c r).Started k)
      (hk : k < (phase.course service timeouts c r).granted)
      (hmet : phase.ways service ((phase.course service timeouts c r).before k) (issued k) none
        ((phase.course service timeouts c r).after k))
      (hrest : Passes rest ((phase.course service timeouts c r).after k) requests left) :
    Passes (phase :: rest) r ((List.range (k + 1)).flatMap issued ++ requests) left

variable {service timeouts c} {r left : Run (Traffic τ)}

theorem awaitPhases_cons (phase : Phase) (rest : List Phase) (r : Run (Traffic τ)) :
    awaitPhases service timeouts c (phase :: rest) r = match phase.await service timeouts c r with
      | none => none
      | some (.error e, left) => some (.error e, left)
      | some (.ok (), left) => awaitPhases service timeouts c rest left := by
  simp only [awaitPhases, bind, StateT.bind]
  cases phase.await service timeouts c r with
  | none => rfl
  | some x =>
    rcases x with ⟨_ | _, left⟩ <;> rfl

theorem awaitPhases_append_of_ok {before : List Phase} {mid : Run (Traffic τ)} (rest : List Phase)
    (h : awaitPhases service timeouts c before r = some (.ok (), mid)) :
    awaitPhases service timeouts c (before ++ rest) r = awaitPhases service timeouts c rest mid := by
  induction before generalizing r with
  | nil =>
    cases h
    rfl
  | cons phase before ih =>
    rw [List.cons_append, awaitPhases_cons]
    rw [awaitPhases_cons] at h
    rcases hphase : phase.await service timeouts c r with _ | ⟨_ | _, left⟩ <;> rw [hphase] at h
    · cases h
    · cases h
    · exact ih h

/-- The wait for some sets takes their phases in turn. -/
theorem awaitMachineSetsGone_eq (sets : List MachineSet) (r : Run (Traffic τ)) :
    awaitMachineSetsGone service timeouts c sets r =
      awaitPhases service timeouts c (phases sets) r := by
  induction sets generalizing r with
  | nil => rfl
  | cons set rest ih =>
    have hphases : phases (set :: rest) = .begun set :: .drained set :: phases rest := rfl
    have hbegun : awaitDeletionBegun service timeouts set c r =
        (Phase.begun set).await service timeouts c r := rfl
    rw [hphases, awaitPhases_cons]
    simp only [awaitMachineSetsGone, awaitMachineSetGone, bind, StateT.bind, hbegun]
    rcases (Phase.begun set).await service timeouts c r with _ | ⟨_ | _, mid⟩
    · rfl
    · rfl
    · have hdrained : awaitDrained service timeouts set c mid =
          (Phase.drained set).await service timeouts c mid := rfl
      simp only [Option.bind_some, hdrained]
      rw [awaitPhases_cons]
      rcases (Phase.drained set).await service timeouts c mid with _ | ⟨_ | _, left⟩
      · rfl
      · rfl
      · exact ih left

/-- Phases that are over were waited for with success, -/
theorem Passes.awaitPhases_eq {steps : List Phase} {requests : List Request}
    (h : Passes service timeouts c steps r requests left) :
    awaitPhases service timeouts c steps r = some (.ok (), left) := by
  induction h with
  | done => rfl
  | @next phase rest r left k issued requests hways hs hk hmet hrest ih =>
    have hwait : phase.await service timeouts c r =
        some (.ok (), (phase.course service timeouts c r).after k) := by
      obtain ⟨issued', hp⟩ := phase.perseveres r
      exact (hp.ends_met k _ _ hs hk hmet).outcome_eq
    rw [awaitPhases_cons, hwait]
    exact ih

/-- and a phase that is waited for with success is over. -/
theorem Passes.of_await {phase : Phase} {rest : List Phase} {requests : List Request}
    {mid : Run (Traffic τ)} (h : phase.await service timeouts c r = some (.ok (), mid))
    (hrest : Passes service timeouts c rest mid requests left) :
    ∃ requests', Passes service timeouts c (phase :: rest) r requests' left := by
  obtain ⟨issued, hp⟩ := phase.perseveres r
  have hgoes : ¬ (phase.course service timeouts c r).GoesOn
      (phase.course service timeouts c r).granted := by
    intro hg
    rw [hp.endless_iff.mpr hg] at h
    cases h
  obtain ⟨k, hs, hmet⟩ := (hp.ok_iff _ _ h).mp rfl
  have hk := Course.lt_of_not_goesOn hs hgoes
  have hmid : some (Except.ok (), mid) =
      some (Except.ok (), (phase.course service timeouts c r).after k) :=
    h.symm.trans (hp.ends_met k _ _ hs hk hmet).outcome_eq
  cases hmid
  refine ⟨_, .next (fun j => ?_) hs hk hmet hrest⟩
  obtain ⟨reason, hway, -⟩ := hp.attempts j
  exact ⟨reason, hway⟩

/-- **All phases are over, or the wait is stuck in the first that is not.** -/
theorem exists_passes (steps : List Phase) (r : Run (Traffic τ)) :
    (∃ requests left, Passes service timeouts c steps r requests left) ∨
      ∃ before phase after requests mid, steps = before ++ phase :: after ∧
        Passes service timeouts c before r requests mid ∧
        ∀ left, phase.await service timeouts c mid ≠ some (.ok (), left) := by
  induction steps generalizing r with
  | nil => exact .inl ⟨_, _, .done⟩
  | cons phase rest ih =>
    by_cases hphase : ∃ mid, phase.await service timeouts c r = some (.ok (), mid)
    · obtain ⟨mid, hphase⟩ := hphase
      rcases ih mid with ⟨requests, left, hrest⟩ |
        ⟨before, stuck, after, requests, mid', rfl, hbefore, hs⟩
      · obtain ⟨requests', h⟩ := Passes.of_await hphase hrest
        exact .inl ⟨_, _, h⟩
      · obtain ⟨requests', h⟩ := Passes.of_await hphase hbefore
        exact .inr ⟨phase :: before, stuck, after, _, _, rfl, h, hs⟩
    · exact .inr ⟨[], phase, rest, _, r, rfl, .done, fun left hleft => hphase ⟨left, hleft⟩⟩

/-- After phases that are over, what comes of the wait is what comes of the next one that fails. -/
theorem Passes.awaitPhases_append {before after : List Phase} {phase : Phase} {requests : List Request}
    {mid : Run (Traffic τ)} (h : Passes service timeouts c before r requests mid)
    (hs : ∀ left, phase.await service timeouts c mid ≠ some (.ok (), left)) :
    awaitPhases service timeouts c (before ++ phase :: after) r = phase.await service timeouts c mid := by
  rw [awaitPhases_append_of_ok _ h.awaitPhases_eq, awaitPhases_cons]
  rcases hphase : phase.await service timeouts c mid with _ | ⟨_ | _, left⟩
  · rfl
  · rfl
  · exact absurd hphase (hs left)

theorem awaitPhases_eq_ok_iff {steps : List Phase} :
    awaitPhases service timeouts c steps r = some (.ok (), left) ↔
      ∃ requests, Passes service timeouts c steps r requests left := by
  constructor
  · intro h
    rcases exists_passes steps r with
      ⟨requests, left', hpasses⟩ | ⟨before, phase, after, requests, mid, rfl, hbefore, hs⟩
    · rw [hpasses.awaitPhases_eq] at h
      cases h
      exact ⟨requests, hpasses⟩
    · rw [hbefore.awaitPhases_append hs] at h
      exact absurd h (hs left)
  · rintro ⟨requests, h⟩
    exact h.awaitPhases_eq

/-- Anything but success comes of the first phase that is not over. -/
theorem awaitPhases_eq_iff_of_ne_ok {steps : List Phase}
    {outcome : Option (Except WaitError Unit × Run (Traffic τ))}
    (ho : ∀ left, outcome ≠ some (.ok (), left)) :
    awaitPhases service timeouts c steps r = outcome ↔
      ∃ before phase after requests mid, steps = before ++ phase :: after ∧
        Passes service timeouts c before r requests mid ∧
        phase.await service timeouts c mid = outcome := by
  constructor
  · rintro rfl
    rcases exists_passes steps r with
      ⟨requests, left, hpasses⟩ | ⟨before, phase, after, requests, mid, rfl, hbefore, hs⟩
    · exact absurd hpasses.awaitPhases_eq (ho left)
    · exact ⟨before, phase, after, requests, mid, rfl, hbefore, (hbefore.awaitPhases_append hs).symm⟩
  · rintro ⟨before, phase, after, requests, mid, rfl, hbefore, rfl⟩
    exact hbefore.awaitPhases_append ho

/-! ### Requests -/

theorem Phase.asked_course (phase : Phase) {issued : Nat → List Request}
    (hways : ∀ j, ∃ reason, phase.ways service ((phase.course service timeouts c r).before j)
      (issued j) reason ((phase.course service timeouts c r).after j)) (j : Nat) :
    Asked ((phase.course service timeouts c r).before j)
      ((phase.course service timeouts c r).after j) (issued j) := by
  obtain ⟨reason, hway⟩ := hways j
  exact phase.follows.asked hway

/-- **What phases ask for** is what their attempts issue, in their order. -/
theorem Passes.asked {steps : List Phase} {requests : List Request}
    (h : Passes service timeouts c steps r requests left) : Asked r left requests := by
  induction h with
  | done => exact .refl _
  | @next phase rest r left k issued requests hways hs hk hmet hrest ih =>
    have hopening := asked_opening (phase.poll timeouts) c (fun _ => phase.attempt service) r
    have hphase : Asked r ((phase.course service timeouts c r).after k)
        ((List.range (k + 1)).flatMap issued) :=
      asked_after hopening (fun j _ => phase.asked_course hways j) hs
    exact hphase.trans ih

/-- **Each phase is over with an attempt,** between what was asked for before and after. -/
theorem Passes.exists_met {steps : List Phase} {requests : List Request} {phase : Phase}
    (h : Passes service timeouts c steps r requests left) (hphase : phase ∈ steps) :
    ∃ pre own post run run', requests = pre ++ own ++ post ∧ Asked r run pre ∧
      phase.ways service run own none run' ∧ Asked run' left post := by
  induction h with
  | done => cases hphase
  | @next first rest r left k issued requests hways hs hk hmet hrest ih =>
    have hopening := asked_opening (first.poll timeouts) c (fun _ => first.attempt service) r
    have hasked (j : Nat) (_ : (first.course service timeouts c r).Started j) :=
      first.asked_course hways j
    rcases List.mem_cons.mp hphase with rfl | hphase
    · have hbefore := asked_before hopening hasked k fun j hj => hs.of_le (Nat.le_of_lt hj)
      refine ⟨_, _, _, _, _, ?_, hbefore, hmet, hrest.asked⟩
      rw [List.range_succ, List.flatMap_append, List.flatMap_singleton]
    · obtain ⟨pre, own, post, run, run', rfl, hpre, hway, hpost⟩ := ih hphase
      have hafter := asked_after hopening hasked hs
      refine ⟨_, _, _, _, _, ?_, hafter.trans hpre, hway, hpost⟩
      simp only [List.append_assoc]

end Passes

/-! ### The main result -/

/-- **Waiting until machine sets are gone.** -/
structure Removes (service : Service τ) (timeouts : Timeouts) (c : Context) (sets : List MachineSet)
    (r : Run (Traffic τ)) : Prop where
  /-- Each phase is a wait that tries again whatever the cluster answers. -/
  each : ∀ (phase : Phase) (run : Run (Traffic τ)), ∃ issued,
    Perseveres (phase.ways service) (phase.poll timeouts) c run
    (phase.course service timeouts c run) issued (phase.await service timeouts c run)
  /-- The wait succeeds exactly if the two phases of each set are over, one after the other and in the
  order of the sets, -/
  ok_iff : ∀ left, awaitMachineSetsGone service timeouts c sets r = some (.ok (), left) ↔
    ∃ requests, Passes service timeouts c (phases sets) r requests left
  /-- and what was sent then is what their attempts issued; -/
  requests : ∀ steps requests left, Passes service timeouts c steps r requests left →
    Asked r left requests
  /-- so each set was seen to be gone right after an empty listing of its machines. -/
  observed : ∀ requests left, Passes service timeouts c (phases sets) r requests left →
    ∀ set ∈ sets, ∃ pre post run run' run'' listing answer,
      requests = pre ++ [drainRequest set, soughtRequest set] ++ post ∧ Asked r run pre ∧
      service.ask (drainRequest set) (Listing.decode Machine.decode) run = (.ok listing, run') ∧
      listing.items = [] ∧
      service.ask (soughtRequest set) MachineSet.decode run' = (answer, run'') ∧ Absent answer ∧
      Asked run'' left post
  /-- It fails exactly with the first phase that fails, -/
  error_iff : ∀ e left, awaitMachineSetsGone service timeouts c sets r = some (.error e, left) ↔
    ∃ before phase after requests mid, phases sets = before ++ phase :: after ∧
      Passes service timeouts c before r requests mid ∧
      phase.await service timeouts c mid = some (.error e, left)
  /-- whose context ended: it is told why, with the number of its attempts and the reason of the last of
  them, and nothing was sent for any later phase. -/
  failed : ∀ (before : List Phase) (phase : Phase) (requests : List Request)
    (mid left : Run (Traffic τ)) (e : WaitError), Passes service timeouts c before r requests mid →
    phase.await service timeouts c mid = some (.error e, left) → ∃ n issued why,
      (∀ k, (phase.course service timeouts c mid).Started k ↔ k < n) ∧
      (∀ k < n, ∃ m, phase.ways service ((phase.course service timeouts c mid).before k) (issued k)
        (some m) ((phase.course service timeouts c mid).after k)) ∧
      Asked r left (requests ++ (List.range n).flatMap issued) ∧
      left.time.err (phase.course service timeouts c mid).context = some why ∧
      e = .ofCancellation why (.ofNat n) ((phase.course service timeouts c mid).last n)
  /-- There is no result only when the attempts of a phase all ask for another, -/
  endless_iff : awaitMachineSetsGone service timeouts c sets r = none ↔
    ∃ before phase after requests mid, phases sets = before ++ phase :: after ∧
      Passes service timeouts c before r requests mid ∧
      (phase.course service timeouts c mid).GoesOn (phase.course service timeouts c mid).granted
  /-- and this does not happen when attempts are some time apart. -/
  ends : 0 < timeouts.retryShort → 0 < timeouts.retryMedium →
    ∃ result left, awaitMachineSetsGone service timeouts c sets r = some (result, left)

theorem mem_phases {sets : List MachineSet} {set : MachineSet} (h : set ∈ sets) :
    .drained set ∈ phases sets :=
  List.mem_flatMap.mpr ⟨set, h, List.mem_cons_of_mem _ List.mem_cons_self⟩

theorem Phase.failed_of_await {service : Service τ} {timeouts : Timeouts} {c : Context}
    {phase : Phase} {mid left : Run (Traffic τ)} {e : WaitError}
    (h : phase.await service timeouts c mid = some (.error e, left)) : ∃ n issued why,
      (∀ k, (phase.course service timeouts c mid).Started k ↔ k < n) ∧
      (∀ k < n, ∃ m, phase.ways service ((phase.course service timeouts c mid).before k) (issued k)
        (some m) ((phase.course service timeouts c mid).after k)) ∧
      Asked mid left ((List.range n).flatMap issued) ∧
      left.time.err (phase.course service timeouts c mid).context = some why ∧
      e = .ofCancellation why (.ofNat n) ((phase.course service timeouts c mid).last n) := by
  obtain ⟨issued, hp⟩ := phase.perseveres mid
  obtain ⟨n, why, hstarted, hreasons, hwhy, he⟩ := hp.otherwise e left h
  obtain ⟨n', hstarted', hasked⟩ := hp.requests _ _ h
  obtain rfl : n' = n := Course.number_unique hstarted' hstarted
  exact ⟨n', issued, why, hstarted, hreasons, hasked, hwhy, he⟩

/-- **Waiting until machine sets are gone takes two phases for each of them,** for every service and
every context. -/
theorem awaitMachineSetsGone_takes_phases (service : Service τ) (timeouts : Timeouts) (c : Context)
    (sets : List MachineSet) (r : Run (Traffic τ)) : Removes service timeouts c sets r := by
  have hendless (phase : Phase) (mid : Run (Traffic τ)) : phase.await service timeouts c mid = none ↔
      (phase.course service timeouts c mid).GoesOn (phase.course service timeouts c mid).granted := by
    obtain ⟨issued, hp⟩ := phase.perseveres mid
    exact hp.endless_iff
  refine ⟨fun phase run => phase.perseveres run, fun left => ?_, fun _ _ _ h => h.asked,
    fun requests left h set hset => ?_, fun e left => ?_, fun before phase requests mid left e h he => ?_,
    ?_, fun hshort hmedium => ?_⟩
  · rw [awaitMachineSetsGone_eq]
    exact awaitPhases_eq_ok_iff
  · obtain ⟨pre, own, post, run, run', rfl, hpre, hway, hpost⟩ := h.exists_met (mem_phases hset)
    generalize hmet : none = reason at hway
    cases hway with
    | gone hlist hempty hask habsent =>
      exact ⟨pre, post, run, _, run', _, _, rfl, hpre, hlist, hempty, hask, habsent, hpost⟩
    | _ => cases hmet
  · rw [awaitMachineSetsGone_eq]
    exact awaitPhases_eq_iff_of_ne_ok (by nofun)
  · obtain ⟨n, issued, why, hstarted, hreasons, hasked, hwhy, he⟩ := Phase.failed_of_await he
    exact ⟨n, issued, why, hstarted, hreasons, h.asked.trans hasked, hwhy, he⟩
  · rw [awaitMachineSetsGone_eq, awaitPhases_eq_iff_of_ne_ok (by nofun)]
    simp only [hendless]
  · rw [awaitMachineSetsGone_eq]
    have hsome : awaitPhases service timeouts c (phases sets) r ≠ none := by
      intro hnone
      obtain ⟨before, phase, after, requests, mid, -, -, hphase⟩ :=
        (awaitPhases_eq_iff_of_ne_ok (by nofun)).mp hnone
      obtain ⟨issued, hp⟩ := phase.perseveres mid
      have hinterval : 0 < (phase.poll timeouts).interval := by
        cases phase with
        | begun set => exact hshort
        | drained set => exact hmedium
      obtain ⟨result, left, hresult⟩ := hp.ends hinterval
      rw [hphase] at hresult
      cases hresult
    obtain ⟨⟨result, left⟩, hresult⟩ := Option.ne_none_iff_exists'.mp hsome
    exact ⟨result, left, hresult⟩

end ClusterWait
