import ClusterWait.Proofs.Cluster.Requests
import ClusterWait.Proofs.Wait.Checking

/-! # An attempt on the machines of a set

An attempt lists the machines of the set for its check. If a failed one is among them it stops;
else, and if the list cannot be had, it lists them once more for its condition, and then asks for
the nodes of these machines.

* `Attempted` has a constructor for each way in which this goes, with the requests, the decision and
  the run that is left. It covers every attempt (`exists_attempted`), and an attempt goes no other
  way (`Attempted.decides`).
* `attempted_of_started`: so do the attempts that are made in the course of a wait. They keep time
  and are cut off only in a context that has ended. -/

namespace ClusterWait

variable {τ : Type}

/-- No failed machine is seen in a listing. One that cannot be had shows none. -/
def Spares : Except RequestError (List Machine) → Prop
  | .error _ => True
  | .ok machines => Machine.failed machines = []

def failedTexts (machines : List Machine) : String :=
  "; ".intercalate ((Machine.failed machines).map failedText)

def NodeProblem.reason : NodeProblem → String
  | .notFound _ e => "getting node: " ++ e.message
  | .notReady node => notReadyText node

section Attempt
variable (service : Service τ) (set : MachineSet) (c : Context)

/-- **The check passes and the machines are listed again:** the first listing shows no failure, and
the context is live after it. -/
def Relisted (r : Run (Traffic τ)) (listing : Except RequestError (List Machine))
    (r' : Run (Traffic τ)) : Prop :=
  ∃ checked r₁, Listed service set r checked r₁ ∧ Spares checked ∧ r₁.time.err c = none ∧
    Listed service set r₁ listing r'

/-- **The ways of an attempt:** its requests, what it decides, and the run that it leaves. -/
inductive Attempted (r : Run (Traffic τ)) : List Request → Attempt Unit → Run (Traffic τ) → Prop
  | failed {machines : List Machine} {r' : Run (Traffic τ)}
      (hlist : Listed service set r (.ok machines) r') (hf : Machine.failed machines ≠ []) :
    Attempted r [listRequest set] (.stop (failedTexts machines)) r'
  | cutOff {listing : Except RequestError (List Machine)} {r' : Run (Traffic τ)} {e : Cancellation}
      (hlist : Listed service set r listing r') (hs : Spares listing)
      (he : r'.time.err c = some e) :
    Attempted r [listRequest set] .cancelled r'
  | unlisted {e : RequestError} {r' : Run (Traffic τ)}
      (hlist : Relisted service set c r (.error e) r') :
    Attempted r [listRequest set, listRequest set]
      (.retry ("error querying api for machines: " ++ e.message)) r'
  | miscounted {machines : List Machine} {r' : Run (Traffic τ)}
      (hlist : Relisted service set c r (.ok machines) r') (hn : machines.length ≠ set.wanted) :
    Attempted r [listRequest set, listRequest set]
      (.retry (miscountText set.nameAny machines.length set.wanted)) r'
  | notRunning {machines : List Machine} {r' : Run (Traffic τ)}
      (hlist : Relisted service set c r (.ok machines) r') (hn : machines.length = set.wanted)
      (hr : ¬ ∀ m ∈ machines, m.phase = some .running) :
    Attempted r [listRequest set, listRequest set]
      (.retry (notRunningText set.nameAny (Machine.running machines).length machines.length)) r'
  | nodeProblem {machines : List Machine} {requests : List Request} {problem : NodeProblem}
      {r' r'' : Run (Traffic τ)} (hlist : Relisted service set c r (.ok machines) r')
      (hn : machines.length = set.wanted) (hr : ∀ m ∈ machines, m.phase = some .running)
      (hnodes : NodesAsked service machines r' requests (some problem) r'') :
    Attempted r (listRequest set :: listRequest set :: requests) (.retry problem.reason) r''
  | ready {machines : List Machine} {requests : List Request} {r' r'' : Run (Traffic τ)}
      (hlist : Relisted service set c r (.ok machines) r')
      (hn : machines.length = set.wanted) (hr : ∀ m ∈ machines, m.phase = some .running)
      (hnodes : NodesAsked service machines r' requests none r'') :
    Attempted r (listRequest set :: listRequest set :: requests) (.done ()) r''

end Attempt

section Attempt
variable {service : Service τ} {set : MachineSet} {c : Context} {r r' : Run (Traffic τ)}
  {listing : Except RequestError (List Machine)} {machines : List Machine}

/-! ### The check -/

theorem record_failures (failed : List Machine) (sink : Sink) :
    (failed.foldl (fun sink m => sink.record (failedText m)) sink).failures =
      sink.failures ++ failed.map failedText := by
  induction failed generalizing sink with
  | nil => simp
  | cons m rest ih =>
    rw [List.foldl_cons, ih, Sink.record, List.append_assoc, List.map_cons]
    rfl

theorem noneFailed_of_listed (h : Listed service set r listing r') (sink : Sink) :
    noneFailed service set c sink r = ((match listing with
      | .error _ => (true, sink)
      | .ok machines => ((Machine.failed machines).isEmpty, (Machine.failed machines).foldl
          (fun sink m => sink.record (failedText m)) sink)), r') := by
  have hlist := h.machinesOf_eq
  simp only [noneFailed, bind, StateT.bind, hlist]
  cases listing <;> rfl

theorem evaluate_noneFailed (h : Listed service set r listing r') (hl : r.time.err c = none)
    (hs : Spares listing) : evaluate c (noneFailed service set) r = (.held, r') := by
  unfold evaluate
  rw [hl]
  simp only [noneFailed_of_listed h .fresh]
  cases listing with
  | error e => rfl
  | ok machines =>
    have hs : Machine.failed machines = [] := hs
    simp only [hs]
    rfl

theorem evaluate_noneFailed_of_failed (h : Listed service set r (.ok machines) r')
    (hl : r.time.err c = none) (hf : Machine.failed machines ≠ []) :
    evaluate c (noneFailed service set) r = (.failed (failedTexts machines), r') := by
  have hne : (Machine.failed machines).isEmpty = false := by simpa using hf
  have hmessage : ((Machine.failed machines).foldl
      (fun (sink : Sink) m => sink.record (failedText m)) Sink.fresh).message? =
        some (failedTexts machines) := by
    have hrecord := record_failures (Machine.failed machines) .fresh
    rw [Sink.message?, hrecord]
    simp [Sink.fresh, hf, failedTexts]
  unfold evaluate
  rw [hl]
  simp only [noneFailed_of_listed h .fresh, hne, hmessage]
  rfl

/-! ### The condition -/

theorem length_running_eq_iff : (Machine.running machines).length = machines.length ↔
    ∀ m ∈ machines, m.phase = some .running := by
  simp [Machine.running, Machine.inPhase, List.length_filter_eq_length_iff]

/-- What the condition makes of a listing. -/
theorem allReady_of_listed (h : Listed service set r listing r') (sink : Sink) :
    allReady service set c sink r = match listing with
      | .error e => (sink.fail ("error querying api for machines: " ++ e.message), r')
      | .ok machines =>
        if machines.length ≠ set.wanted then
          (sink.fail (miscountText set.nameAny machines.length set.wanted), r')
        else if (Machine.running machines).length ≠ machines.length then
          (sink.fail (notRunningText set.nameAny (Machine.running machines).length
            machines.length), r')
        else match firstNodeProblem service machines r' with
          | (none, r'') => ((true, sink), r'')
          | (some problem, r'') => (sink.fail problem.reason, r'') := by
  have hlist := h.machinesOf_eq
  simp only [allReady, bind, StateT.bind, hlist]
  cases listing with
  | error e => rfl
  | ok machines =>
    simp only
    split_ifs
    · rfl
    · rfl
    · simp only [StateT.bind]
      rcases firstNodeProblem service machines r' with ⟨_ | problem, r''⟩
      · rfl
      · cases problem <;> rfl

/-- A failure of the condition is told as it was recorded. -/
theorem evaluate_allReady_of_fail {m : String} (hl : r.time.err c = none)
    (h : allReady service set c .fresh r = (Sink.fresh.fail m, r')) :
    evaluate c (allReady service set) r = (.failed m, r') := by
  unfold evaluate
  rw [hl]
  simp only [h]
  rfl

/-! ### The attempt -/

theorem checkThenCondition_of_relisted {d : Evaluation} (hl : r.time.err c = none)
    {r₁ : Run (Traffic τ)} (hlist : Listed service set r listing r₁) (hs : Spares listing)
    (h : evaluate c (allReady service set) r₁ = (d, r')) :
    checkThenCondition (noneFailed service set) (allReady service set) c r = (match d with
      | .cancelled => .cancelled
      | .failed m => .retry m
      | .held => .done (), r') := by
  unfold checkThenCondition
  simp only [evaluate_noneFailed hlist hl hs, h]
  cases d <;> rfl

/-- **An attempt goes no other way.** -/
theorem Attempted.decides {requests : List Request} {d : Attempt Unit}
    (h : Attempted service set c r requests d r') (hl : r.time.err c = none) :
    checkThenCondition (noneFailed service set) (allReady service set) c r = (d, r') := by
  cases h with
  | failed hlist hf =>
    unfold checkThenCondition
    simp only [evaluate_noneFailed_of_failed hlist hl hf]
  | cutOff hlist hs he => exact checkThenCondition_of_relisted hl hlist hs (evaluate_of_ended he)
  | unlisted hlist =>
    obtain ⟨_, _, hcheck, hs, hl', hlist⟩ := hlist
    exact checkThenCondition_of_relisted hl hcheck hs
      (evaluate_allReady_of_fail hl' (allReady_of_listed hlist .fresh))
  | miscounted hlist hn =>
    obtain ⟨_, _, hcheck, hs, hl', hlist⟩ := hlist
    refine checkThenCondition_of_relisted hl hcheck hs (evaluate_allReady_of_fail hl' ?_)
    simp only [allReady_of_listed hlist, if_pos hn]
  | notRunning hlist hn hr =>
    obtain ⟨_, _, hcheck, hs, hl', hlist⟩ := hlist
    refine checkThenCondition_of_relisted hl hcheck hs (evaluate_allReady_of_fail hl' ?_)
    rw [← length_running_eq_iff] at hr
    simp only [allReady_of_listed hlist, if_neg (not_not.mpr hn), if_pos hr]
  | nodeProblem hlist hn hr hnodes =>
    obtain ⟨_, _, hcheck, hs, hl', hlist⟩ := hlist
    refine checkThenCondition_of_relisted hl hcheck hs (evaluate_allReady_of_fail hl' ?_)
    rw [← length_running_eq_iff] at hr
    simp only [allReady_of_listed hlist, if_neg (not_not.mpr hn), if_neg (not_not.mpr hr),
      hnodes.firstNodeProblem_eq]
  | ready hlist hn hr hnodes =>
    obtain ⟨_, _, hcheck, hs, hl', hlist⟩ := hlist
    refine checkThenCondition_of_relisted (d := .held) hl hcheck hs ?_
    rw [← length_running_eq_iff] at hr
    unfold evaluate
    rw [hl']
    simp only [allReady_of_listed hlist, if_neg (not_not.mpr hn), if_neg (not_not.mpr hr),
      hnodes.firstNodeProblem_eq]

/-- **Every attempt goes one of the ways.** -/
theorem exists_attempted (service : Service τ) (set : MachineSet) (c : Context)
    (r : Run (Traffic τ)) : ∃ requests d r', Attempted service set c r requests d r' := by
  obtain ⟨checked, r₁, hcheck⟩ := exists_listed service set r
  by_cases hs : Spares checked
  · cases he : r₁.time.err c with
    | some e => exact ⟨_, _, _, .cutOff hcheck hs he⟩
    | none =>
      obtain ⟨listing, r₂, hlist⟩ := exists_listed service set r₁
      have hre : Relisted service set c r listing r₂ := ⟨checked, r₁, hcheck, hs, he, hlist⟩
      cases listing with
      | error e => exact ⟨_, _, _, .unlisted hre⟩
      | ok machines =>
        by_cases hn : machines.length = set.wanted
        · by_cases hr : ∀ m ∈ machines, m.phase = some .running
          · obtain ⟨_, problem, _, hnodes⟩ := exists_nodesAsked machines r₂
            cases problem with
            | none => exact ⟨_, _, _, .ready hre hn hr hnodes⟩
            | some problem => exact ⟨_, _, _, .nodeProblem hre hn hr hnodes⟩
          · exact ⟨_, _, _, .notRunning hre hn hr⟩
        · exact ⟨_, _, _, .miscounted hre hn⟩
  · cases checked with
    | error e => exact absurd trivial hs
    | ok machines => exact ⟨_, _, _, .failed hcheck hs⟩

theorem Attempted.asked {requests : List Request} {d : Attempt Unit}
    (h : Attempted service set c r requests d r') : Asked r r' requests := by
  have twice {listing : Except RequestError (List Machine)} {r' : Run (Traffic τ)}
      (h : Relisted service set c r listing r') :
      Asked r r' [listRequest set, listRequest set] := by
    obtain ⟨_, _, hcheck, -, -, hlist⟩ := h
    exact hcheck.asked.trans hlist.asked
  cases h with
  | failed hlist hf => exact hlist.asked
  | cutOff hlist hs he => exact hlist.asked
  | unlisted hlist => exact twice hlist
  | miscounted hlist hn => exact twice hlist
  | notRunning hlist hn hr => exact twice hlist
  | nodeProblem hlist hn hr hnodes => exact (twice hlist).trans hnodes.asked
  | ready hlist hn hr hnodes => exact (twice hlist).trans hnodes.asked

end Attempt

/-! ### The attempts of a wait -/

section Course
variable {service : Service τ} {set : MachineSet} {w : Course (Traffic τ) Unit}
  (hw : w.attempt = checkThenCondition (noneFailed service set) (allReady service set))
include hw

/-- **An attempt that is made goes one of the ways.** -/
theorem attempted_of_started {k : Nat} (h : w.Started k) : ∃ requests,
    Attempted service set w.context (w.before k) requests (w.decision k) (w.after k) := by
  obtain ⟨requests, d, r', hway⟩ := exists_attempted service set w.context (w.before k)
  refine ⟨requests, ?_⟩
  rw [Course.decision, Course.after, hw, hway.decides h.live]
  exact hway

/-- An attempt that is described is the one that is made. -/
theorem decision_of_attempted {k : Nat} (h : w.Started k) {requests : List Request}
    {d : Attempt Unit} {r' : Run (Traffic τ)}
    (hway : Attempted service set w.context (w.before k) requests d r') : w.decision k = d := by
  rw [Course.decision, hw, hway.decides h.live]

theorem keepsTime_of_machines : (w.attempt w.context).KeepsTime := by
  intro r
  rw [hw]
  cases he : r.time.err w.context with
  | some e =>
    unfold checkThenCondition
    rw [evaluate_of_ended he]
    exact .refl _
  | none =>
    obtain ⟨requests, d, left, hway⟩ := exists_attempted service set w.context r
    rw [hway.decides he]
    exact hway.asked.time

/-- An attempt is cut off only in a context that has ended. -/
theorem err_of_cancelled {k : Nat} (h : w.Started k) (hd : w.decision k = .cancelled) :
    (w.after k).time.err w.context ≠ none := by
  obtain ⟨requests, hway⟩ := attempted_of_started hw h
  rw [hd] at hway
  cases hway with
  | cutOff hlist hs he => rw [he]; nofun

end Course

end ClusterWait
