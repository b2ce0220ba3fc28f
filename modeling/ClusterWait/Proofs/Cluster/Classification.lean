import ClusterWait.Proofs.Cluster.Exhaustion
import ClusterWait.Proofs.Cluster.Persevering

/-! # How a wait for spot machines ends

An attempt goes one of eight ways (`SpotWay`), told by what its listing shows, in the order in which it
is looked at: the number of machines, failed ones, the reports of the provider up to the first that is
not plain (`ReportedFirst`), phases, nodes. The end of the wait follows from the way of its last attempt
(`insufficient_iff_of_ends`, `stopped_iff_of_ends`, `running_iff_of_ends`).

The report of an exhausted machine is a decision of the attempt. Another wait would stop there with a
message, note the machine beside itself, and look for a note when it ended (`notingAttempt`,
`classify`). No note is left by an attempt that does not end the wait, and so the two are the same
(`outcome_eq_noting`).

`awaitSpotMachineSet_classifies` puts this together. -/

namespace ClusterWait

variable {τ : Type}

/-! ### The first report that is not plain -/

/-- **The machine is the first of a list whose report is this one;** the provider supplied all before
it. -/
def ReportedFirst (provider : Provider) (machines : List Machine) (m : Machine)
    (report : Except ProviderError Bool) : Prop :=
  ∃ before after, machines = before ++ m :: after ∧ (∀ x ∈ before, x.Supplied provider) ∧
    provider.hasInsufficientCapacity m.providerStatus = report

section Reports
variable {provider : Provider} {machines : List Machine} {m : Machine}

theorem ReportedFirst.exhausted (h : ReportedFirst provider machines m (.ok true)) :
    firstExhausted provider machines = .exhausted m.nameAny := by
  obtain ⟨before, after, rfl, hbefore, hm⟩ := h
  exact firstExhausted_append hbefore hm

theorem ReportedFirst.unreadable {e : ProviderError}
    (h : ReportedFirst provider machines m (.error e)) :
    firstExhausted provider machines = .unreadable m.nameAny e := by
  obtain ⟨before, after, rfl, hbefore, hm⟩ := h
  induction before with
  | nil => simp only [List.nil_append, firstExhausted, hm]
  | cons x rest ih =>
    rw [List.cons_append, firstExhausted_of_supplied (hbefore x List.mem_cons_self)]
    exact ih fun y hy => hbefore y (List.mem_cons_of_mem _ hy)

theorem exists_reportedFirst (provider : Provider) (machines : List Machine) :
    (∀ m ∈ machines, m.Supplied provider) ∨
      ∃ m report, ReportedFirst provider machines m report ∧ report ≠ .ok false := by
  induction machines with
  | nil => exact .inl (List.forall_mem_nil _)
  | cons m rest ih =>
    by_cases hm : m.Supplied provider
    · rcases ih with hrest | ⟨x, report, ⟨before, after, rfl, hbefore, hx⟩, hne⟩
      · exact .inl (List.forall_mem_cons.mpr ⟨hm, hrest⟩)
      · have hfirst : ∀ y ∈ m :: before, y.Supplied provider :=
          List.forall_mem_cons.mpr ⟨hm, hbefore⟩
        exact .inr ⟨x, report, ⟨m :: before, after, rfl, hfirst, hx⟩, hne⟩
    · exact .inr ⟨m, _, ⟨[], rest, rfl, List.forall_mem_nil _, rfl⟩, hm⟩

end Reports

/-! ### The ways of an attempt -/

def NodeProblem.spotReason : NodeProblem → String
  | .notFound machine e => "node for machine " ++ machine ++ " not found yet: " ++ e.message
  | .notReady node => notReadyText node

def uncheckedText (m : Machine) (e : ProviderError) : String :=
  "error checking if machine " ++ m.nameAny ++ " has insufficient capacity: " ++ e.message

section Ways
variable (service : Service τ) (provider : Provider) (set : MachineSet) (name : String)

/-- **The ways of an attempt,** by what it sees: its requests, what it decides, and the run that it
leaves. -/
inductive SpotWay (r : Run (Traffic τ)) :
    List Request → Attempt SpotOutcome → Run (Traffic τ) → Prop
  | unlisted {e : RequestError} {r' : Run (Traffic τ)} (hlist : Listed service set r (.error e) r') :
    SpotWay r [listRequest set]
      (.stop ("error getting machines from machineSet " ++ name ++ ": " ++ e.message)) r'
  | miscounted {machines : List Machine} {r' : Run (Traffic τ)}
      (hlist : Listed service set r (.ok machines) r') (hn : machines.length ≠ set.wanted) :
    SpotWay r [listRequest set] (.retry (miscountText name machines.length set.wanted)) r'
  | failed {machines : List Machine} {r' : Run (Traffic τ)}
      (hlist : Listed service set r (.ok machines) r') (hn : machines.length = set.wanted)
      (hf : Machine.failed machines ≠ []) :
    SpotWay r [listRequest set] (.stop (failedCountText (Machine.failed machines).length)) r'
  | exhausted {machines : List Machine} {m : Machine} {r' : Run (Traffic τ)}
      (hlist : Listed service set r (.ok machines) r') (hn : machines.length = set.wanted)
      (hf : Machine.failed machines = []) (hm : ReportedFirst provider machines m (.ok true)) :
    SpotWay r [listRequest set] (.done (.exhausted m.nameAny)) r'
  | unchecked {machines : List Machine} {m : Machine} {e : ProviderError} {r' : Run (Traffic τ)}
      (hlist : Listed service set r (.ok machines) r') (hn : machines.length = set.wanted)
      (hf : Machine.failed machines = []) (hm : ReportedFirst provider machines m (.error e)) :
    SpotWay r [listRequest set] (.stop (uncheckedText m e)) r'
  | notRunning {machines : List Machine} {r' : Run (Traffic τ)}
      (hlist : Listed service set r (.ok machines) r') (hn : machines.length = set.wanted)
      (hf : Machine.failed machines = []) (hs : ∀ m ∈ machines, m.Supplied provider)
      (hr : ¬ ∀ m ∈ machines, m.phase = some .running) :
    SpotWay r [listRequest set]
      (.retry (notRunningText name (Machine.running machines).length machines.length)) r'
  | nodeProblem {machines : List Machine} {requests : List Request} {problem : NodeProblem}
      {r' r'' : Run (Traffic τ)} (hlist : Listed service set r (.ok machines) r')
      (hn : machines.length = set.wanted) (hs : ∀ m ∈ machines, m.Supplied provider)
      (hr : ∀ m ∈ machines, m.phase = some .running)
      (hnodes : NodesAsked service machines r' requests (some problem) r'') :
    SpotWay r (listRequest set :: requests) (.retry problem.spotReason) r''
  | running {machines : List Machine} {requests : List Request} {r' r'' : Run (Traffic τ)}
      (hlist : Listed service set r (.ok machines) r') (hn : machines.length = set.wanted)
      (hs : ∀ m ∈ machines, m.Supplied provider) (hr : ∀ m ∈ machines, m.phase = some .running)
      (hnodes : NodesAsked service machines r' requests none r'') :
    SpotWay r (listRequest set :: requests) (.done .running) r''

variable {service provider set name} {r r' : Run (Traffic τ)} {requests : List Request}
  {d : Attempt SpotOutcome} {machines : List Machine}

theorem judgeSpot_of_unchecked {m : Machine} {e : ProviderError} (hn : machines.length = set.wanted)
    (hf : Machine.failed machines = []) (hm : ReportedFirst provider machines m (.error e)) :
    judgeSpot provider set name machines = some (.stop (uncheckedText m e)) := by
  have hlen : ¬ (Machine.failed machines).length ≠ 0 := by simp [hf]
  have hfirst := hm.unreadable
  unfold judgeSpot uncheckedText
  simp only [if_neg (not_not.mpr hn), if_neg hlen, hfirst]

/-- What is seen of an attempt tells its requests and what it decides. -/
theorem SpotWay.attempted (h : SpotWay service provider set name r requests d r') :
    SpotAttempted service provider set name r requests d r' := by
  have nodes {machines : List Machine} (hn : machines.length = set.wanted)
      (hs : ∀ m ∈ machines, m.Supplied provider) (hr : ∀ m ∈ machines, m.phase = some .running) :
      judgeSpot provider set name machines = none :=
    judgeSpot_of_running hn (failed_eq_nil_of_running hr) (firstExhausted_eq_sufficient hs) hr
  cases h with
  | unlisted hlist => exact .unlisted hlist
  | miscounted hlist hn => exact .judged hlist (judgeSpot_of_miscounted hn)
  | failed hlist hn hf => exact .judged hlist (judgeSpot_of_failed hn hf)
  | exhausted hlist hn hf hm => exact .judged hlist (judgeSpot_of_exhausted hn hf hm.exhausted)
  | unchecked hlist hn hf hm => exact .judged hlist (judgeSpot_of_unchecked hn hf hm)
  | notRunning hlist hn hf hs hr =>
    exact .judged hlist (judgeSpot_of_notRunning hn hf (firstExhausted_eq_sufficient hs) hr)
  | @nodeProblem _ _ problem _ _ hlist hn hs hr hnodes =>
    have hway := SpotAttempted.asked hlist (nodes hn hs hr) hnodes
    cases problem <;> exact hway
  | running hlist hn hs hr hnodes => exact .asked hlist (nodes hn hs hr) hnodes

/-- **Every attempt goes one of the ways.** -/
theorem exists_spotWay (service : Service τ) (provider : Provider) (set : MachineSet) (name : String)
    (r : Run (Traffic τ)) :
    ∃ requests d r', SpotWay service provider set name r requests d r' := by
  obtain ⟨e | machines, r', hlist⟩ := exists_listed service set r
  · exact ⟨_, _, _, .unlisted hlist⟩
  by_cases hn : machines.length = set.wanted
  swap
  · exact ⟨_, _, _, .miscounted hlist hn⟩
  by_cases hf : Machine.failed machines = []
  swap
  · exact ⟨_, _, _, .failed hlist hn hf⟩
  rcases exists_reportedFirst provider machines with hs | ⟨m, e | b, hm, hne⟩
  · by_cases hr : ∀ m ∈ machines, m.phase = some .running
    · obtain ⟨requests, problem, r'', hnodes⟩ := exists_nodesAsked machines r'
      cases problem with
      | none => exact ⟨_, _, _, .running hlist hn hs hr hnodes⟩
      | some problem => exact ⟨_, _, _, .nodeProblem hlist hn hs hr hnodes⟩
    · exact ⟨_, _, _, .notRunning hlist hn hf hs hr⟩
  · exact ⟨_, _, _, .unchecked hlist hn hf hm⟩
  · cases b with
    | false => exact absurd rfl hne
    | true => exact ⟨_, _, _, .exhausted hlist hn hf hm⟩

end Ways

/-! ### The end of the wait -/

/-- **What an attempt stops for:** its listing cannot be had, or shows a failed machine or a report that
cannot be checked before any exhausted one. -/
def StopsFor (service : Service τ) (provider : Provider) (set : MachineSet) (name : String)
    (r : Run (Traffic τ)) (m : String) : Prop :=
  (∃ e r', Listed service set r (.error e) r' ∧
    m = "error getting machines from machineSet " ++ name ++ ": " ++ e.message) ∨
  ∃ machines r', Listed service set r (.ok machines) r' ∧ machines.length = set.wanted ∧
    ((Machine.failed machines ≠ [] ∧ m = failedCountText (Machine.failed machines).length) ∨
      (Machine.failed machines = [] ∧
        ∃ x e, ReportedFirst provider machines x (.error e) ∧ m = uncheckedText x e))

section Ends
variable {service : Service τ} {provider : Provider} {set : MachineSet} {name : String}
  {w : Course (Traffic τ) SpotOutcome}
  (hw : w.attempt = fun _ => spotAttempt service provider set name)
include hw

theorem decision_of_spotWay {k : Nat} {requests : List Request} {d : Attempt SpotOutcome}
    {r' : Run (Traffic τ)} (hway : SpotWay service provider set name (w.before k) requests d r') :
    w.decision k = d ∧ w.after k = r' := by
  apply Course.decision_of_attempt
  rw [hw]
  exact hway.attempted.decides

theorem spotWay_of_attempt (k : Nat) : ∃ requests,
    SpotWay service provider set name (w.before k) requests (w.decision k) (w.after k) := by
  obtain ⟨requests, d, r', hway⟩ := exists_spotWay service provider set name (w.before k)
  obtain ⟨hd, hafter⟩ := decision_of_spotWay hw hway
  exact ⟨requests, by rw [hd, hafter]; exact hway⟩

theorem decision_ne_cancelled (k : Nat) (_ : w.Started k) : w.decision k ≠ .cancelled := by
  intro hd
  obtain ⟨requests, hway⟩ := spotWay_of_attempt hw k
  rw [hd] at hway
  cases hway

variable {n : Nat} {result : Except WaitError SpotOutcome} {left : Run (Traffic τ)}
  (he : w.Ends n result left)
include he

theorem insufficient_iff_of_ends (machine : String) :
    spotResult result = .error (.insufficientCapacity machine) ↔
      ∃ k machines r' m, w.Started k ∧ Listed service set (w.before k) (.ok machines) r' ∧
        machines.length = set.wanted ∧ Machine.failed machines = [] ∧
        ReportedFirst provider machines m (.ok true) ∧ machine = m.nameAny := by
  constructor
  · intro h
    rw [spotResult_eq_exhausted h] at he
    have hcases := he.result_cases_of_uncut (decision_ne_cancelled hw)
    rcases hcases with ⟨k, v, hs, hd, hv⟩ | ⟨k, m, -, -, hm⟩ | ⟨why, -, -, hwhy⟩
    · cases hv
      obtain ⟨requests, hway⟩ := spotWay_of_attempt hw k
      rw [hd] at hway
      generalize hdone : Attempt.done (SpotOutcome.exhausted machine) = d at hway
      cases hway with
      | exhausted hlist hn hf hm =>
        cases hdone
        exact ⟨k, _, _, _, hs, hlist, hn, hf, hm, rfl⟩
      | _ => cases hdone
    · cases hm
    · cases hwhy
  · rintro ⟨k, machines, r', m, hs, hlist, hn, hf, hm, rfl⟩
    have hd := (decision_of_spotWay hw (.exhausted hlist hn hf hm)).1
    rw [(he.unique (.done hs hd)).1]
    rfl

theorem stopped_iff_of_ends (made : UInt32) (message : String) :
    spotResult result = .error (.wait (.stoppedTrying made message)) ↔
      ∃ k, made = .ofNat (k + 1) ∧ w.Started k ∧
        StopsFor service provider set name (w.before k) message := by
  constructor
  · intro h
    have hcases := he.result_cases_of_uncut (decision_ne_cancelled hw)
    rcases hcases with ⟨k, v, -, -, rfl⟩ | ⟨k, m, hs, hd, rfl⟩ | ⟨why, -, -, rfl⟩
    · cases v <;> cases h
    · cases h
      refine ⟨k, rfl, hs, ?_⟩
      obtain ⟨requests, hway⟩ := spotWay_of_attempt hw k
      rw [hd] at hway
      generalize hstop : Attempt.stop message = d at hway
      cases hway with
      | unlisted hlist =>
        cases hstop
        exact .inl ⟨_, _, hlist, rfl⟩
      | failed hlist hn hf =>
        cases hstop
        exact .inr ⟨_, _, hlist, hn, .inl ⟨hf, rfl⟩⟩
      | unchecked hlist hn hf hm =>
        cases hstop
        exact .inr ⟨_, _, hlist, hn, .inr ⟨hf, _, _, hm, rfl⟩⟩
      | _ => cases hstop
    · cases why <;> cases h
  · rintro ⟨k, rfl, hs, hstops⟩
    have hd : w.decision k = .stop message := by
      rcases hstops with ⟨e, r', hlist, rfl⟩ |
        ⟨machines, r', hlist, hn, ⟨hf, rfl⟩ | ⟨hf, x, e, hx, rfl⟩⟩
      · exact (decision_of_spotWay hw (.unlisted hlist)).1
      · exact (decision_of_spotWay hw (.failed hlist hn hf)).1
      · exact (decision_of_spotWay hw (.unchecked hlist hn hf hx)).1
    rw [(he.unique (.stopped hs hd)).1]
    rfl

theorem running_iff_of_ends : spotResult result = .ok () ↔
    ∃ k machines r' requests r'', w.Started k ∧ Listed service set (w.before k) (.ok machines) r' ∧
      machines.length = set.wanted ∧ Machine.failed machines = [] ∧
      (∀ m ∈ machines, m.Supplied provider) ∧ (∀ m ∈ machines, m.phase = some .running) ∧
      NodesAsked service machines r' requests none r'' := by
  constructor
  · intro h
    have hcases := he.result_cases_of_uncut (decision_ne_cancelled hw)
    rcases hcases with ⟨k, v, hs, hd, rfl⟩ | ⟨k, m, -, -, rfl⟩ | ⟨why, -, -, rfl⟩
    · cases v with
      | exhausted machine => cases h
      | running =>
        obtain ⟨requests, hway⟩ := spotWay_of_attempt hw k
        rw [hd] at hway
        generalize hdone : Attempt.done SpotOutcome.running = d at hway
        cases hway with
        | running hlist hn hsup hr hnodes =>
          exact ⟨k, _, _, _, _, hs, hlist, hn, failed_eq_nil_of_running hr, hsup, hr, hnodes⟩
        | _ => cases hdone
    · cases h
    · cases h
  · rintro ⟨k, machines, r', requests, r'', hs, hlist, hn, -, hsup, hr, hnodes⟩
    have hd := (decision_of_spotWay hw (.running hlist hn hsup hr hnodes)).1
    rw [(he.unique (.done hs hd)).1]
    rfl

end Ends

/-! ### Notes beside the wait -/

/-- What the attempt decides that notes an exhausted machine, and its notes. -/
def noting : Attempt SpotOutcome → Attempt Unit × List String
  | .done .running => (.done (), [])
  | .done (.exhausted machine) => (.stop ("machine " ++ machine ++ " has insufficient capacity"), [machine])
  | .retry m => (.retry m, [])
  | .stop m => (.stop m, [])
  | .cancelled => (.cancelled, [])

/-- **The attempt that stops at an exhausted machine** and notes it beside the wait. -/
def notingAttempt (attempt : Act (Traffic τ) (Attempt SpotOutcome)) :
    Act (Traffic τ × List String) (Attempt Unit) := fun r =>
  let (d, left) := attempt r.plain
  ((noting d).1, left.withLog (r.world.2 ++ (noting d).2))

/-- **The end of the wait in the light of the notes:** a wait that stopped with a note on a machine is
one for lack of capacity. -/
def classify (result : Except WaitError Unit) (notes : List String) : Except ClusterError Unit :=
  match result, notes.getLast? with
  | .ok (), _ => .ok ()
  | .error (.stoppedTrying _ _), some machine => .error (.insufficientCapacity machine)
  | .error e, _ => .error (.wait e)

theorem classify_ofCancellation (why : Cancellation) (n : UInt32) (last : Option String) :
    classify (.error (.ofCancellation why n last)) [] =
      spotResult (.error (.ofCancellation why n last)) := by
  cases why <;> rfl

/-- **The two waits are the same.** -/
theorem attempts_noting {attempt : Act (Traffic τ) (Attempt SpotOutcome)} (interval : Nat)
    (c : Context) (budget : Nat) (made : UInt32) (last : Option String) (r : Run (Traffic τ)) :
    (Poll.attempts interval c (fun _ => notingAttempt attempt) budget made last
        (r.withLog [])).map (fun x => (classify x.1 x.2.world.2, x.2.plain)) =
      (Poll.attempts interval c (fun _ => attempt) budget made last r).map
        fun x => (spotResult x.1, x.2) := by
  -- the attempts go on only when nothing was noted
  induction budget generalizing made last r with
  | zero => rfl
  | succ budget ih =>
    have htime : (r.withLog ([] : List String)).time = r.time := rfl
    simp only [Poll.attempts, htime]
    cases he : r.time.err c with
    | some why =>
      simp only [Option.map_some, Option.some.injEq, Prod.mk.injEq]
      exact ⟨classify_ofCancellation why made last, rfl⟩
    | none =>
      have hnoting : notingAttempt attempt (r.withLog []) =
          ((noting (attempt r).1).1, (attempt r).2.withLog (noting (attempt r).1).2) := rfl
      rw [hnoting]
      rcases attempt r with ⟨d, left⟩
      cases d with
      | done v => cases v <;> rfl
      | stop m => rfl
      | cancelled =>
        simp only [noting, Option.map_some, Option.some.injEq, Prod.mk.injEq]
        exact ⟨classify_ofCancellation _ _ _, rfl⟩
      | retry m =>
        have hnext := ih (made + 1) (some m) { left with time := left.time.pause c interval }
        exact hnext

theorem outcome_eq_noting (service : Service τ) (timeouts : Timeouts) (provider : Provider)
    (set : MachineSet) (name : String) (c : Context) (r : Run (Traffic τ)) :
    (spotReadiness service timeouts provider set name c r).outcome spotResult =
      (Poll.untilDone ⟨timeouts.retryMedium, some timeouts.waitLong⟩ c
        (fun _ => notingAttempt (spotAttempt service provider set name)) (r.withLog [])).map
          fun x => (classify x.1 x.2.world.2, x.2.plain) := by
  have hscope := Poll.scope_withLog ⟨timeouts.retryMedium, some timeouts.waitLong⟩ c r
    ([] : List String)
  have hnoting : Poll.untilDone ⟨timeouts.retryMedium, some timeouts.waitLong⟩ c
      (fun _ => notingAttempt (spotAttempt service provider set name)) (r.withLog []) =
      Poll.attempts timeouts.retryMedium (spotReadiness service timeouts provider set name c r).context
        (fun _ => notingAttempt (spotAttempt service provider set name))
        (spotReadiness service timeouts provider set name c r).granted 0 none
        ((spotReadiness service timeouts provider set name c r).opening.withLog []) := by
    unfold Poll.untilDone
    rw [hscope]
    rfl
  rw [hnoting, attempts_noting]
  rfl

/-! ### The main result -/

/-- **A wait for spot machines of a set** that was found in a run, by its course, the requests that each
attempt issues, and what comes of it. -/
structure Classifies (service : Service τ) (timeouts : Timeouts) (provider : Provider)
    (set : MachineSet) (name : String) (c : Context) (r : Run (Traffic τ))
    (w : Course (Traffic τ) SpotOutcome) (issued : Nat → List Request)
    (outcome : Option (Except ClusterError Unit × Run (Traffic τ))) : Prop where
  /-- What machines and nodes are judged by. -/
  criteria : Criteria set
  paces : Poll.Paces ⟨timeouts.retryMedium, some timeouts.waitLong⟩ c r w
  /-- Each attempt goes one of the ways, -/
  attempts : ∀ k, SpotWay service provider set name (w.before k) (issued k) (w.decision k) (w.after k)
  /-- and no other: a way that describes what it sees is the one that it goes. -/
  ways : ∀ k requests d r', SpotWay service provider set name (w.before k) requests d r' →
    w.decision k = d ∧ w.after k = r'
  /-- What is sent until the wait ends is what the attempts issue, in their order. -/
  requests : ∀ result left, outcome = some (result, left) → ∃ n, (∀ k, w.Started k ↔ k < n) ∧
    Asked r left ((List.range n).flatMap issued)
  /-- Insufficient capacity is told exactly if an attempt is made whose listing shows as many machines
  as are wanted and no failed one, of the first machine that is reported for it, if all reports before
  it can be checked; -/
  insufficient_iff : ∀ result left, outcome = some (result, left) → ∀ machine,
    result = .error (.insufficientCapacity machine) ↔
      ∃ k machines r' m, w.Started k ∧ Listed service set (w.before k) (.ok machines) r' ∧
        machines.length = set.wanted ∧ Machine.failed machines = [] ∧
        ReportedFirst provider machines m (.ok true) ∧ machine = m.nameAny
  /-- the attempt that sees it is the last. -/
  told : ∀ k requests machine r', w.Started k → k < w.granted →
    SpotWay service provider set name (w.before k) requests (.done (.exhausted machine)) r' →
    w.EndsWith k (.error (.insufficientCapacity machine)) outcome
  /-- The wait stops exactly with an attempt that cannot list the machines, or sees a failed one or a
  report that cannot be checked. -/
  stopped_iff : ∀ result left, outcome = some (result, left) → ∀ n m,
    result = .error (.wait (.stoppedTrying n m)) ↔
      ∃ k, n = .ofNat (k + 1) ∧ w.Started k ∧ StopsFor service provider set name (w.before k) m
  /-- It succeeds exactly with an attempt that sees as many machines as are wanted, no failed one and no
  other report than that the machine was supplied, all of them running, and each with a node that is
  ready. -/
  ok_iff : ∀ result left, outcome = some (result, left) → (result = .ok () ↔
    ∃ k machines r' requests r'', w.Started k ∧ Listed service set (w.before k) (.ok machines) r' ∧
      machines.length = set.wanted ∧ Machine.failed machines = [] ∧
      (∀ m ∈ machines, m.Supplied provider) ∧ (∀ m ∈ machines, m.phase = some .running) ∧
      NodesAsked service machines r' requests none r'')
  /-- Else all attempts asked for another and the context ended, and it is told why. -/
  otherwise : ∀ result left, outcome = some (result, left) → result = .ok () ∨
    (∃ machine, result = .error (.insufficientCapacity machine)) ∨
    (∃ n m, result = .error (.wait (.stoppedTrying n m))) ∨
    ∃ n why, (∀ k, w.Started k ↔ k < n) ∧ (∀ k < n, ∃ m, w.decision k = .retry m) ∧
      left.time.err w.context = some why ∧
      result = .error (.wait (.ofCancellation why (.ofNat n) (w.last n)))
  /-- It is the same to note exhausted machines beside a wait that stops at them, and to look for a note
  when it ended. -/
  noted : outcome = (Poll.untilDone ⟨timeouts.retryMedium, some timeouts.waitLong⟩ c
    (fun _ => notingAttempt (spotAttempt service provider set name)) (r.withLog [])).map
      fun x => (classify x.1 x.2.world.2, x.2.plain)
  /-- There is no result only when all attempts granted ask for another, -/
  endless_iff : outcome = none ↔ w.GoesOn w.granted
  /-- and this does not happen when attempts are some time apart: then all that are made are granted, as
  they are in a patient run, -/
  granted : ∀ k, w.Started k → 0 < timeouts.retryMedium ∨ k ≤ r.patience → k < w.granted
  /-- and the wait ends. -/
  ends : 0 < timeouts.retryMedium → ∃ result left, outcome = some (result, left)

/-- **Waiting for spot machines:** a set that cannot be had is told, with nothing else asked, and one
that was found is waited for. -/
structure ClassifiesSpot (service : Service τ) (timeouts : Timeouts) (provider : Provider)
    (inNamespace name : String) (c : Context) (r : Run (Traffic τ)) : Prop where
  asked : Asked r (getMachineSet service inNamespace name r).2 [setRequest inNamespace name]
  refused : ∀ e left, getMachineSet service inNamespace name r = (.error e, left) →
    awaitSpotMachineSet service timeouts provider inNamespace name c r = some (.error (.request e), left)
  found : ∀ set opened, getMachineSet service inNamespace name r = (.ok set, opened) →
    ∃ issued, Classifies service timeouts provider set name c opened
      (spotReadiness service timeouts provider set name c opened) issued
      (awaitSpotMachineSet service timeouts provider inNamespace name c r)

theorem awaitSpotMachineSet_of_refused {service : Service τ} {timeouts : Timeouts}
    {provider : Provider} {inNamespace name : String} {c : Context} {e : RequestError}
    {r left : Run (Traffic τ)} (h : getMachineSet service inNamespace name r = (.error e, left)) :
    awaitSpotMachineSet service timeouts provider inNamespace name c r =
      some (.error (.request e), left) := by
  simp only [awaitSpotMachineSet, bind, StateT.bind, liftM, monadLift, MonadLift.monadLift, h,
    Option.bind_some]
  rfl

theorem exists_classifies (service : Service τ) (timeouts : Timeouts) (provider : Provider)
    (set : MachineSet) (name : String) (c : Context) (r : Run (Traffic τ)) :
    ∃ issued, Classifies service timeouts provider set name c r
      (spotReadiness service timeouts provider set name c r) issued
      ((spotReadiness service timeouts provider set name c r).outcome spotResult) := by
  have hattempt : (spotReadiness service timeouts provider set name c r).attempt =
      fun _ => spotAttempt service provider set name := rfl
  have hways (k : Nat) := spotWay_of_attempt hattempt k
  choose issued hissued using hways
  have hasked (k : Nat) (_ : (spotReadiness service timeouts provider set name c r).Started k) :=
    (hissued k).attempted.asked_requests
  have hopening : Asked r (spotReadiness service timeouts provider set name c r).opening [] :=
    asked_opening _ c _ r
  refine ⟨issued, criteria set, Poll.paces_of _ c _ r, hissued,
    fun k _ _ _ => decision_of_spotWay hattempt,
    fun result left h => ?_, fun result left h => ?_, fun k requests machine r' hs hk hway => ?_,
    fun result left h => ?_, fun result left h => ?_, fun result left h => ?_,
    outcome_eq_noting service timeouts provider set name c r, Course.outcome_eq_none_iff,
    fun k hs hk => lt_granted_spotReadiness hk hs,
    fun hi => Course.exists_outcome _ (not_goesOn_spotReadiness hi)⟩
  · obtain ⟨n, result', he, rfl⟩ := Course.exists_ends_of_outcome h
    exact ⟨n, he.started_iff, asked_left hopening hasked he⟩
  · obtain ⟨n, result', he, rfl⟩ := Course.exists_ends_of_outcome h
    exact insufficient_iff_of_ends hattempt he
  · have hd := (decision_of_spotWay hattempt hway).1
    exact Course.endsWith_of_decided spotResult hk (.done hs hd) (by rw [hd]; nofun)
  · obtain ⟨n, result', he, rfl⟩ := Course.exists_ends_of_outcome h
    exact stopped_iff_of_ends hattempt he
  · obtain ⟨n, result', he, rfl⟩ := Course.exists_ends_of_outcome h
    exact running_iff_of_ends hattempt he
  · obtain ⟨n, result', he, rfl⟩ := Course.exists_ends_of_outcome h
    have hcases := he.result_cases_of_uncut (decision_ne_cancelled hattempt)
    rcases hcases with ⟨k, v, -, -, rfl⟩ | ⟨k, m, -, -, rfl⟩ | ⟨why, hwhy, hretry, rfl⟩
    · cases v with
      | running => exact .inl rfl
      | exhausted machine => exact .inr (.inl ⟨machine, rfl⟩)
    · exact .inr (.inr (.inl ⟨_, _, rfl⟩))
    · exact .inr (.inr (.inr ⟨n, why, he.started_iff, hretry, hwhy, rfl⟩))

/-- **Waiting for spot machines classifies every end,** for every service, provider and context. -/
theorem awaitSpotMachineSet_classifies (service : Service τ) (timeouts : Timeouts)
    (provider : Provider) (inNamespace name : String) (c : Context) (r : Run (Traffic τ)) :
    ClassifiesSpot service timeouts provider inNamespace name c r := by
  refine ⟨asked_ask service (setRequest inNamespace name) _ r,
    fun e left h => awaitSpotMachineSet_of_refused h, fun set opened h => ?_⟩
  rw [awaitSpotMachineSet_of_found h]
  exact exists_classifies service timeouts provider set name c opened

end ClusterWait
