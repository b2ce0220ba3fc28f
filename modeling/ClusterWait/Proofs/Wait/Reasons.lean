import ClusterWait.Proofs.Wait.Checking
import Mathlib.Data.List.Forall2

/-! # Assertions that fail leave their reasons

A *call* is an assertion made on a sink, with whatever values it compares or unwraps. It *passes*
when it returns neither false nor nothing. What a call finds does not depend on the sink
(`Call.finding`), and there are two ways to perform it (`Call.Performed`): it returns what it was
given and leaves the sink alone, or it fails and records its message.

A *conjunction* is an assertion that makes calls between steps of the run and holds when all of them
pass. What it does next may depend on all that it was told. In the end it comes to a sequence of
calls (`Conjunction.evaluation_fst`), so that what is told of sequences is told of it.

* `Sink.KeepsRecord`: the sink tells exactly which calls of a sequence failed, and why.
* `Assertion.GivesReasons`: an assertion fails if and only if it recorded a failure.
* `Reasoned`: what a wait reports was recorded by an evaluation of its own. -/

namespace ClusterWait

namespace Sink

/-! ### Calls -/

/-- **A call of a sink.** Values of any type are compared or unwrapped, with any test of equality
and any words for them. -/
inductive Call : Type 1
  | fail (message : String)
  | expect (holds : Bool) (message : String)
  | expectEq {α : Type} [BEq α] (expected actual : α) (shown : α → String) (subject : String)
  | expectOk {ε α : Type} (result : Except ε α) (shown : ε → String) (subject : String)
  | expectSome {α : Type} (value : Option α) (subject : String)

namespace Call

/-- What a call returns: a verdict, or the value that it unwraps. -/
def Answer : Call → Type
  | fail _ | expect _ _ | expectEq _ _ _ _ => Bool
  | @expectOk _ α _ _ _ | @expectSome α _ _ => Option α

/-- **A call made on a sink:** its answer and the sink that it leaves. -/
def perform : (k : Call) → Sink → k.Answer × Sink
  | fail message, s => s.fail message
  | expect holds message, s => s.expect holds message
  | expectEq expected actual shown subject, s => s.expectEq expected actual shown subject
  | expectOk result shown subject, s => s.expectOk result shown subject
  | expectSome value subject, s => s.expectSome value subject

/-- The answer is neither false nor nothing. -/
def passes : (k : Call) → k.Answer → Bool
  | fail _, b | expect _ _, b | expectEq _ _ _ _, b => b
  | expectOk _ _ _, v | expectSome _ _, v => v.isSome

/-- **What a call finds:** the value that it was given, or what is wrong. -/
def finding : (k : Call) → Except String k.Answer
  | fail message => .error message
  | expect true _ => .ok true
  | expect false message => .error message
  | expectEq expected actual shown subject =>
    if actual == expected then .ok true
    else .error (subject ++ ": expected " ++ shown expected ++ ", got " ++ shown actual)
  | expectOk (.ok v) _ _ => .ok (some v)
  | expectOk (.error e) shown subject => .error (subject ++ ": " ++ shown e)
  | expectSome (some v) _ => .ok (some v)
  | expectSome none subject => .error (subject ++ ": expected a value, found none")

/-- The call fails with a message. -/
def FailsWith (k : Call) (message : String) : Prop := k.finding = .error message

/-- **The ways of a call.** -/
inductive Performed (k : Call) (s : Sink) : k.Answer × Sink → Prop
  | passed {a : k.Answer} (hf : k.finding = .ok a) (hp : k.passes a = true) : Performed k s (a, s)
  | failed {a : k.Answer} {m : String} (hf : k.FailsWith m) (hp : k.passes a = false) :
    Performed k s (a, s.record m)

theorem performed (k : Call) (s : Sink) : k.Performed s (k.perform s) := by
  cases k with
  | fail message => exact .failed rfl rfl
  | expect holds message =>
    cases holds with
    | true => exact .passed rfl rfl
    | false => exact .failed rfl rfl
  | expectEq expected actual shown subject =>
    change Performed (expectEq expected actual shown subject) s
      (s.expectEq expected actual shown subject)
    cases h : actual == expected with
    | true =>
      have hperform : s.expectEq expected actual shown subject = (true, s) := by
        rw [Sink.expectEq, h]; rfl
      rw [hperform]
      exact .passed (if_pos h) rfl
    | false =>
      have hperform : s.expectEq expected actual shown subject =
          s.fail (subject ++ ": expected " ++ shown expected ++ ", got " ++ shown actual) := by
        rw [Sink.expectEq, h]; rfl
      rw [hperform]
      exact .failed (if_neg (by rw [h]; nofun)) rfl
  | expectOk result shown subject =>
    cases result with
    | ok v => exact .passed rfl rfl
    | error e => exact .failed rfl rfl
  | expectSome value subject =>
    cases value with
    | some v => exact .passed rfl rfl
    | none => exact .failed rfl rfl

/-- **What a call made on a sink tells.** -/
structure Told (k : Call) (s : Sink) : Prop where
  /-- It returns false or nothing if and only if it appends exactly one message: -/
  fails_iff : k.passes (k.perform s).1 = false ↔
    ∃ m, (k.perform s).2.failures = s.failures ++ [m]
  /-- this is the message of its failure. -/
  failed : k.passes (k.perform s).1 = false →
    ∃ m, k.FailsWith m ∧ (k.perform s).2.failures = s.failures ++ [m]
  /-- Else it returns what it was given and leaves the sink as it was. -/
  passed : k.passes (k.perform s).1 = true →
    k.finding = .ok (k.perform s).1 ∧ (k.perform s).2 = s

theorem told (k : Call) (s : Sink) : k.Told s := by
  have h := k.performed s
  generalize hx : k.perform s = x at h
  cases h with
  | passed hf hp =>
    refine ⟨?_, ?_, ?_⟩ <;> rw [hx]
    · refine ⟨fun h => absurd hp (by rw [h]; nofun), ?_⟩
      rintro ⟨m, hm⟩
      exact absurd hm (by simp)
    · exact fun h => absurd hp (by rw [h]; nofun)
    · exact fun _ => ⟨hf, rfl⟩
  | @failed _ m hf hp =>
    refine ⟨?_, ?_, ?_⟩ <;> rw [hx]
    · exact ⟨fun _ => ⟨m, rfl⟩, fun _ => hp⟩
    · exact fun _ => ⟨m, hf, rfl⟩
    · exact fun h => absurd h (by rw [hp]; nofun)

end Call

/-! ### Sequences of calls -/

/-- The sink after a sequence of calls. -/
def after (s : Sink) (calls : List Call) : Sink := calls.foldl (fun s k => (k.perform s).2) s

/-- **The calls of a sequence that return false or nothing.** -/
def failing (s : Sink) : List Call → List Call
  | [] => []
  | k :: rest =>
    if k.passes (k.perform s).1 then (k.perform s).2.failing rest
    else k :: (k.perform s).2.failing rest

section Sequence
variable {s : Sink} {k : Call} (rest : List Call)

theorem after_append (s : Sink) (earlier later : List Call) :
    s.after (earlier ++ later) = (s.after earlier).after later := List.foldl_append

theorem failing_cons_of_passes (h : k.passes (k.perform s).1 = true) :
    s.failing (k :: rest) = s.failing rest ∧ s.after (k :: rest) = s.after rest := by
  have hleft : (k.perform s).2 = s := ((k.told s).passed h).2
  rw [failing, if_pos h, after, List.foldl_cons, hleft]
  exact ⟨rfl, rfl⟩

theorem failing_cons_of_fails (h : k.passes (k.perform s).1 = false) :
    s.failing (k :: rest) = k :: (k.perform s).2.failing rest := by
  rw [failing, h]
  rfl

/-- **A sequence of calls appends the messages of those that fail,** one for each, in their order.
-/
theorem failures_after (s : Sink) (calls : List Call) : ∃ messages,
    (s.after calls).failures = s.failures ++ messages ∧
      List.Forall₂ Call.FailsWith (s.failing calls) messages := by
  induction calls generalizing s with
  | nil => exact ⟨[], (List.append_nil _).symm, .nil⟩
  | cons k rest ih =>
    cases hp : k.passes (k.perform s).1 with
    | true =>
      obtain ⟨hfailing, hafter⟩ := failing_cons_of_passes rest hp
      rw [hfailing, hafter]
      exact ih s
    | false =>
      obtain ⟨m, hm, hleft⟩ := (k.told s).failed hp
      obtain ⟨messages, hafter, hall⟩ := ih (k.perform s).2
      rw [failing_cons_of_fails rest hp]
      refine ⟨m :: messages, ?_, .cons hm hall⟩
      rw [hleft, List.append_assoc] at hafter
      exact hafter

/-- A sink loses nothing. -/
theorem failures_prefix_after (s : Sink) (calls : List Call) :
    s.failures <+: (s.after calls).failures := by
  obtain ⟨messages, h, -⟩ := failures_after s calls
  exact ⟨messages, h.symm⟩

/-- **A sink that was fresh holds the messages of the calls that failed.** -/
theorem forall₂_failing (calls : List Call) :
    List.Forall₂ Call.FailsWith (fresh.failing calls) (fresh.after calls).failures := by
  obtain ⟨messages, h, hall⟩ := failures_after fresh calls
  rw [h]
  exact hall

theorem failing_eq_nil_iff (calls : List Call) :
    fresh.failing calls = [] ↔ (fresh.after calls).failures = [] := by
  have h := (forall₂_failing calls).length_eq
  rw [← List.length_eq_zero_iff, h, List.length_eq_zero_iff]

end Sequence

/-! ### What a sink tells -/

theorem failed_iff (s : Sink) : s.failed = true ↔ s.failures ≠ [] := by
  rw [failed, Bool.not_eq_true', List.isEmpty_eq_false_iff]

theorem message?_eq_none_iff (s : Sink) : s.message? = none ↔ s.failures = [] := by
  unfold message?
  simp only [List.isEmpty_iff, ite_eq_left_iff, reduceCtorEq, imp_false, not_not]

theorem message?_of_ne_nil {s : Sink} (h : s.failures ≠ []) :
    s.message? = some ("; ".intercalate s.failures) := by
  unfold message?
  rw [if_neg (List.isEmpty_iff.not.mpr h)]

/-- **A sink keeps the record** of a sequence of calls. -/
structure KeepsRecord (calls : List Call) : Prop where
  /-- Each call either returns false or nothing and appends its message, or returns what it was
  given and appends nothing. -/
  call : ∀ earlier k later, calls = earlier ++ k :: later → k.Told (fresh.after earlier)
  /-- The failures are the messages of the calls that failed, in their order: -/
  failures : List.Forall₂ Call.FailsWith (fresh.failing calls) (fresh.after calls).failures
  /-- none is ever lost. -/
  grows : ∀ earlier later, calls = earlier ++ later →
    (fresh.after earlier).failures <+: (fresh.after calls).failures
  /-- The sink says that it failed if and only if some call did, -/
  failed_iff : (fresh.after calls).failed = true ↔ fresh.failing calls ≠ []
  /-- it has no message if and only if none did, -/
  message?_iff : (fresh.after calls).message? = none ↔ fresh.failing calls = []
  /-- and else it has all of theirs in one line. -/
  message? : fresh.failing calls ≠ [] →
    (fresh.after calls).message? = some ("; ".intercalate (fresh.after calls).failures)

theorem keepsRecord (calls : List Call) : KeepsRecord calls where
  call earlier k _ _ := k.told (fresh.after earlier)
  failures := forall₂_failing calls
  grows earlier later h := by
    rw [h, after_append]
    exact failures_prefix_after _ later
  failed_iff := by rw [Sink.failed_iff, ne_eq, ne_eq, failing_eq_nil_iff]
  message?_iff := by rw [message?_eq_none_iff, failing_eq_nil_iff]
  message? h := message?_of_ne_nil ((failing_eq_nil_iff calls).not.mp h)

example : (fresh.after [.expectEq 2 1 Text.Decimal.render "replicas", .expect true "unused",
    .expectSome (none : Option String) "nodeRef"]).message? =
      some "replicas: expected 2, got 1; nodeRef: expected a value, found none" := by
  decide +kernel

end Sink

/-! ### Conjunctions -/

variable {σ : Type}

/-- **An assertion made of calls:** it makes calls of its sink between steps of the run, and what it
does next may depend on all that it was told. -/
inductive Conjunction (σ : Type) : Type 1
  | finish
  | step {α : Type} (act : Act σ α) (next : α → Conjunction σ)
  | call (k : Sink.Call) (next : k.Answer → Conjunction σ)

namespace Conjunction

/-- **It holds when all its calls pass.** -/
def evaluation : Conjunction σ → Sink → Act σ (Bool × Sink)
  | finish, s => pure (true, s)
  | step act next, s => do (next (← act)).evaluation s
  | call k next, s => do
    let (answer, s) := k.perform s
    let (holds, s) ← (next answer).evaluation s
    pure (k.passes answer && holds, s)

/-- The calls that it makes. -/
def calls : Conjunction σ → Sink → Run σ → List Sink.Call
  | finish, _, _ => []
  | step act next, s, r => (next (act r).1).calls s (act r).2
  | call k next, s, r => k :: (next (k.perform s).1).calls (k.perform s).2 r

/-- The assertion that a conjunction for each context makes. -/
def assertion (a : Context → Conjunction σ) : Assertion σ := fun c => (a c).evaluation

theorem evaluation_step {α : Type} {act : Act σ α} {r r' : Run σ} {v : α} (h : act r = (v, r'))
    (next : α → Conjunction σ) (s : Sink) :
    (step act next).evaluation s r = (next v).evaluation s r' := by
  simp only [evaluation, bind, StateT.bind, h]

theorem evaluation_call (k : Sink.Call) (next : k.Answer → Conjunction σ) (s : Sink) (r : Run σ) :
    (call k next).evaluation s r =
      ((k.passes (k.perform s).1 && ((next (k.perform s).1).evaluation (k.perform s).2 r).1.1,
          ((next (k.perform s).1).evaluation (k.perform s).2 r).1.2),
        ((next (k.perform s).1).evaluation (k.perform s).2 r).2) := rfl

/-- After a call that passes it goes on with the value. -/
theorem evaluation_call_of_ok {k : Sink.Call} {a : k.Answer} (h : k.finding = .ok a)
    (next : k.Answer → Conjunction σ) (s : Sink) (r : Run σ) :
    (call k next).evaluation s r = (next a).evaluation s r := by
  rw [evaluation_call]
  have hk := k.performed s
  generalize k.perform s = x at hk
  cases hk with
  | passed hf hp =>
    rw [h] at hf
    cases hf
    rw [hp]
    rfl
  | failed hf hp =>
    rw [Sink.Call.FailsWith, h] at hf
    cases hf

/-- **A conjunction comes to the sequence of its calls.** -/
theorem evaluation_fst (a : Conjunction σ) (s : Sink) (r : Run σ) : (a.evaluation s r).1 =
    ((s.failing (a.calls s r)).isEmpty, s.after (a.calls s r)) := by
  induction a generalizing s r with
  | finish => rfl
  | step act next ih => exact ih (act r).1 s (act r).2
  | call k next ih =>
    rw [evaluation_call, ih (k.perform s).1 (k.perform s).2 r, calls, Sink.failing]
    cases k.passes (k.perform s).1 <;> rfl

end Conjunction

/-! ### Reasons -/

/-- **The assertion gives its reasons.** -/
structure Assertion.GivesReasons (a : Assertion σ) : Prop where
  /-- It fails if and only if it recorded a failure, -/
  fails_iff : ∀ c r, (a c .fresh r).1.1 = false ↔ (a c .fresh r).1.2.failures ≠ []
  /-- and then its evaluation is told with all that it recorded. -/
  told : ∀ c r m left, evaluate c a r = (.failed m, left) → (a c .fresh r).1.2.message? = some m

/-- A trial that failed and recorded why is told with what it recorded. -/
theorem Trial.message?_left {t : Trial} (h : t.left.failures ≠ []) :
    t.left.message? = some t.reason := by
  rw [Sink.message?_of_ne_nil h, reason, if_neg h]

/-- **A conjunction gives its reasons.** -/
theorem Conjunction.givesReasons (a : Context → Conjunction σ) :
    (Conjunction.assertion a).GivesReasons := by
  have fails_iff (c : Context) (r : Run σ) : (assertion a c .fresh r).1.1 = false ↔
      (assertion a c .fresh r).1.2.failures ≠ [] := by
    have h : (assertion a c .fresh r).1 = _ := (a c).evaluation_fst .fresh r
    rw [h, List.isEmpty_eq_false_iff, ne_eq, ne_eq, Sink.failing_eq_nil_iff]
  refine ⟨fails_iff, fun c r m left he => ?_⟩
  cases hl : r.time.err c with
  | some e =>
    rw [evaluate_of_ended hl] at he
    cases he
  | none =>
    rw [evaluate_of_live hl .check] at he
    cases hh : ((assertion a).trial .check c r).holds with
    | true => rw [hh] at he; cases he
    | false =>
      rw [hh] at he
      cases he
      exact Trial.message?_left (t := (assertion a).trial .check c r) ((fails_iff c r).mp hh)

/-! ### Waits -/

section Wait
variable {check condition : Assertion σ}

/-- What is told of a wait by its log was told by a trial that failed. -/
theorem Outcome.exists_told {c : Context} {opening left : Timeline} {log : List Trial}
    {result : Except WaitError Unit} (h : Outcome c opening log result left) {e : WaitError}
    {m : String} (he : result = .error e) (hm : e.detail = some m) :
    ∃ t ∈ log, t.holds = false ∧ t.reason = m := by
  by_cases hcheck : ∃ t ∈ log, t.role = .check ∧ t.holds = false
  · obtain ⟨t, ht, hr, hh⟩ := hcheck
    have hresult := (h.checkFailed t ht hr hh).2
    rw [he] at hresult
    cases hresult
    exact ⟨t, ht, hh, Option.some.inj hm⟩
  by_cases hcondition : ∃ t ∈ log, t.role = .condition ∧ t.holds = true
  · have hresult := h.ok_iff.mpr hcondition
    rw [he] at hresult
    cases hresult
  -- no trial decided, so the last condition that failed is told
  have hall : ∀ t ∈ log, t.holds = true ↔ t.role = .check := by
    intro t ht
    cases hr : t.role with
    | check => cases hh : t.holds with
      | true => exact ⟨fun _ => rfl, fun _ => rfl⟩
      | false => exact absurd ⟨t, ht, hr, hh⟩ hcheck
    | condition => cases hh : t.holds with
      | true => exact absurd ⟨t, ht, hr, hh⟩ hcondition
      | false => exact ⟨nofun, nofun⟩
  obtain ⟨e', -, hresult⟩ := h.cutOff hall
  rw [he] at hresult
  cases hresult
  have hlast : lastReason log = some m := by cases e' <;> exact hm
  obtain ⟨t, ht, rfl⟩ := Option.map_eq_some_iff.mp hlast
  obtain ⟨ht, hfailed⟩ := List.mem_filter.mp (List.mem_of_getLast? ht)
  rw [Bool.and_eq_true, Bool.not_eq_true'] at hfailed
  exact ⟨t, ht, hfailed.2, rfl⟩

/-- **Every trial of a wait that failed has its reason,** if both assertions give theirs. -/
theorem message?_of_mem_trials {w : Course σ Unit} (hcheck : check.GivesReasons)
    (hcondition : condition.GivesReasons) {n : Nat} {t : Trial}
    (ht : t ∈ w.trials check condition n) (hh : t.holds = false) :
    t.left.message? = some t.reason := by
  have trial {a : Assertion σ} (ha : a.GivesReasons) {role : Script.Role} {r : Run σ}
      (ht : t ∈ a.trials role w.context r) : t.left.message? = some t.reason := by
    unfold Assertion.trials at ht
    split_ifs at ht
    · cases ht
    · obtain rfl := List.mem_singleton.mp ht
      exact Trial.message?_left ((ha.fails_iff w.context r).mp hh)
  obtain ⟨k, -, hk⟩ := List.mem_flatMap.mp ht
  rcases List.mem_append.mp hk with hk | hk
  · exact trial hcheck hk
  · split at hk
    · exact trial hcondition hk
    · cases hk

variable (check condition) in
/-- **A wait tells what its assertions recorded.** Its trials are logged by the assertions
themselves. -/
structure Reasoned (interval : Nat) (c : Context) (r : Run σ) : Prop where
  /-- Each trial that failed is told with what it recorded, -/
  trials : ∀ result left, checkUntil interval c (check.watched .check)
    (condition.watched .condition) (r.withLog []) = some (result, left) →
    ∀ t ∈ left.world.2, t.holds = false → t.left.message? = some t.reason
  /-- and what the wait tells when it fails, with a log or without, is what one of them recorded. -/
  result : ∀ e left m, checkUntil interval c check condition r = some (.error e, left) →
    e.detail = some m → ∃ logged, left = logged.plain ∧ checkUntil interval c
      (check.watched .check) (condition.watched .condition) (r.withLog []) =
        some (.error e, logged) ∧
      ∃ t ∈ logged.world.2, t.holds = false ∧ t.left.message? = some m

theorem reasoned (hcheck : check.GivesReasons) (hcondition : condition.GivesReasons)
    (interval : Nat) (c : Context) (r : Run σ) : Reasoned check condition interval c r := by
  have told {result : Except WaitError Unit} {left : Run (σ × List Trial)}
      (h : checkUntil interval c (check.watched .check) (condition.watched .condition)
        (r.withLog []) = some (result, left)) :
      Outcome c r.time left.world.2 result left.time ∧
        ∀ t ∈ left.world.2, t.holds = false → t.left.message? = some t.reason := by
    obtain ⟨n, found, plain, he, rfl, rfl⟩ := exists_ends_of_checkUntil_watched h
    exact ⟨(ended (w := Course.checking interval c check condition r) rfl he).2,
      fun t ht hh => message?_of_mem_trials hcheck hcondition ht hh⟩
  refine ⟨fun result left h => (told h).2, fun e left m h hm => ?_⟩
  rw [checkUntil_eq_map_watched, Option.map_eq_some_iff] at h
  obtain ⟨⟨result, logged⟩, h, heq⟩ := h
  cases heq
  obtain ⟨t, ht, hh, rfl⟩ := (told h).1.exists_told rfl hm
  exact ⟨logged, rfl, h, t, ht, hh, (told h).2 t ht hh⟩

end Wait

/-! ### The main result -/

/-- **What fails on a sink is on its record, and a conjunction of calls never fails without a
reason:** it comes to the sequence of its calls, its evaluation is told with what these recorded,
and so is a wait for which it is the check or the condition. -/
theorem failures_have_reasons (calls : List Sink.Call) (check condition : Context → Conjunction σ)
    (interval : Nat) (c : Context) (r : Run σ) :
    Sink.KeepsRecord calls ∧
      (∀ s : Sink, ((check c).evaluation s r).1 =
        ((s.failing ((check c).calls s r)).isEmpty, s.after ((check c).calls s r))) ∧
      (Conjunction.assertion check).GivesReasons ∧
      Reasoned (Conjunction.assertion check) (Conjunction.assertion condition) interval c r :=
  ⟨Sink.keepsRecord calls, fun s => (check c).evaluation_fst s r, Conjunction.givesReasons check,
    reasoned (Conjunction.givesReasons check) (Conjunction.givesReasons condition) interval c r⟩

end ClusterWait
