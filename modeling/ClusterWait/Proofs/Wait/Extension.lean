import ClusterWait.Proofs.Wait.Bounds
import ClusterWait.Proofs.Wait.Checking

/-! # A later deadline only extends a wait

Two runs are *in step* (`InStep`), each seen by a context of its own, when their clocks and worlds are
equal and the two tokens are cancelled at the same instants. Deadlines are left out of it: the second
context may outlast the first (`Context.OutlastedBy`). Acts that *match* (`Act.Matches`) decide the same
in runs in step and leave runs in step; they may use the number of the attempt, the clock and the world,
and they may cancel their context, but they do not look at its deadline.

* `Course.Beside`: two courses whose attempts match, except that the deadline of the first may cut one of
  its attempts off. Every attempt that the first makes, the second makes in step
  (`Course.Beside.before`), and an end of the first other than a timeout is the end of the second
  (`Course.Beside.ends`).
* `beside_of_matches`, `beside_checking`: waits with matching attempts, and waits with matching checks
  and conditions, which do look at the deadline between the two.
* `later_deadline_extends` puts this together for the logs and the results of both kinds of wait.

Steps of scripts and scripted assertions match (`matches_perform`, `matches_assertionOf`). -/

namespace ClusterWait

variable {σ α β : Type}

/-! ### Runs in step -/

/-- **Two runs in step,** each seen by a context: they differ in deadlines only. -/
structure InStep (c c' : Context) (r r' : Run σ) : Prop where
  now_eq : r'.time.now = r.time.now
  cancelledAt_eq : ∀ n, r'.time.cancelledAt c'.token n = r.time.cancelledAt c.token n
  world_eq : r'.world = r.world

/-- **The deadline of the second context is not earlier.** No deadline is later than all. -/
def Context.OutlastedBy (c c' : Context) : Prop :=
  ∀ d', c'.deadline = some d' → ∃ d ≤ d', c.deadline = some d

/-- **The two acts match:** in runs in step they do the same and stay in step. -/
def Act.Matches (c c' : Context) (act act' : Act σ β) : Prop :=
  ∀ r r', InStep c c' r r' → (act' r').1 = (act r).1 ∧ InStep c c' (act r).2 (act' r').2

namespace InStep

variable {c c' : Context} {r r' : Run σ} (h : InStep c c' r r')
include h

theorem advance (n : Nat) :
    InStep c c' (r.withTime (r.time.advance n)) (r'.withTime (r'.time.advance n)) :=
  ⟨congrArg (· + n) h.now_eq, h.cancelledAt_eq, h.world_eq⟩

theorem atInstant (n : Nat) :
    InStep c c' (r.withTime (r.time.atInstant n)) (r'.withTime (r'.time.atInstant n)) :=
  ⟨rfl, h.cancelledAt_eq, h.world_eq⟩

theorem err_cancelled (he : r.time.err c = some .cancelled) : r'.time.err c' = some .cancelled := by
  rw [Timeline.err_eq_cancelled_iff] at he ⊢
  rw [h.cancelledAt_eq, h.now_eq]
  exact he

/-- **The second context is live while the first is.** -/
theorem live (hd : c.OutlastedBy c') (hl : r.time.err c = none) : r'.time.err c' = none := by
  rw [Timeline.err_eq_none_iff] at hl ⊢
  refine ⟨by rw [h.cancelledAt_eq, h.now_eq]; exact hl.1, fun d' hd' => ?_⟩
  obtain ⟨d, hle, hdeadline⟩ := hd d' hd'
  have hlt := hl.2 d hdeadline
  rw [h.now_eq]
  omega

theorem ended (hd : c.OutlastedBy c') (he : r'.time.ended c' = true) : r.time.ended c = true := by
  by_contra hnot
  have hl := h.live hd (Timeline.ended_eq_false_iff.mp (Bool.eq_false_iff.mpr hnot))
  rw [Timeline.ended, hl] at he
  cases he

end InStep

/-! ### Courses beside each other -/

namespace Course

/-- **Two courses beside each other:** they begin in step, the second context outlasts the first, and
attempts in step match, except those of the first that are cut off by its deadline. -/
structure Beside (w w' : Course σ α) : Prop where
  interval : w'.interval = w.interval
  deadline : w.context.OutlastedBy w'.context
  opening : InStep w.context w'.context w.opening w'.opening
  attempt : ∀ r r', InStep w.context w'.context r r' → r.time.err w.context = none →
    ((w'.attempt w'.context r').1 = (w.attempt w.context r).1 ∧
      InStep w.context w'.context (w.attempt w.context r).2 (w'.attempt w'.context r').2) ∨
    (w.attempt w.context r).1 = .cancelled ∧
      (w.attempt w.context r).2.time.err w.context = some .deadlineExceeded

namespace Beside

variable {w w' : Course σ α} (h : Beside w w')
include h

theorem after {k : Nat} (hs : w.Started k)
    (hb : InStep w.context w'.context (w.before k) (w'.before k)) :
    (w'.decision k = w.decision k ∧ InStep w.context w'.context (w.after k) (w'.after k)) ∨
      w.decision k = .cancelled ∧ (w.after k).time.err w.context = some .deadlineExceeded :=
  h.attempt _ _ hb hs.live

/-- **Every attempt that the first course makes, the second makes in step.** -/
theorem before {k : Nat} (hs : w.Started k) :
    w'.Started k ∧ InStep w.context w'.context (w.before k) (w'.before k) := by
  induction k with
  | zero => exact ⟨h.opening.live h.deadline hs, h.opening⟩
  | succ k ih =>
    obtain ⟨hs, ⟨m, hm⟩, hl⟩ := hs
    obtain ⟨hs', hb⟩ := ih hs
    rcases h.after hs hb with ⟨hd, ha⟩ | ⟨hd, -⟩
    · have hnext : InStep w.context w'.context (w.before (k + 1)) (w'.before (k + 1)) := by
        rw [before_succ, before_succ, h.interval]
        exact ha.advance w.interval
      exact ⟨⟨hs', ⟨m, hd.trans hm⟩, hnext.live h.deadline hl⟩, hnext⟩
    · rw [hm] at hd
      cases hd

/-- An attempt that is not cut off matches. -/
theorem after_of_uncut {k : Nat} (hs : w.Started k)
    (hcut : w.decision k = .cancelled →
      (w.after k).time.err w.context ≠ some .deadlineExceeded) :
    w'.Started k ∧ w'.decision k = w.decision k ∧
      InStep w.context w'.context (w.after k) (w'.after k) := by
  obtain ⟨hs', hb⟩ := h.before hs
  rcases h.after hs hb with ⟨hd, ha⟩ | ⟨hd, he⟩
  · exact ⟨hs', hd, ha⟩
  · exact absurd he (hcut hd)

/-- **The second course makes no fewer attempts.** -/
theorem le {n n' : Nat} {result result' : Except WaitError α} {left left' : Run σ}
    (he : w.Ends n result left) (he' : w'.Ends n' result' left') : n ≤ n' := by
  cases n with
  | zero => exact Nat.zero_le _
  | succ k =>
    have hs : w.Started k := (he.started_iff k).mpr (Nat.lt_succ_self k)
    exact (he'.started_iff k).mp (h.before hs).1

theorem last_eq {k : Nat} (hs : w.Started k) : w'.last k = w.last k := by
  cases k with
  | zero => rfl
  | succ k =>
    obtain ⟨hs, ⟨m, hm⟩, -⟩ := hs
    have hcut (hd : w.decision k = .cancelled) :
        (w.after k).time.err w.context ≠ some .deadlineExceeded := by
      rw [hm] at hd
      cases hd
    rw [last, last, (h.after_of_uncut hs hcut).2.1]

/-- **An end of the first course that is no timeout is the end of the second.** -/
theorem ends {n : Nat} {result : Except WaitError α} {left : Run σ} (he : w.Ends n result left)
    (hr : ∀ k last, result ≠ .error (.timedOut k last)) :
    ∃ left', w'.Ends n result left' ∧ InStep w.context w'.context left left' := by
  -- an attempt that decides is no other in the second course
  have decided {k : Nat} (hs : w.Started k) (hd : w.decision k ≠ .cancelled) :=
    h.after_of_uncut hs fun hc => absurd hc hd
  cases he with
  | @atOnce e he =>
    cases e with
    | cancelled => exact ⟨_, .atOnce (h.opening.err_cancelled he), h.opening⟩
    | deadlineExceeded => exact absurd rfl (hr 0 none)
  | @meanwhile k n m e hs hm hl hn he =>
    cases e with
    | deadlineExceeded => exact absurd rfl (hr _ _)
    | cancelled =>
      obtain ⟨hs', hd, ha⟩ := decided hs (by rw [hm]; intro hd; cases hd)
      have herr := (ha.atInstant n).err_cancelled he
      -- both have ended at the instant, and the second not before, since the first had not
      have hleast : IsLeast {n | (w'.after k).time.now ≤ n ∧
          ((w'.after k).time.atInstant n).ended w'.context = true} n := by
        refine ⟨⟨by rw [ha.now_eq]; exact hn.1.1, Option.isSome_iff_exists.mpr ⟨_, herr⟩⟩,
          fun j hj => hn.2 ⟨by rw [← ha.now_eq]; exact hj.1, ?_⟩⟩
        exact (ha.atInstant j).ended h.deadline hj.2
      have hdead : ¬ w'.Live (k + 1) := by
        intro hl'
        have hlate : n ≤ (w.after k).time.now + w.interval := by
          refine hn.2 ⟨Nat.le_add_right _ _, ?_⟩
          exact Option.isSome_iff_ne_none.mpr hl
        have hended : (w'.before (k + 1)).time.ended w'.context = true := by
          refine Timeline.Precedes.ended (l := (w'.after k).time.atInstant n) ⟨?_, fun _ hx => hx⟩
            hleast.1.2
          rw [before_now, ha.now_eq, h.interval]
          exact hlate
        rw [Timeline.ended, hl'] at hended
        cases hended
      exact ⟨_, .meanwhile hs' (hd.trans hm) hdead hleast herr, ha.atInstant n⟩
  | done hs hd =>
    obtain ⟨hs', hd', ha⟩ := decided hs (by rw [hd]; intro hd; cases hd)
    exact ⟨_, .done hs' (hd'.trans hd), ha⟩
  | stopped hs hd =>
    obtain ⟨hs', hd', ha⟩ := decided hs (by rw [hd]; intro hd; cases hd)
    exact ⟨_, .stopped hs' (hd'.trans hd), ha⟩
  | @cancelled k hs hd =>
    have hcut : (w.after k).time.err w.context ≠ some .deadlineExceeded := by
      intro he
      rw [he] at hr
      exact hr _ _ rfl
    obtain ⟨hs', hd', ha⟩ := h.after_of_uncut hs fun _ => hcut
    have hwhy : ((w'.after k).time.err w'.context).getD .cancelled =
        ((w.after k).time.err w.context).getD .cancelled := by
      cases he : (w.after k).time.err w.context with
      | none => rw [ha.live h.deadline he]
      | some e =>
        cases e with
        | cancelled => rw [ha.err_cancelled he]
        | deadlineExceeded => exact absurd he hcut
    rw [← hwhy, ← h.last_eq hs]
    exact ⟨_, .cancelled hs' (hd'.trans hd), ha⟩

end Beside

end Course

/-! ### Logs -/

/-- Of two lists made piece by piece the first begins the second, if its pieces are those of the second
and its last piece begins one. -/
theorem isPrefix_flatMap_range {μ : Type} {f f' : Nat → List μ} {n n' : Nat} (hle : n ≤ n')
    (hlast : ∀ k < n, f k <+: f' k) (heq : ∀ k, k + 1 < n → f k = f' k) :
    (List.range n).flatMap f <+: (List.range n').flatMap f' := by
  have hrange : (List.range n).flatMap f' <+: (List.range n').flatMap f' := by
    obtain ⟨j, rfl⟩ := Nat.exists_eq_add_of_le hle
    rw [List.range_add, List.flatMap_append]
    exact List.prefix_append _ _
  refine List.IsPrefix.trans ?_ hrange
  cases n with
  | zero => exact List.nil_prefix
  | succ k =>
    have hinit : (List.range k).flatMap f = (List.range k).flatMap f' :=
      List.flatMap_congr fun j hj => heq j (Nat.succ_lt_succ (List.mem_range.mp hj))
    rw [List.range_succ, List.flatMap_append, List.flatMap_append, hinit, List.flatMap_singleton,
      List.flatMap_singleton]
    exact (List.prefix_append_right_inj _).mpr (hlast k (Nat.lt_succ_self k))

/-! ### Waits with matching attempts -/

section Attempts
variable {p p' : Poll} {c c' : Context} {attempt attempt' : Context → Act σ (Attempt α)} {r r' : Run σ}

theorem beside_of_matches (hi : p'.interval = p.interval)
    (hd : (p.scope c r).1.OutlastedBy (p'.scope c' r').1)
    (h : InStep (p.scope c r).1 (p'.scope c' r').1 r r')
    (hm : Act.Matches (p.scope c r).1 (p'.scope c' r').1 (attempt (p.scope c r).1)
      (attempt' (p'.scope c' r').1)) :
    Course.Beside (Course.of p c attempt r) (Course.of p' c' attempt' r') := by
  obtain ⟨hnow, hcancels, hworld, -⟩ := p.scope_opening c r
  obtain ⟨hnow', hcancels', hworld', -⟩ := p'.scope_opening c' r'
  refine ⟨hi, hd, ⟨?_, fun n => ?_, ?_⟩, fun x x' hx _ => .inl (hm x x' hx)⟩
  · exact hnow'.trans (h.now_eq.trans hnow.symm)
  · have hsame := h.cancelledAt_eq n
    unfold Timeline.cancelledAt at hsame ⊢
    rw [← hcancels, ← hcancels'] at hsame
    exact hsame
  · exact hworld'.trans (h.world_eq.trans hworld.symm)

/-- **The attempts of the first wait are the first of the second.** -/
theorem isPrefix_made {w w' : Course σ α} (h : w.Beside w')
    (hm : Act.Matches w.context w'.context (w.attempt w.context) (w'.attempt w'.context)) {n n' : Nat}
    {result result' : Except WaitError α} {left left' : Run σ} (he : w.Ends n result left)
    (he' : w'.Ends n' result' left') : w.made n <+: w'.made n' := by
  have hmade (w : Course σ α) (n : Nat) : w.made n = (List.range n).flatMap
      fun k => [⟨(w.before k).time.now, w.decision k, (w.after k).time.now⟩] := by
    rw [← List.map_eq_flatMap]
    rfl
  have hsame (k : Nat) (hk : k < n) :
      (⟨(w.before k).time.now, w.decision k, (w.after k).time.now⟩ : Made α) =
        ⟨(w'.before k).time.now, w'.decision k, (w'.after k).time.now⟩ := by
    have hb := (h.before ((he.started_iff k).mpr hk)).2
    obtain ⟨hd, ha⟩ := hm _ _ hb
    have hd' : w'.decision k = w.decision k := hd
    have ha' : (w'.after k).time.now = (w.after k).time.now := ha.now_eq
    rw [hb.now_eq, hd', ha']
  rw [hmade, hmade]
  refine isPrefix_flatMap_range (h.le he he') (fun k hk => ?_) fun k hk => ?_
  · rw [hsame k hk]
  · rw [hsame k (Nat.lt_of_succ_lt hk)]

end Attempts

/-! ### Waits with matching checks and conditions -/

/-- **What a trial shows:** which assertion it is of, when it began, its verdict, its sink and when it
ended. -/
structure Mark where
  role : Script.Role
  begun : Nat
  holds : Bool
  left : Sink
  ended : Nat
deriving DecidableEq

def Trial.mark (t : Trial) : Mark := ⟨t.role, t.opened.now, t.holds, t.left, t.closed.now⟩

/-- **The two assertions match,** with any sink. -/
def Assertion.Matches (c c' : Context) (a a' : Assertion σ) : Prop :=
  ∀ sink, Act.Matches c c' (a c sink) (a' c' sink)

section Assertions
variable {c c' : Context} {r r' : Run σ}

theorem Assertion.Matches.leaves {a a' : Assertion σ} (ha : Assertion.Matches c c' a a')
    (h : InStep c c' r r') : InStep c c' (a.leaves c r) (a'.leaves c' r') :=
  (ha .fresh r r' h).2

theorem Assertion.Matches.mark_trial {a a' : Assertion σ} (ha : Assertion.Matches c c' a a')
    (h : InStep c c' r r') (role : Script.Role) :
    (a'.trial role c' r').mark = (a.trial role c r).mark := by
  have hverdict := (ha .fresh r r' h).1
  simp only [Trial.mark, Assertion.trial, hverdict, h.now_eq, (ha.leaves h).now_eq]

theorem Assertion.Matches.holds_trial {a a' : Assertion σ} (ha : Assertion.Matches c c' a a')
    (h : InStep c c' r r') (role : Script.Role) :
    (a'.trial role c' r').holds = (a.trial role c r).holds :=
  congrArg Mark.holds (ha.mark_trial h role)

theorem Assertion.Matches.reason_trial {a a' : Assertion σ} (ha : Assertion.Matches c c' a a')
    (h : InStep c c' r r') (role : Script.Role) :
    (a'.trial role c' r').reason = (a.trial role c r).reason := by
  have hleft : (a'.trial role c' r').left = (a.trial role c r).left :=
    congrArg Mark.left (ha.mark_trial h role)
  unfold Trial.reason
  rw [hleft]

variable {check check' condition condition' : Assertion σ}
  (hcheck : Assertion.Matches c c' check check')
  (hcondition : Assertion.Matches c c' condition condition') (hd : c.OutlastedBy c')
include hcheck hcondition hd

/-- **An attempt with matching assertions** comes to the same, or its check is the last that the deadline
of the first context allows. -/
theorem checkThenCondition_inStep (h : InStep c c' r r') (hl : r.time.err c = none) :
    ((checkThenCondition check' condition' c' r').1 = (checkThenCondition check condition c r).1 ∧
      InStep c c' (checkThenCondition check condition c r).2
        (checkThenCondition check' condition' c' r').2 ∧
      (entries check condition c r).map Trial.mark =
        (entries check' condition' c' r').map Trial.mark) ∨
    (checkThenCondition check condition c r).1 = .cancelled ∧
      (checkThenCondition check condition c r).2.time.err c = some .deadlineExceeded ∧
      (entries check condition c r).map Trial.mark <+:
        (entries check' condition' c' r').map Trial.mark := by
  have hl' := h.live hd hl
  have hleaves := hcheck.leaves h
  unfold checkThenCondition entries
  rw [evaluate_of_live hl .check, evaluate_of_live hl' .check, Assertion.trials_of_live hl,
    Assertion.trials_of_live hl', hcheck.holds_trial h, hcheck.reason_trial h]
  cases (check.trial .check c r).holds with
  | false =>
    refine .inl ⟨rfl, hleaves, ?_⟩
    simp only [Bool.false_eq_true, if_false, List.append_nil, List.map_singleton,
      hcheck.mark_trial h]
  | true =>
    simp only [if_true, List.map_append, List.map_singleton, hcheck.mark_trial h]
    cases he : (check.leaves c r).time.err c with
    | none =>
      have he' := hleaves.live hd he
      rw [evaluate_of_live he .condition, evaluate_of_live he' .condition,
        Assertion.trials_of_live he, Assertion.trials_of_live he', hcondition.holds_trial hleaves,
        hcondition.reason_trial hleaves, List.map_singleton, List.map_singleton,
        hcondition.mark_trial hleaves]
      have hboth := hcondition.leaves hleaves
      cases (condition.trial .condition c (check.leaves c r)).holds with
      | false => exact .inl ⟨rfl, hboth, rfl⟩
      | true => exact .inl ⟨rfl, hboth, rfl⟩
    | some e =>
      rw [evaluate_of_ended he, Assertion.trials_of_ended he]
      cases e with
      | cancelled =>
        have he' := hleaves.err_cancelled he
        rw [evaluate_of_ended he', Assertion.trials_of_ended he']
        exact .inl ⟨rfl, hleaves, rfl⟩
      | deadlineExceeded =>
        exact .inr ⟨rfl, he, List.prefix_append _ _⟩

/-- Waits for a condition with matching assertions. -/
theorem beside_checking (interval : Nat) (h : InStep c c' r r') :
    Course.Beside (Course.checking interval c check condition r)
      (Course.checking interval c' check' condition' r') := by
  refine ⟨rfl, hd, h, fun x x' hx hl => ?_⟩
  rcases checkThenCondition_inStep hcheck hcondition hd hx hl with ⟨hdec, ha, -⟩ | ⟨hdec, he, -⟩
  · exact .inl ⟨hdec, ha⟩
  · exact .inr ⟨hdec, he⟩

/-- **The trials of the first wait are the first of the second.** -/
theorem isPrefix_marks (interval : Nat) (h : InStep c c' r r') {n n' : Nat}
    {result result' : Except WaitError Unit} {left left' : Run σ}
    (he : (Course.checking interval c check condition r).Ends n result left)
    (he' : (Course.checking interval c' check' condition' r').Ends n' result' left') :
    ((Course.checking interval c check condition r).trials check condition n).map Trial.mark <+:
      ((Course.checking interval c' check' condition' r').trials check' condition' n').map
        Trial.mark := by
  have hbeside := beside_checking hcheck hcondition hd interval h
  have hstep {k : Nat} (hs : (Course.checking interval c check condition r).Started k) :=
    checkThenCondition_inStep hcheck hcondition hd (hbeside.before hs).2 hs.live
  rw [Course.trials, Course.trials, Course.log, Course.log, List.map_flatMap, List.map_flatMap]
  refine isPrefix_flatMap_range (hbeside.le he he') (fun k hk => ?_) fun k hk => ?_
  · rcases hstep ((he.started_iff k).mpr hk) with ⟨-, -, hmarks⟩ | ⟨-, -, hmarks⟩
    · exact hmarks ▸ List.prefix_refl _
    · exact hmarks
  · -- an attempt that is followed by another was not cut off
    obtain ⟨hs, ⟨m, hm⟩, -⟩ := (he.started_iff (k + 1)).mpr hk
    rcases hstep hs with ⟨-, -, hmarks⟩ | ⟨hcut, -, -⟩
    · exact hmarks
    · have hd : (Course.checking interval c check condition r).decision k = .cancelled := hcut
      rw [hm] at hd
      cases hd

/-- They are the same if the first does not time out. -/
theorem marks_eq (interval : Nat) (h : InStep c c' r r') {n : Nat}
    {result : Except WaitError Unit} {left : Run σ}
    (he : (Course.checking interval c check condition r).Ends n result left)
    (hr : ∀ k last, result ≠ .error (.timedOut k last)) :
    ((Course.checking interval c check condition r).trials check condition n).map Trial.mark =
      ((Course.checking interval c' check' condition' r').trials check' condition' n).map
        Trial.mark := by
  have hbeside := beside_checking hcheck hcondition hd interval h
  rw [Course.trials, Course.trials, Course.log, Course.log, List.map_flatMap, List.map_flatMap]
  refine List.flatMap_congr fun k hk => ?_
  have hs := (he.started_iff k).mpr (List.mem_range.mp hk)
  rcases checkThenCondition_inStep hcheck hcondition hd (hbeside.before hs).2 hs.live with
    ⟨-, -, hmarks⟩ | ⟨hcut, hend, -⟩
  · exact hmarks
  · -- a wait that is cut off by its deadline times out
    have hafter : ((Course.checking interval c check condition r).after k).time.err
        (Course.checking interval c check condition r).context = some .deadlineExceeded := hend
    have hresult := (he.unique (.cancelled hs hcut)).1
    rw [hafter] at hresult
    exact absurd hresult (hr _ _)

end Assertions

/-! ### The main result -/

/-- **The second of two waits with logs extends the first,** by what their entries show. The entries tell
the number of attempts, and the second run has a patience. -/
structure Extends {ε μ : Type} (mark : ε → μ) (count : List ε → Nat) (patience : Nat)
    (first second : Option (Except WaitError α × Run (σ × List ε))) : Prop where
  /-- The log of the first is the beginning of the log of the second. -/
  log : ∀ result left result' left', first = some (result, left) →
    second = some (result', left') → left.world.2.map mark <+: left'.world.2.map mark
  /-- If the first ends with anything but a timeout, then the second ends with the same result, at the
  same instant, in the same world and with the same log. -/
  same : ∀ result left, first = some (result, left) →
    (∀ n last, result ≠ .error (.timedOut n last)) → ∀ result' left', second = some (result', left') →
      result' = result ∧ left'.time.now = left.time.now ∧ left'.world.1 = left.world.1 ∧
        left'.world.2.map mark = left.world.2.map mark
  /-- It does end if it is patient for as many attempts. -/
  ends : ∀ result left, first = some (result, left) →
    (∀ n last, result ≠ .error (.timedOut n last)) → count left.world.2 ≤ patience →
      ∃ result' left', second = some (result', left')

/-- **A later deadline only extends a wait.** -/
structure LaterDeadlineExtends (c c' : Context) (r r' : Run σ) : Prop where
  /-- Waits with one interval and matching attempts are begun in step, and the context of the second
  outlasts that of the first. What the first attempts, the second attempts in step, and it extends the
  first. -/
  attempts : ∀ {α : Type} (p p' : Poll) (attempt attempt' : Context → Act σ (Attempt α)),
    p'.interval = p.interval → (p.scope c r).1.OutlastedBy (p'.scope c' r').1 →
    InStep (p.scope c r).1 (p'.scope c' r').1 r r' →
    Act.Matches (p.scope c r).1 (p'.scope c' r').1 (attempt (p.scope c r).1)
      (attempt' (p'.scope c' r').1) →
    (∀ k, (Course.of p c attempt r).Started k → (Course.of p' c' attempt' r').Started k ∧
      InStep (p.scope c r).1 (p'.scope c' r').1 ((Course.of p c attempt r).before k)
        ((Course.of p' c' attempt' r').before k)) ∧
    Extends id List.length r'.patience (p.untilDone c (recorded attempt) (r.withLog []))
      (p'.untilDone c' (recorded attempt') (r'.withLog []))
  /-- Likewise for waits with matching checks and conditions. -/
  trials : ∀ (interval : Nat) (check check' condition condition' : Assertion σ),
    c.OutlastedBy c' → InStep c c' r r' → Assertion.Matches c c' check check' →
    Assertion.Matches c c' condition condition' →
    (∀ k, (Course.checking interval c check condition r).Started k →
      (Course.checking interval c' check' condition' r').Started k ∧
      InStep c c' ((Course.checking interval c check condition r).before k)
        ((Course.checking interval c' check' condition' r').before k)) ∧
    Extends Trial.mark checks r'.patience
      (checkUntil interval c (check.watched .check) (condition.watched .condition) (r.withLog []))
      (checkUntil interval c' (check'.watched .check) (condition'.watched .condition)
        (r'.withLog []))

/-- The number of checks in the log of a wait is that of its attempts. -/
theorem checks_trials {w : Course σ Unit} {check condition : Assertion σ}
    (hw : w.attempt = checkThenCondition check condition) {n : Nat} {result : Except WaitError Unit}
    {left : Run σ} (he : w.Ends n result left) : checks (w.trials check condition n) = n := by
  cases n with
  | zero => rfl
  | succ k =>
    obtain ⟨log, es, hes, -, -, hc, -⟩ := added hw ((he.started_iff k).mpr (Nat.lt_succ_self k))
    rw [hes, hc]

/-- **A later deadline only extends a wait,** for all attempts and assertions that do not look at the
deadline. -/
theorem later_deadline_extends (c c' : Context) (r r' : Run σ) :
    LaterDeadlineExtends c c' r r' := by
  refine ⟨fun p p' attempt attempt' hi hd h hm => ?_,
    fun interval check check' condition condition' hd h hcheck hcondition => ?_⟩
  · have hbeside := beside_of_matches hi hd h hm
    refine ⟨fun k hs => hbeside.before hs, fun result left result' left' hfirst hsecond => ?_,
      fun result left hfirst hr result' left' hsecond => ?_, fun result left hfirst hr hcount => ?_⟩
    · obtain ⟨n, plain, he, rfl⟩ := Poll.exists_ends_of_recorded hfirst
      obtain ⟨n', plain', he', rfl⟩ := Poll.exists_ends_of_recorded hsecond
      rw [List.map_id, List.map_id]
      exact isPrefix_made hbeside hm he he'
    · obtain ⟨n, plain, he, rfl⟩ := Poll.exists_ends_of_recorded hfirst
      obtain ⟨n', plain', he', rfl⟩ := Poll.exists_ends_of_recorded hsecond
      obtain ⟨left, hends, hleft⟩ := hbeside.ends he hr
      obtain rfl := hends.number_unique he'
      obtain ⟨rfl, rfl⟩ := hends.unique he'
      have hmade := (isPrefix_made hbeside hm he he').eq_of_length (by simp)
      exact ⟨rfl, hleft.now_eq, hleft.world_eq, by rw [List.map_id, List.map_id]; exact hmade.symm⟩
    · obtain ⟨n, plain, he, rfl⟩ := Poll.exists_ends_of_recorded hfirst
      obtain ⟨left, hends, -⟩ := hbeside.ends he hr
      rw [Run.withLog, Course.length_made] at hcount
      exact ⟨_, _, Poll.untilDone_recorded hends (hends.not_goesOn
        (p'.lt_granted_of_le_patience c' attempt' r' hcount))⟩
  · have hbeside := beside_checking hcheck hcondition hd interval h
    -- a check that failed is told in other words, a timeout is not
    have hplain {result : Except WaitError Unit}
        (hr : ∀ n last, result.mapError WaitError.asCheckFailure ≠ .error (.timedOut n last)) :
        ∀ n last, result ≠ .error (.timedOut n last) := by
      rintro n last rfl
      exact hr n last rfl
    refine ⟨fun k hs => hbeside.before hs, fun result left result' left' hfirst hsecond => ?_,
      fun result left hfirst hr result' left' hsecond => ?_, fun result left hfirst hr hcount => ?_⟩
    · obtain ⟨n, found, plain, he, rfl, rfl⟩ := exists_ends_of_checkUntil_watched hfirst
      obtain ⟨n', found', plain', he', rfl, rfl⟩ := exists_ends_of_checkUntil_watched hsecond
      exact isPrefix_marks hcheck hcondition hd interval h he he'
    · obtain ⟨n, found, plain, he, rfl, rfl⟩ := exists_ends_of_checkUntil_watched hfirst
      obtain ⟨n', found', plain', he', rfl, rfl⟩ := exists_ends_of_checkUntil_watched hsecond
      obtain ⟨left, hends, hleft⟩ := hbeside.ends he (hplain hr)
      obtain rfl := hends.number_unique he'
      obtain ⟨rfl, rfl⟩ := hends.unique he'
      have hmarks := marks_eq hcheck hcondition hd interval h he (hplain hr)
      exact ⟨rfl, hleft.now_eq, hleft.world_eq, hmarks.symm⟩
    · obtain ⟨n, found, plain, he, rfl, rfl⟩ := exists_ends_of_checkUntil_watched hfirst
      obtain ⟨left, hends, -⟩ := hbeside.ends he (hplain hr)
      rw [Run.withLog, checks_trials rfl he] at hcount
      exact ⟨_, _, checkUntil_watched_of_ends hends (hends.not_goesOn
        (Poll.lt_granted_of_le_patience { interval } c' _ r' hcount))⟩

/-! ### Scripts -/

section Scripts
variable {c c' root root' : Context}
  (hroot : root'.token.covers c'.token = root.token.covers c.token)

theorem InStep.cancel {r r' : Run σ} (h : InStep c c' r r') {x x' : Context}
    (hx : x'.token.covers c'.token = x.token.covers c.token) :
    InStep c c' (r.withTime (r.time.cancel x)) (r'.withTime (r'.time.cancel x')) := by
  refine ⟨h.now_eq, fun n => ?_, h.world_eq⟩
  have hsame := h.cancelledAt_eq n
  unfold Timeline.cancelledAt at hsame ⊢
  simp only [Run.withTime, Timeline.cancel, Timeline.cancelAt, List.any_cons, hsame, hx, h.now_eq]

include hroot

/-- **A step of a script does not look at deadlines,** whatever it cancels. -/
theorem matches_perform (s : Script.Step β) :
    Act.Matches (σ := σ) c c' (s.perform root c) (s.perform root' c') := by
  intro r r' h
  have hgiven : c'.token.covers c'.token = c.token.covers c.token := by
    rw [Timeline.covers_refl, Timeline.covers_refl]
  obtain ⟨_ | _ | _, delay, outcome⟩ := s
  · exact ⟨rfl, h.advance delay⟩
  · exact ⟨rfl, (h.cancel hgiven).advance delay⟩
  · exact ⟨rfl, (h.cancel hroot).advance delay⟩

/-- Scripted assertions match. -/
theorem matches_assertionOf (role : Script.Role) (steps : List (Script.Step Script.Verdict)) :
    Assertion.Matches c c' (Script.assertionOf role steps root)
      (Script.assertionOf role steps root') := by
  intro sink r r' h
  have hlogged : InStep c c'
      { r with world := r.world ++ [⟨role, r.time.now, !sink.failed⟩] }
      { r' with world := r'.world ++ [⟨role, r'.time.now, !sink.failed⟩] } :=
    ⟨h.now_eq, h.cancelledAt_eq, by rw [h.world_eq, h.now_eq]⟩
  unfold Script.assertionOf
  simp only [h.world_eq, h.now_eq] at hlogged ⊢
  cases Script.stepAt steps (r.world.filter (·.role = role)).length with
  | none => exact ⟨rfl, hlogged⟩
  | some s =>
    obtain ⟨hverdict, hleft⟩ := matches_perform hroot s _ _ hlogged
    exact ⟨congrArg (fun v : Script.Verdict => (v.holds, v.reasons.foldl Sink.record sink)) hverdict,
      hleft⟩

end Scripts

/-- Attempts that know only their number: each is the step of a plan. -/
def Script.numbered (plan : Nat → Step β) (root given : Context) : Act Nat β := fun r =>
  (plan r.world).perform root given { r with world := r.world + 1 }

theorem matches_numbered {c c' root root' : Context}
    (hroot : root'.token.covers c'.token = root.token.covers c.token)
    (plan : Nat → Script.Step β) :
    Act.Matches c c' (Script.numbered plan root c) (Script.numbered plan root' c') := by
  intro r r' h
  have hcounted : InStep c c' { r with world := r.world + 1 } { r' with world := r.world + 1 } :=
    ⟨h.now_eq, h.cancelledAt_eq, rfl⟩
  unfold Script.numbered
  rw [h.world_eq]
  exact matches_perform hroot _ _ _ hcounted

/-- A plan: the first two attempts fail, the third succeeds and takes so long that a bound of 60 ms is
over meanwhile. It cancels the root first. -/
def thirdSucceeds (n : Nat) : Script.Step (Attempt Unit) :=
  if n < 2 then ⟨none, 7, .retry "not yet"⟩ else ⟨some .root, 30, .done ()⟩

/-- A wait with this plan, bounded by the given time. -/
def thirdSucceeds.wait (bound : Nat) :
    Option (Except WaitError Unit × Run (Nat × List (Made Unit))) :=
  Poll.untilDone ⟨10, some bound⟩ ⟨⟨[0]⟩, none⟩
    (recorded (Script.numbered thirdSucceeds ⟨⟨[0]⟩, none⟩)) (⟨⟨0, [], 1⟩, 0, 0, []⟩)

/-- The evaluations of an assertion that takes 3 ms and holds from the given number on. -/
def holdsFrom (role : Script.Role) (number : Nat) : Assertion (List Script.Evaluated) :=
  Script.assertionOf role (List.replicate number ⟨none, 3, false, ["not yet"]⟩ ++ [⟨none, 3, true, []⟩])
    ⟨⟨[0]⟩, none⟩

/-- A wait for an assertion that holds the second time while a check holds, in a context with the given
deadline. -/
def holdsFrom.wait (deadline : Nat) :
    Option (Except WaitError Unit × Run (List Script.Evaluated × List Trial)) :=
  checkUntil 10 ⟨⟨[0]⟩, some deadline⟩ ((holdsFrom .check 0).watched .check)
    ((holdsFrom .condition 1).watched .condition) ⟨⟨0, [], 1⟩, 0, [], []⟩

/-- With a bound of 25 ms the first two attempts are made, with one of 60 ms all three. With a deadline
at 15 ms the assertions are checked once, with one at 60 ms as often as it takes. -/
theorem later_deadline_extends_plan :
    (thirdSucceeds.wait 25).map Prod.fst = some (.error (.timedOut 2 (some "not yet"))) ∧
    (thirdSucceeds.wait 25).map (fun x => x.2.world.2.map Made.begun) = some [0, 17] ∧
    (thirdSucceeds.wait 60).map Prod.fst = some (.ok ()) ∧
    (thirdSucceeds.wait 60).map (fun x => x.2.world.2.map Made.begun) = some [0, 17, 34] ∧
    Extends id List.length 0 (thirdSucceeds.wait 25) (thirdSucceeds.wait 60) ∧
    (holdsFrom.wait 15).map Prod.fst = some (.error (.timedOut 1 (some "not yet"))) ∧
    (holdsFrom.wait 60).map Prod.fst = some (.ok ()) ∧
    (holdsFrom.wait 60).map (fun x => x.2.world.2.map Trial.role) =
      some [.check, .condition, .check, .condition] ∧
    Extends Trial.mark checks 0 (holdsFrom.wait 15) (holdsFrom.wait 60) := by
  refine ⟨by decide +kernel, by decide +kernel, by decide +kernel, by decide +kernel, ?_,
    by decide +kernel, by decide +kernel, by decide +kernel, ?_⟩
  · let c : Context := ⟨⟨[0]⟩, none⟩
    let r : Run Nat := ⟨⟨0, [], 1⟩, 0, 0⟩
    have hlater : (Poll.scope ⟨10, some 25⟩ c r).1.OutlastedBy (Poll.scope ⟨10, some 60⟩ c r).1 := by
      intro d' hd'
      cases hd'
      exact ⟨25, by decide, rfl⟩
    have hroot : c.token.covers (Poll.scope ⟨10, some 60⟩ c r).1.token =
        c.token.covers (Poll.scope ⟨10, some 25⟩ c r).1.token := rfl
    exact ((later_deadline_extends c c r r).attempts ⟨10, some 25⟩ ⟨10, some 60⟩
      (Script.numbered thirdSucceeds c) (Script.numbered thirdSucceeds c) rfl hlater
      ⟨rfl, fun _ => rfl, rfl⟩ (matches_numbered hroot thirdSucceeds)).2
  · let c : Context := ⟨⟨[0]⟩, some 15⟩
    let c' : Context := ⟨⟨[0]⟩, some 60⟩
    let r : Run (List Script.Evaluated) := ⟨⟨0, [], 1⟩, 0, []⟩
    have hlater : c.OutlastedBy c' := by
      intro d' hd'
      cases hd'
      exact ⟨15, by decide, rfl⟩
    let root : Context := ⟨⟨[0]⟩, none⟩
    have hroot : root.token.covers c'.token = root.token.covers c.token := rfl
    have hmatches (role : Script.Role) (number : Nat) :
        Assertion.Matches c c' (holdsFrom role number) (holdsFrom role number) :=
      matches_assertionOf hroot role _
    exact ((later_deadline_extends c c' r r).trials 10 (holdsFrom .check 0) (holdsFrom .check 0)
      (holdsFrom .condition 1) (holdsFrom .condition 1) hlater ⟨rfl, fun _ => rfl, rfl⟩
      (hmatches .check 0) (hmatches .condition 1)).2

end ClusterWait
