import ClusterWait.Proofs.Wait.Awaiting
import ClusterWait.Proofs.Wait.Polling

/-! # Waits and the contexts around them

A program that has made a tree of contexts waits on one of them (`WaitInTree`). Its attempts do what
the program does otherwise: they make contexts, cancel any that there are, and let time pass, each as
it is planned when it begins (`planned`). Meanwhile others may call cancels.

For the tree a wait is a step, then those of its attempts, and the passage of time: every family on its
way is one that the program reaches by steps (`Reaches`), so that the invariant of families holds of it.
The first of these steps is what tells the two kinds of wait apart (`Poll.entry`). With a bound of its
own a wait makes a child of the caller's context, without one a clone.

* `Reaches.covers_iff`: of the contexts that were there before the wait, a context covers those that it
  is above, if it was there itself, and else none.
* `mem_cancels_left`: the cancels on the line after the wait.
* `wait_spares_bystanders`: what this comes to for the contexts that were there, for clones, and for the
  waits that follow. -/

namespace ClusterWait

variable {ω α : Type}

/-! ### Cancels that others call -/

namespace Family

variable {f g : Family} {cancels : List Cancel}

/-- The family with cancels that others call, now or later. -/
def due (f : Family) (cancels : List Cancel) : Family :=
  { f with time := { f.time with cancels := f.time.cancels ++ cancels } }

/-- The cancels of members, each at an instant. -/
def calls (f : Family) (later : List (Nat × Nat)) : List Cancel :=
  later.filterMap fun x => (f.members[x.2]?).map fun m => ⟨x.1, m.context.token⟩

theorem exists_member_of_mem_calls {later : List (Nat × Nat)} {x : Cancel} (h : x ∈ f.calls later) :
    ∃ m ∈ f.members, x.token = m.context.token := by
  obtain ⟨y, -, hy⟩ := List.mem_filterMap.mp h
  obtain ⟨m, hm, rfl⟩ := Option.map_eq_some_iff.mp hy
  exact ⟨m, List.mem_of_getElem? hm, rfl⟩

/-- What others call changes nothing of what a step does. -/
theorem step_due (s : Step) : (f.due cancels).step s = (f.step s).due cancels := by
  have onMember {i : Nat} {g g' : Member → Family} (h : ∀ m, g m = (g' m).due cancels) :
      (f.members[i]?).elim (f.due cancels) g = ((f.members[i]?).elim f g').due cancels := by
    cases f.members[i]? with
    | none => rfl
    | some m => exact h m
  cases s with
  | background => rfl
  | withTimeout t => rfl
  | child i => exact onMember fun _ => rfl
  | childWithTimeout i t => exact onMember fun _ => rfl
  | clone i => exact onMember fun _ => rfl
  | cancel i => exact onMember fun _ => rfl
  | pass t => rfl

theorem foldl_step_due (steps : List Step) :
    steps.foldl step (f.due cancels) = (steps.foldl step f).due cancels := by
  induction steps generalizing f with
  | nil => rfl
  | cons s steps ih => rw [List.foldl_cons, step_due, ih, List.foldl_cons]

/-! ### Families that grow -/

/-- **The second family has the members and the scopes of the first,** and possibly more after them. -/
structure Extends (f g : Family) : Prop where
  members : f.members <+: g.members
  scopes : f.scopes <+: g.scopes

theorem Extends.refl (f : Family) : f.Extends f := ⟨List.prefix_refl _, List.prefix_refl _⟩

theorem Extends.trans {f g h : Family} (h₁ : f.Extends g) (h₂ : g.Extends h) : f.Extends h :=
  ⟨h₁.members.trans h₂.members, h₁.scopes.trans h₂.scopes⟩

theorem extends_step (f : Family) (s : Step) : f.Extends (f.step s) := by
  have add (s : Scope) (made : Context × Timeline) : f.Extends (f.add s made) :=
    ⟨List.prefix_append _ _, List.prefix_append _ _⟩
  cases s with
  | background => exact add _ _
  | withTimeout t => exact add _ _
  | child i => exact elim_member (.refl f) fun m _ => add _ _
  | childWithTimeout i t => exact elim_member (.refl f) fun m _ => add _ _
  | clone i => exact elim_member (.refl f) fun m _ => ⟨List.prefix_append _ _, List.prefix_refl _⟩
  | cancel i => exact elim_member (.refl f) fun m _ => ⟨List.prefix_refl _, List.prefix_refl _⟩
  | pass t => exact ⟨List.prefix_refl _, List.prefix_refl _⟩

theorem extends_foldl (f : Family) (steps : List Step) : f.Extends (steps.foldl step f) := by
  induction steps generalizing f with
  | nil => exact .refl f
  | cons s steps ih => exact (extends_step f s).trans (ih _)

theorem Extends.getElem?_members (h : f.Extends g) {i : Nat} {m : Member}
    (hm : f.members[i]? = some m) : g.members[i]? = some m := by
  obtain ⟨more, heq⟩ := h.members
  rw [← heq, List.getElem?_append_left (List.getElem?_eq_some_iff.mp hm).1]
  exact hm

/-- What is above a scope that was there is what was above it. -/
theorem Extends.under_iff (h : f.Extends g) (hf : Ordered f.scopes) {a b : Nat}
    (hb : b < f.scopes.length) : Under g.scopes a b ↔ a < f.scopes.length ∧ Under f.scopes a b := by
  obtain ⟨more, heq⟩ := h.scopes
  have hiff : Under g.scopes a b ↔ Under f.scopes a b := by
    rw [← heq]
    exact under_append_iff hf hb
  rw [hiff]
  exact ⟨fun hu => ⟨(hu.le hf).trans_lt hb, hu⟩, And.right⟩

end Family

/-! ### Waits that follow -/

/-- **The context of a wait is live up to the end of the caller's,** and to the bound of the wait's own,
if no token has been cancelled that is still to be made. -/
theorem Poll.err_scope_of_made {σ : Type} (p : Poll) (c : Context) {r : Run σ}
    (hmade : ∀ y ∈ r.time.cancels, ∀ k ∈ y.token.lineage, k < r.time.tokens) (i : Nat) :
    ((p.scope c r).2.time.atInstant i).err (p.scope c r).1 = none ↔
      (r.time.atInstant i).err c = none ∧ ∀ t, p.timeout = some t → i < r.time.now + t := by
  have hcancels : (p.scope c r).2.time.cancels = r.time.cancels := (p.scope_opening c r).2.1
  have hsame : ((p.scope c r).2.time.atInstant i).cancelledAt c.token i =
      (r.time.atInstant i).cancelledAt c.token i := by
    unfold Timeline.cancelledAt
    rw [Timeline.atInstant_cancels, Timeline.atInstant_cancels, hcancels]
  rw [p.err_scope_eq_none_iff, Timeline.err_eq_none_iff, Timeline.atInstant_now,
    Timeline.atInstant_now, hsame, and_assoc]
  refine and_congr_right fun hlive => and_iff_right ?_
  intro y hy hle hown
  rw [Timeline.atInstant_cancels, hcancels] at hy
  unfold Poll.scope at hown
  cases ht : p.timeout with
  | none =>
    rw [ht] at hown
    have hcancelled : (r.time.atInstant i).cancelledAt c.token i = true :=
      Timeline.cancelledAt_iff.mpr ⟨y, hy, hle, by rw [hown]; exact Timeline.covers_refl _⟩
    rw [hlive] at hcancelled
    cases hcancelled
  | some t =>
    -- the number of the new token is still to be given
    rw [ht] at hown
    have hlt := hmade y hy r.time.tokens (by rw [hown]; exact List.mem_cons_self)
    exact Nat.lt_irrefl _ hlt

/-! ### Programs that wait -/

/-- **What a program knows:** the contexts that it made, with all that a family keeps of them beside
the line of time, and anything else. -/
structure Knowledge (ω : Type) where
  members : List Member
  scopes : List Scope
  cancelled : List Nat
  rest : ω

def Run.family (r : Run (Knowledge ω)) : Family :=
  ⟨r.time, r.world.members, r.world.scopes, r.world.cancelled⟩

/-- The run of a program with a family of contexts. -/
def Family.toRun (f : Family) (patience : Nat) (rest : ω) : Run (Knowledge ω) :=
  ⟨f.time, patience, ⟨f.members, f.scopes, f.cancelled, rest⟩⟩

/-- **What an attempt is going to do:** steps on contexts, and then it decides. -/
structure Plan (ω α : Type) where
  steps : List Family.Step
  decision : Attempt α
  rest : ω

/-- **The attempts of a program,** each planned when it begins, by all that is known then. -/
def planned (plan : Context → Run (Knowledge ω) → Plan ω α) (handed : Context) :
    Act (Knowledge ω) (Attempt α) := fun r =>
  let todo := plan handed r
  (todo.decision, (todo.steps.foldl Family.step r.family).toRun r.patience todo.rest)

/-- What a wait does to the tree before its first attempt. -/
def Poll.entry (p : Poll) (caller : Nat) : Family.Step :=
  match p.timeout with
  | none => .clone caller
  | some t => .childWithTimeout caller t

/-- **A wait in a tree of contexts:** the steps that made the tree, the cancels that others call (each
by its instant and the member that it is called on), the member that the program waits on, how it waits,
and what its attempts do. -/
structure WaitInTree (ω α : Type) where
  steps : List Family.Step
  later : List (Nat × Nat)
  caller : Fin (Family.run steps).members.length
  poll : Poll
  plan : Context → Run (Knowledge ω) → Plan ω α
  patience : Nat
  rest : ω

namespace WaitInTree

variable (x : WaitInTree ω α)

def before : Family := Family.run x.steps

/-- The cancels that others call. -/
def foreign : List Cancel := x.before.calls x.later

/-- The tree as it is without the wait. -/
def tree : Family := x.before.due x.foreign

/-- The member that the program waits on. -/
def member : Member := (Family.run x.steps).members[x.caller]

/-- The tree with the context that the attempts are handed. -/
def entered : Family := x.before.step (x.poll.entry x.caller)

/-- The run in which the wait begins. The program has taken note already of the context that the
attempts will be handed. -/
def opening : Run (Knowledge ω) :=
  ((x.entered.due x.foreign).toRun x.patience x.rest).withTime x.tree.time

/-- **The wait.** -/
def outcome : Option (Except WaitError α × Run (Knowledge ω)) :=
  x.poll.untilDone x.member.context (planned x.plan) x.opening

def course : Course (Knowledge ω) α := .of x.poll x.member.context (planned x.plan) x.opening

def handed : Context := x.course.context

/-- **A moment of an attempt:** the family at that moment, and the steps that are still to come. -/
def Moment (k : Nat) (g : Family) (rest : List Family.Step) : Prop :=
  ∃ done, (x.plan x.handed (x.course.before k)).steps = done ++ rest ∧
    g = done.foldl Family.step (x.course.before k).family

/-- An attempt calls a cancel on a member at an instant. -/
def CallsIn (k : Nat) (m : Member) (n : Nat) : Prop :=
  ∃ g i rest, x.Moment k g (.cancel i :: rest) ∧ g.members[i]? = some m ∧ n = g.time.now

/-- **The attempts of the wait call a cancel** on a member at an instant. -/
def Calls (m : Member) (n : Nat) : Prop := ∃ k, x.course.Started k ∧ x.CallsIn k m n

/-- **The family is one that the program reaches** on its way through the wait. -/
def Reaches (g : Family) : Prop :=
  ∃ steps : List Family.Step, g = (steps.foldl Family.step x.entered).due x.foreign

/-! ### How the wait begins -/

theorem getElem?_caller : x.before.members[(x.caller : Nat)]? = some x.member :=
  List.getElem?_eq_getElem x.caller.isLt

theorem member_mem : x.member ∈ x.before.members := List.mem_of_getElem? x.getElem?_caller

theorem scope_eq : x.poll.scope x.member.context x.opening =
    (x.handed, (x.entered.due x.foreign).toRun x.patience x.rest) := by
  have hentered : x.entered = x.before.step (x.poll.entry x.caller) := rfl
  have hm := x.getElem?_caller
  unfold handed course Course.of Poll.scope opening
  rw [hentered]
  unfold Poll.entry
  cases x.poll.timeout with
  | none =>
    simp only [Family.step, hm]
    rfl
  | some t =>
    simp only [Family.step, hm]
    rfl

theorem opening_family : (x.course.before 0).family = x.entered.due x.foreign :=
  congrArg (fun y => y.2.family) x.scope_eq

/-! ### The families on the way -/

variable {x} {g : Family}

theorem Reaches.foldl (h : x.Reaches g) (steps : List Family.Step) :
    x.Reaches (steps.foldl Family.step g) := by
  obtain ⟨done, rfl⟩ := h
  exact ⟨done ++ steps, by rw [Family.foldl_step_due, List.foldl_append]⟩

theorem reaches_before (x : WaitInTree ω α) (k : Nat) : x.Reaches (x.course.before k).family := by
  induction k with
  | zero => exact ⟨[], x.opening_family⟩
  | succ k ih => exact (ih.foldl _).foldl [.pass x.poll.interval]

theorem reaches_after (x : WaitInTree ω α) (k : Nat) : x.Reaches (x.course.after k).family :=
  (reaches_before x k).foldl (x.plan x.handed (x.course.before k)).steps

theorem reaches_moment {k : Nat} {rest : List Family.Step} (h : x.Moment k g rest) : x.Reaches g := by
  obtain ⟨done, -, rfl⟩ := h
  exact (reaches_before x k).foldl done

theorem reaches_left {n : Nat} {result : Except WaitError α} {left : Run (Knowledge ω)}
    (he : x.course.Ends n result left) : x.Reaches left.family := by
  rcases he.left with ⟨-, rfl⟩ | ⟨k, i, -, -, hi, rfl⟩
  · exact reaches_before x 0
  · -- the rest of the pause is a passage of time
    obtain ⟨j, rfl⟩ := Nat.exists_eq_add_of_le hi
    exact (reaches_after x k).foldl [.pass j]

section Reaches
variable (h : x.Reaches g)
include h

/-- Such a family is one of the program, and others call the same cancels as before. -/
theorem Reaches.exists_run : ∃ f : Family, f.Consistent ∧ x.entered.Extends f ∧
    x.before.time.now ≤ f.time.now ∧ g = f.due x.foreign := by
  obtain ⟨steps, rfl⟩ := h
  have hconsistent : x.entered.Consistent := (Family.consistent_run x.steps).step _
  have hgrows := (Family.grows_step x.before (x.poll.entry x.caller)).trans
    (Family.grows_foldl x.entered steps)
  exact ⟨_, Family.consistent_foldl hconsistent steps, Family.extends_foldl _ _, hgrows.time.now_le, rfl⟩

theorem Reaches.extends : x.before.Extends g := by
  obtain ⟨f, -, hext, -, rfl⟩ := h.exists_run
  have hentry : x.before.Extends x.entered := Family.extends_step _ _
  have hboth := hentry.trans hext
  exact ⟨hboth.members, hboth.scopes⟩

theorem Reaches.mem {a : Member} (ha : a ∈ x.before.members) : a ∈ g.members := h.extends.members.subset ha

/-- A context covers those that it is above. -/
theorem Reaches.covers {a b : Member} (ha : a ∈ g.members) (hb : b ∈ g.members) :
    b.context.token.covers a.context.token = true ↔ Under g.scopes b.scope a.scope := by
  obtain ⟨f, hf, -, -, rfl⟩ := h.exists_run
  exact hf.covers b hb a ha

/-- **Of the contexts that were there a context covers those that it is above,** if it was there itself,
and else none. -/
theorem Reaches.covers_iff {a b : Member} (ha : a ∈ x.before.members) (hb : b ∈ g.members) :
    b.context.token.covers a.context.token = true ↔
      b.scope < x.before.scopes.length ∧ Under x.before.scopes b.scope a.scope := by
  have hbefore := Family.consistent_run x.steps
  rw [h.covers (h.mem ha) hb]
  exact h.extends.under_iff hbefore.ordered (hbefore.inside a ha)

/-- The cancels on the line are of tokens that were made. -/
theorem Reaches.made {y : Cancel} (hy : y ∈ g.time.cancels) :
    ∀ n ∈ y.token.lineage, n < g.time.tokens := by
  have hmember : ∃ b ∈ g.members, y.token = b.context.token := by
    have hbefore := h.extends.members.subset
    obtain ⟨f, hf, -, -, rfl⟩ := h.exists_run
    rcases List.mem_append.mp hy with hy | hy
    · obtain ⟨-, b, hb, -, ht⟩ := hf.called y hy
      exact ⟨b, hb, ht⟩
    · obtain ⟨b, hb, ht⟩ := Family.exists_member_of_mem_calls hy
      exact ⟨b, hbefore hb, ht⟩
  obtain ⟨b, hb, ht⟩ := hmember
  obtain ⟨f, hf, -, -, rfl⟩ := h.exists_run
  rw [ht]
  exact (hf.made b hb).2

/-- A cancel of the member that the program waits on. -/
theorem Reaches.step_cancel :
    (g.step (.cancel x.caller)).time = g.time.cancel x.member.context := by
  have hcaller := h.extends.getElem?_members x.getElem?_caller
  simp only [Family.step, hcaller]
  rfl

end Reaches

/-! ### The cancels on the way -/

theorem mem_cancels_after (x : WaitInTree ω α) (k : Nat) (y : Cancel) :
    y ∈ (x.course.after k).time.cancels ↔ y ∈ (x.course.before k).time.cancels ∨
      ∃ m, x.CallsIn k m y.instant ∧ y.token = m.context.token := by
  refine (Family.mem_cancels_foldl (x.plan x.handed (x.course.before k)).steps
    (x.course.before k).family y).trans (or_congr_right ?_)
  constructor
  · rintro ⟨done, _, rest, heq, i, m, rfl, hm, rfl⟩
    exact ⟨m, ⟨_, i, rest, ⟨done, heq, rfl⟩, hm, rfl⟩, rfl⟩
  · rintro ⟨m, ⟨_, i, rest, ⟨done, heq, rfl⟩, hm, hn⟩, ht⟩
    refine ⟨done, _, rest, heq, i, m, rfl, hm, ?_⟩
    rw [← hn, ← ht]

theorem mem_cancels_before (x : WaitInTree ω α) (k : Nat) (y : Cancel) :
    y ∈ (x.course.before k).time.cancels ↔ y ∈ x.tree.time.cancels ∨
      ∃ j < k, ∃ m, x.CallsIn j m y.instant ∧ y.token = m.context.token := by
  induction k with
  | zero =>
    have hcancels : (x.course.before 0).time.cancels = x.tree.time.cancels :=
      (Poll.scope_opening x.poll x.member.context x.opening).2.1
    simp [hcancels]
  | succ k ih =>
    have hpause : (x.course.before (k + 1)).time.cancels = (x.course.after k).time.cancels := rfl
    rw [hpause, mem_cancels_after, ih, or_assoc]
    refine or_congr_right ⟨?_, ?_⟩
    · rintro (⟨j, hj, hm⟩ | hm)
      · exact ⟨j, Nat.lt_succ_of_lt hj, hm⟩
      · exact ⟨k, Nat.lt_succ_self k, hm⟩
    · rintro ⟨j, hj, hm⟩
      rcases Nat.lt_succ_iff_lt_or_eq.mp hj with hj | rfl
      · exact Or.inl ⟨j, hj, hm⟩
      · exact Or.inr hm

/-- **The cancels on the line after the wait** are those that were there, those that others call, and
those that the attempts called. -/
theorem mem_cancels_left {n : Nat} {result : Except WaitError α} {left : Run (Knowledge ω)}
    (he : x.course.Ends n result left) (y : Cancel) : y ∈ left.time.cancels ↔
      y ∈ x.tree.time.cancels ∨ ∃ m, x.Calls m y.instant ∧ y.token = m.context.token := by
  have hcalls : (∃ m, x.Calls m y.instant ∧ y.token = m.context.token) ↔
      ∃ j < n, ∃ m, x.CallsIn j m y.instant ∧ y.token = m.context.token := by
    constructor
    · rintro ⟨m, ⟨j, hj, hm⟩, ht⟩
      exact ⟨j, (he.started_iff j).mp hj, m, hm, ht⟩
    · rintro ⟨j, hj, m, hm, ht⟩
      exact ⟨m, ⟨j, (he.started_iff j).mpr hj, hm⟩, ht⟩
  have hbefore : y ∈ left.time.cancels ↔ y ∈ (x.course.before n).time.cancels := by
    rcases he.left with ⟨rfl, rfl⟩ | ⟨k, i, rfl, -, -, rfl⟩
    · exact Iff.rfl
    · exact Iff.rfl
  rw [hbefore, mem_cancels_before, hcalls]

/-! ### What the wait leaves as it was -/

section Left
variable {n : Nat} {result : Except WaitError α} {left : Run (Knowledge ω)}
  (he : x.course.Ends n result left)
include he

/-- **A context that was there is cancelled** by what cancels it without the wait, and by the attempts if
they call a cancel on one that was there, too. -/
theorem cancelledAt_left_iff {a : Member} (ha : a ∈ x.before.members) (i : Nat) :
    left.time.cancelledAt a.context.token i = true ↔ x.tree.time.cancelledAt a.context.token i = true ∨
      ∃ b j, x.Calls b j ∧ j ≤ i ∧ b.scope < x.before.scopes.length ∧
        Under x.before.scopes b.scope a.scope := by
  rw [Timeline.cancelledAt_iff, Timeline.cancelledAt_iff]
  constructor
  · rintro ⟨y, hy, hi, hcov⟩
    rcases (mem_cancels_left he y).mp hy with hy | ⟨b, hcalls, ht⟩
    · exact Or.inl ⟨y, hy, hi, hcov⟩
    · have hcalled := hcalls
      obtain ⟨k, -, g, j, rest, hg, hb, -⟩ := hcalls
      rw [ht, (reaches_moment hg).covers_iff ha (List.mem_of_getElem? hb)] at hcov
      exact Or.inr ⟨b, y.instant, hcalled, hi, hcov⟩
  · rintro (⟨y, hy, hi, hcov⟩ | ⟨b, j, hcalls, hi, hu⟩)
    · exact ⟨y, (mem_cancels_left he y).mpr (Or.inl hy), hi, hcov⟩
    · refine ⟨⟨j, b.context.token⟩, (mem_cancels_left he _).mpr (Or.inr ⟨b, hcalls, rfl⟩), hi, ?_⟩
      obtain ⟨k, -, g, j', rest, hg, hb, -⟩ := hcalls
      exact ((reaches_moment hg).covers_iff ha (List.mem_of_getElem? hb)).mpr hu

/-- **Only time has passed** for the contexts that were there, if attempts cancel no such context. -/
theorem err_left_of_quiet (hquiet : ∀ b j, x.Calls b j → x.before.scopes.length ≤ b.scope) {a : Member}
    (ha : a ∈ x.before.members) (i : Nat) :
    (left.time.atInstant i).err a.context = (x.tree.time.atInstant i).err a.context := by
  have hsame : left.time.cancelledAt a.context.token i = x.tree.time.cancelledAt a.context.token i := by
    rw [Bool.eq_iff_iff, cancelledAt_left_iff he ha]
    refine or_iff_left ?_
    rintro ⟨b, j, hcalls, -, hlt, -⟩
    have hle := hquiet b j hcalls
    omega
  exact Timeline.err_congr rfl hsame

end Left

/-! ### The main result -/

variable (x)

/-- **A wait spares the contexts around it.** -/
structure SparesBystanders : Prop where
  /-- With a bound of its own the wait hands a new context to its attempts, which neither is one of those
  that were there nor covers any of them; -/
  child : x.poll.timeout ≠ none →
    x.entered.members = x.before.members ++ [⟨x.before.scopes.length, x.handed⟩] ∧
      ∀ a ∈ x.before.members, x.handed.token.covers a.context.token = false
  /-- without one it hands them a clone of the caller's. -/
  clone : x.poll.timeout = none →
    x.entered.members = x.before.members ++ [x.member] ∧ x.handed = x.member.context
  /-- At every moment a cancel of the clone does what a cancel of the caller's context does: -/
  cancel_clone : x.poll.timeout = none → ∀ k g rest, x.Moment k g rest →
    g.step (.cancel x.before.members.length) = g.step (.cancel x.caller)
  /-- it cancels this context and all that descend from it, -/
  cancel_under : ∀ k g rest, x.Moment k g rest → ∀ b ∈ g.members,
    Under g.scopes x.member.scope b.scope →
      (g.step (.cancel x.caller)).time.err b.context = some .cancelled
  /-- and nothing else. -/
  cancel_others : ∀ k g rest, x.Moment k g rest → ∀ b ∈ g.members,
    ¬ Under g.scopes x.member.scope b.scope →
      (g.step (.cancel x.caller)).time.err b.context = g.time.err b.context
  /-- However the wait ends, the contexts that were there are still there, and time has passed. -/
  stays : ∀ result left, x.outcome = some (result, left) →
    x.before.members <+: left.world.members ∧ x.tree.time.now ≤ left.time.now
  /-- Each of them is cancelled by what cancels it without the wait, and by the attempts if they call a
  cancel on one that was there, and that is above it. -/
  cancelled_iff : ∀ result left, x.outcome = some (result, left) → ∀ a ∈ x.before.members, ∀ i,
    left.time.cancelledAt a.context.token i = true ↔
      x.tree.time.cancelledAt a.context.token i = true ∨ ∃ b j, x.Calls b j ∧ j ≤ i ∧
        b.scope < x.before.scopes.length ∧ Under x.before.scopes b.scope a.scope
  /-- So only time has passed if the attempts cancel no other contexts than the new one that they are
  handed and those that were made after it. -/
  quiet : (∀ b j, x.Calls b j → x.before.scopes.length ≤ b.scope) →
    ∀ result left, x.outcome = some (result, left) → ∀ a ∈ x.before.members, ∀ i,
      (left.time.atInstant i).err a.context = (x.tree.time.atInstant i).err a.context
  /-- A wait that follows on one of them has all the time up to its end, and up to the bound of the
  wait's own if there is one. -/
  next : ∀ result left, x.outcome = some (result, left) → ∀ p : Poll, ∀ a ∈ x.before.members, ∀ i,
    ((p.scope a.context left).2.time.atInstant i).err (p.scope a.context left).1 = none ↔
      (left.time.atInstant i).err a.context = none ∧
        ∀ t, p.timeout = some t → i < left.time.now + t

theorem exists_ends_of_outcome {result : Except WaitError α} {left : Run (Knowledge ω)}
    (h : x.outcome = some (result, left)) : ∃ n, x.course.Ends n result left := by
  rw [outcome, Poll.untilDone_eq_run, Course.run_eq_some_iff] at h
  exact h.2

theorem entered_of_bound (ht : x.poll.timeout ≠ none) :
    x.entered.members = x.before.members ++ [⟨x.before.scopes.length, x.handed⟩] := by
  obtain ⟨t, ht⟩ := Option.ne_none_iff_exists'.mp ht
  have hhanded : x.handed = (x.poll.scope x.member.context x.opening).1 := rfl
  rw [hhanded, entered, Poll.entry, Poll.scope, ht]
  simp only [Family.step, x.getElem?_caller]
  rfl

theorem entered_of_unbound (ht : x.poll.timeout = none) :
    x.entered.members = x.before.members ++ [x.member] ∧ x.handed = x.member.context := by
  have hhanded : x.handed = (x.poll.scope x.member.context x.opening).1 := rfl
  rw [hhanded, entered, Poll.entry, Poll.scope, ht]
  simp only [Family.step, x.getElem?_caller]
  exact ⟨rfl, rfl⟩

theorem getElem?_clone (ht : x.poll.timeout = none) {k : Nat} {g : Family} {rest : List Family.Step}
    (hg : x.Moment k g rest) : g.members[(x.caller : Nat)]? = some x.member ∧
      g.members[x.before.members.length]? = some x.member := by
  obtain ⟨f, -, hext, -, rfl⟩ := (reaches_moment hg).exists_run
  have hclone : x.entered.members[x.before.members.length]? = some x.member := by
    rw [(x.entered_of_unbound ht).1]
    exact List.getElem?_concat_length
  exact ⟨(reaches_moment hg).extends.getElem?_members x.getElem?_caller,
    hext.getElem?_members hclone⟩

/-- **Every wait spares the contexts around it.** -/
theorem wait_spares_bystanders : x.SparesBystanders where
  child ht := by
    refine ⟨x.entered_of_bound ht, fun a ha => ?_⟩
    have hnew : ⟨x.before.scopes.length, x.handed⟩ ∈ (x.entered.due x.foreign).members := by
      show _ ∈ x.entered.members
      rw [x.entered_of_bound ht]
      exact List.mem_append_right _ List.mem_cons_self
    have hreaches : x.Reaches (x.entered.due x.foreign) := ⟨[], rfl⟩
    rw [← Bool.not_eq_true]
    intro hcov
    exact Nat.lt_irrefl _ ((hreaches.covers_iff ha hnew).mp hcov).1
  clone := x.entered_of_unbound
  cancel_clone ht k g rest hg := by
    obtain ⟨hcaller, hclone⟩ := x.getElem?_clone ht hg
    simp only [Family.step, hcaller, hclone]
  cancel_under k g rest hg b hb hu := by
    have hreaches := reaches_moment hg
    rw [hreaches.step_cancel]
    exact Timeline.err_cancel_of_covers ((hreaches.covers hb (hreaches.mem x.member_mem)).mpr hu)
  cancel_others k g rest hg b hb hu := by
    have hreaches := reaches_moment hg
    rw [hreaches.step_cancel]
    refine Timeline.err_cancel_of_not_covers ?_
    rw [← Bool.not_eq_true, hreaches.covers hb (hreaches.mem x.member_mem)]
    exact hu
  stays result left h := by
    obtain ⟨n, he⟩ := x.exists_ends_of_outcome h
    obtain ⟨f, -, -, hnow, heq⟩ := (reaches_left he).exists_run
    have htime : left.time.now = f.time.now := congrArg (fun g => g.time.now) heq
    exact ⟨(reaches_left he).extends.members, htime ▸ hnow⟩
  cancelled_iff result left h a ha i := by
    obtain ⟨n, he⟩ := x.exists_ends_of_outcome h
    exact cancelledAt_left_iff he ha i
  quiet hquiet result left h a ha i := by
    obtain ⟨n, he⟩ := x.exists_ends_of_outcome h
    exact err_left_of_quiet he hquiet ha i
  next result left h p a ha i := by
    obtain ⟨n, he⟩ := x.exists_ends_of_outcome h
    exact p.err_scope_of_made a.context (fun y hy => (reaches_left he).made hy) i

/-- An attempt cancels what it is handed: the wait spares the caller if it has a bound of its own. -/
example :
    let wait (timeout : Option Nat) : WaitInTree Unit Unit :=
      { steps := [.withTimeout 250, .child 0], later := [(30, 0)], caller := ⟨1, by decide⟩,
        poll := { timeout }, plan := fun _ _ => ⟨[.cancel 2, .pass 20], .cancelled, ()⟩,
        patience := 0, rest := () }
    let told (timeout : Option Nat) (i : Nat) := (wait timeout).outcome.map fun y =>
      y.2.world.members.map fun m => (y.2.time.atInstant i).err m.context
    told (some 50) 20 = some [none, none, some .cancelled] ∧
      told none 20 = some [none, some .cancelled, some .cancelled] ∧
      told (some 50) 30 = some [some .cancelled, some .cancelled, some .cancelled] := by
  decide

end WaitInTree

end ClusterWait
