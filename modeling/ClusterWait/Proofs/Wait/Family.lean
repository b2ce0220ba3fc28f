import ClusterWait.Proofs.Wait.Scopes

/-! # The family of contexts that a program makes

A *family* is the line of time with all contexts that were made on it. Beside them it keeps what a
reader would note down who knows nothing of tokens: which *scope* each context stands for (clones
share one), the parent of each scope and the bound that it was given, and the scopes on which a
cancel was called. `Family.run` carries out any list of steps.

* `Consistent`: the invariant. A token covers another exactly if its scope is above the other's, a
  deadline is the earliest of the bounds, and the cancels of the line are those that were called.
* `consistent_run`: every run keeps it. The steps that make a scope are one lemma, `Consistent.add`.
* `Grows`: what every step leaves as it was.
* `run_keeps_tree`: what this comes to for deadlines, cancels and the ends of contexts. -/

namespace ClusterWait

/-- **A context of a family** and the scope that it stands for. -/
structure Member where
  scope : Nat
  context : Context

/-- **A family of contexts.** -/
structure Family where
  time : Timeline
  members : List Member
  scopes : List Scope
  cancelled : List Nat

namespace Family

/-- **A step of a program:** it makes a context, possibly from one made earlier, cancels one, or
lets time pass. -/
inductive Step where
  | background
  | withTimeout (timeout : Nat)
  | child (of : Nat)
  | childWithTimeout (of timeout : Nat)
  | clone (of : Nat)
  | cancel (of : Nat)
  | pass (time : Nat)
deriving Repr, DecidableEq

def start : Family := ⟨.start, [], [], []⟩

/-- Adds a context that was made for a scope of its own. -/
def add (f : Family) (scope : Scope) (made : Context × Timeline) : Family :=
  ⟨made.2, f.members ++ [⟨f.scopes.length, made.1⟩], f.scopes ++ [scope], f.cancelled⟩

/-- **Carries out a step.** Nothing comes of a step on a context that was not made. -/
def step (f : Family) : Step → Family
  | .background => f.add ⟨none, none⟩ f.time.background
  | .withTimeout t => f.add ⟨none, some (f.time.now + t)⟩ (f.time.withTimeout t)
  | .child i => (f.members[i]?).elim f fun m => f.add ⟨some m.scope, none⟩ (f.time.child m.context)
  | .childWithTimeout i t => (f.members[i]?).elim f fun m =>
    f.add ⟨some m.scope, some (f.time.now + t)⟩ (f.time.childWithTimeout m.context t)
  | .clone i => (f.members[i]?).elim f fun m => { f with members := f.members ++ [m] }
  | .cancel i => (f.members[i]?).elim f fun m =>
    { f with time := f.time.cancel m.context, cancelled := m.scope :: f.cancelled }
  | .pass t => { f with time := f.time.advance t }

def run (steps : List Step) : Family := steps.foldl step start

/-- What is true of a family and of all that a step makes of its members is true after the step. -/
theorem elim_member {P : Family → Prop} {f : Family} {i : Nat} {g : Member → Family} (hf : P f)
    (hg : ∀ m ∈ f.members, P (g m)) : P ((f.members[i]?).elim f g) := by
  cases hi : f.members[i]? with
  | none => exact hf
  | some m => exact hg m (List.mem_of_getElem? hi)

/-! ### The invariant -/

/-- **What is true of the family after every step.** -/
structure Consistent (f : Family) : Prop where
  ordered : Ordered f.scopes
  inside : ∀ m ∈ f.members, m.scope < f.scopes.length
  /-- Tokens have numbers, and none that is still to be given. -/
  made : ∀ m ∈ f.members, m.context.token.lineage ≠ [] ∧
    ∀ n ∈ m.context.token.lineage, n < f.time.tokens
  /-- A token covers another exactly if its scope is above the other's. -/
  covers : ∀ m ∈ f.members, ∀ m' ∈ f.members,
    m.context.token.covers m'.context.token = true ↔ Under f.scopes m.scope m'.scope
  /-- A deadline is the earliest of the bounds. -/
  deadline : ∀ m ∈ f.members, Earliest (bounds f.scopes m.scope) m.context.deadline
  /-- The cancels on the line count, and they were called; -/
  called : ∀ x ∈ f.time.cancels, x.instant ≤ f.time.now ∧
    ∃ m ∈ f.members, m.scope ∈ f.cancelled ∧ x.token = m.context.token
  /-- and those that were called are on the line. -/
  counted : ∀ k ∈ f.cancelled, ∃ m ∈ f.members, m.scope = k ∧
    ∃ x ∈ f.time.cancels, x.token = m.context.token

theorem consistent_start : Consistent start where
  ordered := nofun
  inside := nofun
  made := nofun
  covers := nofun
  deadline := nofun
  called := nofun
  counted := nofun

section Steps
variable {f : Family} (h : f.Consistent)
include h

/-- **A context made for a new scope.** Its token has a new number, and is covered by the tokens
that the scope is under; its deadline is the earlier of the inherited one and its bound. -/
theorem Consistent.add {s : Scope} {made : Context × Timeline} {d : Option Nat}
    (hs : ∀ p, s.parent = some p → p < f.scopes.length)
    (hnow : made.2.now = f.time.now) (hcancels : made.2.cancels = f.time.cancels)
    (htokens : f.time.tokens ≤ made.2.tokens)
    (hnew : ∃ n ∈ made.1.token.lineage, f.time.tokens ≤ n)
    (hold : ∀ n ∈ made.1.token.lineage, n < made.2.tokens)
    (hcovers : ∀ m ∈ f.members, m.context.token.covers made.1.token = true ↔
      ∃ p, s.parent = some p ∧ Under f.scopes m.scope p)
    (hinherited : Earliest (s.inherited f.scopes) d)
    (hdeadline : made.1.deadline = Timeline.earlier d s.bound) : (f.add s made).Consistent := by
  obtain ⟨n, hn, hnew⟩ := hnew
  have forMembers {P : Member → Prop} (hP : ∀ m ∈ f.members, P m)
      (hQ : P ⟨f.scopes.length, made.1⟩) : ∀ m ∈ (f.add s made).members, P m := by
    intro m hm
    rcases List.mem_append.mp hm with hm | hm
    · exact hP m hm
    · rw [List.mem_singleton.mp hm]; exact hQ
  have hscopes : (f.add s made).scopes.length = f.scopes.length + 1 := List.length_append
  have htime : (f.add s made).time = made.2 := rfl
  refine ⟨h.ordered.append hs, forMembers (fun m hm => ?_) ?_, forMembers (fun m hm => ?_) ?_,
    forMembers (fun m hm => forMembers (fun m' hm' => ?_) ?_) (forMembers (fun m' hm' => ?_) ?_),
    forMembers (fun m hm => ?_) ?_, ?_, ?_⟩
  · have := h.inside m hm
    omega
  · simp only; omega
  · exact ⟨(h.made m hm).1, fun n hn => ((h.made m hm).2 n hn).trans_le htokens⟩
  · exact ⟨List.ne_nil_of_mem hn, hold⟩
  · rw [h.covers m hm m' hm']
    exact (under_append_iff h.ordered (h.inside m' hm')).symm
  · rw [hcovers m hm]
    exact (under_new_iff_of_lt h.ordered hs (h.inside m hm)).symm
  · -- the new number is in no token that was there
    refine ⟨fun hc => ?_, fun hu => ?_⟩
    · have := (h.made m' hm').2 n (Timeline.covers_subset hc hn)
      omega
    · have hle : f.scopes.length ≤ m'.scope := hu.le (h.ordered.append hs)
      have := h.inside m' hm'
      omega
  · exact ⟨fun _ => .same, fun _ => Timeline.covers_refl _⟩
  · have hb : bounds (f.add s made).scopes m.scope = bounds f.scopes m.scope :=
      bounds_append h.ordered (h.inside m hm)
    rw [hb]
    exact h.deadline m hm
  · have hb : bounds (f.add s made).scopes f.scopes.length = _ := bounds_new h.ordered hs
    rw [hb, hdeadline]
    exact hinherited.union (earliest_own s.bound)
  · intro x hx
    rw [htime, hcancels] at hx
    obtain ⟨hle, m, hm, hk, ht⟩ := h.called x hx
    rw [htime, hnow]
    exact ⟨hle, m, List.mem_append_left _ hm, hk, ht⟩
  · intro k hk
    obtain ⟨m, hm, hscope, hx⟩ := h.counted k hk
    rw [htime, hcancels]
    exact ⟨m, List.mem_append_left _ hm, hscope, hx⟩

/-- A context without ancestors: its token has new numbers only. -/
theorem Consistent.add_root {bound : Option Nat} {made : Context × Timeline}
    (hnow : made.2.now = f.time.now) (hcancels : made.2.cancels = f.time.cancels)
    (htokens : f.time.tokens ≤ made.2.tokens) (hne : made.1.token.lineage ≠ [])
    (hnew : ∀ n ∈ made.1.token.lineage, f.time.tokens ≤ n ∧ n < made.2.tokens)
    (hdeadline : made.1.deadline = bound) : (f.add ⟨none, bound⟩ made).Consistent := by
  obtain ⟨n, hn⟩ := List.exists_mem_of_ne_nil _ hne
  refine h.add nofun hnow hcancels htokens ⟨n, hn, (hnew n hn).1⟩ (fun n hn => (hnew n hn).2)
    (fun m hm => ?_) (d := none) ?_ hdeadline
  · refine ⟨fun hc => ?_, fun ⟨_, hp, _⟩ => by cases hp⟩
    obtain ⟨x, hx⟩ := List.exists_mem_of_ne_nil _ (h.made m hm).1
    have := (h.made m hm).2 x hx
    have := (hnew x (Timeline.covers_subset hc hx)).1
    omega
  · rw [Earliest, inherited_root rfl]

theorem Consistent.add_child {m : Member} (hm : m ∈ f.members) {bound : Option Nat}
    {made : Context × Timeline} (htoken : made.1.token = (f.time.derive m.context.token).1)
    (htime : made.2 = (f.time.derive m.context.token).2)
    (hdeadline : made.1.deadline = Timeline.earlier m.context.deadline bound) :
    (f.add ⟨some m.scope, bound⟩ made).Consistent := by
  have hlineage : made.1.token.lineage = f.time.tokens :: m.context.token.lineage := by
    rw [htoken]; rfl
  have htokens : made.2.tokens = f.time.tokens + 1 := by rw [htime]; rfl
  refine h.add (fun p hp => ?_) (by rw [htime]; rfl) (by rw [htime]; rfl) (by omega)
    ⟨f.time.tokens, by rw [hlineage]; exact List.mem_cons_self, le_rfl⟩ (fun n hn => ?_)
    (fun m' hm' => ?_) (d := m.context.deadline) ?_ hdeadline
  · rw [← Option.some.inj hp]; exact h.inside m hm
  · rw [hlineage] at hn
    rcases List.mem_cons.mp hn with rfl | hn
    · omega
    · have := (h.made m hm).2 n hn
      omega
  · -- the new token itself is not there yet
    have hne : m'.context.token ≠ (f.time.derive m.context.token).1 := by
      intro heq
      have hx := (h.made m' hm').2 f.time.tokens (by rw [heq]; exact List.mem_cons_self)
      omega
    rw [htoken, Timeline.covers_derive, or_iff_right hne, h.covers m' hm' m hm]
    exact ⟨fun hu => ⟨_, rfl, hu⟩, fun ⟨_, hp, hu⟩ => by rw [Option.some.inj hp]; exact hu⟩
  · rw [inherited_child rfl]; exact h.deadline m hm

theorem Consistent.clone {m : Member} (hm : m ∈ f.members) :
    Consistent { f with members := f.members ++ [m] } := by
  have hmem (x : Member) : x ∈ f.members ++ [m] ↔ x ∈ f.members := by
    rw [List.mem_append, List.mem_singleton]
    exact ⟨fun hx => hx.elim id fun hx => by rw [hx]; exact hm, Or.inl⟩
  refine ⟨h.ordered, fun x hx => h.inside x ((hmem x).mp hx), fun x hx => h.made x ((hmem x).mp hx),
    fun x hx y hy => h.covers x ((hmem x).mp hx) y ((hmem y).mp hy),
    fun x hx => h.deadline x ((hmem x).mp hx), fun x hx => ?_, fun k hk => ?_⟩
  · obtain ⟨hle, y, hy, ht⟩ := h.called x hx
    exact ⟨hle, y, (hmem y).mpr hy, ht⟩
  · obtain ⟨y, hy, hx⟩ := h.counted k hk
    exact ⟨y, (hmem y).mpr hy, hx⟩

theorem Consistent.cancel {m : Member} (hm : m ∈ f.members) :
    Consistent { f with time := f.time.cancel m.context, cancelled := m.scope :: f.cancelled } := by
  refine ⟨h.ordered, h.inside, h.made, h.covers, h.deadline, fun x hx => ?_, fun k hk => ?_⟩
  · rcases List.mem_cons.mp hx with rfl | hx
    · exact ⟨le_rfl, m, hm, List.mem_cons_self, rfl⟩
    · obtain ⟨hle, y, hy, hk, ht⟩ := h.called x hx
      exact ⟨hle, y, hy, List.mem_cons_of_mem _ hk, ht⟩
  · rcases List.mem_cons.mp hk with rfl | hk
    · exact ⟨m, hm, rfl, _, List.mem_cons_self, rfl⟩
    · obtain ⟨y, hy, hs, x, hx, ht⟩ := h.counted k hk
      exact ⟨y, hy, hs, x, List.mem_cons_of_mem _ hx, ht⟩

theorem Consistent.pass (t : Nat) : Consistent { f with time := f.time.advance t } := by
  refine ⟨h.ordered, h.inside, h.made, h.covers, h.deadline, fun x hx => ?_, h.counted⟩
  obtain ⟨hle, hm⟩ := h.called x hx
  exact ⟨hle.trans (Nat.le_add_right _ _), hm⟩

/-- **Every step keeps the family consistent.** -/
theorem Consistent.step (s : Step) : (f.step s).Consistent := by
  cases s with
  | background =>
    refine h.add_root rfl rfl (Nat.le_succ _) (List.cons_ne_nil _ _) (fun n hn => ?_) rfl
    obtain rfl : n = f.time.tokens := List.mem_singleton.mp hn
    exact ⟨le_rfl, Nat.lt_succ_self _⟩
  | withTimeout t =>
    refine h.add_root rfl rfl (Nat.le_add_right _ 2) (List.cons_ne_nil _ _) (fun n hn => ?_) rfl
    have htokens : (f.time.withTimeout t).2.tokens = f.time.tokens + 2 := rfl
    obtain rfl | hn := List.mem_cons.mp hn
    · exact ⟨Nat.le_succ _, Nat.lt_succ_self _⟩
    · obtain rfl : n = f.time.tokens := List.mem_singleton.mp hn
      omega
  | child i =>
    exact elim_member h fun m hm => h.add_child hm rfl rfl (Timeline.earlier_none _).symm
  | childWithTimeout i t => exact elim_member h fun m hm => h.add_child hm rfl rfl rfl
  | clone i => exact elim_member h fun m hm => h.clone hm
  | cancel i => exact elim_member h fun m hm => h.cancel hm
  | pass t => exact h.pass t

end Steps

theorem consistent_foldl {f : Family} (h : f.Consistent) (steps : List Step) :
    (steps.foldl step f).Consistent := by
  induction steps generalizing f with
  | nil => exact h
  | cons s steps ih => exact ih (h.step s)

/-- **Every run keeps the family consistent.** -/
theorem consistent_run (steps : List Step) : (run steps).Consistent :=
  consistent_foldl consistent_start steps

/-! ### What a step leaves as it was -/

/-- **The second family came from the first:** time went on, and no member was lost. -/
structure Grows (f f' : Family) : Prop where
  time : f.time.Precedes f'.time
  members : ∀ m ∈ f.members, m ∈ f'.members

theorem Grows.refl (f : Family) : f.Grows f := ⟨.refl _, fun _ h => h⟩

theorem Grows.trans {f f' f'' : Family} (h₁ : f.Grows f') (h₂ : f'.Grows f'') : f.Grows f'' :=
  ⟨h₁.time.trans h₂.time, fun m hm => h₂.members m (h₁.members m hm)⟩

theorem grows_step (f : Family) (s : Step) : f.Grows (f.step s) := by
  have add (s : Scope) {made : Context × Timeline} (hp : f.time.Precedes made.2) :
      f.Grows (f.add s made) := ⟨hp, fun m hm => List.mem_append_left _ hm⟩
  cases s with
  | background => exact add _ ⟨le_rfl, fun _ h => h⟩
  | withTimeout t => exact add _ ⟨le_rfl, fun _ h => h⟩
  | child i => exact elim_member (.refl f) fun m _ => add _ ⟨le_rfl, fun _ h => h⟩
  | childWithTimeout i t => exact elim_member (.refl f) fun m _ => add _ ⟨le_rfl, fun _ h => h⟩
  | clone i =>
    exact elim_member (.refl f) fun m _ => ⟨.refl _, fun x hx => List.mem_append_left _ hx⟩
  | cancel i =>
    exact elim_member (.refl f) fun m _ => ⟨Timeline.precedes_cancelAt _ _ _, fun _ h => h⟩
  | pass t => exact ⟨Timeline.precedes_advance _ t, fun _ h => h⟩

theorem run_append (steps later : List Step) :
    run (steps ++ later) = later.foldl step (run steps) := List.foldl_append

theorem grows_foldl (f : Family) (steps : List Step) : f.Grows (steps.foldl step f) := by
  induction steps generalizing f with
  | nil => exact .refl f
  | cons s steps ih => exact (grows_step f s).trans (ih _)

theorem mem_cancelled_step (f : Family) (s : Step) (k : Nat) : k ∈ (f.step s).cancelled ↔
    k ∈ f.cancelled ∨ ∃ i m, s = .cancel i ∧ f.members[i]? = some m ∧ m.scope = k := by
  cases s with
  | background => simp [step, add]
  | withTimeout t => simp [step, add]
  | child i => cases h : f.members[i]? <;> simp [step, add, h]
  | childWithTimeout i t => cases h : f.members[i]? <;> simp [step, add, h]
  | clone i => cases h : f.members[i]? <;> simp [step, h]
  | cancel i => cases h : f.members[i]? <;> simp [step, h, or_comm, eq_comm]
  | pass t => simp [step]

/-- **What steps bring about** was there before them, or one of them brought it about. -/
theorem foldl_step_iff {α : Type} (held : Family → α → Prop) {brings : Family → Step → α → Prop}
    (hstep : ∀ f s x, held (f.step s) x ↔ held f x ∨ brings f s x) (steps : List Step) (f : Family)
    (x : α) : held (steps.foldl step f) x ↔ held f x ∨
      ∃ before s after, steps = before ++ s :: after ∧ brings (before.foldl step f) s x := by
  induction steps generalizing f with
  | nil => simp
  | cons s steps ih =>
    rw [List.foldl_cons, ih, hstep, or_assoc]
    refine or_congr_right ⟨?_, ?_⟩
    · rintro (hx | ⟨before, s', after, rfl, hx⟩)
      · exact ⟨[], s, steps, rfl, hx⟩
      · exact ⟨s :: before, s', after, rfl, hx⟩
    · rintro ⟨before, s', after, heq, hx⟩
      cases before with
      | nil =>
        obtain ⟨rfl, rfl⟩ := List.cons.inj heq
        exact Or.inl hx
      | cons s₀ before =>
        obtain ⟨rfl, rfl⟩ := List.cons.inj heq
        exact Or.inr ⟨before, s', after, rfl, hx⟩

/-- **The cancelled scopes are those of the members on which a cancel was called.** -/
theorem mem_cancelled_iff (steps : List Step) (k : Nat) : k ∈ (run steps).cancelled ↔
    ∃ before i after m, steps = before ++ .cancel i :: after ∧ (run before).members[i]? = some m ∧
      m.scope = k := by
  refine (foldl_step_iff (fun f k => k ∈ f.cancelled) mem_cancelled_step steps start k).trans ?_
  constructor
  · rintro (hk | ⟨before, _, after, heq, i, m, rfl, hm⟩)
    · cases hk
    · exact ⟨before, i, after, m, heq, hm⟩
  · rintro ⟨before, i, after, m, heq, hm⟩
    exact Or.inr ⟨before, _, after, heq, i, m, rfl, hm⟩

/-! ### Tokens and their cancels -/

section Cancelled
variable {f : Family} (h : f.Consistent)
include h

/-- **A token is cancelled exactly if a cancel was called on its scope or on one above.** -/
theorem Consistent.cancelledAt_iff {m : Member} (hm : m ∈ f.members) :
    f.time.cancelledAt m.context.token f.time.now = true ↔
      ∃ k ∈ f.cancelled, Under f.scopes k m.scope := by
  rw [Timeline.cancelledAt_iff]
  constructor
  · rintro ⟨x, hx, -, hcov⟩
    obtain ⟨-, a, ha, hk, ht⟩ := h.called x hx
    rw [ht, h.covers a ha m hm] at hcov
    exact ⟨a.scope, hk, hcov⟩
  · rintro ⟨k, hk, hu⟩
    obtain ⟨a, ha, rfl, x, hx, ht⟩ := h.counted k hk
    exact ⟨x, hx, (h.called x hx).1, by rw [ht]; exact (h.covers a ha m hm).mpr hu⟩

/-- A deadline is not later than that of a scope above. -/
theorem Consistent.deadline_le {m m' : Member} (hm : m ∈ f.members) (hm' : m' ∈ f.members)
    (hu : Under f.scopes m.scope m'.scope) {n : Nat} (hn : m.context.deadline = some n) :
    ∃ n' ≤ n, m'.context.deadline = some n' := by
  have hleast := ((h.deadline m hm).eq_some_iff n).mp hn
  have hmem : n ∈ bounds f.scopes m'.scope := hu.bounds_subset hleast.1
  cases hd : m'.context.deadline with
  | none =>
    rw [((h.deadline m' hm').eq_none_iff).mp hd] at hmem
    exact absurd hmem (Set.notMem_empty n)
  | some n' => exact ⟨n', (((h.deadline m' hm').eq_some_iff n').mp hd).2 hmem, rfl⟩

/-- A cancel says nothing of contexts that are not under the cancelled one. -/
theorem Consistent.err_cancel {m m' : Member} (hm : m ∈ f.members) (hm' : m' ∈ f.members)
    (hu : ¬ Under f.scopes m.scope m'.scope) :
    (f.time.cancel m.context).err m'.context = f.time.err m'.context := by
  refine Timeline.err_cancel_of_not_covers ?_
  rw [← Bool.not_eq_true, h.covers m hm m' hm']
  exact hu

end Cancelled

/-! ### The main result -/

/-- **The contexts that the steps make are a family tree,** and stay one whatever steps come later.
-/
structure KeepsTree (steps later : List Step) : Prop where
  /-- A deadline is the least of the bounds given to the context and to those that it descends from,
  -/
  deadline_some : ∀ m ∈ (run steps).members, ∀ n, m.context.deadline = some n ↔
    IsLeast (bounds (run steps).scopes m.scope) n
  /-- and there is none exactly if none of them was given a bound. -/
  deadline_none : ∀ m ∈ (run steps).members, m.context.deadline = none ↔
    bounds (run steps).scopes m.scope = ∅
  /-- So a deadline is not later than that of a context above. -/
  deadline_le : ∀ m ∈ (run steps).members, ∀ m' ∈ (run steps).members,
    Under (run steps).scopes m.scope m'.scope → ∀ n, m.context.deadline = some n →
      ∃ n' ≤ n, m'.context.deadline = some n'
  /-- A token is cancelled exactly if a cancel was called on a context of its scope or on one above,
  -/
  cancelled_iff : ∀ m ∈ (run steps).members,
    (run steps).time.cancelledAt m.context.token (run steps).time.now = true ↔
      ∃ before i after a, steps = before ++ .cancel i :: after ∧
        (run before).members[i]? = some a ∧ Under (run steps).scopes a.scope m.scope
  /-- and a cancel changes nothing for contexts that are neither clones nor descendants. -/
  cancel_others : ∀ i m, (run steps).members[i]? = some m → ∀ m' ∈ (run steps).members,
    ¬ Under (run steps).scopes m.scope m'.scope →
      ((run steps).step (.cancel i)).time.err m'.context = (run steps).time.err m'.context
  /-- A context is cancelled if its token is, -/
  err_cancelled : ∀ m ∈ (run steps).members, (run steps).time.err m.context = some .cancelled ↔
    (run steps).time.cancelledAt m.context.token (run steps).time.now = true
  /-- else its deadline is exceeded from the instant of the deadline on, -/
  err_exceeded : ∀ m ∈ (run steps).members,
    (run steps).time.err m.context = some .deadlineExceeded ↔
      (run steps).time.cancelledAt m.context.token (run steps).time.now = false ∧
        ∃ d, m.context.deadline = some d ∧ d ≤ (run steps).time.now
  /-- and else it is live. -/
  err_none : ∀ m ∈ (run steps).members, (run steps).time.err m.context = none ↔
    (run steps).time.cancelledAt m.context.token (run steps).time.now = false ∧
      ∀ d, m.context.deadline = some d → (run steps).time.now < d
  /-- No context is lost, -/
  stays : ∀ m ∈ (run steps).members, m ∈ (run (steps ++ later)).members
  /-- a cancelled one stays cancelled, -/
  stays_cancelled : ∀ m ∈ (run steps).members, (run steps).time.err m.context = some .cancelled →
    (run (steps ++ later)).time.err m.context = some .cancelled
  /-- and one whose deadline was exceeded can only become cancelled. -/
  stays_exceeded : ∀ m ∈ (run steps).members,
    (run steps).time.err m.context = some .deadlineExceeded →
      (run (steps ++ later)).time.err m.context = some .deadlineExceeded ∨
        (run (steps ++ later)).time.err m.context = some .cancelled
  /-- With a context those under it have ended, -/
  ended_under : ∀ m ∈ (run steps).members, ∀ m' ∈ (run steps).members,
    Under (run steps).scopes m.scope m'.scope → (run steps).time.err m.context ≠ none →
      (run steps).time.err m'.context ≠ none
  /-- and with a cancelled one they are cancelled. -/
  cancelled_under : ∀ m ∈ (run steps).members, ∀ m' ∈ (run steps).members,
    Under (run steps).scopes m.scope m'.scope → (run steps).time.err m.context = some .cancelled →
      (run steps).time.err m'.context = some .cancelled

/-- **Every run keeps the family tree.** -/
theorem run_keeps_tree (steps later : List Step) : KeepsTree steps later := by
  have h := consistent_run steps
  have hg : (run steps).Grows (run (steps ++ later)) := by
    rw [run_append]; exact grows_foldl _ later
  have ended_iff (l : Timeline) (c : Context) : l.ended c = true ↔ l.err c ≠ none :=
    Option.isSome_iff_ne_none
  have below {m m' : Member} (hm : m ∈ (run steps).members) (hm' : m' ∈ (run steps).members)
      (hu : Under (run steps).scopes m.scope m'.scope)
      (hc : (run steps).time.cancelledAt m.context.token (run steps).time.now = true) :
      (run steps).time.cancelledAt m'.context.token (run steps).time.now = true := by
    obtain ⟨k, hk, hku⟩ := (h.cancelledAt_iff hm).mp hc
    exact (h.cancelledAt_iff hm').mpr ⟨k, hk, hku.trans hu⟩
  refine ⟨fun m hm => (h.deadline m hm).eq_some_iff, fun m hm => (h.deadline m hm).eq_none_iff,
    fun m hm m' hm' hu n hn => h.deadline_le hm hm' hu hn, fun m hm => ?_,
    fun i m hi m' hm' hu => ?_, fun m _ => Timeline.err_eq_cancelled_iff,
    fun m _ => Timeline.err_eq_deadlineExceeded_iff,
    fun m _ => Timeline.err_eq_none_iff, hg.members, fun m _ => hg.time.err_cancelled,
    fun m hm he => ?_, fun m hm m' hm' hu he => ?_, fun m hm m' hm' hu he => ?_⟩
  · rw [h.cancelledAt_iff hm]
    constructor
    · rintro ⟨k, hk, hu⟩
      obtain ⟨before, i, after, a, heq, ha, rfl⟩ := (mem_cancelled_iff steps k).mp hk
      exact ⟨before, i, after, a, heq, ha, hu⟩
    · rintro ⟨before, i, after, a, heq, ha, hu⟩
      exact ⟨a.scope, (mem_cancelled_iff steps _).mpr ⟨before, i, after, a, heq, ha, rfl⟩, hu⟩
  · have hstep : ((run steps).step (.cancel i)).time = (run steps).time.cancel m.context := by
      rw [step, hi]; rfl
    rw [hstep]
    exact h.err_cancel (List.mem_of_getElem? hi) hm' hu
  · have hend : (run (steps ++ later)).time.err m.context ≠ none := by
      rw [← ended_iff]
      exact hg.time.ended ((ended_iff _ _).mpr (by rw [he]; nofun))
    cases he' : (run (steps ++ later)).time.err m.context with
    | none => exact absurd he' hend
    | some e =>
      cases e with
      | cancelled => exact Or.inr rfl
      | deadlineExceeded => exact Or.inl rfl
  · rw [← ended_iff, Timeline.ended_iff] at he ⊢
    rcases he with hc | ⟨d, hd, hle⟩
    · exact Or.inl (below hm hm' hu hc)
    · obtain ⟨d', hd', heq⟩ := h.deadline_le hm hm' hu hd
      exact Or.inr ⟨d', heq, hd'.trans hle⟩
  · rw [Timeline.err_eq_cancelled_iff] at he ⊢
    exact below hm hm' hu he

/-- A cancel of a clone is one of the child, and says nothing of the parent, whose bound has come.
-/
example :
    let f := run [.withTimeout 5, .childWithTimeout 0 9, .clone 1, .background, .cancel 2, .pass 7]
    f.members.map (fun m => (m.context.deadline, f.time.err m.context)) =
      [(some 5, some .deadlineExceeded), (some 5, some .cancelled), (some 5, some .cancelled),
        (none, none)] := by
  decide

end Family

end ClusterWait
