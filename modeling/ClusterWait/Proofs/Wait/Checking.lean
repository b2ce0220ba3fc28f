import ClusterWait.Proofs.Wait.Trials

/-! # Waiting for a condition keeps the protocol of check and condition

`Course.checking` is the course of a wait for a condition while a check holds. Before each of its
attempts, as long as they go on, the check is due by the log of the trials so far (`stage`), and
what an attempt adds is what was due. So the log of a wait keeps to the protocol whenever one looks.

`Outcome` is what the log tells of the end. It is read off the last trial, since nothing is due
after a trial that decides (`ended`). `checkUntil_keeps_protocol` puts it together for the runs of
`checkUntil` with watched assertions, which end as those without do. -/

namespace ClusterWait

variable {σ : Type}

/-- **The course of a wait for a condition** while a check holds. -/
def Course.checking (interval : Nat) (c : Context) (check condition : Assertion σ) (r : Run σ) :
    Course σ Unit :=
  Course.of { interval } c (checkThenCondition check condition) r

/-! ### The log along the course -/

/-- The log of so many attempts. -/
def Course.trials (w : Course σ Unit) (check condition : Assertion σ) (k : Nat) : List Trial :=
  w.log (entries check condition) k

/-- **The log before an attempt,** as long as the attempts go on. -/
structure Stage (interval : Nat) (c : Context) (opening : Timeline) (log : List Trial) (k : Nat)
    (last : Option String) (now : Timeline) : Prop where
  protocol : Protocol interval c opening log
  due : due interval opening log = some (.check, now)
  checks : checks log = k
  last : lastReason log = last

section Stage
variable {w : Course σ Unit} {check condition : Assertion σ}
  (hw : w.attempt = checkThenCondition check condition)
include hw

theorem tried_of_live {k : Nat} (hl : w.Live k) : Tried check condition w.context (w.before k)
    (w.decision k) (w.after k) (entries check condition w.context (w.before k)) := by
  rw [Course.decision, Course.after, hw]
  exact tried hl

theorem stage {k : Nat} (hg : w.GoesOn k) : Stage w.interval w.context w.opening.time
    (w.trials check condition k) k (w.last k) (w.before k).time := by
  induction k with
  | zero => exact ⟨.start, rfl, rfl, rfl⟩
  | succ k ih =>
    obtain ⟨hs, m, hm⟩ := hg k (Nat.lt_succ_self k)
    obtain ⟨hp, hd, hc, -⟩ := ih fun j hj => hg j (Nat.lt_succ_of_lt hj)
    have ht := tried_of_live hw hs.live
    rw [hm] at ht
    obtain ⟨hdue, hlast⟩ := ht.of_retry w.interval w.opening.time (w.trials check condition k)
    rw [Course.trials, Course.log_succ]
    exact ⟨ht.protocol hs.live hp hd, hdue, ht.checks_append.trans (congrArg (· + 1) hc),
      by rw [Course.last, hm]; exact hlast⟩

/-- What an attempt that is made adds to the log. -/
theorem added {k : Nat} (hs : w.Started k) : ∃ log es,
    w.trials check condition (k + 1) = log ++ es ∧
      Tried check condition w.context (w.before k) (w.decision k) (w.after k) es ∧
      Protocol w.interval w.context w.opening.time (log ++ es) ∧ checks (log ++ es) = k + 1 ∧
      lastReason log = w.last k := by
  obtain ⟨hp, hd, hc, hlast⟩ := stage hw fun j hj => hs.earlier hj
  have ht := tried_of_live hw hs.live
  exact ⟨_, _, Course.log_succ .., ht, ht.protocol hs.live hp hd,
    ht.checks_append.trans (congrArg (· + 1) hc), hlast⟩

end Stage

/-! ### What the log tells of the end -/

/-- **How a wait ends by its log.** -/
structure Outcome (c : Context) (opening : Timeline) (log : List Trial)
    (result : Except WaitError Unit) (left : Timeline) : Prop where
  /-- It succeeds if and only if some condition held. -/
  ok_iff : result = .ok () ↔ ∃ t ∈ log, t.role = .condition ∧ t.holds = true
  /-- It fails with its check if and only if some check failed: -/
  checkFailed_iff : (∃ n m, result = .error (.checkFailed n m)) ↔
    ∃ t ∈ log, t.role = .check ∧ t.holds = false
  /-- this was the last trial, and it is told with the number of checks and with its own reason. -/
  checkFailed : ∀ t ∈ log, t.role = .check → t.holds = false →
    log.getLast? = some t ∧ result = .error (.checkFailed (.ofNat (checks log)) t.reason)
  /-- A trial that decides ends the wait at once. -/
  decided : ∀ t ∈ log,
    (t.role = .check ∧ t.holds = false) ∨ (t.role = .condition ∧ t.holds = true) →
      log.getLast? = some t ∧ left = t.closed
  /-- Else the context ended: it is told why, with the number of checks and the reason of the last
  condition that failed, -/
  cutOff : (∀ t ∈ log, t.holds = true ↔ t.role = .check) → ∃ e, left.err c = some e ∧
    result = .error (.ofCancellation e (.ofNat (checks log)) (lastReason log))
  /-- at the first instant, from the end of the last trial, at which it had ended. -/
  instant : (∀ t ∈ log, t.holds = true ↔ t.role = .check) →
    left = (closing opening log).atInstant left.now ∧
      IsLeast {n | (closing opening log).now ≤ n ∧
        ((closing opening log).atInstant n).ended c = true} left.now

section Outcome
variable {interval : Nat} {c : Context} {opening left : Timeline} {log : List Trial}
  {result : Except WaitError Unit} (hp : Protocol interval c opening log)
include hp

/-- The outcome when the last trial decided. -/
theorem Outcome.of_last {t : Trial} (ht : log.getLast? = some t) (hleft : left = t.closed)
    (h : (t.role = .check ∧ t.holds = false ∧
        result = .error (.checkFailed (.ofNat (checks log)) t.reason)) ∨
      (t.role = .condition ∧ t.holds = true ∧ result = .ok ())) :
    Outcome c opening log result left := by
  have hmem : t ∈ log := List.mem_of_getLast? ht
  -- no other trial decides
  have only (u : Trial) (hu : u ∈ log) (h : (u.role = .check ∧ u.holds = false) ∨
      (u.role = .condition ∧ u.holds = true)) : u = t := by
    have hl := hp.getLast?_of_next hu (Trial.next_eq_none_iff.mpr h)
    rw [ht] at hl
    exact (Option.some.inj hl).symm
  have hnot : ¬ ∀ u ∈ log, u.holds = true ↔ u.role = .check := by
    intro hall
    have := hall t hmem
    rcases h with ⟨hr, hh, -⟩ | ⟨hr, hh, -⟩ <;> simp [hr, hh] at this
  rcases h with ⟨hr, hh, rfl⟩ | ⟨hr, hh, rfl⟩
  · refine ⟨⟨nofun, ?_⟩, ⟨fun _ => ⟨t, hmem, hr, hh⟩, fun _ => ⟨_, _, rfl⟩⟩, ?_, ?_,
      fun hall => absurd hall hnot, fun hall => absurd hall hnot⟩
    · rintro ⟨u, hu, hur, huh⟩
      have := only u hu (Or.inr ⟨hur, huh⟩)
      rw [this, hr] at hur
      cases hur
    · intro u hu hur huh
      obtain rfl := only u hu (Or.inl ⟨hur, huh⟩)
      exact ⟨ht, rfl⟩
    · intro u hu h
      obtain rfl := only u hu h
      exact ⟨ht, hleft⟩
  · refine ⟨⟨fun _ => ⟨t, hmem, hr, hh⟩, fun _ => rfl⟩, ⟨nofun, ?_⟩, ?_, ?_,
      fun hall => absurd hall hnot, fun hall => absurd hall hnot⟩
    · rintro ⟨u, hu, hur, huh⟩
      have := only u hu (Or.inl ⟨hur, huh⟩)
      rw [this, hr] at hur
      cases hur
    · intro u hu hur huh
      have := only u hu (Or.inl ⟨hur, huh⟩)
      rw [this, hr] at hur
      cases hur
    · intro u hu h
      obtain rfl := only u hu h
      exact ⟨ht, hleft⟩

/-- The outcome when something was due, but the context had ended. -/
theorem Outcome.of_due {e : Cancellation} (hd : due interval opening log ≠ none)
    (he : left.err c = some e)
    (hn : IsLeast {n | (closing opening log).now ≤ n ∧
      ((closing opening log).atInstant n).ended c = true} left.now)
    (hleft : left = (closing opening log).atInstant left.now) :
    Outcome c opening log (.error (.ofCancellation e (.ofNat (checks log)) (lastReason log))) left := by
  -- after a trial that decides nothing would have been due
  have none_decides (u : Trial) (hu : u ∈ log) : ¬ ((u.role = .check ∧ u.holds = false) ∨
      (u.role = .condition ∧ u.holds = true)) := by
    intro h
    have hn : u.next interval = none := Trial.next_eq_none_iff.mpr h
    rw [due, hp.getLast?_of_next hu hn] at hd
    exact hd hn
  refine ⟨⟨(fun h => by cases h), ?_⟩, ⟨?_, ?_⟩, ?_, ?_, fun _ => ⟨e, he, rfl⟩,
    fun _ => ⟨hleft, hn⟩⟩
  · rintro ⟨u, hu, h⟩
    exact absurd (Or.inr h) (none_decides u hu)
  · rintro ⟨n, m, h⟩
    cases e <;> cases h
  · rintro ⟨u, hu, h⟩
    exact absurd (Or.inl h) (none_decides u hu)
  · intro u hu hr hh
    exact absurd (Or.inl ⟨hr, hh⟩) (none_decides u hu)
  · intro u hu h
    exact absurd h (none_decides u hu)

end Outcome

/-! ### The end of the course -/

theorem mapError_ofCancellation (e : Cancellation) (n : UInt32) (last : Option String) :
    Except.mapError (α := Unit) WaitError.asCheckFailure (.error (.ofCancellation e n last)) =
      .error (.ofCancellation e n last) := by
  cases e <;> rfl

/-- **A wait ends as its log tells.** -/
theorem ended {w : Course σ Unit} {check condition : Assertion σ}
    (hw : w.attempt = checkThenCondition check condition) {n : Nat} {result : Except WaitError Unit}
    {left : Run σ} (he : w.Ends n result left) :
    Protocol w.interval w.context w.opening.time (w.trials check condition n) ∧
      Outcome w.context w.opening.time (w.trials check condition n)
        (result.mapError WaitError.asCheckFailure) left.time := by
  cases he with
  | atOnce he =>
    refine ⟨.start, ?_⟩
    rw [mapError_ofCancellation]
    have hp : Protocol w.interval w.context w.opening.time [] := .start
    refine Outcome.of_due hp (Option.some_ne_none _) he ⟨⟨le_rfl, ?_⟩, fun m hm => hm.1⟩ rfl
    exact Option.isSome_iff_exists.mpr ⟨_, he⟩
  | @meanwhile k m why e hs hm hl hn he =>
    obtain ⟨log, es, hes, ht, hp, hc, -⟩ := added hw hs
    rw [hm] at ht
    obtain ⟨hdue, hlast⟩ := ht.of_retry w.interval w.opening.time log
    rw [hes, mapError_ofCancellation, ← hc, ← hlast]
    refine ⟨hp, Outcome.of_due hp (by rw [hdue]; exact Option.some_ne_none _) he ?_ ?_⟩
    · rw [ht.closing_append]; exact hn
    · rw [ht.closing_append]; rfl
  | @done k v hs hd =>
    obtain ⟨log, es, hes, ht, hp, -, -⟩ := added hw hs
    rw [hd] at ht
    obtain ⟨t, hlast, hr, hh⟩ := ht.of_done log
    have hclose : closing w.opening.time (log ++ es) = _ := ht.closing_append
    rw [closing, hlast] at hclose
    rw [hes]
    exact ⟨hp, Outcome.of_last hp hlast hclose.symm (Or.inr ⟨hr, hh, rfl⟩)⟩
  | @stopped k m hs hd =>
    obtain ⟨log, es, hes, ht, hp, hc, -⟩ := added hw hs
    rw [hd] at ht
    obtain ⟨t, hlast, hr, hh, rfl⟩ := ht.of_stop log
    have hclose : closing w.opening.time (log ++ es) = _ := ht.closing_append
    rw [closing, hlast] at hclose
    rw [hes, ← hc]
    exact ⟨hp, Outcome.of_last hp hlast hclose.symm (Or.inl ⟨hr, hh, rfl⟩)⟩
  | @cancelled k hs hd =>
    obtain ⟨log, es, hes, ht, hp, hc, hl⟩ := added hw hs
    rw [hd] at ht
    obtain ⟨hdue, hlast, e, he⟩ := ht.of_cancelled w.interval w.opening.time log
    rw [hes, he, Option.getD_some, mapError_ofCancellation, ← hc, ← hl, ← hlast]
    refine ⟨hp, Outcome.of_due hp (by rw [hdue]; exact Option.some_ne_none _) he ?_ ?_⟩
    · rw [ht.closing_append]
      exact ⟨⟨le_rfl, Option.isSome_iff_exists.mpr ⟨e, he⟩⟩, fun m hm => hm.1⟩
    · rw [ht.closing_append]; rfl

/-! ### The main result -/

variable (interval : Nat) (c : Context) (check condition : Assertion σ) (r : Run σ)

theorem checkUntil_eq_map : checkUntil interval c check condition r =
    (Poll.untilDone { interval } c (checkThenCondition check condition) r).map
      fun x => (x.1.mapError WaitError.asCheckFailure, x.2) := by
  unfold checkUntil
  rcases Poll.untilDone { interval } c (checkThenCondition check condition) r with
    _ | ⟨_ | _, left⟩ <;> rfl

theorem checkUntil_eq_none_iff : checkUntil interval c check condition r = none ↔
    (Course.checking interval c check condition r).GoesOn
      (Course.checking interval c check condition r).granted := by
  rw [checkUntil_eq_map, Option.map_eq_none_iff, Poll.untilDone_eq_run, Course.run_eq_none_iff]
  rfl

/-- Watched assertions come to the same. -/
theorem checkUntil_eq_map_watched : checkUntil interval c check condition r =
    (checkUntil interval c (check.watched .check) (condition.watched .condition)
      (r.withLog [])).map fun x => (x.1, x.2.plain) := by
  rw [checkUntil_eq_map, checkUntil_eq_map,
    Poll.untilDone_eq_map_logged _ c _ r (notes_watched check condition), Option.map_map,
    Option.map_map]
  rfl

section Watched
variable {interval c check condition r}

/-- A wait with watched assertions ends as its course does, -/
theorem checkUntil_watched_of_ends {n : Nat} {result : Except WaitError Unit} {left : Run σ}
    (he : (Course.checking interval c check condition r).Ends n result left)
    (hb : ¬ (Course.checking interval c check condition r).GoesOn
      (Course.checking interval c check condition r).granted) :
    checkUntil interval c (check.watched .check) (condition.watched .condition) (r.withLog []) =
      some (result.mapError WaitError.asCheckFailure, left.withLog
        ((Course.checking interval c check condition r).trials check condition n)) := by
  rw [checkUntil_eq_map,
    Poll.untilDone_logged { interval } c _ r (notes_watched check condition) he hb]
  rfl

/-- and in no other way. -/
theorem exists_ends_of_checkUntil_watched {result : Except WaitError Unit}
    {left : Run (σ × List Trial)} (h : checkUntil interval c (check.watched .check)
      (condition.watched .condition) (r.withLog []) = some (result, left)) :
    ∃ n result' plain, (Course.checking interval c check condition r).Ends n result' plain ∧
      result = result'.mapError WaitError.asCheckFailure ∧ left = plain.withLog
        ((Course.checking interval c check condition r).trials check condition n) := by
  rw [checkUntil_eq_map, Option.map_eq_some_iff] at h
  obtain ⟨⟨result', left'⟩, hr, heq⟩ := h
  cases heq
  obtain ⟨n, he, hlog⟩ := Poll.untilDone_logged_eq_some _ c _ r (notes_watched check condition) hr
  exact ⟨n, result', left'.plain, he, rfl, hlog⟩

end Watched

/-- An attempt neither turns the clock back nor takes a cancel back if its evaluations do not. -/
theorem keepsTime_checkThenCondition (hcheck : ∀ sink, (check c sink).KeepsTime)
    (hcondition : ∀ sink, (condition c sink).KeepsTime) :
    (checkThenCondition check condition c).KeepsTime := by
  have evaluated {a : Assertion σ} (ha : ∀ sink, (a c sink).KeepsTime) :
      (evaluate c a).KeepsTime := by
    intro r
    cases he : r.time.err c with
    | some e => rw [evaluate_of_ended he]; exact .refl _
    | none => rw [evaluate_of_live he .check]; exact ha .fresh r
  intro r
  have hr := evaluated hcheck r
  unfold checkThenCondition
  generalize evaluate c check r = x at hr ⊢
  obtain ⟨_ | m | _, r'⟩ := x
  · have hr' := hr.trans (evaluated hcondition r')
    generalize hy : evaluate c condition r' = y at hr'
    obtain ⟨_ | m | _, r''⟩ := y <;> simp only [hy] <;> exact hr'
  · exact hr
  · exact hr

/-- **A wait for a condition while a check holds keeps the protocol.** The trials are logged by the
assertions themselves. -/
structure KeepsProtocol (w : Course (σ × List Trial) Unit) : Prop where
  /-- A wait whose trials are logged comes to the same as the wait without. -/
  unwatched : checkUntil interval c check condition r =
    (checkUntil interval c (check.watched .check) (condition.watched .condition)
      (r.withLog [])).map fun x => (x.1, x.2.plain)
  /-- Its log keeps to the protocol and tells the end. -/
  log : ∀ result left, checkUntil interval c (check.watched .check) (condition.watched .condition)
    (r.withLog []) = some (result, left) →
      Protocol interval c r.time left.world.2 ∧ Outcome c r.time left.world.2 result left.time
  /-- So does the log before and after each attempt of a wait, whether or not it ends; -/
  attempts : ∀ k, w.Started k → Protocol interval c r.time (w.before k).world.2 ∧
    Protocol interval c r.time (w.after k).world.2
  /-- and so does what was logged earlier. -/
  earlier : ∀ log later, Protocol interval c r.time (log ++ later) → Protocol interval c r.time log
  /-- There is no result only when all attempts granted ask for another, -/
  endless_iff : checkUntil interval c check condition r = none ↔ w.GoesOn w.granted
  /-- and this does not happen when the context ends, attempts are some time apart and evaluations
  keep time. -/
  ends : 0 < interval → (r.time.endOf c).isSome = true → (∀ sink, (check c sink).KeepsTime) →
    (∀ sink, (condition c sink).KeepsTime) →
    ∃ result left, checkUntil interval c check condition r = some (result, left)

/-- **Check and condition alternate as the protocol says, and the log of their evaluations tells how
the wait ends.** -/
theorem checkUntil_keeps_protocol : KeepsProtocol interval c check condition r
    (Course.checking interval c (check.watched .check) (condition.watched .condition)
      (r.withLog [])) := by
  have h : Notes (Course.checking interval c check condition r).attempt
      (checkThenCondition (check.watched .check) (condition.watched .condition))
      (entries check condition) := notes_watched check condition
  have hw : Course.checking interval c (check.watched .check) (condition.watched .condition)
      (r.withLog []) = (Course.checking interval c check condition r).logged
        (checkThenCondition (check.watched .check) (condition.watched .condition)) := rfl
  refine ⟨checkUntil_eq_map_watched .., fun result left hr => ?_, fun k hs => ?_,
    fun _ _ hp => hp.before, ?_, fun hi hend hcheck hcondition => ?_⟩
  · rw [checkUntil_eq_map, Option.map_eq_some_iff] at hr
    obtain ⟨⟨result', left'⟩, hr, heq⟩ := hr
    cases heq
    obtain ⟨n, he, hlog⟩ := Poll.untilDone_logged_eq_some _ c _ r (notes_watched check condition) hr
    rw [hlog]
    exact ended (w := Course.checking interval c check condition r) rfl he
  · rw [hw, Course.started_logged h] at hs
    rw [hw, Course.before_logged h, Course.after_logged h]
    have hattempt : (Course.checking interval c check condition r).attempt =
        checkThenCondition check condition := rfl
    obtain ⟨log, es, hes, -, hp, -, -⟩ := added hattempt hs
    refine ⟨(stage hattempt fun j hj => hs.earlier hj).protocol, ?_⟩
    rw [← hes] at hp
    exact hp
  · rw [checkUntil_eq_none_iff, hw, Course.goesOn_logged h]
    rfl
  · rw [← Option.ne_none_iff_exists'.trans Prod.exists, ne_eq, checkUntil_eq_none_iff]
    exact Poll.not_goesOn_granted (w := Course.checking interval c check condition r) hi hend
      (keepsTime_checkThenCondition c check condition hcheck hcondition)

end ClusterWait
