import ClusterWait.Proofs.Cluster.RetryingWaits
import Mathlib.Data.List.Find
import Mathlib.Data.List.Nodup

/-! # Operators: which conditions count, and how long they are waited for

Of several conditions of one type the first counts (`ClusterOperator.First`), and only three types do:
an operator is `Sound` if it is not first said to be unavailable, to be progressing, or to be degraded.
What counts against it is a reason, told in this order of the types
(`ClusterOperator.exists_unavailableReason`).

So operators with the same first conditions have the same reason
(`ClusterOperator.unavailableReason_congr`), whatever the order of conditions of different types
(`condition_of_perm`), whatever conditions there are of other types (`condition_of_filter_eq`), and
whatever comes after the first of a type (`condition_of_append`).

`operators_judged_by_first_conditions` puts this together, with the wait for a sound operator. -/

namespace ClusterWait

variable {τ : Type}

namespace ClusterOperator

variable {x y : ClusterOperator} {type bad : String} {c : OperatorCondition}

/-! ### First conditions -/

/-- **The condition is the first of its type.** -/
def First (x : ClusterOperator) (type : String) (c : OperatorCondition) : Prop :=
  ∃ before after, x.conditions = before ++ c :: after ∧ c.type = type ∧ ∀ d ∈ before, d.type ≠ type

theorem condition_eq_some_iff : x.condition type = some c ↔ x.First type c := by
  rw [condition, List.find?_eq_some_iff_append]
  constructor
  · rintro ⟨hc, before, after, hx, hbefore⟩
    exact ⟨before, after, hx, by simpa using hc, fun d hd => by simpa using hbefore d hd⟩
  · rintro ⟨before, after, hx, hc, hbefore⟩
    exact ⟨by simpa using hc, before, after, hx, fun d hd => by simpa using hbefore d hd⟩

/-- **No first condition counts against the operator.** A type without a condition does not. -/
structure Sound (x : ClusterOperator) : Prop where
  available : ∀ c, x.First "Available" c → c.status ≠ "False"
  progressing : ∀ c, x.First "Progressing" c → c.status ≠ "True"
  degraded : ∀ c, x.First "Degraded" c → c.status ≠ "True"

/-- **What a type contributes to the reason:** words for its first condition if this has the bad status,
and else nothing. -/
inductive Contributes (x : ClusterOperator) (type bad : String) : List String → Prop
  | against {c : OperatorCondition} (h : x.First type c) (hbad : c.status = bad) :
    Contributes x type bad [type ++ "=" ++ bad ++ " (" ++ c.message.getD "no message" ++ ")"]
  | nothing (h : ∀ c, x.First type c → c.status ≠ bad) : Contributes x type bad []

theorem contributes (x : ClusterOperator) (type bad : String) : x.Contributes type bad
    (((x.condition type).filter (·.status = bad)).map complaint).toList := by
  cases hc : x.condition type with
  | none =>
    refine .nothing fun c h => ?_
    rw [condition_eq_some_iff.mpr h] at hc
    cases hc
  | some c =>
    have hfirst := condition_eq_some_iff.mp hc
    by_cases hbad : c.status = bad
    · have hagainst := Contributes.against hfirst hbad
      obtain ⟨-, -, -, rfl, -⟩ := hfirst
      subst hbad
      rw [Option.filter_some_pos (by simp)]
      exact hagainst
    · rw [Option.filter_some_neg (by simpa using hbad)]
      refine .nothing fun d h => ?_
      rw [condition_eq_some_iff.mpr h] at hc
      cases hc
      exact hbad

theorem Contributes.eq_nil_iff {words : List String} (h : x.Contributes type bad words) :
    words = [] ↔ ∀ c, x.First type c → c.status ≠ bad := by
  cases h with
  | against hfirst hbad =>
    refine ⟨fun h => ?_, fun h => ?_⟩
    · cases h
    · exact absurd hbad (h _ hfirst)
  | nothing h => exact ⟨fun _ => h, fun _ => rfl⟩

/-- **The reason is what the three types contribute,** in their order. -/
theorem exists_unavailableReason (x : ClusterOperator) : ∃ available progressing degraded,
    x.Contributes "Available" "False" available ∧ x.Contributes "Progressing" "True" progressing ∧
      x.Contributes "Degraded" "True" degraded ∧ x.unavailableReason =
        if available ++ progressing ++ degraded = [] then none
        else some (", ".intercalate (available ++ progressing ++ degraded)) := by
  refine ⟨_, _, _, x.contributes "Available" "False", x.contributes "Progressing" "True",
    x.contributes "Degraded" "True", ?_⟩
  have hcomplaints : x.complaints =
      (((x.condition "Available").filter (·.status = "False")).map complaint).toList ++
        (((x.condition "Progressing").filter (·.status = "True")).map complaint).toList ++
        (((x.condition "Degraded").filter (·.status = "True")).map complaint).toList := by
    rw [complaints, List.filterMap_eq_flatMap_toList]
    simp only [unsettled, List.flatMap_cons, List.flatMap_nil, List.append_nil, List.append_assoc]
  rw [← hcomplaints, unavailableReason]
  simp only [List.isEmpty_iff]

example : unavailableReason { status := some { conditions := [
    { type := "Progressing", status := "True", message := some "rolling out" },
    { type := "Upgradeable", status := "False" }, { type := "Available", status := "False" },
    { type := "Progressing", status := "False" }, { type := "Degraded", status := "False" },
    { type := "Degraded", status := "True" }] } } =
      some "Available=False (no message), Progressing=True (rolling out)" := by decide +kernel

theorem unavailableReason_eq_none_iff : x.unavailableReason = none ↔ x.Sound := by
  obtain ⟨available, progressing, degraded, ha, hp, hd, hreason⟩ := x.exists_unavailableReason
  have hnone : x.unavailableReason = none ↔ (available = [] ∧ progressing = []) ∧ degraded = [] := by
    rw [hreason, ← List.append_eq_nil_iff, ← List.append_eq_nil_iff]
    by_cases h : available ++ progressing ++ degraded = []
    · rw [if_pos h]
      exact iff_of_true rfl h
    · rw [if_neg h]
      exact iff_of_false (Option.some_ne_none _) h
  rw [hnone, ha.eq_nil_iff, hp.eq_nil_iff, hd.eq_nil_iff]
  exact ⟨fun ⟨⟨h, h'⟩, h''⟩ => ⟨h, h', h''⟩, fun ⟨h, h', h''⟩ => ⟨⟨h, h'⟩, h''⟩⟩

/-! ### What does not count -/

/-- **Operators with the same first conditions have the same reason.** -/
theorem unavailableReason_congr (h : ∀ u ∈ unsettled, x.condition u.1 = y.condition u.1) :
    x.unavailableReason = y.unavailableReason := by
  have hcomplaints : x.complaints = y.complaints :=
    List.filterMap_congr fun u hu => by rw [h u hu]
  rw [unavailableReason, unavailableReason, hcomplaints]

theorem condition_of_perm {before middle middle' after : List OperatorCondition}
    (hx : x.conditions = before ++ middle ++ after) (hy : y.conditions = before ++ middle' ++ after)
    (h : middle.Perm middle') (hnodup : (middle.map (·.type)).Nodup) (type : String) :
    x.condition type = y.condition type := by
  have hone : {c ∈ middle | decide (c.type = type)}.Subsingleton := by
    rintro c ⟨hc, hctype⟩ d ⟨hd, hdtype⟩
    refine List.inj_on_of_nodup_map hnodup hc hd ?_
    exact (of_decide_eq_true hctype).trans (of_decide_eq_true hdtype).symm
  rw [condition, condition, hx, hy]
  simp only [List.find?_append]
  rw [List.find?_eq_find?_of_perm h hone]

theorem condition_of_filter_eq {types : List String}
    (h : x.conditions.filter (·.type ∈ types) = y.conditions.filter (·.type ∈ types))
    (htype : type ∈ types) : x.condition type = y.condition type := by
  have hfilter (z : ClusterOperator) :
      z.condition type = (z.conditions.filter (·.type ∈ types)).find? (·.type = type) := by
    have hboth (c : OperatorCondition) : decide (c.type = type) =
        decide (decide (c.type ∈ types) = true ∧ decide (c.type = type) = true) := by
      by_cases hc : c.type = type
      · simp [hc, htype]
      · simp [hc]
    rw [List.find?_filter, condition, funext hboth]
  rw [hfilter, hfilter, h]

theorem condition_of_append {more : List OperatorCondition}
    (h : y.conditions = x.conditions ++ more)
    (hmore : ∀ d ∈ more, ∃ c ∈ x.conditions, c.type = d.type) (type : String) :
    x.condition type = y.condition type := by
  rw [condition, condition, h, List.find?_append]
  cases hc : x.conditions.find? (·.type = type) with
  | some c => rfl
  | none =>
    have hnone : more.find? (·.type = type) = none := by
      rw [List.find?_eq_none] at hc ⊢
      intro d hd
      obtain ⟨c, hmem, hc'⟩ := hmore d hd
      rw [← hc']
      exact hc c hmem
    rw [hnone]
    rfl

end ClusterOperator

/-! ### The wait for a sound operator -/

section Wait

variable (service : Service τ) (timeouts : Timeouts) (timeout : Nat) (name : String) (c : Context)
  (r : Run (Traffic τ))

def operatorRequest (name : String) : Request := .get ClusterOperator.api.collection name

/-- **The operator is fetched, and it is sound.** -/
def FetchesSound (run : Run (Traffic τ)) : Prop :=
  ∃ x, (service.ask (operatorRequest name) ClusterOperator.decode run).1 = .ok x ∧ x.Sound

/-- **The wait for a sound operator,** by its course. -/
structure AwaitsSound (w : Course (Traffic τ) Unit) : Prop where
  paces : (⟨timeouts.retryMedium, some timeout⟩ : Poll).Paces c r w
  /-- Each attempt fetches the operator, and does nothing else; -/
  fetches : ∀ k, w.after k = (service.ask (operatorRequest name) ClusterOperator.decode (w.before k)).2
  /-- another is made if it is not fetched or not sound, and the context is live at the tick. -/
  started_succ : ∀ k, w.Started (k + 1) ↔
    w.Started k ∧ ¬ FetchesSound service name (w.before k) ∧ w.Live (k + 1)
  /-- The wait succeeds exactly with the first attempt that fetches a sound operator. -/
  ok_iff : ∀ left, awaitOperator service timeouts timeout name c r = some (.ok (), left) ↔
    ∃ k < w.granted, w.Started k ∧ FetchesSound service name (w.before k) ∧
      (∀ j < k, ¬ FetchesSound service name (w.before j)) ∧ left = w.after k
  /-- All attempts that are made are granted, if they are some time apart or the run is patient. -/
  granted : ∀ k, w.Started k → 0 < timeouts.retryMedium ∨ k ≤ r.patience → k < w.granted

def operatorCourse : Course (Traffic τ) Unit :=
  Course.of ⟨timeouts.retryMedium, some timeout⟩ c
    (fun _ => do pure (judgeOperator name (← ClusterOperator.api.get service name))) r

variable {service timeouts timeout name c r} {k : Nat}

theorem fetchesSound_iff {run : Run (Traffic τ)} : FetchesSound service name run ↔
    Settled (service.ask (operatorRequest name) ClusterOperator.decode run).1 :=
  exists_congr fun _ => and_congr_right fun _ => ClusterOperator.unavailableReason_eq_none_iff.symm

theorem operatorCourse_done_iff : (operatorCourse service timeouts timeout name c r).decision k =
    .done () ↔ FetchesSound service name ((operatorCourse service timeouts timeout name c r).before k) := by
  rw [fetchesSound_iff]
  exact (judges_operator name).done_iff _

theorem operatorCourse_retry_iff :
    (∃ m, (operatorCourse service timeouts timeout name c r).decision k = .retry m) ↔
      ¬ FetchesSound service name ((operatorCourse service timeouts timeout name c r).before k) := by
  rw [fetchesSound_iff]
  exact (judges_operator name).retry_iff _

theorem awaitOperator_eq_ok_iff {left : Run (Traffic τ)} {w : Course (Traffic τ) Unit}
    (hw : operatorCourse service timeouts timeout name c r = w) :
    awaitOperator service timeouts timeout name c r = some (.ok (), left) ↔
      ∃ k < w.granted, w.Started k ∧ FetchesSound service name (w.before k) ∧
        (∀ j < k, ¬ FetchesSound service name (w.before j)) ∧ left = w.after k := by
  have hrun : awaitOperator service timeouts timeout name c r = w.run w.granted := by
    rw [← hw]
    exact Poll.untilDone_eq_run _ c _ r
  rw [hrun, Course.run_eq_ok_iff]
  subst hw
  constructor
  · rintro ⟨k, hk, hs, hd, hleft⟩
    -- an attempt is only made after attempts that asked for another
    refine ⟨k, hk, hs, operatorCourse_done_iff.mp hd, fun j hj => ?_, hleft⟩
    exact operatorCourse_retry_iff.mp (hs.earlier hj).2
  · rintro ⟨k, hk, hs, hsound, -, hleft⟩
    exact ⟨k, hk, hs, operatorCourse_done_iff.mpr hsound, hleft⟩

theorem awaitsSound (service : Service τ) (timeouts : Timeouts) (timeout : Nat) (name : String)
    (c : Context) (r : Run (Traffic τ)) : AwaitsSound service timeouts timeout name c r
      (operatorCourse service timeouts timeout name c r) := by
  have hfollows : Follows (do pure (judgeOperator name (← ClusterOperator.api.get service name)))
      (Answered service (operatorRequest name) ClusterOperator.decode (judgeOperator name) Settled) :=
    follows_answered (judges_operator name) fun _ => rfl
  obtain ⟨issued, hp⟩ := triesAgain hfollows (p := ⟨timeouts.retryMedium, some timeout⟩) rfl c r
  refine ⟨hp.paces, fun _ => rfl, fun k => ?_, fun left => awaitOperator_eq_ok_iff rfl, hp.granted⟩
  exact and_congr_right fun _ => and_congr_left fun _ => operatorCourse_retry_iff

end Wait

/-! ### The main result -/

/-- **Only the first conditions of three types count.** -/
structure JudgedByFirst : Prop where
  /-- An operator is available exactly if no first condition counts against it, -/
  available_iff : ∀ x : ClusterOperator, x.isAvailable = true ↔ x.Sound
  /-- and then there is no reason, -/
  sound_iff : ∀ x : ClusterOperator, x.unavailableReason = none ↔ x.Sound
  /-- and else the reason tells those that do, with their messages, in the order of the types. -/
  reason : ∀ x : ClusterOperator, ∃ available progressing degraded,
    x.Contributes "Available" "False" available ∧ x.Contributes "Progressing" "True" progressing ∧
      x.Contributes "Degraded" "True" degraded ∧ x.unavailableReason =
        if available ++ progressing ++ degraded = [] then none
        else some (", ".intercalate (available ++ progressing ++ degraded))
  /-- Operators with the same first conditions of these types have the same reason. -/
  firsts : ∀ x y : ClusterOperator,
    (∀ type ∈ ["Available", "Progressing", "Degraded"], ∀ c, x.First type c ↔ y.First type c) →
      x.unavailableReason = y.unavailableReason
  /-- It stays the same when conditions of different types change places, -/
  reordered : ∀ (x y : ClusterOperator) (before middle middle' after : List OperatorCondition),
    x.conditions = before ++ middle ++ after → y.conditions = before ++ middle' ++ after →
      middle.Perm middle' → (middle.map (·.type)).Nodup → x.unavailableReason = y.unavailableReason
  /-- when conditions of other types come or go, wherever they stand, -/
  others : ∀ x y : ClusterOperator,
    x.conditions.filter (·.type ∈ ["Available", "Progressing", "Degraded"]) =
      y.conditions.filter (·.type ∈ ["Available", "Progressing", "Degraded"]) →
    x.unavailableReason = y.unavailableReason
  /-- and when conditions follow of types that there are already. -/
  appended : ∀ (x y : ClusterOperator) (more : List OperatorCondition),
    y.conditions = x.conditions ++ more → (∀ d ∈ more, ∃ c ∈ x.conditions, c.type = d.type) →
      x.unavailableReason = y.unavailableReason
  /-- A wait for an operator ends well exactly with the first attempt that finds it available. -/
  awaits : ∀ {τ : Type} (service : Service τ) (timeouts : Timeouts) (timeout : Nat) (name : String)
    (c : Context) (r : Run (Traffic τ)), AwaitsSound service timeouts timeout name c r
      (operatorCourse service timeouts timeout name c r)

theorem type_mem_of_mem_unsettled {u : String × String} (h : u ∈ ClusterOperator.unsettled) :
    u.1 ∈ ["Available", "Progressing", "Degraded"] :=
  List.mem_map_of_mem (f := Prod.fst) h

/-- **Operators are judged by their first conditions,** and waited for until these do not count against
them. -/
theorem operators_judged_by_first_conditions : JudgedByFirst where
  available_iff _ := Option.isNone_iff_eq_none.trans ClusterOperator.unavailableReason_eq_none_iff
  sound_iff _ := ClusterOperator.unavailableReason_eq_none_iff
  reason x := x.exists_unavailableReason
  firsts x y h := by
    refine ClusterOperator.unavailableReason_congr fun u hu => Option.ext fun c => ?_
    rw [ClusterOperator.condition_eq_some_iff, ClusterOperator.condition_eq_some_iff]
    exact h u.1 (type_mem_of_mem_unsettled hu) c
  reordered x y before middle middle' after hx hy hperm hnodup := by
    refine ClusterOperator.unavailableReason_congr fun u _ => ?_
    exact ClusterOperator.condition_of_perm hx hy hperm hnodup u.1
  others x y h := by
    refine ClusterOperator.unavailableReason_congr fun u hu => ?_
    exact ClusterOperator.condition_of_filter_eq h (type_mem_of_mem_unsettled hu)
  appended x y more h hmore := by
    refine ClusterOperator.unavailableReason_congr fun u _ => ?_
    exact ClusterOperator.condition_of_append h hmore u.1
  awaits service timeouts timeout name c r := awaitsSound service timeouts timeout name c r

end ClusterWait
