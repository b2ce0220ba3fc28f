import ClusterWait.Proofs.Cluster.Requests

/-! # Waits that try again whatever the cluster answers

An attempt of such a wait issues some requests and finds what the wait is for, or it has a reason to
try again; it never gives up. How its attempts can go is a relation (`Ways`), and attempts that `Follow`
a relation go one of its ways each time, and no other.

* `Poll.Paces`: when the context of a wait is live, and when its attempts are due.
* `Perseveres`: a wait with such attempts ends successfully with the first attempt that finds what it
  waits for, and else only because its context ended.
* `TriesAgain`: a wait does this in the course of its attempts that begins in a run. `triesAgain` says
  so of every wait with a bound of its own whose attempts follow some ways.
* `Answered`: the ways of an attempt that judges the answer to one request, and `Absent`, the answer
  that many of them wait for. -/

namespace ClusterWait

variable {τ : Type}

/-! ### The pace of a wait -/

/-- **The pace of a wait** that is begun in a run. -/
structure Poll.Paces {σ α : Type} (p : Poll) (c : Context) (r : Run σ) (w : Course σ α) : Prop where
  /-- The context of the attempts is live while the caller's token and its own are not cancelled,
  and neither the caller's deadline nor the bound of the wait has come. -/
  live_iff : ∀ l : Timeline, l.err w.context = none ↔ l.cancelledAt c.token l.now = false ∧
    (∀ x ∈ l.cancels, x.instant ≤ l.now → x.token ≠ w.context.token) ∧
    (∀ d, c.deadline = some d → l.now < d) ∧ ∀ t, p.timeout = some t → l.now < r.time.now + t
  /-- The first attempt is due at once, with nothing else changed, -/
  first : (w.before 0).time.now = r.time.now ∧ (w.before 0).time.cancels = r.time.cancels ∧
    (w.before 0).world = r.world
  /-- and each further one the interval after the one before. -/
  next : ∀ k, w.before (k + 1) = (w.after k).withTime ((w.after k).time.advance p.interval)

theorem Poll.paces_of {σ α : Type} (p : Poll) (c : Context) (attempt : Context → Act σ (Attempt α))
    (r : Run σ) : p.Paces c r (Course.of p c attempt r) := by
  obtain ⟨hnow, hcancels, hworld, -⟩ := Poll.scope_opening p c r
  exact ⟨Poll.err_scope_eq_none_iff p c r, ⟨hnow, hcancels, hworld⟩, Course.before_succ⟩

/-! ### The ways of an attempt -/

/-- **How attempts can go:** from a run, with requests, to a run, and with a reason to try again unless
what is waited for was found. -/
abbrev Ways (τ : Type) :=
  Run (Traffic τ) → List Request → Option String → Run (Traffic τ) → Prop

/-- What an attempt decides that has a reason to try again, or none. -/
def verdict : Option String → Attempt Unit
  | none => .done ()
  | some m => .retry m

/-- **The attempt goes one of the ways,** and no other. -/
structure Follows (attempt : Act (Traffic τ) (Attempt Unit)) (way : Ways τ) : Prop where
  covers : ∀ r, ∃ requests reason r', way r requests reason r'
  decides : ∀ {r requests reason r'}, way r requests reason r' → attempt r = (verdict reason, r')
  asked : ∀ {r requests reason r'}, way r requests reason r' → Asked r r' requests

/-- An attempt that follows some ways keeps time. -/
theorem Follows.keepsTime {attempt : Act (Traffic τ) (Attempt Unit)} {way : Ways τ}
    (h : Follows attempt way) : attempt.KeepsTime := by
  intro r
  obtain ⟨requests, reason, r', hway⟩ := h.covers r
  rw [h.decides hway]
  exact (h.asked hway).time

/-- **A wait that tries again whatever the cluster answers,** by the ways of its attempts, its course,
the requests that each attempt issues, and what comes of it. -/
structure Perseveres (way : Ways τ) (p : Poll) (c : Context) (r : Run (Traffic τ))
    (w : Course (Traffic τ) Unit) (issued : Nat → List Request)
    (outcome : Option (Except WaitError Unit × Run (Traffic τ))) : Prop where
  paces : p.Paces c r w
  /-- Each attempt goes one of the ways and decides accordingly. -/
  attempts : ∀ k, ∃ reason, way (w.before k) (issued k) reason (w.after k) ∧
    w.decision k = verdict reason
  /-- A further attempt is made exactly if the one before was made and has a reason to try again, and
  the context is live when it is due. -/
  started_succ : ∀ k, w.Started (k + 1) ↔ w.Started k ∧
    (∃ m, way (w.before k) (issued k) (some m) (w.after k)) ∧ w.Live (k + 1)
  /-- What is sent until the wait ends is what the attempts issue, in their order. -/
  requests : ∀ result left, outcome = some (result, left) → ∃ n, (∀ k, w.Started k ↔ k < n) ∧
    Asked r left ((List.range n).flatMap issued)
  /-- The first attempt that finds what is waited for ends the wait, -/
  ends_met : ∀ k requests left, w.Started k → k < w.granted → way (w.before k) requests none left →
    w.EndsWith k (.ok ()) outcome
  /-- and the wait succeeds only with such an attempt. -/
  ok_iff : ∀ result left, outcome = some (result, left) → (result = .ok () ↔
    ∃ k, w.Started k ∧ way (w.before k) (issued k) none (w.after k))
  /-- Else all attempts had reasons to try again, and its context ended; it is told why, with the number
  of attempts and the reason of the last. -/
  otherwise : ∀ e left, outcome = some (.error e, left) → ∃ n why, (∀ k, w.Started k ↔ k < n) ∧
    (∀ k < n, ∃ m, way (w.before k) (issued k) (some m) (w.after k)) ∧
    left.time.err w.context = some why ∧ e = .ofCancellation why (.ofNat n) (w.last n)
  /-- There is no result only when all attempts granted ask for another, -/
  endless_iff : outcome = none ↔ w.GoesOn w.granted
  /-- and this does not happen when attempts are some time apart: then all that are made are granted, as
  they are in a patient run, -/
  granted : ∀ k, w.Started k → 0 < p.interval ∨ k ≤ r.patience → k < w.granted
  /-- and the wait ends. -/
  ends : 0 < p.interval → ∃ result left, outcome = some (result, left)

section Perseveres
variable {attempt : Act (Traffic τ) (Attempt Unit)} {way : Ways τ} (h : Follows attempt way)
  {w : Course (Traffic τ) Unit} (hw : w.attempt = fun _ => attempt)
include h hw

/-- An attempt that is described is the one that is made. -/
theorem decision_of_way {k : Nat} {requests : List Request} {reason : Option String}
    {r' : Run (Traffic τ)} (hway : way (w.before k) requests reason r') :
    w.decision k = verdict reason ∧ w.after k = r' := by
  apply Course.decision_of_attempt
  rw [hw]
  exact h.decides hway

/-- An attempt has no reason to try again exactly if it decides for success, -/
theorem met_iff {k : Nat} {requests : List Request} {reason : Option String}
    (hway : way (w.before k) requests reason (w.after k)) :
    way (w.before k) requests none (w.after k) ↔ w.decision k = .done () := by
  constructor
  · intro hmet
    exact (decision_of_way h hw hmet).1
  · intro hd
    rw [(decision_of_way h hw hway).1] at hd
    cases reason with
    | none => exact hway
    | some m => cases hd

/-- and it has one exactly if it asks for another. -/
theorem unmet_iff {k : Nat} {requests : List Request} {reason : Option String}
    (hway : way (w.before k) requests reason (w.after k)) :
    (∃ m, way (w.before k) requests (some m) (w.after k)) ↔ ∃ m, w.decision k = .retry m := by
  constructor
  · rintro ⟨m, hm⟩
    exact ⟨m, (decision_of_way h hw hm).1⟩
  · rintro ⟨m, hd⟩
    rw [(decision_of_way h hw hway).1] at hd
    cases reason with
    | none => cases hd
    | some m => exact ⟨m, hway⟩

/-- **An end without success** comes of the context. -/
theorem error_of_ends {n : Nat} {e : WaitError} {left : Run (Traffic τ)}
    (he : w.Ends n (.error e) left) : (∀ k < n, ∃ m, w.decision k = .retry m) ∧
      ∃ why, left.time.err w.context = some why ∧ e = .ofCancellation why (.ofNat n) (w.last n) := by
  -- a verdict neither stops the wait nor cuts an attempt off
  have hdecides (k : Nat) : ∃ reason, w.decision k = verdict reason := by
    obtain ⟨requests, reason, r', hway⟩ := h.covers (w.before k)
    exact ⟨reason, (decision_of_way h hw hway).1⟩
  have hcut (k : Nat) (_ : w.Started k) : w.decision k ≠ .cancelled := by
    intro hd
    obtain ⟨_ | _, hv⟩ := hdecides k <;> cases hv.symm.trans hd
  rcases he.result_cases_of_uncut hcut with ⟨k, v, -, -, hv⟩ | ⟨k, m, -, hd, -⟩ |
    ⟨why, hwhy, hretry, hresult⟩
  · cases hv
  · obtain ⟨_ | _, hv⟩ := hdecides k <;> cases hv.symm.trans hd
  · cases hresult
    exact ⟨hretry, why, hwhy, rfl⟩

end Perseveres

/-- **A wait with such attempts tries again,** when it is begun in a run: it perseveres in the course of
these attempts, with some requests for each of them. -/
def TriesAgain (way : Ways τ) (p : Poll) (attempt : Act (Traffic τ) (Attempt Unit)) (c : Context)
    (r : Run (Traffic τ)) (outcome : Option (Except WaitError Unit × Run (Traffic τ))) : Prop :=
  ∃ issued, Perseveres way p c r (Course.of p c (fun _ => attempt) r) issued outcome

/-- **Attempts that follow some ways make a wait that tries again whatever the cluster answers,** if it
has a bound of its own. -/
theorem triesAgain {attempt : Act (Traffic τ) (Attempt Unit)} {way : Ways τ}
    (h : Follows attempt way) {p : Poll} {bound : Nat} (hp : p.timeout = some bound) (c : Context)
    (r : Run (Traffic τ)) :
    TriesAgain way p attempt c r (p.untilDone c (fun _ => attempt) r) := by
  -- requests are chosen for all attempts, also for those that are not made
  have hways (k : Nat) : ∃ requests reason,
      way ((Course.of p c (fun _ => attempt) r).before k) requests reason
        ((Course.of p c (fun _ => attempt) r).after k) := by
    obtain ⟨requests, reason, r', hway⟩ := h.covers ((Course.of p c (fun _ => attempt) r).before k)
    have hafter : (Course.of p c (fun _ => attempt) r).after k = r' := (decision_of_way h rfl hway).2
    exact ⟨requests, reason, by rw [hafter]; exact hway⟩
  choose issued reasons hissued using hways
  unfold TriesAgain
  generalize hw : Course.of p c (fun _ => attempt) r = w at hissued
  have hattempt : w.attempt = fun _ => attempt := by rw [← hw]; rfl
  have houtcome : p.untilDone c (fun _ => attempt) r = w.outcome id := by
    rw [Poll.untilDone_eq_run, hw, Course.outcome]
    simp
  have hopening : Asked r w.opening [] := by rw [← hw]; exact asked_opening p c _ r
  have hgoes (hi : 0 < p.interval) : ¬ w.GoesOn w.granted := by
    rw [← hw]
    exact Poll.not_goesOn_granted hi (Poll.isSome_endOf_scope p c r hp _) h.keepsTime
  refine ⟨issued, ?_⟩
  rw [houtcome]
  refine ⟨by rw [← hw]; exact p.paces_of c _ r, fun k => ?_, fun k => ?_, fun result left ho => ?_,
    fun k requests left hs hk hmet => ?_, fun result left ho => ?_, fun e left ho => ?_,
    Course.outcome_eq_none_iff,
    fun k hs hk => ?_, fun hi => Course.exists_outcome id (hgoes hi)⟩
  · exact ⟨reasons k, hissued k, (decision_of_way h hattempt (hissued k)).1⟩
  · rw [unmet_iff h hattempt (hissued k)]
    exact Iff.rfl
  · obtain ⟨n, result', he, rfl⟩ := Course.exists_ends_of_outcome ho
    exact ⟨n, he.started_iff, asked_left hopening (fun k _ => h.asked (hissued k)) he⟩
  · have hd : w.decision k = .done () := (decision_of_way h hattempt hmet).1
    refine Course.endsWith_of_decided id hk (.done hs hd) fun m hm => ?_
    rw [hd] at hm
    cases hm
  · obtain ⟨n, result', he, htold⟩ := Course.exists_ends_of_outcome ho
    obtain rfl : result' = result := htold.symm
    constructor
    · rintro rfl
      cases he with
      | @done k v hs hd => exact ⟨k, hs, (met_iff h hattempt (hissued k)).mpr hd⟩
    · rintro ⟨k, hs, hmet⟩
      have hd := (met_iff h hattempt (hissued k)).mp hmet
      exact (he.unique (.done hs hd)).1
  · obtain ⟨n, result, he, htold⟩ := Course.exists_ends_of_outcome ho
    obtain rfl : result = .error e := htold.symm
    obtain ⟨hretry, why, hwhy, rfl⟩ := error_of_ends h hattempt he
    exact ⟨n, why, he.started_iff,
      fun k hk => (unmet_iff h hattempt (hissued k)).mpr (hretry k hk), hwhy, rfl⟩
  · rcases hk with hi | hk
    · exact Course.lt_of_not_goesOn hs (hgoes hi)
    · rw [← hw]
      exact p.lt_granted_of_le_patience c _ r hk

/-! ### An attempt with one request -/

section Answered
variable {α : Type} (service : Service τ) (request : Request) (decode : Decoder α)
  (judge : Except RequestError α → Attempt Unit) (Meets : Except RequestError α → Prop)

/-- **The ways of an attempt that judges the answer to one request:** the answer is what is waited
for, or there is a reason to try again. -/
inductive Answered : Ways τ
  | met {r r' : Run (Traffic τ)} {answer : Except RequestError α}
      (hask : service.ask request decode r = (answer, r')) (h : Meets answer) :
    Answered r [request] none r'
  | unmet {r r' : Run (Traffic τ)} {answer : Except RequestError α} {m : String}
      (hask : service.ask request decode r = (answer, r')) (h : ¬ Meets answer)
      (hj : judge answer = .retry m) :
    Answered r [request] (some m) r'

/-- The judgement is for success exactly if the answer is what is waited for, and else for another
attempt. -/
structure Judges : Prop where
  met : ∀ answer, Meets answer → judge answer = .done ()
  unmet : ∀ answer, ¬ Meets answer → ∃ m, judge answer = .retry m

variable {service request decode judge Meets}

theorem Judges.done_iff (hj : Judges judge Meets) (answer : Except RequestError α) :
    judge answer = .done () ↔ Meets answer := by
  refine ⟨fun h => ?_, hj.met answer⟩
  by_contra hm
  obtain ⟨m, hr⟩ := hj.unmet answer hm
  cases h.symm.trans hr

theorem Judges.retry_iff (hj : Judges judge Meets) (answer : Except RequestError α) :
    (∃ m, judge answer = .retry m) ↔ ¬ Meets answer := by
  refine ⟨?_, hj.unmet answer⟩
  rintro ⟨m, hr⟩ hm
  cases hr.symm.trans (hj.met answer hm)

theorem follows_answered {attempt : Act (Traffic τ) (Attempt Unit)} (hj : Judges judge Meets)
    (hattempt : ∀ r, attempt r =
      (judge (service.ask request decode r).1, (service.ask request decode r).2)) :
    Follows attempt (Answered service request decode judge Meets) := by
  refine ⟨fun r => ?_, fun hway => ?_, fun hway => ?_⟩
  · rcases hask : service.ask request decode r with ⟨answer, r'⟩
    by_cases hm : Meets answer
    · exact ⟨_, _, _, .met hask hm⟩
    · obtain ⟨m, hr⟩ := hj.unmet answer hm
      exact ⟨_, _, _, .unmet hask hm hr⟩
  · cases hway with
    | met hask hm =>
      rw [hattempt, hask, hj.met _ hm]
      rfl
    | unmet hask hm hr =>
      rw [hattempt, hask, hr]
      rfl
  · cases hway with
    | met hask => exact asked_of_ask hask
    | unmet hask => exact asked_of_ask hask

end Answered

/-- **The answer to a request for an object that does not exist.** -/
def Absent {α : Type} (answer : Except RequestError α) : Prop :=
  ∃ refusal, answer = .error (.refused refusal) ∧ refusal.isNotFound = true

theorem absent_readAnswer_iff {α : Type} {decode : Decoder α} {answer : Answer} :
    Absent (Service.readAnswer decode answer) ↔ ∃ code body, answer = .response code body ∧
      400 ≤ code ∧ code < 600 ∧ (Refusal.ofBody code body).isNotFound = true := by
  constructor
  · rintro ⟨refusal, h, hn⟩
    cases readAnswer_eq_error_iff.mp h with
    | refused hcode => exact ⟨_, _, rfl, hcode.1, hcode.2, hn⟩
  · rintro ⟨code, body, rfl, hlow, hhigh, hn⟩
    exact ⟨_, readAnswer_eq_error_iff.mpr (.refused ⟨hlow, hhigh⟩), hn⟩

theorem presence_of_absent {α : Type} {answer : Except RequestError α} (h : Absent answer) :
    Api.presence answer = .ok none := by
  obtain ⟨refusal, rfl, hn⟩ := h
  simp only [Api.presence, hn, if_true]

theorem presence_of_not_absent {α : Type} {answer : Except RequestError α} (h : ¬ Absent answer) :
    (∃ v, answer = .ok v ∧ Api.presence answer = .ok (some v)) ∨
      ∃ e, answer = .error e ∧ Api.presence answer = .error e := by
  rcases answer with e | v
  · refine Or.inr ⟨e, rfl, ?_⟩
    cases e with
    | refused refusal =>
      have hn : refusal.isNotFound = false := by
        rw [Bool.eq_false_iff]
        exact fun hn => h ⟨refusal, rfl, hn⟩
      simp [Api.presence, hn]
    | _ => rfl
  · exact Or.inl ⟨v, rfl, rfl⟩

/-- A judgement that is for success exactly if the object is absent. -/
theorem judges_absent {α : Type} (judge : Except RequestError (Option α) → Attempt Unit)
    (habsent : judge (.ok none) = .done ()) (hpresent : ∀ v, ∃ m, judge (.ok (some v)) = .retry m)
    (hfailed : ∀ e, ∃ m, judge (.error e) = .retry m) :
    Judges (fun answer => judge (Api.presence answer)) Absent := by
  refine ⟨fun answer h => ?_, fun answer h => ?_⟩
  · rw [presence_of_absent h]
    exact habsent
  · rcases presence_of_not_absent h with ⟨v, -, hp⟩ | ⟨e, -, hp⟩
    · rw [hp]
      exact hpresent v
    · rw [hp]
      exact hfailed e

end ClusterWait
