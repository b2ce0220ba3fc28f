import ClusterWait.Proofs.Reading
import ClusterWait.Proofs.Text.Search
import ClusterWait.Provider

/-! # What a provider's report tells about capacity

A report lists documents (`Lists`), and each should state a condition (`ReportCondition.Stated`). The
report says something only if all of them do (`Reports`). Of the conditions only those that say that the
making of the machine failed are decisive (`ReportCondition.Decisive`).

The answer for a list of documents is its `verdict`, and three lemmas say what one more document in front
does to it. That idle documents do not count and that nothing after a decisive one counts are inductions
with these; `capacity_told_by_report` puts together what follows. -/

namespace ClusterWait

/-! ### Conditions -/

namespace ReportCondition

/-- **The document states the condition:** by an object whose type and status are texts, and whose
message is one if it has any, or by an array of these texts. -/
inductive Stated : Json → ReportCondition → Prop
  | object {fields : List (String × Json)} {type status : String} {message : Option String}
      (htype : Json.lookup "type" fields = some (.str type))
      (hstatus : Json.lookup "status" fields = some (.str status))
      (hmessage : Json.lookup "message" fields = message.map .str) :
      Stated (.obj fields) ⟨type, status, message.getD ""⟩
  | pair (type status : String) : Stated (.arr [.str type, .str status]) ⟨type, status, ""⟩
  | triple (type status message : String) :
      Stated (.arr [.str type, .str status, .str message]) ⟨type, status, message⟩

/-- **The condition decides:** it says that the making of the machine failed. -/
def Decisive (c : ReportCondition) : Prop :=
  (c.type = "MachineCreation" ∨ c.type = "MachineCreated") ∧ c.status = "False"

instance (c : ReportCondition) : Decidable c.Decisive :=
  inferInstanceAs (Decidable ((_ ∨ _) ∧ _))

theorem creationFailed_eq (c : ReportCondition) : c.creationFailed = decide c.Decisive := by
  rw [Bool.eq_iff_iff, decide_eq_true_eq]
  simp [creationFailed, Decisive]

theorem text_eq_ok_iff {j : Json} {s : String} : text j = .ok s ↔ j = .str s := by
  cases j <;> simp [text]

theorem textOr?_eq_ok_iff {found : Option Json} {s : Option String} :
    textOr? found = .ok s ↔ found = s.map .str := by
  cases found with
  | none => cases s <;> simp [textOr?]
  | some j => cases j <;> cases s <;> simp [textOr?, text, Except.map]

theorem ofFields_eq_ok_iff {fields : List (String × Json)} {c : ReportCondition} :
    ofFields fields = .ok c ↔ Stated (.obj fields) c := by
  rw [ofFields]
  constructor
  · intro h
    obtain ⟨message, hmessage, h⟩ := bind_eq_ok.mp h
    obtain ⟨status, hstatus, h⟩ := bind_eq_ok.mp h
    obtain ⟨type, htype, h⟩ := bind_eq_ok.mp h
    rw [textOr?_eq_ok_iff] at hmessage hstatus htype
    cases type with
    | none => cases h
    | some type =>
      cases status with
      | none => cases h
      | some status =>
        cases h
        exact .object htype hstatus hmessage
  · rintro @⟨_, type, status, message, htype, hstatus, hmessage⟩
    have htype : textOr? _ = .ok (some type) := textOr?_eq_ok_iff.mpr htype
    have hstatus : textOr? _ = .ok (some status) := textOr?_eq_ok_iff.mpr hstatus
    rw [textOr?_eq_ok_iff.mpr hmessage, hstatus, htype]
    rfl

theorem ofItems_eq_ok_iff {items : List Json} {c : ReportCondition} :
    ofItems items = .ok c ↔ Stated (.arr items) c := by
  constructor
  · intro h
    match items, h with
    | [], h => cases h
    | [_], h =>
      obtain ⟨_, -, h⟩ := bind_eq_ok.mp h
      cases h
    | [_, _], h =>
      obtain ⟨type, htype, h⟩ := bind_eq_ok.mp h
      obtain ⟨status, hstatus, h⟩ := bind_eq_ok.mp h
      cases text_eq_ok_iff.mp htype
      cases text_eq_ok_iff.mp hstatus
      cases h
      exact .pair type status
    | _ :: _ :: _ :: rest, h =>
      obtain ⟨type, htype, h⟩ := bind_eq_ok.mp h
      obtain ⟨status, hstatus, h⟩ := bind_eq_ok.mp h
      obtain ⟨message, hmessage, h⟩ := bind_eq_ok.mp h
      cases text_eq_ok_iff.mp htype
      cases text_eq_ok_iff.mp hstatus
      cases text_eq_ok_iff.mp hmessage
      cases rest with
      | nil =>
        cases h
        exact .triple type status message
      | cons _ _ => cases h
  · intro h
    cases h with
    | pair type status => rfl
    | triple type status message => rfl

theorem read_eq_ok_iff {j : Json} {c : ReportCondition} : read j = .ok c ↔ Stated j c := by
  cases j with
  | obj fields => exact ofFields_eq_ok_iff
  | arr items => exact ofItems_eq_ok_iff
  | _ =>
    constructor
    · intro h
      cases h
    · intro h
      cases h

/-- The document states a condition, and that does not decide. -/
def Idle (j : Json) : Prop := ∃ c, Stated j c ∧ ¬ c.Decisive

instance (j : Json) : Decidable (Idle j) :=
  match h : read j with
  | .error _ => isFalse fun ⟨_, hc, _⟩ => by cases h.symm.trans (read_eq_ok_iff.mpr hc)
  | .ok c => decidable_of_iff (¬ c.Decisive)
    ⟨fun hd => ⟨c, read_eq_ok_iff.mp h, hd⟩,
      fun ⟨_, hc, hd⟩ => by cases h.symm.trans (read_eq_ok_iff.mpr hc); exact hd⟩

end ReportCondition

open ReportCondition (Stated Decisive Idle)

/-! ### Reports -/

/-- **The report lists the documents,** as an object or as an array. A report without conditions lists
none. -/
inductive Lists : Json → List Json → Prop
  | bare {fields : List (String × Json)} (h : Json.lookup "conditions" fields = none) :
      Lists (.obj fields) []
  | member {fields : List (String × Json)} {items : List Json}
      (h : Json.lookup "conditions" fields = some (.arr items)) : Lists (.obj fields) items
  | empty : Lists (.arr []) []
  | item (items : List Json) : Lists (.arr [.arr items]) items

/-- **The report says the conditions:** each document that it lists states one. -/
def Reports (j : Json) (cs : List ReportCondition) : Prop :=
  ∃ items, Lists j items ∧ List.Forall₂ Stated items cs

theorem Lists.unique {j : Json} {items items' : List Json} (h : Lists j items) (h' : Lists j items') :
    items = items' := by
  cases h with
  | bare h =>
    cases h' with
    | bare => rfl
    | member h' => cases h.symm.trans h'
  | member h =>
    cases h' with
    | bare h' => cases h.symm.trans h'
    | member h' =>
      cases h.symm.trans h'
      rfl
  | empty =>
    cases h'
    rfl
  | item =>
    cases h'
    rfl

theorem Lists.readReport {j : Json} {items : List Json} (h : Lists j items) :
    readReport j = items.mapM ReportCondition.read := by
  cases h with
  | bare h => rw [ClusterWait.readReport, h]; rfl
  | member h => rw [ClusterWait.readReport, h]; rfl
  | empty => rfl
  | item items =>
    show (items.mapM ReportCondition.read >>= pure) = _
    rw [bind_pure]

theorem exists_lists_of_readReport {j : Json} {cs : List ReportCondition} (h : readReport j = .ok cs) :
    ∃ items, Lists j items := by
  match j, h with
  | .obj fields, h =>
    rw [readReport] at h
    cases hfound : Json.lookup "conditions" fields with
    | none => exact ⟨[], .bare hfound⟩
    | some k =>
      rw [hfound] at h
      match k, h with
      | .arr items, _ => exact ⟨items, .member hfound⟩
  | .arr [], _ => exact ⟨[], .empty⟩
  | .arr (k :: rest), h =>
    obtain ⟨_, hk, h⟩ := bind_eq_ok.mp h
    match k, hk, rest, h with
    | .arr items, _, [], _ => exact ⟨items, .item items⟩

theorem mapM_read_eq_ok_iff {items : List Json} {cs : List ReportCondition} :
    items.mapM ReportCondition.read = .ok cs ↔ List.Forall₂ Stated items cs := by
  rw [mapM_eq_ok_iff]
  exact ⟨fun h => h.imp fun _ _ => ReportCondition.read_eq_ok_iff.mp,
    fun h => h.imp fun _ _ => ReportCondition.read_eq_ok_iff.mpr⟩

theorem readReport_eq_ok_iff {j : Json} {cs : List ReportCondition} :
    readReport j = .ok cs ↔ Reports j cs := by
  constructor
  · intro h
    obtain ⟨items, hitems⟩ := exists_lists_of_readReport h
    rw [hitems.readReport] at h
    exact ⟨items, hitems, mapM_read_eq_ok_iff.mp h⟩
  · rintro ⟨items, hitems, hcs⟩
    rw [hitems.readReport]
    exact mapM_read_eq_ok_iff.mpr hcs

/-! ### Verdicts -/

namespace Provider

/-- **The answer for a list of documents:** whether they report exhaustion, if all can be read. -/
def verdict (marker : String) (items : List Json) : Except ReportError Bool :=
  (items.mapM ReportCondition.read).map (reportsExhaustion marker)

section Verdict

variable {marker : String} {item : Json} {items : List Json} {c : ReportCondition}

theorem verdict_cons_of_unread {e : ReportError} (h : ReportCondition.read item = .error e) :
    verdict marker (item :: items) = .error e := by
  rw [verdict, List.mapM_cons, h]
  rfl

theorem verdict_cons_of_decisive (h : Stated item c) (hc : c.Decisive) :
    verdict marker (item :: items) =
      (verdict marker items).map fun _ => Text.contains c.message marker := by
  have hfailed : c.creationFailed = true := by rw [c.creationFailed_eq, decide_eq_true hc]
  rw [verdict, verdict, List.mapM_cons, ReportCondition.read_eq_ok_iff.mpr h]
  cases items.mapM ReportCondition.read with
  | error e => rfl
  | ok cs =>
    show Except.ok (reportsExhaustion marker (c :: cs)) = _
    rw [reportsExhaustion, List.find?_cons_of_pos hfailed]
    rfl

theorem verdict_cons_of_idle (h : Idle item) : verdict marker (item :: items) = verdict marker items := by
  obtain ⟨c, hstated, hc⟩ := h
  have hfailed : ¬ c.creationFailed = true := by rw [c.creationFailed_eq, decide_eq_true_eq]; exact hc
  rw [verdict, verdict, List.mapM_cons, ReportCondition.read_eq_ok_iff.mpr hstated]
  cases items.mapM ReportCondition.read with
  | error e => rfl
  | ok cs =>
    show Except.ok (reportsExhaustion marker (c :: cs)) = _
    rw [reportsExhaustion, List.find?_cons_of_neg hfailed]
    rfl

/-- Idle documents do not count. -/
theorem verdict_filter (marker : String) (items : List Json) :
    verdict marker (items.filter (¬ Idle ·)) = verdict marker items := by
  induction items with
  | nil => rfl
  | cons item items ih =>
    by_cases hidle : Idle item
    · rw [List.filter_cons_of_neg (by simpa using hidle), ih, verdict_cons_of_idle hidle]
    · rw [List.filter_cons_of_pos (by simpa using hidle)]
      cases hread : ReportCondition.read item with
      | error e => rw [verdict_cons_of_unread hread, verdict_cons_of_unread hread]
      | ok c =>
        have hstated := ReportCondition.read_eq_ok_iff.mp hread
        have hc : c.Decisive := by
          by_contra hc
          exact hidle ⟨c, hstated, hc⟩
        rw [verdict_cons_of_decisive hstated hc, verdict_cons_of_decisive hstated hc, ih]

/-- **What can be read does not count after a decisive document.** -/
theorem verdict_append_decisive {after after' : List Json} {cs cs' : List ReportCondition}
    (h : Stated item c) (hc : c.Decisive) (hafter : List.Forall₂ Stated after cs)
    (hafter' : List.Forall₂ Stated after' cs') (before : List Json) :
    verdict marker (before ++ item :: after) = verdict marker (before ++ item :: after') := by
  induction before with
  | nil =>
    have hread {items : List Json} {cs : List ReportCondition} (h : List.Forall₂ Stated items cs) :
        verdict marker items = .ok (reportsExhaustion marker cs) := by
      rw [verdict, mapM_read_eq_ok_iff.mpr h]
      rfl
    rw [List.nil_append, List.nil_append, verdict_cons_of_decisive h hc,
      verdict_cons_of_decisive h hc, hread hafter, hread hafter']
    rfl
  | cons x before ih =>
    rw [List.cons_append, List.cons_append]
    cases hread : ReportCondition.read x with
    | error e => rw [verdict_cons_of_unread hread, verdict_cons_of_unread hread]
    | ok d =>
      have hstated := ReportCondition.read_eq_ok_iff.mp hread
      by_cases hd : d.Decisive
      · rw [verdict_cons_of_decisive hstated hd, verdict_cons_of_decisive hstated hd, ih]
      · rw [verdict_cons_of_idle ⟨d, hstated, hd⟩, verdict_cons_of_idle ⟨d, hstated, hd⟩, ih]

end Verdict

/-- The first decisive condition holds the marker. -/
theorem reportsExhaustion_iff {marker : String} {cs : List ReportCondition} :
    reportsExhaustion marker cs = true ↔
      ∃ before c after, cs = before ++ c :: after ∧ (∀ d ∈ before, ¬ d.Decisive) ∧ c.Decisive ∧
        ∃ head tail, c.message = head ++ marker ++ tail := by
  rw [reportsExhaustion, Option.any_eq_true]
  simp only [List.find?_eq_some_iff_append, ReportCondition.creationFailed_eq, Text.contains_iff,
    decide_eq_true_eq, Bool.not_eq_true', decide_eq_false_iff_not]
  constructor
  · rintro ⟨c, ⟨hc, before, after, rfl, hbefore⟩, hmarker⟩
    exact ⟨before, c, after, rfl, hbefore, hc, hmarker⟩
  · rintro ⟨before, c, after, rfl, hbefore, hc, hmarker⟩
    exact ⟨c, ⟨hc, before, after, rfl, hbefore⟩, hmarker⟩

/-! ### Answers -/

variable {p : Provider} {marker : String} {j : Json} {items : List Json}

theorem hasInsufficientCapacity_of_reports {cs : List ReportCondition}
    (hp : p.capacityMarker? = some marker) (h : Reports j cs) :
    p.hasInsufficientCapacity (some j) = .ok (reportsExhaustion marker cs) := by
  rw [hasInsufficientCapacity, hp]
  simp only [readReport_eq_ok_iff.mpr h]

theorem hasInsufficientCapacity_of_lists (hp : p.capacityMarker? = some marker) (h : Lists j items) :
    p.hasInsufficientCapacity (some j) = (verdict marker items).mapError .malformedReport := by
  rw [hasInsufficientCapacity, hp, verdict, ← h.readReport]
  simp only
  cases readReport j with
  | error e => rfl
  | ok cs => rfl

theorem hasInsufficientCapacity_eq_error_iff (hp : p.capacityMarker? = some marker) :
    (∃ e, p.hasInsufficientCapacity (some j) = .error (.malformedReport e)) ↔ ¬ ∃ cs, Reports j cs := by
  constructor
  · rintro ⟨e, he⟩ ⟨cs, hcs⟩
    rw [hasInsufficientCapacity_of_reports hp hcs] at he
    cases he
  · intro h
    rw [hasInsufficientCapacity, hp]
    simp only
    cases hread : readReport j with
    | error e => exact ⟨e, rfl⟩
    | ok cs => exact absurd ⟨cs, readReport_eq_ok_iff.mp hread⟩ h

/-- **The provider tells from its reports whether it has a machine left.** Without a report it has
(`absent`). A report is an error exactly if it does not say conditions (`refused`): one document that
states none is enough, wherever it stands (`anywhere`). Else the first decisive condition is asked for
the marker (`told`). Idle documents may be added, dropped and moved (`idle`), and after a decisive one
what can be read may be anything (`settled`). -/
structure TellsCapacity (p : Provider) (marker : String) : Prop where
  absent : p.hasInsufficientCapacity none = .ok false
  refused : ∀ j, (∃ e, p.hasInsufficientCapacity (some j) = .error (.malformedReport e)) ↔
    ¬ ∃ cs, Reports j cs
  anywhere : ∀ j items item, Lists j items → item ∈ items → (¬ ∃ c, Stated item c) →
    ∃ e, p.hasInsufficientCapacity (some j) = .error (.malformedReport e)
  told : ∀ j cs, Reports j cs → ∃ exhausted, p.hasInsufficientCapacity (some j) = .ok exhausted ∧
    (exhausted = true ↔ ∃ before c after, cs = before ++ c :: after ∧
      (∀ d ∈ before, ¬ d.Decisive) ∧ c.Decisive ∧ ∃ head tail, c.message = head ++ marker ++ tail)
  idle : ∀ j k items items', Lists j items → Lists k items' →
    items.filter (¬ Idle ·) = items'.filter (¬ Idle ·) →
    p.hasInsufficientCapacity (some j) = p.hasInsufficientCapacity (some k)
  settled : ∀ j k before item c after after' cs cs', Stated item c → c.Decisive →
    Lists j (before ++ item :: after) → List.Forall₂ Stated after cs →
    Lists k (before ++ item :: after') → List.Forall₂ Stated after' cs' →
    p.hasInsufficientCapacity (some j) = p.hasInsufficientCapacity (some k)

theorem tellsCapacity (hp : p.capacityMarker? = some marker) : TellsCapacity p marker where
  absent := by rw [hasInsufficientCapacity, hp]
  refused j := hasInsufficientCapacity_eq_error_iff hp
  anywhere j items item h hitem hnone := by
    refine (hasInsufficientCapacity_eq_error_iff hp).mpr ?_
    rintro ⟨cs, items', h', hcs⟩
    obtain rfl : items = items' := h.unique h'
    obtain ⟨c, -, hc⟩ := exists_of_forall₂ hcs hitem
    exact hnone ⟨c, hc⟩
  told j cs h := ⟨_, hasInsufficientCapacity_of_reports hp h, reportsExhaustion_iff⟩
  idle j k items items' h h' heq := by
    rw [hasInsufficientCapacity_of_lists hp h, hasInsufficientCapacity_of_lists hp h',
      ← verdict_filter, heq, verdict_filter]
  settled j k before item c after after' cs cs' hitem hc h hafter h' hafter' := by
    rw [hasInsufficientCapacity_of_lists hp h, hasInsufficientCapacity_of_lists hp h',
      verdict_append_decisive hitem hc hafter hafter']

end Provider

/-- **The providers that tell of capacity tell it from their reports.** -/
theorem capacity_told_by_report : Provider.TellsCapacity .aws "InsufficientInstanceCapacity" ∧
    Provider.TellsCapacity .azure "SkuNotAvailable" :=
  ⟨Provider.tellsCapacity rfl, Provider.tellsCapacity rfl⟩

/-- Of two failures the first counts, unless what comes after them cannot be read. -/
example :
    let failed (message : String) : Json :=
      .arr [.str "MachineCreation", .str "False", .str message]
    let told items := Provider.hasInsufficientCapacity .azure (some (.arr [.arr items]))
    told [failed "no quota", failed "SkuNotAvailable"] = .ok false ∧
      told [failed "SkuNotAvailable in zone 2", failed "no quota"] = .ok true ∧
      told [failed "SkuNotAvailable", .arr [.str "Ready"]] =
        .error (.malformedReport (.tooShort 1)) := by
  decide +kernel

end ClusterWait
