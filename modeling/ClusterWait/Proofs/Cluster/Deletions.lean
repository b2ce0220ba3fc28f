import ClusterWait.Cluster.Deletion
import ClusterWait.Proofs.Cluster.Requests

/-! # Deletions: a prefix of the sets, in their order

Sets are deleted one after the other, up to the first whose deletion fails. The deletion of a set is one
request at its own path (`path_deleteRequest`); a request that cannot be sent, as for a set without a
name, fails without being sent (`deletion_of_check`, `check_of_nameless`).

* `Deleted`: the sets are deleted in turn, each with success. `deleteMachineSets_append` says that the
  sets after them are then deleted as if they were the only ones, so that the first failure is told of
  a splitting of the list (`deleteMachineSets_eq_error_iff`).
* `Deleted.sent`: one request was sent for each of them, in their order.

`deletions_stop_at_first_failure` puts this together. -/

namespace ClusterWait

variable {τ : Type}

/-! ### The deletion of a set -/

def deleteRequest (set : MachineSet) : Request :=
  .delete ⟨machineRoot, some set.namespaceAny, "machinesets"⟩ set.nameAny

def deletion (service : Service τ) (set : MachineSet) :
    Act (Traffic τ) (Except RequestError Unit) :=
  service.ask (deleteRequest set) (decodeDeletion MachineSet.decode)

section Target
variable {set : MachineSet}

def setPath (set : MachineSet) : String :=
  "/apis/machine.openshift.io/v1beta1/namespaces/" ++ set.namespaceAny ++ "/machinesets/" ++ set.nameAny

theorem target_deleteRequest (set : MachineSet) :
    (deleteRequest set).target = (setPath set).toList ++ ['?'] := by
  have hroot : machineRoot ++ "/namespaces/" = "/apis/machine.openshift.io/v1beta1/namespaces/" := by
    decide +kernel
  have hplural : "/" ++ "machinesets" ++ "/" = "/machinesets/" := by decide +kernel
  have htext : (machineRoot ++ "/namespaces/" ++ set.namespaceAny ++ "/" ++ "machinesets") ++ "/" ++
      set.nameAny = setPath set := by
    unfold setPath
    rw [hroot, ← hplural, ← String.append_assoc, ← String.append_assoc]
  rw [deleteRequest, Request.target, Collection.path, ← htext]
  exact String.toList_append

/-- A path of characters that stand for themselves ends where the query begins. -/
theorem readTarget_of_pathChars {cs : List Char} (h : ∀ c ∈ cs, Url.isPathChar c = true) :
    Url.readTarget (cs ++ ['?']) = .ok (cs, []) := by
  induction cs with
  | nil => rfl
  | cons c cs ih =>
    have hc := h c List.mem_cons_self
    have hmark : c ≠ '?' := by
      rintro rfl
      revert hc
      decide
    have hhash : c ≠ '#' := by
      rintro rfl
      revert hc
      decide
    rw [List.cons_append, Url.readTarget, if_neg hmark, if_neg hhash, if_pos hc,
      ih fun d hd => h d (List.mem_cons_of_mem c hd)]
    rfl

/-- **A set is deleted in its own namespace by its own name,** if these stand for themselves. -/
theorem path_deleteRequest (hns : ∀ c ∈ set.namespaceAny.toList, Url.isPathChar c = true)
    (hname : ∀ c ∈ set.nameAny.toList, Url.isPathChar c = true) (hne : set.nameAny ≠ "") :
    (deleteRequest set).check = none ∧ (deleteRequest set).path = setPath set := by
  have hfixed : ("/apis/machine.openshift.io/v1beta1/namespaces/".toList ++
      "/machinesets/".toList).all Url.isPathChar = true := by decide +kernel
  rw [List.all_eq_true] at hfixed
  have hchars : ∀ c ∈ (setPath set).toList, Url.isPathChar c = true := by
    intro c hc
    unfold setPath at hc
    rw [String.toList_append, String.toList_append, String.toList_append, List.mem_append,
      List.mem_append, List.mem_append] at hc
    rcases hc with ((hc | hc) | hc) | hc
    · exact hfixed c (List.mem_append_left _ hc)
    · exact hns c hc
    · exact hfixed c (List.mem_append_right _ hc)
    · exact hname c hc
  have hread : Url.readTarget (deleteRequest set).target = .ok ((setPath set).toList, []) := by
    rw [target_deleteRequest, readTarget_of_pathChars hchars]
  have hnamed : ¬ (deleteRequest set).name? = some "" := by
    rw [deleteRequest, Request.name?, Option.some.injEq]
    exact hne
  constructor
  · rw [Request.check, if_neg hnamed, hread]
  · rw [Request.path, hread]
    exact String.ofList_toList

end Target

/-! ### The outcome of a deletion -/

section Deletion
variable {service : Service τ} {set : MachineSet} {run left : Run (Traffic τ)} {e : RequestError}
  {cause : BuildError} {answer : Except RequestError Unit}

def deletionAnswer (service : Service τ) (set : MachineSet) (run : Run (Traffic τ)) : Answer :=
  (service.reply (deleteRequest set) run.world.state).1.answer

theorem deletion_of_check (h : (deleteRequest set).check = some cause) :
    deletion service set run = (.error (.unsendable cause), run) := by
  simp only [deletion, Service.ask, h]
  rfl

theorem deletion_fst (h : (deleteRequest set).check = none) : (deletion service set run).1 =
    Service.readAnswer (decodeDeletion MachineSet.decode) (deletionAnswer service set run) := by
  simp only [deletion, Service.ask, h]
  rfl

theorem check_of_nameless (h : set.nameAny = "") : (deleteRequest set).check = some .emptyName := by
  have hname : (deleteRequest set).name? = some "" := congrArg some h
  rw [Request.check, if_pos hname]

theorem deletion_eq_ok_iff : (deletion service set run).1 = .ok () ↔
    (deleteRequest set).check = none ∧ ∃ code body,
      deletionAnswer service set run = .response code body ∧ ¬ (400 ≤ code ∧ code < 600) ∧
        body.draft.bind (decodeDeletion MachineSet.decode) = some () := by
  cases hc : (deleteRequest set).check with
  | some cause =>
    rw [deletion_of_check hc]
    exact ⟨nofun, nofun⟩
  | none =>
    rw [deletion_fst hc, readAnswer_eq_ok_iff]
    exact (and_iff_right rfl).symm

theorem deletion_eq_error_iff : (deletion service set run).1 = .error e ↔
    (∃ cause, (deleteRequest set).check = some cause ∧ e = .unsendable cause) ∨
      (deleteRequest set).check = none ∧
        Failing (decodeDeletion MachineSet.decode) (deletionAnswer service set run) e := by
  cases hc : (deleteRequest set).check with
  | some cause =>
    rw [deletion_of_check hc]
    constructor
    · intro h
      cases h
      exact Or.inl ⟨cause, rfl, rfl⟩
    · rintro (⟨cause', h, rfl⟩ | ⟨h, -⟩)
      · cases h
        rfl
      · cases h
  | none =>
    rw [deletion_fst hc, readAnswer_eq_error_iff]
    constructor
    · intro h
      exact Or.inr ⟨rfl, h⟩
    · rintro (⟨cause, h, -⟩ | ⟨-, h⟩)
      · cases h
      · exact h

/-- A deletion sends its request, if this can be sent, and nothing else. -/
theorem sent_deletion (h : deletion service set run = (answer, left)) :
    left.world.sent.map (·.request) =
      [deleteRequest set].filter (·.check = none) ++ run.world.sent.map (·.request) := by
  rw [(asked_of_ask h).sent, ← List.filter_reverse, List.reverse_singleton]

end Deletion

/-! ### Deletions in turn -/

section Turn
variable (service : Service τ)

/-- **The sets are deleted in turn,** each with success. -/
inductive Deleted : List MachineSet → Run (Traffic τ) → Run (Traffic τ) → Prop
  | nil {r : Run (Traffic τ)} : Deleted [] r r
  | cons {set : MachineSet} {rest : List MachineSet} {r r' left : Run (Traffic τ)}
      (hset : deletion service set r = (.ok (), r')) (hrest : Deleted rest r' left) :
    Deleted (set :: rest) r left

variable {service} {sets before rest : List MachineSet} {set : MachineSet}
  {r mid left : Run (Traffic τ)} {e : RequestError}

theorem deleteMachineSets_cons (service : Service τ) (set : MachineSet) (rest : List MachineSet)
    (r : Run (Traffic τ)) : deleteMachineSets service (set :: rest) r =
      match deletion service set r with
      | (.ok (), r') => deleteMachineSets service rest r'
      | (.error e, r') => (.error e, r') := by
  have hdelete : (MachineSet.api set.namespaceAny).delete service set.nameAny r =
      deletion service set r := rfl
  simp only [deleteMachineSets, bind, StateT.bind, hdelete]
  rcases deletion service set r with ⟨_ | _, r'⟩ <;> rfl

/-- **Sets that follow deleted ones** are deleted as if they were the only ones. -/
theorem deleteMachineSets_append (h : Deleted service before r mid) :
    deleteMachineSets service (before ++ rest) r = deleteMachineSets service rest mid := by
  induction h with
  | nil => rfl
  | cons hset _ ih =>
    rw [List.cons_append, deleteMachineSets_cons, hset]
    exact ih

/-- **Either all sets are deleted, or the deletion of one fails** after those before it were deleted. -/
theorem deleted_or_fails (service : Service τ) (sets : List MachineSet) (r : Run (Traffic τ)) :
    (∃ left, Deleted service sets r left) ∨ ∃ before set rest mid e left,
      sets = before ++ set :: rest ∧ Deleted service before r mid ∧
        deletion service set mid = (.error e, left) := by
  induction sets generalizing r with
  | nil => exact Or.inl ⟨r, .nil⟩
  | cons set sets ih =>
    rcases hset : deletion service set r with ⟨e | ⟨⟩, r'⟩
    · exact Or.inr ⟨[], set, sets, r, e, r', rfl, .nil, hset⟩
    · rcases ih r' with ⟨left, h⟩ | ⟨before, failing, rest, mid, e, left, rfl, h, hfail⟩
      · exact Or.inl ⟨left, .cons hset h⟩
      · exact Or.inr ⟨set :: before, failing, rest, mid, e, left, rfl, .cons hset h, hfail⟩

theorem deleteMachineSets_of_deleted (h : Deleted service sets r left) :
    deleteMachineSets service sets r = (.ok (), left) := by
  have happend : deleteMachineSets service (sets ++ []) r = deleteMachineSets service [] left :=
    deleteMachineSets_append h
  rw [List.append_nil] at happend
  exact happend

theorem deleteMachineSets_of_fails (h : Deleted service before r mid)
    (hfail : deletion service set mid = (.error e, left)) :
    deleteMachineSets service (before ++ set :: rest) r = (.error e, left) := by
  rw [deleteMachineSets_append h, deleteMachineSets_cons, hfail]

theorem deleteMachineSets_eq_ok_iff :
    deleteMachineSets service sets r = (.ok (), left) ↔ Deleted service sets r left := by
  refine ⟨fun h => ?_, deleteMachineSets_of_deleted⟩
  rcases deleted_or_fails service sets r with ⟨left', hall⟩ | ⟨_, _, _, _, _, _, rfl, hall, hfail⟩
  · rw [deleteMachineSets_of_deleted hall] at h
    cases h
    exact hall
  · rw [deleteMachineSets_of_fails hall hfail] at h
    cases h

/-- **The deletion stops at a set:** those before it are deleted, and its own deletion fails. -/
structure StopsAt (service : Service τ) (sets before : List MachineSet) (set : MachineSet)
    (r : Run (Traffic τ)) (e : RequestError) (left : Run (Traffic τ)) : Prop where
  split : ∃ rest, sets = before ++ set :: rest
  fails : ∃ mid, Deleted service before r mid ∧ deletion service set mid = (.error e, left)

theorem deleteMachineSets_eq_error_iff : deleteMachineSets service sets r = (.error e, left) ↔
    ∃ before set, StopsAt service sets before set r e left := by
  constructor
  · intro h
    rcases deleted_or_fails service sets r with
      ⟨left', hall⟩ | ⟨before, set, rest, mid, e', left', rfl, hall, hfail⟩
    · rw [deleteMachineSets_of_deleted hall] at h
      cases h
    · rw [deleteMachineSets_of_fails hall hfail] at h
      cases h
      exact ⟨before, set, ⟨rest, rfl⟩, mid, hall, hfail⟩
  · rintro ⟨before, set, ⟨rest, rfl⟩, mid, hall, hfail⟩
    exact deleteMachineSets_of_fails hall hfail

/-- **One request was sent for each set that was deleted,** in their order. -/
theorem Deleted.sent (h : Deleted service sets r left) : left.world.sent.map (·.request) =
    (sets.map deleteRequest).reverse ++ r.world.sent.map (·.request) := by
  induction h with
  | nil => rfl
  | @cons set rest r r' left hset _ ih =>
    have hcheck : (deleteRequest set).check = none :=
      (deletion_eq_ok_iff.mp (congrArg Prod.fst hset)).1
    rw [ih, sent_deletion hset, List.map_cons, List.reverse_cons, List.append_assoc,
      List.filter_cons_of_pos (by simp [hcheck])]
    rfl

/-- **Where the deletion stops** the request for that set was the last, if it could be sent. -/
theorem StopsAt.sent (h : StopsAt service sets before set r e left) :
    left.world.sent.map (·.request) = [deleteRequest set].filter (·.check = none) ++
      ((before.map deleteRequest).reverse ++ r.world.sent.map (·.request)) := by
  obtain ⟨mid, hall, hfail⟩ := h.fails
  rw [sent_deletion hfail, hall.sent]

end Turn

/-! ### The main result -/

/-- **What comes of the deletion of one set.** -/
structure Deletes (service : Service τ) (set : MachineSet) (run : Run (Traffic τ)) : Prop where
  /-- It is asked for at the path of the set, if its namespace and its name stand for themselves. -/
  path : (∀ c ∈ set.namespaceAny.toList, Url.isPathChar c = true) →
    (∀ c ∈ set.nameAny.toList, Url.isPathChar c = true) → set.nameAny ≠ "" →
      (deleteRequest set).check = none ∧ (deleteRequest set).verb = "DELETE" ∧
        (deleteRequest set).path = setPath set
  /-- A set without a name cannot be asked for, -/
  nameless : set.nameAny = "" → (deleteRequest set).check = some .emptyName
  /-- and what cannot be asked for fails and leaves all as it is. -/
  unsendable : ∀ cause, (deleteRequest set).check = some cause →
    deletion service set run = (.error (.unsendable cause), run)
  /-- A deletion succeeds exactly with an answer that is no refusal and can be read, -/
  ok_iff : (deletion service set run).1 = .ok () ↔ (deleteRequest set).check = none ∧
    ∃ code body, deletionAnswer service set run = .response code body ∧
      ¬ (400 ≤ code ∧ code < 600) ∧ body.draft.bind (decodeDeletion MachineSet.decode) = some ()
  /-- and it fails with any other. -/
  error_iff : ∀ e, (deletion service set run).1 = .error e ↔
    (∃ cause, (deleteRequest set).check = some cause ∧ e = .unsendable cause) ∨
      (deleteRequest set).check = none ∧
        Failing (decodeDeletion MachineSet.decode) (deletionAnswer service set run) e

/-- **Sets are deleted in their order,** up to the first whose deletion fails. -/
structure DeletesInOrder (service : Service τ) (sets : List MachineSet) (r : Run (Traffic τ)) :
    Prop where
  each : ∀ set ∈ sets, ∀ run, Deletes service set run
  /-- There is success exactly if all sets are deleted in turn; -/
  ok_iff : ∀ left, deleteMachineSets service sets r = (.ok (), left) ↔ Deleted service sets r left
  /-- then each was asked for once. -/
  sent_of_ok : ∀ left, deleteMachineSets service sets r = (.ok (), left) →
    left.world.sent.map (·.request) =
      (sets.map deleteRequest).reverse ++ r.world.sent.map (·.request)
  /-- Else there is the error of the first deletion that fails; -/
  error_iff : ∀ e left, deleteMachineSets service sets r = (.error e, left) ↔
    ∃ before set, StopsAt service sets before set r e left
  /-- then the sets up to that one were asked for, each once, and no later one. -/
  sent_of_error : ∀ before set e left, StopsAt service sets before set r e left →
    left.world.sent.map (·.request) = [deleteRequest set].filter (·.check = none) ++
      ((before.map deleteRequest).reverse ++ r.world.sent.map (·.request))

/-- **Deletions stop at the first failure,** for every service and all sets. -/
theorem deletions_stop_at_first_failure (service : Service τ) (sets : List MachineSet)
    (r : Run (Traffic τ)) : DeletesInOrder service sets r where
  each set _ run := {
    path := fun hns hname hne => by
      obtain ⟨hcheck, hpath⟩ := path_deleteRequest hns hname hne
      exact ⟨hcheck, rfl, hpath⟩
    nameless := check_of_nameless
    unsendable := fun _ => deletion_of_check
    ok_iff := deletion_eq_ok_iff
    error_iff := fun _ => deletion_eq_error_iff }
  ok_iff _ := deleteMachineSets_eq_ok_iff
  sent_of_ok _ h := (deleteMachineSets_eq_ok_iff.mp h).sent
  error_iff _ _ := deleteMachineSets_eq_error_iff
  sent_of_error _ _ _ _ h := h.sent

end ClusterWait
