import ClusterWait.Proofs.Text.Numerals
import ClusterWait.Proofs.Text.Search
import ClusterWait.Resource.LabelSelector
import Mathlib.Data.List.DropRight

/-! # Conditions on labels, read from a list

A service that is asked for a list reads the selector from its words: a list of conditions between
commas, where a comma inside parentheses does not count. `Condition.read?` reads such a list; blanks around the parts are
passed over.

* `pieces_intercalate`: pieces whose own commas stand in parentheses are found again after they were
  put together with commas.
* `readPiece_present`, `readPiece_absent`, `readPiece_equal` and `readPiece_listed`: the forms of a
  condition, each read from its key and values.
* `read?_of_states`: a list of pieces that state conditions is read as these, in their order. -/

namespace ClusterWait

/-- **A condition on labels,** as a service that lists objects reads it. -/
inductive Condition where
  | equal (key value : String)
  | among (key : String) (values : List String)
  | notAmong (key : String) (values : List String)
  | present (key : String)
  | absent (key : String)
deriving Repr, DecidableEq

namespace Condition

/-- **An object with the given labels meets the condition.** -/
def Holds (labels : Dictionary String) : Condition → Prop
  | .equal key value => labels.get? key = some value
  | .among key values => ∃ v ∈ values, labels.get? key = some v
  | .notAmong key values => ∀ v ∈ values, labels.get? key ≠ some v
  | .present key => ∃ v, labels.get? key = some v
  | .absent key => labels.get? key = none

/-- The label that the condition asks for with its value, if it is of that form. -/
def label? : Condition → Option (String × String)
  | .equal key value => some (key, value)
  | _ => none

/-- The requirement that the condition states, if it is of that form. -/
def requirement? : Condition → Option LabelRequirement
  | .equal .. => none
  | .among key values => some ⟨key, "In", some values⟩
  | .notAmong key values => some ⟨key, "NotIn", some values⟩
  | .present key => some ⟨key, "Exists", some []⟩
  | .absent key => some ⟨key, "DoesNotExist", some []⟩

/-! ### The grammar -/

/-- A character that is no part of a key or a value. -/
def isMark (c : Char) : Bool := c.isWhitespace || [',', '(', ')', '=', '!'].contains c

/-- The text may be a value. -/
def isName (s : String) : Bool := s.toList.all fun c => !isMark c

/-- The characters without the blanks around them. -/
def trimmed (cs : List Char) : List Char :=
  (cs.dropWhile Char.isWhitespace).rdropWhile Char.isWhitespace

/-- **The pieces between the commas** that stand in no parentheses; at the beginning so many are
open. -/
def pieces : (depth : Nat) → List Char → List (List Char)
  | _, [] => [[]]
  | depth, c :: rest =>
    if c = ',' ∧ depth = 0 then [] :: pieces depth rest
    else
      (pieces (if c = '(' then depth + 1 else if c = ')' then depth - 1 else depth) rest).modifyHead
        (c :: ·)

/-- The value that some characters stand for. -/
def value? (cs : List Char) : Option String :=
  (some (String.ofList (trimmed cs))).filter isName

/-- The key that some characters stand for, which is not empty. -/
def key? (cs : List Char) : Option String := (value? cs).filter (· ≠ "")

/-- The words between blanks. -/
def words (cs : List Char) : List (List Char) :=
  (cs.splitOnP Char.isWhitespace).filter (!·.isEmpty)

/-- The condition of a key and a list of values, by the word between them. -/
def ofWord? (key : String) (values : List String) : List Char → Option Condition
  | ['i', 'n'] => some (.among key values)
  | ['n', 'o', 't', 'i', 'n'] => some (.notAmong key values)
  | _ => none

/-- A condition whose values stand in parentheses, by what stands before the opening one and after
it. -/
def readListed (before after : List Char) : Option Condition :=
  if after.getLast? = some ')' then
    ((after.dropLast.splitOn ',').mapM value?).bind fun values =>
      match words before with
      | [key, word] => (key? key).bind (ofWord? · values word)
      | _ => none
  else none

/-- A condition that does not begin with a mark of absence. -/
def readBare (cs : List Char) : Option Condition :=
  match Text.splitOnce '(' cs with
  | some (before, after) => readListed before after
  | none =>
    match Text.splitOnce '=' cs with
    | some (key, value) => (key? key).bind fun key => (value? value).map (.equal key ·)
    | none => (key? cs).map .present

/-- **A condition,** in one of five forms. -/
def readPiece (piece : List Char) : Option Condition :=
  match trimmed piece with
  | '!' :: rest => (key? rest).map .absent
  | cs => readBare cs

/-- **A list of conditions.** An empty text states none. -/
def read? (text : String) : Option (List Condition) :=
  if trimmed text.toList = [] then some [] else (pieces 0 text.toList).mapM readPiece

example : read? "a=b, c in (d,,e) ,f notin (),!g,h" =
    some [.equal "a" "b", .among "c" ["d", "", "e"], .notAmong "f" [""], .absent "g", .present "h"] := by
  decide

/-! ### What is read of a name -/

section Names
variable {s : String} {c : Char}

theorem isMark_of_mem (h : isName s = true) (hc : c ∈ s.toList) : isMark c = false := by
  simpa using List.all_eq_true.mp h c hc

theorem ne_of_mem (h : isName s = true) (hc : c ∈ s.toList) {mark : Char} (hm : isMark mark = true) :
    c ≠ mark := by
  rintro rfl
  rw [isMark_of_mem h hc] at hm
  cases hm

theorem notMem_toList (h : isName s = true) (hc : isMark c = true) : c ∉ s.toList :=
  fun hmem => ne_of_mem h hmem hc rfl

theorem isWhitespace_of_mem (h : isName s = true) (hc : c ∈ s.toList) : c.isWhitespace = false :=
  (Bool.or_eq_false_iff.mp (isMark_of_mem h hc)).1

theorem trimmed_eq_self {cs : List Char} (hhead : ∀ c, cs.head? = some c → c.isWhitespace = false)
    (hlast : ∀ c, cs.getLast? = some c → c.isWhitespace = false) : trimmed cs = cs := by
  have hdrop : cs.dropWhile Char.isWhitespace = cs := by
    cases cs with
    | nil => rfl
    | cons c rest => rw [List.dropWhile_cons_of_neg (by simp [hhead c rfl])]
  rw [trimmed, hdrop, List.rdropWhile_eq_self_iff]
  intro hne
  simp [hlast _ (List.getLast?_eq_some_getLast hne)]

theorem trimmed_of_forall {cs : List Char} (h : ∀ c ∈ cs, c.isWhitespace = false) :
    trimmed cs = cs :=
  trimmed_eq_self (fun c hc => h c (List.mem_of_mem_head? hc)) fun c hc =>
    h c (List.mem_of_getLast? hc)

theorem value?_toList (h : isName s = true) : value? s.toList = some s := by
  rw [value?, trimmed_of_forall fun c hc => isWhitespace_of_mem h hc, String.ofList_toList,
    Option.filter_some_pos h]

theorem key?_toList (h : isName s = true) (hne : s ≠ "") : key? s.toList = some s := by
  rw [key?, value?_toList h, Option.filter_some_pos (by simpa using hne)]

theorem mapM_value?_toList {values : List String} (h : ∀ v ∈ values, isName v = true) :
    (values.map String.toList).mapM value? = some values := by
  rw [mapM_eq_some_iff, List.forall₂_map_left_iff, List.forall₂_same]
  exact fun v hv => value?_toList (h v hv)

end Names

/-! ### Splitting -/

/-- **No comma of these characters ends a piece.** They open and close parentheses as given. -/
def Passes (depth depth' : Nat) (cs : List Char) : Prop :=
  ∀ rest, pieces depth (cs ++ rest) = (pieces depth' rest).modifyHead (cs ++ ·)

theorem passes_nil (depth : Nat) : Passes depth depth [] := fun rest => by
  cases h : pieces depth rest <;> simp [h]

theorem Passes.append {d d' d'' : Nat} {cs cs' : List Char} (h : Passes d d' cs)
    (h' : Passes d' d'' cs') : Passes d d'' (cs ++ cs') := fun rest => by
  rw [List.append_assoc, h, h', List.modifyHead_modifyHead]
  congr 1
  funext x
  exact (List.append_assoc cs cs' x).symm

theorem passes_open (depth : Nat) : Passes depth (depth + 1) ['('] := fun rest => by
  simp [pieces]

theorem passes_close (depth : Nat) : Passes (depth + 1) depth [')'] := fun rest => by
  simp [pieces]

theorem passes_of_forall {depth : Nat} {cs : List Char}
    (h : ∀ c ∈ cs, c ≠ '(' ∧ c ≠ ')' ∧ (c = ',' → depth ≠ 0)) : Passes depth depth cs := by
  induction cs with
  | nil => exact passes_nil depth
  | cons c rest ih =>
    obtain ⟨hopen, hclose, hcomma⟩ := h c List.mem_cons_self
    have hfirst : Passes depth depth [c] := fun rest => by
      rw [List.singleton_append, pieces, if_neg (fun hc => hcomma hc.1 hc.2), if_neg hopen,
        if_neg hclose]
      rfl
    exact hfirst.append (ih fun c' hc' => h c' (List.mem_cons_of_mem _ hc'))

/-- **The pieces between commas are found again.** -/
theorem pieces_intercalate {ps : List (List Char)} (h : ∀ p ∈ ps, Passes 0 0 p) (hne : ps ≠ []) :
    pieces 0 ([','].intercalate ps) = ps := by
  induction ps with
  | nil => exact absurd rfl hne
  | cons p ps ih =>
    have hp := h p List.mem_cons_self
    cases ps with
    | nil =>
      rw [List.intercalate_singleton, ← List.append_nil p, hp]
      simp [pieces]
    | cons q qs =>
      -- the first piece passes, and the comma after it stands in no parentheses
      have hqs := ih (fun p' hp' => h p' (List.mem_cons_of_mem _ hp')) (List.cons_ne_nil _ _)
      rw [List.intercalate_cons_cons, List.append_assoc, List.singleton_append, hp, pieces,
        if_pos ⟨rfl, rfl⟩, hqs]
      simp

theorem passes_name {s : String} (h : isName s = true) (depth : Nat) : Passes depth depth s.toList :=
  passes_of_forall fun _ hc => ⟨ne_of_mem h hc rfl, ne_of_mem h hc rfl,
    fun hcomma => absurd hcomma (ne_of_mem h hc rfl)⟩

/-- Commas in parentheses end no piece. -/
theorem passes_intercalate {depth : Nat} {ps : List (List Char)}
    (h : ∀ p ∈ ps, Passes (depth + 1) (depth + 1) p) :
    Passes (depth + 1) (depth + 1) ([','].intercalate ps) := by
  induction ps with
  | nil => exact passes_nil _
  | cons p ps ih =>
    have hp := h p List.mem_cons_self
    cases ps with
    | nil => rwa [List.intercalate_singleton]
    | cons q qs =>
      have hcomma : Passes (depth + 1) (depth + 1) [','] := passes_of_forall (by simp)
      rw [List.intercalate_cons_cons]
      exact (hp.append hcomma).append (ih fun p' hp' => h p' (List.mem_cons_of_mem _ hp'))

/-! ### The five forms -/

section Forms
variable {key : String} (hkey : isName key = true) (hne : key ≠ "")
include hkey hne

/-- A key does not begin with a mark. -/
theorem isMark_head (rest : List Char) {c : Char} (h : (key.toList ++ rest).head? = some c) :
    isMark c = false := by
  have hnil : key.toList ≠ [] := fun h => hne (String.toList_eq_nil_iff.mp h)
  rw [List.head?_append_of_ne_nil _ hnil] at h
  exact isMark_of_mem hkey (List.mem_of_mem_head? h)

theorem readPiece_bare {rest : List Char}
    (hlast : ∀ c, (key.toList ++ rest).getLast? = some c → c.isWhitespace = false) :
    readPiece (key.toList ++ rest) = readBare (key.toList ++ rest) := by
  have htrim : trimmed (key.toList ++ rest) = key.toList ++ rest :=
    trimmed_eq_self (fun c hc => (Bool.or_eq_false_iff.mp (isMark_head hkey hne rest hc)).1) hlast
  rw [readPiece, htrim]
  split
  · next h => exact absurd (isMark_head hkey hne rest (by rw [h]; rfl)) (by decide)
  · rfl

theorem readPiece_present : readPiece key.toList = some (.present key) := by
  have hbare : readPiece (key.toList ++ []) = readBare (key.toList ++ []) :=
    readPiece_bare hkey hne fun c hc => by
      rw [List.append_nil] at hc
      exact isWhitespace_of_mem hkey (List.mem_of_getLast? hc)
  rw [List.append_nil] at hbare
  rw [hbare, readBare, Text.splitOnce_of_notMem (notMem_toList hkey (by decide)),
    Text.splitOnce_of_notMem (notMem_toList hkey (by decide)), key?_toList hkey hne]
  rfl

theorem readPiece_absent : readPiece ('!' :: key.toList) = some (.absent key) := by
  have htrim : trimmed ('!' :: key.toList) = '!' :: key.toList := by
    apply trimmed_of_forall
    intro c hc
    rcases List.mem_cons.mp hc with rfl | hc
    · decide
    · exact isWhitespace_of_mem hkey hc
  rw [readPiece, htrim]
  simp only [key?_toList hkey hne, Option.map_some]

theorem readPiece_equal {value : String} (hvalue : isName value = true) :
    readPiece (key.toList ++ '=' :: value.toList) = some (.equal key value) := by
  have hopen : '(' ∉ key.toList ++ '=' :: value.toList := by
    rw [List.mem_append, List.mem_cons]
    rintro (h | h | h)
    · exact notMem_toList hkey (by decide) h
    · exact absurd h (by decide)
    · exact notMem_toList hvalue (by decide) h
  rw [readPiece_bare hkey hne fun c hc => ?_, readBare, Text.splitOnce_of_notMem hopen,
    Text.splitOnce_append_cons (notMem_toList hkey (by decide))]
  · simp only [key?_toList hkey hne, value?_toList hvalue, Option.bind_some, Option.map_some]
  · have hmem := List.mem_of_getLast? hc
    rcases List.mem_append.mp hmem with h | h
    · exact isWhitespace_of_mem hkey h
    · rcases List.mem_cons.mp h with rfl | h
      · decide
      · exact isWhitespace_of_mem hvalue h

theorem words_key_word {word : String} (hw : isName word = true) (hnil : word ≠ "") :
    words (key.toList ++ ' ' :: (word.toList ++ [' '])) = [key.toList, word.toList] := by
  have hkeyList : key.toList ≠ [] := fun h => hne (String.toList_eq_nil_iff.mp h)
  have hwordList : word.toList ≠ [] := fun h => hnil (String.toList_eq_nil_iff.mp h)
  rw [words, List.splitOnP_append_cons _ _ (by decide), List.splitOnP_append_cons _ _ (by decide),
    List.splitOnP_eq_singleton fun c hc => isWhitespace_of_mem hkey hc,
    List.splitOnP_eq_singleton fun c hc => isWhitespace_of_mem hw hc]
  simp [hkeyList, hwordList]

/-- **A key, a word and a list of values in parentheses.** -/
theorem readPiece_listed {word : String} (hw : isName word = true) (hnil : word ≠ "")
    {values : List String} (hvalues : ∀ v ∈ values, isName v = true) (hsome : values ≠ []) :
    readPiece (key.toList ++ ' ' :: (word.toList ++ ' ' :: '(' ::
        ([','].intercalate (values.map String.toList) ++ [')']))) =
      ofWord? key values word.toList := by
  have hbefore : '(' ∉ key.toList ++ ' ' :: (word.toList ++ [' ']) := by
    simp only [List.mem_append, List.mem_cons, List.not_mem_nil, or_false]
    rintro (h | h | h | h)
    · exact notMem_toList hkey (by decide) h
    · exact absurd h (by decide)
    · exact notMem_toList hw (by decide) h
    · exact absurd h (by decide)
  have hsplit : ([','].intercalate (values.map String.toList)).splitOn ',' =
      values.map String.toList :=
    List.splitOn_intercalate ',' (fun l hl => by
      obtain ⟨v, hv, rfl⟩ := List.mem_map.mp hl
      exact notMem_toList (hvalues v hv) (by decide)) (by simpa using hsome)
  have hform : ∀ cs, key.toList ++ ' ' :: (word.toList ++ ' ' :: '(' :: cs) =
      (key.toList ++ ' ' :: (word.toList ++ [' '])) ++ '(' :: cs := fun cs => by simp
  rw [readPiece_bare hkey hne fun c hc => ?_, readBare, hform, Text.splitOnce_append_cons hbefore]
  · simp only
    rw [readListed, if_pos (by simp), List.dropLast_concat, hsplit, mapM_value?_toList hvalues,
      Option.bind_some, words_key_word hkey hne hw hnil]
    simp only [key?_toList hkey hne, Option.bind_some]
  · rw [hform, List.getLast?_append_cons, List.getLast?_cons, List.getLast?_concat] at hc
    rw [← Option.some.inj hc]
    decide

end Forms

/-! ### The list -/

/-- **The piece states the condition, and stands in a list as one piece.** -/
structure States (piece : List Char) (c : Condition) : Prop where
  read : readPiece piece = some c
  passes : Passes 0 0 piece
  solid : ∃ a ∈ piece, a.isWhitespace = false

section States
variable {key : String} (hkey : isName key = true) (hne : key ≠ "")
include hkey hne

theorem exists_mem_key : ∃ a ∈ key.toList, a.isWhitespace = false := by
  obtain ⟨a, ha⟩ := List.exists_mem_of_ne_nil _ fun h => hne (String.toList_eq_nil_iff.mp h)
  exact ⟨a, ha, isWhitespace_of_mem hkey ha⟩

theorem states_present : States key.toList (.present key) :=
  ⟨readPiece_present hkey hne, passes_name hkey 0, exists_mem_key hkey hne⟩

theorem states_absent : States ('!' :: key.toList) (.absent key) := by
  have hmark : Passes 0 0 ['!'] := passes_of_forall (by simp)
  exact ⟨readPiece_absent hkey hne, hmark.append (passes_name hkey 0),
    '!', List.mem_cons_self, by decide⟩

theorem states_equal {value : String} (hvalue : isName value = true) :
    States (key.toList ++ '=' :: value.toList) (.equal key value) := by
  have hmark : Passes 0 0 ['='] := passes_of_forall (by simp)
  exact ⟨readPiece_equal hkey hne hvalue,
    (passes_name hkey 0).append (hmark.append (passes_name hvalue 0)),
    '=', List.mem_append_right _ List.mem_cons_self, by decide⟩

theorem states_listed {word : String} (hw : isName word = true) (hnil : word ≠ "")
    {values : List String} (hvalues : ∀ v ∈ values, isName v = true) (hsome : values ≠ [])
    {c : Condition} (hc : ofWord? key values word.toList = some c) :
    States (key.toList ++ ' ' :: (word.toList ++ ' ' :: '(' ::
      ([','].intercalate (values.map String.toList) ++ [')']))) c := by
  have hblank : Passes 0 0 [' '] := passes_of_forall (by simp)
  have hlist : Passes 1 1 ([','].intercalate (values.map String.toList)) :=
    passes_intercalate fun p hp => by
      obtain ⟨v, hv, rfl⟩ := List.mem_map.mp hp
      exact passes_name (hvalues v hv) 1
  obtain ⟨a, ha, hsolid⟩ := exists_mem_key hkey hne
  exact ⟨(readPiece_listed hkey hne hw hnil hvalues hsome).trans hc,
    (passes_name hkey 0).append (hblank.append ((passes_name hw 0).append (hblank.append
      ((passes_open 0).append (hlist.append (passes_close 0)))))),
    a, List.mem_append_left _ ha, hsolid⟩

end States

/-- Only blanks are trimmed away altogether. -/
theorem isWhitespace_of_trimmed_eq_nil {cs : List Char} (h : trimmed cs = []) {c : Char}
    (hc : c ∈ cs) : c.isWhitespace = true := by
  rw [← List.takeWhile_append_dropWhile (p := Char.isWhitespace) (l := cs), List.mem_append] at hc
  rcases hc with hc | hc
  · exact List.mem_takeWhile_imp hc
  · exact List.rdropWhile_eq_nil_iff.mp h c hc

/-- **A list of pieces that state conditions is read as these,** in their order. -/
theorem read?_of_states {text : String} {ps : List (List Char)} {cs : List Condition}
    (htext : text.toList = [','].intercalate ps) (h : List.Forall₂ States ps cs) :
    read? text = some cs := by
  have hread : ps.mapM readPiece = some cs :=
    mapM_eq_some_iff.mpr (h.imp fun _ _ hs => hs.read)
  have hpass : ∀ p ∈ ps, Passes 0 0 p := fun p hp => by
    obtain ⟨i, hi, rfl⟩ := List.getElem_of_mem hp
    exact (h.get hi (h.length_eq ▸ hi)).passes
  cases h with
  | nil =>
    rw [read?, htext, if_pos (by rfl)]
  | @cons p c ps' cs' hp hps =>
    -- the first piece is not blank, so the text is not
    have hne : trimmed text.toList ≠ [] := fun hnil => by
      obtain ⟨a, ha, hsolid⟩ := hp.solid
      have hmem : a ∈ text.toList := by
        rw [htext]
        cases ps' with
        | nil => rwa [List.intercalate_singleton]
        | cons q qs =>
          rw [List.intercalate_cons_cons]
          exact List.mem_append_left _ (List.mem_append_left _ ha)
      rw [isWhitespace_of_trimmed_eq_nil hnil hmem] at hsolid
      cases hsolid
    rw [read?, if_neg hne, htext, pieces_intercalate hpass (List.cons_ne_nil _ _), hread]

end Condition

end ClusterWait
