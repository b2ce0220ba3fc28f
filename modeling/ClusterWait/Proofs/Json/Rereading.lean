import ClusterWait.Proofs.Json.Numbers

/-! # Documents that are read again

`parse?_render` says what is read of the text of any document. A text is read back (`readText_flatMap`): the
written form of each of its characters is read as a mark that stands for the character. Of a number
`Number.reread` is read, and what nests too deep is unfit; `reread` puts this together over the document.

The parser has fuel, and a text never needs more of it than it has characters: `Rereads` is the law for some
fuel, and `Rereads.step` has one case for each kind of document. It is said with what follows as a variable,
of which a number only has to know that it does not go on (`NumberEnds`). -/

namespace ClusterWait.Json

open Text.Decimal (value?)

/-! ### Texts -/

/-- A character is written with a letter, as a unit or as itself. -/
theorem writeChar_cases (c : Char) :
    (∃ e, e ≠ 'u' ∧ simpleEscape? e = some c ∧ writeChar c = ['\\', e]) ∨
      (c.toNat < 0x20 ∧ writeChar c = ['\\', 'u'] ++ unit4 c.toNat) ∨
      (c ≠ '"' ∧ c ≠ '\\' ∧ ¬ c.toNat < 0x20 ∧ writeChar c = [c]) := by
  have hbyNumber {n : Nat} (h : c.toNat = n) : Char.ofNat n = c := by rw [← h, c.ofNat_toNat]
  unfold writeChar
  iterate 5
    split
    · rename_i h
      exact .inl ⟨_, by decide, by rw [h]; rfl, rfl⟩
  iterate 2
    split
    · rename_i h
      exact .inl ⟨_, by decide, by rw [← hbyNumber h]; rfl, rfl⟩
  split
  · rename_i h
    exact .inr (.inl ⟨h, rfl⟩)
  · rename_i hquote hback _ _ _ _ _ hplain
    exact .inr (.inr ⟨hquote, hback, hplain, rfl⟩)

theorem hex4?_unit4 : ∀ n < 0x20, ∃ a b c d, unit4 n = [a, b, c, d] ∧ hex4? a b c d = some n := by
  intro n hn
  refine ⟨_, _, _, _, rfl, ?_⟩
  revert n
  decide

theorem joinMarks_unit {n : Nat} (h : n < 0x20) (after : List Char) (ms : List Mark) :
    joinMarks after (.unit n :: ms) = joinMarks (Char.ofNat n :: after) ms := by
  have hlow : isLowUnit n = false := by
    rw [isLowUnit, Bool.and_eq_false_iff, decide_eq_false_iff_not]
    exact .inl (by omega)
  have hhigh : isHighUnit n = false := by
    rw [isHighUnit, Bool.and_eq_false_iff, decide_eq_false_iff_not]
    exact .inl (by omega)
  rw [joinMarks.eq_def]
  simp only [hlow, hhigh, Bool.false_eq_true, if_false]

/-- **The written form of a character is read as a mark** that stands for the character. -/
theorem exists_mark (c : Char) : ∃ m : Mark,
    (∀ read rest, readText read (writeChar c ++ rest) = readText (m :: read) rest) ∧
      ∀ after ms, joinMarks after (m :: ms) = joinMarks (c :: after) ms := by
  rcases writeChar_cases c with ⟨e, hu, he, hc⟩ | ⟨hn, hc⟩ | ⟨hquote, hback, hplain, hc⟩
  · refine ⟨.char c, fun read rest => ?_, fun _ _ => rfl⟩
    rw [hc]
    simp [readText, hu, he]
  · obtain ⟨x, y, z, w, hunit, hhex⟩ := hex4?_unit4 c.toNat hn
    refine ⟨.unit c.toNat, fun read rest => ?_, fun after ms => ?_⟩
    · rw [hc, hunit]
      simp [readText, hhex]
    · rw [joinMarks_unit hn, c.ofNat_toNat]
  · refine ⟨.char c, fun read rest => ?_, fun _ _ => rfl⟩
    rw [hc]
    simp [readText, hback, hplain]

/-- The marks of a text that is written. -/
theorem exists_marks (cs : List Char) : ∃ ms : List Mark,
    (∀ read rest, readText read (cs.flatMap writeChar ++ rest) = readText (ms ++ read) rest) ∧
      ∀ after read, joinMarks after (ms ++ read) = joinMarks (cs ++ after) read := by
  induction cs with
  | nil => exact ⟨[], fun _ _ => rfl, fun _ _ => rfl⟩
  | cons c cs ih =>
    obtain ⟨m, hread, hjoin⟩ := exists_mark c
    obtain ⟨ms, hreads, hjoins⟩ := ih
    refine ⟨ms ++ [m], fun read rest => ?_, fun after read => ?_⟩
    · rw [List.flatMap_cons, List.append_assoc, hread, hreads, List.append_assoc, List.singleton_append]
    · rw [List.append_assoc, hjoins, List.singleton_append, hjoin, List.cons_append]

/-- **A text is read back,** whatever follows. -/
theorem readText_flatMap (s : String) (rest : List Char) :
    readText [] (s.toList.flatMap writeChar ++ '"' :: rest) = .ok (some s, rest) := by
  obtain ⟨ms, hread, hjoin⟩ := exists_marks s.toList
  have hjoin : joinMarks [] ms = some s.toList := by
    have h := hjoin [] []
    rwa [List.append_nil, List.append_nil, joinMarks] at h
  rw [hread, List.append_nil, readText, hjoin, Option.map_some, String.ofList_toList]

/-! ### Documents -/

mutual

/-- **What is read of the text of a document,** where arrays and objects may nest so many levels. -/
def reread : Nat → Json → Json
  | _, .num n => n.reread
  | depth, .arr items => if depth = 0 then .unfit else .arr (rereadItems (depth - 1) items)
  | depth, .obj fields => if depth = 0 then .unfit else .obj (rereadFields (depth - 1) fields)
  | _, .unfit => .null
  | _, v => v

def rereadItems : Nat → List Json → List Json
  | _, [] => []
  | depth, v :: rest => reread depth v :: rereadItems depth rest

def rereadFields : Nat → List (String × Json) → List (String × Json)
  | _, [] => []
  | depth, (k, v) :: rest => (k, reread depth v) :: rereadFields depth rest

end

/-- A character that a document begins with. -/
def Begins (c : Char) : Prop := c ∈ ['"', '[', '\x7b', 'n', 't', 'f', '-'] ∨ (value? c).isSome

instance (c : Char) : Decidable (Begins c) := by
  unfold Begins
  infer_instance

theorem Begins.skipSpace_eq {c : Char} (h : Begins c) (rest : List Char) :
    skipSpace (c :: rest) = c :: rest := by
  rw [skipSpace, if_neg]
  rintro (rfl | rfl | rfl | rfl) <;> exact absurd h (by decide)

theorem Begins.ne {c c' : Char} (h : Begins c) (h' : ¬ Begins c') : c ≠ c' := by
  rintro rfl
  exact h' h

/-- A number begins with its sign or with a digit. -/
theorem Number.exists_cons_render (n : Number) :
    ∃ c cs, n.render.toList = c :: cs ∧ (c = '-' ∨ (value? c).isSome) := by
  obtain ⟨negative, cs, hcs, hn⟩ := exists_numeral n
  cases negative with
  | true => exact ⟨'-', cs, hn, .inl rfl⟩
  | false =>
    obtain ⟨c, more, rfl, hc⟩ := hcs.exists_cons
    exact ⟨c, more, hn, .inr hc⟩

theorem exists_cons_render (v : Json) : ∃ c cs, v.render.toList = c :: cs ∧ Begins c := by
  cases v with
  | null | unfit => exact ⟨'n', _, by simp [render]; rfl, by decide⟩
  | bool b => cases b <;> exact ⟨_, _, by simp [render]; exact ⟨rfl, rfl⟩, by decide⟩
  | num n =>
    obtain ⟨c, cs, hn, hc⟩ := n.exists_cons_render
    refine ⟨c, cs, by rw [render, hn], ?_⟩
    rcases hc with rfl | hc
    · decide
    · exact .inr hc
  | str s => exact ⟨'"', _, by simp [render, writeText]; rfl, by decide⟩
  | arr items => exact ⟨'[', _, by simp [render]; rfl, by decide⟩
  | obj fields => exact ⟨'\x7b', _, by simp [render]; rfl, by decide⟩

/-- **With so much fuel** the text of a document is read whole, whatever follows, and so are items and
members up to the end of their container. -/
structure Rereads (fuel : Nat) : Prop where
  value : ∀ (v : Json) (depth : Nat) {rest : List Char}, v.render.toList.length ≤ fuel →
    NumberEnds rest → readValue fuel depth (v.render.toList ++ rest) = .ok (reread depth v, rest)
  items : ∀ (v : Json) (vs : List Json) (depth : Nat) (read : List Json) (rest : List Char),
    (renderItems (v :: vs)).toList.length < fuel →
      readItems fuel depth read ((renderItems (v :: vs)).toList ++ ']' :: rest) =
        .ok (.arr (read.reverse ++ rereadItems depth (v :: vs)), rest)
  fields : ∀ (f : String × Json) (fs : List (String × Json)) (depth : Nat)
    (read : List (String × Json)) (rest : List Char),
    (renderFields (f :: fs)).toList.length < fuel →
      readFields fuel depth true read ((renderFields (f :: fs)).toList ++ '\x7d' :: rest) =
        .ok (.obj (read.reverse ++ rereadFields depth (f :: fs)), rest)

theorem rereads_zero : Rereads 0 where
  value v depth rest hfuel := by
    obtain ⟨c, cs, hv, -⟩ := exists_cons_render v
    rw [hv] at hfuel
    cases hfuel
  items _ _ _ _ _ hfuel := by cases hfuel
  fields _ _ _ _ _ hfuel := by cases hfuel

theorem numberEnds_cons {c : Char} (h : c = ',' ∨ c = ']' ∨ c = '\x7d') (rest : List Char) :
    NumberEnds (c :: rest) := by
  intro c' hc'
  cases hc'
  rcases h with rfl | rfl | rfl <;> decide

theorem readValue_number (fuel depth : Nat) (n : Number) {rest : List Char} (hrest : NumberEnds rest) :
    readValue (fuel + 1) depth (n.render.toList ++ rest) = .ok (n.reread, rest) := by
  have hread := readNumber_render n hrest
  obtain ⟨c, cs, hn, hc⟩ := n.exists_cons_render
  have hbegins : Begins c := by
    rcases hc with rfl | hc
    · decide
    · exact .inr hc
  rw [hn, List.cons_append] at hread ⊢
  rw [readValue, hbegins.skipSpace_eq]
  split
  case h_1 heq => cases heq
  case h_8 => exact hread
  all_goals
    rename_i heq
    obtain ⟨rfl, -⟩ := List.cons.inj heq
    exact absurd hc (by decide)

theorem toList_render_arr (items : List Json) :
    (render (.arr items)).toList = '[' :: ((renderItems items).toList ++ [']']) := by
  simp [render]

theorem toList_render_obj (fields : List (String × Json)) :
    (render (.obj fields)).toList = '\x7b' :: ((renderFields fields).toList ++ ['\x7d']) := by
  simp [render]

theorem toList_renderItems_cons (v v' : Json) (vs : List Json) :
    (renderItems (v :: v' :: vs)).toList =
      v.render.toList ++ ',' :: (renderItems (v' :: vs)).toList := by
  simp [renderItems]

theorem toList_renderFields_singleton (k : String) (v : Json) :
    (renderFields [(k, v)]).toList =
      '"' :: (k.toList.flatMap writeChar ++ '"' :: ':' :: v.render.toList) := by
  simp [renderFields, writeText]

theorem toList_renderFields_cons (k : String) (v : Json) (f : String × Json)
    (fs : List (String × Json)) :
    (renderFields ((k, v) :: f :: fs)).toList = '"' :: (k.toList.flatMap writeChar ++
      '"' :: ':' :: (v.render.toList ++ ',' :: (renderFields (f :: fs)).toList)) := by
  simp [renderFields, writeText]

theorem exists_cons_renderItems (v : Json) (vs : List Json) :
    ∃ c cs, (renderItems (v :: vs)).toList = c :: cs ∧ Begins c := by
  obtain ⟨c, cs, hv, hc⟩ := exists_cons_render v
  cases vs with
  | nil => exact ⟨c, cs, by rw [renderItems, hv], hc⟩
  | cons v' vs => exact ⟨c, _, by rw [toList_renderItems_cons, hv, List.cons_append], hc⟩

theorem exists_cons_renderFields (f : String × Json) (fs : List (String × Json)) :
    ∃ cs, (renderFields (f :: fs)).toList = '"' :: cs := by
  obtain ⟨k, v⟩ := f
  cases fs with
  | nil => exact ⟨_, toList_renderFields_singleton k v⟩
  | cons f' fs => exact ⟨_, toList_renderFields_cons k v f' fs⟩

section Step
variable {fuel : Nat} (h : Rereads fuel)
include h

theorem Rereads.readItems_eq (v : Json) (vs : List Json) (depth : Nat) (read : List Json)
    (rest : List Char) (hfuel : (renderItems (v :: vs)).toList.length ≤ fuel) :
    readItems (fuel + 1) depth read ((renderItems (v :: vs)).toList ++ ']' :: rest) =
      .ok (.arr (read.reverse ++ rereadItems depth (v :: vs)), rest) := by
  cases vs with
  | nil =>
    rw [renderItems] at hfuel ⊢
    have hv := h.value v depth hfuel (numberEnds_cons (.inr (.inl rfl)) rest)
    rw [readItems, hv]
    simp [skipSpace, rereadItems]
  | cons v' vs =>
    rw [toList_renderItems_cons] at hfuel ⊢
    rw [List.length_append, List.length_cons] at hfuel
    have hv := h.value v depth (by omega)
      (numberEnds_cons (.inl rfl) ((renderItems (v' :: vs)).toList ++ ']' :: rest))
    have hvs := h.items v' vs depth (reread depth v :: read) rest (by omega)
    rw [List.append_assoc, List.cons_append, readItems, hv]
    simp [skipSpace, hvs, rereadItems]

theorem Rereads.readFields_eq (f : String × Json) (fs : List (String × Json)) (depth : Nat)
    (read : List (String × Json)) (rest : List Char)
    (hfuel : (renderFields (f :: fs)).toList.length ≤ fuel) :
    readFields (fuel + 1) depth true read ((renderFields (f :: fs)).toList ++ '\x7d' :: rest) =
      .ok (.obj (read.reverse ++ rereadFields depth (f :: fs)), rest) := by
  obtain ⟨k, v⟩ := f
  cases fs with
  | nil =>
    rw [toList_renderFields_singleton] at hfuel ⊢
    simp only [List.length_cons, List.length_append] at hfuel
    have hv := h.value v depth (by omega) (numberEnds_cons (.inr (.inr rfl)) rest)
    simp only [List.cons_append, List.append_assoc]
    rw [readFields]
    simp [skipSpace, readText_flatMap, hv, rereadFields, fitted]
  | cons f' fs =>
    rw [toList_renderFields_cons] at hfuel ⊢
    simp only [List.length_cons, List.length_append] at hfuel
    have hv := h.value v depth (by omega)
      (numberEnds_cons (.inl rfl) ((renderFields (f' :: fs)).toList ++ '\x7d' :: rest))
    have hfs := h.fields f' fs depth ((k, reread depth v) :: read) rest (by omega)
    simp only [List.cons_append, List.append_assoc]
    rw [readFields]
    simp [skipSpace, readText_flatMap, hv, hfs, rereadFields]

theorem Rereads.readValue_arr (v : Json) (vs : List Json) (depth : Nat) (rest : List Char)
    (hfuel : (render (.arr (v :: vs))).toList.length ≤ fuel + 1) :
    readValue (fuel + 1) depth ((render (.arr (v :: vs))).toList ++ rest) =
      .ok (reread depth (.arr (v :: vs)), rest) := by
  rw [toList_render_arr] at hfuel ⊢
  simp only [List.length_cons, List.length_append] at hfuel
  have hread := h.items v vs (depth - 1) [] rest (by omega)
  obtain ⟨c, cs, hcs, hc⟩ := exists_cons_renderItems v vs
  rw [hcs, List.cons_append] at hread
  have hne : c ≠ ']' := hc.ne (by decide)
  have hopen (cs : List Char) : skipSpace ('[' :: cs) = '[' :: cs := rfl
  rw [hcs, List.cons_append, List.append_assoc, List.singleton_append]
  simp [readValue, hopen, hc.skipSpace_eq, hne, hread, fitted, reread]

theorem Rereads.readValue_obj (f : String × Json) (fs : List (String × Json)) (depth : Nat)
    (rest : List Char) (hfuel : (render (.obj (f :: fs))).toList.length ≤ fuel + 1) :
    readValue (fuel + 1) depth ((render (.obj (f :: fs))).toList ++ rest) =
      .ok (reread depth (.obj (f :: fs)), rest) := by
  rw [toList_render_obj] at hfuel ⊢
  simp only [List.length_cons, List.length_append] at hfuel
  have hread := h.fields f fs (depth - 1) [] rest (by omega)
  obtain ⟨cs, hcs⟩ := exists_cons_renderFields f fs
  rw [hcs, List.cons_append] at hread
  rw [hcs, List.cons_append, List.append_assoc, List.singleton_append]
  simp [readValue, skipSpace, hread, fitted, reread]

end Step

theorem readValue_str (fuel depth : Nat) (s : String) (rest : List Char) :
    readValue (fuel + 1) depth ((render (.str s)).toList ++ rest) = .ok (.str s, rest) := by
  simp [render, writeText, readValue, skipSpace, readText_flatMap]
  rfl

theorem Rereads.step {fuel : Nat} (h : Rereads fuel) : Rereads (fuel + 1) where
  value v depth rest hfuel hrest := by
    cases v with
    | null | unfit => simp [render, readValue, skipSpace, readWord, reread]
    | bool b => cases b <;> simp [render, readValue, skipSpace, readWord, reread]
    | num n =>
      rw [render, reread]
      exact readValue_number fuel depth n hrest
    | str s => exact readValue_str fuel depth s rest
    | arr items =>
      cases items with
      | nil => simp [render, renderItems, readValue, skipSpace, reread, rereadItems, fitted]
      | cons v vs => exact h.readValue_arr v vs depth rest hfuel
    | obj fields =>
      cases fields with
      | nil => simp [render, renderFields, readValue, skipSpace, reread, rereadFields, fitted]
      | cons f fs => exact h.readValue_obj f fs depth rest hfuel
  items v vs depth read rest hfuel := h.readItems_eq v vs depth read rest (by omega)
  fields f fs depth read rest hfuel := h.readFields_eq f fs depth read rest (by omega)

theorem rereads (fuel : Nat) : Rereads fuel := by
  induction fuel with
  | zero => exact rereads_zero
  | succ fuel ih => exact ih.step

/-- **The document of the text of a document** is what is read of it. -/
theorem parse?_render (v : Json) : parse? v.render = (reread maxDepth v).settled? := by
  have hread := (rereads (2 * v.render.toList.length + 2)).value v maxDepth (by omega) numberEnds_nil
  rw [List.append_nil] at hread
  have hdraft : draft v.render = .ok (reread maxDepth v) := by
    simp only [draft, hread]
    rfl
  rw [parse?, hdraft]
  rfl

end ClusterWait.Json
