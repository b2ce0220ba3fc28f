import ClusterWait.Json.Parser
import ClusterWait.Json.Printer
import ClusterWait.Proofs.Text.Numerals

/-! # Numbers that are read again

The text of a number is a numeral, perhaps with a sign, a point and an exponent. A reader takes it whole
and leaves what follows, if no number goes on with that (`NumberEnds`), and what it makes of the numeral
does not depend on what follows (`exists_readNumber_render`). So there is one document that is read of the
text of a number, `Number.reread`. Integers of 64 bits are read back (`Number.legible_int`); a float may be
read as another one beside it, as the power of ten and the digits are rounded each for itself. -/

namespace ClusterWait.Json

open Text.Decimal (digits value?)
open Timestamp (Reads worth reads_digits value?_digit)

/-- **No number goes on with the text.** -/
def NumberEnds (rest : List Char) : Prop :=
  ∀ c ∈ rest.head?, value? c = none ∧ c ≠ '.' ∧ c ≠ 'e' ∧ c ≠ 'E'

/-- No digit begins the text. -/
def DigitsEnd (rest : List Char) : Prop := ∀ c ∈ rest.head?, value? c = none

theorem numberEnds_nil : NumberEnds [] := nofun

theorem NumberEnds.digitsEnd {rest : List Char} (h : NumberEnds rest) : DigitsEnd rest :=
  fun c hc => (h c hc).1

theorem digitsEnd_cons {c : Char} {rest : List Char} (h : value? c = none) : DigitsEnd (c :: rest) := by
  intro c' hc'
  cases hc'
  exact h

/-- **The characters are digits** with these values, and there are some. -/
structure Digits (cs : List Char) (ds : List Nat) : Prop where
  values : List.Forall₂ (fun c d => value? c = some d) cs ds
  ne_nil : cs ≠ []

namespace Digits

variable {cs cs' : List Char} {ds ds' : List Nat}

theorem append (h : Digits cs ds) (h' : List.Forall₂ (fun c d => value? c = some d) cs' ds') :
    Digits (cs ++ cs') (ds ++ ds') where
  values := List.rel_append h.values h'
  ne_nil := by simp [h.ne_nil]

theorem values_ne_nil (h : Digits cs ds) : ds ≠ [] := by
  cases h.values with
  | nil => exact absurd rfl h.ne_nil
  | cons => nofun

theorem head?_append (h : Digits cs ds) : (ds ++ ds').head? = ds.head? :=
  List.head?_append_of_ne_nil ds h.values_ne_nil

theorem takeDigits_eq (h : List.Forall₂ (fun c d => value? c = some d) cs ds) {rest : List Char}
    (hrest : DigitsEnd rest) : takeDigits (cs ++ rest) = (ds, rest) := by
  induction h with
  | nil =>
    cases rest with
    | nil => rfl
    | cons c rest =>
      have hc : value? c = none := hrest c rfl
      simp [takeDigits, hc]
  | cons hc _ ih =>
    rw [takeDigits, Prod.mk.injEq] at ih
    simp [takeDigits, hc, ih.1, ih.2]

/-- **Digits are read** up to where they end. -/
theorem readDigits_eq (h : Digits cs ds) {rest : List Char} (hrest : DigitsEnd rest) :
    readDigits (cs ++ rest) = .ok (ds, rest) := by
  have hne : ds.isEmpty = false := List.isEmpty_eq_false_iff.mpr h.values_ne_nil
  simp only [readDigits, takeDigits_eq h.values hrest, hne]
  rfl

end Digits

/-! ### Numerals -/

/-- **An exponent** and its value, if there is one. -/
inductive Scale : List Char → Option Int → Prop where
  | absent : Scale [] none
  | up {cs : List Char} {ds : List Nat} :
      Digits cs ds → Scale ('e' :: '+' :: cs) (some (worth ds : Nat))
  | down {cs : List Char} {ds : List Nat} :
      Digits cs ds → Scale ('e' :: '-' :: cs) (some (-(worth ds : Nat)))

/-- **A point and digits after it,** if there is one. -/
inductive Fraction : List Char → Option (List Nat) → Prop where
  | absent : Fraction [] none
  | pointed {cs : List Char} {ds : List Nat} : Digits cs ds → Fraction ('.' :: cs) (some ds)

/-- The number with such digits, digits after the point and exponent. -/
def ofParts (negative : Bool) (whole : List Nat) : Option (List Nat) → Option Int → Json
  | none, none => ofDigits negative (accumulate 0 whole).1 (accumulate 0 whole).2
  | fraction, scale =>
    let (significand, unused) := accumulate (accumulate 0 whole).1 (fraction.getD [])
    let places : Int := ((fraction.getD []).length - unused : Nat)
    ofScientific negative significand (((accumulate 0 whole).2 : Int) - places + scale.getD 0)

section Parts
variable {scale fraction rest : List Char} {n : Option Int} {places : Option (List Nat)}

theorem Scale.readScale_eq (h : Scale scale n) (hrest : NumberEnds rest) :
    readScale (scale ++ rest) = .ok (n, rest) := by
  cases h with
  | absent =>
    cases rest with
    | nil => rfl
    | cons c rest =>
      obtain ⟨-, -, he, hE⟩ := hrest c rfl
      rw [List.nil_append, readScale]
      · exact fun _ h => he (List.cons.inj h).1
      · exact fun _ h => hE (List.cons.inj h).1
  | up hds | down hds =>
    simp [readScale, readExponent, hds.readDigits_eq hrest.digitsEnd]
    rfl

/-- No digits and no point go on with what begins with an exponent. -/
theorem Scale.fractionEnds (h : Scale scale n) (hrest : NumberEnds rest) :
    ∀ c ∈ (scale ++ rest).head?, value? c = none ∧ c ≠ '.' := by
  cases h with
  | absent => exact fun c hc => ⟨(hrest c hc).1, (hrest c hc).2.1⟩
  | up | down =>
    intro c hc
    cases hc
    decide

theorem Fraction.readFraction_eq (h : Fraction fraction places) (hscale : Scale scale n)
    (hrest : NumberEnds rest) :
    readFraction (fraction ++ (scale ++ rest)) = .ok (places, scale ++ rest) := by
  have hends := hscale.fractionEnds hrest
  cases h with
  | absent =>
    rw [List.nil_append]
    generalize scale ++ rest = cs at hends
    cases cs with
    | nil => rfl
    | cons c cs =>
      rw [readFraction]
      exact fun _ h => (hends c rfl).2 (List.cons.inj h).1
  | pointed hds =>
    rw [List.cons_append, readFraction, hds.readDigits_eq fun c hc => (hends c hc).1]
    rfl

theorem Fraction.digitsEnd (h : Fraction fraction places) (hscale : Scale scale n)
    (hrest : NumberEnds rest) : DigitsEnd (fraction ++ (scale ++ rest)) := by
  cases h with
  | absent => exact fun c hc => (hscale.fractionEnds hrest c hc).1
  | pointed => exact digitsEnd_cons rfl

/-- **A numeral is read whole,** whatever follows, if its first digit is not zero or the only one. -/
theorem readUnsigned_eq {cs : List Char} {ds : List Nat} (negative : Bool) (hds : Digits cs ds)
    (hfirst : ds.length = 1 ∨ ds.head? ≠ some 0) (hfraction : Fraction fraction places)
    (hscale : Scale scale n) (hrest : NumberEnds rest) :
    readUnsigned negative (cs ++ (fraction ++ (scale ++ rest))) =
      .ok (ofParts negative ds places n, rest) := by
  have hfirst : ¬(ds.length ≠ 1 ∧ ds.head? = some 0) := by tauto
  rw [readUnsigned, hds.readDigits_eq (hfraction.digitsEnd hscale hrest)]
  simp only [Except.bind, bind, if_neg hfirst, pure, Except.pure,
    hfraction.readFraction_eq hscale hrest, hscale.readScale_eq hrest]
  cases hfraction <;> cases hscale <;> rfl

end Parts

/-! ### What is written -/

/-- **A numeral:** digits, a fraction and an exponent; the first digit is not zero or the only one. -/
inductive Numeral : List Char → Prop where
  | parts {whole fraction scale : List Char} {ds : List Nat} {places : Option (List Nat)}
      {n : Option Int} : Digits whole ds → (ds.length = 1 ∨ ds.head? ≠ some 0) →
      Fraction fraction places → Scale scale n → Numeral (whole ++ (fraction ++ scale))

theorem Numeral.exists_readUnsigned {cs : List Char} (h : Numeral cs) (negative : Bool) :
    ∃ v, ∀ rest, NumberEnds rest → readUnsigned negative (cs ++ rest) = .ok (v, rest) := by
  cases h with
  | @parts _ _ _ ds places n hds hfirst hfraction hscale =>
    refine ⟨ofParts negative ds places n, fun rest hrest => ?_⟩
    rw [List.append_assoc, List.append_assoc]
    exact readUnsigned_eq negative hds hfirst hfraction hscale hrest

theorem digits_zero : Digits ['0'] [0] := ⟨.cons rfl .nil, nofun⟩

theorem forall₂_zeros (n : Int) :
    List.Forall₂ (fun c d => value? c = some d) (zeros n) (List.replicate n.toNat 0) := by
  rw [zeros]
  induction n.toNat with
  | zero => exact .nil
  | succ k ih => exact .cons rfl ih

/-- **The numeral of a number** is worth the number, and begins with zero for zero only. -/
theorem exists_digits (n : Nat) : ∃ ds, Digits (digits n) ds ∧ worth ds = n ∧
    (ds.length = 1 ∨ ds.head? ≠ some 0) ∧ (n ≠ 0 → ds.head? ≠ some 0) := by
  fun_induction digits n with
  | case1 n h =>
    refine ⟨[n], ⟨.cons (value?_digit h) .nil, List.cons_ne_nil _ _⟩, by simp [worth], .inl rfl, ?_⟩
    exact fun hn hhead => hn (Option.some.inj hhead)
  | case2 n h ih =>
    obtain ⟨ds, hds, hworth, -, hhead⟩ := ih
    have hlast : value? (Text.Decimal.digit (n % 10)) = some (n % 10) :=
      value?_digit (Nat.mod_lt n (by decide))
    have hhead : (ds ++ [n % 10]).head? ≠ some 0 := by
      rw [hds.head?_append]
      exact hhead (by omega)
    refine ⟨ds ++ [n % 10], hds.append (.cons hlast .nil), ?_, .inr hhead, fun _ => hhead⟩
    rw [Timestamp.worth_append_singleton, hworth, Nat.div_add_mod]

theorem numeral_digits (n : Nat) : Numeral (digits n) := by
  obtain ⟨ds, hds, -, hfirst, -⟩ := exists_digits n
  have h := Numeral.parts hds hfirst .absent .absent
  rwa [List.append_nil, List.append_nil] at h

theorem toList_render_int (n : Int) : (Number.render (.int n)).toList =
    Number.sign (decide (n < 0)) ++ digits n.natAbs := by
  rw [Number.render, String.toList_ofList, Number.writeInt, Number.sign]
  by_cases hneg : n < 0 <;> simp [hneg]

theorem exists_scale_writeExponent (n : Int) : ∃ m, Scale ('e' :: Number.writeExponent n) m := by
  obtain ⟨ds, hds, -⟩ := exists_digits n.natAbs
  rw [Number.writeExponent, Number.writeInt]
  split
  · exact ⟨_, .down hds⟩
  · exact ⟨_, .up hds⟩

/-- A numeral with a point after some of its digits. -/
theorem numeral_pointed {cs : List Char} {ds : List Nat} (hds : Digits cs ds)
    (hfirst : ds.head? ≠ some 0) (place : Int) : Numeral (Number.pointed cs place) := by
  rw [Number.pointed]
  split
  · have hplaces : Digits (zeros (-place) ++ cs) (List.replicate (-place).toNat 0 ++ ds) :=
      ⟨List.rel_append (forall₂_zeros _) hds.values, by simp [hds.ne_nil]⟩
    have h := Numeral.parts digits_zero (.inl rfl) (.pointed hplaces) .absent
    simpa using h
  · split
    · have hwhole := hds.append (forall₂_zeros (place - cs.length))
      have h := Numeral.parts hwhole (.inr ?_) (.pointed digits_zero) .absent
      · simpa using h
      · rwa [hds.head?_append]
    · rename_i hpos hlt
      obtain ⟨k, hk⟩ : ∃ k, place.toNat = k + 1 := Nat.exists_eq_succ_of_ne_zero (by omega)
      have hwhole : Digits (cs.take (k + 1)) (ds.take (k + 1)) :=
        ⟨List.forall₂_take _ hds.values, by simp [hds.ne_nil]⟩
      have hplaces : Digits (cs.drop (k + 1)) (ds.drop (k + 1)) :=
        ⟨List.forall₂_drop _ hds.values, by simp; omega⟩
      have h := Numeral.parts hwhole (.inr ?_) (.pointed hplaces) .absent
      · rw [hk]
        simpa using h
      · rwa [List.head?_take, if_neg k.succ_ne_zero]

theorem numeral_scaled (cs : List Char) (n : Int) : ∀ {ds : List Nat}, Digits cs ds →
    Numeral ((match cs with
      | [] => []
      | [c] => [c]
      | c :: more => c :: '.' :: more) ++ ['e'] ++ Number.writeExponent n) := by
  rintro ds ⟨hvalues, hne⟩
  obtain ⟨m, hscale⟩ := exists_scale_writeExponent n
  cases hvalues with
  | nil => exact absurd rfl hne
  | cons hd hmore =>
    have hwhole := Digits.mk (.cons hd .nil) (by nofun)
    cases hmore with
    | nil => exact .parts hwhole (.inl rfl) .absent hscale
    | cons hd' hmore =>
      have hplaces := Digits.mk (.cons hd' hmore) (by nofun)
      have h := Numeral.parts hwhole (.inl rfl) (.pointed hplaces) hscale
      simpa using h

/-- **A number is written as a numeral,** after its sign. -/
theorem exists_numeral (n : Number) :
    ∃ negative cs, Numeral cs ∧ n.render.toList = Number.sign negative ++ cs := by
  cases n with
  | int n =>
    exact ⟨decide (n < 0), _, numeral_digits n.natAbs, toList_render_int n⟩
  | float negative d e =>
    rw [Number.render, String.toList_ofList]
    refine ⟨negative, _, ?_, rfl⟩
    obtain ⟨ds, hds, -, -, hhead⟩ := exists_digits d
    split
    · exact .parts digits_zero (.inl rfl) (.pointed digits_zero) .absent
    · rename_i hzero
      split
      · exact numeral_pointed hds (hhead hzero) _
      · exact numeral_scaled _ _ hds

theorem Numeral.exists_cons {cs : List Char} (h : Numeral cs) :
    ∃ c rest, cs = c :: rest ∧ (value? c).isSome := by
  obtain ⟨⟨hvalues, hne⟩, -, -, -⟩ := h
  cases hvalues with
  | nil => exact absurd rfl hne
  | cons hd _ => exact ⟨_, _, rfl, by rw [hd]; rfl⟩

theorem readNumber_sign (negative : Bool) {cs : List Char} (h : Numeral cs) (rest : List Char) :
    readNumber (Number.sign negative ++ cs ++ rest) = readUnsigned negative (cs ++ rest) := by
  cases negative with
  | true => rfl
  | false =>
    obtain ⟨c, more, rfl, hc⟩ := h.exists_cons
    rw [Number.sign, if_neg Bool.false_ne_true, List.nil_append, List.cons_append, readNumber]
    rintro more' h
    obtain ⟨rfl, -⟩ := List.cons.inj h
    cases hc

/-! ### What is read again -/

/-- **What is read of the text of a number.** -/
def Number.reread (n : Number) : Json :=
  ((readNumber n.render.toList).toOption.map Prod.fst).getD .unfit

/-- **The number is read back from its text.** -/
def Number.Legible (n : Number) : Prop := n.reread = .num n

/-- **The text of a number is read whole,** whatever follows. -/
theorem readNumber_render (n : Number) {rest : List Char} (hrest : NumberEnds rest) :
    readNumber (n.render.toList ++ rest) = .ok (n.reread, rest) := by
  obtain ⟨negative, cs, hcs, hn⟩ := exists_numeral n
  obtain ⟨v, hv⟩ := hcs.exists_readUnsigned negative
  have hread (rest) (hrest : NumberEnds rest) :
      readNumber (n.render.toList ++ rest) = .ok (v, rest) := by
    rw [hn, readNumber_sign negative hcs, hv rest hrest]
  have hv : n.reread = v := by
    have hempty := hread [] numberEnds_nil
    rw [List.append_nil] at hempty
    rw [Number.reread, hempty]
    rfl
  rw [hread rest hrest, hv]

/-! ### Integers -/

theorem le_foldl_digits (s : Nat) (ds : List Nat) : s ≤ ds.foldl (fun n d => 10 * n + d) s := by
  induction ds generalizing s with
  | nil => exact Nat.le_refl s
  | cons d ds ih => exact Nat.le_trans (by omega) (ih (10 * s + d))

/-- All digits count while they stay below the bound. -/
theorem accumulate_eq {s : Nat} {ds : List Nat}
    (h : ds.foldl (fun n d => 10 * n + d) s < Nat.pow 2 64) :
    accumulate s ds = (ds.foldl (fun n d => 10 * n + d) s, 0) := by
  induction ds generalizing s with
  | nil => rfl
  | cons d ds ih =>
    have hlt : 10 * s + d < Nat.pow 2 64 := Nat.lt_of_le_of_lt (le_foldl_digits _ ds) h
    rw [accumulate, if_pos hlt, ih h]
    rfl

theorem ofDigits_natAbs {n : Int} (hmin : -(Nat.pow 2 63 : Int) ≤ n) (hmax : n < Nat.pow 2 64) :
    ofDigits (decide (n < 0)) n.natAbs 0 = .num (.int n) := by
  by_cases hneg : n < 0
  · have hfits : n.natAbs ≠ 0 ∧ n.natAbs ≤ Nat.pow 2 63 := by
      simp only [Nat.pow_eq] at *
      omega
    rw [ofDigits, if_pos ⟨rfl, .inr hfits⟩, if_pos (decide_eq_true hneg)]
    congr
    omega
  · rw [ofDigits, if_pos ⟨rfl, .inl (by simp [hneg])⟩, if_neg (by simp [hneg])]
    congr
    omega

/-- **Integers of 64 bits are read back.** -/
theorem Number.legible_int {n : Int} (hmin : -(Nat.pow 2 63 : Int) ≤ n) (hmax : n < Nat.pow 2 64) :
    (Number.int n).Legible := by
  obtain ⟨ds, hds, hworth, hfirst, -⟩ := exists_digits n.natAbs
  have hlt : n.natAbs < Nat.pow 2 64 := by
    simp only [Nat.pow_eq] at *
    omega
  have hall : accumulate 0 ds = (n.natAbs, 0) := by
    have hworth : ds.foldl (fun n d => 10 * n + d) 0 = n.natAbs := hworth
    rw [accumulate_eq (by rwa [hworth]), hworth]
  have hread := readUnsigned_eq (decide (n < 0)) hds hfirst .absent .absent numberEnds_nil
  have hnumber := readNumber_sign (decide (n < 0)) (numeral_digits n.natAbs) []
  simp only [List.append_nil, ← toList_render_int, ofParts, hall] at hread hnumber
  have hvalue : (Number.int n).reread = ofDigits (decide (n < 0)) n.natAbs 0 := by
    rw [reread, hnumber, hread]
    rfl
  rw [Legible, hvalue, ofDigits_natAbs hmin hmax]

end ClusterWait.Json
