import ClusterWait.Proofs.Text.Numerals
import Mathlib.Tactic.SplitIfs

/-! # Timestamps are read back

A timestamp that was read from a text has its components in their ranges (`Valid`) and lies in the range
of timestamps that can be told; this is what `Told` says. The days of the calendar keep their ranges
(`Valid.nextDay`, `Valid.previousDay`), and so does taking an offset away (`Valid.behind`), so all that
is read is told (`told_of_read?`).

What is written has whole seconds. It is read back if its year is not below zero
(`read?_render_of_nonneg`): then it has four digits. A year below zero is written with a sign and three or
four digits, where six are expected, and so it is not read at all (`read?_render_of_neg`). -/

namespace ClusterWait.Timestamp

open Text.Decimal (value?)

/-! ### Components in their ranges -/

/-- **The components lie in their ranges.** -/
structure Valid (t : Timestamp) : Prop where
  month_pos : 1 ≤ t.month
  month_le : t.month ≤ 12
  day_pos : 1 ≤ t.day
  day_le : t.day ≤ daysIn t.year t.month
  hour_lt : t.hour < 24
  minute_lt : t.minute < 60
  second_lt : t.second < 60
  nanosecond_lt : t.nanosecond < 1000000000

theorem isValid_iff {t : Timestamp} : t.isValid = true ↔ t.Valid := by
  simp only [isValid, Bool.and_eq_true, decide_eq_true_eq]
  constructor
  · rintro ⟨⟨⟨⟨⟨⟨⟨h₁, h₂⟩, h₃⟩, h₄⟩, h₅⟩, h₆⟩, h₇⟩, h₈⟩
    exact ⟨h₁, h₂, h₃, h₄, h₅, h₆, h₇, h₈⟩
  · rintro ⟨h₁, h₂, h₃, h₄, h₅, h₆, h₇, h₈⟩
    exact ⟨⟨⟨⟨⟨⟨⟨h₁, h₂⟩, h₃⟩, h₄⟩, h₅⟩, h₆⟩, h₇⟩, h₈⟩

theorem daysIn_pos (year : Int) (month : Nat) : 1 ≤ daysIn year month := by
  unfold daysIn
  split_ifs <;> decide

theorem Valid.nextDay {t : Timestamp} (h : t.Valid) : t.nextDay.Valid := by
  unfold Timestamp.nextDay
  split_ifs with hday hmonth
  · exact { h with day_pos := Nat.le_add_left _ _, day_le := hday }
  · exact { h with month_pos := Nat.le_add_left _ _, month_le := hmonth, day_pos := Nat.le_refl _
                   day_le := daysIn_pos _ _ }
  · exact { h with month_pos := Nat.le_refl _, month_le := (by decide : 1 ≤ 12), day_pos := Nat.le_refl _
                   day_le := daysIn_pos _ _ }

theorem Valid.previousDay {t : Timestamp} (h : t.Valid) : t.previousDay.Valid := by
  have hday := h.day_le
  have hmonth := h.month_le
  unfold Timestamp.previousDay
  split_ifs with hfirst hjanuary
  · exact { h with day_pos := Nat.le_sub_one_of_lt hfirst, day_le := Nat.le_trans (Nat.sub_le _ _) hday }
  · exact { h with month_pos := Nat.le_sub_one_of_lt hjanuary
                   month_le := Nat.le_trans (Nat.sub_le _ _) hmonth, day_pos := daysIn_pos _ _
                   day_le := Nat.le_refl _ }
  · exact { h with month_pos := (by decide : 1 ≤ 12), month_le := Nat.le_refl _
                   day_pos := (by decide : 1 ≤ 31), day_le := by simp [daysIn] }

theorem Valid.daysAfter {t : Timestamp} (h : t.Valid) (n : Nat) : (daysAfter n t).Valid := by
  induction n generalizing t with
  | zero => exact h
  | succ n ih => exact ih h.nextDay

theorem Valid.daysBefore {t : Timestamp} (h : t.Valid) (n : Nat) : (daysBefore n t).Valid := by
  induction n generalizing t with
  | zero => exact h
  | succ n ih => exact ih h.previousDay

theorem Valid.atClock {t : Timestamp} (h : t.Valid) {clock : Nat} (hc : clock < 86400) :
    (t.atClock clock).Valid :=
  { h with
    hour_lt := by simp only [Timestamp.atClock]; omega
    minute_lt := Nat.mod_lt _ (by decide)
    second_lt := Nat.mod_lt _ (by decide) }

/-- **An offset is taken away.** -/
theorem Valid.behind {t : Timestamp} (h : t.Valid) (seconds : Int) : (t.behind seconds).Valid := by
  unfold Timestamp.behind
  refine Valid.atClock ?_ (by omega)
  split_ifs
  · exact h.daysBefore _
  · exact h.daysAfter _

theorem Valid.truncated {t : Timestamp} (h : t.Valid) : t.truncated.Valid :=
  { h with nanosecond_lt := by simp [Timestamp.truncated] }

/-- No offset changes nothing. -/
theorem Valid.behind_zero {t : Timestamp} (h : t.Valid) : t.behind 0 = t := by
  have hh := h.hour_lt
  have hm := h.minute_lt
  have hs := h.second_lt
  have hclock : t.clock < 86400 := by
    simp only [clock]
    omega
  have hdays : ((t.clock : Int) - 0) / 86400 = 0 := by omega
  have hrest : (((t.clock : Int) - 0) % 86400).toNat = t.clock := by omega
  have hat : t.atClock t.clock = t := by
    have h₁ : t.clock / 3600 = t.hour := by simp only [clock]; omega
    have h₂ : t.clock / 60 % 60 = t.minute := by simp only [clock]; omega
    have h₃ : t.clock % 60 = t.second := by simp only [clock]; omega
    rw [Timestamp.atClock, h₁, h₂, h₃]
  simp only [Timestamp.behind, hdays, hrest]
  exact hat

/-! ### The range of what can be told -/

/-- The last component decides only between timestamps that agree in all others. -/
theorem notBelow_concat {as bs : List Int} {a a' b b' : Int} (hl : as.length = bs.length)
    (hab : b ≤ a → b' ≤ a') (h : notBelow (as ++ [a]) (bs ++ [b]) = true) :
    notBelow (as ++ [a']) (bs ++ [b']) = true := by
  induction as generalizing bs with
  | nil =>
    obtain rfl : bs = [] := List.eq_nil_of_length_eq_zero hl.symm
    simp only [List.nil_append, notBelow, ite_eq_left_iff, decide_eq_true_eq] at h ⊢
    omega
  | cons x xs ih =>
    cases bs with
    | nil => cases hl
    | cons y ys =>
      simp only [List.cons_append, notBelow] at h ⊢
      split_ifs at h ⊢ with heq
      · exact ih (Nat.succ.inj hl) h
      · exact h

theorem inRange_truncated {t : Timestamp} (h : t.inRange = true) : t.truncated.inRange = true := by
  rw [inRange, Bool.and_eq_true] at h ⊢
  have hearliest : notBelow ([t.year, t.month, t.day, t.hour, t.minute, t.second] ++ [(t.nanosecond : Int)])
      ([-9999, 1, 2, 1, 59, 59] ++ [0]) = true := h.1
  have hlatest : notBelow ([9999, 12, 30, 22, 0, 0] ++ [999999999])
      ([t.year, t.month, t.day, t.hour, t.minute, t.second] ++ [(t.nanosecond : Int)]) = true := h.2
  have hlast : (999999999 : Int) ≥ t.nanosecond → (999999999 : Int) ≥ 0 := fun _ => by decide
  exact ⟨notBelow_concat (by rfl) (fun _ => Int.le_refl 0) hearliest,
    notBelow_concat (by rfl) hlast hlatest⟩

theorem year_of_inRange {t : Timestamp} (h : t.inRange = true) : -9999 ≤ t.year ∧ t.year ≤ 9999 := by
  rw [inRange, Bool.and_eq_true] at h
  obtain ⟨hearliest, hlatest⟩ := h
  simp only [notBefore, components, notBelow, earliest, latest] at hearliest hlatest
  constructor
  · by_contra hlow
    rw [if_neg (by omega), decide_eq_true_eq] at hearliest
    omega
  · by_contra hhigh
    rw [if_neg (by omega), decide_eq_true_eq] at hlatest
    omega

/-- **A timestamp as texts tell it.** -/
structure Told (t : Timestamp) : Prop where
  valid : t.Valid
  inRange : t.inRange = true

theorem Told.truncated {t : Timestamp} (h : t.Told) : t.truncated.Told :=
  ⟨h.valid.truncated, inRange_truncated h.inRange⟩

/-! ### What is read -/

theorem valid_of_date? {cs rest : List Char} {t : Timestamp} (h : date? cs = some (t, rest)) :
    t.Valid := by
  simp only [date?, bind_eq_some] at h
  obtain ⟨⟨year, cs₁⟩, -, cs₂, -, ⟨month, cs₃⟩, -, cs₄, -, ⟨day, cs₅⟩, -, h⟩ := h
  split at h
  · rename_i hvalid
    cases h
    rw [Bool.and_eq_true] at hvalid
    exact isValid_iff.mp hvalid.2
  · cases h

theorem lt_of_below? {bound n : Nat} {cs rest : List Char} (h : below? bound cs = some (n, rest)) :
    n < bound := by
  have hbound := (Option.filter_eq_some_iff.mp h).2
  exact of_decide_eq_true hbound

theorem lt_of_fraction? {n : Nat} {cs rest : List Char} (h : fraction? cs = some (n, rest)) :
    n < 1000000000 := by
  unfold fraction? at h
  split at h
  · cases h
    decide
  · simp only at h
    split at h
    · cases h
    · obtain ⟨⟨m, rest'⟩, hdigits, heq⟩ := Option.map_eq_some_iff.mp h
      cases heq
      exact lt_of_digits? hdigits

theorem valid_of_time? {date t : Timestamp} {cs rest : List Char} (hdate : date.Valid)
    (h : time? date cs = some (t, rest)) : t.Valid := by
  simp only [time?, bind_eq_some] at h
  obtain ⟨⟨hour, cs₁⟩, hhour, h⟩ := h
  have hhour := lt_of_below? hhour
  split at h
  · cases h
    exact { hdate with hour_lt := hhour }
  · obtain ⟨⟨minute, cs₂⟩, hminute, h⟩ := Option.bind_eq_some_iff.mp h
    have hminute := lt_of_below? hminute
    split at h
    · cases h
      exact { hdate with hour_lt := hhour, minute_lt := hminute }
    · obtain ⟨⟨second, cs₃⟩, -, h⟩ := Option.bind_eq_some_iff.mp h
      obtain ⟨⟨nanosecond, cs₄⟩, hfraction, h⟩ := Option.bind_eq_some_iff.mp h
      cases h
      exact { hdate with
        hour_lt := hhour
        minute_lt := hminute
        second_lt := Nat.lt_succ_of_le (Nat.min_le_right _ _)
        nanosecond_lt := lt_of_fraction? hfraction }

/-- **All that is read is told.** -/
theorem told_of_read? {s : String} {t : Timestamp} (h : read? s = some t) : t.Told := by
  simp only [read?, bind_eq_some] at h
  obtain ⟨⟨date, cs₁⟩, hdate, cs₂, -, ⟨t', cs₃⟩, htime, ⟨offset, cs₄⟩, -, h⟩ := h
  split at h
  · obtain ⟨heq, hrange⟩ := Option.filter_eq_some_iff.mp h
    cases heq
    exact ⟨(valid_of_time? (valid_of_date? hdate) htime).behind offset, hrange⟩
  · cases h

/-! ### What is written -/

theorem year?_of_nonneg {year : Int} {rest : List Char} (h₀ : 0 ≤ year) (h : year ≤ 9999) :
    year? (yearText year ++ rest) = some (year, rest) := by
  have hfits : year.natAbs < 10 ^ 4 := by omega
  obtain ⟨c, cs, d, hcons, hc⟩ :=
    (reads_padded 4 year.natAbs).exists_cons (by rw [length_padded (by decide) hfits]; decide)
  have hdigits : digits? 4 (padded 4 year.natAbs ++ rest) = some (year.natAbs, rest) :=
    digits?_padded (by decide) hfits
  rw [yearText, if_neg (Int.not_lt.mpr h₀)]
  rw [hcons, List.cons_append] at hdigits ⊢
  -- the first character is a digit, and so no sign
  unfold year?
  split
  · rename_i heq
    cases heq
    cases hc
  · rename_i heq
    cases heq
    cases hc
  · rw [hdigits, Option.map_some, Int.natAbs_of_nonneg h₀]

/-- A year with a sign and too few digits. -/
theorem year?_of_neg {year : Int} {rest : List Char} (h₀ : year < 0) (h : -9999 ≤ year) :
    year? (yearText year ++ '-' :: rest) = none := by
  have hlength : (padded 3 year.natAbs).length ≤ 4 := by
    have hle : (Text.Decimal.digits year.natAbs).length ≤ 4 :=
      length_digits_le (by decide) (by omega)
    simp only [padded, List.length_append, List.length_replicate]
    omega
  have hdigits : digits? 6 (padded 3 year.natAbs ++ '-' :: rest) = none :=
    digits?_eq_none (Nat.lt_of_le_of_lt hlength (by decide)) (by decide)
  rw [yearText, if_pos h₀, List.cons_append]
  simp only [year?, hdigits, Option.filter_none, Option.map_none]

theorem date?_of_nonneg {t : Timestamp} (h : t.Told) (h₀ : 0 ≤ t.year) (rest : List Char) :
    date? (yearText t.year ++ '-' :: (padded 2 t.month ++ '-' :: (padded 2 t.day ++ rest))) =
      some (⟨t.year, t.month, t.day, 0, 0, 0, 0⟩, rest) := by
  have hyear := (year_of_inRange h.inRange).2
  have hmonth : t.month < 10 ^ 2 := Nat.lt_of_le_of_lt h.valid.month_le (by decide)
  have hday : t.day < 10 ^ 2 := by
    have hle := h.valid.day_le
    have hdays : daysIn t.year t.month ≤ 31 := by
      unfold daysIn
      split_ifs <;> decide
    omega
  have hvalid : (⟨t.year, t.month, t.day, 0, 0, 0, 0⟩ : Timestamp).isValid = true :=
    isValid_iff.mpr { h.valid with
      hour_lt := Nat.zero_lt_succ _, minute_lt := Nat.zero_lt_succ _
      second_lt := Nat.zero_lt_succ _, nanosecond_lt := Nat.zero_lt_succ _ }
  have hsmall : decide (t.year.natAbs ≤ 9999) = true := decide_eq_true (by omega)
  simp only [date?, bind]
  refine Option.bind_eq_some_iff.mpr ⟨_, year?_of_nonneg h₀ hyear, ?_⟩
  refine Option.bind_eq_some_iff.mpr ⟨_, rfl, ?_⟩
  refine Option.bind_eq_some_iff.mpr ⟨_, digits?_padded (by decide) hmonth, ?_⟩
  refine Option.bind_eq_some_iff.mpr ⟨_, rfl, ?_⟩
  refine Option.bind_eq_some_iff.mpr ⟨_, digits?_padded (by decide) hday, ?_⟩
  simp only [hsmall, hvalid, Bool.and_self, if_true]

theorem below?_padded {bound n : Nat} {rest : List Char} (hn : n < bound) (hbound : bound ≤ 100) :
    below? bound (padded 2 n ++ rest) = some (n, rest) := by
  rw [below?, digits?_padded (by decide) (Nat.lt_of_lt_of_le hn hbound)]
  exact Option.filter_eq_some_iff.mpr ⟨rfl, decide_eq_true hn⟩

theorem time?_of_valid {t : Timestamp} (h : t.Valid) (date : Timestamp) :
    time? date (padded 2 t.hour ++ ':' :: (padded 2 t.minute ++ ':' :: (padded 2 t.second ++ ['Z']))) =
      some ({ date with hour := t.hour, minute := t.minute, second := t.second, nanosecond := 0 },
        ['Z']) := by
  have hsecond : min t.second 59 = t.second := Nat.min_eq_left (Nat.le_of_lt_succ h.second_lt)
  have hbelow : below? 61 (padded 2 t.second ++ ['Z']) = some (t.second, ['Z']) :=
    below?_padded (Nat.lt_succ_of_lt h.second_lt) (by decide)
  simp only [time?, bind]
  refine Option.bind_eq_some_iff.mpr ⟨_, below?_padded h.hour_lt (by decide), ?_⟩
  refine Option.bind_eq_some_iff.mpr ⟨_, below?_padded h.minute_lt (by decide), ?_⟩
  refine Option.bind_eq_some_iff.mpr ⟨_, hbelow, ?_⟩
  refine Option.bind_eq_some_iff.mpr ⟨(0, ['Z']), rfl, ?_⟩
  simp only [hsecond]
  rfl

/-- The characters of what is written. -/
theorem toList_render (t : Timestamp) : t.render.toList = yearText t.year ++ '-' ::
    (padded 2 t.month ++ '-' :: (padded 2 t.day ++ 'T' :: (padded 2 t.hour ++ ':' ::
      (padded 2 t.minute ++ ':' :: (padded 2 t.second ++ ['Z']))))) := by
  simp only [render, String.toList_ofList, List.append_assoc, List.cons_append]

/-- **What is written is read back with whole seconds,** if the year is not below zero, -/
theorem read?_render_of_nonneg {t : Timestamp} (h : t.Told) (h₀ : 0 ≤ t.year) :
    read? t.render = some t.truncated := by
  have hbehind : t.truncated.behind 0 = t.truncated := h.truncated.valid.behind_zero
  have hrange : t.truncated.inRange = true := h.truncated.inRange
  simp only [read?, bind, toList_render]
  refine Option.bind_eq_some_iff.mpr ⟨_, date?_of_nonneg h h₀ _, ?_⟩
  refine Option.bind_eq_some_iff.mpr ⟨_, rfl, ?_⟩
  refine Option.bind_eq_some_iff.mpr ⟨_, time?_of_valid h.valid _, ?_⟩
  refine Option.bind_eq_some_iff.mpr ⟨(0, []), rfl, ?_⟩
  refine (if_pos rfl).trans (Option.filter_eq_some_iff.mpr ⟨?_, hrange⟩)
  exact congrArg some hbehind

/-- and is not read at all if it is. -/
theorem read?_render_of_neg {t : Timestamp} (h : t.Told) (h₀ : t.year < 0) :
    read? t.render = none := by
  simp only [read?, bind, toList_render, date?, year?_of_neg h₀ (year_of_inRange h.inRange).1,
    Option.bind_none]

/-- What is written does not tell the fraction. -/
theorem render_truncated (t : Timestamp) : t.truncated.render = t.render := rfl

end ClusterWait.Timestamp
