import ClusterWait.Proofs.Dictionary
import ClusterWait.Proofs.Reading
import ClusterWait.Proofs.Text.Numerals
import ClusterWait.Settings
import Mathlib.Data.List.Nodup

/-! # Settings: which environments can be read, and what they say about times

Each of the eight times among the settings has a variable of its own (`TimeSetting`). A variable that
is not set leaves its time at the default, and one that is set has to be a numeral
(`Text.Decimal.Numeral`) of a number below `2 ^ 64` (`Settings.number_eq_ok_iff`).

An environment is read variable by variable: it cannot be read exactly if one of them cannot
(`Settings.ofEnvironment_eq_error_iff`), and else each time is what its own variable says
(`Settings.read_of_ofEnvironment`). `times_follow_environment` puts together what follows. -/

namespace ClusterWait

/-! ### Numerals with a sign -/

namespace Text.Decimal

open Timestamp (Reads reads_digits worth)

/-- **The text is a numeral of the number:** at least one digit, worth the number together, and before
them a plus sign or nothing. -/
def Numeral (s : String) (n : Nat) : Prop :=
  ∃ sign cs, s.toList = sign ++ cs ∧ (sign = [] ∨ sign = ['+']) ∧ cs ≠ [] ∧ Reads cs n

theorem readFrom_eq_some_iff {cs : List Char} {m n : Nat} : readFrom m cs = some n ↔
    ∃ ds, List.Forall₂ (fun c d => value? c = some d) cs ds ∧
      ds.foldl (fun n d => 10 * n + d) m = n := by
  induction cs generalizing m with
  | nil =>
    constructor
    · intro h
      cases h
      exact ⟨[], .nil, rfl⟩
    · rintro ⟨ds, hds, rfl⟩
      cases hds
      rfl
  | cons c cs ih =>
    rw [readFrom, Option.bind_eq_some_iff]
    constructor
    · rintro ⟨d, hd, h⟩
      obtain ⟨ds, hds, rfl⟩ := ih.mp h
      exact ⟨d :: ds, .cons hd hds, rfl⟩
    · rintro ⟨ds, hds, rfl⟩
      cases hds with
      | cons hd hds => exact ⟨_, hd, ih.mpr ⟨_, hds, rfl⟩⟩

theorem unsigned?_eq_some_iff {cs : List Char} {n : Nat} :
    unsigned? cs = some n ↔ cs ≠ [] ∧ Reads cs n := by
  cases cs with
  | nil => simp [unsigned?]
  | cons c cs =>
    have hne : c :: cs ≠ [] := List.cons_ne_nil c cs
    rw [unsigned?, readFrom_eq_some_iff, and_iff_right hne]
    · rfl
    · exact hne

/-- What is dropped is a plus sign or nothing. -/
theorem dropPlus_cases (cs : List Char) : cs = '+' :: dropPlus cs ∨ cs = dropPlus cs := by
  unfold dropPlus
  split
  · exact Or.inl rfl
  · exact Or.inr rfl

/-- A numeral without a sign begins with a digit, which is none. -/
theorem dropPlus_of_reads {cs : List Char} {n : Nat} (h : Reads cs n) : dropPlus cs = cs := by
  unfold dropPlus
  split
  · obtain ⟨ds, hds, -⟩ := h
    cases hds with
    | cons hd _ => cases hd
  · rfl

/-- **What is read are the numerals of numbers below the bound.** -/
theorem read?_eq_some_iff {bound : Nat} {s : String} {n : Nat} :
    read? bound s = some n ↔ Numeral s n ∧ n < bound := by
  have hread : read? bound s = some n ↔ unsigned? (dropPlus s.toList) = some n ∧ n < bound := by
    simp [read?, Option.filter_eq_some_iff]
  rw [hread, unsigned?_eq_some_iff]
  refine and_congr_left fun _ => ⟨fun h => ?_, fun h => ?_⟩
  · rcases dropPlus_cases s.toList with hs | hs
    · exact ⟨['+'], dropPlus s.toList, hs, Or.inr rfl, h⟩
    · exact ⟨[], dropPlus s.toList, hs, Or.inl rfl, h⟩
  · obtain ⟨sign, cs, hs, rfl | rfl, hne, hreads⟩ := h
    · rw [hs, List.nil_append, dropPlus_of_reads hreads]
      exact ⟨hne, hreads⟩
    · rw [hs]
      exact ⟨hne, hreads⟩

theorem Numeral.unique {s : String} {m n : Nat} (hm : Numeral s m) (hn : Numeral s n) : m = n := by
  have hread (k : Nat) (h : Numeral s k) (hk : k ≤ m + n) : read? (m + n + 1) s = some k :=
    read?_eq_some_iff.mpr ⟨h, by omega⟩
  have heq := (hread m hm (by omega)).symm.trans (hread n hn (by omega))
  exact Option.some.inj heq

theorem digits_ne_nil (n : Nat) : digits n ≠ [] := by
  unfold digits
  split
  · exact List.cons_ne_nil _ _
  · exact List.append_ne_nil_of_right_ne_nil _ (List.cons_ne_nil _ _)

theorem numeral_render (n : Nat) : Numeral (render n) n :=
  ⟨[], digits n, String.toList_ofList, Or.inl rfl, digits_ne_nil n, reads_digits n⟩

end Text.Decimal

open Text.Decimal

/-! ### Times and their variables -/

/-- **The times among the settings.** -/
inductive TimeSetting where
  | retryShort | retryMedium | waitShort | waitMedium | waitOverMedium | waitLong | waitOverLong
  | nodesReady
deriving DecidableEq

namespace TimeSetting

/-- All of them, in the order of the settings. -/
def all : List TimeSetting := [.retryShort, .retryMedium, .waitShort, .waitMedium, .waitOverMedium,
  .waitLong, .waitOverLong, .nodesReady]

/-- The variable that holds a time. -/
def variableName : TimeSetting → String
  | .retryShort => "E2E_RETRY_SHORT_SECS"
  | .retryMedium => "E2E_RETRY_MEDIUM_SECS"
  | .waitShort => "E2E_WAIT_SHORT_SECS"
  | .waitMedium => "E2E_WAIT_MEDIUM_SECS"
  | .waitOverMedium => "E2E_WAIT_OVER_MEDIUM_SECS"
  | .waitLong => "E2E_WAIT_LONG_SECS"
  | .waitOverLong => "E2E_WAIT_OVER_LONG_SECS"
  | .nodesReady => "E2E_NODES_READY_SECS"

theorem mem_all (x : TimeSetting) : x ∈ all := by
  cases x <;> decide

theorem eq_of_variableName_eq {x y : TimeSetting} (h : x.variableName = y.variableName) : x = y := by
  have hnodup : (all.map variableName).Nodup := by decide
  exact List.inj_on_of_nodup_map hnodup (mem_all x) (mem_all y) h

/-- They come in the order of the settings. -/
theorem sublist_variableNames : (all.map variableName).Sublist Settings.variableNames := by
  decide

end TimeSetting

def Settings.seconds (s : Settings) : TimeSetting → Nat
  | .retryShort => s.retryShort
  | .retryMedium => s.retryMedium
  | .waitShort => s.waitShort
  | .waitMedium => s.waitMedium
  | .waitOverMedium => s.waitOverMedium
  | .waitLong => s.waitLong
  | .waitOverLong => s.waitOverLong
  | .nodesReady => s.nodesReady

namespace Timeouts

def get (t : Timeouts) : TimeSetting → Nat
  | .retryShort => t.retryShort
  | .retryMedium => t.retryMedium
  | .waitShort => t.waitShort
  | .waitMedium => t.waitMedium
  | .waitOverMedium => t.waitOverMedium
  | .waitLong => t.waitLong
  | .waitOverLong => t.waitOverLong
  | .nodesReady => t.nodesReady

def set (t : Timeouts) (x : TimeSetting) (value : Nat) : Timeouts :=
  match x with
  | .retryShort => { t with retryShort := value }
  | .retryMedium => { t with retryMedium := value }
  | .waitShort => { t with waitShort := value }
  | .waitMedium => { t with waitMedium := value }
  | .waitOverMedium => { t with waitOverMedium := value }
  | .waitLong => { t with waitLong := value }
  | .waitOverLong => { t with waitOverLong := value }
  | .nodesReady => { t with nodesReady := value }

theorem ext_get {t t' : Timeouts} (h : ∀ x, t.get x = t'.get x) : t = t' := by
  obtain ⟨_, _, _, _, _, _, _, _⟩ := t
  obtain ⟨_, _, _, _, _, _, _, _⟩ := t'
  rw [mk.injEq]
  exact ⟨h .retryShort, h .retryMedium, h .waitShort, h .waitMedium, h .waitOverMedium, h .waitLong,
    h .waitOverLong, h .nodesReady⟩

theorem get_set (t : Timeouts) (x y : TimeSetting) (value : Nat) :
    (t.set x value).get y = if x = y then value else t.get y := by
  cases x <;> cases y <;> rfl

/-- The defaults of both kinds of settings are the same times. -/
theorem get_default (x : TimeSetting) :
    ({} : Timeouts).get x = 1000 * ({} : Settings).seconds x := by
  cases x <;> rfl

theorem get_timeouts (s : Settings) (x : TimeSetting) : s.timeouts.get x = 1000 * s.seconds x := by
  cases x <;> rfl

end Timeouts

/-! ### What is read -/

namespace Settings

variable {env env' : Dictionary String} {x : TimeSetting} {n : Nat} {e : SettingsError}

/-- What is read of the variable of a time. -/
def read (env : Dictionary String) (x : TimeSetting) : Except SettingsError Nat :=
  number env x.variableName (({} : Settings).seconds x)

theorem number_eq_ok_iff {name : String} {default : Nat} : number env name default = .ok n ↔
    env.get? name = none ∧ n = default ∨
      ∃ text, env.get? name = some text ∧ Numeral text n ∧ n < 2 ^ 64 := by
  unfold number
  cases env.get? name with
  | none => simp [eq_comm]
  | some text =>
    have hread : read? (Nat.pow 2 64) text = some n ↔ Numeral text n ∧ n < 2 ^ 64 := read?_eq_some_iff
    simp only [reduceCtorEq, false_and, false_or, Option.some.injEq, exists_eq_left']
    rw [← hread]
    cases read? (Nat.pow 2 64) text with
    | none => simp
    | some m => simp

theorem number_eq_error_iff {name : String} {default : Nat} : number env name default = .error e ↔
    e = ⟨name⟩ ∧ ∃ text, env.get? name = some text ∧ ¬ ∃ n < 2 ^ 64, Numeral text n := by
  unfold number
  cases env.get? name with
  | none => simp
  | some text =>
    have hread (n : Nat) : read? (Nat.pow 2 64) text = some n ↔ Numeral text n ∧ n < 2 ^ 64 :=
      read?_eq_some_iff
    simp only [Option.some.injEq, exists_eq_left', and_comm (a := _ < 2 ^ 64), ← hread]
    cases read? (Nat.pow 2 64) text with
    | none => simp [eq_comm]
    | some m => simp

/-- The variables of the times are read one after the other. -/
theorem ofEnvironment_eq_error_iff :
    ofEnvironment env = .error e ↔ TimeSetting.all.mapM (read env) = .error e := by
  simp only [ofEnvironment, TimeSetting.all, bind_eq_error, mapM_cons_eq_error_iff, List.mapM_nil,
    pure_ne_error]
  rfl

theorem read_of_ofEnvironment {s : Settings} (h : ofEnvironment env = .ok s) (x : TimeSetting) :
    read env x = .ok (s.seconds x) := by
  unfold ofEnvironment at h
  obtain ⟨retryShort, h₁, h⟩ := bind_eq_ok.mp h
  obtain ⟨retryMedium, h₂, h⟩ := bind_eq_ok.mp h
  obtain ⟨waitShort, h₃, h⟩ := bind_eq_ok.mp h
  obtain ⟨waitMedium, h₄, h⟩ := bind_eq_ok.mp h
  obtain ⟨waitOverMedium, h₅, h⟩ := bind_eq_ok.mp h
  obtain ⟨waitLong, h₆, h⟩ := bind_eq_ok.mp h
  obtain ⟨waitOverLong, h₇, h⟩ := bind_eq_ok.mp h
  obtain ⟨nodesReady, h₈, h⟩ := bind_eq_ok.mp h
  cases h
  cases x <;> assumption

/-- **The variable of a time can be read:** if it is set, it is a numeral of a number below
`2 ^ 64`. -/
def Readable (env : Dictionary String) (x : TimeSetting) : Prop :=
  ∀ text, env.get? x.variableName = some text → ∃ n < 2 ^ 64, Numeral text n

theorem exists_read_iff : (∃ n, read env x = .ok n) ↔ Readable env x := by
  constructor
  · rintro ⟨n, h⟩ text htext
    rcases number_eq_ok_iff.mp h with ⟨hnone, -⟩ | ⟨text', htext', hn, hlt⟩
    · cases hnone.symm.trans htext
    · cases htext'.symm.trans htext
      exact ⟨n, hlt, hn⟩
  · intro h
    cases htext : env.get? x.variableName with
    | none => exact ⟨_, number_eq_ok_iff.mpr (Or.inl ⟨htext, rfl⟩)⟩
    | some text =>
      obtain ⟨n, hlt, hn⟩ := h text htext
      exact ⟨n, number_eq_ok_iff.mpr (Or.inr ⟨text, htext, hn, hlt⟩)⟩

theorem read_eq_error_iff : read env x = .error e ↔ ¬ Readable env x ∧ e = ⟨x.variableName⟩ := by
  unfold Readable
  rw [read, number_eq_error_iff, and_comm]
  simp

theorem refused_iff : ofEnvironment env = .error e ↔ ∃ before x after,
    TimeSetting.all = before ++ x :: after ∧ (∀ y ∈ before, Readable env y) ∧ ¬ Readable env x ∧
      e = ⟨x.variableName⟩ := by
  rw [ofEnvironment_eq_error_iff, mapM_eq_error_iff]
  simp only [exists_read_iff, read_eq_error_iff]

theorem exists_ofEnvironment_iff : (∃ s, ofEnvironment env = .ok s) ↔ ∀ x, Readable env x := by
  constructor
  · rintro ⟨s, h⟩ x
    exact exists_read_iff.mp ⟨_, read_of_ofEnvironment h x⟩
  · intro h
    cases hs : ofEnvironment env with
    | ok s => exact ⟨s, rfl⟩
    | error e =>
      obtain ⟨_, x, _, -, -, hx, -⟩ := refused_iff.mp hs
      exact absurd (h x) hx

/-- A variable whose text is the same is read in the same way. -/
theorem read_congr (h : env'.get? x.variableName = env.get? x.variableName) :
    read env' x = read env x := by
  rw [read, read, number, number, h]

section Read

variable {s s' : Settings} (h : ofEnvironment env = .ok s)
include h

/-- A time whose variable is not set keeps its default. -/
theorem get_timeouts_of_unset (hx : env.get? x.variableName = none) :
    s.timeouts.get x = ({} : Timeouts).get x := by
  rw [Timeouts.get_timeouts, Timeouts.get_default]
  rcases number_eq_ok_iff.mp (read_of_ofEnvironment h x) with ⟨-, hn⟩ | ⟨text, htext, -⟩
  · rw [hn]
  · cases hx.symm.trans htext

/-- A time whose variable is set is the number that its text is a numeral of. -/
theorem get_timeouts_of_set {text : String} (hx : env.get? x.variableName = some text) :
    Numeral text (s.seconds x) := by
  rcases number_eq_ok_iff.mp (read_of_ofEnvironment h x) with ⟨hnone, -⟩ | ⟨text', htext', hn, -⟩
  · cases hx.symm.trans hnone
  · cases hx.symm.trans htext'
    exact hn

theorem seconds_congr (h' : ofEnvironment env' = .ok s')
    (hx : env'.get? x.variableName = env.get? x.variableName) : s'.seconds x = s.seconds x := by
  have hread := read_congr hx
  rw [read_of_ofEnvironment h, read_of_ofEnvironment h'] at hread
  exact Except.ok.inj hread

/-- **A variable that is set to a number changes its own time,** to this number, and no other. -/
theorem exists_ofEnvironment_insert (x : TimeSetting) (hn : n < 2 ^ 64) : ∃ s',
    ofEnvironment (env.insert x.variableName (render n)) = .ok s' ∧
      s'.timeouts = s.timeouts.set x (1000 * n) := by
  have hset : (env.insert x.variableName (render n)).get? x.variableName = some (render n) := by
    rw [Dictionary.get?_insert, if_pos rfl]
  have hother {y : TimeSetting} (hy : y ≠ x) :
      (env.insert x.variableName (render n)).get? y.variableName = env.get? y.variableName := by
    rw [Dictionary.get?_insert, if_neg]
    intro heq
    exact hy (TimeSetting.eq_of_variableName_eq heq).symm
  have hreadable (y : TimeSetting) : Readable (env.insert x.variableName (render n)) y := by
    intro text htext
    by_cases hy : y = x
    · subst hy
      rw [hset] at htext
      cases htext
      exact ⟨n, hn, numeral_render n⟩
    · rw [hother hy] at htext
      exact exists_ofEnvironment_iff.mp ⟨s, h⟩ y text htext
  obtain ⟨s', h'⟩ := exists_ofEnvironment_iff.mpr hreadable
  refine ⟨s', h', Timeouts.ext_get fun y => ?_⟩
  rw [Timeouts.get_set, Timeouts.get_timeouts]
  by_cases hy : x = y
  · subst hy
    rw [if_pos rfl, (get_timeouts_of_set h' hset).unique (numeral_render n)]
  · rw [if_neg hy, Timeouts.get_timeouts, seconds_congr h h' (hother (Ne.symm hy))]

/-- The times are the defaults exactly if no variable says otherwise. -/
theorem timeouts_eq_default_iff : s.timeouts = {} ↔ ∀ x text,
    env.get? x.variableName = some text → ∃ n, Numeral text n ∧ 1000 * n = ({} : Timeouts).get x := by
  constructor
  · intro heq x text htext
    refine ⟨s.seconds x, get_timeouts_of_set h htext, ?_⟩
    rw [← heq, Timeouts.get_timeouts]
  · intro hall
    refine Timeouts.ext_get fun x => ?_
    cases htext : env.get? x.variableName with
    | none => exact get_timeouts_of_unset h htext
    | some text =>
      obtain ⟨n, hn, heq⟩ := hall x text htext
      rw [Timeouts.get_timeouts, (get_timeouts_of_set h htext).unique hn, heq]

end Read

end Settings

/-! ### The main result -/

open Settings (Readable ofEnvironment)

/-- **The times follow an environment,** each of them its own variable. -/
structure TimesFollow (env : Dictionary String) : Prop where
  /-- The environment can be read exactly if the variable of each time can. -/
  readable_iff : (∃ s, ofEnvironment env = .ok s) ↔ ∀ x, Readable env x
  /-- Else the first variable that cannot be read is told, whatever the others hold; -/
  refused_iff : ∀ e, ofEnvironment env = .error e ↔ ∃ before x after,
    TimeSetting.all = before ++ x :: after ∧ (∀ y ∈ before, Readable env y) ∧ ¬ Readable env x ∧
      e = ⟨x.variableName⟩
  /-- they come in the order of the settings. -/
  order : (TimeSetting.all.map TimeSetting.variableName).Sublist Settings.variableNames
  /-- A time is its default if its variable is not set, -/
  unset : ∀ s x, ofEnvironment env = .ok s → env.get? x.variableName = none →
    s.timeouts.get x = ({} : Timeouts).get x
  /-- and else so many seconds as its variable says. -/
  told : ∀ s x text, ofEnvironment env = .ok s → env.get? x.variableName = some text →
    ∃ n, (∀ m, Numeral text m ↔ m = n) ∧ s.timeouts.get x = 1000 * n
  /-- No other variable counts. -/
  own : ∀ env' s s' x, ofEnvironment env = .ok s → ofEnvironment env' = .ok s' →
    env'.get? x.variableName = env.get? x.variableName → s'.timeouts.get x = s.timeouts.get x
  /-- Setting a variable to a number changes its time to so many seconds, and nothing else. -/
  set : ∀ s x n, ofEnvironment env = .ok s → n < 2 ^ 64 → ∃ s',
    ofEnvironment (env.insert x.variableName (render n)) = .ok s' ∧
      s'.timeouts = s.timeouts.set x (1000 * n)
  /-- The times are the defaults exactly if each variable that is set is a numeral of its default. -/
  default_iff : ∀ s, ofEnvironment env = .ok s → (s.timeouts = {} ↔ ∀ x text,
    env.get? x.variableName = some text → ∃ n, Numeral text n ∧ 1000 * n = ({} : Timeouts).get x)

/-- **Every environment is followed.** -/
theorem times_follow_environment (env : Dictionary String) : TimesFollow env where
  readable_iff := Settings.exists_ofEnvironment_iff
  refused_iff _ := Settings.refused_iff
  order := TimeSetting.sublist_variableNames
  unset s x h hx := Settings.get_timeouts_of_unset h hx
  told s x text h hx := by
    have hn := Settings.get_timeouts_of_set h hx
    refine ⟨s.seconds x, fun m => ⟨fun hm => hm.unique hn, ?_⟩, Timeouts.get_timeouts s x⟩
    rintro rfl
    exact hn
  own env' s s' x h h' hx := by
    rw [Timeouts.get_timeouts, Timeouts.get_timeouts, Settings.seconds_congr h h' hx]
  set s x n h hn := Settings.exists_ofEnvironment_insert h x hn
  default_iff s h := Settings.timeouts_eq_default_iff h

/-- The largest number fits, with a sign and leading zeros, and of two variables that cannot be read the
first is told. -/
example :
    let waitShort (entries : List (String × String)) :=
      (ofEnvironment (.ofList entries)).map (·.timeouts.waitShort)
    waitShort [("E2E_WAIT_SHORT_SECS", "+0018446744073709551615")] = .ok 18446744073709551615000 ∧
      waitShort [("E2E_WAIT_SHORT_SECS", "18446744073709551616"), ("E2E_WAIT_LONG_SECS", "")] =
        .error ⟨"E2E_WAIT_SHORT_SECS"⟩ := by
  decide +kernel

end ClusterWait
