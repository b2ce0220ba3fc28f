import ClusterWait.Text.Decimal

/-! # Points in time

A timestamp is held in its calendar form in universal time, so that what is written in universal
time is read back digit by digit. Years are counted through zero, and the calendar of today is taken
to hold at all times.

* `Timestamp.notBefore`: the order of time.
* `Timestamp.behind`: the timestamp some seconds before, by which an offset is taken away.
* `Timestamp.render`: the calendar form with whole seconds; a fraction is cut. -/

namespace ClusterWait

/-- **A point in time,** in its calendar form in universal time. -/
structure Timestamp where
  year : Int
  month : Nat
  day : Nat
  hour : Nat
  minute : Nat
  second : Nat
  nanosecond : Nat
deriving Repr, DecidableEq

namespace Timestamp

/-! ### The calendar -/

/-- The year has a 29th of February. -/
def leap (year : Int) : Bool := year % 4 = 0 && (year % 100 ≠ 0 || year % 400 = 0)

def daysIn (year : Int) (month : Nat) : Nat :=
  if month = 2 then (if leap year then 29 else 28)
  else if month = 4 ∨ month = 6 ∨ month = 9 ∨ month = 11 then 30
  else 31

/-- The components lie in their ranges. -/
def isValid (t : Timestamp) : Bool :=
  1 ≤ t.month && t.month ≤ 12 && 1 ≤ t.day && t.day ≤ daysIn t.year t.month && t.hour < 24
    && t.minute < 60 && t.second < 60 && t.nanosecond < 1000000000

def nextDay (t : Timestamp) : Timestamp :=
  if t.day < daysIn t.year t.month then { t with day := t.day + 1 }
  else if t.month < 12 then { t with month := t.month + 1, day := 1 }
  else { t with year := t.year + 1, month := 1, day := 1 }

def previousDay (t : Timestamp) : Timestamp :=
  if 1 < t.day then { t with day := t.day - 1 }
  else if 1 < t.month then { t with month := t.month - 1, day := daysIn t.year (t.month - 1) }
  else { t with year := t.year - 1, month := 12, day := 31 }

/-- The timestamp some days later. -/
def daysAfter : Nat → Timestamp → Timestamp
  | 0, t => t
  | n + 1, t => daysAfter n t.nextDay

/-- The timestamp some days earlier. -/
def daysBefore : Nat → Timestamp → Timestamp
  | 0, t => t
  | n + 1, t => daysBefore n t.previousDay

/-- The seconds since midnight. -/
def clock (t : Timestamp) : Nat := t.hour * 3600 + t.minute * 60 + t.second

/-- The timestamp at another time of its day. -/
def atClock (t : Timestamp) (clock : Nat) : Timestamp :=
  { t with hour := clock / 3600, minute := clock / 60 % 60, second := clock % 60 }

/-- **The timestamp some seconds before,** or after when there are less than none. -/
def behind (t : Timestamp) (seconds : Int) : Timestamp :=
  let clock : Int := t.clock - seconds
  let days := clock / 86400
  (if days < 0 then daysBefore days.natAbs t else daysAfter days.toNat t).atClock (clock % 86400).toNat

/-! ### The order of time -/

/-- The components, most significant first. -/
def components (t : Timestamp) : List Int :=
  [t.year, t.month, t.day, t.hour, t.minute, t.second, t.nanosecond]

/-- The first list is not below the other in the order of dictionaries. -/
def notBelow : List Int → List Int → Bool
  | a :: as, b :: bs => if a = b then notBelow as bs else b < a
  | _, _ => true

/-- **The timestamp is at or after the other.** -/
def notBefore (t since : Timestamp) : Bool := notBelow t.components since.components

def truncated (t : Timestamp) : Timestamp := { t with nanosecond := 0 }

/-- The first instant that can be told: at any earlier one some place on earth still writes a year
before the year -9999. -/
def earliest : Timestamp := ⟨-9999, 1, 2, 1, 59, 59, 0⟩

/-- The last instant that can be told: at any later one some place on earth already writes a year of
five digits. -/
def latest : Timestamp := ⟨9999, 12, 30, 22, 0, 0, 999999999⟩

/-- The timestamp can be told. -/
def inRange (t : Timestamp) : Bool := t.notBefore earliest && latest.notBefore t

/-! ### Writing -/

def padded (width n : Nat) : List Char :=
  let ds := Text.Decimal.digits n
  List.replicate (width - ds.length) '0' ++ ds

/-- A year with leading zeros to four characters, of which the sign is one. -/
def yearText (year : Int) : List Char :=
  if year < 0 then '-' :: padded 3 year.natAbs else padded 4 year.natAbs

/-- **The written form of a timestamp,** in universal time and whole seconds. -/
def render (t : Timestamp) : String :=
  String.ofList (yearText t.year ++ '-' :: padded 2 t.month ++ '-' :: padded 2 t.day ++
    'T' :: padded 2 t.hour ++ ':' :: padded 2 t.minute ++ ':' :: padded 2 t.second ++ ['Z'])

end Timestamp

end ClusterWait
