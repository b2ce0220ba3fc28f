import ClusterWait.Resource.Timestamp

/-! # Reading a timestamp

A timestamp is written as a date, a time of the day, an offset from universal time and any number of
annotations in brackets.

* The date has a year of four digits, or of six with a sign, a month and a day; either all three are
  separated by hyphens or none are.
* The time follows the letter T or a blank. It has an hour, perhaps a minute and perhaps a second;
  either all are separated by colons or none are. A leap second is taken for the second before it. A
  fraction of a second has a point or a comma and at most nine digits.
* The offset is the letter Z, or a sign and an hour with perhaps a minute and a second. A fraction of
  its seconds is rounded, a half up.
* The first annotation may name a time zone, by an offset or by its name; the others are pairs of a
  key and values. They are read and left out of account, but a pair that is marked as one that has to
  be understood is refused.

`Timestamp.read?` is the timestamp that a text writes. -/

namespace ClusterWait.Timestamp

/-- What a step reads from the beginning of a text, with the rest. -/
abbrev Step (α : Type) := List Char → Option (α × List Char)

def digits? (count : Nat) : Step Nat := fun cs =>
  if count ≤ cs.length then
    ((cs.take count).mapM Text.Decimal.value?).map fun ds =>
      (ds.foldl (fun n d => 10 * n + d) 0, cs.drop count)
  else none

def below? (bound : Nat) : Step Nat := fun cs => (digits? 2 cs).filter (·.1 < bound)

def oneOf? (allowed : List Char) : List Char → Option (List Char)
  | c :: rest => if allowed.contains c then some rest else none
  | [] => none

def begins (c : Char) (cs : List Char) : Bool := cs.head? == some c

/-- The fraction of a second in nanoseconds, none when there is no point and no comma. -/
def fraction? : Step Nat := fun cs =>
  match oneOf? ['.', ','] cs with
  | none => some (0, cs)
  | some rest =>
    let ds := (rest.take 9).takeWhile fun c => (Text.Decimal.value? c).isSome
    if ds.isEmpty then none
    else (digits? 9 (ds ++ List.replicate (9 - ds.length) '0')).map fun p =>
      (p.1, rest.drop ds.length)

/-- The text where the next component of a time begins, if there is one: after a colon, or at two
digits where colons are left out. -/
def component? (colons : Bool) (cs : List Char) : Option (List Char) :=
  if colons then oneOf? [':'] cs else (digits? 2 cs).map fun _ => cs

/-! ### Date and time -/

def year? : Step Int := fun cs =>
  match cs with
  | '+' :: rest => (digits? 6 rest).map fun p => ((p.1 : Int), p.2)
  | '-' :: rest => ((digits? 6 rest).filter (·.1 ≠ 0)).map fun p => (-(p.1 : Int), p.2)
  | _ => (digits? 4 cs).map fun p => ((p.1 : Int), p.2)

/-- The date, at midnight. -/
def date? : Step Timestamp := fun cs => do
  let (year, cs) ← year? cs
  let hyphens := begins '-' cs
  let separator (cs : List Char) := if hyphens then oneOf? ['-'] cs else some cs
  let (month, cs) ← digits? 2 (← separator cs)
  let (day, cs) ← digits? 2 (← separator cs)
  let t : Timestamp := ⟨year, month, day, 0, 0, 0, 0⟩
  if year.natAbs ≤ 9999 && t.isValid then some (t, cs) else none

def time? (date : Timestamp) : Step Timestamp := fun cs => do
  let (hour, cs) ← below? 24 cs
  let colons := begins ':' cs
  match component? colons cs with
  | none => pure ({ date with hour }, cs)
  | some cs =>
    let (minute, cs) ← below? 60 cs
    match component? colons cs with
    | none => pure ({ date with hour, minute }, cs)
    | some cs =>
      let (second, cs) ← below? 61 cs
      let (nanosecond, cs) ← fraction? cs
      pure ({ date with hour, minute, second := min second 59, nanosecond }, cs)

/-! ### Offsets -/

def maxOffset : Nat := 93599

def offsetSize? : Step Nat := fun cs => do
  let (hour, cs) ← below? 26 cs
  let colons := begins ':' cs
  match component? colons cs with
  | none => pure (hour * 3600, cs)
  | some cs =>
    let (minute, cs) ← below? 60 cs
    match component? colons cs with
    | none => pure (hour * 3600 + minute * 60, cs)
    | some cs =>
      let (second, cs) ← below? 60 cs
      let (nanosecond, cs) ← fraction? cs
      let size := hour * 3600 + minute * 60 + second + (if 500000000 ≤ nanosecond then 1 else 0)
      if size ≤ maxOffset then pure (size, cs) else none

def offset? : Step Int := fun cs =>
  match cs with
  | 'Z' :: rest | 'z' :: rest => some (0, rest)
  | '+' :: rest => (offsetSize? rest).map fun p => ((p.1 : Int), p.2)
  | '-' :: rest => (offsetSize? rest).map fun p => (-(p.1 : Int), p.2)
  | _ => none

/-! ### Annotations -/

def isLower (c : Char) : Bool := 97 ≤ c.toNat && c.toNat ≤ 122

def isLetter (c : Char) : Bool := isLower c || (65 ≤ c.toNat && c.toNat ≤ 90)

def isDigit (c : Char) : Bool := (Text.Decimal.value? c).isSome

/-- A word by what its first character and the others may be. -/
def word? (first others : Char → Bool) : List Char → Option (List Char)
  | c :: rest => if first c then some (rest.dropWhile others) else none
  | [] => none

/-- A part of the name of a time zone. -/
def zonePart? : List Char → Option (List Char) :=
  word? (fun c => isLetter c || c == '_' || c == '.')
    fun c => isLetter c || isDigit c || ['_', '.', '+', '-'].contains c

/-- More words of a list, each after a separator. -/
def more? (separator : Char) (next : List Char → Option (List Char)) :
    Nat → List Char → Option (List Char)
  | 0, _ => none
  | fuel + 1, cs =>
    if begins separator cs then (next cs.tail).bind (more? separator next fuel) else some cs

def words? (separator : Char) (next : List Char → Option (List Char)) (cs : List Char) :
    Option (List Char) :=
  (next cs).bind fun rest => more? separator next (rest.length + 1) rest

def zoneOffset? (cs : List Char) : Option (List Char) := do
  let rest ← oneOf? ['+', '-'] cs
  let (_, rest) ← below? 26 rest
  match component? (begins ':' rest) rest with
  | none => pure rest
  | some rest => (below? 60 rest).map (·.2)

/-- A time zone, by an offset or by its name. -/
def zone? (cs : List Char) : Option (List Char) :=
  if begins '+' cs || begins '-' cs then zoneOffset? cs else words? '/' zonePart? cs

def pair? (cs : List Char) : Option (List Char) := do
  let rest ← word? (fun c => isLower c || c == '_')
    (fun c => isLower c || isDigit c || c == '_' || c == '-') cs
  let rest ← oneOf? ['='] rest
  let value? := word? (fun c => isLetter c || isDigit c) fun c => isLetter c || isDigit c
  words? '-' value? rest

/-- The text after the mark of an annotation that has to be understood, if it has the mark. -/
def unmarked (cs : List Char) : List Char := if begins '!' cs then cs.tail else cs

def annotation? (content : List Char → Option (List Char)) (cs : List Char) : Option (List Char) := do
  oneOf? [']'] (← content (← oneOf? ['['] cs))

def pairsToEnd : Nat → List Char → Bool
  | _, [] => true
  | 0, _ => false
  | fuel + 1, cs => (annotation? pair? cs).any (pairsToEnd fuel)

def isAnnotated (cs : List Char) : Bool :=
  match annotation? (fun cs => zone? (unmarked cs)) cs with
  | some rest => pairsToEnd (rest.length + 1) rest
  | none => pairsToEnd (cs.length + 1) cs

/-! ### The whole -/

/-- **The timestamp that a text writes.** -/
def read? (s : String) : Option Timestamp := do
  let (date, cs) ← date? s.toList
  let cs ← oneOf? ['T', 't', ' '] cs
  let (t, cs) ← time? date cs
  let (offset, cs) ← offset? cs
  if isAnnotated cs then (some (t.behind offset)).filter (·.inRange) else none

end ClusterWait.Timestamp
