import ClusterWait.Json.Binary64
import ClusterWait.Json.Fragment

/-! # Reading a document

A document is one value with white space around it. Arrays and objects nest at most 127 deep. A
number without point and exponent that fits 64 bits is an integer; every other number is rounded to
a float by `Binary64.ofScientific`, of whose significand only the leading digits below `2 ^ 64`
count. What is written correctly and stands for nothing does not end the reading: it is unfit, and
so is the container whose key it is.

* `Json.draft`: what a text says, or why and with which fragment reading stopped.
* `Json.parse?`: the document of a text, if the text is one. -/

namespace ClusterWait.Json

/-- What a reading step returns: a value and the rest of the text, or why it stops. -/
abbrev Reader (α : Type) := List Char → Except Stop (α × List Char)

def skipSpace : List Char → List Char
  | c :: rest => if c = ' ' ∨ c = '\n' ∨ c = '\t' ∨ c = '\r' then skipSpace rest else c :: rest
  | [] => []

/-! ### Texts -/

def hexValue? (c : Char) : Option Nat :=
  let n := c.toNat
  if 48 ≤ n ∧ n ≤ 57 then some (n - 48)
  else if 97 ≤ n ∧ n ≤ 102 then some (n - 87)
  else if 65 ≤ n ∧ n ≤ 70 then some (n - 55)
  else none

def hex4? (a b c d : Char) : Option Nat := do
  let a ← hexValue? a
  let b ← hexValue? b
  let c ← hexValue? c
  let d ← hexValue? d
  pure (((a * 16 + b) * 16 + c) * 16 + d)

def simpleEscape? (c : Char) : Option Char :=
  if c = '"' then some '"'
  else if c = '\\' then some '\\'
  else if c = '/' then some '/'
  else if c = 'b' then some (Char.ofNat 8)
  else if c = 'f' then some (Char.ofNat 12)
  else if c = 'n' then some '\n'
  else if c = 'r' then some '\r'
  else if c = 't' then some '\t'
  else none

/-- What a text is written with: a character, or a unit by its number. -/
inductive Mark where
  | char (c : Char)
  | unit (n : Nat)
deriving Repr, DecidableEq

/-- The unit is the first of a pair. -/
def isHighUnit (n : Nat) : Bool := 0xD800 ≤ n && n ≤ 0xDBFF

/-- The unit is the second of a pair. -/
def isLowUnit (n : Nat) : Bool := 0xDC00 ≤ n && n ≤ 0xDFFF

/-- The characters of marks, the last mark first, before the given ones; nothing when a unit of a pair
lacks the other. -/
def joinMarks (after : List Char) : List Mark → Option (List Char)
  | [] => some after
  | .char c :: rest => joinMarks (c :: after) rest
  | .unit n :: rest =>
    if isLowUnit n then
      match rest with
      | .unit m :: rest =>
        if isHighUnit m then
          joinMarks (Char.ofNat (0x10000 + (m - 0xD800) * 0x400 + (n - 0xDC00)) :: after) rest
        else none
      | _ => none
    else if isHighUnit n then none
    else joinMarks (Char.ofNat n :: after) rest

/-- The fragment of a text without its closing quote, the last mark first. The second unit of a pair
may still come. -/
def textFragment (read : List Mark) : Fragment :=
  let complete := match read with
    | .unit n :: rest => if isHighUnit n then rest else read
    | _ => read
  if (joinMarks [] complete).isSome then .text else .unfit false

/-- The characters of a text up to its closing quote, the last mark read first; nothing when the text
is unfit. -/
def readText (read : List Mark) : Reader (Option String)
  | [] => .error (.ended (textFragment read))
  | '"' :: rest => .ok ((joinMarks [] read).map String.ofList, rest)
  | ['\\'] => .error (.ended (textFragment read))
  | '\\' :: 'u' :: a :: b :: c :: d :: rest => match hex4? a b c d with
    | some n => readText (.unit n :: read) rest
    | none => .error .malformed
  | '\\' :: 'u' :: rest =>
    .error (if (String.ofList rest).utf8ByteSize < 4 then .ended (textFragment read) else .malformed)
  | '\\' :: e :: rest => match simpleEscape? e with
    | some c => readText (.char c :: read) rest
    | none => .error .malformed
  | c :: rest => if c.toNat < 0x20 then .error .malformed else readText (.char c :: read) rest

/-! ### Numbers -/

def takeDigits (cs : List Char) : List Nat × List Char :=
  (cs.takeWhile (Text.Decimal.value? · |>.isSome) |>.filterMap Text.Decimal.value?,
   cs.dropWhile (Text.Decimal.value? · |>.isSome))

/-- Adds digits to a significand until it would reach `2 ^ 64`, and counts the digits left out. -/
def accumulate (significand : Nat) : List Nat → Nat × Nat
  | [] => (significand, 0)
  | d :: ds =>
    if 10 * significand + d < Nat.pow 2 64 then accumulate (10 * significand + d) ds
    else (significand, ds.length + 1)

/-- A float by its shortest decimal, unfit when it is too large. -/
def ofScientific (negative : Bool) (significand : Nat) (exponent : Int) : Json :=
  match Binary64.ofScientific significand exponent with
  | none => .unfit
  | some f => .num (.float negative f.shortest.1 f.shortest.2)

/-- Reading stops where a digit is missing: the text ends there, or something else stands there. -/
def missingDigit (cs : List Char) : Stop := if cs.isEmpty then .ended .number else .malformed

def readDigits : Reader (List Nat) := fun cs =>
  let (ds, rest) := takeDigits cs
  if ds.isEmpty then .error (missingDigit rest) else .ok (ds, rest)

def readExponent : Reader Int := fun cs => do
  let (negative, cs) := match cs with
    | '+' :: rest => (false, rest)
    | '-' :: rest => (true, rest)
    | _ => (false, cs)
  let (ds, rest) ← readDigits cs
  let n : Nat := ds.foldl (fun n d => 10 * n + d) 0
  pure (if negative then -(n : Int) else n, rest)

/-- The exponent, if one is written. -/
def readScale : Reader (Option Int)
  | 'e' :: rest => (readExponent rest).map fun p => (some p.1, p.2)
  | 'E' :: rest => (readExponent rest).map fun p => (some p.1, p.2)
  | rest => .ok (none, rest)

/-- The digits after the point, if there is one. -/
def readFraction : Reader (Option (List Nat))
  | '.' :: rest => (readDigits rest).map fun p => (some p.1, p.2)
  | rest => .ok (none, rest)

/-- A number of digits only: an integer if it fits, else a float. -/
def ofDigits (negative : Bool) (significand dropped : Nat) : Json :=
  if dropped = 0 ∧ (!negative ∨ (significand ≠ 0 ∧ significand ≤ Nat.pow 2 63)) then
    .num (.int (if negative then -(significand : Int) else significand))
  else ofScientific negative significand dropped

def readUnsigned (negative : Bool) : Reader Json := fun cs => do
  let (whole, rest) ← readDigits cs
  if whole.length ≠ 1 ∧ whole.head? = some 0 then throw .malformed
  let (significand, dropped) := accumulate 0 whole
  let (fraction, rest) ← readFraction rest
  let (scale, rest) ← readScale rest
  match fraction, scale with
  | none, none => pure (ofDigits negative significand dropped, rest)
  | _, _ =>
    let digits := fraction.getD []
    let (significand, unused) := accumulate significand digits
    let places : Int := (digits.length - unused : Nat)
    pure (ofScientific negative significand ((dropped : Int) - places + scale.getD 0), rest)

def readNumber : Reader Json
  | '-' :: rest => readUnsigned true rest
  | cs => readUnsigned false cs

def readWord (word : List Char) (value : Json) : Reader Json := fun cs =>
  if word.isPrefixOf cs then .ok (value, cs.drop word.length)
  else .error (if cs.isPrefixOf word then .ended (.word value) else .malformed)

/-! ### Values -/

/-- A container in its place, or the reason why it could not be read; it is unfit where nothing may
nest any more, and where a key of its is unfit. -/
def fitted (fit : Bool) : Except Stop (Json × List Char) → Except Stop (Json × List Char)
  | .ok (value, rest) => .ok (if fit then value else .unfit, rest)
  | .error (.ended f) => .error (.ended (if fit then f else .unfit f.inNumber))
  | .error .malformed => .error .malformed

mutual

/-- A value that may nest `depth` further levels. -/
def readValue : Nat → Nat → Reader Json
  | 0, _, _ => .error .malformed
  | fuel + 1, depth, cs => match skipSpace cs with
    | [] => .error (.ended .absent)
    | '"' :: rest => (readText [] rest).map fun p => ((p.1.map Json.str).getD .unfit, p.2)
    | '[' :: rest => fitted (depth != 0) (match skipSpace rest with
      | [] => .error (.ended (.arr [] .between))
      | ']' :: rest => .ok (.arr [], rest)
      | rest => readItems fuel (depth - 1) [] rest)
    | '\x7b' :: rest => fitted (depth != 0) (match skipSpace rest with
      | [] => .error (.ended (.obj [] none .between))
      | '\x7d' :: rest => .ok (.obj [], rest)
      | rest => readFields fuel (depth - 1) true [] rest)
    | 'n' :: rest => readWord ['u', 'l', 'l'] .null rest
    | 't' :: rest => readWord ['r', 'u', 'e'] (.bool true) rest
    | 'f' :: rest => readWord ['a', 'l', 's', 'e'] (.bool false) rest
    | cs => readNumber cs

/-- The items of an array up to its closing bracket, the last read first. -/
def readItems : Nat → Nat → List Json → Reader Json
  | 0, _, _, _ => .error .malformed
  | fuel + 1, depth, read, cs => match readValue fuel depth cs with
    | .error (.ended f) => .error (.ended (.arr read.reverse f))
    | .error .malformed => .error .malformed
    | .ok (v, rest) => match skipSpace rest with
      | ',' :: rest => readItems fuel depth (v :: read) rest
      | ']' :: rest => .ok (.arr (v :: read).reverse, rest)
      | [] => .error (.ended (.arr (v :: read).reverse .between))
      | _ => .error .malformed

/-- The members of an object up to its closing brace, the last read first. -/
def readFields : Nat → Nat → (fit : Bool) → List (String × Json) → Reader Json
  | 0, _, _, _, _ => .error .malformed
  | fuel + 1, depth, fit, read, cs => match skipSpace cs with
    | [] => fitted fit (.error (.ended (.obj read.reverse none .absent)))
    | '"' :: rest => match readText [] rest with
      | .error (.ended f) => fitted (fit && f.isSound) (.error (.ended (.obj read.reverse none f)))
      | .error .malformed => .error .malformed
      | .ok (key?, rest) =>
        let fit := fit && key?.isSome
        let key := key?.getD ""
        match skipSpace rest with
        | [] => fitted fit (.error (.ended (.obj read.reverse (some key) .absent)))
        | ':' :: rest => match readValue fuel depth rest with
          | .error (.ended f) => fitted fit (.error (.ended (.obj read.reverse (some key) f)))
          | .error .malformed => .error .malformed
          | .ok (v, rest) => match skipSpace rest with
            | ',' :: rest => readFields fuel depth fit ((key, v) :: read) rest
            | '\x7d' :: rest => fitted fit (.ok (.obj ((key, v) :: read).reverse, rest))
            | [] => fitted fit (.error (.ended (.obj ((key, v) :: read).reverse none .between)))
            | _ => .error .malformed
        | _ => .error .malformed
    | _ => .error .malformed

end

def maxDepth : Nat := 127

/-- **What a text says,** or why it says nothing. -/
def draft (text : String) : Except Stop Json :=
  let cs := text.toList
  match readValue (2 * cs.length + 2) maxDepth cs with
  | .ok (v, rest) => if (skipSpace rest).isEmpty then .ok v else .error .malformed
  | .error stop => .error stop

/-- **The document of a text,** if the text is one. -/
def parse? (text : String) : Option Json := (draft text).toOption.bind settled?

end ClusterWait.Json
