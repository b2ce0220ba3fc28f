import ClusterWait.Json.Basic
import ClusterWait.Text.Decimal

/-! # Writing a document

Documents are written without white space. A float is written by its shortest decimal: with a
point, at least one digit on either side of it, while the point stands at most sixteen places to the
right and five to the left of the first digit, and with a signed exponent outside that range.

* `Json.render`: the text of a document.
* `Number.render`: the text of a number, as documents and messages show it. -/

namespace ClusterWait.Json

def unit4 (n : Nat) : List Char :=
  let digit (d : Nat) : Char := if d < 10 then Char.ofNat (48 + d) else Char.ofNat (87 + d)
  [digit (n / 4096 % 16), digit (n / 256 % 16), digit (n / 16 % 16), digit (n % 16)]

def writeChar (c : Char) : List Char :=
  if c = '"' then ['\\', '"']
  else if c = '\\' then ['\\', '\\']
  else if c = '\n' then ['\\', 'n']
  else if c = '\r' then ['\\', 'r']
  else if c = '\t' then ['\\', 't']
  else if c.toNat = 8 then ['\\', 'b']
  else if c.toNat = 12 then ['\\', 'f']
  else if c.toNat < 0x20 then ['\\', 'u'] ++ unit4 c.toNat
  else [c]

/-- The written form of a text, between quotes. -/
def writeText (s : String) : String :=
  String.ofList ('"' :: s.toList.flatMap writeChar ++ ['"'])

def zeros (n : Int) : List Char := List.replicate n.toNat '0'

namespace Number

/-- Digits with a point after the first `place` of them, zeros filled in on either side. -/
def pointed (ds : List Char) (place : Int) : List Char :=
  if place ≤ 0 then ['0', '.'] ++ zeros (-place) ++ ds
  else if (ds.length : Int) ≤ place then ds ++ zeros (place - ds.length) ++ ['.', '0']
  else ds.take place.toNat ++ ['.'] ++ ds.drop place.toNat

def writeInt (n : Int) : List Char :=
  if n < 0 then '-' :: Text.Decimal.digits n.natAbs else Text.Decimal.digits n.natAbs

def sign (negative : Bool) : List Char := if negative then ['-'] else []

def writeExponent (n : Int) : List Char := if n < 0 then writeInt n else '+' :: writeInt n

/-- **A number of a document.** -/
def render : Number → String
  | .int n => String.ofList (writeInt n)
  | .float negative digits exponent =>
    let ds := Text.Decimal.digits digits
    let place : Int := ds.length + exponent
    let body :=
      if digits = 0 then ['0', '.', '0']
      else if -5 < place ∧ place ≤ 16 then pointed ds place
      else
        let mantissa := match ds with
          | [] => []
          | [d] => [d]
          | d :: more => d :: '.' :: more
        mantissa ++ ['e'] ++ writeExponent (place - 1)
    String.ofList (sign negative ++ body)

end Number

mutual

/-- **The text of a document.** What stands for nothing has no text of its own. -/
def render : Json → String
  | .null | .unfit => "null"
  | .bool true => "true"
  | .bool false => "false"
  | .num n => n.render
  | .str s => writeText s
  | .arr items => "[" ++ renderItems items ++ "]"
  | .obj fields => "\x7b" ++ renderFields fields ++ "\x7d"

def renderItems : List Json → String
  | [] => ""
  | [v] => render v
  | v :: rest => render v ++ "," ++ renderItems rest

def renderFields : List (String × Json) → String
  | [] => ""
  | [(k, v)] => writeText k ++ ":" ++ render v
  | (k, v) :: rest => writeText k ++ ":" ++ render v ++ "," ++ renderFields rest

end

end ClusterWait.Json
