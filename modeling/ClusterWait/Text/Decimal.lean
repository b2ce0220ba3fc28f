/-! # Decimal numerals of unsigned numbers

Numbers in the environment and ports in addresses are read by one rule: an optional plus sign,
then at least one ASCII digit, leading zeros allowed, and a value below a bound.

* `digits`: the shortest numeral of a number.
* `read? bound`: the value of a numeral, refused at the bound and above. -/

namespace ClusterWait.Text.Decimal

def digit (n : Nat) : Char := Char.ofNat (48 + n)

def value? (c : Char) : Option Nat :=
  if 48 ≤ c.toNat ∧ c.toNat ≤ 57 then some (c.toNat - 48) else none

/-- **The shortest numeral of a number.** -/
def digits (n : Nat) : List Char :=
  if n < 10 then [digit n] else digits (n / 10) ++ [digit (n % 10)]
termination_by n
decreasing_by omega

def render (n : Nat) : String := String.ofList (digits n)

/-- The number whose leading digits are worth `n` and whose further digits follow. -/
def readFrom (n : Nat) : List Char → Option Nat
  | [] => some n
  | c :: rest => (value? c).bind fun d => readFrom (10 * n + d) rest

/-- The value of a numeral without sign; the empty one has none. -/
def unsigned? : List Char → Option Nat
  | [] => none
  | cs => readFrom 0 cs

/-- The numeral without its sign, if it has one. -/
def dropPlus : List Char → List Char
  | '+' :: rest => rest
  | cs => cs

/-- **The value of a numeral** with an optional plus sign, when it is below the bound. -/
def read? (bound : Nat) (s : String) : Option Nat :=
  (unsigned? (dropPlus s.toList)).filter (· < bound)

end ClusterWait.Text.Decimal
