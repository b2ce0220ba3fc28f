import ClusterWait.Text.Decimal

/-! # Binary floating point in exact arithmetic

A number with a point or an exponent in a document is held to the precision of a 64-bit binary
float, and shown by the fewest digits that read back as the same float. Both directions are
computed on natural numbers.

* `Binary64`: a finite non-negative float `mantissa * 2 ^ exponent`.
* `roundQuotient n d`: the float nearest to `n / d`, ties to the even mantissa.
* `powerOfTen k`: the float nearest to `10 ^ k`.
* `shortest`: the decimal `digits * 10 ^ exponent` with the fewest digits that lies in the interval
  of reals which round to the float, and of those the nearest. -/

namespace ClusterWait.Json

/-- **A finite non-negative binary float,** `mantissa * 2 ^ exponent`. -/
structure Binary64 where
  mantissa : Nat
  exponent : Int
deriving Repr, DecidableEq

namespace Binary64

/-- The least exponent of a float, that of the subnormal ones. -/
def minExponent : Int := -1074

/-- The largest integer not above the base-two logarithm of `n / d`, both positive. -/
def floorLog2 (n d : Nat) : Int :=
  let guess : Int := (n.log2 : Int) - (d.log2 : Int)
  let below : Bool :=
    if 0 ≤ guess then n < d * Nat.pow 2 guess.toNat else n * Nat.pow 2 (-guess).toNat < d
  if below then guess - 1 else guess

/-- The quotient rounded to the nearest integer, a half to the even one. -/
def roundHalfEven (n d : Nat) : Nat :=
  let q := n / d
  let r := n % d
  if 2 * r < d then q else if d < 2 * r then q + 1 else if q % 2 = 0 then q else q + 1

/-- **The float nearest to `n / d`,** a tie to the even mantissa; nothing when it is too large. -/
def roundQuotient (n d : Nat) : Option Binary64 :=
  if n = 0 then some ⟨0, minExponent⟩
  else
    let e := max (floorLog2 n d - 52) minExponent
    let m := if 0 ≤ e then roundHalfEven n (d * Nat.pow 2 e.toNat) else roundHalfEven (n * Nat.pow 2 (-e).toNat) d
    let f : Binary64 := if m = Nat.pow 2 53 then ⟨Nat.pow 2 52, e + 1⟩ else ⟨m, e⟩
    if 971 < f.exponent then none else some f

def toQuotient (f : Binary64) : Nat × Nat :=
  if 0 ≤ f.exponent then (f.mantissa * Nat.pow 2 f.exponent.toNat, 1)
  else (f.mantissa, Nat.pow 2 (-f.exponent).toNat)

/-- The product, rounded. -/
def mul (a b : Binary64) : Option Binary64 :=
  roundQuotient (a.toQuotient.1 * b.toQuotient.1) (a.toQuotient.2 * b.toQuotient.2)

/-- The quotient by a positive float, rounded. -/
def div (a b : Binary64) : Option Binary64 :=
  roundQuotient (a.toQuotient.1 * b.toQuotient.2) (a.toQuotient.2 * b.toQuotient.1)

def powerOfTen (k : Nat) : Option Binary64 := roundQuotient (Nat.pow 10 k) 1

/-- `significand / 10 ^ k`, one rounding for the significand and one for each division; the power
of ten is taken at most 308 at a time. -/
def scaleDown (f : Binary64) (k : Nat) : Nat → Option Binary64
  | 0 => some f
  | rounds + 1 =>
    if f.mantissa = 0 then some f
    else if k ≤ 308 then (powerOfTen k).bind f.div
    else ((powerOfTen 308).bind f.div).bind fun g => scaleDown g (k - 308) rounds

/-- **The float of a significand and a power of ten.** The significand is rounded first and the
product or quotient again; nothing when the result is too large. -/
def ofScientific (significand : Nat) (exponent : Int) : Option Binary64 :=
  (roundQuotient significand 1).bind fun f =>
    if f.mantissa = 0 then some f
    else if 0 ≤ exponent then
      if 308 < exponent then none else (powerOfTen exponent.toNat).bind f.mul
    else scaleDown f (-exponent).toNat 4

/-- Four times the float's mantissa, and the ends of the interval that rounds to it in the same
unit; the gap below a power of two is half as wide. -/
def interval (f : Binary64) : Nat × Nat × Nat :=
  let below := if f.mantissa = Nat.pow 2 52 ∧ minExponent < f.exponent then 1 else 2
  (4 * f.mantissa - below, 4 * f.mantissa, 4 * f.mantissa + 2)

/-- The decimal point's place: the least `p` with `n / d < 10 ^ p`, looked for from a first guess
upwards. -/
def magnitude (n d : Nat) (p : Int) : Nat → Int
  | 0 => p
  | steps + 1 =>
    let small : Bool := if 0 ≤ p then n < d * Nat.pow 10 p.toNat else n * Nat.pow 10 (-p).toNat < d
    if small then p else magnitude n d (p + 1) steps

/-- The decimal with the grid `10 ^ p` in the interval that is nearest to the float, if any. -/
def onGrid (f : Binary64) (p : Int) : Option Nat :=
  let (lo, v, hi) := f.interval
  let unit : Int := f.exponent - 2
  let scale (x : Nat) : Nat × Nat :=
    let num := if 0 ≤ unit then x * Nat.pow 2 unit.toNat else x
    let den := if 0 ≤ unit then 1 else Nat.pow 2 (-unit).toNat
    if 0 ≤ p then (num, den * Nat.pow 10 p.toNat) else (num * Nat.pow 10 (-p).toNat, den)
  let (nv, d) := scale v
  let nlo := (scale lo).1
  let nhi := (scale hi).1
  let even : Bool := f.mantissa % 2 = 0
  let inside (k : Nat) : Bool :=
    if even then nlo ≤ k * d && k * d ≤ nhi else nlo < k * d && k * d < nhi
  let floor := nv / d
  match inside floor, inside (floor + 1) with
  | true, true => some (roundHalfEven nv d)
  | true, false => some floor
  | false, true => some (floor + 1)
  | false, false => none

/-- The first grid that holds a decimal of the interval, from the coarsest on. -/
def search (f : Binary64) (p : Int) : Nat → Nat × Int
  | 0 => (f.mantissa, f.exponent)
  | steps + 1 => match onGrid f p with
    | some k => (k, p)
    | none => search f (p - 1) steps

def trimZeros (digits : Nat) (exponent : Int) : Nat → Nat × Int
  | 0 => (digits, exponent)
  | steps + 1 =>
    if digits ≠ 0 ∧ digits % 10 = 0 then trimZeros (digits / 10) (exponent + 1) steps
    else (digits, exponent)

/-- **The shortest decimal** `digits * 10 ^ exponent` that reads back as the float. -/
def shortest (f : Binary64) : Nat × Int :=
  if f.mantissa = 0 then (0, 0)
  else
    let (n, d) := f.toQuotient
    let guess : Int := (floorLog2 n d * 30103) / 100000 - 1
    let place := magnitude n d guess 4
    let (k, p) := search f (place - 1) 20
    trimZeros k p 20

end Binary64

end ClusterWait.Json
