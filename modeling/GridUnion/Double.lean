import GridUnion.Number

/-!
# Doubles

A `Double` is a binary floating point number: not-a-number, an infinity, or a signed whole
number of the smallest positive double, `2 ^ -1074`.  Every operation is computed exactly on
natural numbers and rounded once, to nearest with ties to even.  A number of single precision
is the double of the same value, rounded to the coarser `Precision.single`.
-/

namespace GridUnion

/-- A floating point number; `finite s u` is `u` units of `2 ^ -1074` with sign `s`. -/
inductive Double where
  | nan
  | infinite (negative : Bool)
  | finite (negative : Bool) (units : Nat)
  deriving DecidableEq, Repr, Inhabited

/-- The grid on which a binary format keeps its numbers, in units of `2 ^ -1074`. -/
structure Precision where
  /-- The number of significant bits. -/
  bits : Nat
  /-- The smallest positive number is `2 ^ lowest` units. -/
  lowest : Nat
  /-- A number that rounds to `2 ^ highest` units or more is infinite. -/
  highest : Nat
  deriving DecidableEq, Repr

/-- The grid of the 64 bit format. -/
def Precision.double : Precision := ⟨53, 0, 2098⟩

/-- The grid of the 32 bit format. -/
def Precision.single : Precision := ⟨24, 925, 1202⟩

/-- The quotient rounded to the nearest natural number, a half going to the even one. -/
def roundHalfEven (num den : Nat) : Nat :=
  let q := num / den
  let r := num % den
  if 2 * r < den then q
  else if den < 2 * r then q + 1
  else q + q % 2

namespace Precision

/-- The number of bits of a natural number. -/
def bitLength (n : Nat) : Nat := if n = 0 then 0 else n.log2 + 1

/-- The grid spacing next to `units` is `2` to this power. -/
def spacing (p : Precision) (units : Nat) : Nat :=
  max p.lowest (bitLength units - p.bits)

/-- The grid point nearest to `num / den` units. -/
def roundUnits (p : Precision) (num den : Nat) : Nat :=
  let step := 2 ^ p.spacing (num / den)
  roundHalfEven num (den * step) * step

end Precision

namespace Double

/-- The number of units in one. -/
def one : Nat := 2 ^ 1074

/-- Zero without a sign. -/
def zero : Double := finite false 0

/-- The nearest number of precision `p` to `num / den` units. -/
def round (p : Precision) (negative : Bool) (num den : Nat) : Double :=
  let units := p.roundUnits num den
  if 2 ^ p.highest ≤ units then infinite negative else finite negative units

/-- The nearest double to the quotient `num / den`. -/
def ofRatio (negative : Bool) (num den : Nat) : Double :=
  round .double negative (num * one) den

/-- The nearest double to an integer. -/
def ofInt (n : Int) : Double := ofRatio (n < 0) n.natAbs 1

/-- An integer as it is, though it may lie between two doubles. -/
def exact (n : Int) : Double := finite (n < 0) (n.natAbs * one)

/-- The double of a number with a decimal point: `digits * 10 ^ exponent`. -/
def ofDecimal (negative : Bool) (digits : Nat) (exponent : Int) : Double :=
  if digits = 0 then finite negative 0
  else
    let size : Int := exponent + (Nat.toDigits 10 digits).length
    if 400 < size then infinite negative
    else if size < -400 then finite negative 0
    else if 0 ≤ exponent then ofRatio negative (digits * 10 ^ exponent.toNat) 1
    else ofRatio negative digits (10 ^ (-exponent).toNat)

/-- The same number on a coarser grid. -/
def toPrecision (p : Precision) : Double → Double
  | finite s u => round p s u 1
  | x => x

def isNaN : Double → Bool
  | nan => true
  | _ => false

def isFinite : Double → Bool
  | finite _ _ => true
  | _ => false

/-- The units of a finite number with their sign. -/
def signed (negative : Bool) (units : Nat) : Int := if negative then -units else units

/-- The order of numbers; not-a-number is below and above nothing. -/
def lt : Double → Double → Bool
  | nan, _ => false
  | _, nan => false
  | infinite s, infinite t => s && !t
  | infinite s, finite _ _ => s
  | finite _ _, infinite t => !t
  | finite s u, finite t v => signed s u < signed t v

/-- Equality of numbers: the two zeros are equal, not-a-number is equal to nothing. -/
def equals : Double → Double → Bool
  | infinite s, infinite t => s == t
  | finite s u, finite t v => signed s u == signed t v
  | _, _ => false

/-- Whether `x` differs from zero; not-a-number does. -/
def isNonzero : Double → Bool
  | finite _ u => u != 0
  | _ => true

def neg : Double → Double
  | nan => nan
  | infinite s => infinite !s
  | finite s u => finite (!s) u

/-- The sum rounded to nearest; a sum of opposite numbers is positive zero. -/
def add : Double → Double → Double
  | nan, _ => nan
  | _, nan => nan
  | infinite s, infinite t => if s == t then infinite s else nan
  | infinite s, _ => infinite s
  | _, infinite t => infinite t
  | finite s u, finite t v =>
    let sum := signed s u + signed t v
    if sum = 0 then finite (s && t) 0 else round .double (sum < 0) sum.natAbs 1

/-- The product rounded to nearest. -/
def mul : Double → Double → Double
  | nan, _ => nan
  | _, nan => nan
  | infinite s, infinite t => infinite (s != t)
  | infinite s, finite t v => if v = 0 then nan else infinite (s != t)
  | finite s u, infinite t => if u = 0 then nan else infinite (s != t)
  | finite s u, finite t v => round .double (s != t) (u * v) one

/-- The integer part of a finite number. -/
def truncate? : Double → Option Int
  | finite s u => some (signed s (u / one))
  | _ => none

/-- Whether the number is a whole number, and which. -/
def toInt? : Double → Option Int
  | finite s u => if u % one = 0 then some (signed s (u / one)) else none
  | _ => none

/-- The sign of a number, set also for negative zero. -/
def isNegative : Double → Bool
  | nan => false
  | infinite s => s
  | finite s _ => s

end Double

end GridUnion
