import GridUnion.Double.Shortest

/-!
# Decimals of few places

`Double.toPlaces` is the shortest decimal of a number if it has no more than the given number of
places after the point, and otherwise the number rounded to them, a half going to the even digit.
`Double.toDigits` does the same for a number of significant digits, and has a least number of them
beside the greatest.
-/

namespace GridUnion

namespace Decimal

/-- The decimal with the digits of `n` and its point before the last `places` of them. -/
def ofNat (n : Nat) (places : Int) : Decimal :=
  let digits := Nat.toDigits 10 n
  let stripped := (digits.reverse.dropWhile (· == '0')).reverse
  if stripped.isEmpty then ⟨['0'], 1⟩ else ⟨stripped, digits.length - places⟩

/-- The number of places after the point. -/
def places (d : Decimal) : Int := max 0 (d.digits.length - d.point)

/-- The digits before the point. -/
def wholeDigits (d : Decimal) : List Char :=
  if d.point ≤ 0 then ['0']
  else
    let k := d.point.toNat
    d.digits.take k ++ List.replicate (k - d.digits.length) '0'

/-- The digits after the point. -/
def fractionDigits (d : Decimal) : List Char :=
  if d.point ≤ 0 then List.replicate (-d.point).toNat '0' ++ d.digits
  else d.digits.drop d.point.toNat

end Decimal

namespace Double

/-- The decimal of at most `places` places after the point that stands for `u` units. -/
def toPlaces (p : Precision) (u places : Nat) : Decimal :=
  let d := shortest p u
  if d.places ≤ places then d else Decimal.ofNat (roundHalfEven (u * 10 ^ places) one) places

/-- The decimal of `n` significant digits that stands for `u` units. -/
def roundDigits (u n : Nat) : Decimal :=
  let places := n - decimalPoint u
  Decimal.ofNat (roundHalfEven (u * 10 ^ places.toNat) (one * 10 ^ (-places).toNat)) places

/-- The decimal that stands for `u` units, worked out to at least `least` and at most `most`
significant digits.  Between them it has the fewest that read back; zeros at the end are left
out. -/
def toDigits (p : Precision) (u least most : Nat) : Decimal :=
  if u = 0 then shortest p u
  else
    let point := decimalPoint u
    let n := (shortestFrom p u point 17 1).2
    if most < n then roundDigits u most
    else if n < least then
      match decimalOf? p u point least with
      | some k => Decimal.ofNat k (least - point)
      | none => roundDigits u least
    else shortest p u

end Double

end GridUnion
