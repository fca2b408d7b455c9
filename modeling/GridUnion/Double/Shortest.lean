import GridUnion.Double

/-!
# The shortest decimal of a double

`Double.shortest` gives the fewest decimal digits that read back as the same number, and among
those the digits nearest to it.  `Double.text` lays them out: positional notation from `0.0001`
up to below `10 ^ 16`, or `10 ^ 6` for single precision, an exponent of at least two digits
outside, and always a decimal point or an exponent.
-/

namespace GridUnion

/-- The decimal number `0.d₁d₂… * 10 ^ point`, for digits without trailing zeros. -/
structure Decimal where
  digits : List Char
  point : Int
  deriving DecidableEq, Repr

/-- An exponent with its sign and at least two digits. -/
def Decimal.exponentText (e : Int) : String :=
  let digits := toString e.natAbs
  (if e < 0 then "-" else "+") ++ (if digits.length < 2 then "0" ++ digits else digits)

/-- A decimal in positional notation. -/
def Decimal.positional (d : Decimal) : String :=
  let n : Int := d.digits.length
  let zeros (k : Int) : List Char := List.replicate k.toNat '0'
  if d.point ≤ 0 then String.ofList ("0.".toList ++ zeros (-d.point) ++ d.digits)
  else if n ≤ d.point then String.ofList (d.digits ++ zeros (d.point - n) ++ ".0".toList)
  else
    let k := d.point.toNat
    String.ofList (d.digits.take k ++ ['.'] ++ d.digits.drop k)

/-- A decimal with one digit before the point and an exponent. -/
def Decimal.scientific (d : Decimal) : String :=
  let mantissa := match d.digits with
    | [] => []
    | [c] => [c]
    | c :: rest => c :: '.' :: rest
  String.ofList (mantissa ++ ['e']) ++ Decimal.exponentText (d.point - 1)

namespace Double

/-- The decimal point of `u` units: the least `e` with `u < 10 ^ e` units of one. -/
def pointBelowOne (u : Nat) : Nat → Int → Int
  | 0, e => e
  | fuel + 1, e => if one ≤ u * 10 then e else pointBelowOne (u * 10) fuel (e - 1)

/-- The position of the decimal point before the first digit of `u` units. -/
def decimalPoint (u : Nat) : Int :=
  if one ≤ u then (Nat.toDigits 10 (u / one)).length
  else pointBelowOne u 324 0

/-- The numbers that round to `u` units, as bounds in quarters of a unit and whether they belong. -/
def neighbourhood (p : Precision) (u : Nat) : Nat × Nat × Bool :=
  let step := 2 ^ p.spacing u
  let mantissa := u / step
  let below := if mantissa = 2 ^ (p.bits - 1) ∧ p.lowest < p.spacing u then step else 2 * step
  (4 * u - below, 4 * u + 2 * step, mantissa % 2 == 0)

/-- The nearest decimal of `n` digits that rounds to `u` units, if there is one. -/
def decimalOf? (p : Precision) (u : Nat) (point : Int) (n : Nat) : Option Nat :=
  let (low, high, closed) := neighbourhood p u
  let exponent := point - n
  let (num, den) :=
    if 0 ≤ exponent then (u, one * 10 ^ exponent.toNat) else (u * 10 ^ (-exponent).toNat, one)
  -- a grid point `k` stands for `4 * k * den` quarters, scaled by `num / u`
  let inside (k : Nat) : Bool :=
    let value := 4 * k * den * u
    if closed then low * num ≤ value && value ≤ high * num
    else low * num < value && value < high * num
  let k := num / den
  let nearest := roundHalfEven num den
  if inside nearest then some nearest
  else if inside k then some k
  else if inside (k + 1) then some (k + 1)
  else none

/-- The fewest digits that round to `u` units, trying `n`, `n + 1`, … digits. -/
def shortestFrom (p : Precision) (u : Nat) (point : Int) : Nat → Nat → Nat × Nat
  | 0, n => (u / one, n)
  | fuel + 1, n =>
    match decimalOf? p u point n with
    | some k => (k, n)
    | none => shortestFrom p u point fuel (n + 1)

/-- The shortest decimal that reads back as `u` units on the grid of `p`. -/
def shortest (p : Precision) (u : Nat) : Decimal :=
  if u = 0 then ⟨['0'], 1⟩
  else
    let point := decimalPoint u
    let (k, n) := shortestFrom p u point 17 1
    let digits := Nat.toDigits 10 k
    let stripped := (digits.reverse.dropWhile (· == '0')).reverse
    ⟨stripped, point + (digits.length - n : Int)⟩

/-- Numbers from this power of ten on are written with an exponent. -/
def positionalDigits (p : Precision) : Nat := if p = .single then 6 else 16

/-- Whether `u` units are written without an exponent. -/
def isPositional (p : Precision) (u : Nat) : Bool :=
  u == 0 || (one ≤ u * 10 ^ 4 && u < one * 10 ^ positionalDigits p)

/-- The text of a number of precision `p`. -/
def textOf (p : Precision) : Double → String
  | nan => "nan"
  | infinite s => if s then "-inf" else "inf"
  | finite s u =>
    let d := shortest p u
    (if s then "-" else "") ++ (if isPositional p u then d.positional else d.scientific)

/-- The text of a double. -/
def text (x : Double) : String := x.textOf .double

end Double

end GridUnion
