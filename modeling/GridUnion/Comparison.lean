import GridUnion.Failure

/-!
# Comparisons that fail

Two scalars are brought to a common scale before they are compared.  `Scalar.comparisonFault?` is
the failure if there is none: the units of two times are too far apart, or a plain number does not
fit beside a value of a definite type.  `Value.isBelow` is the order of plain values as far as they
have one.
-/

namespace GridUnion

namespace ElementType

/-- Why the units of two types of times have no common unit; instants and durations need none. -/
def unitFault? (a b : ElementType) : Option UnitFault :=
  if (a.isInstant && b.isInstant) || (a.isDuration && b.isDuration) then
    match a.timeUnit.common a.isDuration b.timeUnit b.isDuration with
    | .error fault => some fault
    | .ok _ => none
  else none

/-- Why a plain whole number does not fit beside values of a type.  Truth values and durations are
compared with it as words, real numbers as doubles. -/
def operandFault? (t : ElementType) (n : Int) : Option ConversionFault :=
  let stored := match t with
    | .bool => Element.storeInt .int64 n
    | .duration _ | .single | .double => Element.storeInt t n
    | _ => .ok (.int n)
  match stored with
  | .error fault => some fault
  | .ok _ => none

end ElementType

namespace Scalar

/-- Why two scalars cannot be compared, even where they are ordered among each other. -/
def comparisonFault? (a b : Scalar) : Option Failure :=
  match ElementType.unitFault? a.type b.type, a, b with
  | some fault, _, _ => some (.noCommonUnit fault)
  | none, ⟨.object, .int _⟩, ⟨.object, _⟩ => none
  | none, ⟨t, _⟩, ⟨.object, .int n⟩ | none, ⟨.object, .int n⟩, ⟨t, _⟩ =>
    (t.operandFault? n).map .conversion
  | _, _, _ => none

/-- Whether two scalars are ordered among each other: two texts, two instants, two durations, two
numbers, or a duration and a whole number. -/
def isOrdered (a b : Scalar) : Bool :=
  match asNumber a.element, asNumber b.element with
  | .text _, .text _ => true
  | .time _, .time _ => a.type.isInstant == b.type.isInstant
  | .time _, .int _ => countsBeside a b
  | .int _, .time _ => countsBeside b a
  | .int _, .int _ | .int _, .real _ | .real _, .int _ | .real _, .real _ => true
  | _, _ => false

/-- Refuses a comparison that fails. -/
def checkCompared (a b : Scalar) : Except Failure Unit :=
  match comparisonFault? a b with
  | some fault => .error fault
  | none => .ok ()

end Scalar

namespace Value

mutual

/-- Whether a value is below another one.  Lists are compared item by item. -/
def isBelow : Value → Value → Except Failure Bool
  | list items, list others => areBelow items others
  | a, b => match a.scalar?, b.scalar? with
    | some s, some t =>
      if Scalar.isOrdered s t then .ok (s.lt t)
      else .error (.notSupported a.kindName b.kindName)
    | _, _ => .error (.notSupported a.kindName b.kindName)

/-- Whether a list is below another one: its first different item is, or it ends first. -/
def areBelow : List Value → List Value → Except Failure Bool
  | [], others => .ok !others.isEmpty
  | _, [] => .ok false
  | x :: xs, y :: ys => if x.equals y then areBelow xs ys else isBelow x y

end

end Value

end GridUnion
