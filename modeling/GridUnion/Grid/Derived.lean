import GridUnion.Grid
import GridUnion.Time.Part

/-!
# Derived fields

The name of a field, a point and the name of one of its aspects stand for a derived field: a part of
its times, or for other fields the same values, their real or imaginary parts, or the values with
the dimensions in reverse order.  A derived field has the dimensions of the field it comes from, and
no attributes.  `Grid.fieldNamed` finds fields of a grid and derived ones.
-/

namespace GridUnion

namespace Block

/-- The block with its dimensions in reverse order. -/
def transpose (b : Block) : Block :=
  let cells := b.data.toArray
  tabulate b.type b.shape.reverse fun ix => cells.getD (offset b.shape ix.reverse) default

/-- What stands for nothing in a type. -/
def blank (type : ElementType) : Element :=
  match type with
  | .bool => .bool false
  | .single | .double => .real .zero
  | .text _ => .text ""
  | _ => .int 0

/-- A number for every time; where there is none, all numbers are real and that one is no number. -/
def numbers (b : Block) (f : Int → Int) : Block :=
  if b.data.any fun e => e == .time none then
    b.map .double fun e => match e with
      | .time (some n) => .real (Double.ofInt (f n))
      | _ => .real .nan
  else b.map .int64 fun e => match e with
      | .time (some n) => .int (f n)
      | _ => .int 0

/-- A truth value for every time, false where there is none. -/
def truths (b : Block) (f : Int → Bool) : Block :=
  b.map .bool fun e => match e with
    | .time (some n) => .bool (f n)
    | _ => .bool false

/-- The seasons of instants. -/
def seasons (b : Block) (f : Int → String) : Block :=
  b.map (.text 3) fun e => match e with
    | .time (some n) => .text (f n)
    | _ => .text "nan"

end Block

namespace Field

/-- What can be asked of instants that makes no field. -/
def instantActions : List String :=
  ["strftime", "isocalendar", "calendar", "floor", "ceil", "round"]

/-- What can be asked of durations that makes no field. -/
def durationActions : List String := ["total_seconds", "floor", "ceil", "round"]

/-- Real numbers for all times, if there are any. -/
def reals (b : Block) (f : Int → Double) : Except Failure Block :=
  if b.data.any fun e => e == .time none then .error .partNotAField
  else .ok (b.map .double fun e => match e with
    | .time (some n) => .real (f n)
    | _ => .real .nan)

/-- The days of instants as values of any kind. -/
def days (b : Block) (f : Int → Int) : Block :=
  b.map .object fun e => match e with
    | .time (some n) => .typed (.instant .day) (.time (some (f n)))
    | e => .typed b.type e

/-- A part of instants in a unit.  All years have days, also that of no time. -/
def instantPart (unit : TimeUnit) (b : Block) (name : String) : Except Failure Block :=
  let dayTime (n : Int) : DayTime := DayTime.ofCount unit n
  match DayTime.instantNumbers.lookup name, DayTime.instantTruths.lookup name with
  | some f, _ => .ok (b.numbers fun n => f (dayTime n))
  | _, some f => .ok (b.truths fun n => f (dayTime n))
  | none, none => match name with
    | "season" => .ok (b.seasons fun n => (dayTime n).season)
    | "days_in_year" => .ok (b.map .int64 fun e => match e with
      | .time (some n) => .int (dayTime n).yearLength
      | _ => .int 365)
    | "decimal_year" => reals b fun n => (dayTime n).decimalYear unit
    | "date" => .ok (days b fun n => (dayTime n).day)
    | name => .error (if instantActions.contains name then .partNotAField else .unknownPart name)

/-- A part of durations in a unit. -/
def durationPart (unit : TimeUnit) (b : Block) (name : String) : Except Failure Block :=
  match DayTime.durationNumbers.lookup name with
  | some f => .ok (b.numbers fun n => f (DayTime.ofCount unit n))
  | none =>
    .error (if durationActions.contains name then .partNotAField else .unknownPart name)

/-- An aspect of values that are no times. -/
def valuePart (b : Block) (name : String) : Except Failure Block :=
  match name with
  | "T" => .ok b.transpose
  | "real" | "values" | "data" => .ok b
  | "imag" => .ok (b.map b.type fun _ => Block.blank b.type)
  | _ => .error (.unknownPart name)

/-- The derived field of an aspect. -/
def derived (f : Field) (name : String) : Except Failure Field := do
  let block ← match f.block.type with
    | .instant unit => instantPart unit f.block name
    | .duration unit => durationPart unit f.block name
    | _ => valuePart f.block name
  return ⟨f.name ++ "." ++ name, f.dims, block, [], []⟩

end Field

namespace Grid

/-- A name before its first point, and what follows it. -/
def splitName? (name : String) : Option (String × String) :=
  let base := name.toList.takeWhile (· != '.')
  match name.toList.drop base.length with
  | [] => none
  | _ :: rest => some (String.ofList base, String.ofList rest)

/-- The field of a name: one of the grid, the positions of a dimension, or a derived field. -/
def fieldNamed (g : Grid) (name : String) : Except Failure Field :=
  match g.fieldOrPositions name, splitName? name with
  | .ok f, _ => .ok f
  | .error fault, none => .error fault
  | .error _, some (base, part) =>
    match g.field? base with
    | some f => f.derived part
    | none => .error (.unknownName base)

end Grid

end GridUnion
