import GridUnion.Element.Type
import GridUnion.Double.Shortest
import GridUnion.Text.Quoted
import GridUnion.Time.Iso

/-!
# Elements and scalars

An element is one value of a grid; its type is kept with the grid.  A scalar is an element with its
type.  Values of any kind are elements of the type `object`: a plain value stands for itself, and a
value of a definite type keeps it.

Scalars are ordered across types: integers exactly, integers and doubles as doubles, times in the
finer of their units, text by code points.  A plain number beside a typed one takes over its
precision, and plain numbers among themselves are compared exactly.  No time and not-a-number are
not ordered.
-/

namespace GridUnion

/-- One value of a grid. -/
inductive Element where
  | null
  | bool (value : Bool)
  | int (value : Int)
  | real (value : Double)
  | time (count : Count)
  | text (value : String)
  /-- A value of a definite type among values of any kind. -/
  | typed (type : ElementType) (value : Element)
  deriving DecidableEq, Repr, Inhabited

/-- An element with its type. -/
structure Scalar where
  type : ElementType
  element : Element
  deriving DecidableEq, Repr, Inhabited

namespace Scalar

/-- The scalar that an element of a grid is. -/
def ofCell (type : ElementType) : Element → Scalar
  | .typed t e => ⟨t, e⟩
  | e => ⟨type, e⟩

/-- The scalar as an element among values of any kind. -/
def cell (s : Scalar) : Element :=
  match s.type, s.element with
  | .object, e => e
  | .text _, .text t => .typed (.text t.length) (.text t)
  | t, e => .typed t e

/-- Whether a scalar is a plain value without a type of its own. -/
def isPlain (s : Scalar) : Bool := s.type == .object

/-- The two sides of a comparison on a scale that they share. -/
inductive Compared where
  | ints (a b : Int)
  | reals (a b : Double)
  | texts (a b : String)
  | times (a b : Count)
  | unequal

/-- A count of time in another unit. -/
def timeIn (target : TimeUnit) (type : ElementType) (count : Count) : Count :=
  match type with
  | .instant u => Count.convertInstant u target count
  | .duration u => Count.convertDuration u target count
  | _ => count

/-- A real number beside another scalar: a plain one takes over single precision. -/
def realBeside (s other : Scalar) (x : Double) : Double :=
  if s.isPlain && other.type == .single then x.toPrecision .single else x

/-- A whole number as a real one beside another scalar. -/
def wholeBeside (s other : Scalar) (n : Int) : Double :=
  if s.isPlain && other.isPlain then Double.exact n else realBeside s other (Double.ofInt n)

/-- Two numbers on a common scale. -/
def comparedNumbers (a b : Scalar) : Element → Element → Compared
  | .int m, .int n => .ints m n
  | .int m, .real y => .reals (wholeBeside a b m) (realBeside b a y)
  | .real x, .int n => .reals (realBeside a b x) (wholeBeside b a n)
  | .real x, .real y => .reals (realBeside a b x) (realBeside b a y)
  | _, _ => .unequal

/-- A truth value as a number. -/
def asNumber : Element → Element
  | .bool b => .int b.toInt
  | e => e

/-- Whether a whole number is a count of units beside a time: not beside an instant, and not if it
is a word without a sign. -/
def countsBeside (time number : Scalar) : Bool :=
  !time.type.isInstant && number.type != .unsigned .w64

/-- Two scalars on a common scale. -/
def compared (a b : Scalar) : Compared :=
  match asNumber a.element, asNumber b.element with
  | .null, .null => .ints 0 0
  | .text s, .text t => .texts s t
  | .time s, .time t =>
    if a.type.isInstant == b.type.isInstant then
      let unit := a.type.timeUnit.finer b.type.timeUnit
      .times (timeIn unit a.type s) (timeIn unit b.type t)
    else .unequal
  | .time s, .int n => if countsBeside a b then .times s (Count.ofWord n) else .unequal
  | .int m, .time t => if countsBeside b a then .times (Count.ofWord m) t else .unequal
  | x, y => comparedNumbers a b x y

/-- Whether `a` is below `b`. -/
def lt (a b : Scalar) : Bool :=
  match compared a b with
  | .ints m n => m < n
  | .reals x y => x.lt y
  | .texts s t => s < t
  | .times (some m) (some n) => m < n
  | _ => false

/-- Whether two scalars have the same value. -/
def equals (a b : Scalar) : Bool :=
  match compared a b with
  | .ints m n => m == n
  | .reals x y => x.equals y
  | .texts s t => s == t
  | .times (some m) (some n) => m == n
  | _ => false

end Scalar

namespace Element

/-- An element as text; reals of 32 bits have the shortest digits for their own precision. -/
def textIn (type : ElementType) : Element → String
  | null => "None"
  | bool b => if b then "True" else "False"
  | int n => toString n
  | real x => x.textOf (if type = .single then .single else .double)
  | time c =>
    match type with
    | .instant u => Count.isoText u c
    | _ => match c with
      | none => "NaT"
      | some n => toString n
  | text s => s
  | typed t e => textIn t e

end Element

namespace Scalar

/-- The name of a unit after a number. -/
def unitName : TimeUnit → String
  | .year => "years" | .month => "months" | .week => "weeks" | .day => "days" | .hour => "hours"
  | .minute => "minutes" | .second => "seconds" | .milli => "milliseconds"
  | .micro => "microseconds" | .nano => "nanoseconds" | .pico => "picoseconds"
  | .femto => "femtoseconds" | .atto => "attoseconds" | .generic => "generic time units"

/-- A scalar as text; a duration is followed by its unit. -/
def text (s : Scalar) : String :=
  match s.element, s.type with
  | .time (some n), .duration u => toString n ++ " " ++ unitName u
  | e, t => e.textIn t

/-- A scalar as a part of a message; reals have the digits of a double. -/
def formatted (s : Scalar) : String :=
  match s.element with
  | .real x => x.text
  | _ => s.text

/-- A plain value as it is shown inside a list or a message. -/
def shownPlain : Element → String
  | .text t => Text.quoted t
  | e => e.textIn .object

/-- A scalar as it is shown inside a list or a message, with its type. -/
def shown (s : Scalar) : String :=
  match s.type, s.element with
  | .object, e => shownPlain e
  | _, .bool b => "np." ++ (if b then "True" else "False") ++ "_"
  | _, .text t => "np.str_(" ++ Text.quoted t ++ ")"
  | t, .time c =>
    let head := if t.isInstant then "np.datetime64(" else "np.timedelta64("
    let body := if t.isInstant || c.isNone then Text.quoted s.text else s.element.textIn t
    let unit := if t.timeUnit = .generic then "" else "," ++ Text.quoted t.timeUnit.symbol
    head ++ body ++ unit ++ ")"
  | t, _ => "np." ++ t.name ++ "(" ++ s.text ++ ")"

end Scalar

end GridUnion
