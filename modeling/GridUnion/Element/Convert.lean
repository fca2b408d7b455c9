import GridUnion.Element
import GridUnion.Text.Numeral
import GridUnion.Time.Reading

/-!
# Conversion between element types

`convert` takes an element of one type to another: integers wrap, reals lose their fraction, times
are rounded down to the coarser unit, text is read or cut.  `store` puts a scalar among the
elements of a block, and `storeInt`, `storeReal` and `storeText` put a plain number or text there;
an integer that does not fit is refused.  Text in a block ends before its trailing null characters.
-/

namespace GridUnion

/-- Why a value cannot be stored in a type. -/
inductive ConversionFault where
  /-- A text that is no whole number, as it is shown. -/
  | notAnInteger (shown : String)
  | tooManyDigits (digits : Nat)
  /-- A text that is no number, as it is shown. -/
  | notANumber (shown : String)
  /-- A value of this kind is no whole number. -/
  | noInteger (kind : String)
  /-- A value of this kind is no number. -/
  | noReal (kind : String)
  | nanToInteger
  | infinityToInteger
  | outOfBounds (value : Int) (type : ElementType)
  | tooLargeForWord
  | tooLargeForInstant
  | tooLargeForDouble
  | noInstant
  | noDuration
  | unreadableInstant (text : String) (fault : InstantFault)
  /-- A text with characters beyond the first 128. -/
  | notPlainText (text : String)
  | chooseInstantUnit
  /-- A ratio between two units is too large. -/
  | unitsTooFar (coarse fine : TimeUnit)
  /-- Times in a unit as times without one. -/
  | unitLost
  /-- A duration by the calendar and one by the clock, or a time as one without a unit. -/
  | notSameKind (source target : TimeUnit)
  /-- There are fewer places than an instant has characters. -/
  | instantTooWide (width : Nat)
  /-- A table has no word for a duration. -/
  | durationTooLong (value : Scalar) (target : ElementType)
  /-- A table has no word for an instant that many seconds after the start of 1970. -/
  | instantTooFar (seconds : Int)
  /-- A block of one shape does not fit into another. -/
  | cannotSpread (source target : List Nat)
  /-- A list whose items have different shapes; the part of the shape that they share. -/
  | ragged (shape : List Nat)
  /-- A list nested deeper than a block has dimensions. -/
  | tooDeep (dimensions : Nat)
  | sequenceForElement
  deriving DecidableEq, Repr

namespace Element

/-- The machine integer that a real number becomes: its integer part, or the least word. -/
def machineInt (t : ElementType) (x : Double) : Int :=
  let word (bits : Nat) : Int :=
    match x.truncate? with
    | some n => if -2 ^ (bits - 1) ≤ n ∧ n < 2 ^ (bits - 1) then n else -2 ^ (bits - 1)
    | none => -2 ^ (bits - 1)
  match t with
  | .signed .w64 => word 64
  | .unsigned .w32 => t.wrap (word 64)
  | .unsigned .w64 =>
    match x.truncate? with
    | some n => if 2 ^ 63 ≤ n then (if n < 2 ^ 64 then n else 0) else t.wrap (word 64)
    | none => if x = .infinite false then 0 else 2 ^ 63
  | _ => t.wrap (word 32)

/-- A text in the places of a block: cut to their number, without trailing null characters. -/
def cutText (width : Nat) (s : String) : Element :=
  .text (String.ofList ((s.toList.take width).reverse.dropWhile (· == '\x00')).reverse)

/-- Stores a whole number; one that does not fit is refused. -/
def storeInt (t : ElementType) (n : Int) : Except ConversionFault Element :=
  match t with
  | .bool => .ok (.bool (n != 0))
  | .signed .w64 =>
    if -2 ^ 63 ≤ n ∧ n < 2 ^ 63 then .ok (.int n) else .error .tooLargeForWord
  | .signed _ | .unsigned .w8 | .unsigned .w16 =>
    if n < -2 ^ 63 ∨ 2 ^ 63 ≤ n then .error .tooLargeForWord
    else if t.wrap n = n then .ok (.int n)
    else .error (.outOfBounds n t)
  | .unsigned _ =>
    if n < -2 ^ 63 ∨ 2 ^ 64 ≤ n then .error .tooLargeForWord
    else if t.wrap n = n then .ok (.int n)
    else .error (.outOfBounds n t)
  | .single | .double =>
    match Double.ofInt n with
    | .infinite _ => .error .tooLargeForDouble
    | x => .ok (.real (if t = .single then x.toPrecision .single else x))
  | .instant u =>
    if u = .generic then .error .chooseInstantUnit
    else if -2 ^ 63 ≤ n ∧ n < 2 ^ 63 then .ok (.time (Count.ofWord n))
    else .error .tooLargeForInstant
  | .duration _ =>
    if -2 ^ 63 ≤ n ∧ n < 2 ^ 63 then .ok (.time (Count.ofWord n))
    else .error .tooLargeForInstant
  | .text width => .ok (cutText width (toString n))
  | .object => .ok (.int n)

/-- The whole number that a real number holds, without its fraction. -/
def integerOf (x : Double) : Except ConversionFault Int :=
  match x with
  | .nan => .error .nanToInteger
  | .infinite _ => .error .infinityToInteger
  | .finite s u => .ok (Double.signed s (u / Double.one))

/-- Stores a real number. -/
def storeReal (t : ElementType) (x : Double) : Except ConversionFault Element :=
  match t with
  | .bool => .ok (.bool x.isNonzero)
  | .signed _ | .unsigned _ => do storeInt t (← integerOf x)
  | .single => .ok (.real (x.toPrecision .single))
  | .double | .object => .ok (.real x)
  | .instant _ => .error .noInstant
  | .duration _ => .error .noDuration
  | .text width => .ok (cutText width x.text)

/-- How many characters of a text are shown that is not a whole number. -/
def shownLength : Nat := 200

/-- The whole number that a text holds; `shown` is the text in a message. -/
def readInteger (shown s : String) : Except ConversionFault Int :=
  match Text.readInt s with
  | .ok n => .ok n
  | .error .malformed => .error (.notAnInteger (String.ofList (shown.toList.take shownLength)))
  | .error (.tooLong digits) => .error (.tooManyDigits digits)

/-- The number that a text holds; `shown` is the text in a message. -/
def readReal (shown s : String) : Except ConversionFault Double :=
  match Text.readDouble? s with
  | some x => .ok x
  | none => .error (.notANumber shown)

/-- The instant that a text names. -/
def readInstant (unit : TimeUnit) (s : String) : Except ConversionFault Count :=
  (Instant.read unit s).mapError (.unreadableInstant s)

/-- Stores a text; `shown` is the text in a message. -/
def storeText (t : ElementType) (shown s : String) : Except ConversionFault Element :=
  match t with
  | .bool => .ok (.bool (s != ""))
  | .signed _ | .unsigned _ => do storeInt t (← readInteger shown s)
  | .single | .double => do storeReal t (← readReal shown s)
  | .instant u => do return .time (← readInstant u s)
  | .duration _ =>
    match Duration.read? s with
    | some c => .ok (.time c)
    | none => .error .noDuration
  | .text width => .ok (cutText width s)
  | .object => .ok (.text s)

/-- Stores the absence of a value. -/
def storeNull (t : ElementType) : Except ConversionFault Element :=
  match t with
  | .bool => .ok (.bool false)
  | .signed _ | .unsigned _ => .error (.noInteger "NoneType")
  | .single | .double => .ok (.real .nan)
  | .instant _ | .duration _ => .ok (.time none)
  | .text width => .ok (cutText width "None")
  | .object => .ok .null

/-- Stores a truth value. -/
def storeBool (t : ElementType) (b : Bool) : Except ConversionFault Element :=
  match t with
  | .text width => .ok (cutText width (if b then "True" else "False"))
  | .object => .ok (.bool b)
  | _ => storeInt t b.toInt

end Element

namespace Scalar

/-- A time as a plain value: a whole number, or a kind of value that is no number. -/
inductive PlainTime where
  | int (n : Int)
  | kind (name : String)
  deriving DecidableEq, Repr

/-- The units of times that stand for plain numbers: those finer than a microsecond. -/
def isCounted (u : TimeUnit) : Bool := u = .generic || TimeUnit.micro.fineness < u.fineness

/-- An instant as a plain value; only years with at most four digits have a date. -/
def plainInstant (u : TimeUnit) (n : Int) : PlainTime :=
  let day := Count.rescale u.length TimeUnit.day.length n
  let month := if u = .year then 12 * (n + 1970) else if u = .month then n + 12 * 1970
    else Calendar.monthOfDay day
  if isCounted u || month < 12 || 120000 ≤ month then .int n
  else .kind (if u.fineness ≤ TimeUnit.day.fineness then "datetime.date" else "datetime.datetime")

/-- A duration as a plain value; only those of less than a billion days have one of their own. -/
def plainDuration (u : TimeUnit) (n : Int) : PlainTime :=
  if isCounted u || u.isCalendar ||
      999999999 < (Int.fdiv (n * u.length) TimeUnit.day.length).natAbs then .int n
  else .kind "datetime.timedelta"

/-- A time as a plain value. -/
def plainTime (t : ElementType) (c : Count) : PlainTime :=
  match c, t with
  | none, _ => .kind "NoneType"
  | some n, .instant u => plainInstant u n
  | some n, _ => plainDuration t.timeUnit n

/-- The kind of the plain value that a scalar stands for. -/
def plainKind (s : Scalar) : String :=
  match s.element with
  | .null => "NoneType"
  | .bool _ => "bool"
  | .int _ => "int"
  | .real _ => "float"
  | .text _ => "str"
  | .time c => match plainTime s.type c with
    | .int _ => "int"
    | .kind name => name
  | .typed t _ => t.name

/-- A number in another type, without any check. -/
def castInt (t : ElementType) (n : Int) : Element :=
  match t with
  | .bool => .bool (n != 0)
  | .signed _ | .unsigned _ => .int (t.wrap n)
  | .single => .real (Double.round .single (n < 0) (n.natAbs * Double.one) 1)
  | .double => .real (Double.ofInt n)
  | .instant _ | .duration _ => .time (Count.ofWord n)
  | .text width => Element.cutText width (toString n)
  | .object => .int n

/-- A real number in another type, without any check. -/
def castReal (source t : ElementType) (x : Double) : Element :=
  match t with
  | .bool => .bool x.isNonzero
  | .signed _ | .unsigned _ => .int (Element.machineInt t x)
  | .single => .real (x.toPrecision .single)
  | .double | .object => .real x
  | .instant _ | .duration _ => .time (Count.ofWord (Element.machineInt .int64 x))
  | .text width => Element.cutText width ((Element.real x).textIn source)

/-- Refuses to convert between units whose ratio is too large, and from a unit to none. -/
def checkUnits (u v : TimeUnit) : Except ConversionFault Unit :=
  if v = .generic ∧ u ≠ .generic then .error .unitLost
  else if u.isConvertible v then .ok ()
  else if u.fineness ≤ v.fineness then .error (.unitsTooFar u v)
  else .error (.unitsTooFar v u)

/-- An instant as text, which must have room. -/
def instantText (width : Nat) (s : Scalar) : Except ConversionFault Element :=
  if s.text.length ≤ width then .ok (.text s.text) else .error (.instantTooWide width)

/-- A time in another type. -/
def castTime (source t : ElementType) (c : Count) : Except ConversionFault Element :=
  match source, t with
  | .instant u, .instant v => do
    checkUnits u v
    return .time (Count.convertInstant u v c)
  | .duration u, .duration v => do
    checkUnits u v
    return .time (Count.convertDuration u v c)
  | _, .instant _ | _, .duration _ => .ok (.time c)
  | _, .bool => .ok (.bool (c != some 0))
  | .instant _, .text width => instantText width ⟨source, .time c⟩
  | _, .text width => .ok (Element.cutText width (text ⟨source, .time c⟩))
  | _, .object =>
    .ok (match c, plainTime source c with
      | none, _ => .null
      | _, .int n => .int n
      | _, _ => .typed source (.time c))
  | _, _ => .ok (castInt t (Count.toWord c))

/-- A text of a block in another type.  An instant ends before the first null character, and a
duration is written as any whole number is. -/
def castText (t : ElementType) (s : Scalar) (x : String) : Except ConversionFault Element :=
  match t with
  | .instant _ =>
    if x.toList.all fun c => c.toNat < 128 then
      Element.storeText t s.shown (String.ofList (x.toList.takeWhile (· != '\x00')))
    else .error (.notPlainText x)
  | .duration _ => do Element.storeInt t (← Element.readInteger s.shown x)
  | _ => Element.storeText t s.shown x

/-- A value of a definite type in another type: integers wrap, text is read or cut. -/
def castTyped (t : ElementType) (s : Scalar) : Except ConversionFault Element :=
  if s.type = t then .ok s.element
  else
    match s.element with
    | .bool b => match t with
      | .bool | .object => .ok (.bool b)
      | .text width => .ok (Element.cutText width s.text)
      | _ => .ok (castInt t b.toInt)
    | .int n => .ok (castInt t n)
    | .real x => .ok (castReal s.type t x)
    | .time c => castTime s.type t c
    | .text x => castText t s x
    | e => .ok e

/-- The number of characters that a stored duration has at most. -/
def durationLength : Nat := 21

/-- Stores a time: as an instant or a duration in another unit, as text, or as the plain number
that it stands for.  No time is the same in every unit. -/
def storeTime (t : ElementType) (s : Scalar) (c : Count) : Except ConversionFault Element :=
  match s.type, t with
  | .instant u, .instant v =>
    if c.isNone || u = .generic || v ≠ .generic then .ok (.time (Count.convertInstant u v c))
    else .error (.notSameKind u v)
  | .duration u, .duration v =>
    if c.isNone then .ok (.time none)
    else if u = .generic || (v ≠ .generic && u.isCalendar == v.isCalendar) then
      castTime s.type t c
    else .error (.notSameKind u v)
  | .instant _, .text width => .ok (Element.cutText width s.text)
  | .duration _, .text width => .ok (Element.cutText (min width durationLength) s.text)
  | _, .signed _ => match plainTime s.type c with
    | .int n => Element.storeInt t n
    | .kind name => .error (.noInteger name)
  | _, _ => castTime s.type t c

/-- Stores a value of a definite type: signed integers refuse one that does not fit, among values
of any kind it keeps its type, and all other types convert it. -/
def storeTyped (t : ElementType) (s : Scalar) : Except ConversionFault Element :=
  if s.type = t then .ok s.element
  else
    match t, s.element with
    | .object, _ => .ok s.cell
    | .instant _, .text x => Element.storeText t s.shown x
    | _, .time c => storeTime t s c
    | .signed _, .bool b => Element.storeInt t b.toInt
    | .signed _, .int n => Element.storeInt t n
    | .signed _, .real x => Element.storeReal t x
    | _, _ => castTyped t s

/-- Stores a plain value. -/
def storePlain (t : ElementType) : Element → Except ConversionFault Element
  | .null => Element.storeNull t
  | .bool b => Element.storeBool t b
  | .int n => Element.storeInt t n
  | .real x => Element.storeReal t x
  | .text x => Element.storeText t (Text.quoted x) x
  | .time c => castTime .object t c
  | .typed source e => storeTyped t ⟨source, e⟩

/-- Stores a scalar as an element of type `t`. -/
def store (t : ElementType) (s : Scalar) : Except ConversionFault Element :=
  if s.isPlain then storePlain t s.element else storeTyped t s

/-- The scalar's value as an element of type `t`; among values of any kind it loses its type. -/
def convert (t : ElementType) (s : Scalar) : Except ConversionFault Element :=
  if s.type = t then .ok s.element
  else if s.isPlain then storePlain t s.element
  else castTyped t s

theorem convert_self (s : Scalar) :
  s.convert s.type = .ok s.element
  := by
  simp [convert]

end Scalar

end GridUnion
