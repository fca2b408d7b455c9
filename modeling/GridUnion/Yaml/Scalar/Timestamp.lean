import GridUnion.Yaml.Cursor
import GridUnion.Time.Calendar

/-!
# Timestamps

A timestamp is a date, or a date with a time of day and perhaps an offset from universal time.
-/

namespace GridUnion.Yaml

/-- An offset from universal time as it is written. -/
inductive WrittenOffset where
  | universal
  | shifted (isNegative : Bool) (hours minutes : Nat)
  deriving DecidableEq, Repr

/-- A time of day as it is written. -/
structure WrittenClock where
  hour : Nat
  minute : Nat
  second : Nat
  /-- The decimals of a second. -/
  decimals : List Nat
  offset : Option WrittenOffset
  deriving DecidableEq, Repr

/-- A timestamp as it is written. -/
structure Timestamp where
  year : Nat
  month : Nat
  day : Nat
  clock : Option WrittenClock
  deriving DecidableEq, Repr

namespace Timestamp

/-- The value of a decimal digit. -/
def digit? (c : Char) : Option Nat := if c.isDigit then some (c.toNat - 48) else none

/-- Between `least` and `most` decimal digits: their number, and the rest. -/
def number? (least most : Nat) (cs : List Char) : Option (Nat × List Char) :=
  let ds := (cs.take most).takeWhile Char.isDigit
  if ds.length < least then none
  else some ((ds.filterMap digit?).foldl (fun n d => 10 * n + d) 0, cs.drop ds.length)

/-- The rest of a text after a character. -/
def after? (c : Char) : List Char → Option (List Char)
  | d :: cs => if c = d then some cs else none
  | [] => none

/-- Whether a character is a space or a tab. -/
def isGap (c : Char) : Bool := c == ' ' || c == '\t'

/-- The hours and minutes of an offset, to the end of the text. -/
def shift? (isNegative : Bool) (cs : List Char) : Option WrittenOffset := do
  let (hours, cs) ← number? 1 2 cs
  match cs with
  | [] => some (.shifted isNegative hours 0)
  | ':' :: cs =>
    let (minutes, cs) ← number? 2 2 cs
    if cs.isEmpty then some (.shifted isNegative hours minutes) else none
  | _ => none

/-- An offset, to the end of the text; blanks may stand before it. -/
def offset? (cs : List Char) : Option (Option WrittenOffset) :=
  match cs.dropWhile isGap with
  | [] => if cs.isEmpty then some none else none
  | ['Z'] => some (some .universal)
  | '+' :: cs => (shift? false cs).map some
  | '-' :: cs => (shift? true cs).map some
  | _ => none

/-- The decimals of a second, if there are any, and the rest. -/
def decimals (cs : List Char) : List Nat × List Char :=
  match cs with
  | '.' :: cs => ((cs.takeWhile Char.isDigit).filterMap digit?, cs.dropWhile Char.isDigit)
  | cs => ([], cs)

/-- A time of day, to the end of the text. -/
def clock? (cs : List Char) : Option WrittenClock := do
  let (hour, cs) ← number? 1 2 cs
  let (minute, cs) ← number? 2 2 (← after? ':' cs)
  let (second, cs) ← number? 2 2 (← after? ':' cs)
  let (ds, cs) := decimals cs
  return ⟨hour, minute, second, ds, ← offset? cs⟩

/-- The rest of a text after what separates date and time of day. -/
def afterGap? : List Char → Option (List Char)
  | c :: cs =>
    if c = 'T' ∨ c = 't' then some cs
    else if isGap c then some (cs.dropWhile isGap)
    else none
  | [] => none

/-- Reads a timestamp. -/
def ofChars? (cs : List Char) : Option Timestamp := do
  let (year, cs) ← number? 4 4 cs
  let (month, cs) ← number? 1 2 (← after? '-' cs)
  let (day, cs) ← number? 1 2 (← after? '-' cs)
  if cs.isEmpty then return ⟨year, month, day, none⟩
  else return ⟨year, month, day, some (← clock? (← afterGap? cs))⟩

/-- Whether a plain scalar looks like a timestamp; a date alone needs two digits for month and
day. -/
def looksTimed (cs : List Char) : Bool :=
  match ofChars? cs with
  | some t => t.clock.isSome || cs.length == 10
  | none => false

/-! ### The date and time that a timestamp stands for -/

/-- A value that is out of its bounds. -/
def outOfBounds (text : String) : Fault := .badScalar .value text

/-- The offset in minutes; it is less than a day. -/
def offsetMinutes : WrittenOffset → Except Fault Int
  | .universal => .ok 0
  | .shifted isNegative hours minutes =>
    let total : Int := 60 * hours + minutes
    let total := if isNegative then -total else total
    if total.natAbs < 1440 then .ok total
    else .error <| outOfBounds <|
      "offset must be a timedelta strictly between -timedelta(hours=24) and " ++
        "timedelta(hours=24), not " ++ Moment.shownDuration total ++ "."

/-- The millionths of a second that the first six decimals stand for. -/
def micros (ds : List Nat) : Nat :=
  ((ds ++ List.replicate 6 0).take 6).foldl (fun n d => 10 * n + d) 0

/-- Whether the date exists. -/
def checkDate (t : Timestamp) : Except Fault Unit :=
  if t.year = 0 then .error (outOfBounds "year 0 is out of range")
  else if t.month = 0 ∨ 12 < t.month then .error (outOfBounds "month must be in 1..12")
  else if t.day = 0 ∨ Calendar.monthLength t.year t.month < t.day then
    .error (outOfBounds "day is out of range for month")
  else .ok ()

/-- Whether the time of day exists. -/
def checkClock (c : WrittenClock) : Except Fault Unit :=
  if 23 < c.hour then .error (outOfBounds "hour must be in 0..23")
  else if 59 < c.minute then .error (outOfBounds "minute must be in 0..59")
  else if 59 < c.second then .error (outOfBounds "second must be in 0..59")
  else .ok ()

/-- The value of a timestamp. -/
def value (t : Timestamp) : Except Fault Value :=
  match t.clock with
  | none => do
    t.checkDate
    return .date t.year t.month t.day
  | some c => do
    let offset ← c.offset.mapM offsetMinutes
    t.checkDate
    checkClock c
    return .moment ⟨t.year, t.month, t.day, c.hour, c.minute, c.second, micros c.decimals, offset⟩

end Timestamp

end GridUnion.Yaml
