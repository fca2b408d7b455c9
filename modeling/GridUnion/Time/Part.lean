import GridUnion.Double
import GridUnion.Time.Unit
import GridUnion.Time.Calendar

/-!
# Parts of times

A count of a unit of time is a number of whole days and a part of a day.  The parts of instants go
by the calendar: years, months and days, quarters, weeks of seven days that start on a Monday, and
the clock.  The parts of durations are days, seconds, and fractions of a second.  Parts are looked
up by name.
-/

namespace GridUnion

/-- Whole days, and the time that has passed on the next one, in attoseconds. -/
structure DayTime where
  day : Int
  passed : Nat
  deriving DecidableEq, Repr

namespace DayTime

/-- The days of a count. -/
def ofCount (unit : TimeUnit) (n : Int) : DayTime :=
  let ticks : Int := n * unit.length
  ⟨Int.fdiv ticks TimeUnit.day.length, (Int.fmod ticks TimeUnit.day.length).toNat⟩

/-- The full units that have passed on the day, less full multiples of `most`. -/
def ticks (unit : TimeUnit) (most : Nat) (t : DayTime) : Int :=
  (t.passed / unit.length % most : Nat)

/-! ### The calendar -/

/-- The month, counted from `0` in January of year `0`. -/
def monthCount (t : DayTime) : Int := Calendar.monthOfDay t.day

/-- The year. -/
def year (t : DayTime) : Int := Int.fdiv t.monthCount 12

/-- The month of the year, from `1`. -/
def month (t : DayTime) : Int := Int.fmod t.monthCount 12 + 1

/-- The day of the month, from `1`. -/
def dayOfMonth (t : DayTime) : Int := t.day - Calendar.dayOfMonth t.monthCount + 1

/-- The number of the first day of the year. -/
def newYear (t : DayTime) : Int := Calendar.dayOfMonth (12 * t.year)

/-- The day of the year, from `1`. -/
def dayOfYear (t : DayTime) : Int := t.day - t.newYear + 1

/-- The day of the week, from `0` on a Monday. -/
def dayOfWeek (t : DayTime) : Int := Int.fmod (t.day + 3) 7

/-- The quarter of the year, from `1`. -/
def quarter (t : DayTime) : Int := (t.month - 1) / 3 + 1

/-- The week of the year, from `1`: a week belongs to the year of its Thursday. -/
def week (t : DayTime) : Int :=
  let thursday : DayTime := ⟨t.day - t.dayOfWeek + 3, 0⟩
  (thursday.dayOfYear - 1) / 7 + 1

/-- The number of days of the month. -/
def monthLength (t : DayTime) : Int :=
  Calendar.dayOfMonth (t.monthCount + 1) - Calendar.dayOfMonth t.monthCount

/-- The number of days of the year. -/
def yearLength (t : DayTime) : Int := Calendar.dayOfMonth (12 * (t.year + 1)) - t.newYear

/-- Whether it is the first day of its month. -/
def startsMonth (t : DayTime) : Bool := t.dayOfMonth == 1

/-- Whether it is the last day of its month. -/
def endsMonth (t : DayTime) : Bool := t.dayOfMonth == t.monthLength

/-- The season by the first letters of its months. -/
def season (t : DayTime) : String :=
  match Int.toNat (t.month / 3) with
  | 1 => "MAM"
  | 2 => "JJA"
  | 3 => "SON"
  | _ => "DJF"

/-- The year with the part of it that has passed. -/
def decimalYear (unit : TimeUnit) (t : DayTime) : Double :=
  let perDay := TimeUnit.day.length / unit.length
  let passed : Int := (t.dayOfYear - 1) * perDay + (t.passed / unit.length : Nat)
  match Double.ofInt passed, Double.ofInt (t.yearLength * perDay) with
  | .finite _ u, .finite _ v => (Double.ofInt t.year).add (Double.ofRatio false u v)
  | _, _ => .nan

/-! ### Parts by name -/

/-- The parts of instants that are numbers. -/
def instantNumbers : List (String × (DayTime → Int)) :=
  [("year", year), ("month", month), ("day", dayOfMonth), ("hour", ticks .hour 24),
    ("minute", ticks .minute 60), ("second", ticks .second 60),
    ("microsecond", ticks .micro (10 ^ 6)), ("nanosecond", ticks .nano 1000),
    ("dayofyear", dayOfYear), ("dayofweek", dayOfWeek), ("weekday", dayOfWeek),
    ("quarter", quarter), ("week", week), ("weekofyear", week), ("days_in_month", monthLength),
    ("daysinmonth", monthLength)]

/-- The parts of instants that are true or false. -/
def instantTruths : List (String × (DayTime → Bool)) :=
  [("is_month_start", startsMonth), ("is_month_end", endsMonth),
    ("is_quarter_start", fun t => t.startsMonth && Int.fmod t.month 3 == 1),
    ("is_quarter_end", fun t => t.endsMonth && Int.fmod t.month 3 == 0),
    ("is_year_start", fun t => t.dayOfYear == 1),
    ("is_year_end", fun t => t.dayOfYear == t.yearLength),
    ("is_leap_year", fun t => t.yearLength == 366)]

/-- The parts of durations. -/
def durationNumbers : List (String × (DayTime → Int)) :=
  [("days", day), ("seconds", ticks .second 86400), ("microseconds", ticks .micro (10 ^ 6)),
    ("nanoseconds", ticks .nano 1000)]

end DayTime

end GridUnion
