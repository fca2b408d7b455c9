/-!
# Calendar

Days are counted from 1970-01-01 in the Gregorian calendar, extended to all years.
-/

namespace GridUnion.Calendar

/-- The days before the first day of a year that starts in March, counted from 0000-03-01. -/
def daysBeforeYear (year : Int) : Int :=
  365 * year + Int.fdiv year 4 - Int.fdiv year 100 + Int.fdiv year 400

/-- The days before a month in a year that starts in March; March is `0`. -/
def daysBeforeMonth (month : Int) : Int := Int.fdiv (153 * month + 2) 5

/-- The number of the first day of a month; `month` counts from `0` in January of year `0`. -/
def dayOfMonth (month : Int) : Int :=
  let shifted := month - 2
  daysBeforeYear (Int.fdiv shifted 12) + daysBeforeMonth (Int.fmod shifted 12) - 719468

/-- The number of a date's day. -/
def dayNumber (year : Int) (month day : Nat) : Int :=
  dayOfMonth (12 * year + (month - 1)) + (day - 1)

/-- The month of a day, counted from `0` in January of year `0`. -/
def monthOfDay (day : Int) : Int :=
  let shifted := day + 719468
  let era := Int.fdiv shifted 146097
  let dayOfEra := Int.fmod shifted 146097
  let year := (dayOfEra - dayOfEra / 1460 + dayOfEra / 36524 - dayOfEra / 146096) / 365
  let dayOfYear := dayOfEra - (365 * year + year / 4 - year / 100)
  12 * (era * 400 + year) + (5 * dayOfYear + 2) / 153 + 2

/-- Whether February of the year has 29 days. -/
def isLeap (year : Nat) : Bool := year % 4 == 0 && (year % 100 != 0 || year % 400 == 0)

/-- The number of days of a month; `0` for no month. -/
def monthLength (year month : Nat) : Nat :=
  if month == 2 then (if isLeap year then 29 else 28)
  else if month == 4 || month == 6 || month == 9 || month == 11 then 30
  else if 1 ≤ month && month ≤ 12 then 31
  else 0

end GridUnion.Calendar
