import GridUnion.Number
import GridUnion.Time.Calendar

/-!
# Units of time

Instants and durations are whole counts of a unit.  An instant counts from the start of 1970.  A
count is kept in a signed word of 64 bits, whose least value stands for no time at all.
-/

namespace GridUnion

/-- A unit of time, from the coarsest to the finest; `generic` is a unit not yet chosen. -/
inductive TimeUnit where
  | year | month | week | day | hour | minute | second
  | milli | micro | nano | pico | femto | atto | generic
  deriving DecidableEq, Repr, Inhabited

namespace TimeUnit

/-- The units from coarse to fine with their symbols. -/
def symbols : List (TimeUnit × String) :=
  [(year, "Y"), (month, "M"), (week, "W"), (day, "D"), (hour, "h"), (minute, "m"), (second, "s"),
    (milli, "ms"), (micro, "us"), (nano, "ns"), (pico, "ps"), (femto, "fs"), (atto, "as"),
    (generic, "")]

def symbol (u : TimeUnit) : String := (symbols.lookup u).getD ""

def ofSymbol? (s : String) : Option TimeUnit :=
  (symbols.find? fun (_, t) => t == s).map (·.1)

/-- The place in the order from coarse to fine; any unit is finer than `generic`. -/
def fineness : TimeUnit → Nat
  | generic => 0 | year => 1 | month => 2 | week => 3 | day => 4 | hour => 5 | minute => 6
  | second => 7 | milli => 8 | micro => 9 | nano => 10 | pico => 11 | femto => 12 | atto => 13

/-- The finer of two units. -/
def finer (u v : TimeUnit) : TimeUnit := if u.fineness < v.fineness then v else u

/-- Years and months are counted by the calendar. -/
def isCalendar : TimeUnit → Bool
  | year => true
  | month => true
  | _ => false

/-- The length in attoseconds, times 4800 so that an average month is whole. -/
def length : TimeUnit → Nat
  | year => 12 * (146097 * 86400 * 10 ^ 18)
  | month => 146097 * 86400 * 10 ^ 18
  | week => 7 * 86400 * 10 ^ 18 * 4800
  | day => 86400 * 10 ^ 18 * 4800
  | hour => 3600 * 10 ^ 18 * 4800
  | minute => 60 * 10 ^ 18 * 4800
  | second => 10 ^ 18 * 4800
  | milli => 10 ^ 15 * 4800
  | micro => 10 ^ 12 * 4800
  | nano => 10 ^ 9 * 4800
  | pico => 10 ^ 6 * 4800
  | femto => 10 ^ 3 * 4800
  | atto => 4800
  | generic => 1

/-- The units from coarse to fine. -/
def fromCoarse : List TimeUnit :=
  [year, month, week, day, hour, minute, second, milli, micro, nano, pico, femto, atto]

/-- The number of the next finer unit in a unit; `1` where the calendar decides. -/
def step : TimeUnit → Nat
  | week => 7 | day => 24 | hour => 60 | minute => 60
  | second => 1000 | milli => 1000 | micro => 1000 | nano => 1000 | pico => 1000 | femto => 1000
  | _ => 1

/-- One more step of a ratio; a ratio stays below `2 ^ 56`. -/
def extendRatio (ratio? : Option Nat) (u : TimeUnit) : Option Nat :=
  ratio?.bind fun r => if r * u.step < 2 ^ 56 then some (r * u.step) else none

/-- The number of fine units in a coarse one, step by step, unless it grows too large. -/
def ratio? (coarse fine : TimeUnit) : Option Nat :=
  (fromCoarse.filter fun u => coarse.fineness ≤ u.fineness && u.fineness < fine.fineness).foldl
    extendRatio (some 1)

/-- Whether a whole ratio leads from one unit to another; years and months count in days. -/
def isConvertible (u v : TimeUnit) : Bool :=
  let (coarse, fine) := if u.fineness ≤ v.fineness then (u, v) else (v, u)
  if u = generic || v = generic || u = v then true
  else if coarse.isCalendar then
    fine.isCalendar || fine = week || (ratio? day fine).isSome
  else (ratio? coarse fine).isSome

/-- The unit in which a table keeps times of a unit: not coarser than seconds, nor finer than
nanoseconds. -/
def kept (u : TimeUnit) : TimeUnit :=
  if u = generic then nano
  else if u.fineness < second.fineness then second
  else if nano.fineness < u.fineness then nano
  else u

end TimeUnit

/-- Why two units have no common unit. -/
inductive UnitFault where
  /-- The calendar decides how many of one make the other. -/
  | incommensurable (one other : TimeUnit)
  /-- Too many of one make the other. -/
  | tooFar (one other : TimeUnit)
  deriving DecidableEq, Repr

namespace TimeUnit

/-- The common unit of two types of times, each with whether it is one of durations.  Durations in
years and months have no common unit with others. -/
def common (u : TimeUnit) (isDuration : Bool) (v : TimeUnit) (isDuration' : Bool) :
    Except UnitFault TimeUnit :=
  if u = generic || v = generic || u = v then .ok (u.finer v)
  else if (u.isCalendar && isDuration && !v.isCalendar) ||
      (v.isCalendar && isDuration' && !u.isCalendar) then .error (.incommensurable u v)
  else
    let (coarse, fine) := if u.fineness ≤ v.fineness then (u, v) else (v, u)
    if (ratio? coarse fine).isSome then .ok fine else .error (.tooFar u v)

end TimeUnit

/-- A count of a unit of time, or no time. -/
abbrev Count := Option Int

namespace Count

/-- The word of 64 bits with the same remainder. -/
def wrap (n : Int) : Int := Int.bmod n (2 ^ 64)

/-- The word that stands for no time. -/
def absent : Int := -2 ^ 63

/-- The count kept in a word. -/
def ofWord (n : Int) : Count := if wrap n = absent then none else some (wrap n)

/-- The word that keeps a count. -/
def toWord : Count → Int
  | none => absent
  | some n => n

/-- A count of units of length `from` as a count of units of length `to`, rounded down. -/
def rescale (fromLength toLength : Nat) (n : Int) : Int :=
  let g := Nat.gcd fromLength toLength
  let num : Int := (fromLength / g : Nat)
  let den : Int := (toLength / g : Nat)
  Int.fdiv (wrap (n * num)) den

/-- An instant in another unit, rounded down. -/
def convertInstant (source target : TimeUnit) : Count → Count
  | none => none
  | some n =>
    if source = .generic ∨ target = .generic ∨ source = target then some n
    else
      match source.isCalendar, target.isCalendar with
      | true, true => ofWord (rescale source.length target.length n)
      | true, false =>
        let month := if source = .year then 12 * (n + 1970) else n + 12 * 1970
        ofWord (rescale TimeUnit.day.length target.length (Calendar.dayOfMonth month))
      | false, true =>
        let month := Calendar.monthOfDay (rescale source.length TimeUnit.day.length n) - 12 * 1970
        ofWord (rescale TimeUnit.month.length target.length month)
      | false, false => ofWord (rescale source.length target.length n)

/-- A duration in another unit, rounded down; years and months have their average length. -/
def convertDuration (source target : TimeUnit) : Count → Count
  | none => none
  | some n =>
    if source = .generic ∨ target = .generic then some n
    else ofWord (rescale source.length target.length n)

/-- The seconds until `n` units after the start of 1970, years and months by the calendar; for
units not finer than seconds. -/
def secondsOf (u : TimeUnit) (n : Int) : Int :=
  match u with
  | .year => 86400 * Calendar.dayOfMonth (12 * (n + 1970))
  | .month => 86400 * Calendar.dayOfMonth (n + 12 * 1970)
  | _ => n * (u.length / TimeUnit.second.length : Nat)

/-- A count in the unit in which a table keeps it, if there is a word for it. -/
def kept? (u : TimeUnit) : Count → Option Count
  | none => some none
  | some n =>
    if u = .generic ∨ u.kept = u then some (some n)
    else if u.fineness < TimeUnit.second.fineness then
      if (secondsOf u n).natAbs < 2 ^ 63 then some (some (secondsOf u n)) else none
    else some (ofWord (rescale u.length u.kept.length n))

end Count

end GridUnion
