import GridUnion.Time.Unit

/-!
# Instants as text

An instant is written with its date, and with the time of day down to its unit.
-/

namespace GridUnion.Count

/-- A number with at least `width` digits. -/
def padded (width n : Nat) : String :=
  let digits := toString n
  String.ofList (List.replicate (width - digits.length) '0') ++ digits

/-- A year in at least four places; a sign takes up one of them. -/
def yearText (year : Int) : String :=
  if year < 0 then "-" ++ padded 3 year.natAbs else padded 4 year.natAbs

/-- The date of a month, counted from `0` in January of year `0`. -/
def monthText (month : Int) : String :=
  yearText (Int.fdiv month 12) ++ "-" ++ padded 2 ((Int.fmod month 12).toNat + 1)

/-- The date of a day. -/
def dayText (day : Int) : String :=
  let month := Calendar.monthOfDay day
  monthText month ++ "-" ++ padded 2 ((day - Calendar.dayOfMonth month).toNat + 1)

/-- The number of decimals of a second that a unit shows. -/
def decimals : TimeUnit → Nat
  | .milli => 3 | .micro => 6 | .nano => 9 | .pico => 12 | .femto => 15 | .atto => 18
  | _ => 0

/-- The time of day after `ticks` units, of which a day has `perDay`. -/
def clockText (unit : TimeUnit) (ticks perDay : Nat) : String :=
  match unit with
  | .hour => "T" ++ padded 2 ticks
  | .minute => "T" ++ padded 2 (ticks / 60) ++ ":" ++ padded 2 (ticks % 60)
  | _ =>
    let perSecond := perDay / 86400
    let seconds := ticks / perSecond
    let clock := "T" ++ padded 2 (seconds / 3600) ++ ":" ++ padded 2 (seconds / 60 % 60) ++ ":" ++
      padded 2 (seconds % 60)
    match decimals unit with
    | 0 => clock
    | n => clock ++ "." ++ padded n (ticks % perSecond)

/-- An instant as text. -/
def isoText (unit : TimeUnit) : Count → String
  | none => "NaT"
  | some n =>
    match unit with
    | .generic => toString n
    | .year => yearText (n + 1970)
    | .month => monthText (n + 12 * 1970)
    | .week => dayText (7 * n)
    | .day => dayText n
    | _ =>
      let perDay := TimeUnit.day.length / unit.length
      dayText (Int.fdiv n perDay) ++ clockText unit (Int.fmod n perDay).toNat perDay

/-- A number of seconds as date and time of day, with a blank between them. -/
def secondsText (seconds : Int) : String :=
  let clock := (clockText .second (Int.fmod seconds 86400).toNat 86400).toList.drop 1
  let month := Calendar.monthOfDay (Int.fdiv seconds 86400)
  let day := Int.fdiv seconds 86400 - Calendar.dayOfMonth month + 1
  toString (Int.fdiv month 12) ++ "-" ++ padded 2 ((Int.fmod month 12).toNat + 1) ++ "-" ++
    padded 2 day.toNat ++ " " ++ String.ofList clock

end GridUnion.Count
