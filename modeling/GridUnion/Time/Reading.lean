import GridUnion.Time.Unit

/-!
# Times from text

`Instant.read` reads a date, perhaps with a time of day and an offset from universal time, and
counts it in a unit, rounded down.  `Duration.read?` reads a whole number of units.  The empty text
and the word `NaT` in any case stand for no time.
-/

namespace GridUnion

/-- Why a text names no instant. -/
inductive InstantFault where
  /-- It cannot be read from this place on. -/
  | malformed (position : Nat)
  /-- A part of it is a number that is too large or too small. -/
  | outOfRange (part : String)
  deriving DecidableEq, Repr

/-- Date and time of day as they are written. -/
structure Civil where
  year : Int
  month : Nat
  day : Nat
  hour : Nat
  minute : Nat
  second : Nat
  /-- The fraction of the second in attoseconds. -/
  fraction : Nat
  /-- The minutes that the clock is ahead of universal time. -/
  offset : Int
  deriving DecidableEq, Repr

namespace Count

/-- Whether a text stands for no time. -/
def isAbsent (cs : List Char) : Bool :=
  cs.isEmpty || cs.map Char.toLower == ['n', 'a', 't']

/-- Blanks between words. -/
def isGap (c : Char) : Bool := c == ' ' || ('\t' ≤ c && c ≤ '\x0d')

/-- The number that decimal digits stand for. -/
def ofDecimals (cs : List Char) : Nat := cs.foldl (fun n c => 10 * n + (c.toNat - 48)) 0

end Count

namespace Civil

/-- The first moment of a year. -/
def ofYear (year : Int) : Civil := ⟨year, 1, 1, 0, 0, 0, 0, 0⟩

/-- The instant in a unit, rounded down. -/
def toCount (unit : TimeUnit) (c : Civil) : Count :=
  let day := Calendar.dayNumber c.year c.month c.day
  let minute := 1440 * day + 60 * c.hour + c.minute - c.offset
  let months (day : Int) : Int := Calendar.monthOfDay day - 12 * 1970
  let today := Int.fdiv minute 1440
  match unit with
  | .year => Count.ofWord (Int.fdiv (months today) 12)
  | .month => Count.ofWord (months today)
  | .generic => Count.ofWord today
  | _ =>
    let ticks := (60 * minute + c.second) * (10 ^ 18 : Nat) + c.fraction
    Count.ofWord (Int.fdiv ticks ((unit.length / TimeUnit.atto.length : Nat)))

end Civil

namespace Instant

/-- What is left of a text of `size` characters cannot be read. -/
def refuse {α : Type} (size : Nat) (left : List Char) : Except InstantFault α :=
  .error (.malformed (size - left.length))

/-- The number of two digits, and what follows it. -/
def twoDigits (size : Nat) : List Char → Except InstantFault (Nat × List Char)
  | a :: b :: left =>
    if a.isDigit && b.isDigit then .ok (Count.ofDecimals [a, b], left)
    else refuse size (a :: b :: left)
  | left => refuse size left

/-- The number of two digits between bounds. -/
def field (part : String) (low high size : Nat) (left : List Char) :
    Except InstantFault (Nat × List Char) := do
  let (n, left) ← twoDigits size left
  if low ≤ n ∧ n ≤ high then return (n, left) else throw (.outOfRange part)

/-- The number of two digits up to a bound, or of a single digit. -/
def shortField (part : String) (high size : Nat) (left : List Char) :
    Except InstantFault (Nat × List Char) :=
  match left.takeWhile Char.isDigit with
  | [a] => .ok (Count.ofDecimals [a], left.drop 1)
  | _ => field part 0 high size left

/-- The minutes of an offset, with or without a colon in front. -/
def offsetMinutes (size : Nat) (left : List Char) : Except InstantFault (Nat × List Char) :=
  match left with
  | [] => .ok (0, [])
  | ':' :: rest => shortField "Timezone minutes offset" 59 size rest
  | left => shortField "Timezone minutes offset" 59 size left

/-- Universal time, or an offset from it; nothing but blanks may follow. -/
def zone (size : Nat) (c : Civil) (left : List Char) : Except InstantFault Civil := do
  let (c, left) ← match left with
    | 'Z' :: rest => pure (c, rest)
    | sign :: rest =>
      if sign == '+' || sign == '-' then
        let (h, rest) ← shortField "Timezone hours offset" 23 size rest
        let (m, rest) ← offsetMinutes size rest
        let minutes : Int := 60 * h + m
        pure ({ c with offset := if sign == '-' then -minutes else minutes }, rest)
      else pure (c, left)
    | [] => pure (c, [])
  match left.dropWhile Count.isGap with
  | [] => return c
  | left => refuse size left

/-- The fraction of a second: at most eighteen digits. -/
def fraction (size : Nat) (c : Civil) (left : List Char) : Except InstantFault Civil :=
  let digits := (left.takeWhile Char.isDigit).take 18
  let attos := Count.ofDecimals digits * 10 ^ (18 - digits.length)
  zone size { c with fraction := attos } (left.drop digits.length)

/-- The time of day after the hours. -/
def clock (size : Nat) (c : Civil) (left : List Char) : Except InstantFault Civil :=
  match left with
  | ':' :: left => do
    let (minute, left) ← field "Minutes" 0 59 size left
    let c := { c with minute := minute }
    match left with
    | ':' :: left => do
      let (second, left) ← field "Seconds" 0 59 size left
      let c := { c with second := second }
      match left with
      | '.' :: left => fraction size c left
      | left => zone size c left
    | left => zone size c left
  | left => zone size c left

/-- The day of the month, and the time of day if there is one. -/
def dayAndClock (size : Nat) (c : Civil) (left : List Char) : Except InstantFault Civil := do
  let last := Calendar.monthLength (Int.fmod c.year 400).toNat c.month
  let (day, left) ← field "Day" 1 last size left
  let c := { c with day := day }
  match left with
  | [] => return c
  | sep :: left =>
    if sep == 'T' || sep == ' ' then
      let (hour, left) ← field "Hours" 0 23 size left
      clock size { c with hour := hour } left
    else refuse size (sep :: left)

/-- What follows the year. -/
def afterYear (size : Nat) (year : Int) (left : List Char) : Except InstantFault Civil :=
  match left with
  | [] => .ok (Civil.ofYear year)
  | '-' :: left => do
    let (month, left) ← field "Month" 1 12 size left
    let c := { Civil.ofYear year with month := month }
    match left with
    | [] => return c
    | '-' :: left => dayAndClock size c left
    | left => refuse size left
  | left => refuse size left

/-- Date and time of day of a text that stands for a time.  A year may have a sign, and is negative
if the text begins with a minus. -/
def civil (cs : List Char) : Except InstantFault Civil :=
  let left := cs.dropWhile Count.isGap
  let unsigned := match left with
    | '-' :: rest | '+' :: rest => rest
    | left => left
  match unsigned with
  | [] => refuse cs.length []
  | _ =>
    let digits := unsigned.takeWhile Char.isDigit
    let n := Count.wrap (Count.ofDecimals digits)
    let year := if cs.head? = some '-' then -n else n
    afterYear cs.length year (unsigned.drop digits.length)

/-- The instant that a text names, counted in a unit. -/
def read (unit : TimeUnit) (s : String) : Except InstantFault Count :=
  if Count.isAbsent s.toList then .ok none
  else (civil s.toList).map (Civil.toCount unit)

end Instant

namespace Duration

/-- A number kept between the least and the greatest word. -/
def clampWord (n : Int) : Int := max (-2 ^ 63) (min (2 ^ 63 - 1) n)

/-- The number of units that a text names: blanks, a sign and digits. -/
def read? (s : String) : Option Count :=
  if Count.isAbsent s.toList then some none
  else
    let left := s.toList.dropWhile Count.isGap
    let (negative, digits) := match left with
      | '-' :: rest => (true, rest)
      | '+' :: rest => (false, rest)
      | rest => (false, rest)
    if digits.isEmpty || !digits.all Char.isDigit then none
    else
      let n : Int := Count.ofDecimals digits
      some (Count.ofWord (clampWord (if negative then -n else n)))

end Duration

end GridUnion
