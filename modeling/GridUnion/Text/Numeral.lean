import GridUnion.Text.Blank
import GridUnion.Double

/-!
# Numbers written as text

`readInt` reads a whole number: blanks around it, a sign, and decimal digits of any script with
single underscores between them.  `readDouble` reads a number with a point, an exponent, or one of
the words for infinity and not-a-number.
-/

namespace GridUnion.Text

/-- Why a text is not a whole number. -/
inductive NumeralFault where
  | malformed
  /-- There are more digits than are converted at once. -/
  | tooLong (digits : Nat)
  deriving DecidableEq, Repr

/-- The greatest number of digits that are converted at once. -/
def digitLimit : Nat := 4300

/-- A sign in front of a number: whether it is negative, and the rest. -/
def takeSign : List Char → Bool × List Char
  | '-' :: cs => (true, cs)
  | '+' :: cs => (false, cs)
  | cs => (false, cs)

/-- Whether a digit comes first. -/
def startsWithDigit : List Char → Bool
  | [] => false
  | c :: _ => (decimalValue? c).isSome

/-- The digits up to the first character that is none, with single underscores between digits, and
the rest.  An underscore that no digit follows belongs to the rest. -/
def takeDigits : List Char → List Nat × List Char
  | [] => ([], [])
  | [c] => match decimalValue? c with
    | none => ([], [c])
    | some d => ([d], [])
  | c :: c' :: cs =>
    match decimalValue? c with
    | none => ([], c :: c' :: cs)
    | some d =>
      if c' == '_' && startsWithDigit cs then (d :: (takeDigits cs).1, (takeDigits cs).2)
      else (d :: (takeDigits (c' :: cs)).1, (takeDigits (c' :: cs)).2)

/-- The number with these decimal digits. -/
def ofDigits (ds : List Nat) : Nat := ds.foldl (fun n d => 10 * n + d) 0

/-- Reads a whole number. -/
def readInt (s : String) : Except NumeralFault Int :=
  let (negative, body) := takeSign (trimBlanks s.toList)
  let (ds, rest) := takeDigits body
  if digitLimit < ds.length then .error (.tooLong ds.length)
  else if ds.isEmpty || !rest.isEmpty then .error .malformed
  else
    let n : Int := ofDigits ds
    .ok (if negative then -n else n)

/-- The lower case of the Latin letters. -/
def lowerLatin (cs : List Char) : List Char := cs.map Char.toLower

/-- A fraction after a number's whole digits: its digits and the rest. -/
def takeFraction : List Char → List Nat × List Char
  | '.' :: cs => takeDigits cs
  | cs => ([], cs)

/-- An exponent at the end of a number. -/
def takeExponent? : List Char → Option Int
  | [] => some 0
  | c :: cs =>
    if c == 'e' || c == 'E' then
      let (negative, body) := takeSign cs
      let (ds, rest) := takeDigits body
      if ds.isEmpty || !rest.isEmpty then none
      else
        let n : Int := ofDigits ds
        some (if negative then -n else n)
    else none

/-- Reads a number with a point, an exponent, or a word. -/
def readDouble? (s : String) : Option Double :=
  let (negative, body) := takeSign (trimBlanks s.toList)
  let word := String.ofList (lowerLatin body)
  if word == "inf" || word == "infinity" then some (.infinite negative)
  else if word == "nan" then some .nan
  else
    let (whole, afterWhole) := takeDigits body
    let (fraction, afterFraction) := takeFraction afterWhole
    if whole.isEmpty && fraction.isEmpty then none
    else
      (takeExponent? afterFraction).map fun e =>
        Double.ofDecimal negative (ofDigits (whole ++ fraction)) (e - fraction.length)

end GridUnion.Text
