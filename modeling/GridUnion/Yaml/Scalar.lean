import GridUnion.Text.Lower
import GridUnion.Yaml.Tag
import GridUnion.Yaml.Scalar.Base64
import GridUnion.Element.Convert

/-!
# Values of scalars

What a scalar stands for, by its tag.
-/

namespace GridUnion.Yaml.Scalar

/-- A value that is not what its tag says. -/
def wrong {α : Type} (text : String) : Except Fault α := .error (.badScalar .value text)

/-- A text ends where a character is expected. -/
def tooShort {α : Type} : Except Fault α :=
  .error (.badScalar .index "string index out of range")

/-- A text without underscores. -/
def withoutUnderscores (cs : List Char) : List Char := cs.filter (· != '_')

/-- The sign in front of a number and what follows it; there has to be something. -/
def takeSign : List Char → Except Fault (Bool × List Char)
  | [] => tooShort
  | '-' :: cs => .ok (true, cs)
  | '+' :: cs => .ok (false, cs)
  | cs => .ok (false, cs)

/-! ### Whole numbers -/

/-- A whole number in decimal digits. -/
def decimal (cs : List Char) : Except Fault Int :=
  let s := String.ofList cs
  match Element.readInteger (Text.quoted s) s with
  | .ok n => .ok n
  | .error f => wrong f.text

/-- The value of a digit or letter. -/
def digit? (c : Char) : Option Nat :=
  match Text.decimalValue? c with
  | some d => some d
  | none =>
    if 'a' ≤ c ∧ c ≤ 'z' then some (c.toNat - 87)
    else if 'A' ≤ c ∧ c ≤ 'Z' then some (c.toNat - 55)
    else none

/-- The letter that may follow a zero in front of the digits of a base. -/
def baseLetter (base : Nat) : Char := if base = 2 then 'b' else if base = 8 then 'o' else 'x'

/-- A text without the zero and the letter of a base in front of it. -/
def withoutBase (base : Nat) : List Char → List Char
  | '0' :: c :: cs => if c.toLower = baseLetter base then cs else '0' :: c :: cs
  | cs => cs

/-- A whole number in the digits of a base. -/
def based (base : Nat) (cs : List Char) : Except Fault Int :=
  let (negative, body) := Text.takeSign (Text.trimBlanks cs)
  let digits := (withoutBase base body).mapM fun c => (digit? c).filter (· < base)
  match digits with
  | some (d :: ds) =>
    let n : Int := ((d :: ds).foldl (fun n d => base * n + d) 0 : Nat)
    .ok (if negative then -n else n)
  | _ => wrong ("invalid literal for int() with base " ++ toString base ++ ": " ++
      String.ofList ((Text.quoted (String.ofList cs)).toList.take Element.shownLength))

/-- A whole number in sixtieths, without its sign. -/
def sixtieths (cs : List Char) : Except Fault Int := do
  let parts ← (Tag.colonParts cs).mapM decimal
  return parts.foldl (fun n d => 60 * n + d) 0

/-- A whole number. -/
def int (cs : List Char) : Except Fault Int := do
  let (negative, body) ← takeSign (withoutUnderscores cs)
  let n ←
    match body with
    | [] => tooShort
    | ['0'] => pure 0
    | '0' :: 'b' :: cs => based 2 cs
    | '0' :: 'x' :: cs => based 16 cs
    | '0' :: _ => based 8 body
    | _ => if body.contains ':' then sixtieths body else decimal body
  return if negative then -n else n

/-! ### Real numbers -/

/-- A real number in decimal digits. -/
def realDecimal (cs : List Char) : Except Fault Double :=
  let s := String.ofList cs
  match Element.readReal (Text.quoted s) s with
  | .ok x => .ok x
  | .error f => wrong f.text

/-- The sum of sixtieths, the last one first, each with its place value. -/
def sumSixtieths : (place : Nat) → (sum : Double) → List Double → Except Fault Double
  | _, sum, [] => .ok sum
  | place, sum, x :: xs =>
    let weight := Double.ofInt place
    if weight.isFinite then sumSixtieths (60 * place) (sum.add (x.mul weight)) xs
    else .error (.badScalar .overflow ConversionFault.tooLargeForDouble.text)

/-- The text of a real number in lower case and without underscores: its sign, and the rest. -/
def realText (cs : List Char) : Except Fault (Bool × List Char) :=
  takeSign (Text.lower (withoutUnderscores cs))

/-- Whether a text is the usual way to write what is not a number. -/
def isUsualNan (cs : List Char) : Bool :=
  (realText cs).toOption.any fun (_, body) => body == ['.', 'n', 'a', 'n']

/-- A real number. -/
def real (cs : List Char) : Except Fault Double := do
  let (negative, body) ← realText cs
  let x ←
    if body = ['.', 'i', 'n', 'f'] then pure (Double.infinite false)
    else if body = ['.', 'n', 'a', 'n'] then return .nan
    else if body.contains ':' then do
      let parts ← (Tag.colonParts body).mapM realDecimal
      sumSixtieths 1 Double.zero parts.reverse
    else realDecimal body
  return if negative then x.neg else x

/-! ### All scalars -/

/-- The value of a truth word. -/
def truth (s : String) : Except Fault Bool :=
  let word := String.ofList (Text.lower s.toList)
  match Tag.truthWords.lookup word with
  | some b => .ok b
  | none => .error (.badScalar .key word)

/-- The bytes of a text in base 64. -/
def bytes (s : String) : Except Fault (List UInt8) :=
  if s.toList.any fun c => 128 ≤ c.toNat then .error .malformed
  else match Base64.decode s.toList with
    | some bs => .ok bs
    | none => .error .malformed

/-- A date or a moment. -/
def time (s : String) : Except Fault Value :=
  match Timestamp.ofChars? (Tag.withoutFinalFeed s.toList) with
  | some t => t.value
  | none =>
    .error (.badScalar .missingAttribute "'NoneType' object has no attribute 'groupdict'")

/-- The value of a scalar with a tag. -/
def value (tag : Tag) (s : String) : Except Fault Value :=
  match tag with
  | .null => .ok .null
  | .bool => (truth s).map .bool
  | .int => (int s.toList).map .int
  | .real => (real s.toList).map .real
  | .bytes => (bytes s).map .bytes
  | .time => time s
  | .text => .ok (.text s)
  | _ => .error .malformed

end GridUnion.Yaml.Scalar
