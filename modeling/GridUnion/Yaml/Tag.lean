import GridUnion.Yaml.Scalar.Quoted
import GridUnion.Yaml.Scalar.Timestamp

/-!
# Tags

The tag of a node tells what it stands for.  A plain scalar without a tag has the one that its text
looks like, as `Tag.ofPlain` says.
-/

namespace GridUnion.Yaml

/-- What a node stands for. -/
inductive Tag where
  | null | bool | int | real | bytes | time
  | orderedMapping | pairs | set
  | text | list | mapping
  /-- A key whose value is merged into the mapping. -/
  | merge
  /-- A key whose value stands for the mapping where a scalar is expected. -/
  | default
  | unknown
  deriving DecidableEq, Repr, Inhabited

namespace Tag

/-- The beginning of the full names of all tags. -/
def root : String := "tag:yaml.org,2002:"

/-- The tags by the ends of their full names. -/
def names : List (String × Tag) :=
  [("null", null), ("bool", bool), ("int", int), ("float", real), ("binary", bytes),
    ("timestamp", time), ("omap", orderedMapping), ("pairs", pairs), ("set", set), ("str", text),
    ("seq", list), ("map", mapping), ("merge", merge), ("value", default)]

/-- The tag with a full name. -/
def ofName (s : String) : Tag :=
  ((names.find? fun (n, _) => root ++ n == s).map (·.2)).getD unknown

/-- Whether a node with this tag holds other nodes. -/
def isContainer (t : Tag) : Bool := [orderedMapping, pairs, set, list, mapping].contains t

/-! ### Plain scalars -/

/-- The words for truth values, in lower case. -/
def truthWords : List (String × Bool) :=
  [("yes", true), ("no", false), ("true", true), ("false", false), ("on", true), ("off", false)]

/-- Whether a text is a word in lower case, in upper case, or with a capital letter in front. -/
def isWord (word : String) (s : String) : Bool :=
  s == word || s == word.toUpper || s == word.capitalize

/-- A digit or an underscore. -/
def isFigure (c : Char) : Bool := c.isDigit || c == '_'

/-- A text without the sign in front of it. -/
def unsigned : List Char → List Char
  | '-' :: cs => cs
  | '+' :: cs => cs
  | cs => cs

/-- Digits and underscores, with a digit in front. -/
def isNumeral : List Char → Bool
  | [] => false
  | c :: cs => c.isDigit && cs.all isFigure

/-- Nothing, or an exponent with a sign. -/
def isExponent : List Char → Bool
  | [] => true
  | e :: sign :: cs =>
    (e == 'e' || e == 'E') && (sign == '-' || sign == '+') && !cs.isEmpty && cs.all Char.isDigit
  | _ => false

/-- A number below sixty in one or two digits. -/
def isSixtieth : List Char → Bool
  | [a] => a.isDigit
  | [a, b] => '0' ≤ a && a ≤ '5' && b.isDigit
  | _ => false

/-- The parts of a text between colons. -/
def colonParts (cs : List Char) : List (List Char) := cs.splitOn ':'

/-- Sixtieths after a number, with colons in front of them. -/
def isSexagesimal (cs : List Char) : Bool :=
  match colonParts cs with
  | first :: parts => isNumeral first && !parts.isEmpty && parts.all isSixtieth
  | [] => false

/-- Whether a text looks like a real number. -/
def looksReal (cs : List Char) : Bool :=
  let body := unsigned cs
  let whole := body.takeWhile (· != '.')
  match body.dropWhile (· != '.') with
  | [] => false
  | _ :: fraction =>
    let word := String.ofList fraction
    if whole.isEmpty then
      isWord "inf" word || (cs.head? == some '.' &&
        (["nan", "NaN", "NAN"].contains word ||
          (fraction.head?.any Char.isDigit && isExponent (fraction.dropWhile isFigure))))
    else
      (isNumeral whole && isExponent (fraction.dropWhile isFigure)) ||
        (isSexagesimal whole && fraction.all isFigure)

/-- Whether a text looks like a whole number. -/
def looksInt (cs : List Char) : Bool :=
  match unsigned cs with
  | [] => false
  | ['0'] => true
  | '0' :: 'b' :: cs => !cs.isEmpty && cs.all fun c => c == '0' || c == '1' || c == '_'
  | '0' :: 'x' :: cs => !cs.isEmpty && cs.all fun c => (hexDigit? c).isSome || c == '_'
  | '0' :: cs => cs.all fun c => c == '_' || ('0' ≤ c && c ≤ '7')
  | cs => (isNumeral cs || isSexagesimal cs)

/-- The text without one line feed at its end. -/
def withoutFinalFeed (cs : List Char) : List Char :=
  if cs.getLast? == some '\n' then cs.dropLast else cs

/-- The tag of a plain scalar. -/
def ofPlain (s : String) : Tag :=
  let cs := withoutFinalFeed s.toList
  let body := String.ofList cs
  if truthWords.any fun (w, _) => isWord w body then bool
  else if looksReal cs then real
  else if looksInt cs then int
  else if body == "<<" then merge
  else if s == "" || body == "~" || isWord "null" body then null
  else if Timestamp.looksTimed cs then time
  else if body == "=" then default
  else if ["!", "&", "*"].contains body then unknown
  else text

end Tag

end GridUnion.Yaml
