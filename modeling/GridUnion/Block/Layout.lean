import GridUnion.Block
import GridUnion.Double.Places

/-!
# Blocks as text

`Block.text` writes the elements of a block between brackets, one pair for every dimension.  The
elements have a common layout: numbers stand in columns, real numbers have at most eight places and
an exponent where the largest is far from the smallest.  Lines have a limited width, and of a large
block only the first and the last elements along every dimension are written.  `Block.shown` is the
same with commas and, where it does not follow from the elements, the type.
-/

namespace GridUnion

namespace Layout

/-- The text to the right of as many blanks as make up the width. -/
def alignRight (width : Nat) (s : String) : String :=
  String.ofList (List.replicate (width - s.length) ' ') ++ s

/-- The greatest length among texts. -/
def greatestLength (texts : List String) : Nat := (texts.map String.length).foldl max 0

/-! ### Real numbers -/

/-- The layout of real numbers that stand together. -/
inductive RealLayout where
  /-- The places before the point and after it. -/
  | positional (left right : Nat)
  /-- The places before the point, those after it, and those of the exponent. -/
  | exponent (left right digits : Nat)
  deriving DecidableEq, Repr

/-- The number of places after the point that are written. -/
def places : Nat := 8

/-- The units of a finite number that is not zero. -/
def sizeOf? : Double → Option Nat
  | .finite _ u => if u = 0 then none else some u
  | _ => none

/-- Numbers from this one on are written with an exponent. -/
def largest (p : Precision) : Nat := (if p = .single then 10 ^ 6 else 10 ^ 8) * Double.one

/-- Numbers below this one are written with an exponent. -/
def smallest (p : Precision) : Double := (Double.ofDecimal false 1 (-4)).toPrecision p

/-- Whether numbers are written with an exponent: some are large or small, or the largest is more
than a thousand times the smallest. -/
def needsExponent (p : Precision) (xs : List Double) : Bool :=
  match xs.filterMap sizeOf? with
  | [] => false
  | u :: us =>
    let high := us.foldl max u
    let low := us.foldl min u
    largest p ≤ high || (Double.finite false low).lt (smallest p) ||
      (Double.exact 1000).lt (Double.round p false (high * Double.one) low)

/-- A sign and the digits before the point. -/
def wholeText (negative : Bool) (digits : List Char) : String :=
  (if negative then "-" else "") ++ String.ofList digits

/-- A number in positional notation: what stands before the point and after it. -/
def positionalParts (p : Precision) (negative : Bool) (u : Nat) : String × String :=
  let d := Double.toPlaces p u places
  (wholeText negative d.wholeDigits, String.ofList d.fractionDigits)

/-- A number with an exponent and at least `least` digits: what stands before the point and after
it, and the exponent. -/
def exponentParts (p : Precision) (negative : Bool) (u least : Nat) : String × String × Int :=
  let d := Double.toDigits p u least (places + 1)
  (wholeText negative (d.digits.take 1), String.ofList (d.digits.drop 1), d.point - 1)

/-- The signs and units of the finite numbers. -/
def finiteParts (xs : List Double) : List (Bool × Nat) :=
  xs.filterMap fun x => match x with
    | .finite s u => some (s, u)
    | _ => none

/-- The places before the point and after it that numbers take up. -/
def widths (parts : List (String × String)) : Nat × Nat :=
  (greatestLength (parts.map (·.1)), greatestLength (parts.map (·.2)))

/-- The layout of real numbers. -/
def realLayout (p : Precision) (xs : List Double) : RealLayout :=
  let finite := finiteParts xs
  let layout := if needsExponent p xs then
      let parts := finite.map fun (s, u) => exponentParts p s u 1
      let (left, right) := widths (parts.map fun (w, f, _) => (w, f))
      let digits := (parts.map fun (_, _, e) => (toString e.natAbs).length).foldl max 2
      RealLayout.exponent left right digits
    else
      let (left, right) := widths (finite.map fun (s, u) => positionalParts p s u)
      RealLayout.positional left right
  let words := (xs.filter fun x => !x.isFinite).map (Double.textOf p)
  let widen (left right : Nat) : Nat :=
    (words.map fun w => w.length - (right + 1)).foldl max left
  match layout with
  | .positional left right => .positional (widen left right) right
  | .exponent left right digits => .exponent (widen left (digits + 2 + right)) right digits

/-- A digit sequence made longer on the right. -/
def extendRight (width : Nat) (filler : Char) (s : String) : String :=
  s ++ String.ofList (List.replicate (width - s.length) filler)

/-- A real number in a layout. -/
def realText (p : Precision) (layout : RealLayout) (x : Double) : String :=
  match x, layout with
  | .finite s u, .positional left right =>
    let (whole, fraction) := positionalParts p s u
    alignRight left whole ++ "." ++ extendRight right ' ' fraction
  | .finite s u, .exponent left right digits =>
    let (whole, fraction, e) := exponentParts p s u (right + 1)
    let size := toString e.natAbs
    alignRight left whole ++ "." ++ extendRight right '0' fraction ++ "e" ++
      (if e < 0 then "-" else "+") ++
        String.ofList (List.replicate (digits - size.length) '0') ++ size
  | x, .positional left right => alignRight (left + right + 1) (x.textOf p)
  | x, .exponent left right digits =>
    alignRight (left + (digits + 2 + right) + 1) (x.textOf p)

/-! ### Elements -/

/-- A time between quotation marks, unless it is a duration. -/
def timeText (type : ElementType) (c : Count) : String :=
  let text := (Element.time c).textIn type
  if type.isInstant || c.isNone then "'" ++ text ++ "'" else text

/-- The real numbers among elements. -/
def realsOf (cells : List Element) : List Double :=
  cells.filterMap fun e => match e with
    | .real x => some x
    | _ => none

/-- The elements of a block in their common layout. -/
def words (type : ElementType) (inRows : Bool) (cells : List Element) : List String :=
  let p := if type = .single then Precision.single else Precision.double
  let layout := realLayout p (realsOf cells)
  let texts := cells.map fun e => match type, e with
    | .object, e => (Scalar.ofCell .object e).shown
    | _, .bool b => if b then (if inRows then " True" else "True") else "False"
    | _, .text t => Text.quoted t
    | _, .real x => realText p layout x
    | t, .time c => timeText t c
    | t, e => e.textIn t
  match type with
  | .object | .text _ | .bool | .single | .double => texts
  | _ => texts.map (alignRight (greatestLength texts))

/-! ### Lines -/

/-- Lines that are being filled: the finished ones, and the one being written. -/
structure Lines where
  done : String
  line : String

/-- The text without blanks at its end. -/
def trimRight (s : String) : String :=
  String.ofList (s.toList.reverse.dropWhile (· == ' ')).reverse

/-- A word more, on a new line if it does not fit. -/
def Lines.add (width indent : Nat) (ls : Lines) (word : String) : Lines :=
  if width < ls.line.length + word.length ∧ indent < ls.line.length then
    let start := String.ofList (List.replicate indent ' ')
    ⟨ls.done ++ trimRight ls.line ++ "\n", start ++ word⟩
  else { ls with line := ls.line ++ word }

/-- Words with a separator between them, on lines of a limited width. -/
def fill (separator : String) (width indent : Nat) : Lines → List String → String
  | ls, [] => ls.done ++ ls.line
  | ls, [word] =>
    let ls := ls.add width indent word
    ls.done ++ ls.line
  | ls, word :: rest =>
    let ls := ls.add width indent word
    fill separator width indent { ls with line := ls.line ++ separator } rest

/-- What stands for elements that are left out. -/
def ellipsis : String := "..."

/-- The number of elements that are written at each end of a long dimension. -/
def edge : Nat := 3

/-- Items with a mark where some were left out. -/
def marked (isCut : Bool) (xs : List String) : List String :=
  if isCut then xs.take edge ++ ellipsis :: xs.drop edge else xs

/-- A dimension as it is written: its size, and whether elements are left out. -/
abbrev Extent := Nat × Bool

/-- Elements between brackets, `indent` blanks from the left. -/
def brackets (separator : String) : (width indent : Nat) → List Extent → List String → String
  | _, _, [], cells => cells.headD ""
  | width, indent, [(_, isCut)], cells =>
    let start := String.ofList (List.replicate indent ' ')
    let body := fill separator (width - 1) indent ⟨"", start⟩ (marked isCut cells)
    "[" ++ String.ofList (body.toList.drop indent) ++ "]"
  | width, indent, (n, isCut) :: inner, cells =>
    let size := (inner.map (·.1)).prod
    let rows := (List.range n).map fun i =>
      brackets separator (width - 1) (indent + 1) inner ((cells.drop (i * size)).take size)
    let start := String.ofList (List.replicate indent ' ')
    let gap := trimRight separator ++ String.ofList (List.replicate inner.length '\n') ++ start
    "[" ++ gap.intercalate (marked isCut rows) ++ "]"

/-- The positions of a dimension that are written. -/
def written (isLarge : Bool) (n : Nat) : List Nat :=
  if isLarge && 2 * edge < n then List.range edge ++ (List.range edge).map (n - edge + ·)
  else List.range n

/-- The most elements that are all written. -/
def threshold : Nat := 1000

/-- The elements of a block between brackets, after `start` characters of the first line. -/
def body (separator : String) (width start : Nat) (b : Block) : String :=
  if b.data.isEmpty then "[]"
  else
    let isLarge := decide (threshold < b.data.length)
    let part := b.select (b.shape.map (written isLarge))
    let extents := b.shape.map fun n =>
      ((written isLarge n).length, isLarge && decide (2 * edge < n))
    brackets separator width (start + 1) extents (words b.type (!b.shape.isEmpty) part.data)

end Layout

namespace Block

/-- The width of a line. -/
def lineWidth : Nat := 75

/-- The scalar that a block without dimensions holds. -/
def scalar? (b : Block) : Option Scalar :=
  match b.shape, b.scalars with
  | [], [s] => some s
  | _, _ => none

/-- A block as plain text. -/
def text (b : Block) : String :=
  match b.scalar? with
  | some s => s.text
  | none => Layout.body " " lineWidth 0 b

/-- Whether the type of a block follows from how its elements are shown. -/
def isImplied (b : Block) : Bool :=
  match b.type with
  | .signed .w64 | .double | .bool => !b.data.isEmpty
  | _ => false

/-- The name of a type after the elements of a block; one that is no plain word is quoted. -/
def typeText (t : ElementType) : String :=
  if t.name.toList.all Char.isAlphanum then t.name else "'" ++ t.name ++ "'"

/-- What is said about a block after its elements. -/
def remarks (b : Block) : List String :=
  (if (b.data.isEmpty && b.shape != [0]) || decide (Layout.threshold < b.data.length) then
    ["shape=" ++ shapeText b.shape] else []) ++
  (if b.isImplied then [] else ["dtype=" ++ typeText b.type])

/-- A block as it is shown inside a list or a message. -/
def shown (b : Block) : String :=
  let elements := "array(" ++ Layout.body ", " (lineWidth - 1) 6 b
  match b.remarks with
  | [] => elements ++ ")"
  | remarks =>
    let extra := ", ".intercalate remarks ++ ")"
    let last := (elements.splitOn "\n").getLastD ""
    let gap := if lineWidth < last.length + 1 + extra.length + 1 then "\n      " else " "
    elements ++ "," ++ gap ++ extra

end Block

end GridUnion
