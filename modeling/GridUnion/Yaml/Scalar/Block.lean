import GridUnion.Yaml.Scalar.Quoted

/-!
# Block scalars

A block scalar is made of the lines below its header that are indented enough.  After `|` every line
ends with a line feed; after `>` lines are folded.  The header may tell the indentation, and which
line ends are kept after the last line.
-/

namespace GridUnion.Yaml

/-- Which line ends are kept after the last line. -/
inductive Chomping where
  /-- None. -/
  | strip
  /-- The one of the last line. -/
  | clip
  /-- That one and those of the empty lines after it. -/
  | keep
  deriving DecidableEq, Repr

/-- The header of a block scalar. -/
structure BlockHeader where
  chomping : Chomping
  /-- The indentation of the lines beyond that of the block around them. -/
  increment : Option Nat
  deriving Repr

namespace Cursor

/-- An indication of chomping, if one is next. -/
def chomping? (c : Cursor) : Option Chomping × Cursor :=
  match c.peek with
  | some '+' => (some .keep, c.advance)
  | some '-' => (some .strip, c.advance)
  | _ => (none, c)

/-- An indication of the indentation, if one is next; it must not be zero. -/
def increment? (c : Cursor) : Except Fault (Option Nat × Cursor) :=
  match c.peek with
  | some ch =>
    if ch == '0' then .error .malformed
    else if ch.isDigit then .ok (some (ch.toNat - 48), c.advance)
    else .ok (none, c)
  | none => .ok (none, c)

/-- The header of a block scalar after its first mark, and the line after it. -/
def blockHeader (c : Cursor) : Except Fault (BlockHeader × Cursor) := do
  let (first, c) := c.chomping?
  let (increment, c) ← c.increment?
  let (second, c) := if first.isNone && increment.isSome then c.chomping? else (none, c)
  if !c.atSpaceOrEnd then throw .malformed
  let c ← c.skipEmptyLine
  return (⟨(first.or second).getD .clip, increment⟩, c)

/-- The line ends of empty lines, the greatest column reached by spaces, and the place after. -/
def blankLines : (fuel : Nat) → (widest : Nat) → Cursor → List Char × Nat × Cursor
  | 0, widest, c => ([], widest, c)
  | fuel + 1, widest, c =>
    match c.lineEnd? with
    | some (b, c) =>
      let (bs, widest, c) := blankLines fuel widest c
      (b :: bs, widest, c)
    | none =>
      if c.at? ' ' then blankLines fuel (max widest c.advance.column) c.advance
      else ([], widest, c)

/-- The line ends of empty lines, and the place where the next line begins or falls short of its
indentation. -/
def blockBreaks (indent : Nat) : (fuel : Nat) → Cursor → List Char × Cursor
  | 0, c => ([], c)
  | fuel + 1, c =>
    let c := c.skipIndentation indent
    match c.lineEnd? with
    | none => ([], c)
    | some (b, c) =>
      let (bs, c) := blockBreaks indent fuel c
      (b :: bs, c)

/-- Whether a blank is next, which keeps the line end before it from being folded. -/
def atBlank (c : Cursor) : Bool := c.at? ' ' || c.at? '\t'

/-- The line ends between two lines, as they are or folded. -/
def joint (fold : Bool) (lineEnd : List Char) (breaks : List Char) (spaced : Bool) : List Char :=
  if fold && lineEnd == ['\n'] && !spaced then (if breaks.isEmpty then [' '] else breaks)
  else lineEnd ++ breaks

/-- The line ends after the last line. -/
def tail (chomping : Chomping) (lineEnd breaks : List Char) : List Char :=
  match chomping with
  | .strip => []
  | .clip => lineEnd
  | .keep => lineEnd ++ breaks

/-- The lines of a block scalar from here on. -/
def blockLines (fold : Bool) (indent : Nat) (chomping : Chomping) :
    (fuel : Nat) → Cursor → List Char × Cursor
  | 0, c => ([], c)
  | fuel + 1, c =>
    let spaced := c.atBlank
    let (line, next) := c.takeWhile fun ch => !isLineEnd ch
    let (lineEnd, next) := match next.lineEnd? with
      | some (b, next) => ([b], next)
      | none => ([], next)
    let (breaks, next) := blockBreaks indent (next.rest.length + 1) next
    if next.column = indent && next.peek.isSome then
      let (more, after) := blockLines fold indent chomping fuel next
      (line ++ joint fold lineEnd breaks (spaced || next.atBlank) ++ more, after)
    else (line ++ tail chomping lineEnd breaks, next)

/-- A block scalar from its first mark on, in a block whose lines stand at column `indent`. -/
def blockScalar (fold : Bool) (indent : Int) (c : Cursor) : Except Fault (String × Cursor) := do
  let (header, c) ← c.advance.blockHeader
  let least := (max 1 (indent + 1)).toNat
  let (breaks, column, c) := match header.increment with
    | some n =>
      let column := least + n - 1
      let (breaks, c) := blockBreaks column (c.rest.length + 1) c
      (breaks, column, c)
    | none =>
      let (breaks, widest, c) := blankLines (c.rest.length + 1) 0 c
      (breaks, max least widest, c)
  if c.column = column && c.peek.isSome then
    let (lines, after) := blockLines fold column header.chomping (c.rest.length + 1) c
    return (String.ofList (breaks ++ lines), after)
  else return (String.ofList (tail header.chomping [] breaks), c)

end Cursor

end GridUnion.Yaml
