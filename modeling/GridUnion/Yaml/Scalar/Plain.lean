import GridUnion.Yaml.Scalar.Quoted

/-!
# Plain scalars

A plain scalar is made of words, with the blanks and folded line ends between them.
-/

namespace GridUnion.Yaml.Cursor

/-- The brackets and commas of lists and mappings in one line. -/
def isFlowMark (c : Char) : Bool := c == ',' || c == '[' || c == ']' || c == '\x7b' || c == '\x7d'

/-- Whether a plain scalar cannot go on here. -/
def endsWord (inFlow : Bool) (c : Cursor) : Bool :=
  match c.peek with
  | none => true
  | some ch =>
    isSeparator ch ||
      (ch == ':' && c.endsAt 1 fun next => isSeparator next || (inFlow && isFlowMark next)) ||
      (inFlow && (isFlowMark ch || ch == '?'))

/-- The characters of a plain scalar up to its next blank. -/
def plainWord (inFlow : Bool) : (fuel : Nat) → Cursor → List Char × Cursor
  | 0, c => ([], c)
  | fuel + 1, c =>
    if c.endsWord inFlow then ([], c)
    else match c.peek with
      | none => ([], c)
      | some ch =>
        let (cs, after) := plainWord inFlow fuel c.advance
        (ch :: cs, after)

/-- What stands between two words. -/
structure Gap where
  /-- The characters that it stands for, unless the document ends or begins in it. -/
  text : Option (List Char)
  /-- Whether there is a line end in it. -/
  breaksLine : Bool
  after : Cursor

/-- The line ends from here on with the spaces around them; none if a document mark is met. -/
def plainBreaks : (fuel : Nat) → Cursor → Option (List Char) × Cursor
  | 0, c => (some [], c)
  | fuel + 1, c =>
    if c.atDocumentMark then (none, c)
    else
      let next := c.skipSpaces
      match next.lineEnd? with
      | none => (some [], next)
      | some (b, next) =>
        let (bs, next) := plainBreaks fuel next
        (bs.map (b :: ·), next)

/-- What stands after a word. -/
def gap (c : Cursor) : Gap :=
  let (spaces, next) := c.takeWhile (· == ' ')
  match next.lineEnd? with
  | none => ⟨some spaces, false, next⟩
  | some (b, next) =>
    let (bs, next) := plainBreaks (next.rest.length + 1) next
    ⟨bs.map (folded b), true, next⟩

/-- A plain scalar that has been read, and whether its last gap breaks the line. -/
structure Plain where
  text : List Char
  breaksLine : Bool
  after : Cursor

/-- The words of a plain scalar from here on; `lead` is the text of the gap before, and words on
further lines stand at column `indent` or beyond. -/
def plainWords (inFlow : Bool) (indent : Nat) :
    (fuel : Nat) → (lead : List Char) → (breaksLine : Bool) → Cursor → Plain
  | 0, _, breaksLine, c => ⟨[], breaksLine, c⟩
  | fuel + 1, lead, breaksLine, c =>
    if c.at? '#' then ⟨[], breaksLine, c⟩
    else
      let (word, next) := plainWord inFlow (c.rest.length + 1) c
      if word.isEmpty then ⟨[], breaksLine, c⟩
      else
        let g := next.gap
        let stop : Plain := ⟨lead ++ word, g.breaksLine, g.after⟩
        match g.text with
        | none => stop
        | some text =>
          if text.isEmpty || g.after.at? '#' || (!inFlow && g.after.column < indent) then stop
          else
            let more := plainWords inFlow indent fuel text g.breaksLine g.after
            { more with text := lead ++ word ++ more.text }

/-- A plain scalar. -/
def plainScalar (inFlow : Bool) (indent : Nat) (c : Cursor) : Plain :=
  plainWords inFlow indent (c.rest.length + 1) [] false c

end GridUnion.Yaml.Cursor
