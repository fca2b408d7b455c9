import GridUnion.Yaml.Property
import GridUnion.Yaml.Source
import GridUnion.Yaml.Scalar.Plain
import GridUnion.Yaml.Scalar.Block

/-!
# Tokens

A YAML text is a sequence of tokens.  Blocks have no marks of their own in the text: they begin and
end with the indentation.  A key has no mark either, unless it begins with a question mark; it is
found at the colon after it, which has to be on the same line.
-/

namespace GridUnion.Yaml

/-- A token. -/
inductive Token where
  | directive (d : Directive)
  | documentStart
  | documentEnd
  | textEnd
  | blockListStart
  | blockMappingStart
  | blockEnd
  | listStart
  | listEnd
  | mappingStart
  | mappingEnd
  | key
  | value
  /-- The hyphen before an item of a block. -/
  | item
  /-- The comma between items in one line. -/
  | comma
  | reference (name : String)
  | anchor (name : String)
  | tag (t : WrittenTag)
  | scalar (text : String) (isPlain : Bool)
  deriving DecidableEq, Repr

/-- A token that is a key if a colon follows it. -/
structure KeyCandidate where
  /-- How many brackets are open around it. -/
  depth : Nat
  /-- Its place among the tokens. -/
  place : Nat
  /-- Whether nothing but a key may stand there. -/
  isRequired : Bool
  start : Cursor
  deriving Repr, Inhabited

/-- The tokens read so far, and what the next ones depend on. -/
structure Layout where
  cursor : Cursor
  tokens : Array Token
  /-- How many brackets are open. -/
  depth : Nat
  /-- The columns of the open blocks, the innermost first. -/
  blocks : List Nat
  /-- Whether a key, an item or a block may begin here. -/
  allowsKey : Bool
  candidates : List KeyCandidate
  deriving Inhabited

namespace Layout

/-- The beginning of a text. -/
def ofChars (cs : List Char) : Layout := ⟨.ofChars cs, #[], 0, [], true, []⟩

/-- The column of the innermost block, `-1` if there is none. -/
def indent (s : Layout) : Int :=
  match s.blocks with
  | [] => -1
  | n :: _ => n

/-- Whether brackets are open. -/
def inFlow (s : Layout) : Bool := s.depth != 0

/-- Adds a token and goes on at a place. -/
def push (t : Token) (c : Cursor) (s : Layout) : Layout :=
  { s with tokens := s.tokens.push t, cursor := c }

/-- Sets whether a key may come next. -/
def allowKey (b : Bool) (s : Layout) : Layout := { s with allowsKey := b }

/-! ### Blocks -/

/-- Ends the blocks whose column is greater than `column`. -/
def endBlocks (column : Int) (s : Layout) : Layout :=
  if s.inFlow then s
  else
    let ended := (s.blocks.takeWhile fun (n : Nat) => decide (column < n)).length
    { s with
      blocks := s.blocks.drop ended
      tokens := s.tokens ++ (List.replicate ended Token.blockEnd) }

/-- Begins a block at a column, with a token at a place, unless the column has been reached. -/
def beginBlock (t : Token) (column place : Nat) (s : Layout) : Layout :=
  if s.indent < column then
    { s with blocks := column :: s.blocks, tokens := s.tokens.insertIdx! place t }
  else s

/-! ### Keys -/

/-- Whether a token can no longer be a key: its line has ended, or it is too long ago. -/
def isStale (s : Layout) (k : KeyCandidate) : Bool :=
  k.start.line != s.cursor.line || 1024 < s.cursor.index - k.start.index

/-- Forgets some candidates; none of them may be required. -/
def forget (p : KeyCandidate → Bool) (s : Layout) : Except Fault Layout :=
  if s.candidates.any fun k => p k && k.isRequired then .error .malformed
  else .ok { s with candidates := s.candidates.filter fun k => !p k }

/-- Forgets the candidate inside the innermost brackets. -/
def forgetHere (s : Layout) : Except Fault Layout := s.forget fun k => k.depth == s.depth

/-- Notes that the next token may be a key. -/
def noteCandidate (s : Layout) : Except Fault Layout :=
  if !s.allowsKey then .ok s
  else do
    let isRequired := !s.inFlow && s.indent == s.cursor.column
    let s ← s.forgetHere
    return { s with
      candidates := ⟨s.depth, s.tokens.size, isRequired, s.cursor⟩ :: s.candidates }

/-! ### Reading one token -/

/-- Skips spaces, comments and line ends; a new line may begin with a key. -/
def skipGap : (fuel : Nat) → Layout → Layout
  | 0, s => s
  | fuel + 1, s =>
    let c := s.cursor.skipSpaces.skipComment
    match c.lineEnd? with
    | none => { s with cursor := c }
    | some (_, c) => skipGap fuel { s with cursor := c, allowsKey := s.allowsKey || !s.inFlow }

/-- A token that ends all blocks. -/
def pushOutermost (t : Token) (c : Cursor) (s : Layout) : Except Fault Layout := do
  let s ← (s.endBlocks (-1)).forgetHere
  return (s.push t c).allowKey false

/-- A token that may be a key; it is read with the place after it. -/
def pushCandidate (read : Except Fault (Token × Cursor)) (s : Layout) : Except Fault Layout := do
  let s ← s.noteCandidate
  let (t, c) ← read
  return (s.push t c).allowKey false

/-- An opening bracket. -/
def openBracket (t : Token) (s : Layout) : Except Fault Layout := do
  let s ← s.noteCandidate
  return { (s.push t s.cursor.advance).allowKey true with depth := s.depth + 1 }

/-- A closing bracket. -/
def closeBracket (t : Token) (s : Layout) : Except Fault Layout := do
  if !s.inFlow then throw .malformed
  let s ← s.forgetHere
  return { (s.push t s.cursor.advance).allowKey false with depth := s.depth - 1 }

/-- A comma. -/
def pushComma (s : Layout) : Except Fault Layout := do
  let s ← s.forgetHere
  return (s.push .comma s.cursor.advance).allowKey true

/-- A mark that begins a block at its column, unless brackets are open. -/
def beginBlockHere (t : Token) (s : Layout) : Except Fault Layout :=
  if s.inFlow then .ok s
  else if s.allowsKey then .ok (s.beginBlock t s.cursor.column s.tokens.size)
  else .error .malformed

/-- The hyphen before an item. -/
def pushItem (s : Layout) : Except Fault Layout := do
  let s ← (← s.beginBlockHere .blockListStart).forgetHere
  return (s.push .item s.cursor.advance).allowKey true

/-- The question mark before a key. -/
def pushKey (s : Layout) : Except Fault Layout := do
  let s ← (← s.beginBlockHere .blockMappingStart).forgetHere
  return (s.push .key s.cursor.advance).allowKey !s.inFlow

/-- The colon before a value.  If a candidate stands before it, the candidate is its key. -/
def pushValue (s : Layout) : Except Fault Layout := do
  match s.candidates.find? fun k => k.depth == s.depth with
  | some k =>
    let s := { s with
      candidates := s.candidates.filter fun k => k.depth != s.depth
      tokens := s.tokens.insertIdx! k.place .key }
    let s := if s.inFlow then s else s.beginBlock .blockMappingStart k.start.column k.place
    return (s.push .value s.cursor.advance).allowKey false
  | none =>
    let s ← s.beginBlockHere .blockMappingStart
    return (s.push .value s.cursor.advance).allowKey !s.inFlow

/-- A block scalar. -/
def pushBlockScalar (fold : Bool) (s : Layout) : Except Fault Layout := do
  let s ← s.forgetHere
  let (text, c) ← s.cursor.blockScalar fold s.indent
  return (s.push (.scalar text false) c).allowKey true

/-- A plain scalar. -/
def pushPlain (s : Layout) : Except Fault Layout := do
  let s ← s.noteCandidate
  let p := s.cursor.plainScalar s.inFlow (s.indent + 1).toNat
  return (s.push (.scalar (String.ofList p.text) true) p.after).allowKey p.breaksLine

/-- The characters that do not begin a plain scalar, or only in front of certain others. -/
def marks : List Char := "-?:,[]\x7b\x7d#&*!|>'\"%@\x60".toList

/-- Whether a plain scalar begins here. -/
def startsPlain (s : Layout) (ch : Char) : Bool :=
  (!isSeparator ch && !marks.contains ch) ||
    (!s.cursor.endsAt 1 isSeparator && (ch == '-' || (!s.inFlow && (ch == '?' || ch == ':'))))

/-- Reads the token that begins with a character. -/
def readToken (ch : Char) (s : Layout) : Except Fault Layout :=
  let c := s.cursor
  let isMark := s.inFlow || c.endsAt 1 isSeparator
  if c.column = 0 ∧ ch = '%' then do
    let s ← (s.endBlocks (-1)).forgetHere
    let (d, c) ← c.directive
    return (s.push (.directive d) c).allowKey false
  else if c.column = 0 ∧ c.atMarks '-' then s.pushOutermost .documentStart (c.advanceBy 3)
  else if c.column = 0 ∧ c.atMarks '.' then s.pushOutermost .documentEnd (c.advanceBy 3)
  else if ch = '[' then s.openBracket .listStart
  else if ch = '\x7b' then s.openBracket .mappingStart
  else if ch = ']' then s.closeBracket .listEnd
  else if ch = '\x7d' then s.closeBracket .mappingEnd
  else if ch = ',' then s.pushComma
  else if ch = '-' ∧ c.endsAt 1 isSeparator then s.pushItem
  else if ch = '?' ∧ isMark then s.pushKey
  else if ch = ':' ∧ isMark then s.pushValue
  else if ch = '*' then
    s.pushCandidate (c.advance.anchorName.map fun (name, c) => (.reference name, c))
  else if ch = '&' then
    s.pushCandidate (c.advance.anchorName.map fun (name, c) => (.anchor name, c))
  else if ch = '!' then s.pushCandidate (c.tag.map fun (t, c) => (.tag t, c))
  else if ch = '|' ∧ !s.inFlow then s.pushBlockScalar false
  else if ch = '>' ∧ !s.inFlow then s.pushBlockScalar true
  else if ch = '\'' ∨ ch = '"' then
    s.pushCandidate (c.quotedScalar.map fun (text, c) => (.scalar text false, c))
  else if s.startsPlain ch then s.pushPlain
  else .error .malformed

/-- Reads the next token, unless the text is at its end. -/
def step (s : Layout) : Except Fault (Layout × Bool) := do
  let s := s.skipGap (s.cursor.rest.length + 1)
  let s ← s.forget s.isStale
  let s := s.endBlocks s.cursor.column
  match s.cursor.peek with
  | some ch => return (← s.readToken ch, false)
  | none => return (← s.pushOutermost .textEnd s.cursor, true)

/-- Reads all tokens.  Where the text ends there may be a fault, which is met as soon as the end of
the text is reached. -/
def run (fault : Option Fault) : (fuel : Nat) → Layout → Layout × Option Fault
  | 0, s => (s, some .malformed)
  | fuel + 1, s =>
    match s.step with
    | .error .ended => (s, fault.or (some .malformed))
    | .error f => (s, some f)
    | .ok (next, isLast) =>
      if next.cursor.rest.isEmpty && fault.isSome then (s, fault)
      else if isLast then (next, none)
      else run fault fuel next

/-- How many tokens are certain.  In front of a token that is a key if a colon follows, another one
would have to be inserted. -/
def certain (s : Layout) : Nat :=
  ((s.candidates.filter fun k => !s.isStale k).map KeyCandidate.place).foldl min s.tokens.size

end Layout

/-- The tokens of a text, and the fault at which they end, if there is one.  A fault is met in the
place of the first token that is not certain. -/
def tokens (src : Source) : List Token × Option Fault :=
  let cs := src.chars
  let body := if cs.head? == some byteOrderMark then
      { Layout.ofChars cs with cursor := (Cursor.ofChars cs).advance }
    else Layout.ofChars cs
  match body.run src.fault (2 * cs.length + 2) with
  | (s, none) => (s.tokens.toList, none)
  | (s, some fault) => (s.tokens.toList.take s.certain, some fault)

end GridUnion.Yaml
