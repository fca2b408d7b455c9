import GridUnion.Failure

/-!
# Cursors

A cursor is a place in a YAML text: what is left of the text, and where it is.  Readers take a
cursor and give what they have read with the cursor after it.
-/

namespace GridUnion.Yaml

/-- Why a text is no YAML document. -/
inductive Fault where
  | malformed
  /-- The text ends where it has to go on. -/
  | ended
  /-- Bytes that are not characters. -/
  | undecodable (fault : Text.Utf8Fault)
  /-- A value that is not what its tag says, or a character that does not exist. -/
  | badScalar (kind : Kind) (text : String)
  deriving Repr, Inhabited

/-! ### Characters -/

/-- Whether a character ends a line. -/
def isLineEnd (c : Char) : Bool :=
  c == '\n' || c == '\r' || c.toNat == 0x85 || c.toNat == 0x2028 || c.toNat == 0x2029

/-- Whether a character separates words. -/
def isSeparator (c : Char) : Bool := c == ' ' || c == '\t' || isLineEnd c

/-- Whether a character belongs to a name: a Latin letter, a digit, a hyphen or an underscore. -/
def isNameChar (c : Char) : Bool := c.isAlphanum || c == '-' || c == '_'

/-- The mark at the beginning of a text that tells its byte order; it has no width. -/
def byteOrderMark : Char := '\ufeff'

/-- A place in a text. -/
structure Cursor where
  rest : List Char
  index : Nat
  line : Nat
  column : Nat
  deriving Repr, Inhabited

namespace Cursor

/-- The beginning of a text. -/
def ofChars (cs : List Char) : Cursor := ⟨cs, 0, 0, 0⟩

/-- The next character. -/
def peek (c : Cursor) : Option Char := c.rest.head?

/-- The character after the next `n` ones. -/
def peekAt (n : Nat) (c : Cursor) : Option Char := c.rest[n]?

/-- Whether the next character is `ch`. -/
def at? (ch : Char) (c : Cursor) : Bool := c.peek == some ch

/-- What is wrong if the text cannot go on like this. -/
def unexpected (c : Cursor) : Fault := if c.rest.isEmpty then .ended else .malformed

/-- The place after the next character. -/
def advance (c : Cursor) : Cursor :=
  match c.rest with
  | [] => c
  | ch :: rest =>
    if isLineEnd ch then ⟨rest, c.index + 1, c.line + 1, 0⟩
    else if ch == byteOrderMark then ⟨rest, c.index + 1, c.line, c.column⟩
    else ⟨rest, c.index + 1, c.line, c.column + 1⟩

/-- The place after the next `n` characters. -/
def advanceBy : Nat → Cursor → Cursor
  | 0, c => c
  | n + 1, c => c.advance.advanceBy n

/-- The characters from here on that satisfy `p`, and the place after them. -/
def takeWhile (p : Char → Bool) (c : Cursor) : List Char × Cursor :=
  let taken := c.rest.takeWhile p
  (taken, c.advanceBy taken.length)

/-- The place of the first character that does not satisfy `p`. -/
def skipWhile (p : Char → Bool) (c : Cursor) : Cursor := (c.takeWhile p).2

/-- The place after spaces. -/
def skipSpaces (c : Cursor) : Cursor := c.skipWhile (· == ' ')

/-- The place after spaces that do not reach beyond a column. -/
def skipIndentation (column : Nat) (c : Cursor) : Cursor :=
  c.advanceBy ((c.rest.take (column - c.column)).takeWhile (· == ' ')).length

/-- The place after a comment, if there is one. -/
def skipComment (c : Cursor) : Cursor :=
  if c.at? '#' then c.skipWhile fun ch => !isLineEnd ch else c

/-- Whether the `n`-th next character satisfies `p`, or the text ends before it. -/
def endsAt (n : Nat) (p : Char → Bool) (c : Cursor) : Bool :=
  match c.peekAt n with
  | none => true
  | some ch => p ch

/-- Whether a space, the end of the line or the end of the text is next. -/
def atSpaceOrEnd (c : Cursor) : Bool := c.endsAt 0 fun ch => ch == ' ' || isLineEnd ch

/-- Whether the end of the line or of the text is next. -/
def atLineEnd (c : Cursor) : Bool := c.endsAt 0 isLineEnd

/-- The line end that is next, and the place after it.  The line and paragraph separators stand for
themselves, all others for a line feed. -/
def lineEnd? (c : Cursor) : Option (Char × Cursor) :=
  match c.rest with
  | '\r' :: '\n' :: _ => some ('\n', c.advanceBy 2)
  | ch :: _ =>
    if !isLineEnd ch then none
    else if ch.toNat == 0x2028 || ch.toNat == 0x2029 then some (ch, c.advance)
    else some ('\n', c.advance)
  | [] => none

/-- The place after the line end, if one is next. -/
def skipLineEnd (c : Cursor) : Cursor := ((c.lineEnd?).map (·.2)).getD c

/-- The place after the rest of a line, in which only blanks and a comment may stand. -/
def skipEmptyLine (c : Cursor) : Except Fault Cursor :=
  let c := c.skipSpaces.skipComment
  if c.atLineEnd then .ok c.skipLineEnd else .error .malformed

/-- Whether three marks are next, with a separator or the end of the text after them. -/
def atMarks (mark : Char) (c : Cursor) : Bool :=
  c.rest.take 3 == [mark, mark, mark] && c.endsAt 3 isSeparator

/-- Whether the beginning or the end of a document is next; on a line of its own it is one. -/
def atDocumentMark (c : Cursor) : Bool := c.atMarks '-' || c.atMarks '.'

end Cursor

end GridUnion.Yaml
