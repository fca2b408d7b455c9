import GridUnion.Yaml.Scalar.Quoted
import GridUnion.Text.Utf8

/-!
# Anchors, tags and directives

A node may have an anchor, by which it is referred to, and a tag, which tells its type.  A tag has a
handle that stands for a longer beginning.  A directive at the beginning of a document defines
handles or names the version.
-/

namespace GridUnion.Yaml

/-- A tag as it is written. -/
structure WrittenTag where
  /-- The handle, unless the tag is written in full. -/
  handle : Option String
  suffix : String
  deriving DecidableEq, Repr, Inhabited

/-- The tag that leaves the type to the content. -/
def plainTag : WrittenTag := ⟨none, "!"⟩

/-- A directive. -/
inductive Directive where
  | version (major : Nat)
  /-- Defines what a handle stands for. -/
  | handle (name meaning : String)
  /-- A directive without meaning. -/
  | reserved
  deriving DecidableEq, Repr

/-- Whether a character may be a part of a tag. -/
def isTagChar (c : Char) : Bool :=
  isNameChar c || ";/?:@&=+$,_.!~*'()[]%".toList.contains c

namespace Cursor

/-- A name of at least one character. -/
def name (c : Cursor) : Except Fault (String × Cursor) :=
  let (cs, after) := c.takeWhile isNameChar
  if cs.isEmpty then .error after.unexpected else .ok (String.ofList cs, after)

/-- The characters that may follow the name of an anchor. -/
def endsName (c : Char) : Bool := isSeparator c || "?:,]\x7d%@\x60".toList.contains c

/-- The name of an anchor, after its mark. -/
def anchorName (c : Cursor) : Except Fault (String × Cursor) := do
  let (s, after) ← c.name
  if after.endsAt 0 endsName then return (s, after) else throw .malformed

/-! ### Tags -/

/-- The bytes that are written with a percent sign and two hexadecimal digits each. -/
def escapedBytes : (fuel : Nat) → Cursor → Except Fault (List UInt8 × Cursor)
  | 0, _ => .error .malformed
  | fuel + 1, c =>
    if !c.at? '%' then .ok ([], c)
    else match hexNumber? 2 (c.rest.drop 1) with
      | none => .error c.advance.noNumber
      | some n => do
        let (bs, after) ← escapedBytes fuel (c.advanceBy 3)
        return (n.toUInt8 :: bs, after)

/-- The characters of a tag from here on. -/
def tagChars : (fuel : Nat) → Cursor → Except Fault (List Char × Cursor)
  | 0, _ => .error .malformed
  | fuel + 1, c =>
    if c.at? '%' then do
      let (bytes, c) ← c.escapedBytes (c.rest.length + 1)
      match (Text.decodeChunk true 0 0 bytes).toOption with
      | none => throw .malformed
      | some (cs, _) =>
        let (more, after) ← tagChars fuel c
        return (cs ++ more, after)
    else
      match c.takeWhile fun ch => isTagChar ch && ch != '%' with
      | ([], c) => .ok ([], c)
      | (cs, c) => do
        let (more, after) ← tagChars fuel c
        return (cs ++ more, after)

/-- The text of a tag; it is not empty. -/
def tagText (c : Cursor) : Except Fault (String × Cursor) := do
  let (cs, after) ← c.tagChars (c.rest.length + 1)
  if after.index = c.index then throw after.unexpected else return (String.ofList cs, after)

/-- A handle: an exclamation mark, or a name between two of them. -/
def tagHandle (c : Cursor) : Except Fault (String × Cursor) :=
  if !c.at? '!' then .error c.unexpected
  else if c.peekAt 1 == some ' ' then .ok ("!", c.advance)
  else
    let (cs, after) := c.advance.takeWhile isNameChar
    if after.at? '!' then .ok (String.ofList ('!' :: cs ++ ['!']), after.advance)
    else .error after.unexpected

/-- Whether a tag begins with a handle other than a single exclamation mark. -/
def hasLongHandle (c : Cursor) : Bool :=
  let word := (c.rest.drop 1).takeWhile fun ch => !(ch == ' ' || isLineEnd ch)
  word.contains '!'

/-- A tag from its exclamation mark on. -/
def tag (c : Cursor) : Except Fault (WrittenTag × Cursor) := do
  let (t, after) ←
    if c.peekAt 1 == some '<' then do
      let (s, after) ← (c.advanceBy 2).tagText
      if after.at? '>' then pure (WrittenTag.mk none s, after.advance) else throw after.unexpected
    else if c.endsAt 1 isSeparator then pure (plainTag, c.advance)
    else do
      let (handle, next) ← if c.hasLongHandle then c.tagHandle else pure ("!", c.advance)
      let (s, after) ← next.tagText
      pure (WrittenTag.mk (some handle) s, after)
  if after.atSpaceOrEnd then return (t, after) else throw .malformed

/-! ### Directives -/

/-- A number in decimal digits, of which there may not be too many. -/
def digits (c : Cursor) : Except Fault (Nat × Cursor) :=
  let (cs, after) := c.takeWhile Char.isDigit
  if cs.isEmpty then .error after.unexpected
  else if Text.digitLimit < cs.length then
    .error (.badScalar .value (ConversionFault.tooManyDigits cs.length).text)
  else .ok (cs.foldl (fun n d => 10 * n + (d.toNat - 48)) 0, after)

/-- A version after its name. -/
def versionDirective (c : Cursor) : Except Fault (Directive × Cursor) := do
  let (major, c) ← c.skipSpaces.digits
  if !c.at? '.' then throw c.unexpected
  let (_, c) ← c.advance.digits
  if c.atSpaceOrEnd then return (.version major, c) else throw .malformed

/-- A definition of a handle after its name. -/
def handleDirective (c : Cursor) : Except Fault (Directive × Cursor) := do
  let (name, c) ← c.skipSpaces.tagHandle
  if !c.at? ' ' then throw c.unexpected
  let (meaning, c) ← c.skipSpaces.tagText
  if c.atSpaceOrEnd then return (.handle name meaning, c) else throw .malformed

/-- A directive from its percent sign to the end of its line. -/
def directive (c : Cursor) : Except Fault (Directive × Cursor) := do
  let (name, c) ← c.advance.name
  if !c.atSpaceOrEnd then throw .malformed
  let (d, c) ←
    if name == "YAML" then c.versionDirective
    else if name == "TAG" then c.handleDirective
    else pure (.reserved, c.skipWhile fun ch => !isLineEnd ch)
  return (d, ← c.skipEmptyLine)

end Cursor

end GridUnion.Yaml
