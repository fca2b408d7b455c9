import GridUnion.Text.Surrogate

/-!
# Paths

A path is a root and the parts below it.  Empty parts and single dots are left out when a path is
read; double dots stay.
-/

namespace GridUnion

/-- A path: its root, which is empty for a relative path, and its parts. -/
structure Path where
  root : String
  parts : List String
  deriving DecidableEq, Repr, Inhabited

namespace Path

/-- The root at the beginning of a text; two slashes, and no more, are a root of their own. -/
def rootOf : List Char → String
  | '/' :: '/' :: '/' :: _ => "/"
  | '/' :: '/' :: _ => "//"
  | '/' :: _ => "/"
  | _ => ""

/-- Reads a path. -/
def ofString (s : String) : Path :=
  ⟨rootOf s.toList,
    ((s.toList.splitOn '/').map String.ofList).filter fun p => p != "" && p != "."⟩

/-- The text of a path. -/
def text (p : Path) : String :=
  if p.root = "" ∧ p.parts = [] then "." else p.root ++ "/".intercalate p.parts

def isAbsolute (p : Path) : Bool := p.root != ""

/-- A path below another one; an absolute path stands alone. -/
def join (p q : Path) : Path := if q.isAbsolute then q else ⟨p.root, p.parts ++ q.parts⟩

/-- The path without its last part. -/
def parent (p : Path) : Path := ⟨p.root, p.parts.dropLast⟩

/-- Parts without double dots as far as there are parts for them to take away. -/
def reduce (parts : List String) : List String :=
  (parts.foldl (fun done p =>
    match p, done with
    | "..", [] => [p]
    | "..", ".." :: _ => p :: done
    | "..", _ :: rest => rest
    | p, done => p :: done) []).reverse

/-- Whether a part of a path is longer than a name on disk may be. -/
def isLongPart (part : String) : Bool := decide (255 < part.utf8ByteSize)

/-- Whether a path is longer than a path may be. -/
def isLong (p : Path) : Bool := decide (4096 ≤ p.text.utf8ByteSize)

/-- Whether a character has no bytes in the name of a file.  Of the surrogates, those from `0xdc80`
to `0xdcff` stand for single bytes. -/
def isLost (c : Char) : Bool :=
  let n := Text.codeOf c
  Text.isSurrogate n && !(0xdc80 ≤ n && n ≤ 0xdcff)

/-- The first characters of a path that have no bytes, and their place. -/
def lost? (p : Path) : Option (Nat × List Char) :=
  Text.lostFrom isLost 0 p.text.toList

/-- Whether a path has a null character, with which there is no file. -/
def hasNull (p : Path) : Bool := p.text.toList.contains '\x00'

end Path

end GridUnion
