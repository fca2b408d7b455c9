import GridUnion.Yaml.Cursor

/-!
# Sources

YAML is read from a file portion by portion.  A portion is refused as a whole if it cannot be
decoded or has a character that may not occur in YAML, but only when the text before it has been
read.
-/

namespace GridUnion.Yaml

/-- Whether a character may occur in a YAML text at all. -/
def isReadable (c : Char) : Bool :=
  let n := c.toNat
  c == '\t' || c == '\n' || c == '\r' || (0x20 ≤ n && n ≤ 0x7e) || n == 0x85 ||
    (0xa0 ≤ n && n ≤ 0xfffd) || 0x10000 ≤ n

/-- The characters that can be read, and what is wrong with those after them, if anything is. -/
structure Source where
  chars : List Char
  fault : Option Fault
  deriving Repr

namespace Source

/-- The number of characters in a portion. -/
def portionSize : Nat := 4096

/-- The first two portions are read at once. -/
def joinFirst (hasFault : Bool) : List (List Char) → List (List Char)
  | first :: second :: rest => (first ++ second) :: rest
  | few => if hasFault then [] else few

/-- The source of which these are the portions, up to a fault. -/
def ofPortions (portions : List (List Char)) (fault : Option Fault) : Source :=
  let parts := joinFirst fault.isSome portions
  let good := parts.takeWhile fun cs => cs.all isReadable
  ⟨good.flatten, if good.length < parts.length then some .malformed else fault⟩

/-- The source in the bytes of a file. -/
def ofBytes (bytes : List UInt8) : Source :=
  let (portions, fault) :=
    (Text.TextFile.ofBytes bytes).portions portionSize (bytes.length / portionSize + 2)
  ofPortions portions (fault.map .undecodable)

end Source

end GridUnion.Yaml
