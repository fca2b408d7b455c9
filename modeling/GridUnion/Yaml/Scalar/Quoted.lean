import GridUnion.Number
import GridUnion.Text.Surrogate
import GridUnion.Yaml.Cursor

/-!
# Quoted scalars

A scalar between single quotes holds its characters as they are, and two quotes for one.  Between
double quotes a backslash begins an escape.  Line ends are folded: one is a space, and of several
the first is left out.
-/

namespace GridUnion.Yaml

/-- The characters that a backslash and one character stand for. -/
def shortEscapes : List (Char × Nat) :=
  [('0', 0), ('a', 7), ('b', 8), ('t', 9), ('\t', 9), ('n', 10), ('v', 11), ('f', 12), ('r', 13),
    ('e', 27), (' ', 32), ('"', 34), ('\\', 92), ('/', 47), ('N', 0x85), ('_', 0xa0), ('L', 0x2028),
    ('P', 0x2029)]

/-- The numbers of hexadecimal digits after the characters that begin a long escape. -/
def longEscapes : List (Char × Nat) := [('x', 2), ('u', 4), ('U', 8)]

/-- The value of a hexadecimal digit. -/
def hexDigit? (c : Char) : Option Nat :=
  if c.isDigit then some (c.toNat - 48)
  else if 'a' ≤ c ∧ c ≤ 'f' then some (c.toNat - 87)
  else if 'A' ≤ c ∧ c ≤ 'F' then some (c.toNat - 55)
  else none

/-- The number that `n` hexadecimal digits stand for, if there are as many. -/
def hexNumber? (n : Nat) (cs : List Char) : Option Nat :=
  if (cs.take n).length < n then none
  else ((cs.take n).mapM hexDigit?).map fun ds => ds.foldl (fun k d => 16 * k + d) 0

/-- Refuses a number that is not a code point. -/
def checkCode (n : Nat) : Except Fault Unit :=
  if 2 ^ 31 ≤ n then
    .error (.badScalar .overflow "Python int too large to convert to C int")
  else if 0x10ffff < n then .error (.badScalar .value "chr() arg not in range(0x110000)")
  else .ok ()

namespace Cursor

/-- What is wrong if too few hexadecimal digits are next. -/
def noNumber (c : Cursor) : Fault := (c.skipWhile fun ch => (hexDigit? ch).isSome).unexpected

/-- The line ends from here on, with the blanks before and after each.  A document must not begin or
end among them. -/
def quotedBreaks : (fuel : Nat) → Cursor → Except Fault (List Char × Cursor)
  | 0, _ => .error .malformed
  | fuel + 1, c =>
    if c.atDocumentMark then .error .malformed
    else
      let c := c.skipWhile fun ch => ch == ' ' || ch == '\t'
      match c.lineEnd? with
      | none => .ok ([], c)
      | some (b, c) => do
        let (bs, c) ← quotedBreaks fuel c
        return (b :: bs, c)

/-- The characters that one line end and those after it stand for. -/
def folded (first : Char) (others : List Char) : List Char :=
  if first != '\n' then first :: others
  else if others.isEmpty then [' ']
  else others

/-- The blanks and line ends from here on, folded. -/
def quotedBlanks (fuel : Nat) (c : Cursor) : Except Fault (List Char × Cursor) :=
  let (blanks, c) := c.takeWhile fun ch => ch == ' ' || ch == '\t'
  match c.peek, c.lineEnd? with
  | none, _ => .error .ended
  | some _, none => .ok (blanks, c)
  | some _, some (b, c) => do
    let (bs, c) ← quotedBreaks fuel c
    return (folded b bs, c)

/-- An escape after its backslash: the code points it stands for. -/
def escapeCodes (fuel : Nat) (c : Cursor) : Except Fault (List Nat × Cursor) :=
  match c.peek with
  | none => .error .ended
  | some ch =>
    match shortEscapes.lookup ch, longEscapes.lookup ch with
    | some n, _ => .ok ([n], c.advance)
    | none, some digits =>
      match hexNumber? digits c.advance.rest with
      | none => .error c.advance.noNumber
      | some n => do
        checkCode n
        return ([n], c.advanceBy (digits + 1))
    | none, none =>
      match c.lineEnd? with
      | none => .error .malformed
      | some (_, c) => do
        let (bs, c) ← quotedBreaks fuel c
        return (bs.map Char.toNat, c)

/-- The code points of a scalar after its opening quote, and the place after the closing one. -/
def quotedCodes (quote : Char) : (fuel : Nat) → Cursor → Except Fault (List Nat × Cursor)
  | 0, _ => .error .malformed
  | fuel + 1, c =>
    match c.rest with
    | [] => .error .ended
    | ch :: rest =>
      if ch == quote then
        if quote == '\'' && rest.head? == some '\'' then do
          let (ns, c) ← quotedCodes quote fuel (c.advanceBy 2)
          return (quote.toNat :: ns, c)
        else .ok ([], c.advance)
      else if ch == '\\' && quote == '"' then do
        let (escape, c) ← c.advance.escapeCodes fuel
        let (ns, c) ← quotedCodes quote fuel c
        return (escape ++ ns, c)
      else if isSeparator ch then do
        let (blanks, c) ← c.quotedBlanks fuel
        let (ns, c) ← quotedCodes quote fuel c
        return (blanks.map Char.toNat ++ ns, c)
      else do
        let (ns, c) ← quotedCodes quote fuel c.advance
        return (ch.toNat :: ns, c)

/-- A quoted scalar from its opening quote on. -/
def quotedScalar (c : Cursor) : Except Fault (String × Cursor) := do
  let (ns, after) ← quotedCodes (c.peek.getD '"') (c.rest.length + 1) c.advance
  return (String.ofList (ns.map Text.ofCode), after)

end Cursor

end GridUnion.Yaml
