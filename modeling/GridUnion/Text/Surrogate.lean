/-!
# Surrogates

A surrogate is a code point that is no character, though a text can be made of them by escapes.  A
text holds the private character `0x100000` above it in its place.
-/

namespace GridUnion.Text

/-- Whether a code point is a surrogate. -/
def isSurrogate (n : Nat) : Bool := 0xd800 ≤ n && n < 0xe000

/-- The place of a surrogate's private character above it. -/
def surrogateShift : Nat := 0x100000

/-- The character that stands for a code point. -/
def ofCode (n : Nat) : Char := Char.ofNat (if isSurrogate n then n + surrogateShift else n)

/-- The code point that a character stands for. -/
def codeOf (c : Char) : Nat :=
  if surrogateShift ≤ c.toNat && isSurrogate (c.toNat - surrogateShift) then
    c.toNat - surrogateShift
  else c.toNat

/-- Whether a character stands for a surrogate. -/
def isStandIn (c : Char) : Bool := isSurrogate (codeOf c)

/-- The first character that is lost, up to the end of its run of surrogates, and its place. -/
def lostFrom (isLost : Char → Bool) : (place : Nat) → List Char → Option (Nat × List Char)
  | _, [] => none
  | place, c :: cs =>
    if isLost c then some (place, (c :: cs).takeWhile isStandIn)
    else lostFrom isLost (place + 1) cs

end GridUnion.Text
