/-!
# Base 64

Four characters stand for three bytes.  Characters outside the alphabet are passed over; equals
signs fill up the last group.
-/

namespace GridUnion.Yaml.Base64

/-- The value of a character of the alphabet. -/
def value? (c : Char) : Option Nat :=
  if 'A' ≤ c ∧ c ≤ 'Z' then some (c.toNat - 65)
  else if 'a' ≤ c ∧ c ≤ 'z' then some (c.toNat - 71)
  else if c.isDigit then some (c.toNat + 4)
  else if c = '+' then some 62
  else if c = '/' then some 63
  else none

/-- Decodes the rest of a text: `place` counts the characters of the current group, `bits` are those
of them that belong to no byte yet, and `pads` counts the equals signs since the last character. -/
def decodeFrom : (place bits pads : Nat) → List Char → Option (List UInt8)
  | place, _, _, [] => if place = 0 then some [] else none
  | place, bits, pads, c :: cs =>
    if c = '=' then
      if 2 ≤ place then
        if 4 ≤ place + pads + 1 then some [] else decodeFrom place bits (pads + 1) cs
      else decodeFrom place bits pads cs
    else match value? c with
      | none => decodeFrom place bits pads cs
      | some n =>
        match place with
        | 0 => decodeFrom 1 n 0 cs
        | 1 => (decodeFrom 2 (n % 16) 0 cs).map ((4 * bits + n / 16).toUInt8 :: ·)
        | 2 => (decodeFrom 3 (n % 4) 0 cs).map ((16 * bits + n / 4).toUInt8 :: ·)
        | _ => (decodeFrom 0 0 0 cs).map ((64 * bits + n).toUInt8 :: ·)

/-- The bytes of a text; none if the last group is incomplete. -/
def decode (cs : List Char) : Option (List UInt8) := decodeFrom 0 0 0 cs

end GridUnion.Yaml.Base64
