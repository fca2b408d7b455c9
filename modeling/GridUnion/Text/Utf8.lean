import GridUnion.Text.Quoted

/-!
# UTF-8

A file is read as text a number of characters at a time, and for that its bytes are decoded in
chunks. An incomplete character at the end of a chunk is kept for the next one.  A fault names the
bytes that cannot be decoded by their positions in the chunk; what was read before it stays
readable.
-/

namespace GridUnion.Text

/-- Bytes that are no UTF-8: the first one, its position, how many there are, and the reason. -/
structure Utf8Fault where
  byte : UInt8
  position : Nat
  count : Nat
  reason : String
  deriving DecidableEq, Repr

/-- The text of a fault. -/
def Utf8Fault.message (f : Utf8Fault) : String :=
  let place :=
    if f.count = 1 then
      s!"byte 0x{String.ofList (hexDigits 2 f.byte.toNat)} in position {f.position}"
    else s!"bytes in position {f.position}-{f.position + f.count - 1}"
  "'utf-8' codec can't decode " ++ place ++ ": " ++ f.reason

/-- What the first byte of a character allows: the bounds of the second byte and the number of
bytes after it. -/
def leadByte? (b : Nat) : Option (Nat × Nat × Nat) :=
  if 0xc2 ≤ b && b ≤ 0xdf then some (0x80, 0xbf, 1)
  else if b == 0xe0 then some (0xa0, 0xbf, 2)
  else if b == 0xed then some (0x80, 0x9f, 2)
  else if 0xe1 ≤ b && b ≤ 0xef then some (0x80, 0xbf, 2)
  else if b == 0xf0 then some (0x90, 0xbf, 3)
  else if 0xf1 ≤ b && b ≤ 0xf3 then some (0x80, 0xbf, 3)
  else if b == 0xf4 then some (0x80, 0x8f, 3)
  else none

/-- The outcome of reading the bytes after a lead byte. -/
inductive Continuation where
  | complete (code : Nat)
  /-- The bytes end before the character, after this many good ones. -/
  | cut (good : Nat)
  /-- A byte does not continue the character, after this many good ones. -/
  | broken (good : Nat)

/-- Reads `n` continuation bytes, the first of them between `low` and `high`. -/
def continuation : (n low high code good : Nat) → List UInt8 → Continuation
  | 0, _, _, code, _, _ => .complete code
  | _ + 1, _, _, _, good, [] => .cut good
  | n + 1, low, high, code, good, b :: rest =>
    if low ≤ b.toNat && b.toNat ≤ high then
      continuation n 0x80 0xbf (code * 64 + (b.toNat - 0x80)) (good + 1) rest
    else .broken good

/-- The bits of a lead byte that belong to the code point. -/
def leadBits (b n : Nat) : Nat :=
  if n = 1 then b % 32 else if n = 2 then b % 16 else b % 8

/-- Decodes one chunk from `position`; at the end of the file nothing may be left over. -/
def decodeChunk (atEnd : Bool) :
    (position : Nat) → (skip : Nat) → List UInt8 → Except Utf8Fault (List Char × List UInt8)
  | _, _, [] => .ok ([], [])
  | position, skip + 1, _ :: rest => decodeChunk atEnd (position + 1) skip rest
  | position, 0, b :: rest =>
    let n := b.toNat
    if n < 0x80 then
      (decodeChunk atEnd (position + 1) 0 rest).map fun (cs, left) => (Char.ofNat n :: cs, left)
    else
      match leadByte? n with
      | none => .error ⟨b, position, 1, "invalid start byte"⟩
      | some (low, high, more) =>
        match continuation more low high (leadBits n more) 0 rest with
        | .complete code =>
          (decodeChunk atEnd (position + 1) more rest).map fun (cs, left) =>
            (Char.ofNat code :: cs, left)
        | .broken good => .error ⟨b, position, good + 1, "invalid continuation byte"⟩
        | .cut good =>
          if atEnd then .error ⟨b, position, good + 1, "unexpected end of data"⟩
          else .ok ([], b :: rest)

/-- The text with every line end as a single line feed. -/
def unifyNewlines : List Char → List Char
  | [] => []
  | '\r' :: '\n' :: cs => '\n' :: unifyNewlines cs
  | '\r' :: cs => '\n' :: unifyNewlines cs
  | c :: cs => c :: unifyNewlines cs

/-! ### Files -/

/-- A file that is being read as text. -/
structure TextFile where
  /-- The bytes that have not been read yet. -/
  bytes : List UInt8
  /-- The bytes of an incomplete character. -/
  pending : List UInt8
  /-- Whether a carriage return was read, to which a line feed may belong. -/
  holdsReturn : Bool
  /-- The characters that have been decoded, but not given out. -/
  chars : List Char
  /-- How many bytes and characters the last chunk had. -/
  sizes : Nat × Nat
  deriving Repr

namespace TextFile

/-- A file of which nothing has been read. -/
def ofBytes (bytes : List UInt8) : TextFile := ⟨bytes, [], false, [], (0, 0)⟩

/-- The least number of bytes in a chunk. -/
def leastChunk : Nat := 8192

/-- The number of bytes to read for `n` more characters, which are expected to have as many bytes as
those of the last chunk. -/
def chunkSize (f : TextFile) (n : Nat) : Nat :=
  let (bytes, chars) := f.sizes
  max leastChunk (if chars < bytes && chars != 0 then n * bytes / chars else n)

/-- Whether there is nothing left to decode. -/
def isSpent (f : TextFile) : Bool := f.bytes.isEmpty && f.pending.isEmpty && !f.holdsReturn

/-- Reads and decodes a chunk for `n` more characters.  A carriage return at its end is held back,
unless the file has ended. -/
def readChunk (f : TextFile) (n : Nat) : Except Utf8Fault TextFile := do
  let input := f.bytes.take (f.chunkSize n)
  let atEnd := input.isEmpty
  let (decoded, left) ← decodeChunk atEnd 0 0 (f.pending ++ input)
  let cs := if f.holdsReturn && (atEnd || !decoded.isEmpty) then '\r' :: decoded else decoded
  let holds := !atEnd && (cs.getLast? == some '\r' || (f.holdsReturn && cs.isEmpty))
  let cs := unifyNewlines (if cs.getLast? == some '\r' && holds then cs.dropLast else cs)
  return ⟨f.bytes.drop input.length, left, holds, f.chars ++ cs, (input.length, cs.length)⟩

/-- Decodes chunks until `n` characters can be given out, or the file ends. -/
def fill (n : Nat) : (fuel : Nat) → TextFile → Except Utf8Fault TextFile
  | 0, f => .ok f
  | fuel + 1, f =>
    if n ≤ f.chars.length || f.isSpent then .ok f
    else do fill n fuel (← f.readChunk (n - f.chars.length))

/-- The characters of a file, `n` at a time, up to a fault, if there is one. -/
def portions (n : Nat) : (fuel : Nat) → TextFile → List (List Char) × Option Utf8Fault
  | 0, _ => ([], none)
  | fuel + 1, f =>
    match f.fill n (f.bytes.length + 2) with
    | .error fault => ([], some fault)
    | .ok f =>
      if f.chars.isEmpty then ([], none)
      else
        let (rest, fault) := portions n fuel { f with chars := f.chars.drop n }
        (f.chars.take n :: rest, fault)

end TextFile

end GridUnion.Text
