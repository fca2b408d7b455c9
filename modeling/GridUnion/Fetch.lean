import GridUnion.Segment
import GridUnion.Journal
import GridUnion.Machine

/-!
# Fetching

A request for positions of a merged axis is answered from one child: every run is read from the
child, and the positions that the child does not have get a fill value.  All reads come before the
first value is stored.
-/

namespace GridUnion

/-- Reads rows of a child: the number of the read, from one, and the rows' start, stride, stop. -/
abbrev Reader := (call : Nat) → (start stride stop : Int) → Except Failure Block

/-- What a fetch makes of the rows: their other dimensions, their type if it is known beforehand,
and the value where there is no row. -/
structure Fetch where
  other : List Int
  type? : Option ElementType
  fill : Value

namespace Fetch

/-- The values of a segment: the number of positions without values, or the block that was read. -/
inductive Piece where
  | absent (count : Nat)
  | read (count : Nat) (block : Block)
  deriving Repr

/-- The number of positions of a piece. -/
def Piece.count : Piece → Nat
  | absent n => n
  | read n _ => n

/-- A fetch's reads in order, the failing one included, and what came of them. -/
structure Outcome (α : Type) where
  reads : List Request
  result : Except Failure α

/-- Reads the runs among the segments in order, up to the first read that fails or gives a block of
another shape. -/
def readAll (read : Reader) (other : List Int) :
    (call : Nat) → List Segment → Outcome (List Piece)
  | _, [] => ⟨[], .ok []⟩
  | call, .fill n :: rest =>
    let next := readAll read other call rest
    ⟨next.reads, next.result.map (Piece.absent n :: ·)⟩
  | call, .run start stride stop n :: rest =>
    let this : Request := ⟨start, stride, stop⟩
    match read call start stride stop with
    | .error e => ⟨[this], .error e⟩
    | .ok block =>
      if block.shape.map Int.ofNat = (n : Int) :: other then
        let next := readAll read other (call + 1) rest
        ⟨this :: next.reads, next.result.map (Piece.read n block :: ·)⟩
      else ⟨[this], .error (.unexpectedShape start stride stop block.shape ((n : Int) :: other))⟩

/-- The type of the first block that was read. -/
def firstType? (pieces : List Piece) : Option ElementType :=
  pieces.findSome? fun p => match p with
    | .absent _ => none
    | .read _ b => some b.type

/-- The type of the answer: the known one, that of the first read, or that of the fill value. -/
def typeOf (f : Fetch) (pieces : List Piece) : Except Failure ElementType :=
  match f.type?, firstType? pieces with
  | some t, _ => .ok t
  | none, some t => .ok t
  | none, none => do return (← liftConversion (Block.ofValue f.fill)).type

/-- The number of bytes of elements with these sizes; sizes of zero do not count. -/
def bytesOf (bytes : Nat) : List Int → Except Failure Nat
  | [] => .ok bytes
  | n :: sizes =>
    if n < 0 then .error .negativeSize
    else if n = 0 then bytesOf bytes sizes
    else if 2 ^ 63 ≤ bytes * n.toNat then .error .blockTooLarge
    else bytesOf (bytes * n.toNat) sizes

variable [Machine]

/-- The other dimensions of the answer, for which there must be space. -/
def otherSizes (f : Fetch) (type : ElementType) (expected : Int) : Except Failure (List Nat) := do
  if Block.maxDimensions < f.other.length + 1 then
    throw (.tooManyDimensions (f.other.length + 1))
  if f.other.any fun n => decide (n < -2 ^ 63 ∨ 2 ^ 63 ≤ n) then throw .sizeTooLarge
  let bytes ← bytesOf type.byteSize (expected :: f.other)
  let sizes := f.other.map Int.toNat
  if Machine.room < bytes ∧ 0 < (expected.toNat :: sizes).prod then
    throw (.noSpace type (expected.toNat :: sizes))
  return sizes

/-- The elements of a piece in the type of the answer. -/
def cells (f : Fetch) (type : ElementType) (other : List Nat) :
    Piece → Except Failure (List Element)
  | .absent n => do return (← liftConversion (Block.fill type (n :: other) f.fill)).data
  | .read _ b => do return (← liftConversion (b.convert type)).data

/-- Puts the pieces one after the other. -/
def assemble (f : Fetch) (r : Request) (expected : Int) (pieces : List Piece) :
    Except Failure Block := do
  let type ← f.typeOf pieces
  let other ← f.otherSizes type expected
  let data ← pieces.mapM (f.cells type other)
  let produced := (pieces.map Piece.count).sum
  match Block.ofData? type (produced :: other) data.flatten with
  | some block =>
    if (produced : Int) = expected then return block
    else throw (.wrongTotal r.start r.stride r.stop produced expected)
  | none => throw (.wrongTotal r.start r.stride r.stop produced expected)

/-- Answers a request of which the segments are known. -/
def runSegments (f : Fetch) (r : Request) (read : Reader) (expected : Int)
    (segments : List Segment) : Outcome Block :=
  let pieces := readAll read f.other 1 segments
  ⟨pieces.reads, pieces.result.bind (f.assemble r expected)⟩

/-- Answers a request on an index table. -/
def runTable (f : Fetch) (t : IndexTable) (r : Request) (read : Reader) : Outcome Block :=
  match (do return (← r.count, ← t.segments r) : Except Failure _) with
  | .error e => ⟨[], .error e⟩
  | .ok (expected, segments) => f.runSegments r read expected segments

/-- Answers a request on an index map. -/
def run (f : Fetch) (m : IndexMap) (r : Request) (read : Reader) : Outcome Block :=
  match (do return (← r.count, ← m.segments r) : Except Failure _) with
  | .error e => ⟨[], .error e⟩
  | .ok (expected, segments) => f.runSegments r read expected segments

/-- An outcome that notes how many reads its request needed. -/
def Outcome.noted (o : Outcome Block) (r : Request) : Noted Block := do
  let block ← (o.result : Except Failure Block)
  Noted.note .debug .reads (s!"Range {r.start}:{r.stride}:{r.stop} needed " ++
    s!"{o.reads.length} reads for {block.shape.headD 0} positions")
  return block

end Fetch

end GridUnion
