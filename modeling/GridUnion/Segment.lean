import GridUnion.Request

/-!
# Segments

The rows that a request asks for are cut into segments: stretches where the child has no values,
and runs that can be read in one go because their rows step by a constant amount.  `Segment.expand`
gives back the rows of a segment.
-/

namespace GridUnion

/-- A stretch of requested positions. -/
inductive Segment where
  /-- The child has no values here. -/
  | fill (count : Nat)
  /-- The rows `start`, `start + stride`, …, `stop`, which are `count` in number. -/
  | run (start stride stop : Int) (count : Nat)
  deriving DecidableEq, Repr, Inhabited

namespace Segment

/-- The number of positions of a segment. -/
def count : Segment → Nat
  | fill n => n
  | run _ _ _ n => n

/-- The rows of a segment, one for every position. -/
def expand : Segment → List (Option Int)
  | fill n => List.replicate n none
  | run start stride _ n => (List.range n).map fun (i : Nat) => some (start + i * stride)

/-- The segment of one position; a run of one row has stride one. -/
def single : Option Int → Segment
  | none => fill 1
  | some row => run row 1 row 1

/-- Cuts rows into segments after the segment that is being made.  The stride of a run is set by its
first two rows, and the run ends before a position that has no row or breaks the stride. -/
def extend : Segment → List (Option Int) → List Segment
  | s, [] => [s]
  | fill n, none :: rest => extend (fill (n + 1)) rest
  | fill n, some row :: rest => fill n :: extend (single (some row)) rest
  | run a s b n, none :: rest => run a s b n :: extend (single none) rest
  | run a s b n, some row :: rest =>
    if n = 1 then extend (run a (row - b) row 2) rest
    else if row - b = s then extend (run a s row (n + 1)) rest
    else run a s b n :: extend (single (some row)) rest

/-- Cuts rows into segments. -/
def ofRows : List (Option Int) → List Segment
  | [] => []
  | row :: rest => extend (single row) rest

end Segment

/-- The segments of a request on an index map. -/
def IndexMap.segments (m : IndexMap) (r : Request) : Except Failure (List Segment) := do
  r.check m.size
  return Segment.ofRows (r.rows m)

/-- The segments of a request on an index table. -/
def IndexTable.segments (t : IndexTable) (r : Request) : Except Failure (List Segment) := do
  r.check (← t.size)
  return Segment.ofRows (← t.rowsAt r.positions)

end GridUnion
