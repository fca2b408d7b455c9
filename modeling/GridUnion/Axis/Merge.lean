import GridUnion.Axis.IndexMap
import GridUnion.Comparison
import GridUnion.Element.Join
import GridUnion.Journal

/-!
# Merging axes

The axes of several children are merged into one.  Every child has a cursor; at each step the lowest
value under a cursor goes to the merged axis, and every child with that value records its row and
moves on.  `Axis.merge` first refuses axes that do not ascend.
-/

namespace GridUnion

namespace Axis

variable {α : Type}

/-- The values of one child that are still to be merged, and the row of the first of them. -/
structure Cursor (α : Type) where
  row : Nat
  rest : List α
  deriving Repr

/-- One position of the merged axis: its value, and the row of every child that has it. -/
structure Position (α : Type) where
  value : α
  rows : List (Option Nat)
  deriving Repr

/-- The lower of the lowest value so far and the value under a cursor; the earlier one of equals. -/
def lower (lt : α → α → Bool) (lowest : Option α) (c : Cursor α) : Option α :=
  match c.rest, lowest with
  | [], low => low
  | v :: _, none => some v
  | v :: _, some low => if lt v low then some v else some low

/-- The lowest value under any cursor. -/
def lowest? (lt : α → α → Bool) (cursors : List (Cursor α)) : Option α :=
  cursors.foldl (lower lt) none

namespace Cursor

/-- The row under a cursor, if its value is `low`. -/
def row? (eq : α → α → Bool) (low : α) (c : Cursor α) : Option Nat :=
  match c.rest with
  | [] => none
  | v :: _ => if eq v low then some c.row else none

/-- The cursor moved on if its value is `low`. -/
def advance (eq : α → α → Bool) (low : α) (c : Cursor α) : Cursor α :=
  match c.rest with
  | [] => c
  | v :: rest => if eq v low then ⟨c.row + 1, rest⟩ else c

end Cursor

/-- Merges what is under the cursors into at most `capacity` positions; none if they do not do. -/
def mergeCursors? (lt eq : α → α → Bool) :
    (capacity : Nat) → List (Cursor α) → Option (List (Position α))
  | capacity, cursors =>
    match lowest? lt cursors, capacity with
    | none, _ => some []
    | some _, 0 => none
    | some low, capacity + 1 =>
      (mergeCursors? lt eq capacity (cursors.map (Cursor.advance eq low))).map
        (⟨low, cursors.map (Cursor.row? eq low)⟩ :: ·)

/-- Merges lists of values; no more positions are needed than there are values. -/
def mergeLists? (lt eq : α → α → Bool) (axes : List (List α)) : Option (List (Position α)) :=
  mergeCursors? lt eq (axes.map List.length).sum (axes.map fun xs => ⟨0, xs⟩)

/-- The index map of child `c`. -/
def mapOf (positions : List (Position α)) (c : Nat) : IndexMap :=
  IndexMap.ofRows (positions.map fun p => (p.rows.getD c none).map Int.ofNat)

/-- A plain number as a real one, if it is not too large. -/
def plainReal? : Element → Option Double
  | .real x => some x
  | .int n => match Double.ofInt n with
    | .infinite _ => none
    | x => some x
  | .bool b => some (Double.ofInt b.toInt)
  | _ => none

/-- Whether the difference of two real numbers is above zero, or is no number. -/
def realsAscend (x y : Double) : Bool :=
  x.lt y || (!x.isFinite && x.equals y) || x.isNaN || y.isNaN

/-- Whether `a` and then `b` ascend, judged by the difference in the type's own arithmetic. -/
def ascends (type : ElementType) (a b : Element) : Bool :=
  match type, a, b with
  | .object, a, b =>
    match Scalar.asNumber a, Scalar.asNumber b with
    | .int x, .int y => x < y
    | a, b => match plainReal? a, plainReal? b with
      | some x, some y => realsAscend x y
      | _, _ => false
  | _, .bool x, .bool y => x != y
  | _, .int x, .int y => 0 < type.wrap (y - x)
  | _, .real x, .real y => realsAscend x y
  | _, .time (some x), .time (some y) =>
    match Count.ofWord (y - x) with
    | some d => 0 < d
    | none => true
  | _, .time _, .time _ => true
  | _, _, _ => false

/-- Why there is no difference between two plain values. -/
def differenceFault? (a b : Element) : Option Failure :=
  match Scalar.asNumber a, Scalar.asNumber b with
  | .int _, .int _ => none
  | .int n, .real _ | .real _, .int n =>
    if (plainReal? (.int n)).isSome then none else some .axisDifferenceTooLarge
  | .real _, .real _ => none
  | _, _ => some .axisWithoutDifferences

/-- The first fault among the differences of neighbours. -/
def firstFault? : List Element → Option Failure
  | a :: b :: rest =>
    match differenceFault? a b with
    | some f => some f
    | none => firstFault? (b :: rest)
  | _ => none

/-- Refuses values of which some have no difference. -/
def checkDifferences (b : Block) : Except Failure Unit :=
  match b.type with
  | .text _ => .error .axisWithoutDifferences
  | .object => match firstFault? b.data with
    | some f => .error f
    | none => .ok ()
  | _ => .ok ()

/-- The first place where a list of values does not ascend, with the two values. -/
def firstDescent? (type : ElementType) : (position : Nat) → List Element →
    Option (Nat × Element × Element)
  | position, a :: b :: rest =>
    if ascends type a b then firstDescent? type (position + 1) (b :: rest)
    else some (position + 1, b, a)
  | _, _ => none

/-- The place of the first value that is not a number. -/
def firstNaN? (b : Block) : Option Nat :=
  if b.type.isReal then b.data.findIdx? fun e => match e with
    | .real x => x.isNaN
    | _ => false
  else none

/-- Refuses an axis that is no line, has a value that is not a number, or does not ascend. -/
def check (child : Nat) (b : Block) : Except Failure Unit :=
  if b.shape.length ≠ 1 then .error (.axisNotALine child b.shape)
  else match firstNaN? b with
    | some position => .error (.axisNotANumber child position)
    | none =>
      if b.data.length ≤ 1 then .ok ()
      else do
        checkDifferences b
        match firstDescent? b.type 0 b.data with
        | some (position, value, previous) =>
          throw (.axisNotAscending child position ⟨b.type, value⟩ ⟨b.type, previous⟩)
        | none => return ()

/-- Refuses the first axis that cannot be merged, counting from `child`. -/
def checkAll : (child : Nat) → List Block → Except Failure Unit
  | _, [] => .ok ()
  | child, b :: bs => do
    check child b
    checkAll (child + 1) bs

/-- The common type of several axes. -/
def commonType (axes : List Block) : Except Failure ElementType :=
  let types := axes.map Block.type
  (ElementType.commonOf types).mapError fun fault => match fault with
    | .apart family leader => .noCommonType family leader types
    | .units fault => .noCommonUnit fault

/-- Whether a scalar is nothing. -/
def isNothing (s : Scalar) : Bool := s.element == .null

/-- The lowest value so far and that under a cursor, unless they are not ordered or not compared.
Nothing is no lowest value. -/
def lowerChecked (lowest? : Option Scalar) (c : Cursor Scalar) :
    Except Failure (Option Scalar) := do
  match c.rest, lowest? with
  | [], low? => return low?
  | v :: _, none => return if isNothing v then none else some v
  | v :: _, some low =>
    if !Scalar.isOrdered v low then throw (.notOrdered v low)
    Scalar.checkCompared v low
    return if v.lt low then some v else some low

/-- Refuses a value under a cursor that is not compared with the lowest one. -/
def checkCursor (low : Scalar) (c : Cursor Scalar) : Except Failure Unit :=
  match c.rest with
  | [] => .ok ()
  | v :: _ => Scalar.checkCompared v low

/-- Refuses the first comparison on the way of a merge that fails, and the first value for which the
merged axis has no room. -/
def checkSteps (type : ElementType) :
    (capacity : Nat) → List (Cursor Scalar) → Except Failure Unit
  | 0, cursors => do
    let _ ← cursors.foldlM lowerChecked none
    return ()
  | capacity + 1, cursors => do
    match ← cursors.foldlM lowerChecked none with
    | none => return ()
    | some low =>
      let _ ← liftConversion (low.store type)
      cursors.forM (checkCursor low)
      checkSteps type capacity (cursors.map (Cursor.advance Scalar.equals low))

/-- Refuses axes whose values are not compared on the way of a merge. -/
def checkCompared (type : ElementType) (axes : List Block) : Except Failure Unit :=
  checkSteps type (axes.map fun b => b.data.length).sum (axes.map fun b => ⟨0, b.scalars⟩)

/-- The values of an axis that are merged: all but nothing. -/
def values (b : Block) : List Scalar := b.scalars.filter fun s => !isNothing s

/-- The positions of the merged axis of several blocks. -/
def positions (axes : List Block) : Except Failure (List (Position Scalar)) :=
  match mergeLists? Scalar.lt Scalar.equals (axes.map values) with
  | some ps => .ok ps
  | none => .error (.axisOverrun (axes.map fun b => b.data.length).sum)

/-- The merged axis and the index map of every child. -/
def merge (axes : List Block) : Except Failure (Block × List IndexMap) := do
  if axes.isEmpty then throw .noAxes
  checkAll 0 axes
  let type ← commonType axes
  checkCompared type axes
  let ps ← positions axes
  let data ← liftConversion (ps.mapM fun p => p.value.store type)
  return (Block.ofList type data, (List.range axes.length).map (mapOf ps))

/-- Merges axes and notes their sizes. -/
def mergeNoted (axes : List Block) : Noted (Block × List IndexMap) := do
  let (merged, maps) ← (merge axes : Except Failure _)
  let sizes := (Value.list (axes.map fun b => .int b.data.length)).shown
  Noted.note .debug .axes
    s!"Merged {axes.length} axes of sizes {sizes} into {merged.data.length} values"
  return (merged, maps)

end Axis

end GridUnion
