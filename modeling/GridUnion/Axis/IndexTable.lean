import GridUnion.Axis.IndexMap

/-!
# Index tables

An index table is what an index map is given as: rows and presences as two blocks of the same
shape, with any number of dimensions.  It is an index map if it has one dimension.  If all further
dimensions have size one, a position can be seen to be absent, but its row is no single number;
otherwise no position can be looked up in it.  Lists of positions, and masks that say which
positions are meant, pick slots in the same way.
-/

namespace GridUnion

/-- Rows and presences of the same shape. -/
structure IndexTable where
  shape : List Nat
  slots : List Slot
  deriving DecidableEq, Repr, Inhabited

namespace IndexTable

/-- The table of an index map. -/
def ofMap (m : IndexMap) : IndexTable := ⟨[m.size], m.slots⟩

/-- The block of a value in a given type. -/
def blockIn (type : ElementType) (v : Value) : Except Failure Block :=
  liftConversion <| match v with
    | .block b => b.convert type
    | .list items => Block.ofLists type Block.maxDimensions (.list items)
    | v => do return Block.ofScalar ⟨type, ← v.store type⟩

/-- An element as a row. -/
def rowOf : Element → Int
  | .int n => n
  | _ => 0

/-- The table of two values, the rows and the presences. -/
def ofValues (index present : Value) : Except Failure IndexTable := do
  let rows ← blockIn .int64 index
  let flags ← blockIn .bool present
  if rows.shape = flags.shape then
    return ⟨rows.shape, rows.data.zipWith (fun r p => ⟨rowOf r, p == .bool true⟩) flags.data⟩
  else throw .mapShapesDiffer

/-- The size of the first dimension. -/
def size (t : IndexTable) : Except Failure Nat :=
  match t.shape with
  | [] => .error .noLength
  | n :: _ => .ok n

/-- The row of the slots that a position picks; `isSingle` says that they are one slot without
dimensions. -/
def rowOfSlots (isSingle : Bool) : List Slot → Except Failure (Option Int)
  | [] => .error .emptyTruth
  | [s] =>
    if !s.present then .ok none
    else if isSingle then .ok (some s.row)
    else .error .notASingleRow
  | _ => .error .ambiguousTruth

/-- The slots at a place of the first dimension. -/
def slotsAt (t : IndexTable) (place : Nat) : List Slot :=
  let size := (t.shape.drop 1).prod
  (t.slots.drop (place * size)).take size

/-- Whether the table is an index map. -/
def isLine (t : IndexTable) : Bool := t.shape.length == 1

/-- The slots at a position of the first dimension. -/
def slotsFrom (t : IndexTable) (position : Int) : Except Failure (List Slot) :=
  match t.shape with
  | [] => .error (.tooManyPositions 0 1)
  | n :: _ =>
    match IndexMap.place? n position with
    | none => .error (.outOfBounds position n)
    | some place => .ok (t.slotsAt place)

/-- Refuses a mask of other sizes than the dimensions, counting from `dimension`. -/
def checkMask : (dimension : Nat) → (shape mask : List Nat) → Except Failure Unit
  | dimension, n :: ns, m :: ms =>
    if n = m then checkMask (dimension + 1) ns ms else .error (.maskMismatch dimension n m)
  | _, _, _ => .ok ()

/-- The slots for which a mask over the first dimensions is true. -/
def maskedSlots (t : IndexTable) (mask : Block) : Except Failure (List Slot) := do
  if t.shape.length < mask.shape.length then
    throw (.tooManyPositions t.shape.length mask.shape.length)
  checkMask 0 t.shape mask.shape
  let size := (t.shape.drop mask.shape.length).prod
  return (mask.data.zipIdx.filter fun (e, _) => e == .bool true).flatMap fun (_, i) =>
    (t.slots.drop (i * size)).take size

/-- The slots that a block of positions or a mask picks. -/
def slotsOf (t : IndexTable) (positions : Block) : Except Failure (List Slot) := do
  if positions.data.isEmpty then
    if t.shape.isEmpty then throw (.tooManyPositions 0 1)
    return []
  match positions.type with
  | .bool => t.maskedSlots positions
  | .signed _ | .unsigned _ =>
    let slots ← positions.data.mapM fun e => t.slotsFrom (Count.wrap (rowOf e))
    return slots.flatten
  | _ => throw .notAPosition

/-- The row at a position that is a whole number. -/
def getAt (t : IndexTable) (position : Int) : Except Failure (Option Int) :=
  if 2 ^ 63 ≤ position ∧ position < 2 ^ 64 then .error (.conversion .tooLargeForWord)
  else if position < -2 ^ 63 ∨ 2 ^ 64 ≤ position then .error .notAPosition
  else do rowOfSlots t.isLine (← t.slotsFrom position)

/-- The row at a position, or at several.  A truth value or nothing in place of a number picks all
slots or none. -/
def get (t : IndexTable) (position : Value) : Except Failure (Option Int) :=
  match position with
  | .int n => t.getAt n
  | .bool true | .null => rowOfSlots false t.slots
  | .bool false => rowOfSlots false []
  | .list items => do
    let positions ← liftConversion (Block.ofValue (.list items))
    rowOfSlots false (← t.slotsOf positions)
  | _ => .error .notAPosition

/-- The rows at several places of the first dimension, up to the first that has none to look up. -/
def rowsAt (t : IndexTable) (places : List Nat) : Except Failure (List (Option Int)) :=
  let slots := t.slots.toArray
  if t.isLine then .ok (places.map fun p => ((slots[p]?).map Slot.row?).getD none)
  else places.mapM fun p => rowOfSlots false (t.slotsAt p)

/-- The rows at all positions. -/
def toList (t : IndexTable) : Except Failure (List (Option Int)) := do
  t.rowsAt (List.range (← t.size))

/-- The number of slots where the child is present. -/
def countPresent (t : IndexTable) : Nat := (t.slots.map Slot.present).countP id

/-- Whether two tables have the same shape, presences and rows. -/
def equals (a b : IndexTable) : Bool :=
  a.shape == b.shape && (IndexMap.mk a.slots).equals ⟨b.slots⟩

end IndexTable

end GridUnion
