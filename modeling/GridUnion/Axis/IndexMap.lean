import GridUnion.Block.OfValue

/-!
# Index maps

An index map looks up, for every position of a merged axis, the row of one child that stands there,
if the child has one.  `toList` is the view of a map; a row that is kept where the child has none
does not show in it.
-/

namespace GridUnion

/-- What an index map keeps for one merged position. -/
structure Slot where
  /-- The child's row; it means nothing where the child is absent. -/
  row : Int
  present : Bool
  deriving DecidableEq, Repr, Inhabited

/-- The child's row, if it has one. -/
def Slot.row? (s : Slot) : Option Int := if s.present then some s.row else none

/-- The lookup from merged positions to the rows of one child. -/
structure IndexMap where
  slots : List Slot
  deriving DecidableEq, Repr, Inhabited

namespace IndexMap

/-- The map of the given rows. -/
def ofRows (rows : List (Option Int)) : IndexMap :=
  ⟨rows.map fun r => ⟨r.getD 0, r.isSome⟩⟩

/-- The number of merged positions. -/
def size (m : IndexMap) : Nat := m.slots.length

/-- The row at every merged position. -/
def toList (m : IndexMap) : List (Option Int) := m.slots.map Slot.row?

/-- Whether the child is present at every merged position. -/
def presence (m : IndexMap) : List Bool := m.slots.map Slot.present

/-- The rows at the positions where the child is present. -/
def rows (m : IndexMap) : List Int := m.toList.filterMap id

/-- The number of positions where the child is present. -/
def countPresent (m : IndexMap) : Nat := m.presence.countP id

/-- The place of a position that counts from the end if it is negative. -/
def place? (size : Nat) (position : Int) : Option Nat :=
  if 0 ≤ position ∧ position < size then some position.toNat
  else if position < 0 ∧ -(size : Int) ≤ position then some (position + size).toNat
  else none

/-- The row at a position. -/
def get (m : IndexMap) (position : Int) : Except Failure (Option Int) :=
  match place? m.size position with
  | some p => .ok (m.toList.getD p none)
  | none => .error (.outOfBounds position m.size)

/-- Whether two maps are present at the same positions and have the same rows there. -/
def equals (a b : IndexMap) : Bool :=
  a.presence == b.presence && a.rows == b.rows

/-- A list of rows as it is shown. -/
def textOfRows (rows : List (Option Int)) : String :=
  "IndexMap(" ++ (Value.list (rows.map fun r => (r.map Value.int).getD .null)).shown ++ ")"

@[simp] theorem toList_ofRows (rows : List (Option Int)) :
  (ofRows rows).toList = rows
  := by
  unfold ofRows toList
  induction rows with
  | nil => rfl
  | cons r rows ih =>
    have h : Slot.row? ⟨r.getD 0, r.isSome⟩ = r := by cases r <;> rfl
    simpa [h] using ih

@[simp] theorem size_ofRows (rows : List (Option Int)) :
  (ofRows rows).size = rows.length
  := by
  simp [ofRows, size]

@[simp] theorem length_toList (m : IndexMap) :
  m.toList.length = m.size
  := by
  simp [toList, size]

end IndexMap

end GridUnion
