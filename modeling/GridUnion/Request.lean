import GridUnion.Axis.IndexTable

/-!
# Requests

A request asks for the positions `start`, `start + stride`, … of an axis, up to and including
`stop`.
-/

namespace GridUnion

/-- A range of positions with a stride, both ends included. -/
structure Request where
  start : Int
  stride : Int
  stop : Int
  deriving DecidableEq, Repr, Inhabited

namespace Request

/-- The number of positions that are asked for. -/
def count (r : Request) : Except Failure Int :=
  if r.stride = 0 then .error .zeroStride
  else .ok (Int.fdiv (r.stop - r.start) r.stride + 1)

/-- Refuses a request that is not within an axis of the given size. -/
def check (size : Int) (r : Request) : Except Failure Unit :=
  if r.stride < 1 then .error (.strideTooSmall r.stride)
  else if r.start < 0 ∨ size ≤ r.stop ∨ r.stop < r.start then
    .error (.invalidRange r.start r.stop size)
  else .ok ()

/-- A request that is within an axis of the given size. -/
def Valid (size : Int) (r : Request) : Prop :=
  1 ≤ r.stride ∧ 0 ≤ r.start ∧ r.start ≤ r.stop ∧ r.stop < size

instance (size : Int) (r : Request) : Decidable (r.Valid size) :=
  inferInstanceAs (Decidable (_ ∧ _ ∧ _ ∧ _))

theorem check_eq_ok_iff {size : Int} {r : Request} :
  r.check size = .ok () ↔ r.Valid size
  := by
  unfold check Valid
  split
  · simp; omega
  · split
    · simp; omega
    · simp; omega

/-- The number of positions of a request within an axis. -/
def length (r : Request) : Nat := ((r.stop - r.start) / r.stride + 1).toNat

/-- The positions of a request within an axis. -/
def positions (r : Request) : List Nat :=
  (List.range r.length).map fun (i : Nat) => (r.start + i * r.stride).toNat

/-- The rows of an index map at the requested positions. -/
def rows (m : IndexMap) (r : Request) : List (Option Int) :=
  let slots := m.toList.toArray
  r.positions.map fun p => slots.getD p none

/-- The request as a slice. -/
def slice (r : Request) : Slice := ⟨r.start, r.stop + 1, r.stride⟩

@[simp] theorem length_positions (r : Request) :
  r.positions.length = r.length
  := by
  simp [positions]

@[simp] theorem length_rows (m : IndexMap) (r : Request) :
  (r.rows m).length = r.length
  := by
  simp [rows]

end Request

end GridUnion
