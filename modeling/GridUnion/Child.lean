import GridUnion.Grid.Derived
import GridUnion.Axis.Times
import GridUnion.Request

/-!
# Children

A child is one of the grids that are put side by side.  All its data variables have the same
dimensions; the first is the axis that is merged with the other children, the others must match.
-/

namespace GridUnion

/-- Stands for a grid that was opened from outside and can be closed. -/
structure Handle where
  number : Nat
  location : String
  deriving DecidableEq, Repr, Inhabited

/-- Where a child comes from.  Its number tells a child apart from others that are like it. -/
inductive Origin where
  | memory (number : Nat)
  | opened (handle : Handle)
  deriving DecidableEq, Repr, Inhabited

/-- The origin of a child by the handle of its grid, if the grid was opened from outside. -/
def Origin.ofHandle (handle : Option Handle) : Origin := handle.elim (memory 0) opened

/-- One of the grids that are put side by side. -/
structure Child where
  grid : Grid
  name : Value
  source : Value
  /-- The dimension that is merged. -/
  axis : String
  /-- The other dimensions. -/
  others : List String
  origin : Origin
  deriving Repr, Inhabited

namespace Child

/-- What a child is called: its name, else where it comes from. -/
def labelOf (name source : Value) : Value :=
  match name, source with
  | .null, .null => .text "<in memory>"
  | .null, s => s
  | n, _ => n

/-- The first variable with other dimensions than the given ones. -/
def otherDims? (dims : List String) (quantities : List Field) : Option Field :=
  quantities.find? fun f => f.dims != dims

/-- The child of a grid.  Its variables must have the same dimensions, the first of which is the
given axis if there is one. -/
def ofGrid (grid : Grid) (name axis source : Value) (handle : Option Handle) :
    Except Failure Child :=
  let label := labelOf name source
  match grid.quantities with
  | [] => .error (.childWithoutVariables label)
  | first :: rest =>
    match otherDims? first.dims rest with
    | some f => .error (.childDimensionsDiffer label f.name f.dims first.dims)
    | none =>
      match first.dims with
      | [] => .error (.childWithoutDimensions label)
      | dim :: others =>
        match axis with
        | .null => .ok ⟨grid, name, source, dim, others, .ofHandle handle⟩
        | expected =>
          if expected.equals (.text dim) then
            .ok ⟨grid, name, source, dim, others, .ofHandle handle⟩
          else .error (.childAxisNotFirst label expected dim)

/-- The number of a child. -/
def number (c : Child) : Nat :=
  match c.origin with
  | .memory n => n
  | .opened h => h.number

/-- The handle of a child's grid, if the grid was opened from outside. -/
def handle? (c : Child) : Option Handle :=
  match c.origin with
  | .memory _ => none
  | .opened h => some h

/-- What a child is called. -/
def label (c : Child) : Value := labelOf c.name c.source

/-- The dimensions of the data variables. -/
def axes (c : Child) : List String := c.axis :: c.others

/-- The names of the data variables. -/
def variableNames (c : Child) : List String := c.grid.quantities.map Field.name

/-- The sizes of the dimensions. -/
def shape (c : Child) : List Nat := c.axes.map fun d => (c.grid.size? d).getD 0

/-- Whether the merged axis is one of times. -/
def isTimeAxis (c : Child) : Bool :=
  c.grid.coordinates.any fun f => f.name == c.axis && f.block.type.isInstant

/-- The values of the merged axis as they are merged: times as nanoseconds. -/
def mergeValues (c : Child) : Except Failure Block := do
  let values ← c.grid.values c.axis
  if values.type.isInstant then Times.toNanoseconds values
  else return values

/-- The first of the two attributes that say what stands for missing data. -/
def fillAttribute? (attributes : Attributes) : Option Value :=
  match attributes.lookup "_FillValue" with
  | some v => some v
  | none => attributes.lookup "missing_value"

/-- The value that stands for missing data in a field.  Its attributes come first; reals use
not-a-number; then comes how the field was stored, and last a value for its type. -/
def fillOf (f : Field) : Value :=
  match fillAttribute? f.attributes with
  | some v => v
  | none =>
    if f.block.type.isReal then .real .nan
    else match fillAttribute? f.encoding with
      | some v => v
      | none =>
        match f.block.type with
        | .instant _ => .scalar ⟨.instant .generic, .time none⟩
        | t => match t.bounds? with
          | some (_, highest) => .int highest
          | none => .text ""

/-- The value that stands for missing data under a name. -/
def fill (c : Child) (name : String) : Except Failure Value := do
  return fillOf (← c.grid.fieldNamed name)

/-- The positions along every dimension of a field that slices select; of two slices of one
dimension the last counts. -/
def picks (f : Field) (slices : List (String × Slice)) : Except Failure (List (List Nat)) :=
  f.sizes.mapM fun (d, n) =>
    match slices.reverse.lookup d with
    | none => .ok (List.range n)
    | some s => match s.positions? n with
      | some ps => .ok ps
      | none => .error .zeroSelectionStep

/-- Reads a block of a field: rows of the merged axis, and a request for every other dimension. -/
def fetch (c : Child) (name : String) (rows : Request) (constraints : List Request) :
    Except Failure Block := do
  if constraints.length ≠ c.others.length then
    throw (.childConstraints c.others.length constraints.length)
  let f ← c.grid.fieldNamed name
  let slices := c.axes.zip ((rows :: constraints).map Request.slice)
  let missing := c.axes.filter fun d => !f.dims.contains d
  if !missing.isEmpty then throw (.missingDimensions missing)
  return f.block.select (← picks f slices)

/-- The units of a dimension, nothing if it has none. -/
def units (c : Child) (dim : String) : Value :=
  ((c.grid.attributesOf dim).lookup "units").getD .null

/-- The first difference in one dimension, if there is one. -/
def dimDifference? (a b : Child) (dim other : String) : Except Failure (Option String) := do
  if dim ≠ other then
    return some s!"axis names differ ({dim} != {other})"
  let x ← a.grid.values dim
  let y ← b.grid.values dim
  let m ← (match x.length? with | some n => .ok n | none => .error .noLength)
  let n ← (match y.length? with | some n => .ok n | none => .error .noLength)
  if m ≠ n then
    return some s!"{dim} sizes differ ({m} != {n})"
  if !x.equals y then
    return some s!"{dim} values differ"
  let u := a.units dim
  let v := b.units dim
  if ← u.differs v then
    return some s!"{dim} units differ ({u.formatted} != {v.formatted})"
  return none

/-- The first difference in several dimensions, if there is one. -/
def dimsDifference? (a b : Child) : List (String × String) → Except Failure (Option String)
  | [] => .ok none
  | (dim, other) :: rest => do
    match ← dimDifference? a b dim other with
    | some d => return some d
    | none => dimsDifference? a b rest

/-- The first difference between the dimensions of two children that are not merged. -/
def difference? (a b : Child) : Except Failure (Option String) :=
  if a.axes.length ≠ b.axes.length then
    .ok (some s!"number of axes differs ({a.axes.length} != {b.axes.length})")
  else dimsDifference? a b (a.others.zip b.others)

end Child

end GridUnion
