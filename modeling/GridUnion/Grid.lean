import GridUnion.Failure
import GridUnion.Block.Kept

/-!
# Grids

A grid holds fields over named dimensions: coordinates, which describe the dimensions, and data
variables.  `Grid.ofFields` sorts fields into the two, and refuses fields that do not fit together:
a dimension has one size, and no field without dimensions has its name.
-/

namespace GridUnion

/-- Attributes by name, in order. -/
abbrev Attributes := List (String × Value)

/-- A block over named dimensions. -/
structure Field where
  name : String
  dims : List String
  block : Block
  attributes : Attributes
  /-- How the field was stored, for what its attributes no longer say. -/
  encoding : Attributes
  deriving Repr, Inhabited

/-- Fields over named dimensions. -/
structure Grid where
  coordinates : List Field
  quantities : List Field
  attributes : Attributes
  deriving Repr, Inhabited

namespace Field

/-- The sizes of the field's dimensions. -/
def sizes (f : Field) : List (String × Nat) := f.dims.zip f.block.shape

end Field

namespace Grid

/-- All fields, coordinates first. -/
def fields (g : Grid) : List Field := g.coordinates ++ g.quantities

/-- The field of a name. -/
def field? (g : Grid) (name : String) : Option Field := g.fields.find? fun f => f.name == name

/-- The sizes of all dimensions. -/
def sizes (g : Grid) : List (String × Nat) := g.fields.flatMap Field.sizes

/-- The size of a dimension. -/
def size? (g : Grid) (dim : String) : Option Nat := g.sizes.lookup dim

/-- The first dimension that has two sizes. -/
def unevenDim? (sizes : List (String × Nat)) : Option String :=
  (sizes.find? fun (d, n) => sizes.any fun (e, m) => d == e && n != m).map (·.1)

/-- A field set among fields; a field of the same name keeps its place. -/
def setField (f : Field) : List Field → List Field
  | [] => [f]
  | g :: gs => if g.name == f.name then f :: gs else g :: setField f gs

/-- The grid of coordinates and data variables.  A variable that is named like a dimension is a
coordinate. -/
def ofFields (coordinates quantities : List Field) (attributes : Attributes) :
    Except Failure Grid :=
  let coordinates := coordinates.foldl (fun fs f => setField f fs) []
  let quantities := quantities.foldl (fun fs f => setField f fs) []
  let all := coordinates ++ quantities
  let sizes := all.flatMap Field.sizes
  match all.find? fun f => f.dims.length != f.block.shape.length with
  | some f => .error (.unevenGrid f.name)
  | none =>
    match quantities.find? fun f => coordinates.any fun c => c.name == f.name with
    | some f => .error (.unevenGrid f.name)
    | none =>
      match unevenDim? sizes with
      | some d => .error (.unevenGrid d)
      | none =>
        let isDim (f : Field) : Bool := sizes.any fun (d, _) => d == f.name
        match all.find? fun f => isDim f && f.dims.isEmpty with
        | some f => .error (.unevenGrid f.name)
        | none =>
          .ok ⟨coordinates ++ quantities.filter isDim, quantities.filter fun f => !isDim f,
            attributes⟩

/-- The positions along a dimension, which stand for the values of a dimension without any. -/
def positions (n : Nat) : Block :=
  let data := (List.range n).map fun (i : Nat) => Element.int i
  Block.ofList .int64 data

/-- The field of a name; a dimension without a field has its positions. -/
def fieldOrPositions (g : Grid) (name : String) : Except Failure Field :=
  match g.field? name, g.size? name with
  | some f, _ => .ok f
  | none, some n => .ok ⟨name, [name], positions n, [], []⟩
  | none, none => .error (.unknownName name)

/-- The values of a dimension or field. -/
def values (g : Grid) (name : String) : Except Failure Block :=
  (g.fieldOrPositions name).map Field.block

/-- The attributes of a field; none for a name without a field. -/
def attributesOf (g : Grid) (name : String) : Attributes :=
  ((g.field? name).map Field.attributes).getD []

end Grid

end GridUnion
