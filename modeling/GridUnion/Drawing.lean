import GridUnion.Dataset

/-!
# Drawings

A drawing is a list of commands to a plotter.  A dataset can be drawn as its coverage, or one slice
of a variable as a map.
-/

namespace GridUnion

/-- One command to a plotter. -/
inductive DrawingCommand where
  | newFigure
  | currentFigure
  | setSize (width height : Value)
  /-- Cells in shades of grey from zero to one. -/
  | cells (b : Block)
  | verticalTicks (positions : Block) (labels : List String)
  | horizontalLabel (text : String)
  | title (text : String)
  /-- A field on a map, with the levels of its contours. -/
  | map (field : Field) (levels : Value)
  | coastlines
  | display
  /-- Save what was drawn under a path. -/
  | save (path : Value)
  | closeAll
  deriving Repr

/-- Commands in order. -/
abbrev Drawing := List DrawingCommand

namespace Dataset

/-- Shows a drawing, or saves it under a path, and closes all figures. -/
def finish (path : Option Value) : Drawing :=
  [match path with
    | none => .display
    | some p => .save p, .closeAll]

/-- The columns of a coverage as rows of zeros and ones. -/
def coverageCells (c : Coverage) : Block :=
  let columns := c.columns.toArray.map fun (_, p) => p.toArray
  Block.tabulate .int64 [c.columns.length, c.axis.data.length] fun ix =>
    let column := columns.getD (ix.getD 0 0) #[]
    .int (column.getD (ix.getD 1 0) false).toInt

/-- The middles of `n` rows. -/
def rowMiddles (n : Nat) : Block :=
  let data := (List.range n).map fun (i : Nat) =>
    Element.real (Double.ofRatio false (2 * i + 1) 2)
  Block.ofList .double data

/-- A drawing of which children have values along the merged axis. -/
def drawCoverage (d : Dataset) (path : Option Value) : Except Failure Drawing := do
  let c ← d.coverage
  let n := c.columns.length
  return [.newFigure, .currentFigure, .setSize (.int 16) (.real (Double.ofRatio false (4 + n) 2)),
    .cells (coverageCells c),
    .verticalTicks (rowMiddles n) (c.columns.map fun (name, _) => name.plain),
    .horizontalLabel (d.first.axis ++ " index"), .title (d.id.formatted ++ " coverage")] ++
    finish path

/-- The names of a dimension of latitudes. -/
def latitudeNames : List String := ["lat", "latitude"]

/-- The names of a dimension of longitudes. -/
def longitudeNames : List String := ["lon", "longitude"]

/-- The dimensions of a map and their sizes, if the dataset has maps. -/
def mapShape? (d : Dataset) : Option (Nat × Nat) :=
  match d.first.others, d.shape with
  | [lat, lon], [_, m, n] =>
    if latitudeNames.contains lat.toLower ∧ longitudeNames.contains lon.toLower then some (m, n)
    else none
  | _, _ => none

/-- One row of the merged axis of a field. -/
def sliceField (f : Field) : Field :=
  let shape := f.block.shape.drop 1
  let data := f.block.data.take shape.prod
  { f with
    dims := f.dims.drop 1
    block := (Block.ofData? f.block.type shape data).getD default }

/-- A drawing of one row of the merged axis as a map. -/
def drawMap [Machine] (d : Dataset) (name : String) (index : Int) (levels : Value)
    (path : Option Value) (coastlines : Bool) : Noted Drawing := do
  match d.mapShape? with
  | none => (Except.error (.noMap d.axes) : Except Failure Drawing)
  | some (m, n) =>
    let whole (size : Nat) : Request := ⟨0, 1, (size : Int) - 1⟩
    let grid ← d.subset [name] [⟨index, 1, index⟩, whole m, whole n]
    let field := (grid.field? name).getD default
    return [.newFigure, .currentFigure, .setSize (.int 16) (.int 9),
      .map (sliceField field) levels] ++
      (if coastlines then [.coastlines] else []) ++
      [.title (d.id.formatted ++ " " ++ name)] ++ finish path

end Dataset

end GridUnion
