import GridUnion.CommandLine.Tool

/-!
# The gallery

Draws all datasets of a catalogue into the data directory: the coverage of each dataset, and a map
of each variable at the last row of the merged axis.
-/

namespace GridUnion.Gallery

variable [Machine]

/-- The levels of the contours of a map. -/
def contourLevels : Value :=
  .block (Block.ofList .int64 ((List.range 20).map fun (i : Nat) => .int (2 * (i : Int) - 20)))

/-- The path of a drawing. -/
def drawingPath (figures : Path) (name : String) : String :=
  (figures.join (Path.ofString (name ++ ".png"))).text

/-- Draws one variable of a dataset as a map; a wrong value is printed, and the map left out. -/
def drawVariable (figures : Path) (id : String) (d : Dataset) (last : Int) (name : String) :
    Action Unit := do
  let path := Value.text (drawingPath figures (id ++ "_" ++ name ++ "_" ++ toString last))
  match ← Action.attempt (Action.ofNoted (d.drawMap name last contourLevels (some path) true)) with
  | .ok drawing => Action.draw drawing
  | .error f =>
    if f.kind.isValue then
      Action.print ("Skipping map of " ++ id ++ " " ++ name ++ ": " ++ f.message)
    else Action.fail f

/-- Draws a dataset. -/
def drawDataset (figures : Path) (id : String) (d : Dataset) : Action Unit := do
  let path := Value.text (drawingPath figures (id ++ "_coverage"))
  Action.draw (← (d.drawCoverage (some path) : Except Failure Drawing))
  let last : Int := (d.shape.headD 0 : Int) - 1
  d.variableNames.forM fun name => drawVariable figures id d last name

/-- Draws the catalogue at a path, or else the one in the data directory. -/
def draw (catalogue : Option String) : Action Unit := do
  match ← Action.ask fun s => s.files.dataDirectory with
  | none => Action.fail .noDataDirectory
  | some directory =>
    let home := Path.ofString directory
    let figures := home.join (Path.ofString "Figures")
    let inHome (name : String) : String := (home.join (Path.ofString name)).text
    Action.changeFiles fun fs => fs.makeDirectory figures
    prepareLog (some (inHome "plot_side_by_side.log"))
    let es ← Catalogue.load (catalogue.getD (inHome "datasets.yaml"))
    let (registry, failures) ← CommandLine.loadEntries es
    failures.forM fun (id, _) => Action.print ("Couldn't load " ++ id)
    registry.ids.forM fun id => do
      let p ← (registry.get (.text id) : Except Failure Published)
      drawDataset figures id p.dataset

end GridUnion.Gallery
