import GridUnion.Child
import GridUnion.Axis.Union
import GridUnion.Fetch

/-!
# Datasets

A dataset puts children side by side: it has the data variables of all of them, over the union of
their merged axes.  All other dimensions are the same in every child.  A request for data is
answered, variable by variable, from the child that owns the variable; where that child has no row
the answer holds the variable's fill value.
-/

namespace GridUnion

/-- Children side by side. -/
structure Dataset where
  id : Value
  first : Child
  rest : List Child
  /-- The data variables in order, each with the number of its child. -/
  owners : List (String × Nat)
  union : AxisUnion
  title : Value
  /-- What was left out, and why. -/
  warnings : List String
  deriving Repr, Inhabited

namespace Dataset

/-! ### Putting children side by side -/

/-- Refuses the first child that is not similar to the first of all, counting from `number`. -/
def checkSimilar (first : Child) : (number : Nat) → List Child → Except Failure Unit
  | _, [] => .ok ()
  | number, c :: cs => do
    if c.axis ≠ first.axis then throw (.axisNamesDiffer number first.axis c.axis)
    match ← first.difference? c with
    | some d => throw (.notSimilar number d)
    | none => checkSimilar first (number + 1) cs

/-- Adds the variables of child `number` to the owners; no variable may have an owner already. -/
def addOwners (number : Nat) (owners : List (String × Nat)) :
    List String → Except Failure (List (String × Nat))
  | [] => .ok owners
  | v :: vs =>
    match owners.lookup v with
    | some other => .error (.variableTwice v other number)
    | none => addOwners number (owners ++ [(v, number)]) vs

/-- The owners of all variables, counting children from `number`. -/
def ownersFrom (number : Nat) (owners : List (String × Nat)) :
    List Child → Except Failure (List (String × Nat))
  | [] => .ok owners
  | c :: cs => do
    ownersFrom (number + 1) (← addOwners number owners c.variableNames) cs

/-- The title of a dataset: the given one, else that of the first child, else its id. -/
def titleOf (id : Value) (first : Child) (title : Value) : Value :=
  match title with
  | .null => (first.grid.attributes.lookup "title").getD id
  | t => t

/-- What is noted about a child. -/
def childNote (c : Child) (number : Nat) : Note :=
  ⟨.debug, .datasets, s!"child[{number}] " ++ c.label.formatted ++ ": " ++ c.axis ++
    s!" has {c.shape.headD 0} values"⟩

/-- Puts children side by side. -/
def build (id : Value) (children : List Child) (title : Value) : Noted Dataset := do
  Noted.note .info .datasets ("Constructing side-by-side dataset " ++ id.formatted)
  match children with
  | [] => (Except.error (.datasetWithoutChildren id) : Except Failure Dataset)
  | first :: rest =>
    (checkSimilar first 1 rest : Except Failure Unit)
    let owners ← (ownersFrom 0 [] children : Except Failure _)
    (⟨.ok (), children.zipIdx.map fun (c, n) => childNote c n⟩ : Noted Unit)
    let axes ← children.mapM fun c => (c.mergeValues : Except Failure Block)
    let union ← AxisUnion.ofBlocks axes
    Noted.note .info .datasets ("Side-by-side dataset " ++ id.formatted ++
      s!" has {owners.length} variables and {union.size} " ++ first.axis ++
      " values. Constructed in <t>s")
    return ⟨id, first, rest, owners, union, titleOf id first title, []⟩

/-! ### What a dataset has -/

/-- All children. -/
def children (d : Dataset) : List Child := d.first :: d.rest

/-- The dimensions. -/
def axes (d : Dataset) : List String := d.first.axes

/-- The data variables. -/
def variableNames (d : Dataset) : List String := d.owners.map (·.1)

/-- The sizes of the dimensions. -/
def shape (d : Dataset) : List Nat := d.union.size :: d.first.shape.drop 1

/-- The attributes, which are those of the first child. -/
def attributes (d : Dataset) : Attributes := d.first.grid.attributes

/-- The number of the child that has a variable. -/
def owner (d : Dataset) (name : String) : Except Failure Nat :=
  match d.owners.lookup name with
  | some c => .ok c
  | none => .error (.unknownVariable d.id name)

/-- The child that has a variable. -/
def ownerOf (d : Dataset) (name : String) : Except Failure Child := do
  return d.children.getD (← d.owner name) default

/-- The values of a dimension. -/
def axisValues (d : Dataset) (name : String) : Except Failure Block :=
  if name = d.first.axis then .ok d.union.axis else d.first.grid.values name

/-- The attributes of a dimension. -/
def axisAttributes (d : Dataset) (name : String) : Attributes := d.first.grid.attributesOf name

/-- The attributes of a variable. -/
def variableAttributes (d : Dataset) (name : String) : Except Failure Attributes := do
  return (← d.ownerOf name).grid.attributesOf name

/-- The value that stands for missing data in a variable. -/
def fill (d : Dataset) (name : String) : Except Failure Value := do
  (← d.ownerOf name).fill name

/-- Which children have a value at each position of the merged axis. -/
def coverage (d : Dataset) : Except Failure Coverage :=
  d.union.coverage (d.children.map Child.label)

/-- A dataset as it is shown. -/
def shown (d : Dataset) : String :=
  "SideBySideDataset(" ++ d.id.shown ++ s!", {d.children.length} children, shape=" ++
    Block.shapeText d.shape ++ ")"

/-- The smallest of several values, the first of equals; they are compared exactly. -/
def oldest (created : Value) (children : List Value) : Except Failure Value :=
  children.foldlM (fun low t => do return if ← t.isBelow low then t else low) created

/-! ### Data -/

/-- Refuses the first request that is not within its dimension, by the dimension's name. -/
def checkRequests : List (String × Nat × Request) → Except Failure Unit
  | [] => .ok ()
  | (name, size, r) :: rest =>
    match r.check size with
    | .error f => .error (.onAxis name f)
    | .ok () => checkRequests rest

/-- Sets the block of a name; a name that is there keeps its place. -/
def setBlock (name : String) (b : Block) : List (String × Block) → List (String × Block)
  | [] => [(name, b)]
  | (n, x) :: rest => if n = name then (n, b) :: rest else (n, x) :: setBlock name b rest

/-- The values of a dimension at the requested positions. -/
def axisData (d : Dataset) (name : String) (r : Request) : Except Failure Block := do
  let values ← d.axisValues name
  match values.shape with
  | [] => throw .noLength
  | n :: _ =>
    match r.slice.positions? n with
    | some picks => return values.select [picks]
    | none => throw .zeroSliceStep

variable [Machine]

/-- The values of a variable at the requested positions. -/
def variableData (d : Dataset) (name : String) (merged : Request) (others : List Request) :
    Noted Block := do
  let c ← (d.owner name : Except Failure Nat)
  let child := d.children.getD c default
  let map ← (d.union.mapOfChild c : Except Failure IndexMap)
  let fill ← (child.fill name : Except Failure Value)
  let field ← (child.grid.fieldOrPositions name : Except Failure Field)
  let read : Reader := fun _ start stride stop => child.fetch name ⟨start, stride, stop⟩ others
  let fetch : Fetch := ⟨others.map fun r => (r.length : Int), some field.block.type, fill⟩
  (fetch.run map merged read).noted merged

/-- The data of variables after each other, added to what there is. -/
def variablesData (d : Dataset) (merged : Request) (others : List Request) :
    List String → List (String × Block) → Noted (List (String × Block))
  | [], data => .of (.ok data)
  | v :: vs, data => do
    let b ← d.variableData v merged others
    variablesData d merged others vs (setBlock v b data)

/-- The requested values of every dimension and of the given variables. -/
def data (d : Dataset) (names : List String) (constraints : List Request) :
    Noted (List (String × Block)) := do
  if constraints.length ≠ d.axes.length then
    (Except.error (.datasetConstraints d.axes.length constraints.length) : Except Failure Unit)
  (checkRequests (d.axes.zip (d.shape.zip constraints)) : Except Failure Unit)
  let axes ← (d.axes.zip constraints).mapM fun (name, r) =>
    (do return (name, ← d.axisData name r) : Except Failure _)
  match constraints with
  | [] => return []
  | merged :: others =>
    let unique := axes.foldl (fun data (name, b) => setBlock name b data) []
    variablesData d merged others names unique

/-- A requested dimension as a coordinate; merged times are instants again. -/
def coordinate (d : Dataset) (name : String) (b : Block) : Except Failure Field := do
  let values ← if name = d.first.axis ∧ d.first.isTimeAxis then Times.ofNanoseconds b else .ok b
  return ⟨name, [name], ← liftConversion values.kept, d.axisAttributes name, []⟩

/-- The requested data as a grid. -/
def subset (d : Dataset) (names : List String) (constraints : List Request) : Noted Grid := do
  let data ← d.data names constraints
  let coordinates ← d.axes.mapM fun name =>
    (d.coordinate name ((data.lookup name).getD default) : Except Failure Field)
  let fields ← names.mapM fun v => (do
    return ⟨v, d.axes, (data.lookup v).getD default, ← d.variableAttributes v, []⟩ :
    Except Failure Field)
  (Grid.ofFields coordinates fields d.attributes : Except Failure Grid)

/-- The requests for all dimensions: the given ones, then every other dimension whole. -/
def fullConstraints (d : Dataset) (given : List Request) : Except Failure (List Request) :=
  if d.shape.length < given.length then .error (.tooManyConstraints d.shape.length)
  else .ok (given ++ (d.shape.drop given.length).map fun size => ⟨0, 1, (size : Int) - 1⟩)

/-! ### Description -/

/-- A line about a column of a coverage. -/
def columnLine (d : Dataset) (size : Nat) (name : Value) (presence : List Bool) : String :=
  "  " ++ name.formatted ++ s!": {presence.count true} of {size} " ++ d.first.axis ++ " values"

/-- A description of a dataset in lines. -/
def describe (d : Dataset) : Except Failure String := do
  if d.id.isTooLong || d.title.isTooLong then throw .numberTooLong
  let axes := (d.axes.zip d.shape).map fun (n, s) => n ++ "[" ++ toString s ++ "]"
  let head := ["Dataset " ++ d.id.formatted ++ ": " ++ d.title.formatted,
    "  axes: " ++ ", ".intercalate axes, "  variables: " ++ ", ".intercalate d.variableNames]
  let coverage ← d.coverage
  if !AxisUnion.areDistinct coverage.columns then throw .labelsNotDistinct
  let size := coverage.axis.data.length
  let columns := coverage.columns.map fun (n, p) => d.columnLine size n p
  let warnings := d.warnings.map ("  warning: " ++ ·)
  return "\n".intercalate (head ++ columns ++ warnings)

end Dataset

end GridUnion
