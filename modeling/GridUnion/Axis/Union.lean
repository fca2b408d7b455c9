import GridUnion.Axis.Merge
import GridUnion.Block.Kept

/-!
# Unions of axes

The union of the children's axes: the merged axis with the index map of every child.  Its coverage
is a table of which child has a value at which position.
-/

namespace GridUnion

/-- The merged axis of several children and the index map of each. -/
structure AxisUnion where
  /-- The sizes of the children's axes. -/
  sizes : List Nat
  axis : Block
  maps : List IndexMap
  deriving Repr, Inhabited

/-- Which children have a value at each position of a merged axis. -/
structure Coverage where
  /-- The names of the columns, one for each child unless names are the same. -/
  columns : List (Value × List Bool)
  axis : Block
  deriving Repr

namespace AxisUnion

/-- The size of the first dimension of a value. -/
def sizeOf (v : Value) : Except Failure Nat :=
  match v with
  | .block b => match b.shape with
    | [] => .error .noLength
    | n :: _ => .ok n
  | .list items => .ok items.length
  | .text s => .ok s.length
  | .dict entries => .ok entries.length
  | v => .error (.noLengthOf v.kindName)

/-- The union of axes. -/
def ofBlocks (axes : List Block) : Noted AxisUnion := do
  let sizes ← axes.mapM fun b => (sizeOf (.block b) : Except Failure Nat)
  let (axis, maps) ← Axis.mergeNoted axes
  return ⟨sizes, axis, maps⟩

/-- The union of axes that are given as values. -/
def ofValues (axes : List Value) : Noted AxisUnion := do
  let sizes ← axes.mapM fun v => (sizeOf v : Except Failure Nat)
  let blocks ← axes.mapM fun v => (liftConversion (Block.ofValue v) : Except Failure Block)
  let (axis, maps) ← Axis.mergeNoted blocks
  return ⟨sizes, axis, maps⟩

/-- The number of positions of the merged axis. -/
def size (u : AxisUnion) : Nat := u.axis.data.length

/-- The index map of the child of a number. -/
def mapOfChild (u : AxisUnion) (child : Nat) : Except Failure IndexMap :=
  match u.maps[child]? with
  | some m => .ok m
  | none => .error .noSuchChild

/-- The index map of a child; a negative number counts from the last child. -/
def map (u : AxisUnion) (child : Int) : Except Failure IndexMap :=
  if child < -2 ^ 63 ∨ 2 ^ 63 ≤ child then .error .indexTooLarge
  else match IndexMap.place? u.maps.length child with
    | some c => u.mapOfChild c
    | none => .error .noSuchChild

/-- The index map of a child that a value names: a whole number or a truth value. -/
def mapNamed (u : AxisUnion) (child : Value) : Except Failure IndexMap :=
  match child with
  | .int n => u.map n
  | .bool b => u.map b.toInt
  | v => .error (.listPosition v.kindName)

/-- Whether two unions have the same axis, of the same type, and equal maps. -/
def equals (a b : AxisUnion) : Bool :=
  a.axis.type == b.axis.type && a.axis.equals b.axis && a.maps.length == b.maps.length &&
    (a.maps.zip b.maps).all fun (m, n) => m.equals n

/-- The names of children that have none. -/
def defaultNames (u : AxisUnion) : List Value :=
  (List.range u.maps.length).map fun c => .text ("child" ++ toString c)

/-- Columns with a name set to the values of one more child; names that are the same share a
column. -/
def setColumn (columns : List (Value × List Bool)) (name : Value) (presence : List Bool) :
    List (Value × List Bool) :=
  match columns with
  | [] => [(name, presence)]
  | (n, p) :: rest =>
    if n.isSame name then (n, presence) :: rest else (n, p) :: setColumn rest name presence

/-- The columns of names with the presences of the children. -/
def columnsOf (names : List Value) (maps : List IndexMap) : List (Value × List Bool) :=
  (names.zip maps).foldl (fun columns (name, m) => setColumn columns name m.presence) []

/-- What names of columns are, as far as it decides about their labels. -/
inductive LabelKind where
  | whole (n : Int)
  | real
  | text
  | missing
  | other
  deriving DecidableEq, Repr

/-- The kind of a name. -/
def labelKind (name : Value) : LabelKind :=
  match name, name.scalar? with
  | .null, _ => .missing
  | _, some s => match s.element with
    | .int n => .whole n
    | .real _ => .real
    | .text _ => .text
    | _ => .other
  | _, none => .other

/-- The whole numbers among names. -/
def wholeNumbers (kinds : List LabelKind) : List Int :=
  kinds.filterMap fun k => match k with
    | .whole n => some n
    | _ => none

/-- Whether a whole number has no word, or those before the first missing name have none in
common. -/
def areWide (kinds : List LabelKind) : Bool :=
  let together := wholeNumbers (kinds.takeWhile (· != .missing))
  (wholeNumbers kinds).any (fun n => decide (n < -2 ^ 63 ∨ 2 ^ 64 ≤ n)) ||
    (together.any (fun n => decide (n < 0)) && together.any (fun n => decide (2 ^ 63 ≤ n)))

/-- A label among numbers of which one is real or missing: it is real as well. -/
def realLabel (name : Value) : Value :=
  match name, name.scalar? with
  | .null, _ => .real .nan
  | _, some ⟨_, .int n⟩ => .real (Double.ofInt n)
  | _, some ⟨_, .real x⟩ => .real x
  | v, _ => v

/-- The names of columns as the labels of a table.  Numbers are all whole or all real unless they
are too wide, and among numbers or text a missing name is not a number. -/
def labels (names : List Value) : List Value :=
  let kinds := names.map labelKind
  let isNumber (k : LabelKind) : Bool := match k with
    | .whole _ => true
    | .real => true
    | _ => false
  if kinds.any (· == .text) && kinds.all (fun k => k == .text || k == .missing) then
    names.map fun v => if labelKind v == .missing then .real .nan else v
  else if kinds.any isNumber && kinds.all (fun k => isNumber k || k == .missing) &&
      !areWide kinds && kinds.any (fun k => k == .real || k == .missing) then
    names.map realLabel
  else names

/-- Columns with their names as labels. -/
def labelled (columns : List (Value × List Bool)) : List (Value × List Bool) :=
  (labels (columns.map (·.1))).zip (columns.map (·.2))

/-- Whether a label is not a number. -/
def isNotANumber : Value → Bool
  | .real .nan | .nan _ => true
  | _ => false

/-- Whether two labels are the same; any two that are not a number are. -/
def isSameLabel (a b : Value) : Bool := (isNotANumber a && isNotANumber b) || a.equals b

/-- Whether every column has a label of its own. -/
def areDistinct : List (Value × List Bool) → Bool
  | [] => true
  | (n, _) :: rest => rest.all (fun (m, _) => !isSameLabel n m) && areDistinct rest

/-- The type of a list of scalars that are all instants or all durations, as a table keeps them: in
the finest of their units. -/
def timesType? : List Scalar → Option ElementType
  | [] => none
  | s :: rest =>
    let unit := rest.foldl (fun u r => u.finer r.type.timeUnit.kept) s.type.timeUnit.kept
    if s.type.isInstant && rest.all (·.type.isInstant) then some (.instant unit)
    else if s.type.isDuration && rest.all (·.type.isDuration) then some (.duration unit)
    else none

/-- A time as a table keeps it, in another unit. -/
def keptIn (t : ElementType) (s : Scalar) : Except ConversionFault Element := do
  let kept ← s.kept
  match s.type with
  | .instant u => Scalar.convert t ⟨.instant u.kept, kept⟩
  | .duration u => Scalar.convert t ⟨.duration u.kept, kept⟩
  | _ => return kept

/-- Values of any kind as a table keeps them: times that have a word have their own type. -/
def looseIndex (axis : Block) : Block :=
  match timesType? axis.scalars with
  | none => axis
  | some t =>
    match axis.mapM t fun e => keptIn t (Scalar.ofCell .object e) with
    | .ok times => times
    | .error _ => axis

/-- The axis as the index of a table, where text counts as values of any kind. -/
def tableIndex (axis : Block) : Except ConversionFault Block :=
  match axis.type with
  | .text _ => axis.convert .object
  | .object => .ok (looseIndex axis)
  | _ => axis.kept

/-- The coverage under the given names.  Names share a column if they are equal or one object; of the
objects that are equal to nothing only those that are not a number are told apart. -/
def coverage (u : AxisUnion) (names : List Value) : Except Failure Coverage :=
  if names.length ≠ u.maps.length then .error (.namesMissing u.maps.length names.length)
  else match Value.unhashableIn? names with
    | some kind => .error (.unhashable kind)
    | none => do return ⟨labelled (columnsOf names u.maps), ← liftConversion (tableIndex u.axis)⟩

end AxisUnion

end GridUnion
