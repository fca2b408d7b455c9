import GridUnion.Comparison
import GridUnion.Element.Join

/-!
# Blocks from values

`Block.ofValue` makes a block of nested lists; its element type is the common type of their parts.
`Block.fill` makes a block of a given type and shape by repeating a value.
-/

namespace GridUnion

namespace Value

/-- What two lists begin with together. -/
def commonStart : List Nat → List Nat → List Nat
  | m :: ms, n :: ns => if m = n then m :: commonStart ms ns else []
  | _, _ => []

/-- The shape of nested lists: as far as it is the same everywhere, and whether it is; and whether
lists are nested deeper than dimensions are counted. -/
structure Outline where
  shape : List Nat
  even : Bool
  isDeeper : Bool

/-- The outline that two neighbours share. -/
def Outline.meet (a b : Outline) : Outline :=
  ⟨commonStart a.shape b.shape, a.even && b.even && a.shape == b.shape, a.isDeeper || b.isDeeper⟩

mutual

/-- The outline of a value, counting so many dimensions. -/
def outline : (dimensions : Nat) → Value → Outline
  | 0, list _ => ⟨[], true, true⟩
  | dimensions + 1, list items =>
    match outlines dimensions items with
    | [] => ⟨[0], true, false⟩
    | o :: os =>
      let shared := os.foldl Outline.meet o
      ⟨(os.length + 1) :: shared.shape, shared.even, shared.isDeeper⟩
  | dimensions, block b => ⟨b.shape.take dimensions, true, decide (dimensions < b.shape.length)⟩
  | _, _ => ⟨[], true, false⟩

/-- The outlines of several values. -/
def outlines (dimensions : Nat) : List Value → List Outline
  | [] => []
  | v :: vs => outline dimensions v :: outlines dimensions vs

end

mutual

/-- The parts of nested lists that are no lists, in order; those of a block are its elements. -/
def leaves : Value → List Value
  | list items => leavesIn items
  | block b => b.data.map fun e => block (Block.ofScalar (Scalar.ofCell b.type e))
  | v => [v]

/-- The leaves of several values. -/
def leavesIn : List Value → List Value
  | [] => []
  | v :: vs => leaves v ++ leavesIn vs

end

/-- The element type that a single value calls for. -/
def elementType : Value → ElementType
  | bool _ => .bool
  | int n =>
    if -2 ^ 63 ≤ n ∧ n < 2 ^ 63 then .int64
    else if 0 ≤ n ∧ n < 2 ^ 64 then .unsigned .w64
    else .object
  | real _ | nan _ => .double
  | text s => .text (max 1 s.length)
  | scalar s => s.type
  | block b => b.type
  | _ => .object

/-- Stores a value as an element. -/
def store (t : ElementType) (v : Value) : Except ConversionFault Element :=
  match v with
  | null => Element.storeNull t
  | bool b => Element.storeBool t b
  | int n => Element.storeInt t n
  | real x => Element.storeReal t x
  | nan _ => Element.storeReal t .nan
  | text s => Element.storeText t (Text.quoted s) s
  | scalar s => s.store t
  | block b => match b.scalar? with
    | some s => s.convert t
    | none => .error .sequenceForElement
  | list _ | tuple _ => .error .sequenceForElement
  | other =>
    match t with
    | .bool => .ok (.bool other.isSomething)
    | .signed _ | .unsigned _ => .error (.noInteger other.kindName)
    | .single | .double => .error (.noReal other.kindName)
    | .instant _ => .error .noInstant
    | .duration _ => .error .noDuration
    | .text width => .ok (Element.cutText width other.plain)
    | .object => .ok .null

end Value

namespace Block

/-- The greatest number of dimensions of a block. -/
def maxDimensions : Nat := 64

/-- The block of nested lists in a given type, with a limited number of dimensions. -/
def ofLists (type : ElementType) (dimensions : Nat) (v : Value) : Except ConversionFault Block :=
  let o := v.outline dimensions
  if !o.even then .error (.ragged o.shape)
  else if o.isDeeper then .error (.tooDeep dimensions)
  else do
    let data ← v.leaves.mapM (Value.store type)
    match ofData? type o.shape data with
    | some b => .ok b
    | none => .error (.ragged o.shape)

/-- The type of a block of nested lists. -/
def typeOfLists (v : Value) : ElementType :=
  ElementType.ofParts (v.leaves.map Value.elementType)

/-- The block that a value is. -/
def ofValue (v : Value) : Except ConversionFault Block :=
  match v with
  | .block b => .ok b
  | .scalar s => .ok (ofScalar s)
  | v => ofLists (typeOfLists v) maxDimensions v

/-- The block of a shape filled with one element. -/
def replicate (type : ElementType) (shape : List Nat) (e : Element) : Block :=
  ⟨type, shape, List.replicate shape.prod e, by simp⟩

/-- The block of a type and shape that repeats a value. -/
def fill (type : ElementType) (shape : List Nat) (v : Value) : Except ConversionFault Block :=
  match v with
  | .block b => do (← b.spread shape).convert type
  | .list items => do (← ofLists type shape.length (.list items)).spread shape
  | v => do return replicate type shape (← v.store type)

end Block

namespace Value

/-- The number of elements of two shapes, given in reverse, where a size of one is repeated as
often as the other shape needs. -/
def sharedSize? : List Nat → List Nat → Option Nat
  | [], ms => some ms.prod
  | ns, [] => some ns.prod
  | n :: ns, m :: ms =>
    if n = m ∨ m = 1 then (sharedSize? ns ms).map (n * ·)
    else if n = 1 then (sharedSize? ns ms).map (m * ·)
    else none

/-- The truth of a comparison of two blocks element by element, where it comes to one element. -/
def blocksDiffer (a b : Block) : Except Failure Bool := do
  match ElementType.unitFault? a.type b.type with
  | some fault => throw (.noCommonUnit fault)
  | none =>
    match sharedSize? a.shape.reverse b.shape.reverse with
    | none => throw (.shapesDoNotMatch a.shape b.shape)
    | some 0 => throw .emptyTruth
    | some 1 => return (Block.pairs a b).any fun (x, y) => !x.equals y
    | some _ => throw .ambiguousTruth

/-- Whether a block differs from a plain value, which takes over the precision of the block's
elements. -/
def blockDiffers (b : Block) (s : Scalar) : Except Failure Bool := do
  match s.element with
  | .null => blocksDiffer b (Block.ofScalar s)
  | _ =>
    Scalar.checkCompared ⟨b.type, .null⟩ s
    match b.scalars with
    | [] => throw .emptyTruth
    | [x] => return !x.equals s
    | _ => throw .ambiguousTruth

/-- Whether two scalars differ. -/
def scalarsDiffer (s t : Scalar) : Except Failure Bool := do
  Scalar.checkCompared s t
  return !s.equals t

/-- Whether a scalar is text. -/
def isText (s : Scalar) : Bool :=
  match s.element with
  | .text _ => true
  | _ => false

/-- Whether two values differ; blocks are compared element by element, also with lists. -/
def differs (a b : Value) : Except Failure Bool :=
  match a, b with
  | block x, block y => blocksDiffer x y
  | block x, scalar s => blocksDiffer x (Block.ofScalar s)
  | scalar s, block y => blocksDiffer (Block.ofScalar s) y
  | block x, v => match v.scalar? with
    | some s => blockDiffers x s
    | none => do blocksDiffer x (← liftConversion (Block.ofValue v))
  | v, block y => match v.scalar? with
    | some s => blockDiffers y s
    | none => do blocksDiffer (← liftConversion (Block.ofValue v)) y
  | scalar s, scalar t => scalarsDiffer s t
  | scalar s, list items =>
    if isText s then .ok true
    else do blocksDiffer (Block.ofScalar s) (← liftConversion (Block.ofValue (list items)))
  | list items, scalar s =>
    if isText s then .ok true
    else do blocksDiffer (← liftConversion (Block.ofValue (list items))) (Block.ofScalar s)
  | v, w => match v.scalar?, w.scalar? with
    | some s, some t => scalarsDiffer s t
    | _, _ => .ok (!v.equals w)

end Value

end GridUnion
