import GridUnion.Element.Convert

/-!
# Blocks

A block is a rectangular table of elements of one type, with any number of dimensions, kept in
row-major order.  `get` is the view of a block by index; `tabulate`, `select` and `spread` build
blocks index by index.
-/

namespace GridUnion

/-- A rectangular table of elements. -/
structure Block where
  type : ElementType
  /-- The size of every dimension. -/
  shape : List Nat
  /-- The elements, the last dimension running fastest. -/
  data : List Element
  size_eq : data.length = shape.prod
  deriving DecidableEq, Repr

instance : Inhabited Block := ⟨⟨.double, [0], [], rfl⟩⟩

namespace Block

/-- Sizes in parentheses; a comma follows a single size. -/
def shapeText {α : Type} [ToString α] : List α → String
  | [n] => "(" ++ toString n ++ ",)"
  | shape => "(" ++ ", ".intercalate (shape.map toString) ++ ")"

/-- All indices of a shape, the last place running fastest. -/
def indices : List Nat → List (List Nat)
  | [] => [[]]
  | n :: shape => (List.range n).flatMap fun i => (indices shape).map (i :: ·)

theorem length_indices (shape : List Nat) :
  (indices shape).length = shape.prod
  := by
  induction shape with
  | nil => rfl
  | cons n shape ih =>
    simp [indices, List.length_flatMap, ih, List.map_const']

/-- The place of an index in row-major order. -/
def offset : List Nat → List Nat → Nat
  | _ :: shape, i :: ix => i * shape.prod + offset shape ix
  | _, _ => 0

/-- The element at an index. -/
def get (b : Block) (ix : List Nat) : Element := b.data.getD (offset b.shape ix) default

/-- The block with the given element at every index. -/
def tabulate (type : ElementType) (shape : List Nat) (f : List Nat → Element) : Block :=
  ⟨type, shape, (indices shape).map f, by simp [length_indices]⟩

/-- The block with these elements, if they are as many as the shape has places. -/
def ofData? (type : ElementType) (shape : List Nat) (data : List Element) : Option Block :=
  if h : data.length = shape.prod then some ⟨type, shape, data, h⟩ else none

/-- The block of one dimension with these elements. -/
def ofList (type : ElementType) (data : List Element) : Block :=
  ⟨type, [data.length], data, by simp⟩

/-- The block without dimensions that holds one scalar. -/
def ofScalar (s : Scalar) : Block := ⟨s.type, [], [s.element], rfl⟩

/-- The elements with their type. -/
def scalars (b : Block) : List Scalar := b.data.map (Scalar.ofCell b.type)

/-- The size of the first dimension; a block without dimensions has none. -/
def length? (b : Block) : Option Nat := b.shape.head?

/-- Applies a function to every element. -/
def map (type : ElementType) (f : Element → Element) (b : Block) : Block :=
  ⟨type, b.shape, b.data.map f, by simp [b.size_eq]⟩

theorem length_of_mapM {ε : Type} {f : Element → Except ε Element} {xs ys : List Element}
    (h : xs.mapM f = .ok ys) :
  ys.length = xs.length
  := by
  induction xs generalizing ys with
  | nil =>
    simp only [List.mapM_nil, pure, Except.pure, Except.ok.injEq] at h
    simp [← h]
  | cons x xs ih =>
    simp only [List.mapM_cons, bind, Except.bind, pure, Except.pure] at h
    split at h
    · cases h
    · split at h
      · cases h
      · next zs hz =>
        cases h
        simp [ih hz]

/-- Applies a function that may fail to every element. -/
def mapM {ε : Type} (type : ElementType) (f : Element → Except ε Element) (b : Block) :
    Except ε Block :=
  match h : b.data.mapM f with
  | .ok data => .ok ⟨type, b.shape, data, by rw [length_of_mapM h, b.size_eq]⟩
  | .error e => .error e

/-- The block in another element type. -/
def convert (type : ElementType) (b : Block) : Except ConversionFault Block :=
  b.mapM type fun e => Scalar.convert type ⟨b.type, e⟩

/-- An index whose places go through lists of positions. -/
def through : List (List Nat) → List Nat → List Nat
  | p :: ps, i :: ix => p.getD i 0 :: through ps ix
  | _, ix => ix

/-- The block of the given positions along the first dimensions. -/
def select (b : Block) (picks : List (List Nat)) : Block :=
  let cells := b.data.toArray
  tabulate b.type (picks.map List.length ++ b.shape.drop picks.length) fun ix =>
    cells.getD (offset b.shape (through picks ix)) default

/-- The first `n` rows. -/
def takeRows (n : Nat) (b : Block) : Block :=
  b.select [List.range (min n (b.shape.headD 0))]

/-- Whether a shape fits into another: its last sizes are the same or one, and the sizes it has
more are one. -/
def fits : (reversed target : List Nat) → Bool
  | [], _ => true
  | n :: ns, [] => n == 1 && fits ns []
  | n :: ns, m :: ms => (n == m || n == 1) && fits ns ms

/-- The index in a smaller shape that stands for an index in a larger one; both reversed. -/
def sourceIndex : (reversed ix : List Nat) → List Nat
  | [], _ => []
  | _ :: ns, [] => 0 :: sourceIndex ns []
  | n :: ns, i :: is => (if n == 1 then 0 else i) :: sourceIndex ns is

/-- The block of a shape that repeats the elements of a smaller one. -/
def spread (shape : List Nat) (b : Block) : Except ConversionFault Block :=
  if fits b.shape.reverse shape.reverse then
    let cells := b.data.toArray
    .ok (tabulate b.type shape fun ix =>
      let source := (sourceIndex b.shape.reverse ix.reverse).reverse
      cells.getD (offset b.shape source) default)
  else .error (.cannotSpread b.shape shape)

/-- An element of a block as it is compared with those of another one: beside values of any kind it
is a plain value. -/
def beside (other type : ElementType) (e : Element) : Scalar :=
  if type ≠ .object ∧ other = .object then
    Scalar.ofCell .object ((Scalar.convert .object ⟨type, e⟩).toOption.getD e)
  else Scalar.ofCell type e

/-- The elements of two blocks side by side. -/
def pairs (a b : Block) : List (Scalar × Scalar) :=
  (a.data.map (beside b.type a.type)).zip (b.data.map (beside a.type b.type))

/-- Whether two blocks have the same shape and the same values. -/
def equals (a b : Block) : Bool :=
  a.shape == b.shape && (pairs a b).all fun (x, y) => x.equals y

end Block

/-- A range of positions with a step, as it is given for one dimension of a block. -/
structure Slice where
  start : Int
  stop : Int
  step : Int
  deriving DecidableEq, Repr

namespace Slice

/-- A bound counted from the end if it is negative, kept between `low` and `high`. -/
def clamp (n low high bound : Int) : Int :=
  let b := if bound < 0 then bound + n else bound
  max low (min high b)

/-- The positions of a slice in a dimension of size `n`, the stop left out; none for step zero. -/
def positions? (s : Slice) (n : Nat) : Option (List Nat) :=
  if s.step = 0 then none
  else if 0 < s.step then
    let start := clamp n 0 n s.start
    let stop := clamp n 0 n s.stop
    let count := ((stop - start + s.step - 1) / s.step).toNat
    some ((List.range count).map fun (k : Nat) => (start + k * s.step).toNat)
  else
    let start := clamp n (-1) (n - 1) s.start
    let stop := clamp n (-1) (n - 1) s.stop
    let count := ((start - stop + -s.step - 1) / -s.step).toNat
    some ((List.range count).map fun (k : Nat) => (start + k * s.step).toNat)

end Slice

end GridUnion
