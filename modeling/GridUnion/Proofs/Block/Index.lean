import GridUnion.Block.Kept
import GridUnion.Block.OfValue
import GridUnion.Proofs.Success

/-!
# Blocks by index

An index of a shape has a place within every dimension.  The elements of a block that is tabulated,
selected, or stacked row by row are found again at their indices.
-/

namespace GridUnion

/-- In lists of one length that are put one after the other, an element is found at the end of the
lists before its own. -/
theorem getElem?_flatMap_of_length {α β : Type} {f : α → List β} {length : Nat} {xs : List α}
    (h : ∀ x ∈ xs, (f x).length = length) {i j : Nat} (hj : j < length) :
  (xs.flatMap f)[i * length + j]? = xs[i]?.bind fun x => (f x)[j]?
  := by
  induction xs generalizing i with
  | nil => simp
  | cons x xs ih =>
    obtain ⟨hx, hxs⟩ := List.forall_mem_cons.mp h
    rw [List.flatMap_cons]
    cases i with
    | zero =>
      rw [List.getElem?_append_left (by omega)]
      simp
    | succ i =>
      have hplace : (i + 1) * length + j = (f x).length + (i * length + j) := by
        rw [hx, Nat.succ_mul]
        omega
      rw [hplace, List.getElem?_append_right (by omega), Nat.add_sub_cancel_left, ih hxs]
      simp

namespace Block

/-- Whether an index has a place within every dimension of a shape. -/
def IsIndex (shape ix : List Nat) : Prop := List.Forall₂ (· < ·) ix shape

variable {shape ix : List Nat} {type : ElementType}

theorem offset_lt_prod (h : IsIndex shape ix) :
  offset shape ix < shape.prod
  := by
  induction h with
  | nil => exact Nat.one_pos
  | @cons i n ix shape hi hix ih =>
    rw [offset, List.prod_cons]
    calc i * shape.prod + offset shape ix
      _ < (i + 1) * shape.prod := by rw [Nat.succ_mul]; omega
      _ ≤ n * shape.prod := Nat.mul_le_mul_right _ hi

theorem getElem?_indices_offset (h : IsIndex shape ix) :
  (indices shape)[offset shape ix]? = some ix
  := by
  induction h with
  | nil => rfl
  | @cons i n ix shape hi hix ih =>
    have hlength : ∀ k ∈ List.range n, ((indices shape).map (k :: ·)).length = shape.prod := by
      simp [length_indices]
    rw [indices, offset, getElem?_flatMap_of_length hlength (offset_lt_prod hix)]
    simp [hi, ih]

theorem isIndex_of_mem_indices (h : ix ∈ indices shape) :
  IsIndex shape ix
  := by
  induction shape generalizing ix with
  | nil =>
    obtain rfl := List.mem_singleton.mp h
    exact List.Forall₂.nil
  | cons n shape ih =>
    simp only [indices, List.mem_flatMap, List.mem_range, List.mem_map] at h
    obtain ⟨i, hi, ix, hix, rfl⟩ := h
    exact List.Forall₂.cons hi (ih hix)

theorem get_tabulate (f : List Nat → Element) (h : IsIndex shape ix) :
  (tabulate type shape f).get ix = f ix
  := by
  simp [get, tabulate, List.getD_eq_getElem?_getD, getElem?_indices_offset h]

/-- A selection is the table of the elements at the selected positions. -/
theorem select_eq_tabulate (b : Block) (picks : List (List Nat)) :
  b.select picks
    = tabulate b.type (picks.map List.length ++ b.shape.drop picks.length)
        fun ix => b.get (through picks ix)
  := by
  simp [select, get]

/-- Applying a function to every element keeps the shape. -/
theorem shape_mapM {ε : Type} {f : Element → Except ε Element} {b block : Block}
    (h : b.mapM type f = .ok block) :
  block.shape = b.shape
  := by
  unfold mapM at h
  split at h
  · cases h
    rfl
  · cases h

/-- What is kept of a block in a grid or a table has its shape. -/
theorem shape_kept {b kept : Block} (h : b.kept = .ok kept) :
  kept.shape = b.shape
  := by
  unfold Block.kept at h
  split at h
  · exact shape_mapM h
  · exact shape_mapM h
  · rw [Except.ok.inj h]

/-- A block is its own conversion to its type. -/
theorem convert_self (b : Block) :
  b.convert b.type = .ok b
  := by
  have hdata : b.data.mapM (fun e => Scalar.convert b.type ⟨b.type, e⟩) = .ok b.data := by
    have hmap := mapM_eq_ok_map (g := id) fun e (_ : e ∈ b.data) => Scalar.convert_self ⟨b.type, e⟩
    rwa [List.map_id] at hmap
  unfold convert mapM
  split
  · next data h =>
    obtain rfl := Except.ok.inj (hdata.symm.trans h)
    rfl
  · next e h => cases hdata.symm.trans h

/-- A scalar value is repeated once it is stored. -/
theorem fill_eq_replicate {v : Value} {e : Element} (hscalar : v.scalar?.isSome)
    (hstore : v.store type = .ok e) (shape : List Nat) :
  fill type shape v = .ok (replicate type shape e)
  := by
  cases v with
  | block | list => cases hscalar
  | _ => simp [fill, hstore]

theorem ofData?_eq_some_iff {data : List Element} {b : Block} :
  ofData? type shape data = some b ↔ b.type = type ∧ b.shape = shape ∧ b.data = data
  := by
  obtain ⟨_, _, _, hsize⟩ := b
  unfold ofData?
  split
  · simp [eq_comm]
  · next hno =>
    constructor
    · intro h
      cases h
    · rintro ⟨rfl, rfl, rfl⟩
      cases hno hsize

/-! ### Rows -/

section Stack

variable {α : Type} {other : List Nat} {cell : α → List Nat → Element}

/-- The block of the given rows, each with an element at every index of the other dimensions. -/
def stack (type : ElementType) (other : List Nat) (cell : α → List Nat → Element)
    (rows : List α) : Block :=
  ⟨type, rows.length :: other, rows.flatMap fun r => (indices other).map (cell r),
    by simp [List.length_flatMap, length_indices, List.map_const']⟩

theorem get_stack {rows : List α} {i : Nat} {r : α} (hr : rows[i]? = some r)
    (h : IsIndex other ix) :
  (stack type other cell rows).get (i :: ix) = cell r ix
  := by
  have hlength : ∀ r ∈ rows, ((indices other).map (cell r)).length = other.prod := by
    simp [length_indices]
  have hplace := getElem?_flatMap_of_length hlength (i := i) (offset_lt_prod h)
  simp [get, stack, offset, List.getD_eq_getElem?_getD, hplace, hr, getElem?_indices_offset h]

theorem stack_eq_of_data {b : Block} {rows : List α} (htype : b.type = type)
    (hshape : b.shape = rows.length :: other)
    (hdata : b.data = rows.flatMap fun r => (indices other).map (cell r)) :
  b = stack type other cell rows
  := by
  obtain ⟨_, _, _, _⟩ := b
  subst htype hshape hdata
  rfl

theorem stack_map {β : Type} (f : β → α) (rows : List β) :
  stack type other cell (rows.map f) = stack type other (fun r => cell (f r)) rows
  := by
  apply stack_eq_of_data
  · rfl
  · simp [stack]
  · simp [stack, List.flatMap_map]

theorem stack_congr {cell' : α → List Nat → Element} {rows : List α}
    (h : ∀ r ∈ rows, ∀ ix, IsIndex other ix → cell r ix = cell' r ix) :
  stack type other cell rows = stack type other cell' rows
  := by
  apply stack_eq_of_data
  · rfl
  · rfl
  · simp only [stack]
    apply List.flatMap_congr
    intro r hr
    apply List.map_congr_left
    intro ix hix
    apply h r hr ix (isIndex_of_mem_indices hix)

/-- A table is stacked of its rows. -/
theorem tabulate_cons (n : Nat) (f : List Nat → Element) :
  tabulate type (n :: other) f = stack type other (fun i ix => f (i :: ix)) (List.range n)
  := by
  apply stack_eq_of_data
  · rfl
  · simp [tabulate]
  · simp [tabulate, indices, List.map_flatMap, Function.comp_def]

/-- The rows of a block at some places are stacked. -/
theorem select_rows {b : Block} {size : Nat} (hshape : b.shape = size :: other)
    (picks : List Nat) :
  b.select [picks] = stack b.type other (fun p ix => b.get (p :: ix)) picks
  := by
  have hpicks : picks = (List.range picks.length).map fun i => picks.getD i 0 := by
    apply List.ext_getElem
    · simp
    · intro i hi _
      simp [hi]
  rw [select_eq_tabulate, hshape]
  simp only [List.map_cons, List.map_nil, List.length_cons, List.length_nil, List.drop_one,
    List.tail_cons, List.singleton_append, tabulate_cons, Nat.zero_add]
  conv_rhs => rw [hpicks, stack_map]
  rfl

/-- A constant block is stacked of constant rows. -/
theorem replicate_cons {e : Element} {rows : List α}
    (h : ∀ r ∈ rows, ∀ ix, IsIndex other ix → cell r ix = e) :
  replicate type (rows.length :: other) e = stack type other cell rows
  := by
  apply stack_eq_of_data
  · rfl
  · rfl
  · symm
    apply List.eq_replicate_iff.mpr
    constructor
    · simp [List.length_flatMap, length_indices, List.map_const']
    · intro d hd
      simp only [List.mem_flatMap, List.mem_map] at hd
      obtain ⟨r, hr, ix, hix, rfl⟩ := hd
      apply h r hr ix (isIndex_of_mem_indices hix)

end Stack

end Block

end GridUnion
