import GridUnion.Proofs.Block.Index

/-!
# Filled blocks

A value that fills a block of some shape fills one with more rows: each row is the block that the
value fills alone.  So it makes no difference whether rows are filled one by one or together.
-/

namespace GridUnion

namespace Value

/-! ### Outlines with more dimensions -/

theorem outlines_eq_map (dimensions : Nat) (items : List Value) :
  outlines dimensions items = items.map (outline dimensions)
  := by
  induction items with
  | nil => simp [outlines]
  | cons v vs ih => simp [outlines, ih]

theorem isDeeper_foldl_meet (o : Outline) (os : List Outline) :
  (os.foldl Outline.meet o).isDeeper = (o.isDeeper || os.any Outline.isDeeper)
  := by
  induction os generalizing o with
  | nil => simp
  | cons p os ih => simp [ih, Outline.meet, Bool.or_assoc]

/-- A value that is not nested too deeply has the same outline with one dimension more. -/
theorem outline_succ {dimensions : Nat} {v : Value} (h : (outline dimensions v).isDeeper = false) :
  outline (dimensions + 1) v = outline dimensions v
  := by
  induction dimensions generalizing v with
  | zero =>
    cases v with
    | list items => simp [outline] at h
    | block b =>
      obtain hshape : b.shape = [] := by simpa [outline] using h
      simp [outline, hshape]
    | _ => simp [outline]
  | succ dimensions ih =>
    cases v with
    | list items =>
      cases items with
      | nil => simp [outline, outlines]
      | cons v vs =>
        simp only [outline, outlines_eq_map, List.map_cons, isDeeper_foldl_meet,
          Bool.or_eq_false_iff, List.any_map, List.any_eq_false] at h
        have hv := ih h.1
        have hvs : vs.map (outline (dimensions + 1)) = vs.map (outline dimensions) := by
          apply List.map_congr_left
          intro w hw
          apply ih
          simpa using h.2 w hw
        simp [outline, outlines_eq_map, hv, hvs]
    | block b =>
      have hlength : b.shape.length ≤ dimensions + 1 := by simpa [outline] using h
      have htake : b.shape.take (dimensions + 2) = b.shape.take (dimensions + 1) := by
        rw [List.take_of_length_le (by omega), List.take_of_length_le hlength]
      have hshallow : ¬ dimensions + 2 < b.shape.length := by omega
      simp only [outline, htake, hshallow, Nat.not_lt.mpr hlength, decide_false]
    | _ => simp [outline]

end Value

namespace Block

variable {type : ElementType} {other : List Nat} {v : Value} {b blank : Block}

theorem ofLists_succ {dimensions : Nat} (h : ofLists type dimensions v = .ok b) :
  ofLists type (dimensions + 1) v = .ok b
  := by
  by_cases hdeep : (v.outline dimensions).isDeeper
  · simp only [ofLists, hdeep, if_true] at h
    split at h
    · cases h
    · cases h
  · have hshallow := eq_false_of_ne_true hdeep
    simp only [ofLists, hshallow, Value.outline_succ hshallow] at h ⊢
    exact h

/-! ### Blocks that are repeated -/

theorem fits_nil_iff {reversed : List Nat} :
  fits reversed [] ↔ ∀ n ∈ reversed, n = 1
  := by
  induction reversed with
  | nil => simp [fits]
  | cons n ns ih => simp [fits, ih]

/-- A shape that fits into another fits into it with one more dimension. -/
theorem fits_append {reversed target : List Nat} (n : Nat) (h : fits reversed target) :
  fits reversed (target ++ [n])
  := by
  fun_induction fits reversed target with
  | case1 => rfl
  | case2 m ms ih =>
    simp only [Bool.and_eq_true, beq_iff_eq, fits_nil_iff] at h
    simpa [fits, h.1, fits_nil_iff] using h.2
  | case3 m ms k ks ih =>
    simp only [Bool.and_eq_true] at h
    simpa [fits, h.1] using ih h.2

/-- The index in a smaller shape does not depend on the place in a further dimension. -/
theorem sourceIndex_append {reversed target ix : List Nat} (h : fits reversed target)
    (hix : ix.length = target.length) (i : Nat) :
  sourceIndex reversed (ix ++ [i]) = sourceIndex reversed ix
  := by
  induction reversed generalizing target ix with
  | nil => simp [sourceIndex]
  | cons n ns ih =>
    cases target with
    | nil =>
      obtain rfl := List.length_eq_zero_iff.mp hix
      have hone := fits_nil_iff.mp h
      simp [sourceIndex, hone n List.mem_cons_self]
    | cons m ms =>
      obtain ⟨j, ix, rfl⟩ := List.exists_cons_of_length_eq_add_one hix
      simp only [fits, Bool.and_eq_true] at h
      simp [sourceIndex, ih h.2 (by simpa using hix)]

theorem spread_eq_ok_iff :
  b.spread other = .ok blank
    ↔ fits b.shape.reverse other.reverse
      ∧ tabulate b.type other
          (fun ix => b.get (sourceIndex b.shape.reverse ix.reverse).reverse) = blank
  := by
  unfold spread
  split
  · next hfits => simp [hfits, get]
  · next hfits => simp [hfits]

/-- Rows that are all the same make the same block for any list of as many rows. -/
theorem stack_const {α : Type} (cell : List Nat → Element) (rows : List α) :
  stack type other (fun _ => cell) rows = stack type other (fun _ => cell) (List.range rows.length)
  := by
  have hunits : rows.map (fun _ => ()) = (List.range rows.length).map fun _ => () := by
    simp [List.map_const']
  calc stack type other (fun _ => cell) rows
    _ = stack type other (fun _ => cell) (rows.map fun _ => ()) := by rw [stack_map]
    _ = stack type other (fun _ => cell) ((List.range rows.length).map fun _ => ()) := by rw [hunits]
    _ = stack type other (fun _ => cell) (List.range rows.length) := by rw [stack_map]

/-- A block that is repeated in a shape with rows is in every row as it is without rows. -/
theorem spread_cons {α : Type} (h : b.spread other = .ok blank) (rows : List α) :
  b.spread (rows.length :: other) = .ok (stack b.type other (fun _ => blank.get) rows)
  := by
  obtain ⟨hfits, rfl⟩ := spread_eq_ok_iff.mp h
  apply spread_eq_ok_iff.mpr
  rw [List.reverse_cons]
  use fits_append rows.length hfits
  rw [tabulate_cons, stack_const _ rows]
  apply stack_congr
  intro i _ ix hix
  rw [get_tabulate _ hix, List.reverse_cons, sourceIndex_append hfits (by simpa using hix.length_eq)]

/-! ### Blocks by their data -/

theorem mapM_eq_ok_iff_data {ε : Type} {f : Element → Except ε Element} :
  b.mapM type f = .ok blank
    ↔ blank.type = type ∧ blank.shape = b.shape ∧ b.data.mapM f = .ok blank.data
  := by
  obtain ⟨_, shape, data, _⟩ := blank
  unfold mapM
  split
  · next ys hys => simp [hys, eq_comm]
  · next e he => simp [he]

theorem range_mul (n k : Nat) :
  (List.range n).flatMap (fun i => (List.range k).map (i * k + ·)) = List.range (n * k)
  := by
  induction n with
  | zero => simp
  | succ n ih => simp [List.range_succ, ih, Nat.succ_mul, List.range_add]

/-- The places of all indices in order are all places. -/
theorem map_offset_indices (shape : List Nat) :
  (indices shape).map (offset shape) = List.range shape.prod
  := by
  induction shape with
  | nil => rfl
  | cons n shape ih =>
    have hrow (i : Nat) : ((indices shape).map (i :: ·)).map (offset (n :: shape))
        = (List.range shape.prod).map (i * shape.prod + ·) := by
      rw [← ih, List.map_map, List.map_map]
      rfl
    rw [indices, List.map_flatMap, List.prod_cons, ← range_mul]
    simp only [hrow]

/-- The elements of a block are those at its indices in order. -/
theorem map_get_indices (b : Block) :
  (indices b.shape).map b.get = b.data
  := by
  have hget : b.get = (fun p => b.data.getD p default) ∘ offset b.shape := rfl
  rw [hget, ← List.map_map, map_offset_indices, ← b.size_eq]
  apply List.ext_getElem
  · simp
  · intro i hi hlt
    simp [List.getD_eq_getElem?_getD, hlt]

theorem tabulate_get (b : Block) :
  tabulate b.type b.shape b.get = b
  := by
  obtain ⟨type, shape, data, hsize⟩ := b
  have hdata := map_get_indices ⟨type, shape, data, hsize⟩
  simp only [tabulate, hdata]

/-- The rows of a block one after the other have its elements. -/
theorem data_stack_rows {n : Nat} (hshape : b.shape = n :: other) (type : ElementType) :
  (stack type other id ((List.range n).map fun i ix => b.get (i :: ix))).data = b.data
  := by
  have htable := tabulate_get b
  rw [hshape, tabulate_cons] at htable
  rw [stack_map]
  have hdata := congrArg data htable
  exact hdata

theorem data_stack_const (b : Block) {α : Type} (rows : List α) :
  (stack b.type b.shape (fun _ => b.get) rows).data = rows.flatMap fun _ => b.data
  := by
  simp [stack, map_get_indices]

theorem mapM_flatMap_const {α ε : Type} {f : Element → Except ε Element} {xs ys : List Element}
    (h : xs.mapM f = .ok ys) (rows : List α) :
  (rows.flatMap fun _ => xs).mapM f = .ok (rows.flatMap fun _ => ys)
  := by
  induction rows with
  | nil => rfl
  | cons r rows ih => simp [List.mapM_append, h, ih]

/-- Rows that are all the same block are converted like this block. -/
theorem convert_stack_const {α : Type} (h : b.convert type = .ok blank) (rows : List α) :
  (stack b.type b.shape (fun _ => b.get) rows).convert type
    = .ok (stack type b.shape (fun _ => blank.get) rows)
  := by
  obtain ⟨rfl, hshape, hdata⟩ := mapM_eq_ok_iff_data.mp h
  apply mapM_eq_ok_iff_data.mpr
  refine ⟨rfl, rfl, ?_⟩
  rw [data_stack_const, ← hshape, data_stack_const]
  apply mapM_flatMap_const hdata

theorem type_ofLists {dimensions : Nat} (h : ofLists type dimensions v = .ok b) :
  b.type = type
  := by
  simp only [ofLists] at h
  split at h
  · cases h
  · split at h
    · cases h
    · simp only [bind_eq_ok_iff] at h
      obtain ⟨data, -, h⟩ := h
      unfold ofData? at h
      split at h
      · next block hblock =>
        split at hblock
        · cases hblock
          cases h
          rfl
        · cases hblock
      · cases h

/-- A value fills the whole shape. -/
theorem shape_fill {shape : List Nat} (h : fill type shape v = .ok b) :
  b.shape = shape
  := by
  cases v with
  | block a =>
    simp only [fill, bind_eq_ok_iff] at h
    obtain ⟨spread, hspread, hconvert⟩ := h
    obtain ⟨-, rfl⟩ := spread_eq_ok_iff.mp hspread
    exact shape_mapM hconvert
  | list items =>
    simp only [fill, bind_eq_ok_iff] at h
    obtain ⟨block, -, hspread⟩ := h
    obtain ⟨-, rfl⟩ := spread_eq_ok_iff.mp hspread
    rfl
  | _ =>
    simp only [fill, bind_eq_ok_iff, pure_eq_ok_iff] at h
    obtain ⟨e, -, rfl⟩ := h
    rfl

theorem get_replicate (e : Element) {ix : List Nat} (h : IsIndex other ix) :
  (replicate type other e).get ix = e
  := by
  simp [get, replicate, List.getD_eq_getElem?_getD, offset_lt_prod h]

/-- A value that fills a shape fills it in every row of a shape with rows. -/
theorem fill_cons {α : Type} (h : fill type other v = .ok blank) (rows : List α) :
  fill type (rows.length :: other) v = .ok (stack type other (fun _ => blank.get) rows)
  := by
  cases v with
  | block b =>
    simp only [fill, bind_eq_ok_iff] at h ⊢
    obtain ⟨spread, hspread, hconvert⟩ := h
    refine ⟨_, spread_cons hspread rows, ?_⟩
    obtain ⟨-, rfl⟩ := spread_eq_ok_iff.mp hspread
    exact convert_stack_const hconvert rows
  | list items =>
    simp only [fill, bind_eq_ok_iff] at h ⊢
    obtain ⟨block, hblock, hspread⟩ := h
    refine ⟨block, ofLists_succ hblock, ?_⟩
    obtain rfl := type_ofLists hblock
    exact spread_cons hspread rows
  | _ =>
    simp only [fill, bind_eq_ok_iff, pure_eq_ok_iff] at h ⊢
    obtain ⟨e, he, rfl⟩ := h
    refine ⟨e, he, ?_⟩
    apply replicate_cons
    intro _ _ ix hix
    exact get_replicate e hix

/-- A value that is stored as one element fills any shape. -/
theorem exists_fill (h : fill type [] v = .ok blank) (shape : List Nat) :
  ∃ block, fill type shape v = .ok block
  := by
  induction shape with
  | nil => exact ⟨blank, h⟩
  | cons n shape ih =>
    obtain ⟨row, hrow⟩ := ih
    have hrows := fill_cons hrow (List.range n)
    rw [List.length_range] at hrows
    exact ⟨_, hrows⟩

end Block

end GridUnion
