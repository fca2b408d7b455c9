import GridUnion.Proofs.Block.Fill
import GridUnion.Proofs.Dataset.Join

/-!
# Data of whole dimensions

The data of whole dimensions have all rows of a map, one for each merged position, and in each row all
elements of the other dimensions.  So whatever is requested of them is what the same request gives
through the map itself.
-/

namespace GridUnion

namespace Request

open Block (IsIndex)

/-- Requested positions are an index of the sizes that the requests are within. -/
theorem isIndex_zipWith_position {sizes : List Nat} {requests : List Request}
    (h : AllValid sizes requests) {ix : List Nat} (hix : IsIndex (requests.map length) ix) :
  IsIndex sizes (List.zipWith position requests ix)
  := by
  induction h generalizing ix with
  | nil =>
    cases hix
    exact List.Forall₂.nil
  | cons hr _ ih =>
    cases hix with
    | cons hi hix => apply List.Forall₂.cons (position_lt hr hi) (ih hix)

theorem zipWith_position_whole {sizes ix : List Nat} (h : IsIndex sizes ix) :
  List.zipWith position (sizes.map whole) ix = ix
  := by
  induction h with
  | nil => rfl
  | cons _ _ ih => simp [ih]

end Request

/-- Through the map of values to themselves every position has its own row. -/
theorem IndexMap.toList_places_self {values : List Int} (h : values.Pairwise (· < ·)) :
  (places values values).toList = (List.range values.length).map fun (i : Nat) => some (i : Int)
  := by
  apply List.ext_getElem?
  intro i
  by_cases hi : i < values.length
  · have hvalue := List.getElem?_eq_getElem hi
    rw [getElem?_toList_places hvalue, idxOf?_eq_some_of_pairwise h hvalue]
    simp [hi]
  · simp [places, hi]

theorem Request.rows_places_self {values : List Int} (h : values.Pairwise (· < ·)) {r : Request}
    (hr : r.Valid values.length) :
  r.rows (IndexMap.places values values)
    = (List.range r.length).map fun i => some (r.position i : Int)
  := by
  rw [rows_eq_map, IndexMap.toList_places_self h]
  apply List.map_congr_left
  intro i hi
  have hlt := position_lt hr (List.mem_range.mp hi)
  simp [List.getD_eq_getElem?_getD, hlt]

namespace Block

/-- The positions of whole dimensions are their places. -/
theorem through_whole {sizes ix : List Nat} (h : IsIndex sizes ix) :
  through ((sizes.map Request.whole).map Request.positions) ix = ix
  := by
  have hlength : (sizes.map Request.whole).map Request.length = sizes := by
    simp [Function.comp_def]
  rw [through_positions (hlength.symm ▸ h), Request.zipWith_position_whole h]

/-- A line at all of its positions is the line itself. -/
theorem select_whole {b : Block} {n : Nat} (h : b.shape = [n]) :
  b.select [(Request.whole n).positions] = b
  := by
  calc b.select [(Request.whole n).positions]
    _ = tabulate b.type [n] fun ix => b.get (through [(Request.whole n).positions] ix) := by
      simp [select_eq_tabulate, h]
    _ = tabulate b.type [n] b.get := by
      simp only [tabulate]
      congr 1
      apply List.map_congr_left
      intro ix hix
      exact congrArg b.get (through_whole (isIndex_of_mem_indices hix))
    _ = b := h ▸ tabulate_get b

/-- What requests select of the data of whole dimensions is what they select of the field. -/
theorem stack_stack {type : ElementType} {field : Block} {blank blank' : Element} {m : IndexMap}
    {values : List Int} (hvalues : values.Pairwise (· < ·)) (hsize : m.size = values.length)
    {sizes : List Nat} {merged : Request} {others : List Request} (hmerged : merged.Valid m.size)
    (hothers : Request.AllValid sizes others) :
  stack type (others.map Request.length)
      (Child.cellOf (stack type sizes (Child.cellOf field (sizes.map Request.whole) blank)
        ((Request.whole m.size).rows m)) others blank')
      (merged.rows (IndexMap.places values values))
    = stack type (others.map Request.length) (Child.cellOf field others blank) (merged.rows m)
  := by
  rw [Request.rows_places_self hvalues (hsize ▸ hmerged), Request.rows_eq_map merged m, stack_map,
    stack_map, Request.rows_whole]
  apply stack_congr
  intro i hi ix hix
  have hlt := Request.position_lt hmerged (List.mem_range.mp hi)
  have hindex := Request.isIndex_zipWith_position hothers hix
  obtain ⟨row?, hrow⟩ : ∃ row?, m.toList[merged.position i]? = some row? := by
    simp [hlt]
  rw [List.getD_eq_getElem?_getD, hrow, Option.getD_some]
  simp only [Child.cellOf, through_positions hix, Int.toNat_natCast, get_stack hrow hindex]
  cases row? with
  | none => rfl
  | some row => simp only [through_whole hindex, through_positions hix]

end Block

/-- Given requests, completed by whole ones for the dimensions that are left out. -/
def Request.completed (sizes : List Nat) (given : List Request) : List Request :=
  given ++ (sizes.drop given.length).map whole

/-- At most as many requests as there are dimensions are completed. -/
theorem Dataset.fullConstraints_eq_ok_iff {d : Dataset} {given full : List Request} :
  d.fullConstraints given = .ok full
    ↔ given.length ≤ d.shape.length ∧ Request.completed d.shape given = full
  := by
  rw [fullConstraints]
  split
  · next hlt => simp [hlt]
  · next hlt =>
    simp only [not_lt.mp hlt, true_and, Except.ok.injEq]
    rfl

end GridUnion
