import GridUnion.Proofs.Axis.Merge
import GridUnion.Proofs.Success
import GridUnion.Request
import Mathlib.Data.List.NodupEquivFin
import Mathlib.Tactic.Linarith
import Mathlib.Tactic.Ring

/-!
# Requests within an axis

A request within an axis has positions that ascend strictly within it; the slice of the request has
the same positions, and the rows at these positions are rows of the map in the same order.  On a map
of a merge they ascend strictly within the child.
-/

namespace GridUnion

namespace Request

/-- The position number `i` of a request. -/
def position (r : Request) (i : Nat) : Nat := (r.start + i * r.stride).toNat

theorem positions_eq_map (r : Request) :
  r.positions = (List.range r.length).map r.position
  := rfl

/-- The positions of a request that has its last one at a given number. -/
theorem length_eq {r : Request} {n : Nat} (hstride : 1 ≤ r.stride) (hn : 1 ≤ n)
    (hstop : r.stop = r.start + ((n : Int) - 1) * r.stride) :
  r.length = n
  := by
  have hdiff : r.stop - r.start = ((n : Int) - 1) * r.stride := by omega
  rw [length, hdiff, Int.mul_ediv_cancel _ (by omega)]
  omega

/-- A request that is not within an axis is refused as a wrong value. -/
theorem exists_check_eq_error {size : Int} {r : Request} (h : ¬ r.Valid size) :
  ∃ e, r.check size = .error e ∧ e.kind = .value
  := by
  rcases hcheck : r.check size with e | u
  · use e, rfl
    unfold check at hcheck
    split at hcheck
    · cases hcheck
      rfl
    · split at hcheck
      · cases hcheck
        rfl
      · cases hcheck
  · exact absurd (check_eq_ok_iff.mp hcheck) h

/-- Requests that are each within a dimension of the given sizes. -/
def AllValid (sizes : List Nat) (requests : List Request) : Prop :=
  List.Forall₂ (fun (n : Nat) r => r.Valid n) sizes requests

instance (sizes : List Nat) (requests : List Request) : Decidable (AllValid sizes requests) :=
  inferInstanceAs (Decidable (List.Forall₂ _ _ _))

section Valid

variable {r : Request} {size : Nat} (h : r.Valid size)

include h

theorem count_eq_ok :
  r.count = .ok (r.length : Int)
  := by
  obtain ⟨hstride, -, hstop, -⟩ := h
  have hnonneg : 0 ≤ (r.stop - r.start) / r.stride := Int.ediv_nonneg (by omega) (by omega)
  rw [count, if_neg (by omega), Int.fdiv_eq_ediv_of_nonneg _ (by omega), length,
    Int.toNat_of_nonneg (by omega)]

theorem length_pos :
  0 < r.length
  := by
  obtain ⟨hstride, -, hstop, -⟩ := h
  have hnonneg : 0 ≤ (r.stop - r.start) / r.stride := Int.ediv_nonneg (by omega) (by omega)
  rw [length]
  omega

theorem cast_position (i : Nat) :
  (r.position i : Int) = r.start + i * r.stride
  := by
  obtain ⟨hstride, hstart, -, -⟩ := h
  have hstep : 0 ≤ (i : Int) * r.stride := Int.mul_nonneg (by omega) (by omega)
  rw [position, Int.toNat_of_nonneg (by omega)]

theorem position_lt_position {i j : Nat} (hij : i < j) :
  r.position i < r.position j
  := by
  have hstep : (i : Int) * r.stride < j * r.stride :=
    Int.mul_lt_mul_of_pos_right (by omega) (by have := h.1; omega)
  have hi := cast_position h i
  have hj := cast_position h j
  omega

theorem length_le :
  r.length ≤ size
  := by
  obtain ⟨hstride, hstart, hstop, hsize⟩ := h
  have hle := Int.ediv_le_self r.stride (show 0 ≤ r.stop - r.start by omega)
  rw [length]
  omega

/-- All positions of a request are within the axis. -/
theorem position_lt {i : Nat} (hi : i < r.length) :
  r.position i < size
  := by
  obtain ⟨hstride, -, hstop, hsize⟩ := id h
  have hle : (i : Int) ≤ (r.stop - r.start) / r.stride := by
    rw [length] at hi
    omega
  have hmul : (i : Int) * r.stride ≤ r.stop - r.start :=
    (Int.le_ediv_iff_mul_le (by omega)).mp hle
  have hi := cast_position h i
  omega

/-- The slice of a request selects the same positions. -/
theorem positions?_slice :
  r.slice.positions? size = some r.positions
  := by
  obtain ⟨hstride, hstart, hstop, hsize⟩ := id h
  have hclampStart : Slice.clamp size 0 size r.start = r.start := by
    rw [Slice.clamp, if_neg (by omega)]
    omega
  have hclampStop : Slice.clamp size 0 size (r.stop + 1) = r.stop + 1 := by
    rw [Slice.clamp, if_neg (by omega)]
    omega
  have hcount : (r.stop + 1 - r.start + r.stride - 1) / r.stride
      = (r.stop - r.start) / r.stride + 1 := by
    rw [← Int.add_mul_ediv_right _ 1 (by omega), one_mul]
    congr 1
    omega
  simp only [Slice.positions?, slice, hclampStart, hclampStop, hcount]
  rw [if_neg (by omega), if_pos (by omega)]
  rfl

end Valid

section Rows

variable {r : Request} {m : IndexMap} (h : r.Valid m.size)

include h

theorem getElem?_rows {i : Nat} (hi : i < r.length) :
  (r.rows m)[i]? = m.toList[r.position i]?
  := by
  have hlt : r.position i < m.toList.length := by
    rw [IndexMap.length_toList]
    apply position_lt h hi
  simp [rows, positions_eq_map, hi, List.getElem?_eq_getElem hlt, Array.getD_eq_getD_getElem?]

/-- The rows of a request are rows of the map, in the same order. -/
theorem sublist_rows :
  (r.rows m).Sublist m.toList
  := by
  apply List.sublist_iff_exists_fin_orderEmbedding_get_eq.mpr
  have hlength (i : Fin (r.rows m).length) : i < r.length := by simpa using i.isLt
  have hlt (i : Fin (r.rows m).length) : r.position i < m.toList.length := by
    rw [IndexMap.length_toList]
    apply position_lt h (hlength i)
  use OrderEmbedding.ofStrictMono (fun i => ⟨r.position i, hlt i⟩) fun i j hij =>
    position_lt_position h hij
  intro i
  have hrow := getElem?_rows h (hlength i)
  rw [List.getElem?_eq_getElem i.isLt, List.getElem?_eq_getElem (hlt i)] at hrow
  exact Option.some.inj hrow

theorem sublist_reduceOption_rows :
  (r.rows m).reduceOption.Sublist m.rows
  := (sublist_rows h).filterMap id

/-- The row of a map at a requested position. -/
theorem get_position {i : Nat} {row? : Option Int} (hrow : (r.rows m)[i]? = some row?) :
  m.get (r.start + i * r.stride) = .ok row?
  := by
  have hi : i < r.length := by
    rw [← length_rows m]
    exact (List.getElem?_eq_some_iff.mp hrow).1
  rw [getElem?_rows h hi] at hrow
  rw [← cast_position h]
  exact IndexMap.get_natCast hrow

end Rows

/-! ### Whole axes -/

/-- The request for all positions of an axis. -/
def whole (n : Nat) : Request := ⟨0, 1, (n : Int) - 1⟩

@[simp]
theorem length_whole (n : Nat) :
  (whole n).length = n
  := by
  simp [length, whole]

@[simp]
theorem position_whole (n i : Nat) :
  (whole n).position i = i
  := by
  simp [position, whole]

theorem valid_whole {n : Nat} (hn : 0 < n) :
  (whole n).Valid n
  := by
  refine ⟨le_refl 1, le_refl 0, ?_, ?_⟩
  · simp only [whole]
    omega
  · simp only [whole]
    omega

theorem allValid_whole {sizes : List Nat} (h : ∀ n ∈ sizes, 0 < n) :
  AllValid sizes (sizes.map whole)
  := by
  rw [AllValid, List.forall₂_map_right_iff, List.forall₂_same]
  intro n hn
  apply valid_whole (h n hn)

theorem rows_eq_map (r : Request) (m : IndexMap) :
  r.rows m = (List.range r.length).map fun i => m.toList.getD (r.position i) none
  := by
  simp [rows, positions_eq_map, Array.getD_eq_getD_getElem?, List.getD_eq_getElem?_getD]

/-- All rows of a map are those of the request for its whole axis. -/
theorem rows_whole (m : IndexMap) :
  (whole m.size).rows m = m.toList
  := by
  apply List.ext_getElem
  · simp
  · intro i hi hi'
    simp [rows_eq_map, List.getD_eq_getElem?_getD, List.getElem?_eq_getElem hi']

/-! ### Rows of a merge -/

section Merge

variable {axes : List Block} {merged : Block} {maps : List IndexMap} {c : Nat} {b : Block}
  {m : IndexMap} {r : Request} (h : Axis.merge axes = .ok (merged, maps)) (hb : axes[c]? = some b)
  (hm : maps[c]? = some m) (hr : r.Valid m.size)

include h hb hm hr

/-- The rows of a request on a map of a merge ascend strictly. -/
theorem pairwise_rows_of_merge :
  (r.rows m).reduceOption.Pairwise (· < ·)
  := by
  have hsub := sublist_reduceOption_rows hr
  rw [Axis.rows_of_getElem?_maps h hb hm] at hsub
  apply List.Pairwise.sublist hsub
  rw [List.pairwise_map]
  exact List.pairwise_lt_range.imp fun hlt => Int.ofNat_lt.mpr hlt

/-- The rows of a request on a map of a merge are rows of the child. -/
theorem rows_within_of_merge :
  ∀ row ∈ (r.rows m).reduceOption, 0 ≤ row ∧ row < b.data.length
  := by
  have hsub := sublist_reduceOption_rows hr
  rw [Axis.rows_of_getElem?_maps h hb hm] at hsub
  intro row hrow
  obtain ⟨i, hi, rfl⟩ := List.mem_map.mp (hsub.subset hrow)
  have hi := List.mem_range.mp hi
  have hle := Axis.length_values_le b
  simp only [Int.ofNat_eq_natCast]
  omega

end Merge

end Request

end GridUnion
