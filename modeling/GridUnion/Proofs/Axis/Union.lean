import GridUnion.Axis.Union
import GridUnion.Proofs.Axis.Integers
import GridUnion.Proofs.Block.Equality

/-!
# Equal unions

A union of integer axes keeps the merged axis and the maps, and none of the axes.  Nevertheless
unions of strictly ascending axes are equal only if they are unions of the same axes: the values
that a map picks out of the merged axis are the axis of its child.
-/

namespace GridUnion

/-- Blocks of integers of one type are equal exactly if their integers are. -/
theorem Block.equals_ofInts_iff {type : ElementType} {xs ys : List Int} :
  (Block.ofInts type xs).equals (Block.ofInts type ys) ↔ xs = ys
  := by
  have hscalars : List.Forall₂ (fun s t => s.equals t) (Block.ofInts type xs).scalars
      (Block.ofInts type ys).scalars ↔ xs = ys := by
    simp [Axis.equals_int, Axis.isSame, List.forall₂_eq_eq_eq]
  rw [Block.equals_iff (by rfl), hscalars]
  constructor
  · rintro ⟨-, heq⟩
    exact heq
  · rintro rfl
    exact ⟨rfl, rfl⟩

namespace AxisUnion

/-- Unions are equal exactly if their axes are, of the same type, and the lists of their maps. -/
theorem equals_iff {u v : AxisUnion} :
  u.equals v ↔ u.axis.type = v.axis.type ∧ u.axis.equals v.axis
    ∧ u.maps.map IndexMap.toList = v.maps.map IndexMap.toList
  := by
  have hmaps : u.maps.map IndexMap.toList = v.maps.map IndexMap.toList
      ↔ u.maps.length = v.maps.length
        ∧ (u.maps.zip v.maps).all (fun p => p.1.equals p.2) = true := by
    rw [← List.forall₂_eq_eq_eq, List.forall₂_map_left_iff, List.forall₂_map_right_iff,
      List.forall₂_iff_zip]
    simp [IndexMap.equals_iff_toList_eq]
  rw [hmaps]
  simp [equals, and_assoc]

section Integers

variable {type type' : ElementType} {lists others : List (List Int)} {u v : AxisUnion}

/-- The union of integer axes that ascend strictly. -/
theorem eq_of_ofBlocks_ofInts (htype : type.isInteger)
    (hsorted : ∀ xs ∈ lists, xs.Pairwise (· < ·))
    (h : (ofBlocks (lists.map (Block.ofInts type))).result = .ok u) :
  u.axis = Block.ofInts type (Axis.sortedUnion lists)
    ∧ u.maps = lists.map (IndexMap.places (Axis.sortedUnion lists))
  := by
  simp only [result_ofBlocks, bind_eq_ok_iff, pure_eq_ok_iff] at h
  obtain ⟨sizes, -, ⟨axis, maps⟩, hmerge, rfl⟩ := h
  exact Axis.eq_of_merge_ofInts htype hsorted hmerge

/-- The values that the maps of a sorted union pick out of it are the lists. -/
theorem map_pick_places (hsorted : ∀ xs ∈ lists, xs.Pairwise (· < ·)) :
  ((lists.map (IndexMap.places (Axis.sortedUnion lists))).map IndexMap.toList).map
      (fun rows => (IndexMap.ofRows rows).pick (Axis.sortedUnion lists))
    = lists
  := by
  have hpick : ∀ xs ∈ lists, (IndexMap.ofRows
      (IndexMap.places (Axis.sortedUnion lists) xs).toList).pick (Axis.sortedUnion lists) = xs := by
    intro xs hxs
    rw [IndexMap.pick_eq_of_toList_eq (IndexMap.toList_ofRows _)]
    apply IndexMap.pick_places (Axis.pairwise_sortedUnion lists) (hsorted xs hxs)
    intro v hv
    apply Axis.mem_sortedUnion.mpr ⟨xs, hxs, hv⟩
  rw [List.map_map, List.map_map]
  exact (List.map_congr_left hpick).trans (List.map_id' lists)

/-- Unions of integer axes that ascend strictly are equal exactly if they are of the same axes. -/
theorem equals_iff_axes_eq (htype : type.isInteger) (htype' : type'.isInteger)
    (hsorted : ∀ xs ∈ lists, xs.Pairwise (· < ·)) (hothers : ∀ xs ∈ others, xs.Pairwise (· < ·))
    (hu : (ofBlocks (lists.map (Block.ofInts type))).result = .ok u)
    (hv : (ofBlocks (others.map (Block.ofInts type'))).result = .ok v) :
  u.equals v ↔ lists.map (Block.ofInts type) = others.map (Block.ofInts type')
  := by
  obtain ⟨huaxis, humaps⟩ := eq_of_ofBlocks_ofInts htype hsorted hu
  obtain ⟨hvaxis, hvmaps⟩ := eq_of_ofBlocks_ofInts htype' hothers hv
  constructor
  · intro heq
    obtain ⟨hsame, haxis, hmaps⟩ := equals_iff.mp heq
    rw [huaxis, hvaxis] at hsame haxis
    obtain rfl : type = type' := hsame
    have hunion := Block.equals_ofInts_iff.mp haxis
    have hlists : lists = others := calc lists
      _ = (u.maps.map IndexMap.toList).map
            (fun rows => (IndexMap.ofRows rows).pick (Axis.sortedUnion lists)) := by
        rw [humaps, map_pick_places hsorted]
      _ = (v.maps.map IndexMap.toList).map
            (fun rows => (IndexMap.ofRows rows).pick (Axis.sortedUnion others)) := by
        rw [hmaps, hunion]
      _ = others := by
        rw [hvmaps, map_pick_places hothers]
    rw [hlists]
  · intro heq
    rw [heq, hv] at hu
    obtain rfl := Except.ok.inj hu
    apply equals_iff.mpr
    use rfl
    constructor
    · rw [hvaxis]
      exact Block.equals_ofInts_iff.mpr rfl
    · rfl

end Integers

/-- The same axis twice and an empty one, in two orders. -/
theorem equals_iff_axes_eq_twice :
  let lists : List (List Int) := [[-1, 3], [-1, 3], []]
  let others : List (List Int) := [[-1, 3], [], [-1, 3]]
  ∃ u v, (ofBlocks (lists.map (Block.ofInts .int64))).result = .ok u
    ∧ (ofBlocks (others.map (Block.ofInts .int64))).result = .ok v
    ∧ (u.equals v ↔ lists.map (Block.ofInts .int64) = others.map (Block.ofInts .int64))
    ∧ u.axis = v.axis ∧ ¬ u.equals v
  := by
  intro lists others
  refine ⟨_, _, rfl, rfl, equals_iff_axes_eq rfl rfl ?_ ?_ rfl rfl, rfl, ?_⟩
  · decide
  · decide
  · decide

end AxisUnion

end GridUnion
