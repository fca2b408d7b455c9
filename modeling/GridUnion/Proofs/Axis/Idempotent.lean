import GridUnion.Proofs.Axis.Numbers
import Mathlib.Data.List.InsertIdx

/-!
# Merging again

A merged axis of integers is its own merge, and it may stand anywhere among the axes that it was
merged from: the sorted union stays the same, and so does the place of each of its values in every
axis.
-/

namespace GridUnion

/-- The map of an axis that has all merged values. -/
def IndexMap.identity (n : Nat) : IndexMap :=
  ofRows ((List.range n).map fun p => some (Int.ofNat p))

/-- The difference of any two neighbouring integers is an integer of the type as well. -/
def Block.KeepsDifferences (b : Block) : Prop :=
  b.data.IsChain fun d e => ∀ m n, d = .int m → e = .int n → b.type.wrap (n - m) = n - m

/-- Values that are all different have their own positions as places. -/
theorem IndexMap.places_self {values : List Int} (h : values.Nodup) :
  places values values = identity values.length
  := by
  have hrows : values.map (fun v => (values.idxOf? v).map Int.ofNat)
      = (List.range values.length).map fun p => some (Int.ofNat p) := by
    apply List.ext_getElem
    · simp
    · intro p hp hp'
      simp only [List.length_map] at hp
      have hplace : values.idxOf? values[p] = some p := by
        apply List.idxOf?_eq_some_iff.mpr
        refine ⟨hp, rfl, ?_⟩
        intro j hj heq
        exact absurd (h.getElem_inj_iff.mp heq) hj.ne
      simp [hplace]
  rw [places, identity, hrows]

theorem Block.keepsDifferences_ofInts_iff {type : ElementType} {values : List Int} :
  (ofInts type values).KeepsDifferences ↔ values.IsChain fun m n => type.wrap (n - m) = n - m
  := by
  simp [KeepsDifferences, ofInts, ofList, List.isChain_map]

namespace Axis

variable {type : ElementType} {lists : List (List Int)}

/-- The sorted union stays the same with its own values among the lists. -/
theorem sortedUnion_insertIdx {i : Nat} (hi : i ≤ lists.length) :
  sortedUnion (lists.insertIdx i (sortedUnion lists)) = sortedUnion lists
  := by
  symm
  apply eq_sortedUnion (pairwise_sortedUnion lists)
  intro v
  simp only [List.mem_insertIdx hi, exists_eq_or_imp, mem_sortedUnion, or_self]

/-- A merged axis whose differences are integers of its type is its own merge, with all its positions as
rows.  Inserted anywhere among the axes that it was merged from, it changes neither the merged axis
nor the map of any of them. -/
theorem merge_insertIdx_merged (htype : type.isInteger)
    (hsorted : ∀ xs ∈ lists, xs.Pairwise (· < ·)) {merged : Block} {maps : List IndexMap}
    (h : merge (lists.map (Block.ofInts type)) = .ok (merged, maps))
    (hdifferences : merged.KeepsDifferences) :
  merge [merged] = .ok (merged, [IndexMap.identity merged.data.length])
    ∧ ∀ i ≤ lists.length,
        merge ((lists.map (Block.ofInts type)).insertIdx i merged)
          = .ok (merged, maps.insertIdx i (IndexMap.identity merged.data.length))
  := by
  obtain ⟨-, hcheck, -⟩ := merge_eq_ok_iff.mp h
  obtain ⟨rfl, rfl⟩ := eq_of_merge_ofInts htype hsorted h
  have hunion := pairwise_sortedUnion lists
  have hcheckUnion : check 0 (Block.ofInts type (sortedUnion lists)) = .ok () :=
    check_ofInts htype hunion (Block.keepsDifferences_ofInts_iff.mp hdifferences) 0
  have hidentity : IndexMap.places (sortedUnion lists) (sortedUnion lists)
      = IndexMap.identity (Block.ofInts type (sortedUnion lists)).data.length := by
    rw [IndexMap.places_self hunion.nodup]
    simp [Block.ofInts, Block.ofList]
  -- The union alone, and among the lists, is a merge of strictly ascending lists with the same union.
  have hmerge : ∀ others : List (List Int), sortedUnion others = sortedUnion lists → others ≠ [] →
      (∀ xs ∈ others, xs = sortedUnion lists ∨ xs ∈ lists) →
      merge (others.map (Block.ofInts type))
        = .ok (Block.ofInts type (sortedUnion lists),
            others.map (IndexMap.places (sortedUnion lists))) := by
    intro others heq hne hmem
    rw [← heq]
    apply merge_ofInts htype hne
    · intro xs hxs
      rcases hmem xs hxs with rfl | hxs
      · exact hunion
      · exact hsorted xs hxs
    · apply (checkAll_eq_ok_iff_check 0).mpr
      rw [List.forall_mem_map]
      intro xs hxs
      rcases hmem xs hxs with rfl | hxs
      · exact hcheckUnion
      · exact (checkAll_eq_ok_iff_check 0).mp hcheck _ (List.mem_map_of_mem hxs)
  constructor
  · have hsingle : sortedUnion [sortedUnion lists] = sortedUnion lists :=
      (eq_sortedUnion hunion (by simp)).symm
    have halone := hmerge [sortedUnion lists] hsingle (by simp) (by simp)
    rwa [List.map_singleton, List.map_singleton, hidentity] at halone
  · intro i hi
    have hamong := hmerge (lists.insertIdx i (sortedUnion lists)) (sortedUnion_insertIdx hi)
      (List.ne_nil_of_mem ((List.mem_insertIdx hi).mpr (.inl rfl)))
      (fun xs hxs => (List.mem_insertIdx hi).mp hxs)
    rwa [List.map_insertIdx, List.map_insertIdx, hidentity] at hamong

/-- Two overlapping axes of bytes, with the merged axis in front, between and behind them. -/
theorem merge_insertIdx_merged_bytes :
  let lists : List (List Int) := [[1, 3], [3, 250]]
  let axes := lists.map (Block.ofInts (.unsigned .w8))
  let merged := Block.ofInts (.unsigned .w8) [1, 3, 250]
  let maps := [IndexMap.ofRows [some 0, some 1, none], IndexMap.ofRows [none, some 0, some 1]]
  merge axes = .ok (merged, maps) ∧ merged.KeepsDifferences
    ∧ merge [merged] = .ok (merged, [IndexMap.identity 3])
    ∧ ∀ i ≤ 2, merge (axes.insertIdx i merged) = .ok (merged, maps.insertIdx i (IndexMap.identity 3))
  := by
  intro lists axes merged maps
  have hsorted : ∀ xs ∈ lists, xs.Pairwise (· < ·) := by decide
  have hmerge : merge axes = .ok (merged, maps) := rfl
  have hdifferences : merged.KeepsDifferences :=
    Block.keepsDifferences_ofInts_iff.mpr (by decide)
  use hmerge, hdifferences
  exact merge_insertIdx_merged rfl hsorted hmerge hdifferences

/-- Bytes with a sign that are too far from each other can be merged, but not again. -/
example :
  (∃ maps, merge ([[-100], [100]].map (Block.ofInts (.signed .w8)))
      = .ok (Block.ofInts (.signed .w8) [-100, 100], maps))
    ∧ ∃ f, merge [Block.ofInts (.signed .w8) [-100, 100]] = .error f
  := ⟨⟨_, rfl⟩, ⟨_, rfl⟩⟩

end Axis

end GridUnion
