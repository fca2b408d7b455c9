import GridUnion.Proofs.Success
import GridUnion.Proofs.Axis.Cursors
import GridUnion.Proofs.Axis.IndexMap

/-!
# Merged axes

What a merge of axes gives when it succeeds, whatever the types of the axes and whether or not they
ascend.  The rows of every child are kept, in order and complete, exactly if no axis holds nothing.
-/

namespace GridUnion

/-- The steps of making a union of axes. -/
theorem AxisUnion.result_ofBlocks (axes : List Block) :
  (ofBlocks axes).result = do
    let sizes ← axes.mapM fun b => sizeOf (.block b)
    let union ← Axis.merge axes
    return ⟨sizes, union.1, union.2⟩
  := by
  simp only [ofBlocks, Axis.mergeNoted, Noted.result_bind, Noted.result_note, Noted.result_liftM,
    Noted.result_mapM, bind_assoc]
  rfl

/-- Blocks with dimensions have sizes. -/
theorem AxisUnion.exists_sizes {axes : List Block} (h : ∀ b ∈ axes, b.shape ≠ []) :
  ∃ sizes, (axes.mapM fun b => sizeOf (.block b)) = .ok sizes
  := by
  apply exists_mapM_eq_ok
  intro b hb
  obtain ⟨n, shape, hshape⟩ := List.exists_cons_of_ne_nil (h b hb)
  exact ⟨n, by simp [sizeOf, hshape]⟩

namespace Axis

variable {axes : List Block} {merged : Block} {maps : List IndexMap}

/-- A merge succeeds exactly when its checks pass, its cursors reach their ends in the room there
is, and all values can be stored in the common type. -/
theorem merge_eq_ok_iff :
  merge axes = .ok (merged, maps)
    ↔ axes ≠ [] ∧ checkAll 0 axes = .ok () ∧ ∃ type ps data,
        commonType axes = .ok type ∧ checkCompared type axes = .ok () ∧ positions axes = .ok ps
          ∧ ps.mapM (fun p => p.value.store type) = .ok data
          ∧ Block.ofList type data = merged
          ∧ (List.range axes.length).map (mapOf ps) = maps
  := by
  rcases axes with _ | ⟨b, bs⟩
  · simp [merge]
  · simp [merge]

/-- Whether an axis passes the check does not depend on the number of its child. -/
theorem check_eq_ok_iff_check {b : Block} (child other : Nat) :
  check child b = .ok () ↔ check other b = .ok ()
  := by
  unfold check
  split
  · simp
  · split
    · simp
    · split
      · rfl
      · rcases firstDescent? b.type 0 b.data with _ | ⟨position, value, previous⟩
        · rfl
        · simp

/-- All axes pass the check exactly if each of them does. -/
theorem checkAll_eq_ok_iff_check (child : Nat) :
  checkAll child axes = .ok () ↔ ∀ b ∈ axes, check 0 b = .ok ()
  := by
  induction axes generalizing child with
  | nil => simp [checkAll]
  | cons b bs ih =>
    rw [checkAll, List.forall_mem_cons, ← check_eq_ok_iff_check child 0, ← ih (child + 1)]
    simp

theorem length_values_le (b : Block) :
  (values b).length ≤ b.data.length
  := by
  have hscalars : b.data.length = b.scalars.length := by simp [Block.scalars]
  rw [hscalars, values]
  apply List.length_filter_le

/-- The cursors at the beginning of a merge of axes. -/
def cursors (axes : List Block) : List (Cursor Scalar) := axes.map fun b => ⟨0, values b⟩

theorem positions_eq_ok_iff {ps : List (Position Scalar)} :
  positions axes = .ok ps
    ↔ Merges Scalar.lt Scalar.equals (cursors axes) ps
        ∧ ps.length ≤ (axes.map fun b => (values b).length).sum
  := by
  have hmerge : mergeLists? Scalar.lt Scalar.equals (axes.map values)
      = mergeCursors? Scalar.lt Scalar.equals (axes.map fun b => (values b).length).sum
          (cursors axes) := by
    simp only [mergeLists?, cursors, List.map_map, Function.comp_def]
  rw [← mergeCursors?_eq_some_iff, ← hmerge, positions]
  rcases mergeLists? Scalar.lt Scalar.equals (axes.map values) with _ | qs
  · simp
  · simp

/-! ### The maps of a merge -/

/-- The rows of a child's map are those of its values, one after the other. -/
theorem Merges.rows_mapOf {ps : List (Position Scalar)}
    (h : Merges Scalar.lt Scalar.equals (cursors axes) ps) {c : Nat} {b : Block}
    (hb : axes[c]? = some b) :
  (mapOf ps c).rows = (List.range (values b).length).map Int.ofNat
  := by
  have hcursor : (cursors axes)[c]? = some ⟨0, values b⟩ := by simp [cursors, hb]
  have hcolumn : (mapOf ps c).toList = (column ps c).map (Option.map Int.ofNat) := by
    simp [mapOf, column]
  rw [IndexMap.rows_eq_reduceOption, hcolumn, List.reduceOption_map,
    h.reduceOption_column hcursor, List.range_eq_range']

/-- At every position the map of at least one child has a row. -/
theorem Merges.exists_present {ps : List (Position Scalar)}
    (h : Merges Scalar.lt Scalar.equals (cursors axes) ps) {p : Nat} (hp : p < ps.length) :
  ∃ c < axes.length, (mapOf ps c).presence[p]? = some true
  := by
  obtain ⟨row, hrow⟩ := h.exists_row ps[p] (List.getElem_mem hp)
  obtain ⟨c, hc, hget⟩ := List.mem_iff_getElem.mp hrow
  have hlength : ps[p].rows.length = axes.length := by
    simpa [cursors] using h.length_rows ps[p] (List.getElem_mem hp)
  use c, hlength ▸ hc
  apply IndexMap.getElem?_presence_eq_true_iff.mpr
  use row
  simp [mapOf, hp, List.getD_eq_getElem?_getD, List.getElem?_eq_getElem hc, hget]

/-- The children of a merge with their maps. -/
theorem mem_zip_mapOf_iff {ps : List (Position Scalar)} {a : Block} {m : IndexMap} :
  (a, m) ∈ axes.zip ((List.range axes.length).map (mapOf ps))
    ↔ ∃ i, axes[i]? = some a ∧ m = mapOf ps i
  := by
  constructor
  · intro h
    obtain ⟨i, hi⟩ := List.mem_iff_getElem?.mp h
    obtain ⟨ha, hm⟩ := List.getElem?_zip_eq_some.mp hi
    obtain ⟨hlt, -⟩ := List.getElem?_eq_some_iff.mp ha
    refine ⟨i, ha, ?_⟩
    simpa [hlt, eq_comm] using hm
  · rintro ⟨i, ha, rfl⟩
    obtain ⟨hlt, -⟩ := List.getElem?_eq_some_iff.mp ha
    apply List.mem_iff_getElem?.mpr ⟨i, ?_⟩
    apply List.getElem?_zip_eq_some.mpr ⟨ha, ?_⟩
    simp [hlt]

theorem getElem?_toList_mapOf_iff {ps : List (Position Scalar)} {i k r : Nat} :
  (mapOf ps i).toList[k]? = some (some (r : Int))
    ↔ ∃ p, ps[k]? = some p ∧ p.rows.getD i none = some r
  := by
  have hrow : ∀ row? : Option Nat, row?.map Int.ofNat = some (r : Int) ↔ row? = some r := fun row? =>
    (Option.map_injective fun _ _ => Int.ofNat.inj).eq_iff (b := some r)
  simp only [mapOf, IndexMap.toList_ofRows, List.getElem?_map, Option.map_eq_some_iff, hrow]

section Maps

variable (h : merge axes = .ok (merged, maps))

include h

/-- What a merge gives comes from a run of cursors. -/
theorem exists_merges_of_merge :
  ∃ ps, Merges Scalar.lt Scalar.equals (cursors axes) ps
    ∧ ps.length ≤ (axes.map fun b => (values b).length).sum
    ∧ ps.length = merged.data.length ∧ (List.range axes.length).map (mapOf ps) = maps
  := by
  obtain ⟨-, -, type, ps, data, -, -, hps, hdata, rfl, rfl⟩ := merge_eq_ok_iff.mp h
  obtain ⟨hrun, hlen⟩ := positions_eq_ok_iff.mp hps
  use ps, hrun, hlen
  constructor
  · exact (mapM_eq_ok_iff.mp hdata).length_eq
  · rfl

theorem length_maps :
  maps.length = axes.length
  := by
  obtain ⟨ps, -, -, -, rfl⟩ := exists_merges_of_merge h
  simp

theorem size_maps :
  ∀ m ∈ maps, m.size = merged.data.length
  := by
  obtain ⟨ps, -, -, hlength, rfl⟩ := exists_merges_of_merge h
  intro m hm
  obtain ⟨c, -, rfl⟩ := List.mem_map.mp hm
  simpa [mapOf] using hlength

/-- Every map has the rows of its child's values in order. -/
theorem rows_maps :
  maps.map IndexMap.rows = axes.map fun b => (List.range (values b).length).map Int.ofNat
  := by
  obtain ⟨ps, hrun, -, -, rfl⟩ := exists_merges_of_merge h
  apply List.ext_getElem
  · simp
  · intro c hc _
    simp only [List.length_map, List.length_range] at hc
    simp [hrun.rows_mapOf (List.getElem?_eq_getElem hc)]

theorem rows_of_getElem?_maps {c : Nat} {b : Block} {m : IndexMap} (hb : axes[c]? = some b)
    (hm : maps[c]? = some m) :
  m.rows = (List.range (values b).length).map Int.ofNat
  := by
  have hrows := congrArg (fun l => l[c]?) (rows_maps h)
  simpa [hb, hm] using hrows

theorem countPresent_maps :
  maps.map IndexMap.countPresent = axes.map fun b => (values b).length
  := by
  have hcount := congrArg (List.map List.length) (rows_maps h)
  rw [List.map_congr_left fun m _ => m.countPresent_eq_length_rows]
  simpa [Function.comp_def] using hcount

theorem exists_present_maps :
  ∀ p < merged.data.length, ∃ m ∈ maps, m.presence[p]? = some true
  := by
  obtain ⟨ps, hrun, -, hlength, rfl⟩ := exists_merges_of_merge h
  intro p hp
  obtain ⟨c, hc, hpresent⟩ := hrun.exists_present (hlength ▸ hp)
  use mapOf ps c, List.mem_map_of_mem (List.mem_range.mpr hc)

/-- The merged axis has room for the values of every child. -/
theorem length_values_le_length :
  ∀ b ∈ axes, (values b).length ≤ merged.data.length
  := by
  intro b hb
  obtain ⟨c, hc, rfl⟩ := List.mem_iff_getElem.mp hb
  have hmap : c < maps.length := by rwa [length_maps h]
  have hcount : maps[c].countPresent = (values axes[c]).length := by
    have hcounts := congrArg (fun l => l[c]?) (countPresent_maps h)
    simpa [hc, hmap] using hcounts
  rw [← hcount, ← size_maps h maps[c] (List.getElem_mem hmap)]
  rw [IndexMap.countPresent, ← IndexMap.length_presence]
  apply List.countP_le_length

end Maps

/-! ### Rows that are kept -/

/-- The maps of a merge keep the rows of all children: each child's rows stand at its positions in
order and complete, and there are no positions without a child. -/
structure KeepsRows (axes : List Block) (merged : Block) (maps : List IndexMap) : Prop where
  size_eq : ∀ m ∈ maps, m.size = merged.data.length
  rows_eq : maps.map IndexMap.rows = axes.map fun b => (List.range b.data.length).map Int.ofNat
  countPresent_eq : maps.map IndexMap.countPresent = axes.map fun b => b.data.length
  exists_present : ∀ p < merged.data.length, ∃ m ∈ maps, m.presence[p]? = some true
  length_le : ∀ b ∈ axes, b.data.length ≤ merged.data.length
  length_le_sum : merged.data.length ≤ (axes.map fun b => b.data.length).sum

/-- The values that are merged are all values exactly if an axis does not hold nothing. -/
theorem length_values_eq_iff {b : Block} :
  (values b).length = b.data.length ↔ ∀ s ∈ b.scalars, s.element ≠ .null
  := by
  have hscalars : b.data.length = b.scalars.length := by simp [Block.scalars]
  rw [hscalars, values, List.length_filter_eq_length_iff]
  simp [isNothing]

/-- A merge that succeeds keeps the rows of all children exactly if no axis holds nothing. -/
theorem keepsRows_iff (h : merge axes = .ok (merged, maps)) :
  KeepsRows axes merged maps ↔ ∀ b ∈ axes, ∀ s ∈ b.scalars, s.element ≠ .null
  := by
  constructor
  · intro hkeeps b hb
    have hrows := (rows_maps h).symm.trans hkeeps.rows_eq
    have hb := congrArg List.length (List.map_inj_left.mp hrows b hb)
    apply length_values_eq_iff.mp
    simpa using hb
  · intro hsome
    have hlength : ∀ b ∈ axes, (values b).length = b.data.length :=
      fun b hb => length_values_eq_iff.mpr (hsome b hb)
    have hsizes : (axes.map fun b => (values b).length) = axes.map fun b => b.data.length :=
      List.map_congr_left hlength
    obtain ⟨ps, -, hle, hps, -⟩ := exists_merges_of_merge h
    constructor
    · exact size_maps h
    · rw [rows_maps h]
      apply List.map_congr_left
      intro b hb
      rw [hlength b hb]
    · rw [countPresent_maps h, hsizes]
    · exact exists_present_maps h
    · intro b hb
      rw [← hlength b hb]
      apply length_values_le_length h b hb
    · rw [← hps, ← hsizes]
      exact hle

/-- Overlapping axes of two types keep their rows. -/
theorem keepsRows_overlapping :
  ∃ merged maps,
    merge [Block.ofList .int64 [.int 1, .int 3], Block.ofList (.unsigned .w8) [.int 3]]
        = .ok (merged, maps)
      ∧ KeepsRows [Block.ofList .int64 [.int 1, .int 3], Block.ofList (.unsigned .w8) [.int 3]]
          merged maps
  := by
  refine ⟨_, _, rfl, (keepsRows_iff rfl).mpr ?_⟩
  decide

/-- The row of a single nothing is lost, without a failure. -/
theorem not_keepsRows_nothing :
  merge [Block.ofList .object [.null]] = .ok (Block.ofList .object [], [⟨[]⟩])
    ∧ ¬ KeepsRows [Block.ofList .object [.null]] (Block.ofList .object []) [⟨[]⟩]
  := by
  constructor
  · rfl
  · intro h
    have hle := h.length_le _ List.mem_cons_self
    simp [Block.ofList] at hle

end Axis

end GridUnion
