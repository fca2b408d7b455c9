import GridUnion.Proofs.Axis.Merge
import Mathlib.Data.List.InsertIdx

/-!
# Empty axes

An axis without values among others changes neither the positions of their merge nor the rows of any
other child.  All that may change is the common type, in which the merged values are stored.
-/

namespace GridUnion

namespace Axis

section Runs

variable {α : Type} {lt eq : α → α → Bool}

/-- A position with one more child, which has no row there. -/
def Position.insertNone (i : Nat) (p : Position α) : Position α := ⟨p.value, p.rows.insertIdx i none⟩

theorem foldl_lower_insertIdx_nil (cursors : List (Cursor α)) (i row : Nat) (lowest : Option α) :
  (cursors.insertIdx i ⟨row, []⟩).foldl (lower lt) lowest = cursors.foldl (lower lt) lowest
  := by
  induction cursors generalizing i lowest with
  | nil =>
    cases i with
    | zero | succ => rfl
  | cons c cs ih =>
    cases i with
    | zero => rfl
    | succ i => simp [ih]

/-- A cursor without values makes no difference to a run, and records no row. -/
theorem Merges.insertIdx_nil {cursors : List (Cursor α)} {positions : List (Position α)}
    (h : Merges lt eq cursors positions) (i row : Nat) :
  Merges lt eq (cursors.insertIdx i ⟨row, []⟩) (positions.map (Position.insertNone i))
  := by
  induction h with
  | done h =>
    apply Merges.done
    rw [lowest?, foldl_lower_insertIdx_nil]
    exact h
  | @step cursors positions low h next ih =>
    have hlow : lowest? lt (cursors.insertIdx i ⟨row, []⟩) = some low := by
      rw [lowest?, foldl_lower_insertIdx_nil]
      exact h
    have hnext : (cursors.insertIdx i ⟨row, []⟩).map (Cursor.advance eq low)
        = (cursors.map (Cursor.advance eq low)).insertIdx i ⟨row, []⟩ := List.map_insertIdx _ _ _ _
    have hrows : (cursors.insertIdx i ⟨row, []⟩).map (Cursor.row? eq low)
        = (cursors.map (Cursor.row? eq low)).insertIdx i none := List.map_insertIdx _ _ _ _
    have hstep := Merges.step hlow (hnext ▸ ih)
    rwa [hrows] at hstep

end Runs

/-! ### Maps -/

/-- The map of a child that has no rows. -/
def absentMap (size : Nat) : IndexMap := IndexMap.ofRows (List.replicate size none)

theorem mapOf_insertNone {ps : List (Position Scalar)} {i c d : Nat}
    (h : ∀ p ∈ ps, (p.rows.insertIdx i none)[c]? = p.rows[d]?) :
  mapOf (ps.map (Position.insertNone i)) c = mapOf ps d
  := by
  simp only [mapOf, List.map_map]
  congr 1
  apply List.map_congr_left
  intro p hp
  rw [Function.comp_apply, List.getD_eq_getElem?_getD, List.getD_eq_getElem?_getD]
  exact congrArg (fun row => (row.getD none).map Int.ofNat) (h p hp)

/-- The maps of the children around one without rows stay what they are. -/
theorem map_mapOf_insertNone {ps : List (Position Scalar)} {n i : Nat}
    (hlength : ∀ p ∈ ps, p.rows.length = n) (hi : i ≤ n) :
  (List.range (n + 1)).map (mapOf (ps.map (Position.insertNone i)))
    = ((List.range n).map (mapOf ps)).insertIdx i (absentMap ps.length)
  := by
  apply List.ext_getElem?
  intro c
  rw [List.getElem?_map]
  rcases Nat.lt_trichotomy c i with hlt | rfl | hgt
  · have hmap := mapOf_insertNone fun p (_ : p ∈ ps) =>
      List.getElem?_insertIdx_of_lt (l := p.rows) (x := none) hlt
    have hc : c < n := by omega
    have hc' : c < n + 1 := by omega
    rw [List.getElem?_insertIdx_of_lt hlt]
    simp [hmap, hc, hc']
  · have hmap : mapOf (ps.map (Position.insertNone c)) c = absentMap ps.length := by
      simp only [mapOf, List.map_map, absentMap]
      congr 1
      apply List.map_eq_replicate_iff.mpr
      intro p hp
      simp [Position.insertNone, List.getElem?_insertIdx_self, hlength p hp, hi]
    have hc : c < n + 1 := by omega
    rw [List.getElem?_insertIdx_self]
    simp [hmap, hc, hi]
  · have hmap := mapOf_insertNone fun p (_ : p ∈ ps) =>
      List.getElem?_insertIdx_of_gt (l := p.rows) (x := none) hgt
    have hbounds : c - 1 < n ↔ c < n + 1 := by omega
    rw [List.getElem?_insertIdx_of_gt hgt]
    by_cases hc : c < n + 1
    · simp [hmap, hc, hbounds.mpr hc]
    · simp [hc, hbounds]

/-! ### Merges with an empty axis -/

section Merge

variable {axes : List Block} {merged merged' : Block} {maps maps' : List IndexMap} {e : Block} {i : Nat}

/-- A merge with one more axis, which has no values, goes through the same positions.  The maps of all
other children stay what they are. -/
theorem exists_positions_insertIdx (he : e.data = []) (hi : i ≤ axes.length)
    (h : merge axes = .ok (merged, maps)) (h' : merge (axes.insertIdx i e) = .ok (merged', maps')) :
  ∃ ps, Merges Scalar.lt Scalar.equals (cursors axes) ps
    ∧ ps.mapM (fun p => p.value.store merged.type) = .ok merged.data
    ∧ ps.mapM (fun p => p.value.store merged'.type) = .ok merged'.data
    ∧ maps' = maps.insertIdx i (absentMap merged.data.length)
  := by
  obtain ⟨-, -, type, ps, data, -, -, hps, hdata, rfl, rfl⟩ := merge_eq_ok_iff.mp h
  obtain ⟨-, -, type', ps', data', -, -, hps', hdata', rfl, rfl⟩ := merge_eq_ok_iff.mp h'
  have hrun := (positions_eq_ok_iff.mp hps).1
  have hcursors : cursors (axes.insertIdx i e) = (cursors axes).insertIdx i ⟨0, []⟩ := by
    simp [cursors, List.map_insertIdx, values, Block.scalars, he]
  have hrun' := hrun.insertIdx_nil i 0
  rw [← hcursors] at hrun'
  obtain rfl := (positions_eq_ok_iff.mp hps').1.unique hrun'
  have hlength : ∀ p ∈ ps, p.rows.length = axes.length := by
    intro p hp
    simpa [cursors] using hrun.length_rows p hp
  have hsize : ps.length = data.length := (mapM_eq_ok_iff.mp hdata).length_eq
  refine ⟨ps, hrun, hdata, ?_, ?_⟩
  · rw [List.mapM_map] at hdata'
    exact hdata'
  · rw [List.length_insertIdx_of_le_length hi, map_mapOf_insertNone hlength hi, hsize]
    rfl

end Merge

end Axis

end GridUnion
