import GridUnion.Proofs.Axis.Merge
import GridUnion.Proofs.Axis.SortedUnion
import GridUnion.Proofs.Element.Number

/-!
# Axes of integers

Axes of one integer type are merged as lists of integers: their comparisons never fail, and the
merged axis is their sorted union.
-/

namespace GridUnion

/-- The block of one dimension with the given integers. -/
def Block.ofInts (type : ElementType) (xs : List Int) : Block := ofList type (xs.map .int)

/-- The map that looks up the place of each value in a list. -/
def IndexMap.places (values xs : List Int) : IndexMap :=
  ofRows (values.map fun v => (xs.idxOf? v).map Int.ofNat)

/-! ### Places of values -/

/-- A map is exact if a list has a row exactly at the positions of its values, that row holds the
value, and the values at these positions are the whole list. -/
structure IndexMap.Exact (values xs : List Int) (m : IndexMap) : Prop where
  size_eq : m.size = values.length
  present_iff : ∀ (p : Nat) v, values[p]? = some v → (m.presence[p]? = some true ↔ v ∈ xs)
  row_eq : ∀ (p : Nat) v row, values[p]? = some v → m.toList[p]? = some (some row) →
    ∃ k : Nat, row = k ∧ xs[k]? = some v
  pick_eq : m.pick values = xs

namespace IndexMap

variable {values xs : List Int} {p : Nat} {v : Int}

theorem getElem?_toList_places (hv : values[p]? = some v) :
  (places values xs).toList[p]? = some ((xs.idxOf? v).map Int.ofNat)
  := by
  simp [places, hv]

/-- The values of a list are picked out of all values by their places. -/
theorem pick_places (hvalues : values.Pairwise (· < ·)) (hxs : xs.Pairwise (· < ·)) (hsub : ∀ v ∈ xs, v ∈ values) :
  (places values xs).pick values = xs
  := by
  rw [places, pick_ofRows_map]
  apply (hvalues.filter _).sortedLT.eq_of_mem_iff hxs.sortedLT
  intro v
  simp only [List.mem_filter, Option.isSome_map, List.isSome_idxOf?]
  constructor
  · intro hv
    exact hv.2
  · intro hv
    use hsub v hv, hv

theorem exact_places (hvalues : values.Pairwise (· < ·)) (hxs : xs.Pairwise (· < ·)) (hsub : ∀ v ∈ xs, v ∈ values) :
  Exact values xs (places values xs)
  := by
  constructor
  · simp [places]
  · intro p v hv
    rw [getElem?_presence_eq_true_iff, getElem?_toList_places hv, ← List.isSome_idxOf?]
    rcases xs.idxOf? v with _ | k
    · simp
    · simp
  · intro p v row hv hrow
    rw [getElem?_toList_places hv] at hrow
    obtain ⟨k, hk, rfl⟩ := Option.map_eq_some_iff.mp (Option.some.inj hrow)
    use k, rfl
    obtain ⟨hlt, heq, -⟩ := List.idxOf?_eq_some_iff.mp hk
    rw [List.getElem?_eq_getElem hlt, heq]
  · exact pick_places hvalues hxs hsub

end IndexMap

namespace Axis

/-! ### Comparisons that do not fail -/

section Checks

variable {P : Scalar → Prop} {type : ElementType}

/-- Scalars among which the checks on the way of a merge pass. -/
structure Comparable (type : ElementType) (P : Scalar → Prop) : Prop where
  isSomething : ∀ v, P v → isNothing v = false
  isOrdered : ∀ v w, P v → P w → Scalar.isOrdered v w
  isCompared : ∀ v w, P v → P w → Scalar.checkCompared v w = .ok ()
  isStored : ∀ v, P v → ∃ e, v.store type = .ok e

theorem Comparable.foldlM_lowerChecked (hP : Comparable type P) {cursors : List (Cursor Scalar)}
    (h : ∀ c ∈ cursors, ∀ v ∈ c.rest, P v) {lowest : Option Scalar}
    (hlowest : ∀ v, lowest = some v → P v) :
  cursors.foldlM lowerChecked lowest = .ok (cursors.foldl (lower Scalar.lt) lowest)
  := by
  induction cursors generalizing lowest with
  | nil => rfl
  | cons c cs ih =>
    have hc : lowerChecked lowest c = .ok (lower Scalar.lt lowest c) := by
      obtain ⟨row, _ | ⟨v, rest⟩⟩ := c
      · rfl
      · have hv := h _ List.mem_cons_self v List.mem_cons_self
        rcases lowest with _ | w
        · simp [lowerChecked, lower, hP.isSomething v hv]
        · have hw := hlowest w rfl
          simp [lowerChecked, lower, hP.isOrdered v w hv hw, hP.isCompared v w hv hw]
    rw [List.foldlM_cons, hc]
    apply ih
    · intro d hd
      apply h d (List.mem_cons_of_mem c hd)
    · intro v hv
      rcases lower_eq_some hv with hlow | hhead
      · apply hlowest v hlow
      · apply h c List.mem_cons_self v (List.mem_of_mem_head? hhead)

/-- The checks on the way of a merge pass. -/
theorem Comparable.checkSteps (hP : Comparable type P) (capacity : Nat)
    {cursors : List (Cursor Scalar)} (h : ∀ c ∈ cursors, ∀ v ∈ c.rest, P v) :
  checkSteps type capacity cursors = .ok ()
  := by
  induction capacity generalizing cursors with
  | zero =>
    unfold Axis.checkSteps
    rw [hP.foldlM_lowerChecked h (by simp)]
    rfl
  | succ capacity ih =>
    unfold Axis.checkSteps
    rw [hP.foldlM_lowerChecked h (by simp)]
    rcases hlow : cursors.foldl (lower Scalar.lt) none with _ | low
    · rfl
    · obtain ⟨c, hc, hhead⟩ := exists_head?_eq_lowest hlow
      have hPlow := h c hc low (List.mem_of_mem_head? hhead)
      have hcursors : forM cursors (checkCursor low) = .ok () := by
        apply forM_eq_ok_iff.mpr
        rintro ⟨row, _ | ⟨v, rest⟩⟩ hd
        · rfl
        · apply hP.isCompared v low (h _ hd v List.mem_cons_self) hPlow
      have hnext : ∀ d ∈ cursors.map (Cursor.advance Scalar.equals low), ∀ v ∈ d.rest, P v := by
        intro d hd v hv
        obtain ⟨d₀, hd₀, rfl⟩ := List.mem_map.mp hd
        apply h d₀ hd₀ v (mem_rest_of_mem_rest_advance hv)
      obtain ⟨e, hstored⟩ := hP.isStored low hPlow
      simp [hstored, liftConversion, Except.mapError, hcursors, ih hnext]

end Checks

/-! ### Integers of one type -/

section Integers

variable {type : ElementType}

theorem lt_int (type : ElementType) (m n : Int) :
  Scalar.lt ⟨type, .int m⟩ ⟨type, .int n⟩ = isBelow m n
  := by
  simp [Scalar.lt, Scalar.compared, Scalar.asNumber, Scalar.comparedNumbers, isBelow]

theorem equals_int (type : ElementType) (m n : Int) :
  Scalar.equals ⟨type, .int m⟩ ⟨type, .int n⟩ = isSame m n
  := by
  simp [Scalar.equals, Scalar.compared, Scalar.asNumber, Scalar.comparedNumbers, isSame]

@[simp]
theorem scalars_ofInts (xs : List Int) :
  (Block.ofInts type xs).scalars = xs.map fun n => ⟨type, .int n⟩
  := by
  simp [Block.scalars, Block.ofInts, Block.ofList, Scalar.ofCell, Function.comp_def]

@[simp]
theorem values_ofInts (xs : List Int) :
  values (Block.ofInts type xs) = xs.map fun n => ⟨type, .int n⟩
  := by
  simp only [values, scalars_ofInts]
  apply List.filter_eq_self.mpr
  intro s hs
  obtain ⟨n, -, rfl⟩ := List.mem_map.mp hs
  rfl

theorem store_int (htype : type.isInteger) (n : Int) :
  Scalar.store type ⟨type, .int n⟩ = .ok (.int n)
  := by
  cases type with
  | signed | unsigned => simp [Scalar.store, Scalar.isPlain, Scalar.storeTyped]
  | _ => cases htype

/-- Integers of one type are compared without a failure. -/
theorem comparable_int (htype : type.isInteger) :
  Comparable type fun s => ∃ n, s = ⟨type, .int n⟩
  := by
  constructor
  · rintro _ ⟨n, rfl⟩
    rfl
  · rintro _ _ ⟨m, rfl⟩ ⟨n, rfl⟩
    rfl
  · rintro _ _ ⟨m, rfl⟩ ⟨n, rfl⟩
    cases type with
    | signed | unsigned => rfl
    | _ => cases htype
  · rintro _ ⟨n, rfl⟩
    exact ⟨_, store_int htype n⟩

theorem commonType_eq_ok {axes : List Block} (hne : axes ≠ [])
    (h : ∀ b ∈ axes, b.type = type) :
  commonType axes = .ok type
  := by
  obtain ⟨n, hn⟩ : ∃ n, axes.length = n + 1 := Nat.exists_eq_succ_of_ne_zero (by simpa using hne)
  have htypes : axes.map Block.type = List.replicate (n + 1) type := by
    apply List.eq_replicate_iff.mpr
    simpa [hn] using h
  simp [commonType, htypes, ElementType.commonOf_replicate, Except.mapError]

/-- The positions of the merge of lists of integers: the values of their sorted union, each with its
place in every list. -/
def unionPositions (type : ElementType) (lists : List (List Int)) : List (Position Scalar) :=
  (sortedUnion lists).map fun v => ⟨⟨type, .int v⟩, lists.map (List.idxOf? v)⟩

theorem mergeLists?_ofInts {lists : List (List Int)} (h : ∀ xs ∈ lists, xs.Pairwise (· < ·)) :
  mergeLists? Scalar.lt Scalar.equals ((lists.map (Block.ofInts type)).map values)
    = some (unionPositions type lists)
  := by
  have hvalues : (lists.map (Block.ofInts type)).map values
      = lists.map (List.map fun n => ⟨type, .int n⟩) := by
    simp [Function.comp_def]
  have hmerge := mergeLists?_map (lt_int type) (equals_int type) lists
  rw [mergeLists?_eq_sortedUnion h] at hmerge
  simp [hvalues, hmerge, Position.map, unionPositions, Function.comp_def]

theorem mapM_store_unionPositions (htype : type.isInteger) (lists : List (List Int)) :
  (unionPositions type lists).mapM (fun p => p.value.store type)
    = .ok ((sortedUnion lists).map .int)
  := by
  apply mapM_eq_ok_iff.mpr
  rw [unionPositions, List.forall₂_map_left_iff, List.forall₂_map_right_iff, List.forall₂_same]
  intro v _
  exact store_int htype v

theorem map_mapOf_unionPositions (lists : List (List Int)) :
  (List.range lists.length).map (mapOf (unionPositions type lists))
    = lists.map (IndexMap.places (sortedUnion lists))
  := by
  apply List.ext_getElem
  · simp
  · intro c hc _
    simp only [List.length_map, List.length_range] at hc
    simp [mapOf, unionPositions, IndexMap.places, Function.comp_def, List.getD_eq_getElem?_getD, hc]

/-- The merge of integer axes that ascend strictly and pass the check. -/
theorem merge_ofInts (htype : type.isInteger) {lists : List (List Int)} (hne : lists ≠ [])
    (hsorted : ∀ xs ∈ lists, xs.Pairwise (· < ·))
    (hcheck : checkAll 0 (lists.map (Block.ofInts type)) = .ok ()) :
  merge (lists.map (Block.ofInts type))
    = .ok (Block.ofInts type (sortedUnion lists), lists.map (IndexMap.places (sortedUnion lists)))
  := by
  have hcommon : commonType (lists.map (Block.ofInts type)) = .ok type := by
    apply commonType_eq_ok
    · simpa using hne
    · simp [Block.ofInts, Block.ofList]
  have hcompared : checkCompared type (lists.map (Block.ofInts type)) = .ok () := by
    apply (comparable_int htype).checkSteps
    simp
  have hpositions : positions (lists.map (Block.ofInts type)) = .ok (unionPositions type lists) := by
    rw [positions, mergeLists?_ofInts hsorted]
  apply merge_eq_ok_iff.mpr
  constructor
  · simpa using hne
  · use hcheck, type, unionPositions type lists, (sortedUnion lists).map .int, hcommon, hcompared,
      hpositions, mapM_store_unionPositions htype lists, rfl
    rw [List.length_map, map_mapOf_unionPositions]

/-- What a merge of integer axes that ascend strictly gives if it succeeds. -/
theorem eq_of_merge_ofInts (htype : type.isInteger) {lists : List (List Int)}
    (hsorted : ∀ xs ∈ lists, xs.Pairwise (· < ·)) {merged : Block} {maps : List IndexMap}
    (h : merge (lists.map (Block.ofInts type)) = .ok (merged, maps)) :
  merged = Block.ofInts type (sortedUnion lists)
    ∧ maps = lists.map (IndexMap.places (sortedUnion lists))
  := by
  obtain ⟨hne, hcheck, -⟩ := merge_eq_ok_iff.mp h
  rw [merge_ofInts htype (by simpa using hne) hsorted hcheck] at h
  obtain ⟨rfl, rfl⟩ := Prod.mk.inj (Except.ok.inj h)
  exact ⟨rfl, rfl⟩

/-- The merge of integer axes that ascend strictly goes through in the room there is, and gives the
values of all axes in strictly ascending order. -/
theorem merge_sorted_union (htype : type.isInteger) {lists : List (List Int)} (hne : lists ≠ [])
    (hsorted : ∀ xs ∈ lists, xs.Pairwise (· < ·))
    (hcheck : checkAll 0 (lists.map (Block.ofInts type)) = .ok ()) :
  ∃ ps merged maps,
    mergeLists? Scalar.lt Scalar.equals ((lists.map (Block.ofInts type)).map values) = some ps
      ∧ ps.length ≤ (lists.map List.length).sum
      ∧ merge (lists.map (Block.ofInts type)) = .ok (Block.ofInts type merged, maps)
      ∧ ps.map (fun p => p.value.element) = merged.map .int
      ∧ merged.Pairwise (· < ·) ∧ ∀ v, v ∈ merged ↔ ∃ xs ∈ lists, v ∈ xs
  := by
  use unionPositions type lists, sortedUnion lists, lists.map (IndexMap.places (sortedUnion lists))
  constructor
  · apply mergeLists?_ofInts hsorted
  · constructor
    · rw [unionPositions, List.length_map]
      apply length_sortedUnion_le
    · use merge_ofInts htype hne hsorted hcheck
      constructor
      · simp [unionPositions]
      · use pairwise_sortedUnion lists
        intro v
        apply mem_sortedUnion

/-- Three axes of bytes, one of them empty. -/
theorem merge_sorted_union_bytes :
  ∃ ps merged maps,
    mergeLists? Scalar.lt Scalar.equals
        (([[1, 3], [], [2, 3]].map (Block.ofInts (.unsigned .w8))).map values) = some ps
      ∧ ps.length ≤ ([[(1 : Int), 3], [], [2, 3]].map List.length).sum
      ∧ merge ([[1, 3], [], [2, 3]].map (Block.ofInts (.unsigned .w8)))
          = .ok (Block.ofInts (.unsigned .w8) merged, maps)
      ∧ ps.map (fun p => p.value.element) = merged.map .int
      ∧ merged.Pairwise (· < ·) ∧ ∀ v, v ∈ merged ↔ ∃ xs ∈ [[1, 3], [], [2, 3]], v ∈ xs
  := by
  apply merge_sorted_union
  · rfl
  · decide
  · decide
  · rfl

/-- A merge of integer axes that ascend strictly gives exact maps, and every position has a child
that is present. -/
theorem exact_maps_of_merge (htype : type.isInteger) {lists : List (List Int)}
    (hsorted : ∀ xs ∈ lists, xs.Pairwise (· < ·)) {merged : Block} {maps : List IndexMap}
    (h : merge (lists.map (Block.ofInts type)) = .ok (merged, maps)) :
  ∃ values, merged = Block.ofInts type values ∧ List.Forall₂ (IndexMap.Exact values) lists maps
    ∧ ∀ p < values.length, ∃ m ∈ maps, m.presence[p]? = some true
  := by
  obtain ⟨hne, hcheck, -⟩ := merge_eq_ok_iff.mp h
  have hmerge := merge_ofInts htype (by simpa using hne) hsorted hcheck
  obtain ⟨hmerged, hmaps⟩ := Prod.mk.inj (Except.ok.inj (h.symm.trans hmerge))
  use sortedUnion lists, hmerged
  constructor
  · rw [hmaps, List.forall₂_map_right_iff, List.forall₂_same]
    intro xs hxs
    apply IndexMap.exact_places (pairwise_sortedUnion lists) (hsorted xs hxs)
    intro v hv
    apply mem_sortedUnion.mpr ⟨xs, hxs, hv⟩
  · intro p hp
    apply exists_present_maps h
    rw [hmerged]
    simpa [Block.ofInts, Block.ofList] using hp

/-- Two overlapping axes of bytes. -/
theorem exact_maps_of_merge_bytes :
  ∃ merged maps,
    merge ([[1, 3], [2, 3]].map (Block.ofInts (.unsigned .w8))) = .ok (merged, maps)
      ∧ ∃ values, merged = Block.ofInts (.unsigned .w8) values
          ∧ List.Forall₂ (IndexMap.Exact values) [[1, 3], [2, 3]] maps
          ∧ ∀ p < values.length, ∃ m ∈ maps, m.presence[p]? = some true
  := by
  refine ⟨_, _, rfl, exact_maps_of_merge rfl ?_ rfl⟩
  decide

end Integers

end Axis

end GridUnion
