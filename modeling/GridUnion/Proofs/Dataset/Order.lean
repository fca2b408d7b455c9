import GridUnion.Proofs.Dataset.Compatible
import GridUnion.Proofs.Dataset.Join

/-!
# The order of children

Whether children are put side by side, which values are merged, and what data there are depends on
which children there are, and not on their order.  Only the sizes of the dimensions beside the merged
one are those of the first child; all children have the same if each has one value for every
position.
-/

namespace GridUnion

theorem Axis.sortedUnion_perm {lists lists' : List (List Int)} (h : lists.Perm lists') :
  sortedUnion lists = sortedUnion lists'
  := by
  apply eq_sortedUnion (pairwise_sortedUnion lists)
  intro v
  simp [mem_sortedUnion, h.mem_iff]

namespace Block

/-- Equal blocks have equal elements at the same positions. -/
theorem equals_select {a b : Block} (htype : a.type = b.type) (h : a.equals b)
    (picks : List (List Nat)) :
  (a.select picks).equals (b.select picks)
  := by
  obtain ⟨hshape, helements⟩ := (equals_iff htype).mp h
  have hget : ∀ k, (Scalar.ofCell a.type (a.data.getD k default)).equals
      (Scalar.ofCell b.type (b.data.getD k default)) := by
    intro k
    obtain ⟨hlength, helements⟩ := List.forall₂_iff_get.mp helements
    simp only [scalars, List.length_map] at hlength
    by_cases hk : k < a.data.length
    · have hk' : k < b.data.length := hlength ▸ hk
      have hequal := helements k (by simpa [scalars] using hk) (by simpa [scalars] using hk')
      simpa [scalars, List.getD_eq_getElem?_getD, hk, hk'] using hequal
    · have hk' : ¬ k < b.data.length := hlength ▸ hk
      simp [List.getD_eq_getElem?_getD, hk, hk']
      rfl
  have htype' : (a.select picks).type = (b.select picks).type := htype
  apply (equals_iff htype').mpr
  constructor
  · simp [select, tabulate, hshape]
  · simp only [scalars, select, tabulate, hshape, List.forall₂_map_left_iff,
      List.forall₂_map_right_iff, List.forall₂_same]
    intro ix _
    simpa using hget _

end Block

namespace Dataset

/-- What is related to the items of a list can be replaced by what is related in another way. -/
theorem exists_forall₂ {α β γ : Type} {R : α → β → Prop} {R' : α → γ → Prop} {S : β → γ → Prop}
    {xs : List α} {ys : List β} (h : List.Forall₂ R xs ys)
    (hstep : ∀ x ∈ xs, ∀ y, R x y → ∃ z, R' x z ∧ S y z) :
  ∃ zs, List.Forall₂ R' xs zs ∧ List.Forall₂ S ys zs
  := by
  induction h with
  | nil => exact ⟨[], .nil, .nil⟩
  | @cons x y xs ys hxy _ ih =>
    obtain ⟨hx, hxs⟩ := List.forall_mem_cons.mp hstep
    obtain ⟨z, hxz, hyz⟩ := hx y hxy
    obtain ⟨zs, hxs, hys⟩ := ih hxs
    exact ⟨z :: zs, .cons hxz hxs, .cons hyz hys⟩

/-! ### Answers that are the same -/

/-- Two parts of answers have one name and hold the same block, or equal blocks if the name is one of
the given dimensions. -/
def IsSamePart (dims : List String) (p q : String × Block) : Prop :=
  p.1 = q.1 ∧ (p.2 = q.2 ∨ p.1 ∈ dims ∧ p.2.equals q.2)

section Parts

variable {dims : List String} {data data' : List (String × Block)}

theorem forall₂_setBlock (h : List.Forall₂ (IsSamePart dims) data data') {p q : String × Block}
    (hpq : IsSamePart dims p q) :
  List.Forall₂ (IsSamePart dims) (setBlock p.1 p.2 data) (setBlock q.1 q.2 data')
  := by
  induction h with
  | nil => apply List.Forall₂.cons hpq List.Forall₂.nil
  | @cons r s data data' hrs hdata ih =>
    obtain ⟨n, b⟩ := p
    obtain ⟨m, c⟩ := q
    obtain ⟨i, x⟩ := r
    obtain ⟨j, y⟩ := s
    obtain rfl : n = m := hpq.1
    obtain rfl : i = j := hrs.1
    by_cases hname : i = n
    · simp only [setBlock, hname, if_true]
      apply List.Forall₂.cons hpq hdata
    · simp only [setBlock, hname, if_false]
      apply List.Forall₂.cons hrs ih

theorem forall₂_setBlocks {pairs pairs' : List (String × Block)}
    (hpairs : List.Forall₂ (IsSamePart dims) pairs pairs')
    (h : List.Forall₂ (IsSamePart dims) data data') :
  List.Forall₂ (IsSamePart dims) (setBlocks pairs data) (setBlocks pairs' data')
  := by
  induction hpairs generalizing data data' with
  | nil => exact h
  | cons hpq _ ih => apply ih (forall₂_setBlock h hpq)

end Parts

/-- Data of variables are the same in two datasets if those of each variable are. -/
theorem exists_variablesData [Machine] {d d' : Dataset} {dims : List String} {merged : Request}
    {others : List Request} {names : List String}
    (hvariable : ∀ v b, (d.variableData v merged others).result = .ok b →
      (d'.variableData v merged others).result = .ok b)
    {parts parts' answer : List (String × Block)} (hparts : List.Forall₂ (IsSamePart dims) parts parts')
    (hanswer : (d.variablesData merged others names parts).result = .ok answer) :
  ∃ answer', (d'.variablesData merged others names parts').result = .ok answer'
    ∧ List.Forall₂ (IsSamePart dims) answer answer'
  := by
  induction names generalizing parts parts' with
  | nil =>
    obtain rfl := Except.ok.inj hanswer
    use parts', rfl
  | cons v vs ih =>
    simp only [variablesData, Noted.result_bind, bind_eq_ok_iff] at hanswer ⊢
    obtain ⟨b, hb, hanswer⟩ := hanswer
    have hset := forall₂_setBlock hparts (p := (v, b)) (q := (v, b)) ⟨rfl, .inl rfl⟩
    obtain ⟨answer', hanswer', hsame⟩ := ih hset hanswer
    exact ⟨answer', ⟨b, hvariable v b hb, hanswer'⟩, hsame⟩

/-! ### Two orders -/

section Orders

variable {d d' : Dataset} {children children' : List Child} {blocks blocks' : List Block}
  (h : d.Joins children blocks) (h' : d'.Joins children' blocks')

include h h'

theorem Joins.owner_iff {i j : Nat} {c : Child} (hi : children[i]? = some c)
    (hj : children'[j]? = some c) (v : String) :
  d.owner v = .ok i ↔ d'.owner v = .ok j
  := by
  simp [h.owner_eq_ok_iff, h'.owner_eq_ok_iff, hi, hj]

variable (hperm : children.Perm children')

include hperm

theorem Joins.axes_eq_axes :
  d.axes = d'.axes
  := (h.axes_eq_of_mem d'.first (hperm.mem_iff.mpr h'.first_mem)).symm

/-- The data of a variable are those of its owner, wherever this stands. -/
theorem Joins.variableData_eq_ok [Machine] {map : Child → IndexMap}
    (hmaps : d.union.maps = children.map map) (hmaps' : d'.union.maps = children'.map map)
    {v : String} {merged : Request} {others : List Request} {b : Block}
    (hb : (d.variableData v merged others).result = .ok b) :
  (d'.variableData v merged others).result = .ok b
  := by
  simp only [variableData, Noted.result_bind, Noted.result_liftM, bind_eq_ok_iff] at hb ⊢
  obtain ⟨i, hi, m, hm, hdata⟩ := hb
  obtain ⟨c, hc, hv⟩ := h.owner_eq_ok_iff.mp hi
  obtain ⟨j, hc'⟩ := List.mem_iff_getElem?.mp (hperm.mem_iff.mp (List.mem_of_getElem? hc))
  have hchild : d.children.getD i default = c := by
    simp [List.getD_eq_getElem?_getD, h.children_eq, hc]
  have hchild' : d'.children.getD j default = c := by
    simp [List.getD_eq_getElem?_getD, h'.children_eq, hc']
  obtain rfl : map c = m := by simpa [AxisUnion.mapOfChild, hmaps, hc] using hm
  have hm' : d'.union.mapOfChild j = .ok (map c) := by
    simp [AxisUnion.mapOfChild, hmaps', hc']
  refine ⟨j, (h.owner_iff h' hc hc' v).mp hi, map c, hm', ?_⟩
  rw [hchild']
  rwa [hchild] at hdata

/-- The values of a dimension are the same in both orders. -/
theorem Joins.exists_axisData_of_perm (hcomparable : Child.AreComparable children)
    (hagree : children.Pairwise Child.Agree) (hunion : d.union.axis = d'.union.axis)
    {name : String} (hname : name ∈ d.axes) {r : Request} {b : Block} (hb : d.axisData name r = .ok b) :
  ∃ b', d'.axisData name r = .ok b' ∧ IsSamePart d.first.others (name, b) (name, b')
  := by
  have hfirst := h.first_mem
  have hfirst' := hperm.mem_iff.mpr h'.first_mem
  obtain ⟨haxis, hothers⟩ := List.cons.inj (h.axes_eq_axes h' hperm)
  by_cases hmerged : name = d.first.axis
  · use b
    have hmerged' : name = d'.first.axis := hmerged.trans haxis
    constructor
    · simpa only [axisData, axisValues, if_pos hmerged, if_pos hmerged', hunion] using hb
    · exact ⟨rfl, .inl rfl⟩
  · have hmerged' : ¬ name = d'.first.axis := haxis ▸ hmerged
    have hother : name ∈ d.first.others := (List.mem_cons.mp hname).resolve_left hmerged
    by_cases hsame : d.first = d'.first
    · use b
      constructor
      · simpa only [axisData, axisValues, if_neg hmerged, if_neg hmerged', hsame] using hb
      · exact ⟨rfl, .inl rfl⟩
    · obtain ⟨x, y, hx, hy, hequals⟩ :=
        (hagree.forall hfirst hfirst' hsame).exists_values name hother
      have htype := hcomparable.type_eq _ hfirst _ hfirst' name hother (hothers ▸ hother) x y hx hy
      have hshape := ((Block.equals_iff htype).mp hequals).1
      simp only [axisData, axisValues, if_neg hmerged, hx, bind, Except.bind] at hb
      simp only [axisData, axisValues, if_neg hmerged', hy, bind, Except.bind, ← hshape]
      split at hb
      · cases hb
      · split at hb
        · next picks hpicks =>
          obtain rfl := Except.ok.inj hb
          refine ⟨y.select [picks], rfl, rfl, .inr ⟨hother, ?_⟩⟩
          apply Block.equals_select htype hequals
        · cases hb

/-- Data in one order are data in the other, if the requests are within the dimensions in this order
too. -/
theorem Joins.exists_data_of_perm [Machine] (hcomparable : Child.AreComparable children)
    (hagree : children.Pairwise Child.Agree) (hunion : d.union.axis = d'.union.axis)
    {map : Child → IndexMap} (hmaps : d.union.maps = children.map map)
    (hmaps' : d'.union.maps = children'.map map) {names : List String} {requests : List Request}
    (hvalid : Request.AllValid d'.shape requests) {answer : List (String × Block)}
    (hanswer : (d.data names requests).result = .ok answer) :
  ∃ answer', (d'.data names requests).result = .ok answer'
    ∧ List.Forall₂ (IsSamePart d.first.others) answer answer'
  := by
  cases requests with
  | nil => cases hvalid
  | cons merged others =>
    have haxes := h.axes_eq_axes h' hperm
    obtain ⟨hlength, -, parts, hparts, hvariables⟩ := data_eq_ok_iff.mp hanswer
    have hpart : ∀ p ∈ d.axes.zip (merged :: others), ∀ q : String × Block,
        p.1 = q.1 ∧ d.axisData p.1 p.2 = .ok q.2 →
        ∃ q' : String × Block, (p.1 = q'.1 ∧ d'.axisData p.1 p.2 = .ok q'.2)
          ∧ IsSamePart d.first.others q q' := by
      rintro ⟨name, r⟩ hp ⟨_, b⟩ ⟨rfl, hb⟩
      obtain ⟨b', hb', hsame⟩ :=
        h.exists_axisData_of_perm h' hperm hcomparable hagree hunion (List.of_mem_zip hp).1 hb
      exact ⟨(name, b'), ⟨rfl, hb'⟩, hsame⟩
    obtain ⟨parts', hparts', hsame⟩ := exists_forall₂ hparts hpart
    obtain ⟨answer', hanswer', hsame'⟩ := exists_variablesData
      (fun v b => h.variableData_eq_ok h' hperm hmaps hmaps')
      (forall₂_setBlocks hsame List.Forall₂.nil) hvariables
    refine ⟨answer', ?_, hsame'⟩
    rw [haxes] at hlength hparts'
    apply data_eq_ok_iff.mpr
    use hlength, checkRequests_eq_ok hvalid, parts'

end Orders

section Integers

variable {type : ElementType} (htype : type.isInteger) {xs : Child → List Int} {children : List Child}
  (hsorted : ∀ c ∈ children, (xs c).Pairwise (· < ·))

include htype hsorted

/-- The axes of children are merged exactly if each of them passes the check. -/
theorem exists_merge_ofInts_iff :
  (∃ union, Axis.merge ((children.map xs).map (Block.ofInts type)) = .ok union)
    ↔ children ≠ [] ∧ ∀ c ∈ children, Axis.check 0 (Block.ofInts type (xs c)) = .ok ()
  := by
  constructor
  · rintro ⟨union, hunion⟩
    obtain ⟨hne, hcheck, -⟩ := Axis.merge_eq_ok_iff.mp hunion
    have hcheck := (Axis.checkAll_eq_ok_iff_check 0).mp hcheck
    simp only [List.map_map, List.forall_mem_map, Function.comp_apply] at hcheck
    exact ⟨by simpa using hne, hcheck⟩
  · rintro ⟨hne, hcheck⟩
    refine ⟨_, Axis.merge_ofInts htype (by simpa using hne) (by simpa using hsorted) ?_⟩
    apply (Axis.checkAll_eq_ok_iff_check 0).mpr
    simpa using hcheck

/-- Children over strictly ascending integers are put side by side exactly if they are compatible and
each of their axes passes the check. -/
theorem exists_build_ofInts_iff (id title : Value) (h : Child.AreComparable children)
    (hblocks : children.mapM Child.mergeValues
      = .ok ((children.map xs).map (Block.ofInts type))) :
  (∃ d, (build id children title).result = .ok d)
    ↔ (∀ a ∈ children, ∀ b ∈ children, a.axes = b.axes) ∧ children.Pairwise Child.Agree
      ∧ (children.Pairwise fun a b => a.variableNames.Disjoint b.variableNames)
      ∧ children ≠ [] ∧ ∀ c ∈ children, Axis.check 0 (Block.ofInts type (xs c)) = .ok ()
  := by
  have hsizes : ((children.map xs).map (Block.ofInts type)).mapM
      (fun b => AxisUnion.sizeOf (.block b)) = .ok (children.map fun c => (xs c).length) := by
    apply mapM_eq_ok_iff.mpr
    simp [List.forall₂_map_left_iff, List.forall₂_map_right_iff, List.forall₂_same,
      AxisUnion.sizeOf, Block.ofInts, Block.ofList]
  rw [exists_build_iff id title h hblocks hsizes, exists_merge_ofInts_iff htype hsorted]
  constructor
  · rintro ⟨-, hcompatible⟩
    exact hcompatible
  · rintro ⟨haxes, hagree, hdisjoint, hne, hcheck⟩
    exact ⟨hne, haxes, hagree, hdisjoint, hne, hcheck⟩

end Integers

/-- Two datasets have the same dimensions and the same merged axis.  Each child has the same map and
the same variables in both, and what one of them gives for requests the other gives too, if the
requests are within its dimensions. -/
structure IsReordering [Machine] (children children' : List Child) (d d' : Dataset) : Prop where
  axis_eq : d.union.axis = d'.union.axis
  axes_eq : d.axes = d'.axes
  exists_map : ∀ (i j : Nat) (c : Child), children[i]? = some c → children'[j]? = some c →
    ∃ m, d.union.maps[i]? = some m ∧ d'.union.maps[j]? = some m
  owner_iff : ∀ (i j : Nat) (c : Child), children[i]? = some c → children'[j]? = some c →
    ∀ v, d.owner v = .ok i ↔ d'.owner v = .ok j
  exists_data : ∀ names requests answer, Request.AllValid d'.shape requests →
    (d.data names requests).result = .ok answer →
    ∃ answer', (d'.data names requests).result = .ok answer'
      ∧ List.Forall₂ (IsSamePart d.first.others) answer answer'

/-- A dataset gives the data of its variables for all requests within its dimensions for which there
is room. -/
def GivesData [Machine] (d : Dataset) : Prop :=
  ∀ names merged others, Request.AllValid d.shape (merged :: others) →
    (∀ v ∈ names, v ∈ d.variableNames ∧ v ∉ d.axes) →
    (∀ v ∈ names, ∀ c f, d.ownerOf v = .ok c → c.grid.field? v = some f →
      CanAnswer (merged :: others) f) →
    ∃ answer, (d.data names (merged :: others)).result = .ok answer

section Permutation

variable {children children' : List Child} (hperm : children.Perm children')
  (h : Child.AreComparable children) {type : ElementType} (htype : type.isInteger)

include h in
theorem Joins.givesData [Machine] {d : Dataset} {lists : List (List Int)}
    (hjoins : d.Joins children (lists.map (Block.ofInts type)))
    (hregular : ∀ c ∈ children, c.IsRegular) (hsorted : ∀ xs ∈ lists, xs.Pairwise (· < ·))
    {values : List Int} (haxis : d.union.axis = Block.ofInts type values)
    (hmaps : d.union.maps = lists.map (IndexMap.places values)) :
  d.GivesData
  := by
  intro names merged others hvalid hnames hanswer
  have hvariable : ∀ v ∈ names, ∃ b, (d.variableData v merged others).result = .ok b := by
    intro v hv
    obtain ⟨_, _, _, _, b, -, -, -, -, -, hb, -⟩ := hjoins.exists_join h.isBuilt hregular hsorted
      haxis hmaps hvalid (hnames v hv).1 (hanswer v hv)
    exact ⟨b, hb⟩
  choose! block hblock using hvariable
  obtain ⟨answer, hdata, -⟩ := hjoins.data_eq_ok h.isBuilt hregular hvalid
    (fun v hv => (hnames v hv).2) hblock
  exact ⟨answer, hdata⟩

include hperm h

theorem areComparable_of_perm :
  Child.AreComparable children'
  := by
  obtain ⟨hbuilt, htextual, htype, htrans⟩ := h
  have hmem : ∀ {c}, c ∈ children' → c ∈ children := hperm.mem_iff.mpr
  constructor
  · exact fun c hc => hbuilt c (hmem hc)
  · exact fun c hc => htextual c (hmem hc)
  · exact fun a ha b hb => htype a (hmem ha) b (hmem hb)
  · exact fun a ha b hb c hc => htrans a (hmem ha) b (hmem hb) c (hmem hc)

/-- Datasets over the same merged axis, in which each child has the same map, are reorderings. -/
theorem Joins.isReordering [Machine] {d d' : Dataset} {blocks blocks' : List Block}
    (hjoins : d.Joins children blocks) (hjoins' : d'.Joins children' blocks')
    (hagree : children.Pairwise Child.Agree) (hunion : d.union.axis = d'.union.axis)
    {map : Child → IndexMap} (hmaps : d.union.maps = children.map map)
    (hmaps' : d'.union.maps = children'.map map) :
  IsReordering children children' d d'
  := by
  constructor
  · exact hunion
  · exact hjoins.axes_eq_axes hjoins' hperm
  · intro i j c hi hj
    use map c
    simp [hmaps, hmaps', hi, hj]
  · intro i j c hi hj
    exact hjoins.owner_iff hjoins' hi hj
  · intro names requests answer hvalid hanswer
    exact hjoins.exists_data_of_perm hjoins' hperm h hagree hunion hmaps hmaps' hvalid hanswer

include htype

/-- Children over strictly ascending integers are put side by side in any order or in none, and the
data do not depend on the order. -/
theorem build_perm [Machine] (id title : Value)
    (hlines : ∀ c ∈ children,
      ∃ xs, c.mergeValues = .ok (Block.ofInts type xs) ∧ xs.Pairwise (· < ·)) :
  ((∃ d, (build id children title).result = .ok d) ↔ ∃ d, (build id children' title).result = .ok d)
    ∧ ∀ d d', (build id children title).result = .ok d → (build id children' title).result = .ok d' →
        IsReordering children children' d d'
          ∧ ((∀ c ∈ children, c.IsRegular) → d.shape = d'.shape ∧ d.GivesData)
  := by
  choose! xs hmerge hsorted using hlines
  have hsorted' : ∀ c ∈ children', (xs c).Pairwise (· < ·) :=
    fun c hc => hsorted c (hperm.mem_iff.mpr hc)
  have hblocks : children.mapM Child.mergeValues
      = .ok ((children.map xs).map (Block.ofInts type)) := by
    rw [List.map_map]
    exact mapM_eq_ok_map hmerge
  have hblocks' : children'.mapM Child.mergeValues
      = .ok ((children'.map xs).map (Block.ofInts type)) := by
    rw [List.map_map]
    exact mapM_eq_ok_map fun c hc => hmerge c (hperm.mem_iff.mpr hc)
  have hbuild := exists_build_ofInts_iff htype hsorted id title h hblocks
  have hbuild' :=
    exists_build_ofInts_iff htype hsorted' id title (areComparable_of_perm hperm h) hblocks'
  constructor
  · rw [hbuild, hbuild', hperm.pairwise_iff Child.Agree.symm,
      hperm.pairwise_iff fun hdisjoint => List.Disjoint.symm hdisjoint]
    simp only [hperm.mem_iff, ne_eq, ← List.length_eq_zero_iff, hperm.length_eq]
  · intro d d' hd hd'
    obtain ⟨-, hagree, -⟩ := hbuild.mp ⟨d, hd⟩
    obtain ⟨blocks, hjoins⟩ := joins_of_build hd
    obtain ⟨blocks', hjoins'⟩ := joins_of_build hd'
    obtain rfl := Except.ok.inj (hjoins.axes_eq.symm.trans hblocks)
    obtain rfl := Except.ok.inj (hjoins'.axes_eq.symm.trans hblocks')
    obtain ⟨haxis, hmaps⟩ := hjoins.union_eq_sortedUnion htype (by simpa using hsorted)
    obtain ⟨haxis', hmaps'⟩ := hjoins'.union_eq_sortedUnion htype (by simpa using hsorted')
    rw [← Axis.sortedUnion_perm (hperm.map xs)] at haxis' hmaps'
    rw [List.map_map] at hmaps hmaps'
    have hunion : d.union.axis = d'.union.axis := haxis.trans haxis'.symm
    constructor
    · exact hjoins.isReordering hperm h hjoins' hagree hunion hmaps hmaps'
    · intro hregular
      constructor
      · have htail := hjoins.tail_shape_eq hregular d'.first (hperm.mem_iff.mpr hjoins'.first_mem)
        simp only [shape, List.tail_cons, List.drop_one] at htail ⊢
        rw [htail, AxisUnion.size, hunion, AxisUnion.size]
      · apply hjoins.givesData h hregular (by simpa using hsorted) haxis
        rw [List.map_map]
        exact hmaps

end Permutation

/-- The two children in either order. -/
theorem build_perm_plates :
  ∃ d d', (build .null plates .null).result = .ok d
    ∧ (build .null plates.reverse .null).result = .ok d'
    ∧ IsReordering plates plates.reverse d d' ∧ d.shape = d'.shape ∧ d.GivesData
  := by
  have hlines : ∀ c ∈ plates,
      ∃ xs, c.mergeValues = .ok (Block.ofInts .int64 xs) ∧ xs.Pairwise (· < ·) := by
    intro c hc
    simp only [plates, List.mem_cons, List.not_mem_nil, or_false] at hc
    rcases hc with rfl | rfl
    · exact ⟨[1, 3], rfl, by decide⟩
    · exact ⟨[2], rfl, by decide⟩
  have hperm : plates.Perm plates.reverse := (List.reverse_perm plates).symm
  obtain ⟨d, hd⟩ : ∃ d, (build .null plates .null).result = .ok d := ⟨_, rfl⟩
  obtain ⟨hiff, hsame⟩ := build_perm hperm areComparable_plates rfl .null .null hlines
  obtain ⟨d', hd'⟩ := hiff.mp ⟨d, hd⟩
  obtain ⟨hreordering, hregular⟩ := hsame d d' hd hd'
  exact ⟨d, d', hd, hd', hreordering, hregular fun c => isRegular_of_mem_plates⟩

/-- A child with `n` positions along `x`, whose coordinate `x` lies along another dimension. -/
def unevenChild (name : String) (n : Nat) : Child :=
  smallChild (lineField "x" "y" [1, 2, 3])
    ⟨name, ["t", "x"], Block.replicate .int64 [1, n] (.int 7), [], []⟩ "t" ["x"]

/-- Two children that agree in the values of `x`, but not in the number of positions along it. -/
def unevenChildren : List Child := [unevenChild "v" 1, unevenChild "w" 2]

/-- What the children give in one order they refuse in the other. -/
theorem data_unevenChildren :
  Child.AreComparable unevenChildren
    ∧ (∀ c ∈ unevenChildren, c.mergeValues = .ok (Block.ofInts .int64 [0]))
    ∧ ∃ d d' answer failure, (build .null unevenChildren .null).result = .ok d
        ∧ (build .null unevenChildren.reverse .null).result = .ok d'
        ∧ Request.AllValid d'.shape [⟨0, 1, 0⟩, ⟨0, 1, 1⟩]
        ∧ (d'.data ["w"] [⟨0, 1, 0⟩, ⟨0, 1, 1⟩]).result = .ok answer
        ∧ (d.data ["w"] [⟨0, 1, 0⟩, ⟨0, 1, 1⟩]).result = .error failure
  := by
  have hboth : ∀ c ∈ unevenChildren, c = unevenChild "v" 1 ∨ c = unevenChild "w" 2 := by
    simp [unevenChildren]
  refine ⟨?_, ?_, _, _, _, _, rfl, rfl, by decide, rfl, rfl⟩
  · have hvalues : ∀ c ∈ unevenChildren, c.others = ["x"]
        ∧ c.grid.values "x" = .ok (Block.ofInts .int64 [1, 2, 3]) ∧ c.units "x" = .null := by
      intro c hc
      rcases hboth c hc with rfl | rfl
      · exact ⟨rfl, rfl, rfl⟩
      · exact ⟨rfl, rfl, rfl⟩
    apply Child.areComparable_of_ofInts _ rfl hvalues
    intro c hc
    rcases hboth c hc with rfl | rfl
    · exact ⟨⟨(unevenChild "v" 1).grid.coordinates, (unevenChild "v" 1).grid.quantities, [], rfl⟩,
        .null, rfl⟩
    · exact ⟨⟨(unevenChild "w" 2).grid.coordinates, (unevenChild "w" 2).grid.quantities, [], rfl⟩,
        .null, rfl⟩
  · intro c hc
    rcases hboth c hc with rfl | rfl
    · rfl
    · rfl

end Dataset

end GridUnion
