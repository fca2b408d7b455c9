import GridUnion.Proofs.Axis.Empty
import GridUnion.Proofs.Axis.Numbers
import GridUnion.Proofs.Element.Level

/-!
# Integers and doubles on axes

A merge of integers and doubles compares the values of the axes, and stores them as doubles.  Different
integers may be stored as the same double, and an empty axis of doubles is enough for that.  Hence the
merged axis never descends, but it ascends strictly, with the same number behind all rows of each of
its positions, only as long as no two different numbers are stored as the same one.
-/

namespace GridUnion

open Element (SameNumber storedIn levelIn)

/-- A line of signed integers or of doubles that ascends strictly, without values that are not
numbers. -/
structure Block.IsProperLine (b : Block) : Prop where
  isNumberLine : b.IsNumberLine
  isSignedOrDouble : b.type.isSignedOrDouble
  nan_not_mem : .real .nan ∉ b.data
  ascending : b.scalars.Pairwise fun s t => s.lt t

instance (b : Block) : Decidable b.IsProperLine :=
  decidable_of_iff
    (b.IsNumberLine ∧ b.type.isSignedOrDouble ∧ .real .nan ∉ b.data
      ∧ b.scalars.Pairwise fun s t => s.lt t)
    ⟨fun ⟨hnum, htype, hnan, hascending⟩ => ⟨hnum, htype, hnan, hascending⟩,
      fun h => ⟨h.isNumberLine, h.isSignedOrDouble, h.nan_not_mem, h.ascending⟩⟩

namespace Axis

/-- The values of all axes. -/
def allValues (axes : List Block) : List Scalar := axes.flatMap Block.scalars

/-- Different numbers of the axes are stored as different numbers. -/
def StoresApart (type : ElementType) (axes : List Block) : Prop :=
  ∀ v ∈ allValues axes, ∀ w ∈ allValues axes, ∀ d e, v.store type = .ok d → w.store type = .ok e →
    d.SameNumber e → v.element.SameNumber w.element

/-- Rows of children that share a position have the same number. -/
def MatchesNumbers (axes : List Block) (maps : List IndexMap) : Prop :=
  ∀ p ∈ axes.zip maps, ∀ q ∈ axes.zip maps, ∀ k r s : Nat,
    p.2.toList[k]? = some (some (r : Int)) → q.2.toList[k]? = some (some (s : Int)) →
      ∀ d e, p.1.data[r]? = some d → q.1.data[s]? = some e → d.SameNumber e

/-! ### The values of the axes -/

theorem mem_allValues_of_mem_rest {axes : List Block} {c : Cursor Scalar} (hc : c ∈ cursors axes)
    {v : Scalar} (hv : v ∈ c.rest) :
  v ∈ allValues axes
  := List.mem_flatMap.mpr (exists_of_mem_cursors hc hv)

theorem pairwise_rest {axes : List Block} {R : Scalar → Scalar → Prop}
    (h : ∀ b ∈ axes, b.scalars.Pairwise R) :
  ∀ c ∈ cursors axes, c.rest.Pairwise R
  := by
  rw [cursors, List.forall_mem_map]
  intro b hb
  exact (h b hb).sublist List.filter_sublist

section Lines

variable {axes : List Block} (hlines : ∀ b ∈ axes, b.IsProperLine)

include hlines

theorem scalars_eq_map {b : Block} (hb : b ∈ axes) :
  b.scalars = b.data.map fun e => ⟨b.type, e⟩
  := by
  apply List.map_congr_left
  intro e he
  exact Element.ofCell_of_isNumberOf ((hlines b hb).isNumberLine.isNumberOf e he)

theorem exists_of_mem_allValues {v : Scalar} (hv : v ∈ allValues axes) :
  v.IsProper ∧ ∃ b ∈ axes, v.type = b.type ∧ v.element ∈ b.data
  := by
  obtain ⟨b, hb, hv⟩ := List.mem_flatMap.mp hv
  rw [scalars_eq_map hlines hb] at hv
  obtain ⟨e, he, rfl⟩ := List.mem_map.mp hv
  have hline := hlines b hb
  refine ⟨?_, b, hb, rfl, he⟩
  apply Scalar.isProper_of_isNumberOf hline.isSignedOrDouble (hline.isNumberLine.isNumberOf e he)
  rintro rfl
  exact hline.nan_not_mem he

theorem getElem?_values {i : Nat} {a : Block} (ha : axes[i]? = some a) (r : Nat) :
  (values a)[r]? = a.data[r]?.map fun d => ⟨a.type, d⟩
  := by
  have hmem := List.mem_of_getElem? ha
  have hvalues : values a = a.scalars := by
    apply List.filter_eq_self.mpr
    intro v hv
    obtain ⟨hproper, -⟩ := exists_of_mem_allValues hlines (List.mem_flatMap.mpr ⟨a, hmem, hv⟩)
    cases hproper with
    | int | real => rfl
  rw [hvalues, scalars_eq_map hlines hmem, List.getElem?_map]

/-- The common type of lines of signed integers and doubles can store all their values, and it is the
doubles exactly if these are among them. -/
theorem common_of_isProperLine (hne : axes ≠ []) {t : ElementType} (h : commonType axes = .ok t) :
  (t = .double ↔ ∃ b ∈ axes, b.type = .double) ∧ t.isSignedOrDouble
    ∧ ∀ v ∈ allValues axes, v.IsStorable t
  := by
  have htypes : ∀ t ∈ axes.map Block.type, t.isSignedOrDouble := by
    rw [List.forall_mem_map]
    exact fun b hb => (hlines b hb).isSignedOrDouble
  have hcommon : ElementType.commonOf (axes.map Block.type) = .ok t := by
    cases hof : ElementType.commonOf (axes.map Block.type) with
    | error fault => simp [commonType, hof, Except.mapError] at h
    | ok u => simpa [commonType, hof, Except.mapError] using h
  obtain ⟨ht, hadmits, hdouble⟩ :=
    ElementType.commonOf_eq_double_iff (by simpa using hne) htypes hcommon
  rw [List.forall_mem_map] at hadmits
  rw [List.mem_map] at hdouble
  refine ⟨hdouble, ht, ?_⟩
  intro v hv
  obtain ⟨hproper, b, hb, htype, -⟩ := exists_of_mem_allValues hlines hv
  exact ⟨ht, hproper, htype ▸ hadmits b hb⟩

end Lines

/-! ### Levels of the values -/

section Levels

variable {axes : List Block} {t : ElementType} (hvalues : ∀ v ∈ allValues axes, v.IsStorable t)

include hvalues

/-- Comparisons of the values do not contradict the levels at which they are stored. -/
theorem follows_levelIn :
  Follows Scalar.lt (· ∈ allValues axes) fun v => v.element.levelIn t
  := by
  constructor
  · intro v w hv hw h
    exact Scalar.levelIn_le_of_lt (hvalues v hv) (hvalues w hw) h
  · intro v w hv hw h
    exact Scalar.levelIn_le_of_not_lt (hvalues v hv) (hvalues w hw) h

/-- Numbers are stored apart exactly if different ones have different levels. -/
theorem storesApart_iff :
  StoresApart t axes ↔ ∀ v ∈ allValues axes, ∀ w ∈ allValues axes,
    v.element.levelIn t = w.element.levelIn t → v.element.SameNumber w.element
  := by
  apply forall₂_congr
  intro v hv
  apply forall₂_congr
  intro w hw
  have hsame := Scalar.sameNumber_storedIn_iff (hvalues v hv).isProper (hvalues w hw).isProper t
  rw [Scalar.store_eq_ok (hvalues v hv), Scalar.store_eq_ok (hvalues w hw), ← hsame]
  simp

/-- Numbers that are stored as they are are stored apart. -/
theorem storesApart_of_sameNumber
    (hsame : ∀ v ∈ allValues axes, v.element.SameNumber (v.element.storedIn t)) :
  StoresApart t axes
  := by
  have hexact : ∀ v ∈ allValues axes, v.element.exactly.level = v.element.levelIn t := by
    intro v hv
    have hproper := (hvalues v hv).isProper
    exact (Double.equals_iff_level_eq (Scalar.exactly_ne_nan hproper)
      (Scalar.exactly_storedIn_ne_nan hproper t)).mp (hsame v hv)
  rw [storesApart_iff hvalues]
  intro v hv w hw hlevel
  apply (Scalar.sameNumber_iff (hvalues v hv).isProper (hvalues w hw).isProper).mpr
  rw [hexact v hv, hexact w hw, hlevel]

section Apart

variable (hapart : StoresApart t axes)

include hapart

/-- Numbers that are stored apart are equal exactly if they have the same level. -/
theorem equals_iff_levelIn_eq {v w : Scalar} (hv : v ∈ allValues axes) (hw : w ∈ allValues axes) :
  v.equals w ↔ v.element.levelIn t = w.element.levelIn t
  := by
  constructor
  · exact Scalar.levelIn_eq_of_equals (hvalues v hv) (hvalues w hw)
  · intro hlevel
    have hsame := (storesApart_iff hvalues).mp hapart v hv w hw hlevel
    exact Scalar.equals_of_sameNumber (hvalues v hv) (hvalues w hw) hlevel hsame

/-- The levels of numbers that ascend and are stored apart ascend. -/
theorem pairwise_scalars_levelIn_lt
    (hascending : ∀ b ∈ axes, b.scalars.Pairwise fun v w => v.lt w) :
  ∀ b ∈ axes, b.scalars.Pairwise fun v w => v.element.levelIn t < w.element.levelIn t
  := by
  intro b hb
  have hmem : ∀ v ∈ b.scalars, v ∈ allValues axes := fun v hv => List.mem_flatMap.mpr ⟨b, hb, hv⟩
  apply (hascending b hb).imp_of_mem
  intro v w hv hw hlt
  apply (Scalar.levelIn_le_of_lt (hvalues v (hmem v hv)) (hvalues w (hmem w hw)) hlt).lt_of_ne
  rw [ne_eq, ← equals_iff_levelIn_eq hvalues hapart (hmem v hv) (hmem w hw)]
  exact Scalar.not_equals_of_lt (hvalues v (hmem v hv)) (hvalues w (hmem w hw)) hlt

end Apart

end Levels

/-! ### Runs through integers and doubles -/

section Run

variable {axes : List Block} {ps : List (Position Scalar)}
  (hrun : Merges Scalar.lt Scalar.equals (cursors axes) ps)

include hrun

theorem value_mem_allValues {p : Position Scalar} (hp : p ∈ ps) :
  p.value ∈ allValues axes
  := by
  obtain ⟨c, hc, hv⟩ := hrun.exists_mem_rest p hp
  exact mem_allValues_of_mem_rest hc hv

section Positions

variable {t : ElementType} (hvalues : ∀ v ∈ allValues axes, v.IsStorable t)

include hvalues

/-- The levels at which values are stored do not descend. -/
theorem pairwise_levelIn_le (hascending : ∀ b ∈ axes, b.scalars.Pairwise fun v w => v.lt w) :
  ps.Pairwise fun p q => p.value.element.levelIn t ≤ q.value.element.levelIn t
  := by
  have hfollows := follows_levelIn hvalues
  have hsorted : ∀ b ∈ axes, b.scalars.Pairwise fun v w =>
      v.element.levelIn t ≤ w.element.levelIn t := by
    intro b hb
    have hmem : ∀ v ∈ b.scalars, v ∈ allValues axes := fun v hv => List.mem_flatMap.mpr ⟨b, hb, hv⟩
    apply (hascending b hb).imp_of_mem
    intro v w hv hw hlt
    exact hfollows.le_of_lt (hmem v hv) (hmem w hw) hlt
  have hpairwise := hfollows.pairwise_le hrun (fun c hc v hv => mem_allValues_of_mem_rest hc hv)
    (pairwise_rest hsorted)
  rwa [List.pairwise_map] at hpairwise

/-- The levels at which values are stored ascend if different numbers are stored apart. -/
theorem pairwise_levelIn_lt (hascending : ∀ b ∈ axes, b.scalars.Pairwise fun v w => v.lt w)
    (hapart : StoresApart t axes) :
  ps.Pairwise fun p q => p.value.element.levelIn t < q.value.element.levelIn t
  := by
  have hsorted := pairwise_scalars_levelIn_lt hvalues hapart hascending
  have hpairwise := (follows_levelIn hvalues).pairwise_lt hrun
    (fun c hc v hv => mem_allValues_of_mem_rest hc hv)
    (fun hv hw hlevel => (equals_iff_levelIn_eq hvalues hapart hw hv).mpr hlevel.symm)
    (pairwise_rest hsorted)
  rwa [List.pairwise_map] at hpairwise

/-- What is stored of the positions. -/
theorem eq_map_storedIn {data : List Element}
    (hdata : ps.mapM (fun p => p.value.store t) = .ok data) :
  data = ps.map fun p => p.value.element.storedIn t
  := by
  have hstore := mapM_eq_ok_map fun p (hp : p ∈ ps) =>
    Scalar.store_eq_ok (hvalues _ (value_mem_allValues hrun hp))
  exact Except.ok.inj (hdata.symm.trans hstore)

theorem scalars_ofList_storedIn :
  (Block.ofList t (ps.map fun p => p.value.element.storedIn t)).scalars
    = ps.map fun p => ⟨t, p.value.element.storedIn t⟩
  := by
  simp only [Block.scalars, Block.ofList, List.map_map]
  apply List.map_congr_left
  intro p hp
  exact Scalar.ofCell_storedIn (hvalues _ (value_mem_allValues hrun hp)).isProper t

end Positions

/-! ### Rows of the same number -/

section Rows

variable (hlines : ∀ b ∈ axes, b.IsProperLine)

include hlines

/-- The row of a child at a position is that of a value that is equal to the position's own. -/
theorem equals_value_of_row {i : Nat} {a : Block} (ha : axes[i]? = some a) {p : Position Scalar}
    (hp : p ∈ ps) {r : Nat} (hrow : p.rows.getD i none = some r) {d : Element}
    (hd : a.data[r]? = some d) :
  Scalar.equals ⟨a.type, d⟩ p.value
  := by
  have hcursor : (cursors axes)[i]? = some ⟨0, values a⟩ := by simp [cursors, ha]
  obtain ⟨k, v, hk, hv, hequal⟩ := hrun.exists_value_of_row hp hcursor hrow
  obtain rfl : r = k := by simpa using hk
  simp only [getElem?_values hlines ha, hd, Option.map_some, Option.some.injEq] at hv
  rwa [hv]

/-- Each value has a row at the position of a value that is equal to it. -/
theorem exists_row_of_mem_allValues {v : Scalar} (hv : v ∈ allValues axes) :
  ∃ (i : Nat) (a : Block) (r : Nat), ∃ p ∈ ps, axes[i]? = some a ∧ p.rows.getD i none = some r
    ∧ a.data[r]? = some v.element ∧ Scalar.equals v p.value
  := by
  obtain ⟨hproper, a, ha, htype, hmem⟩ := exists_of_mem_allValues hlines hv
  obtain ⟨i, hi⟩ := List.mem_iff_getElem?.mp ha
  obtain ⟨r, hr⟩ := List.mem_iff_getElem?.mp hmem
  have hcursor : (cursors axes)[i]? = some ⟨0, values a⟩ := by simp [cursors, hi]
  have hvalue : (values a)[r]? = some v := by
    rw [getElem?_values hlines hi, hr, Option.map_some, ← htype]
  obtain ⟨p, hp, hrow, hequal⟩ := hrun.exists_position hcursor hvalue
  exact ⟨i, a, r, p, hp, hi, by simpa using hrow, hr, hequal⟩

variable {t : ElementType} (hvalues : ∀ v ∈ allValues axes, v.IsStorable t)

include hvalues

/-- Rows of one position are of the same number if different numbers are stored apart. -/
theorem matchesNumbers_of_storesApart (hapart : StoresApart t axes) :
  MatchesNumbers axes ((List.range axes.length).map (mapOf ps))
  := by
  have hlevel : ∀ {i : Nat} {a : Block}, axes[i]? = some a → ∀ {p}, p ∈ ps → ∀ {r : Nat},
      p.rows.getD i none = some r → ∀ {d}, a.data[r]? = some d →
      ⟨a.type, d⟩ ∈ allValues axes ∧ d.levelIn t = p.value.element.levelIn t := by
    intro i a ha p hp r hrow d hd
    have hmem : (⟨a.type, d⟩ : Scalar) ∈ allValues axes := by
      apply List.mem_flatMap.mpr ⟨a, List.mem_of_getElem? ha, ?_⟩
      rw [scalars_eq_map hlines (List.mem_of_getElem? ha)]
      exact List.mem_map_of_mem (List.mem_of_getElem? hd)
    use hmem
    exact Scalar.levelIn_eq_of_equals (hvalues _ hmem) (hvalues _ (value_mem_allValues hrun hp))
      (equals_value_of_row hrun hlines ha hp hrow hd)
  rintro ⟨a, m⟩ ham ⟨b, n⟩ hbn k r s hr hs d e hd he
  obtain ⟨i, ha, rfl⟩ := mem_zip_mapOf_iff.mp ham
  obtain ⟨j, hb, rfl⟩ := mem_zip_mapOf_iff.mp hbn
  obtain ⟨p, hp, hr⟩ := getElem?_toList_mapOf_iff.mp hr
  obtain ⟨q, hq, hs⟩ := getElem?_toList_mapOf_iff.mp hs
  obtain rfl := Option.some.inj (hp.symm.trans hq)
  have hp := List.mem_of_getElem? hp
  obtain ⟨hmemd, hleveld⟩ := hlevel ha hp hr hd
  obtain ⟨hmeme, hlevele⟩ := hlevel hb hp hs he
  exact (storesApart_iff hvalues).mp hapart _ hmemd _ hmeme (hleveld.trans hlevele.symm)

/-- Different numbers are stored apart if the levels of positions ascend and rows of one position are of
the same number. -/
theorem storesApart_of_matchesNumbers
    (hascending : ps.Pairwise fun p q => p.value.element.levelIn t < q.value.element.levelIn t)
    (hmatches : MatchesNumbers axes ((List.range axes.length).map (mapOf ps))) :
  StoresApart t axes
  := by
  rw [storesApart_iff hvalues]
  intro v hv w hw hlevel
  obtain ⟨i, a, r, p, hp, ha, hr, hd, hvp⟩ := exists_row_of_mem_allValues hrun hlines hv
  obtain ⟨j, b, s, q, hq, hb, hs, he, hwq⟩ := exists_row_of_mem_allValues hrun hlines hw
  have hpv := Scalar.levelIn_eq_of_equals (hvalues v hv) (hvalues _ (value_mem_allValues hrun hp)) hvp
  have hqw := Scalar.levelIn_eq_of_equals (hvalues w hw) (hvalues _ (value_mem_allValues hrun hq)) hwq
  have hnodup : (ps.map fun p => p.value.element.levelIn t).Nodup :=
    List.pairwise_map.mpr (hascending.imp ne_of_lt)
  obtain rfl : p = q :=
    List.inj_on_of_nodup_map hnodup hp hq (hpv.symm.trans (hlevel.trans hqw))
  obtain ⟨k, hk⟩ := List.mem_iff_getElem?.mp hp
  exact hmatches _ (mem_zip_mapOf_iff.mpr ⟨i, ha, rfl⟩) _ (mem_zip_mapOf_iff.mpr ⟨j, hb, rfl⟩) k r s
    (getElem?_toList_mapOf_iff.mpr ⟨p, hk, hr⟩) (getElem?_toList_mapOf_iff.mpr ⟨p, hk, hs⟩) _ _ hd he

end Rows

end Run

/-! ### Merges of integers and doubles -/

section Merge

variable {axes : List Block} {merged : Block} {maps : List IndexMap}
  (hlines : ∀ b ∈ axes, b.IsProperLine) (h : merge axes = .ok (merged, maps))

include hlines h

/-- The merged type of signed integers and doubles. -/
theorem type_merged :
  (merged.type = .double ↔ ∃ b ∈ axes, b.type = .double)
    ∧ ∀ v ∈ allValues axes, v.IsStorable merged.type
  := by
  obtain ⟨hne, -, type, ps, data, hcommon, -, -, -, rfl, -⟩ := merge_eq_ok_iff.mp h
  obtain ⟨hdouble, -, hvalues⟩ := common_of_isProperLine hlines hne hcommon
  exact ⟨hdouble, hvalues⟩

/-- What a merge of signed integers and doubles stores. -/
theorem exists_run_of_isProperLine :
  ∃ ps, Merges Scalar.lt Scalar.equals (cursors axes) ps
    ∧ merged.scalars = ps.map (fun p => ⟨merged.type, p.value.element.storedIn merged.type⟩)
    ∧ maps = (List.range axes.length).map (mapOf ps)
  := by
  obtain ⟨-, hvalues⟩ := type_merged hlines h
  obtain ⟨-, -, type, ps, data, -, -, hps, hdata, rfl, rfl⟩ := merge_eq_ok_iff.mp h
  have hvalues : ∀ v ∈ allValues axes, v.IsStorable type := hvalues
  have hrun := (positions_eq_ok_iff.mp hps).1
  obtain rfl := eq_map_storedIn hrun hvalues hdata
  exact ⟨ps, hrun, scalars_ofList_storedIn hrun hvalues, rfl⟩

/-- The merged axis does not descend. -/
theorem not_descending_of_isProperLine :
  merged.scalars.Pairwise fun v w => ¬ w.lt v
  := by
  obtain ⟨-, hvalues⟩ := type_merged hlines h
  obtain ⟨ps, hrun, hscalars, -⟩ := exists_run_of_isProperLine hlines h
  rw [hscalars, List.pairwise_map]
  have hle := pairwise_levelIn_le hrun hvalues fun b hb => (hlines b hb).ascending
  apply hle.imp_of_mem
  intro p q hp hq hle
  rw [Scalar.lt_storedIn_iff (hvalues _ (value_mem_allValues hrun hq))
    (hvalues _ (value_mem_allValues hrun hp))]
  exact not_lt.mpr hle

/-- The merged axis ascends strictly, and rows of one position are of the same number, exactly if
different numbers of the axes are stored apart. -/
theorem ascending_and_matchesNumbers_iff :
  (merged.scalars.Pairwise (fun v w => v.lt w) ∧ MatchesNumbers axes maps)
    ↔ StoresApart merged.type axes
  := by
  obtain ⟨-, hvalues⟩ := type_merged hlines h
  obtain ⟨ps, hrun, hscalars, rfl⟩ := exists_run_of_isProperLine hlines h
  have hascending : merged.scalars.Pairwise (fun v w => v.lt w)
      ↔ ps.Pairwise fun p q => p.value.element.levelIn merged.type
          < q.value.element.levelIn merged.type := by
    rw [hscalars, List.pairwise_map]
    apply List.Pairwise.iff_of_mem
    intro p q hp hq
    exact Scalar.lt_storedIn_iff (hvalues _ (value_mem_allValues hrun hp))
      (hvalues _ (value_mem_allValues hrun hq))
  rw [hascending]
  constructor
  · rintro ⟨hlt, hmatches⟩
    exact storesApart_of_matchesNumbers hrun hlines hvalues hlt hmatches
  · intro hapart
    constructor
    · exact pairwise_levelIn_lt hrun hvalues (fun b hb => (hlines b hb).ascending) hapart
    · exact matchesNumbers_of_storesApart hrun hlines hvalues hapart

/-- Different numbers are stored apart if there are no axes of doubles, or all integers are doubles. -/
theorem storesApart_of_isDouble
    (hexact : (∀ b ∈ axes, b.type ≠ .double) ∨ ∀ b ∈ axes, ∀ e ∈ b.data, e.IsDouble) :
  StoresApart merged.type axes
  := by
  obtain ⟨hdouble, hvalues⟩ := type_merged hlines h
  apply storesApart_of_sameNumber hvalues
  intro v hv
  apply (Scalar.sameNumber_self_storedIn_iff (hvalues v hv).isProper _).mpr
  intro htype
  rcases hexact with hnone | hall
  · obtain ⟨b, hb, hdouble⟩ := hdouble.mp htype
    exact absurd hdouble (hnone b hb)
  · obtain ⟨-, b, hb, -, hmem⟩ := exists_of_mem_allValues hlines hv
    exact hall b hb v.element hmem

/-! ### Empty axes of integers or doubles -/

omit hlines h in
theorem isProperLine_empty {t : ElementType} (ht : t.isSignedOrDouble) :
  (Block.ofList t []).IsProperLine
  := by
  refine ⟨⟨rfl, ElementType.isNumeric_of_isSignedOrDouble ht, ?_⟩, ht, ?_, List.Pairwise.nil⟩
  · simp [Block.ofList]
  · simp [Block.ofList]

section Empty

variable {t : ElementType} (ht : t.isSignedOrDouble) {i : Nat} (hi : i ≤ axes.length)

include ht hi

omit h in
theorem isProperLine_of_mem_insertIdx :
  ∀ b ∈ axes.insertIdx i (Block.ofList t []), b.IsProperLine
  := by
  intro b hb
  rcases (List.mem_insertIdx hi).mp hb with rfl | hb
  · exact isProperLine_empty ht
  · exact hlines b hb

/-- An empty axis among others that are merged is merged with them. -/
theorem exists_merge_insertIdx :
  ∃ union, merge (axes.insertIdx i (Block.ofList t [])) = .ok union
  := by
  have hcheck : checkAll 0 (axes.insertIdx i (Block.ofList t [])) = .ok () := by
    have haxes := (checkAll_eq_ok_iff_check 0).mp (merge_eq_ok_iff.mp h).2.1
    apply (checkAll_eq_ok_iff_check 0).mpr
    intro b hb
    rcases (List.mem_insertIdx hi).mp hb with rfl | hb
    · apply (check_eq_ok_iff (isProperLine_empty ht).isNumberLine 0).mpr
      simp [Block.ofList]
    · exact haxes b hb
  have hlines' := isProperLine_of_mem_insertIdx hlines ht hi
  exact exists_merge_of_checkAll (fun b hb => (hlines' b hb).isNumberLine)
    (List.ne_nil_of_mem ((List.mem_insertIdx hi).mpr (.inl rfl))) hcheck

/-- An empty axis of integers or doubles among others leaves their maps as they are.  It leaves the
merged numbers as they are unless it turns integers into other doubles. -/
theorem exists_merge_insertIdx_empty :
  ∃ merged', merge (axes.insertIdx i (Block.ofList t []))
      = .ok (merged', maps.insertIdx i (absentMap merged.data.length))
    ∧ (List.Forall₂ SameNumber merged.data merged'.data
      ↔ (t = .double → ∀ e ∈ merged.data, e.IsDouble))
  := by
  obtain ⟨⟨merged', maps'⟩, h'⟩ := exists_merge_insertIdx hlines h ht hi
  obtain ⟨ps, hrun, hdata, hdata', rfl⟩ := exists_positions_insertIdx rfl hi h h'
  refine ⟨merged', h', ?_⟩
  obtain ⟨hdouble, hvalues⟩ := type_merged hlines h
  obtain ⟨hdouble', hvalues'⟩ := type_merged (isProperLine_of_mem_insertIdx hlines ht hi) h'
  have hvalues' : ∀ v ∈ allValues axes, v.IsStorable merged'.type := by
    intro v hv
    obtain ⟨b, hb, hv⟩ := List.mem_flatMap.mp hv
    exact hvalues' v (List.mem_flatMap.mpr ⟨b, (List.mem_insertIdx hi).mpr (.inr hb), hv⟩)
  have htype : merged'.type = .double ↔ t = .double ∨ merged.type = .double := by
    simp only [hdouble', hdouble, List.mem_insertIdx hi, exists_eq_or_imp]
    rfl
  have hproper : ∀ p ∈ ps, p.value.IsProper := fun p hp =>
    (hvalues _ (value_mem_allValues hrun hp)).isProper
  rw [eq_map_storedIn hrun hvalues hdata, eq_map_storedIn hrun hvalues' hdata',
    List.forall₂_map_left_iff, List.forall₂_map_right_iff, List.forall₂_same, List.forall_mem_map]
  by_cases hreal : merged.type = .double
  · -- The numbers are doubles before and after.
    rw [hreal, htype.mpr (.inr hreal)]
    apply iff_of_true
    · intro p hp
      exact (Scalar.sameNumber_storedIn_iff (hproper p hp) (hproper p hp) _).mpr rfl
    · intro _ p hp
      exact Scalar.isDouble_storedIn (hproper p hp)
  · have hbecomes : merged'.type = .double ↔ t = .double := htype.trans (or_iff_left hreal)
    simp only [Element.storedIn_of_ne hreal]
    rw [forall₂_congr fun p hp => Scalar.sameNumber_self_storedIn_iff (hproper p hp) merged'.type]
    constructor
    · intro h hdouble p hp
      exact h p hp (hbecomes.mpr hdouble)
    · intro h p hp hdouble
      exact h (hbecomes.mp hdouble) p hp

end Empty

/-- A merge of signed integers and doubles does not descend.  It ascends strictly, with the same number
behind all rows of a position, exactly if different numbers of the axes are stored apart; so they are
without axes of doubles, or if all integers are doubles.  An empty axis among the others leaves their
maps as they are, and the merged numbers unless it turns integers into other doubles. -/
theorem merge_mixed_numbers :
  (merged.scalars.Pairwise fun v w => ¬ w.lt v)
    ∧ ((merged.scalars.Pairwise (fun v w => v.lt w) ∧ MatchesNumbers axes maps)
      ↔ StoresApart merged.type axes)
    ∧ (((∀ b ∈ axes, b.type ≠ .double) ∨ ∀ b ∈ axes, ∀ e ∈ b.data, e.IsDouble) →
        StoresApart merged.type axes)
    ∧ ∀ t : ElementType, t.isSignedOrDouble → ∀ i ≤ axes.length,
        ∃ merged', merge (axes.insertIdx i (Block.ofList t []))
            = .ok (merged', maps.insertIdx i (absentMap merged.data.length))
          ∧ (List.Forall₂ SameNumber merged.data merged'.data
            ↔ (t = .double → ∀ e ∈ merged.data, e.IsDouble))
  := by
  refine ⟨not_descending_of_isProperLine hlines h, ascending_and_matchesNumbers_iff hlines h,
    storesApart_of_isDouble hlines h, ?_⟩
  intro t ht i hi
  exact exists_merge_insertIdx_empty hlines h ht hi

end Merge

/-- Integers of two sizes and doubles, small enough to be doubles, and nothing of them is lost. -/
theorem merge_mixed_numbers_small :
  let axes := [Block.ofInts .int64 [1, 3], Block.ofInts (.signed .w32) [2],
    Block.ofList .double [.real (Double.ofInt 2)]]
  (∀ b ∈ axes, b.IsProperLine)
    ∧ ∃ merged maps, merge axes = .ok (merged, maps)
      ∧ merged.scalars.Pairwise (fun v w => v.lt w) ∧ MatchesNumbers axes maps
  := by
  intro axes
  have hlines : ∀ b ∈ axes, b.IsProperLine := by
    decide +kernel
  obtain ⟨⟨merged, maps⟩, hmerge⟩ := exists_merge_of_checkAll
    (fun b hb => (hlines b hb).isNumberLine) (List.cons_ne_nil _ _) (eq_ok_of_toOption (by decide +kernel))
  obtain ⟨-, hiff, hexact, -⟩ := merge_mixed_numbers hlines hmerge
  exact ⟨hlines, merged, maps, hmerge, hiff.mpr (hexact (.inr (by decide +kernel)))⟩

/-- Two integers that are far out become the same double next to an empty axis of doubles. -/
theorem not_ascending_next_to_empty :
  let ints := Block.ofInts .int64 [9007199254740992, 9007199254740993]
  let merged := Block.ofList .double [.real (Double.ofInt 9007199254740992),
    .real (Double.ofInt 9007199254740992)]
  (∀ b ∈ [ints, Block.ofList .double []], b.IsProperLine)
    ∧ (∃ maps, merge [ints] = .ok (ints, maps))
    ∧ (∃ maps, merge [ints, Block.ofList .double []] = .ok (merged, maps))
    ∧ ¬ merged.scalars.Pairwise (fun v w => v.lt w)
    ∧ ¬ List.Forall₂ SameNumber ints.data merged.data
  := by
  intro ints merged
  have hmerge : (merge [ints, Block.ofList .double []]).toOption
      = some (merged, [IndexMap.ofRows [some 0, some 1], IndexMap.ofRows [none, none]]) := by
    decide +kernel
  refine ⟨by decide +kernel, ⟨_, rfl⟩, ⟨_, eq_ok_of_toOption hmerge⟩, ?_, ?_⟩
  · decide +kernel
  · decide +kernel

end Axis

end GridUnion
