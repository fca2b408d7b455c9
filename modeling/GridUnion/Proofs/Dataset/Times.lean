import GridUnion.Proofs.Axis.Times
import GridUnion.Proofs.Dataset.Join
import GridUnion.Proofs.Dataset.Subset

/-!
# Times of datasets

Children may count the times of their merged axes in different units.  Rows of two children share a
merged position exactly if they hold the same instant, and an extract has the instants at the
requested positions.
-/

namespace GridUnion

namespace Child

variable {c : Child} (h : c.IsBuilt) {t : Timeline} (htimes : c.grid.values c.axis = .ok t.block)

include h htimes

/-- A child with times on its merged axis has them as a coordinate. -/
theorem IsBuilt.isTimeAxis :
  c.isTimeAxis
  := by
  simp only [Grid.values, Except.map] at htimes
  rcases hfield : c.grid.field? c.axis with _ | f
  · obtain ⟨n, hn⟩ := h.exists_size List.mem_cons_self
    simp only [Grid.fieldOrPositions, hfield, h.1.fits.size?_eq hn, Except.ok.injEq] at htimes
    have htype := congrArg Block.type htimes
    cases htype
  · rw [fieldOrPositions_eq_ok hfield] at htimes
    have hname : f.name = c.axis := by simpa using List.find?_some hfield
    have hmem : f ∈ c.grid.coordinates := by
      rcases List.mem_append.mp (List.mem_of_find?_eq_some hfield) with hf | hf
      · exact hf
      · exact absurd List.mem_cons_self (hname ▸ h.not_mem_axes (List.mem_map_of_mem hf))
    apply List.any_eq_true.mpr ⟨f, hmem, ?_⟩
    simp [hname, Except.ok.inj htimes, Timeline.block, Block.ofCounts, Block.ofList,
      ElementType.isInstant]

omit h in
/-- A child with times on its merged axis merges their nanoseconds. -/
theorem mergeValues_of_times :
  c.mergeValues = .ok (Block.ofInts .int64 t.nanoseconds)
  := by
  have hinstant : t.block.type.isInstant = true := rfl
  simp [mergeValues, htimes, hinstant, t.toNanoseconds_block]

end Child

/-! ### Rows of values -/

/-- A map that looks up places has a row at a position if the row has the value there. -/
theorem IndexMap.toList_places_eq_row_iff {values xs : List Int} (hxs : xs.Pairwise (· < ·))
    {p row : Nat} :
  (places values xs).toList[p]? = some (some (row : Int))
    ↔ ∃ v, values[p]? = some v ∧ xs[row]? = some v
  := by
  constructor
  · intro hrow
    obtain ⟨v, hv, hplace⟩ : ∃ v, values[p]? = some v
        ∧ (xs.idxOf? v).map Int.ofNat = some (row : Int) := by
      simpa [places] using hrow
    obtain ⟨k, hk, hcast⟩ := Option.map_eq_some_iff.mp hplace
    obtain rfl : k = row := Int.ofNat.inj hcast
    obtain ⟨hlt, heq, -⟩ := List.idxOf?_eq_some_iff.mp hk
    use v, hv
    rw [List.getElem?_eq_getElem hlt, heq]
  · rintro ⟨v, hv, hrow⟩
    rw [getElem?_toList_places hv, idxOf?_eq_some_of_pairwise hxs hrow]
    rfl

/-- Rows of two lists share a position exactly if they have the same value. -/
theorem IndexMap.exists_toList_places_iff {values xs ys : List Int} (hxs : xs.Pairwise (· < ·))
    (hys : ys.Pairwise (· < ·)) (hsub : ∀ v ∈ xs, v ∈ values) {i j : Nat} :
  (∃ p : Nat, (places values xs).toList[p]? = some (some (i : Int))
      ∧ (places values ys).toList[p]? = some (some (j : Int)))
    ↔ ∃ v, xs[i]? = some v ∧ ys[j]? = some v
  := by
  simp only [toList_places_eq_row_iff hxs, toList_places_eq_row_iff hys]
  constructor
  · rintro ⟨p, ⟨v, hv, hi⟩, w, hw, hj⟩
    obtain rfl := Option.some.inj (hv.symm.trans hw)
    exact ⟨v, hi, hj⟩
  · rintro ⟨v, hi, hj⟩
    obtain ⟨p, hp⟩ := List.mem_iff_getElem?.mp (hsub v (List.mem_of_getElem? hi))
    exact ⟨p, ⟨v, hp, hi⟩, v, hp, hj⟩

namespace Block

/-- What is selected of integers are the integers at the requested positions. -/
theorem HasValuesAt.exists_ofInts {b : Block} {type : ElementType} {values : List Int} {r : Request}
    (h : b.HasValuesAt (ofInts type values) r) (hvalid : r.Valid values.length) :
  ∃ ns, r.positions.map (values[·]?) = ns.map some ∧ b = ofInts type ns
  := by
  have hpositions : ∀ p ∈ r.positions, values[p]? = some (values.getD p 0) := by
    rw [Request.positions_eq_map, List.forall_mem_map]
    intro i hi
    have hlt := Request.position_lt hvalid (List.mem_range.mp hi)
    simp [hlt]
  have hline : (ofInts type values).shape = [values.length] := by simp [ofInts, ofList]
  obtain ⟨type', shape, data, hsize⟩ := b
  obtain rfl : type' = type := h.type_eq
  obtain rfl : shape = [r.length] := h.shape_eq
  obtain rfl : data = r.positions.map fun p => (values.map Element.int).getD p default :=
    h.data_eq hline
  use r.positions.map (values.getD · 0)
  constructor
  · rw [List.map_map]
    apply List.map_congr_left hpositions
  · have helements : r.positions.map (fun p => (values.map Element.int).getD p default)
        = r.positions.map (Element.int ∘ (values.getD · 0)) := by
      apply List.map_congr_left
      intro p hp
      obtain ⟨hlt, heq⟩ := List.getElem?_eq_some_iff.mp (hpositions p hp)
      simp [hlt]
    simp only [ofInts, ofList, List.map_map, List.length_map, Request.length_positions, helements]

end Block

namespace Dataset

/-! ### Times -/

/-- Times are matched by instant: the merged axis has the instants of all timelines in ascending order
of nanoseconds, and rows of two children share a position exactly if they hold the same instant. -/
structure MatchesTimes (d : Dataset) (times : List Timeline) (values : List Int) : Prop where
  axis_eq : d.union.axis = Block.ofInts .int64 values
  ascending : values.Pairwise (· < ·)
  mem_iff : ∀ n, n ∈ values ↔ ∃ t ∈ times, t.Has n
  length_maps : d.union.maps.length = times.length
  share_iff : ∀ p ∈ times.zip d.union.maps, ∀ q ∈ times.zip d.union.maps, ∀ i j : Nat,
    (∃ k : Nat, p.2.toList[k]? = some (some (i : Int)) ∧ q.2.toList[k]? = some (some (j : Int)))
      ↔ p.1.SameInstant q.1 i j

theorem MatchesTimes.size_eq {d : Dataset} {times : List Timeline} {values : List Int}
    (h : d.MatchesTimes times values) :
  d.union.size = values.length
  := by
  simp [AxisUnion.size, h.axis_eq, Block.ofInts, Block.ofList]

/-- A grid has the merged values at requested positions as times in nanoseconds along a dimension,
each an instant of a timeline. -/
def HasTimesAt (g : Grid) (dim : String) (times : List Timeline) (values : List Int) (r : Request) :
    Prop :=
  ∃ f ns, f ∈ g.coordinates ∧ g.field? dim = some f ∧ f.dims = [dim]
    ∧ f.block = Block.ofCounts .nano ns ∧ r.positions.map (values[·]?) = ns.map some
    ∧ ∀ n ∈ ns, ∃ t ∈ times, t.Has n

/-- An extract of variables at requested positions can be made: the children are regular, the values
of the dimensions that are not merged can be kept, and the variables can answer. -/
structure CanExtract [Machine] (d : Dataset) (names : List String) (requests : List Request) :
    Prop where
  isRegular : ∀ c ∈ d.children, c.IsRegular
  exists_kept : ∀ dim ∈ d.first.others, ∀ line, d.axisValues dim = .ok line →
    ∃ kept, line.kept = .ok kept
  mem_names : ∀ v ∈ names, v ∈ d.variableNames
  canAnswer : ∀ v ∈ names, ∀ c f, d.ownerOf v = .ok c → c.grid.field? v = some f →
    CanAnswer requests f

section Times

variable {d : Dataset} {children : List Child} {times : List Timeline}
  (h : d.Joins children ((times.map Timeline.nanoseconds).map (Block.ofInts .int64)))

include h

/-- The merged nanoseconds match the times. -/
theorem Joins.matchesTimes :
  d.MatchesTimes times (Axis.sortedUnion (times.map Timeline.nanoseconds))
  := by
  have hsorted := Timeline.pairwise_of_mem_map times
  obtain ⟨haxis, hmaps⟩ := h.union_eq_sortedUnion rfl hsorted
  set values := Axis.sortedUnion (times.map Timeline.nanoseconds) with hvalues
  have hmem : ∀ n, n ∈ values ↔ ∃ t ∈ times, t.Has n := by
    intro n
    simp [hvalues, Axis.mem_sortedUnion, Timeline.has_iff]
  have hplaces : ∀ t m, (t, m) ∈ times.zip d.union.maps →
      t ∈ times ∧ m = IndexMap.places values t.nanoseconds := by
    rw [hmaps, List.map_map, ← List.map_prod_left_eq_zip]
    intro t m hp
    obtain ⟨u, hu, heq⟩ := List.mem_map.mp hp
    obtain ⟨rfl, rfl⟩ := Prod.mk.inj heq
    exact ⟨hu, rfl⟩
  constructor
  · exact haxis
  · exact Axis.pairwise_sortedUnion _
  · exact hmem
  · simp [hmaps]
  · rintro ⟨t, m⟩ hp ⟨u, m'⟩ hq i j
    obtain ⟨ht, rfl⟩ := hplaces t m hp
    obtain ⟨-, rfl⟩ := hplaces u m' hq
    have hsub : ∀ v ∈ t.nanoseconds, v ∈ values := fun v hv =>
      (hmem v).mpr ⟨t, ht, Timeline.has_iff.mpr hv⟩
    rw [Timeline.sameInstant_iff]
    exact IndexMap.exists_toList_places_iff t.pairwise_nanoseconds u.pairwise_nanoseconds hsub

variable (hbuilt : ∀ c ∈ children, c.IsBuilt)
  (htimes : children.mapM (fun c => c.grid.values c.axis) = .ok (times.map Timeline.block))

include hbuilt htimes

omit h hbuilt in
/-- Children with times merge their nanoseconds. -/
theorem mapM_mergeValues_of_times :
  children.mapM Child.mergeValues
    = .ok ((times.map Timeline.nanoseconds).map (Block.ofInts .int64))
  := by
  rw [mapM_eq_ok_iff, List.forall₂_map_right_iff] at htimes
  rw [List.map_map, mapM_eq_ok_iff, List.forall₂_map_right_iff]
  exact htimes.imp fun _ _ => Child.mergeValues_of_times

theorem Joins.isTimeAxis :
  d.first.isTimeAxis
  := by
  obtain ⟨b, hb, hvalues⟩ := exists_mem_of_mapM htimes h.first_mem
  obtain ⟨t, -, rfl⟩ := List.mem_map.mp hb
  exact (hbuilt d.first h.first_mem).isTimeAxis hvalues

/-- The merged values at requested positions become times again. -/
theorem Joins.exists_coordinate_times {values : List Int} (hmatches : d.MatchesTimes times values)
    {r : Request} (hvalid : r.Valid d.union.size) {b : Block} (hb : b.HasValuesAt d.union.axis r) :
  ∃ ns, r.positions.map (values[·]?) = ns.map some ∧ (∀ n ∈ ns, ∃ t ∈ times, t.Has n)
    ∧ d.coordinate d.first.axis b = .ok ⟨d.first.axis, [d.first.axis], Block.ofCounts .nano ns,
        d.axisAttributes d.first.axis, []⟩
  := by
  obtain ⟨ns, hns, rfl⟩ := (hmatches.axis_eq ▸ hb).exists_ofInts (hmatches.size_eq ▸ hvalid)
  have hhas : ∀ n ∈ ns, ∃ t ∈ times, t.Has n := by
    intro n hn
    obtain ⟨p, -, hp⟩ := List.mem_map.mp (hns ▸ List.mem_map_of_mem hn)
    exact (hmatches.mem_iff n).mp (List.mem_of_getElem? hp)
  have hwords : ∀ n ∈ ns, Count.IsNanoseconds n := by
    intro n hn
    obtain ⟨t, -, ht⟩ := hhas n hn
    exact t.isNanoseconds_nanoseconds n (Timeline.has_iff.mp ht)
  use ns, hns, hhas
  have htime := h.isTimeAxis hbuilt htimes
  simp [coordinate, htime, Times.ofNanoseconds_ofInts hwords, Times.kept_ofCounts]

/-- An extract has the merged times at the requested positions. -/
theorem Joins.hasTimesAt_of_subset [Machine] {values : List Int}
    (hmatches : d.MatchesTimes times values) (hothers : d.first.axis ∉ d.first.others)
    {merged : Request} {others : List Request}
    (hvalid : Request.AllValid d.shape (merged :: others)) {names : List String} {g : Grid}
    (hsubset : (d.subset names (merged :: others)).result = .ok g) :
  HasTimesAt g d.first.axis times values merged
  := by
  obtain ⟨answer, f, hdata, hf, hmem, hfield⟩ := exists_coordinate_of_subset hsubset hothers
  have hnames : d.first.axis ∉ names := by
    intro hname
    obtain ⟨-, -, _, -, hvariables⟩ := data_eq_ok_iff.mp hdata
    obtain ⟨k, hk⟩ := exists_owner_of_variablesData hvariables _ hname
    exact h.not_mem_axes hbuilt hk List.mem_cons_self
  obtain ⟨b, hb, hlookup⟩ := lookup_axis_of_data hdata hothers hnames
  obtain ⟨hmerged, -⟩ := List.forall₂_cons.mp hvalid
  have hselect := axisData_eq_select d.axisValues_axis h.shape_axis hmerged
  obtain rfl := Except.ok.inj (hb.symm.trans hselect)
  have hb : (d.union.axis.select [merged.positions]).HasValuesAt d.union.axis merged :=
    Block.hasValuesAt_select (by rw [h.shape_axis]; rfl)
  obtain ⟨ns, hns, hhas, hcoordinate⟩ := h.exists_coordinate_times hbuilt htimes hmatches hmerged hb
  rw [hlookup, Option.getD_some, hcoordinate] at hf
  obtain rfl := Except.ok.inj hf
  exact ⟨_, ns, hmem, hfield, rfl, rfl, hns, hhas⟩

/-- Each dimension of requested data can be a coordinate of an extract. -/
theorem Joins.exists_coordinate_of_hasValuesAt [Machine] {values : List Int}
    (hmatches : d.MatchesTimes times values) {names : List String} {requests : List Request}
    (hvalid : Request.AllValid d.shape requests) (hextract : d.CanExtract names requests)
    {p : String × Request} (hp : p ∈ d.axes.zip requests) {line b : Block}
    (hline : d.axisValues p.1 = .ok line) (hb : b.HasValuesAt line p.2) :
  ∃ f, d.coordinate p.1 b = .ok f ∧ f.block.shape = [p.2.length]
  := by
  obtain ⟨values, n, hvalues, hshape, hr⟩ := h.exists_axisValues hbuilt
    (h.children_eq ▸ hextract.isRegular) hvalid p hp
  obtain rfl := Except.ok.inj (hline.symm.trans hvalues)
  obtain ⟨dim, r⟩ := p
  by_cases hdim : dim = d.first.axis
  · obtain rfl := hdim
    obtain rfl := Except.ok.inj (d.axisValues_axis.symm.trans hline)
    obtain rfl : d.union.size = n := List.singleton_inj.mp (h.shape_axis.symm.trans hshape)
    obtain ⟨ns, hns, -, hcoordinate⟩ :=
      h.exists_coordinate_times hbuilt htimes hmatches hr hb
    have hcount : ns.length = r.length := by
      simpa using (congrArg List.length hns).symm
    exact ⟨_, hcoordinate, by simp [Block.ofCounts, Block.ofList, hcount]⟩
  · have hother : dim ∈ d.first.others := (List.mem_cons.mp (List.of_mem_zip hp).1).resolve_left hdim
    obtain ⟨kept, hkept⟩ := hextract.exists_kept dim hother line hline
    obtain ⟨block, hblock, hblockshape⟩ := hb.exists_kept hshape hr hkept
    refine ⟨⟨dim, [dim], block, d.axisAttributes dim, []⟩, ?_, hblockshape⟩
    simp [coordinate, hdim, hblock]

end Times

/-- An extract can be made of a dataset over times. -/
theorem Joins.exists_subset [Machine] {d : Dataset} {children : List Child} {times : List Timeline}
    (h : d.Joins children ((times.map Timeline.nanoseconds).map (Block.ofInts .int64)))
    (hbuilt : ∀ c ∈ children, c.IsBuilt)
    (htimes : children.mapM (fun c => c.grid.values c.axis) = .ok (times.map Timeline.block))
    {merged : Request} {others : List Request}
    (hvalid : Request.AllValid d.shape (merged :: others)) {names : List String}
    (hextract : d.CanExtract names (merged :: others)) :
  ∃ g, (d.subset names (merged :: others)).result = .ok g
  := by
  have hregular : ∀ c ∈ children, c.IsRegular := h.children_eq ▸ hextract.isRegular
  have hsorted := Timeline.pairwise_of_mem_map times
  obtain ⟨haxis, hmaps⟩ := h.union_eq_sortedUnion rfl hsorted
  have happart : ∀ v ∈ names, v ∉ d.axes := by
    intro v hv
    obtain ⟨k, c, hk, -⟩ := h.exists_owner (hextract.mem_names v hv)
    exact h.not_mem_axes hbuilt hk
  have hvariable : ∀ v ∈ names, ∃ b, (d.variableData v merged others).result = .ok b
      ∧ b.shape = (merged :: others).map Request.length := by
    intro v hv
    obtain ⟨c, f, xs, blank, b, -, -, -, -, -, hb, hjoin⟩ := h.exists_join hbuilt hregular hsorted
      haxis hmaps hvalid (hextract.mem_names v hv) (hextract.canAnswer v hv)
    exact ⟨b, hb, hjoin.shape_eq⟩
  choose! block hblock hshape using hvariable
  obtain ⟨answer, hdata, -, hlines, hcubes⟩ := h.data_eq_ok hbuilt hregular hvalid happart hblock
  apply exists_subset_of_data hdata (d.length_axes.trans hvalid.length_eq)
    (hregular d.first h.first_mem).nodup
  · intro p hp
    obtain ⟨line, b, hline, hlookup, hb⟩ := hlines p hp
    rw [hlookup, Option.getD_some]
    exact h.exists_coordinate_of_hasValuesAt hbuilt htimes h.matchesTimes hvalid hextract hp hline hb
  · intro v hv
    use happart v hv
    use h.exists_variableAttributes (hextract.mem_names v hv)
    rw [hcubes v hv, Option.getD_some, hshape v hv]

/-- Times are matched and returned exactly: the merged axis has the instants of all children in
ascending order, rows share a position exactly if they hold the same instant, and every extract at
requested positions has their instants as times in nanoseconds. -/
theorem times_exact [Machine] {id title : Value} {children : List Child} {d : Dataset}
    (h : (build id children title).result = .ok d) (hbuilt : ∀ c ∈ children, c.IsBuilt)
    {times : List Timeline}
    (htimes : children.mapM (fun c => c.grid.values c.axis) = .ok (times.map Timeline.block)) :
  ∃ values, d.MatchesTimes times values
    ∧ ∀ merged others, Request.AllValid d.shape (merged :: others) → ∀ names,
        (d.first.axis ∉ d.first.others → ∀ g, (d.subset names (merged :: others)).result = .ok g →
          HasTimesAt g d.first.axis times values merged)
        ∧ (d.CanExtract names (merged :: others) →
          ∃ g, (d.subset names (merged :: others)).result = .ok g)
  := by
  obtain ⟨blocks, hjoins⟩ := joins_of_build h
  obtain rfl := Except.ok.inj (hjoins.axes_eq.symm.trans (mapM_mergeValues_of_times htimes))
  use Axis.sortedUnion (times.map Timeline.nanoseconds), hjoins.matchesTimes
  intro merged others hvalid names
  constructor
  · intro hothers g hsubset
    exact hjoins.hasTimesAt_of_subset hbuilt htimes hjoins.matchesTimes hothers hvalid hsubset
  · intro hextract
    exact hjoins.exists_subset hbuilt htimes hvalid hextract

/-! ### Small children with times -/

/-- Seconds 1 and 2. -/
def twoSeconds : Timeline := ⟨.second, [1, 2], by decide, by decide, by decide⟩

/-- Milliseconds 1500 and 2000. -/
def twoMillis : Timeline := ⟨.milli, [1500, 2000], by decide, by decide, by decide⟩

/-- A child of a line of values over times. -/
def timeChild (t : Timeline) (name : String) (xs : List Int) : Child :=
  smallChild ⟨"t", ["t"], t.block, [], []⟩ (lineField name "t" xs) "t" []

theorem isBuilt_timeChild {t : Timeline} {name : String} {xs : List Int}
    (h : Grid.ofFields [⟨"t", ["t"], t.block, [], []⟩] [lineField name "t" xs] []
      = .ok (timeChild t name xs).grid) :
  (timeChild t name xs).IsBuilt
  := ⟨⟨_, _, _, h⟩, .null, rfl⟩

theorem isRegular_timeChild {t : Timeline} {name : String} {xs : List Int}
    (h : (timeChild t name xs).grid.size? "t" = some t.counts.length) :
  (timeChild t name xs).IsRegular
  := isRegular_smallChild h (by simp [Timeline.block, Block.ofCounts, Block.ofList])

/-- Children that share the instant after two seconds, side by side. -/
def twoClocks : Dataset where
  id := .null
  first := timeChild twoSeconds "v" [10, 20]
  rest := [timeChild twoMillis "w" [15, 22]]
  owners := [("v", 0), ("w", 1)]
  union := ⟨[2, 2], Block.ofInts .int64 [1000000000, 1500000000, 2000000000],
    [IndexMap.ofRows [some 0, none, some 1], IndexMap.ofRows [none, some 0, some 1]]⟩
  title := .null
  warnings := []

/-- The extract of a variable at the last two instants of children with seconds and milliseconds. -/
theorem times_exact_twoClocks :
  ∃ values g, (build .null twoClocks.children .null).result = .ok twoClocks
    ∧ twoClocks.MatchesTimes [twoSeconds, twoMillis] values
    ∧ (twoClocks.subset ["v"] [⟨1, 1, 2⟩]).result = .ok g
    ∧ HasTimesAt g "t" [twoSeconds, twoMillis] values ⟨1, 1, 2⟩
  := by
  have htimes : twoClocks.children.mapM (fun c => c.grid.values c.axis)
      = .ok ([twoSeconds, twoMillis].map Timeline.block) := rfl
  have hbuild : (build .null twoClocks.children .null).result = .ok twoClocks := by
    have hmerge : twoClocks.children.mapM Child.mergeValues
        = .ok ([[1000000000, 2000000000], [1500000000, 2000000000]].map (Block.ofInts .int64)) :=
      mapM_mergeValues_of_times htimes
    exact build_eq_ok_iff.mpr ⟨_, _, _, _, _, _, rfl, rfl, rfl, hmerge, rfl, rfl, rfl⟩
  have hbuilt : ∀ c ∈ twoClocks.children, c.IsBuilt := by
    intro c hc
    simp only [children, twoClocks, List.mem_cons, List.not_mem_nil, or_false] at hc
    rcases hc with rfl | rfl
    · exact isBuilt_timeChild rfl
    · exact isBuilt_timeChild rfl
  have hregular : ∀ c ∈ twoClocks.children, c.IsRegular := by
    intro c hc
    simp only [children, twoClocks, List.mem_cons, List.not_mem_nil, or_false] at hc
    rcases hc with rfl | rfl
    · exact isRegular_timeChild rfl
    · exact isRegular_timeChild rfl
  have hextract : twoClocks.CanExtract ["v"] [⟨1, 1, 2⟩] := by
    constructor
    · exact hregular
    · intro dim hdim
      cases hdim
    · decide
    · intro v hv c f hc hf
      obtain rfl := List.mem_singleton.mp hv
      obtain rfl := Except.ok.inj hc
      obtain rfl := Option.some.inj hf
      exact ⟨rfl, ⟨.int (2 ^ 63 - 1), rfl⟩, by constructor <;> decide⟩
  obtain ⟨values, hmatches, hsubset⟩ := times_exact hbuild hbuilt htimes
  obtain ⟨hexact, hexists⟩ := hsubset ⟨1, 1, 2⟩ [] (by decide) ["v"]
  obtain ⟨g, hg⟩ := hexists hextract
  exact ⟨values, g, hbuild, hmatches, hg, hexact (by decide) g hg⟩

/-- Nanoseconds 1, 2 and 3. -/
def threeNanos : Timeline := ⟨.nano, [1, 2, 3], by decide, by decide, by decide⟩

/-- A child whose variable has the dimension of times twice. -/
def repeatedTimes : Child :=
  smallChild ⟨"t", ["t"], threeNanos.block, [], []⟩
    ⟨"v", ["t", "t"], ⟨.int64, [3, 3], List.replicate 9 (.int 0), rfl⟩, [], []⟩ "t" ["t"]

/-- A child with more times than positions along their dimension. -/
def foreignTimes : Child :=
  smallChild ⟨"t", ["y"], threeNanos.block, [], []⟩ (lineField "v" "t" [1, 2]) "t" []

/-- An extract has other times than the requested ones if a child has the dimension of times twice, and
may fail if a child has more times than positions. -/
theorem subset_irregularTimes :
  (∃ d g, repeatedTimes.IsBuilt ∧ repeatedTimes.grid.values "t" = .ok threeNanos.block
    ∧ (build .null [repeatedTimes] .null).result = .ok d
    ∧ Request.AllValid d.shape [⟨0, 1, 0⟩, ⟨0, 1, 1⟩]
    ∧ (d.subset [] [⟨0, 1, 0⟩, ⟨0, 1, 1⟩]).result = .ok g
    ∧ ∀ values, ¬ HasTimesAt g "t" [threeNanos] values ⟨0, 1, 0⟩)
  ∧ ∃ d failure, foreignTimes.IsBuilt ∧ foreignTimes.grid.values "t" = .ok threeNanos.block
    ∧ (build .null [foreignTimes] .null).result = .ok d
    ∧ Request.AllValid d.shape [⟨0, 1, 2⟩] ∧ "v" ∈ d.variableNames
    ∧ (d.subset ["v"] [⟨0, 1, 2⟩]).result = .error failure ∧ failure.kind = .inconsistency
  := by
  constructor
  · let f : Field := ⟨"t", ["t"], Block.ofCounts .nano [1, 2], [], []⟩
    have hbuilt : repeatedTimes.IsBuilt :=
      ⟨⟨repeatedTimes.grid.coordinates, repeatedTimes.grid.quantities, [], rfl⟩, .null, rfl⟩
    refine ⟨_, ⟨[f], [], []⟩, hbuilt, rfl, rfl, by decide, rfl, ?_⟩
    rintro values ⟨_, ns, -, hf, -, hblock, hns, -⟩
    obtain rfl := Option.some.inj hf
    have hhas : 2 = ns.length := by
      simpa [f, Block.ofCounts, Block.ofList] using congrArg Block.shape hblock
    have hrequested : (⟨0, 1, 0⟩ : Request).length = ns.length := by
      simpa using congrArg List.length hns
    exact absurd (hhas.trans hrequested.symm) (by decide)
  · refine ⟨_, _, ?_, rfl, rfl, by decide, by decide, rfl, rfl⟩
    exact ⟨⟨foreignTimes.grid.coordinates, foreignTimes.grid.quantities, [], rfl⟩, .null, rfl⟩

end Dataset

end GridUnion
