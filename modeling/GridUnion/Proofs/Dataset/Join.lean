import GridUnion.Proofs.Axis.Integers
import GridUnion.Proofs.Dataset.Data

/-!
# Data as a join by axis values

Over merged axes of integers that ascend strictly, the data of a variable are joined to the merged
axis by value: at the position of a value stand the elements in the row that has this value on the
owner's own axis, or the variable's blank if no row has it.
-/

namespace GridUnion

/-- The first place of a value in a strictly ascending list is its only one. -/
theorem idxOf?_eq_some_of_pairwise {xs : List Int} (hxs : xs.Pairwise (· < ·)) {row : Nat} {v : Int}
    (hrow : xs[row]? = some v) :
  xs.idxOf? v = some row
  := by
  obtain ⟨hlt, heq⟩ := List.getElem?_eq_some_iff.mp hrow
  apply List.idxOf?_eq_some_iff.mpr
  use hlt, heq
  intro j hj heq'
  have hlt' := List.pairwise_iff_getElem.mp hxs j row (by omega) hlt hj
  simp_all

namespace Block

/-- The places of an index in lists of requested positions are these positions. -/
theorem through_positions {requests : List Request} {ix : List Nat}
    (h : IsIndex (requests.map Request.length) ix) :
  through (requests.map Request.positions) ix = List.zipWith Request.position requests ix
  := by
  induction requests generalizing ix with
  | nil =>
    cases h
    rfl
  | cons r requests ih =>
    cases h with
    | cons hi hix => simp [through, Request.positions_eq_map, hi, ih hix]

/-- A block joins a field to merged values by the field's own values: it has a row of the field for
every requested value that the field's axis has, and blanks for the others. -/
structure IsJoin (b field : Block) (values xs : List Int) (blank : Element) (merged : Request)
    (others : List Request) : Prop where
  type_eq : b.type = field.type
  shape_eq : b.shape = (merged :: others).map Request.length
  get_eq : ∀ i < merged.length, ∃ v, values[merged.position i]? = some v
    ∧ ∀ ix, IsIndex (others.map Request.length) ix →
      (∀ row, xs[row]? = some v →
        b.get (i :: ix) = field.get (row :: List.zipWith Request.position others ix))
      ∧ (v ∉ xs → b.get (i :: ix) = blank)

theorem isJoin_stack {field : Block} {values xs : List Int} {blank : Element} {merged : Request}
    {others : List Request} (hxs : xs.Pairwise (· < ·)) (hvalid : merged.Valid values.length) :
  (stack field.type (others.map Request.length) (Child.cellOf field others blank)
      (merged.rows (IndexMap.places values xs))).IsJoin field values xs blank merged others
  := by
  have hvalid' : merged.Valid (IndexMap.places values xs).size := by simpa [IndexMap.places] using hvalid
  constructor
  · rfl
  · simp [stack]
  · intro i hi
    have hlt := Request.position_lt hvalid hi
    use values[merged.position i], List.getElem?_eq_getElem hlt
    intro ix hix
    have hrow := Request.getElem?_rows hvalid' hi
    rw [IndexMap.getElem?_toList_places (List.getElem?_eq_getElem hlt)] at hrow
    rw [get_stack hrow hix]
    constructor
    · intro row hrow
      rw [idxOf?_eq_some_of_pairwise hxs hrow]
      simp [Child.cellOf, through_positions hix]
    · intro hnone
      rw [List.idxOf?_eq_none_iff.mpr hnone]
      rfl

end Block

namespace Dataset

/-- What stands for missing data in a field is a scalar that can be stored, and there is room for
the values at requested positions. -/
structure CanAnswer [Machine] (requests : List Request) (f : Field) : Prop where
  isScalar : (Child.fillOf f).scalar?.isSome
  exists_blank : ∃ blank, (Child.fillOf f).store f.block.type = .ok blank
  hasRoom : Fetch.HasRoom f.block.type (requests.map Request.length)

/-- The values of a variable are joined to the merged values if the maps look up places. -/
theorem Joins.exists_join [Machine] {d : Dataset} {children : List Child} {type : ElementType}
    {lists : List (List Int)} (h : d.Joins children (lists.map (Block.ofInts type)))
    (hbuilt : ∀ c ∈ children, c.IsBuilt) (hregular : ∀ c ∈ children, c.IsRegular)
    (hsorted : ∀ xs ∈ lists, xs.Pairwise (· < ·)) {values : List Int}
    (haxis : d.union.axis = Block.ofInts type values)
    (hmaps : d.union.maps = lists.map (IndexMap.places values)) {merged : Request}
    {others : List Request}
    (hvalid : Request.AllValid d.shape (merged :: others)) {v : String}
    (hv : v ∈ d.variableNames)
    (hanswer : ∀ c f, d.ownerOf v = .ok c → c.grid.field? v = some f →
      CanAnswer (merged :: others) f) :
  ∃ c f xs blank b, d.ownerOf v = .ok c ∧ c.grid.field? v = some f
    ∧ c.mergeValues = .ok (Block.ofInts type xs) ∧ d.fill v = .ok (Child.fillOf f)
    ∧ (Child.fillOf f).store f.block.type = .ok blank
    ∧ (d.variableData v merged others).result = .ok b
    ∧ b.IsJoin f.block values xs blank merged others
  := by
  obtain ⟨k, c, hk, hc, hvc⟩ := h.exists_owner hv
  obtain ⟨f, hf, hdims, hshape⟩ := (hbuilt c (List.mem_of_getElem? hc)).exists_field hvc
  obtain ⟨b, hb, hmerge⟩ := h.getElem?_blocks hc
  obtain ⟨xs, hxs, rfl⟩ : ∃ xs, lists[k]? = some xs ∧ Block.ofInts type xs = b := by
    simpa using hb
  have hm : d.union.maps[k]? = some (IndexMap.places values xs) := by
    simp [hmaps, hxs]
  have howner : d.ownerOf v = .ok c := by
    simp [ownerOf, hk, h.children_eq, hc]
  obtain ⟨hscalar, ⟨blank, hblank⟩, hroom⟩ := hanswer c f howner hf
  have hdata := h.variableData_eq_stack hk hc hm hf hdims hshape hregular
    (fun _ => ⟨hscalar, hblank⟩) hvalid hroom
  have hmerged : merged.Valid values.length := by
    obtain ⟨hmerged, -⟩ := List.forall₂_cons.mp hvalid
    simpa [AxisUnion.size, haxis, Block.ofInts, Block.ofList] using hmerged
  have hfill : d.fill v = .ok (Child.fillOf f) := by
    simp [fill, howner, Child.fill_eq_ok hf]
  exact ⟨c, f, xs, blank, _, howner, hf, hmerge, hfill, hblank, hdata,
    Block.isJoin_stack (hsorted xs (List.mem_of_getElem? hxs)) hmerged⟩

/-- Over strictly ascending integers the merged axis is their sorted union, and the maps look up
places. -/
theorem Joins.union_eq_sortedUnion {d : Dataset} {children : List Child} {type : ElementType}
    {lists : List (List Int)} (h : d.Joins children (lists.map (Block.ofInts type)))
    (htype : type.isInteger) (hsorted : ∀ xs ∈ lists, xs.Pairwise (· < ·)) :
  d.union.axis = Block.ofInts type (Axis.sortedUnion lists)
    ∧ d.union.maps = lists.map (IndexMap.places (Axis.sortedUnion lists))
  := by
  obtain ⟨hne, hcheck, -⟩ := Axis.merge_eq_ok_iff.mp h.union_eq
  have hmerge := Axis.merge_ofInts htype (by simpa using hne) hsorted hcheck
  exact Prod.mk.inj (Except.ok.inj (h.union_eq.symm.trans hmerge))

/-- The data of a dataset over strictly ascending integers are joined by axis values. -/
theorem data_eq_join [Machine] {id title : Value} {children : List Child} {d : Dataset}
    (h : (build id children title).result = .ok d) (hbuilt : ∀ c ∈ children, c.IsBuilt)
    (hregular : ∀ c ∈ children, c.IsRegular) {type : ElementType} (htype : type.isInteger)
    {lists : List (List Int)}
    (hlists : children.mapM Child.mergeValues = .ok (lists.map (Block.ofInts type)))
    (hsorted : ∀ xs ∈ lists, xs.Pairwise (· < ·)) {merged : Request} {others : List Request}
    (hvalid : Request.AllValid d.shape (merged :: others))
    {names : List String} (hnames : ∀ v ∈ names, v ∈ d.variableNames ∧ v ∉ d.axes)
    (hanswer : ∀ v ∈ names, ∀ c f, d.ownerOf v = .ok c → c.grid.field? v = some f →
      CanAnswer (merged :: others) f) :
  ∃ values data, d.union.axis = Block.ofInts type values
    ∧ (d.data names (merged :: others)).result = .ok data
    ∧ (∀ key, (data.lookup key).isSome ↔ key ∈ d.axes ∨ key ∈ names)
    ∧ (∀ p ∈ d.axes.zip (merged :: others), ∃ line b, d.axisValues p.1 = .ok line
        ∧ data.lookup p.1 = some b ∧ b.HasValuesAt line p.2)
    ∧ ∀ v ∈ names, ∃ c f xs blank b, d.ownerOf v = .ok c ∧ c.grid.field? v = some f
        ∧ c.mergeValues = .ok (Block.ofInts type xs) ∧ d.fill v = .ok (Child.fillOf f)
        ∧ (Child.fillOf f).store f.block.type = .ok blank
        ∧ data.lookup v = some b ∧ b.IsJoin f.block values xs blank merged others
  := by
  obtain ⟨blocks, hjoins⟩ := joins_of_build h
  obtain rfl := Except.ok.inj (hjoins.axes_eq.symm.trans hlists)
  obtain ⟨hne, hcheck, -⟩ := Axis.merge_eq_ok_iff.mp hjoins.union_eq
  have hmerge := Axis.merge_ofInts htype (by simpa using hne) hsorted hcheck
  obtain ⟨haxis, hmaps⟩ := Prod.mk.inj (Except.ok.inj (hjoins.union_eq.symm.trans hmerge))
  have hvariable : ∀ v ∈ names, _ := fun v hv =>
    hjoins.exists_join hbuilt hregular hsorted haxis hmaps hvalid (hnames v hv).1 (hanswer v hv)
  choose! c f xs blank block howner hfield hxs hfill hstore hblock hjoin using hvariable
  obtain ⟨data, hdata, hkeys, haxes, hvariables⟩ := hjoins.data_eq_ok hbuilt hregular hvalid
    (fun v hv => (hnames v hv).2) hblock
  use Axis.sortedUnion lists, data, haxis, hdata, hkeys, haxes
  intro v hv
  use c v, f v, xs v, blank v, block v, howner v hv, hfield v hv, hxs v hv, hfill v hv, hstore v hv,
    hvariables v hv
  exact hjoin v hv

/-! ### Small children -/

/-- A field of integers along one dimension. -/
def lineField (name dim : String) (xs : List Int) : Field :=
  ⟨name, [dim], Block.ofInts .int64 xs, [], []⟩

/-- A child of one coordinate and one data variable. -/
def smallChild (coordinate quantity : Field) (axis : String) (others : List String) : Child :=
  ⟨⟨[coordinate], [quantity], []⟩, .null, .null, axis, others, .memory 0⟩

/-- A child of a line of values over a merged axis `t`. -/
def lineChild (ts : List Int) (name : String) (xs : List Int) : Child :=
  smallChild (lineField "t" "t" ts) (lineField name "t" xs) "t" []

/-- Two children that share the value 3, side by side. -/
def overlapping : Dataset where
  id := .null
  first := lineChild [1, 3] "v" [10, 30]
  rest := [lineChild [2, 3] "w" [20, 33]]
  owners := [("v", 0), ("w", 1)]
  union := ⟨[2, 2], Block.ofInts .int64 [1, 2, 3],
    [IndexMap.ofRows [some 0, none, some 1], IndexMap.ofRows [none, some 0, some 1]]⟩
  title := .null
  warnings := []

/-- A child of one dimension is regular if its coordinate has a value for each position. -/
theorem isRegular_smallChild {coordinate quantity : Field} {n : Nat}
    (hsize : (smallChild coordinate quantity coordinate.name []).grid.size? coordinate.name = some n)
    (hshape : coordinate.block.shape = [n]) :
  (smallChild coordinate quantity coordinate.name []).IsRegular
  := by
  constructor
  · exact List.nodup_singleton coordinate.name
  · intro dim hdim b hb
    obtain rfl : dim = coordinate.name := List.mem_singleton.mp hdim
    have hvalues : coordinate.block = b := by
      simpa [smallChild, Grid.values, Grid.fieldOrPositions, Grid.field?, Grid.fields, Except.map]
        using hb
    rw [← hvalues, hshape, hsize, Option.getD_some]

theorem isRegular_lineChild {ts : List Int} {name : String} {xs : List Int}
    (h : (lineChild ts name xs).grid.size? "t" = some ts.length) :
  (lineChild ts name xs).IsRegular
  := isRegular_smallChild h (by simp [lineField, Block.ofInts, Block.ofList])

/-- The data of the second child at the first and the last merged value. -/
theorem data_eq_join_overlapping :
  ∃ values data, (build .null overlapping.children .null).result = .ok overlapping
    ∧ overlapping.union.axis = Block.ofInts .int64 values
    ∧ (overlapping.data ["w"] [⟨0, 2, 2⟩]).result = .ok data
  := by
  have hbuild : (build .null overlapping.children .null).result = .ok overlapping := rfl
  have hbuilt : ∀ c ∈ overlapping.children, c.IsBuilt := by
    intro c hc
    simp only [children, overlapping, List.mem_cons, List.not_mem_nil, or_false] at hc
    rcases hc with rfl | rfl
    · exact ⟨⟨[lineField "t" "t" [1, 3]], [lineField "v" "t" [10, 30]], [], rfl⟩, .null, rfl⟩
    · exact ⟨⟨[lineField "t" "t" [2, 3]], [lineField "w" "t" [20, 33]], [], rfl⟩, .null, rfl⟩
  have hregular : ∀ c ∈ overlapping.children, c.IsRegular := by
    intro c hc
    simp only [children, overlapping, List.mem_cons, List.not_mem_nil, or_false] at hc
    rcases hc with rfl | rfl
    · exact isRegular_lineChild rfl
    · exact isRegular_lineChild rfl
  have hlists : overlapping.children.mapM Child.mergeValues
      = .ok ([[1, 3], [2, 3]].map (Block.ofInts .int64)) := rfl
  have hvalid : Request.AllValid overlapping.shape (⟨0, 2, 2⟩ :: []) := by
    decide
  have hnames : ∀ v ∈ ["w"], v ∈ overlapping.variableNames ∧ v ∉ overlapping.axes := by
    decide
  have hanswer : ∀ v ∈ ["w"], ∀ c f, overlapping.ownerOf v = .ok c → c.grid.field? v = some f →
      CanAnswer [⟨0, 2, 2⟩] f := by
    intro v hv c f hc hf
    obtain rfl := List.mem_singleton.mp hv
    obtain rfl : lineChild [2, 3] "w" [20, 33] = c := Except.ok.inj hc
    obtain rfl : lineField "w" "t" [20, 33] = f := Option.some.inj hf
    constructor
    · rfl
    · exact ⟨.int (2 ^ 63 - 1), rfl⟩
    · constructor <;> decide
  obtain ⟨values, data, haxis, hdata, -⟩ := data_eq_join hbuild hbuilt hregular rfl hlists
    (by decide) hvalid hnames hanswer
  exact ⟨values, data, hbuild, haxis, hdata⟩

/-- A child whose variable has a dimension twice. -/
def repeatedDim : Child :=
  smallChild (lineField "x" "x" [1, 2])
    ⟨"v", ["x", "x"], ⟨.int64, [2, 2], [.int 1, .int 2, .int 3, .int 4], rfl⟩, [], []⟩ "x" ["x"]

/-- A child with more values of its dimension than positions along it. -/
def foreignCoordinate : Child :=
  smallChild (lineField "x" "y" [1, 2, 3]) (lineField "v" "x" [1, 2]) "x" []

/-- The data of the variable `v` of a single child fail, although the child merges the given strictly
ascending integers and the requests are within its dimensions. -/
def FailsAlone [Machine] (c : Child) (xs : List Int) (requests : List Request) : Prop :=
  c.IsBuilt ∧ c.mergeValues = .ok (Block.ofInts .int64 xs) ∧ xs.Pairwise (· < ·)
    ∧ ∃ d failure, (build .null [c] .null).result = .ok d ∧ "v" ∈ d.variableNames ∧ "v" ∉ d.axes
      ∧ Request.AllValid d.shape requests ∧ (d.data ["v"] requests).result = .error failure
      ∧ failure.kind = .inconsistency

/-- The data of children that are not regular cannot be read by values. -/
theorem failsAlone_irregular :
  FailsAlone repeatedDim [1, 2] [⟨0, 1, 0⟩, ⟨0, 1, 1⟩]
    ∧ FailsAlone foreignCoordinate [1, 2, 3] [⟨0, 1, 2⟩]
  := by
  constructor
  · use ⟨⟨repeatedDim.grid.coordinates, repeatedDim.grid.quantities, [], rfl⟩, .null, rfl⟩, rfl,
      by decide
    exact ⟨_, _, rfl, by decide, by decide, by decide, rfl, rfl⟩
  · use ⟨⟨foreignCoordinate.grid.coordinates, foreignCoordinate.grid.quantities, [], rfl⟩, .null, rfl⟩,
      rfl, by decide
    exact ⟨_, _, rfl, by decide, by decide, by decide, rfl, rfl⟩

end Dataset

end GridUnion
