import GridUnion.Proofs.Axis.Numbers
import GridUnion.Proofs.Axis.Times
import GridUnion.Proofs.Dataset.Compatible
import GridUnion.Proofs.Dataset.Subset
import GridUnion.Proofs.Dataset.Whole
import Mathlib.Data.List.Chain

/-!
# Extracts

An extract of all variables over whole dimensions can be a child again.  Alone it makes a dataset
with the same dimensions and variables, which gives the same data.
-/

namespace GridUnion

/-! ### Room -/

theorem Dataset.CanAnswer.hasRoom_of_valid [Machine] {f : Field} {sizes : List Nat}
    {requests : List Request} (h : CanAnswer (sizes.map Request.whole) f)
    (hvalid : Request.AllValid sizes requests) :
  Fetch.HasRoom f.block.type (requests.map Request.length)
  := by
  have hroom := h.hasRoom
  rw [List.map_map] at hroom
  apply hroom.of_le
  rw [List.forall₂_map_left_iff, List.forall₂_map_right_iff]
  apply hvalid.flip.imp
  intro r n hr
  simpa using Request.length_le hr

/-- The merged values of a child over times are words of 64 bits. -/
theorem Child.type_mergeValues_of_isTimeAxis {c : Child} (hbuilt : c.IsBuilt) (htime : c.isTimeAxis)
    {b : Block} (hb : c.mergeValues = .ok b) :
  b.type = .int64
  := by
  obtain ⟨f, hf, hname⟩ := List.any_eq_true.mp htime
  simp only [Bool.and_eq_true, beq_iff_eq] at hname
  obtain ⟨hname, hinstant⟩ := hname
  have hfield := hbuilt.1.fits.field?_name (List.mem_append_left _ hf)
  rw [hname] at hfield
  simp only [mergeValues, Grid.values, fieldOrPositions_eq_ok hfield, Except.map, bind_eq_ok_iff,
    Except.ok.injEq, exists_eq_left', hinstant, if_true, Times.toNanoseconds,
    liftConversion_eq_ok_iff, pure_eq_ok_iff] at hb
  obtain ⟨instants, -, rfl⟩ := hb
  rfl

theorem Block.ofInts_injective (type : ElementType) :
  Function.Injective (ofInts type)
  := by
  intro xs ys h
  have hdata : xs.map Element.int = ys.map Element.int := congrArg data h
  exact List.map_injective_iff.mpr (fun _ _ => Element.int.inj) hdata

namespace Dataset

/-! ### Sources of data -/

/-- What the data of a variable are made of: the values of a field, the blank where they have no row,
and the map to their rows. -/
structure Source where
  field : Block
  blank : Element
  map : IndexMap
  deriving Inhabited

/-- The data that a source gives for requests. -/
def Source.data (s : Source) (merged : Request) (others : List Request) : Block :=
  Block.stack s.field.type (others.map Request.length) (Child.cellOf s.field others s.blank)
    (merged.rows s.map)

/-- The data that a source gives for all positions of a dataset. -/
def Source.allData (s : Source) (d : Dataset) : Block :=
  s.data (Request.whole d.union.size) (d.shape.tail.map Request.whole)

/-- A source from which a dataset gives the data of a variable. -/
structure Gives [Machine] (d : Dataset) (v : String) (s : Source) : Prop where
  size_eq : s.map.size = d.union.size
  hasRoom : ∀ requests, Request.AllValid d.shape requests →
    Fetch.HasRoom s.field.type (requests.map Request.length)
  variableData_eq : ∀ merged others, Request.AllValid d.shape (merged :: others) →
    (d.variableData v merged others).result = .ok (s.data merged others)

theorem Joins.exists_source [Machine] {d : Dataset} {children : List Child}
    {blocks : List Block} (h : d.Joins children blocks) (hbuilt : ∀ c ∈ children, c.IsBuilt)
    (hregular : ∀ c ∈ children, c.IsRegular) {v : String} (hv : v ∈ d.variableNames)
    (hanswer : ∀ c f, d.ownerOf v = .ok c → c.grid.field? v = some f →
      CanAnswer (d.shape.map Request.whole) f) :
  ∃ s, d.Gives v s
  := by
  obtain ⟨k, c, hk, hc, hvc⟩ := h.exists_owner hv
  obtain ⟨f, hf, hdims, hshape⟩ := (hbuilt c (List.mem_of_getElem? hc)).exists_field hvc
  obtain ⟨b, hb, -⟩ := h.getElem?_blocks hc
  obtain ⟨m, hm⟩ : ∃ m, d.union.maps[k]? = some m := by
    obtain ⟨hlt, -⟩ := List.getElem?_eq_some_iff.mp hb
    rw [← Axis.length_maps h.union_eq] at hlt
    exact ⟨_, List.getElem?_eq_getElem hlt⟩
  have howner : d.ownerOf v = .ok c := by
    simp [ownerOf, hk, h.children_eq, hc]
  have hanswer := hanswer c f howner hf
  obtain ⟨blank, hblank⟩ := hanswer.exists_blank
  use ⟨f.block, blank, m⟩
  constructor
  · exact Axis.size_maps h.union_eq m (List.mem_of_getElem? hm)
  · intro requests hvalid
    exact hanswer.hasRoom_of_valid hvalid
  · intro merged others hvalid
    apply h.variableData_eq_stack hk hc hm hf hdims hshape hregular
      (fun _ => ⟨hanswer.isScalar, hblank⟩) hvalid (hanswer.hasRoom_of_valid hvalid)

/-! ### Extracts -/

/-- A dataset over strictly ascending integers of a type of which an extract can be made: its
variables are not named like dimensions, no dimension is empty, values are kept as they are, and there
is room for all data. -/
structure IsExtractable [Machine] (d : Dataset) (type : ElementType) (values : List Int) :
    Prop where
  apart : ∀ v ∈ d.variableNames, v ∉ d.axes
  size_pos : ∀ n ∈ d.shape, 0 < n
  kept_eq : ∀ dim ∈ d.first.others, ∀ line, d.axisValues dim = .ok line → line.kept = .ok line
  words : ∀ n ∈ values, type.wrap n = n
  gaps : values.IsChain fun m n => type.wrap (n - m) = n - m
  canAnswer : ∀ v ∈ d.variableNames, ∀ c f, d.ownerOf v = .ok c → c.grid.field? v = some f →
    CanAnswer (d.shape.map Request.whole) f

/-- A field holds the values of a dimension: as they are, or as those that are merged to them. -/
structure Holds (d : Dataset) (f : Field) (line : Block) : Prop where
  merged_eq : f.name = d.first.axis →
    (if f.block.type.isInstant then Times.toNanoseconds f.block else .ok f.block) = .ok line
  block_eq : f.name ≠ d.first.axis → f.block = line

/-- Fields over all dimensions of a dataset: lines hold the values of the dimensions, and cubes hold
what the sources of the variables give for all positions. -/
structure IsExtract (d : Dataset) (source : String → Source) (lines cubes : List Field) : Prop where
  isCube : Grid.IsCube d.axes d.shape lines cubes
  holds : ∀ f ∈ lines, ∃ line, d.axisValues f.name = .ok line ∧ d.Holds f line
  names_eq : cubes.map Field.name = d.variableNames
  block_eq : ∀ f ∈ cubes, f.block = (source f.name).allData d

section Extract

variable {d : Dataset} {children : List Child} {type : ElementType} {lists : List (List Int)}
  (h : d.Joins children (lists.map (Block.ofInts type))) (hbuilt : ∀ c ∈ children, c.IsBuilt)
  (hregular : ∀ c ∈ children, c.IsRegular) (htype : type.isInteger) {values : List Int}
  (haxis : d.union.axis = Block.ofInts type values)

include h hbuilt

theorem Joins.type_of_isTimeAxis (htime : d.first.isTimeAxis) :
  type = .int64
  := by
  obtain ⟨k, hk⟩ := List.mem_iff_getElem?.mp h.first_mem
  obtain ⟨b, hb, hmerge⟩ := h.getElem?_blocks hk
  obtain ⟨xs, -, rfl⟩ := List.mem_map.mp (List.mem_of_getElem? hb)
  exact Child.type_mergeValues_of_isTimeAxis (hbuilt _ h.first_mem) htime hmerge

variable [Machine] (hextract : d.IsExtractable type values)

include htype haxis hextract

/-- The coordinate of a dimension holds its values. -/
theorem Joins.exists_coordinate {dim : String} (hdim : dim ∈ d.axes) {line : Block}
    (hline : d.axisValues dim = .ok line) :
  ∃ f, d.coordinate dim line = .ok f ∧ f.name = dim ∧ f.dims = [dim] ∧ f.block.shape = line.shape
    ∧ d.Holds f line
  := by
  by_cases hmerged : dim = d.first.axis
  · obtain rfl : line = Block.ofInts type values := by
      rw [axisValues, if_pos hmerged, haxis] at hline
      exact (Except.ok.inj hline).symm
    by_cases htime : d.first.isTimeAxis
    · obtain rfl := h.type_of_isTimeAxis hbuilt htime
      obtain ⟨b, hb, hkept, hinstant, hlength, hback⟩ := Times.exists_ofNanoseconds hextract.words
      refine ⟨⟨dim, [dim], b, d.axisAttributes dim, []⟩, ?_, rfl, rfl, ?_, ?_, ?_⟩
      · simp [coordinate, hmerged, htime, hb, hkept]
      · simp [hlength, Block.ofInts, Block.ofList]
      · simp [hinstant, hback, ElementType.isInstant]
      · exact fun hname => absurd hmerged hname
    · have hplain : (Block.ofInts type values).kept = .ok (Block.ofInts type values)
          ∧ type.isInstant = false := by
        cases type with
        | signed | unsigned => exact ⟨rfl, rfl⟩
        | _ => cases htype
      obtain ⟨hkept, hinstant⟩ := hplain
      refine ⟨⟨dim, [dim], Block.ofInts type values, d.axisAttributes dim, []⟩, ?_, rfl, rfl, rfl, ?_,
        ?_⟩
      · simp [coordinate, htime, hkept]
      · simp [Block.ofInts, Block.ofList, hinstant]
      · exact fun hname => absurd hmerged hname
  · have hother : dim ∈ d.first.others := (List.mem_cons.mp hdim).resolve_left hmerged
    have hkept := hextract.kept_eq dim hother line hline
    refine ⟨⟨dim, [dim], line, d.axisAttributes dim, []⟩, ?_, rfl, rfl, rfl, ?_, fun _ => rfl⟩
    · simp [coordinate, hmerged, hkept]
    · exact fun hname => absurd hname hmerged

omit htype haxis

include hregular

/-- A whole dimension has the values of the dimension. -/
theorem Joins.exists_lines :
  ∃ line : String → Block, (∀ dim ∈ d.axes, d.axisValues dim = .ok (line dim))
    ∧ ∀ dim n, (dim, n) ∈ d.axes.zip d.shape →
        (line dim).shape = [n] ∧ d.axisData dim (Request.whole n) = .ok (line dim)
  := by
  have hshapes := h.axisValues_shape hbuilt hregular
  have hvalues : ∀ dim ∈ d.axes, ∃ line, d.axisValues dim = .ok line := by
    intro dim hdim
    obtain ⟨i, hi, rfl⟩ := List.mem_iff_getElem.mp hdim
    obtain ⟨line, hline, -⟩ :=
      List.forall₂_zip hshapes (getElem_mem_zip hi (d.length_axes ▸ hi))
    exact ⟨line, hline⟩
  choose! line hline using hvalues
  use line, hline
  intro dim n hdim
  obtain ⟨hmem, hmem'⟩ := List.of_mem_zip hdim
  obtain ⟨b, hb, hshape⟩ := List.forall₂_zip hshapes hdim
  obtain rfl := Except.ok.inj ((hline dim hmem).symm.trans hb)
  use hshape
  simp [axisData, hb, hshape, Block.select_whole hshape,
    Request.positions?_slice (Request.valid_whole (hextract.size_pos n hmem'))]

omit hbuilt in
/-- The data of all variables over whole dimensions hold the values of each dimension and what the
sources give for all positions. -/
theorem Joins.exists_allData {line : String → Block}
    (hline : ∀ dim n, (dim, n) ∈ d.axes.zip d.shape →
      d.axisData dim (Request.whole n) = .ok (line dim))
    {source : String → Source} (hsource : ∀ v ∈ d.variableNames, d.Gives v (source v)) :
  ∃ answer, (d.data d.variableNames (d.shape.map Request.whole)).result = .ok answer
    ∧ (∀ dim ∈ d.axes, answer.lookup dim = some (line dim))
    ∧ ∀ v ∈ d.variableNames, answer.lookup v = some ((source v).allData d)
  := by
  have hlength : d.axes.length = (d.shape.map Request.whole).length := by
    rw [List.length_map, length_axes]
  have hvalid := Request.allValid_whole hextract.size_pos
  have haxisData : ∀ p ∈ d.axes.zip (d.shape.map Request.whole),
      d.axisData p.1 p.2 = .ok (line p.1) := by
    intro p hp
    rw [List.zip_map_right] at hp
    obtain ⟨⟨dim, n⟩, hdim, rfl⟩ := List.mem_map.mp hp
    exact hline dim n hdim
  use d.answer (d.shape.map Request.whole) (fun p => line p.1) d.variableNames fun v =>
    (source v).allData d
  refine ⟨?_, ?_, fun v hv => lookup_answer_of_mem hv⟩
  · apply data_eq_answer hvalid haxisData
    intro v hv
    exact (hsource v hv).variableData_eq _ _ hvalid
  · intro dim hdim
    obtain ⟨i, hi, rfl⟩ := List.mem_iff_getElem.mp hdim
    apply lookup_answer_of_not_mem hlength (hregular d.first h.first_mem).nodup
      (getElem_mem_zip hi (hlength ▸ hi))
    exact fun hname => hextract.apart _ hname hdim

include htype haxis

/-- An extract of all variables over whole dimensions can be made. -/
theorem Joins.exists_extract {source : String → Source}
    (hsource : ∀ v ∈ d.variableNames, d.Gives v (source v)) :
  ∃ lines cubes, (d.subset d.variableNames (d.shape.map Request.whole)).result
        = .ok ⟨lines, cubes, d.attributes⟩
    ∧ d.IsExtract source lines cubes
  := by
  obtain ⟨line, hvalues, hline⟩ := h.exists_lines hbuilt hregular hextract
  obtain ⟨answer, hdata, hlines, hcubes⟩ := h.exists_allData hregular hextract
    (fun dim n hdim => (hline dim n hdim).2) hsource
  have hcoordinate : ∀ dim ∈ d.axes, ∃ f, d.coordinate dim (line dim) = .ok f ∧ f.name = dim
      ∧ f.dims = [dim] ∧ f.block.shape = (line dim).shape ∧ d.Holds f (line dim) := fun dim hdim =>
    h.exists_coordinate hbuilt htype haxis hextract hdim (hvalues dim hdim)
  choose! coordinate hcoordinate hname hdims hshape hholds using hcoordinate
  have hattributes : ∀ v ∈ d.variableNames, ∃ attributes, d.variableAttributes v = .ok attributes :=
    fun v => h.exists_variableAttributes
  choose! attributes hattributes using hattributes
  let cube (v : String) : Field := ⟨v, d.axes, (source v).allData d, attributes v, []⟩
  have hcube : Grid.IsCube d.axes d.shape (d.axes.map coordinate) (d.variableNames.map cube) := by
    apply Grid.isCube_map d.length_axes (hregular d.first h.first_mem).nodup _ h.nodup_variableNames
      hextract.apart
    · intro v hv
      use rfl, rfl
      simp [cube, Source.allData, Source.data, Block.stack, Function.comp_def, shape]
    · intro dim n hdim
      have hmem := (List.of_mem_zip hdim).1
      exact ⟨hname dim hmem, hdims dim hmem, (hshape dim hmem).trans (hline dim n hdim).1⟩
  refine ⟨_, _, subset_eq_ok hdata ?_ ?_ (hcube.ofFields_eq_ok d.attributes), hcube, ?_, ?_, ?_⟩
  · intro dim hdim
    rw [hlines dim hdim, Option.getD_some, hcoordinate dim hdim]
  · intro v hv
    use attributes v, hattributes v hv
    rw [hcubes v hv, Option.getD_some]
  · intro f hf
    obtain ⟨dim, hdim, rfl⟩ := List.mem_map.mp hf
    rw [hname dim hdim]
    exact ⟨line dim, hvalues dim hdim, hholds dim hdim⟩
  · simp [cube, Function.comp_def]
  · intro f hf
    obtain ⟨v, hv, rfl⟩ := List.mem_map.mp hf
    rfl

end Extract

/-! ### Extracts as children -/

/-- A child alone makes a dataset over its own merged axis. -/
theorem exists_build_alone (id title : Value) {c : Child} (hbuilt : c.IsBuilt) {type : ElementType}
    (htype : type.isInteger) {values : List Int} (hsorted : values.Pairwise (· < ·))
    (hmerge : c.mergeValues = .ok (Block.ofInts type values))
    (hcheck : Axis.check 0 (Block.ofInts type values) = .ok ()) :
  ∃ d, (build id [c] title).result = .ok d ∧ d.Joins [c] ([values].map (Block.ofInts type))
    ∧ d.union.axis = Block.ofInts type values ∧ d.union.maps = [IndexMap.places values values]
  := by
  have hmerged : Axis.merge ([values].map (Block.ofInts type))
      = .ok (Block.ofInts type values, [IndexMap.places values values]) := by
    have hunion : values = Axis.sortedUnion [values] :=
      Axis.eq_sortedUnion hsorted (by simp)
    have hmerge : Axis.merge ([values].map (Block.ofInts type)) = _ :=
      Axis.merge_ofInts htype (by simp) (by simpa using hsorted) (by simp [Axis.checkAll, hcheck])
    rwa [← hunion] at hmerge
  have howners : ownersFrom 0 [] [c] = .ok (numbered 0 [c]) := by
    apply (ownersFrom_eq_ok_iff (by simp)).mpr
    simpa using hbuilt.nodup_variableNames
  refine ⟨⟨id, c, [], numbered 0 [c], ⟨[values.length], Block.ofInts type values,
    [IndexMap.places values values]⟩, titleOf id c title, []⟩, ?_, ?_, rfl, rfl⟩
  · apply build_eq_ok_iff.mpr
    refine ⟨c, [], _, [Block.ofInts type values], _, _, rfl, rfl, howners, ?_, ?_, hmerged, rfl⟩
    · simp [hmerge]
    · simp [AxisUnion.sizeOf, Block.ofInts, Block.ofList]
  · constructor
    · rfl
    · simp
    · exact howners
    · simp [hmerge]
    · exact hmerged

/-- The child of an extract, over the dimensions of the dataset. -/
def extractChild (d : Dataset) (lines cubes : List Field) : Child :=
  ⟨⟨lines, cubes, d.attributes⟩, .null, .null, d.first.axis, d.first.others, .memory 0⟩

/-- Two datasets are alike if they have the same dimensions and variables, and give the same data for
all requests within the dimensions. -/
structure IsAlike [Machine] (d d' : Dataset) : Prop where
  axes_eq : d'.axes = d.axes
  shape_eq : d'.shape = d.shape
  axis_eq : d'.union.axis = d.union.axis
  variableNames_eq : d'.variableNames = d.variableNames
  exists_data : ∀ names requests, (∀ v ∈ names, v ∈ d.variableNames) →
    Request.AllValid d.shape requests →
    ∃ answer, (d.data names requests).result = .ok answer
      ∧ (d'.data names requests).result = .ok answer

section ExtractChild

variable {d : Dataset} {source : String → Source} {lines cubes : List Field}
  (hextract : d.IsExtract source lines cubes)

include hextract

/-- The child of an extract merges the values that were merged. -/
theorem mergeValues_extractChild :
  (d.extractChild lines cubes).mergeValues = .ok d.union.axis
  := by
  have hmem : d.first.axis ∈ lines.map Field.name := by
    rw [hextract.isCube.names_eq]
    exact List.mem_cons_self
  obtain ⟨f, hf, hname⟩ := List.mem_map.mp hmem
  have hvalues := hextract.isCube.values_eq_ok d.attributes hf
  obtain ⟨line, hline, hholds⟩ := hextract.holds f hf
  rw [axisValues, if_pos hname] at hline
  rw [hname] at hvalues
  simp only [Child.mergeValues, extractChild, hvalues, bind, Except.bind]
  rw [Except.ok.inj hline]
  exact hholds.merged_eq hname

variable {d' : Dataset} {values : List Int} {blocks blocks' : List Block}
  (h' : d'.Joins [d.extractChild lines cubes] blocks')

include h'

omit hextract in
theorem Joins.first_eq :
  d'.first = d.extractChild lines cubes
  := (List.cons.inj h'.children_eq).1

omit hextract in
theorem Joins.axes_extractChild :
  d'.axes = d.axes
  := by
  rw [axes, h'.first_eq]
  rfl

variable (haxis : d'.union.axis = d.union.axis)

include haxis

theorem Joins.shape_extractChild :
  d'.shape = d.shape
  := by
  have hchild := hextract.isCube.shape_child d.attributes rfl
  rw [shape, AxisUnion.size, haxis, h'.first_eq, extractChild, hchild]
  rfl

/-- The dimensions of an extract have their values. -/
theorem Joins.axisValues_extractChild {dim : String} (hdim : dim ∈ d.axes) :
  d'.axisValues dim = d.axisValues dim
  := by
  obtain ⟨f, hf, rfl⟩ := List.mem_map.mp (hextract.isCube.names_eq ▸ hdim)
  by_cases hname : f.name = d.first.axis
  · have hname' : f.name = d'.first.axis := by rw [hname, h'.first_eq, extractChild]
    rw [axisValues, if_pos hname', axisValues, if_pos hname, haxis]
  · have hname' : f.name ≠ d'.first.axis := by rwa [h'.first_eq, extractChild]
    obtain ⟨line, hline, hholds⟩ := hextract.holds f hf
    rw [hline, axisValues, if_neg hname', h'.first_eq, ← hholds.block_eq hname]
    exact hextract.isCube.values_eq_ok d.attributes hf

variable [Machine] (hvalues : values.Pairwise (· < ·)) (hsize : d.union.size = values.length)
  (hmaps : d'.union.maps = [IndexMap.places values values])
  (hsource : ∀ v ∈ d.variableNames, d.Gives v (source v))

include hvalues hsize hmaps hsource

/-- The extract of a variable gives what its source gives. -/
theorem Joins.variableData_extractChild {v : String} (hv : v ∈ d.variableNames) {merged : Request}
    {others : List Request} (hvalid : Request.AllValid d.shape (merged :: others)) :
  (d'.variableData v merged others).result = .ok ((source v).data merged others)
  := by
  have hcube := hextract.isCube
  have hgives := hsource v hv
  rw [← hextract.names_eq] at hv
  obtain ⟨f, hf, rfl⟩ := List.mem_map.mp hv
  obtain ⟨hmerged, hothers⟩ := List.forall₂_cons.mp hvalid
  have hregular : ∀ c ∈ [d.extractChild lines cubes], c.IsRegular := by
    intro c hc
    rw [List.mem_singleton.mp hc]
    exact hcube.isRegular_child d.attributes rfl
  have howner : d'.owner f.name = .ok 0 :=
    h'.owner_eq_ok_iff.mpr ⟨d.extractChild lines cubes, rfl, List.mem_map_of_mem hf⟩
  have hmap : d'.union.maps[0]? = some (IndexMap.places values values) := by
    rw [hmaps]
    rfl
  have hfield : (d.extractChild lines cubes).grid.field? f.name = some f :=
    (hcube.isBuilt d.attributes).fits.field?_name (List.mem_append_right _ hf)
  obtain ⟨hdims, hsizes⟩ := hcube.cube_eq f hf
  have hblock := hextract.block_eq f hf
  have htype : f.block.type = (source f.name).field.type := by
    rw [hblock]
    rfl
  have hshape := hextract.isCube.shape_child d.attributes rfl
  -- every position has a row, so what stands for missing data in the extract does not matter
  have hblank : none ∈ merged.rows (IndexMap.places values values) →
      (Child.fillOf f).scalar?.isSome ∧ (Child.fillOf f).store f.block.type = .ok .null := by
    rw [Request.rows_places_self hvalues (hsize ▸ hmerged)]
    simp
  have hdata := h'.variableData_eq_stack howner rfl hmap hfield hdims (hsizes.trans hshape.symm)
    hregular hblank ((h'.shape_extractChild hextract haxis).symm ▸ hvalid)
    (htype ▸ hgives.hasRoom _ hvalid)
  have hlengths : (d.shape.tail.map Request.whole).map Request.length = d.shape.tail := by
    simp [Function.comp_def]
  rw [hdata, htype, hblock, Source.allData, Source.data, hlengths, ← hgives.size_eq]
  congr 1
  apply Block.stack_stack hvalues (hgives.size_eq.trans hsize) (hgives.size_eq ▸ hmerged) hothers

/-- The dataset of the child of an extract is alike. -/
theorem Joins.isAlike_extractChild {children : List Child} (h : d.Joins children blocks)
    (hbuilt : ∀ c ∈ children, c.IsBuilt) (hregular : ∀ c ∈ children, c.IsRegular) :
  d.IsAlike d'
  := by
  have haxes := h'.axes_extractChild
  have hshape := h'.shape_extractChild hextract haxis
  constructor
  · exact haxes
  · exact hshape
  · exact haxis
  · rw [h'.variableNames_eq, ← hextract.names_eq]
    rw [List.flatMap_singleton]
    rfl
  · intro names requests hnames hvalid
    cases requests with
    | nil => cases hvalid
    | cons merged others =>
      have haxisData := h.exists_axisData hbuilt hregular hvalid
      choose! _ axis _ haxisData _ using haxisData
      have haxisData' : ∀ p ∈ d'.axes.zip (merged :: others),
          d'.axisData p.1 p.2 = .ok (axis p) := by
        rw [haxes]
        intro p hp
        rw [← haxisData p hp, axisData, axisData,
          h'.axisValues_extractChild hextract haxis (List.of_mem_zip hp).1]
      have hanswer := data_eq_answer hvalid haxisData fun v hv =>
        (hsource v (hnames v hv)).variableData_eq _ _ hvalid
      have hanswer' := data_eq_answer (hshape.symm ▸ hvalid) haxisData' fun v hv =>
        h'.variableData_extractChild hextract haxis hvalues hsize hmaps hsource (hnames v hv) hvalid
      rw [answer, haxes] at hanswer'
      exact ⟨_, hanswer, hanswer'⟩

end ExtractChild

/-- An extract of all variables over whole dimensions can be a child, and this child alone makes a
dataset that is alike. -/
theorem exists_build_extract [Machine] {id title : Value} {children : List Child} {d : Dataset}
    (h : (build id children title).result = .ok d) (hbuilt : ∀ c ∈ children, c.IsBuilt)
    (hregular : ∀ c ∈ children, c.IsRegular) {type : ElementType} (htype : type.isInteger)
    {lists : List (List Int)}
    (hlists : children.mapM Child.mergeValues = .ok (lists.map (Block.ofInts type)))
    (hsorted : ∀ xs ∈ lists, xs.Pairwise (· < ·)) {values : List Int}
    (haxis : d.union.axis = Block.ofInts type values) (hextract : d.IsExtractable type values)
    (id' title' : Value) :
  ∃ full extract child d', d.fullConstraints [] = .ok full
    ∧ (d.subset d.variableNames full).result = .ok extract
    ∧ Child.ofGrid extract .null .null .null none = .ok child
    ∧ (build id' [child] title').result = .ok d' ∧ d.IsAlike d'
  := by
  obtain ⟨blocks, hjoins⟩ := joins_of_build h
  obtain rfl := Except.ok.inj (hjoins.axes_eq.symm.trans hlists)
  have hsource : ∀ v ∈ d.variableNames, ∃ s, d.Gives v s := fun v hv =>
    hjoins.exists_source hbuilt hregular hv (hextract.canAnswer v hv)
  choose! source hsource using hsource
  obtain ⟨lines, cubes, hsubset, hgrid⟩ :=
    hjoins.exists_extract hbuilt hregular htype haxis hextract hsource
  have hvalues : values.Pairwise (· < ·) := by
    obtain ⟨haxis', -⟩ := hjoins.union_eq_sortedUnion htype hsorted
    rw [Block.ofInts_injective type (haxis.symm.trans haxis')]
    exact Axis.pairwise_sortedUnion lists
  have hne : cubes ≠ [] := by
    rintro rfl
    apply (hbuilt d.first hjoins.first_mem).variableNames_ne_nil
    have hnames := hgrid.names_eq.trans hjoins.variableNames_eq
    exact List.flatMap_eq_nil_iff.mp hnames.symm d.first hjoins.first_mem
  have hchild := hgrid.isCube.ofGrid_eq_ok d.attributes rfl hne
  have hmerge := haxis ▸ mergeValues_extractChild hgrid
  obtain ⟨d', hd', hjoins', haxis', hmaps'⟩ := exists_build_alone id' title'
    (hgrid.isCube.isBuilt_child d.attributes rfl hne) htype hvalues hmerge
    (Axis.check_ofInts htype hvalues hextract.gaps 0)
  have hsize : d.union.size = values.length := by
    simp [AxisUnion.size, haxis, Block.ofInts, Block.ofList]
  exact ⟨_, _, _, d', rfl, hsubset, hchild, hd', hjoins'.isAlike_extractChild hgrid
    (haxis'.trans haxis.symm) hvalues hsize hmaps' hsource hjoins hbuilt hregular⟩

/-- The two plates side by side. -/
def joinedPlates : Dataset where
  id := .null
  first := plateChild [1, 3] "v"
  rest := [plateChild [2] "w"]
  owners := [("v", 0), ("w", 1)]
  union := ⟨[2, 1], Block.ofInts .int64 [1, 2, 3],
    [IndexMap.ofRows [some 0, none, some 1], IndexMap.ofRows [none, some 0, none]]⟩
  title := .null
  warnings := []

theorem isExtractable_joinedPlates :
  joinedPlates.IsExtractable .int64 [1, 2, 3]
  := by
  constructor
  · decide
  · decide
  · intro dim hdim line hline
    obtain rfl := List.mem_singleton.mp hdim
    obtain rfl : Block.ofInts .int64 [0, 5] = line := Except.ok.inj hline
    rfl
  · decide
  · decide
  · intro v hv c f hc hf
    rcases List.mem_pair.mp (show v ∈ ["v", "w"] from hv) with rfl | rfl
    · obtain rfl := Except.ok.inj hc
      obtain rfl := Option.some.inj hf
      exact ⟨rfl, ⟨.int (2 ^ 63 - 1), rfl⟩, by constructor <;> decide⟩
    · obtain rfl := Except.ok.inj hc
      obtain rfl := Option.some.inj hf
      exact ⟨rfl, ⟨.int (2 ^ 63 - 1), rfl⟩, by constructor <;> decide⟩

/-- The extract of the two plates, put side by side again. -/
theorem exists_build_extract_plates :
  ∃ full extract child d', (build .null plates .null).result = .ok joinedPlates
    ∧ joinedPlates.fullConstraints [] = .ok full
    ∧ (joinedPlates.subset joinedPlates.variableNames full).result = .ok extract
    ∧ Child.ofGrid extract .null .null .null none = .ok child
    ∧ (build .null [child] .null).result = .ok d' ∧ joinedPlates.IsAlike d'
  := by
  have hbuild : (build .null plates .null).result = .ok joinedPlates := rfl
  have hlists : plates.mapM Child.mergeValues = .ok ([[1, 3], [2]].map (Block.ofInts .int64)) := rfl
  obtain ⟨full, extract, child, d', h⟩ := exists_build_extract hbuild areComparable_plates.isBuilt
    (fun c => isRegular_of_mem_plates) rfl hlists (by decide) rfl isExtractable_joinedPlates .null .null
  exact ⟨full, extract, child, d', hbuild, h⟩

/-- Without as many values as positions the data of whole dimensions fail, though nothing else is
wrong. -/
theorem subset_foreignCoordinate :
  foreignCoordinate.IsBuilt ∧ foreignCoordinate.mergeValues = .ok (Block.ofInts .int64 [1, 2, 3])
    ∧ ∃ d full failure, (build .null [foreignCoordinate] .null).result = .ok d
        ∧ d.IsExtractable .int64 [1, 2, 3] ∧ d.fullConstraints [] = .ok full
        ∧ (d.subset d.variableNames full).result = .error failure ∧ failure.kind = .inconsistency
  := by
  use ⟨⟨foreignCoordinate.grid.coordinates, foreignCoordinate.grid.quantities, [], rfl⟩, .null, rfl⟩,
    rfl
  refine ⟨_, _, _, rfl, ?_, rfl, rfl, rfl⟩
  constructor
  · decide
  · decide
  · intro dim hdim
    cases hdim
  · decide
  · decide
  · intro v hv c f hc hf
    obtain rfl := List.mem_singleton.mp hv
    obtain rfl := Except.ok.inj hc
    obtain rfl := Option.some.inj hf
    exact ⟨rfl, ⟨.int (2 ^ 63 - 1), rfl⟩, by constructor <;> decide⟩

end Dataset

end GridUnion
