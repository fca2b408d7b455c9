import GridUnion.Proofs.Dataset.Data
import GridUnion.Proofs.Fetch.Gaps

/-!
# Reading any dataset

A dataset gives the values of its dimensions for every request within them, also if its children are
not regular.  The data of a variable are given exactly if the owner gives the rows that are asked for;
a regular child always does, as far as there is room.
-/

namespace GridUnion

/-- A slice with a step has positions. -/
theorem Slice.exists_positions? {s : Slice} (h : s.step ≠ 0) (n : Nat) :
  ∃ picks, s.positions? n = some picks
  := by
  rw [positions?, if_neg h]
  split
  · exact ⟨_, rfl⟩
  · exact ⟨_, rfl⟩

theorem Request.AllValid.one_le_stride {sizes : List Nat} {requests : List Request}
    (h : AllValid sizes requests) :
  ∀ r ∈ requests, 1 ≤ r.stride
  := by
  induction h with
  | nil => simp
  | cons hr _ ih => exact List.forall_mem_cons.mpr ⟨hr.1, ih⟩

namespace Child

variable {c : Child} {name : String} {f : Field} {m : IndexMap} {merged : Request}
  {others : List Request}

/-- Reads rows of a variable, at the requested positions of the other dimensions. -/
def reader (c : Child) (name : String) (others : List Request) : Reader :=
  fun _ start stride stop => c.fetch name ⟨start, stride, stop⟩ others

/-- What a fetch makes of the rows of a field. -/
def fetchOf (f : Field) (others : List Request) : Fetch :=
  ⟨others.map fun r => (r.length : Int), some f.block.type, fillOf f⟩

/-- What is read of a field has its type. -/
theorem type_fetch (hfield : c.grid.field? name = some f) {rows : Request} {b : Block}
    (h : c.fetch name rows others = .ok b) :
  b.type = f.block.type
  := by
  simp only [fetch, fieldNamed_eq_ok hfield, ite_throw_eq_ok_iff, bind_eq_ok_iff, Except.ok.injEq,
    exists_eq_left', pure_eq_ok_iff] at h
  obtain ⟨-, -, picks, -, rfl⟩ := h
  rfl

/-- A child gives the rows of a map at requested positions: it reads the runs soundly, the answer can
be made, and what stands for missing data can be stored in the gaps. -/
structure GivesRows [Machine] (c : Child) (name : String) (f : Field) (m : IndexMap)
    (merged : Request) (others : List Request) : Prop where
  allSound : Fetch.AllSound (c.reader name others) (others.map fun r => (r.length : Int)) 1
    (Segment.runs (Segment.ofRows (merged.rows m)))
  allocates : Fetch.Allocates f.block.type ((merged :: others).map Request.length)
  exists_gap : ∀ n, .fill n ∈ Segment.ofRows (merged.rows m) →
    ∃ b, Block.fill f.block.type (n :: others.map Request.length) (fillOf f) = .ok b

/-- A regular child gives rows that ascend strictly within it. -/
theorem givesRows_of_nodup [Machine] (hnodup : c.axes.Nodup) (hfield : c.grid.field? name = some f)
    (hdims : f.dims = c.axes) {size : Nat} {sizes : List Nat}
    (hshape : f.block.shape = size :: sizes) (hsizes : c.shape = size :: sizes)
    (hothers : Request.AllValid sizes others)
    (hsorted : (merged.rows m).reduceOption.Pairwise (· < ·))
    (hrows : ∀ row ∈ (merged.rows m).reduceOption, 0 ≤ row ∧ row < size)
    (hroom : Fetch.Allocates f.block.type ((merged :: others).map Request.length)) {blank : Block}
    (hblank : Block.fill f.block.type [] (fillOf f) = .ok blank) :
  c.GivesRows name f m merged others
  := by
  have hcuts := Segment.cuts_ofRows (merged.rows m)
  refine ⟨?_, hroom, fun n _ => Block.exists_fill hblank _⟩
  intro k run hrun
  obtain ⟨s, hs, hread⟩ := List.mem_filterMap.mp (List.mem_of_getElem? hrun)
  cases s with
  | fill n => cases hread
  | run start stride stop n =>
    cases hread
    have hrequest := hcuts.valid_of_run_mem hsorted hrows hs
    have hvalid : Request.AllValid c.shape ((⟨start, stride, stop⟩ : Request) :: others) := by
      rw [hsizes]
      exact List.Forall₂.cons hrequest hothers
    refine ⟨_, fetch_eq_ok hnodup hfield hdims (hshape.trans hsizes.symm) hvalid, ?_⟩
    rw [select_run (by rw [hshape, List.length_cons, hothers.length_eq]) (hcuts.proper _ hs)
      hrequest.1 default]
    simp [Block.stack, Segment.count]

end Child

namespace Dataset

/-- A variable of a dataset: the child that owns it, and the child's field and map. -/
structure Owns (d : Dataset) (v : String) (c : Child) (f : Field) (m : IndexMap) : Prop where
  exists_number : ∃ k, d.owner v = .ok k ∧ d.children[k]? = some c ∧ d.union.maps[k]? = some m
  field_eq : c.grid.field? v = some f
  dims_eq : f.dims = c.axes
  shape_eq : f.block.shape = c.shape

variable {d : Dataset} {v : String} {c : Child} {f : Field} {m : IndexMap} {merged : Request}
  {others : List Request}

theorem Owns.result_variableData [Machine] (h : d.Owns v c f m) (merged : Request)
    (others : List Request) :
  (d.variableData v merged others).result
    = ((Child.fetchOf f others).run m merged (c.reader v others)).result
  := by
  obtain ⟨k, hk, hc, hm⟩ := h.exists_number
  have hchild : d.children.getD k default = c := by
    rw [List.getD_eq_getElem?_getD, hc]
    rfl
  have hmap : d.union.mapOfChild k = .ok m := by
    rw [AxisUnion.mapOfChild, hm]
  simp only [variableData, Noted.result_bind, Noted.result_liftM, hk, Fetch.result_noted]
  simp only [bind, Except.bind, hmap, hchild, Child.fill_eq_ok h.field_eq,
    Child.fieldOrPositions_eq_ok h.field_eq]
  rfl

/-- The data of a variable are given exactly if its owner gives the rows, and then they hold what
stands for missing data wherever there is no row. -/
theorem Owns.variableData_hasGaps [Machine] (h : d.Owns v c f m) (hmerged : merged.Valid m.size)
    (others : List Request) :
  ((∃ b, (d.variableData v merged others).result = .ok b) ↔ c.GivesRows v f m merged others)
    ∧ ∀ b, (d.variableData v merged others).result = .ok b →
        Fetch.HasGaps (Child.fillOf f) f.block.type (others.map Request.length) (merged.rows m) b
  := by
  have hother : (Child.fetchOf f others).other = (others.map Request.length).map Int.ofNat := by
    simp [Child.fetchOf, List.map_map, Function.comp_def]
  obtain ⟨hexists, hgaps⟩ := Fetch.run_hasGaps hmerged hother rfl
    fun _ _ _ _ _ hread => Child.type_fetch h.field_eq hread
  rw [h.result_variableData]
  refine ⟨hexists.trans ?_, hgaps⟩
  constructor
  · rintro ⟨hsound, hroom, hfill⟩
    exact ⟨hsound, hroom, hfill⟩
  · rintro ⟨hsound, hroom, hfill⟩
    exact ⟨hsound, hroom, hfill⟩

/-- The data of a variable can be read: its owner gives the rows that are asked for. -/
def CanRead [Machine] (d : Dataset) (merged : Request) (others : List Request) (v : String) :
    Prop :=
  ∃ c f m, d.Owns v c f m ∧ c.GivesRows v f m merged others

/-- A dataset can answer for variables: what stands for missing data in them can be stored, and there
is room for the answers. -/
def HasAnswers [Machine] (d : Dataset) (names : List String) (requests : List Request) : Prop :=
  ∀ v ∈ names, ∀ c f m, d.Owns v c f m →
    (∃ blank, Block.fill f.block.type [] (Child.fillOf f) = .ok blank)
      ∧ Fetch.HasRoom f.block.type (requests.map Request.length)

/-- Data of variables are given exactly if those of each are. -/
theorem exists_variablesData_iff [Machine] {names : List String} {data : List (String × Block)} :
  (∃ answer, (d.variablesData merged others names data).result = .ok answer)
    ↔ ∀ v ∈ names, ∃ b, (d.variableData v merged others).result = .ok b
  := by
  induction names generalizing data with
  | nil => simp [variablesData, Noted.of]
  | cons v vs ih =>
    simp only [variablesData, Noted.result_bind, bind_eq_ok_iff, List.forall_mem_cons]
    constructor
    · rintro ⟨answer, b, hb, hanswer⟩
      exact ⟨⟨b, hb⟩, ih.mp ⟨answer, hanswer⟩⟩
    · rintro ⟨⟨b, hb⟩, hvs⟩
      obtain ⟨answer, hanswer⟩ := ih.mpr hvs
      exact ⟨answer, b, hb, hanswer⟩

section Joins

variable {children : List Child} {blocks : List Block} (h : d.Joins children blocks)
  (hbuilt : ∀ c ∈ children, c.IsBuilt)

include h

theorem Joins.size_eq_of_owns (hv : d.Owns v c f m) :
  m.size = d.union.size
  := by
  obtain ⟨k, -, -, hm⟩ := hv.exists_number
  exact Axis.size_maps h.union_eq m (List.mem_of_getElem? hm)

/-- Regular children give what there is room for. -/
theorem Joins.givesRows [Machine] (hregular : ∀ c ∈ children, c.IsRegular) (hv : d.Owns v c f m)
    (hvalid : Request.AllValid d.shape (merged :: others))
    (hroom : Fetch.HasRoom f.block.type ((merged :: others).map Request.length)) {blank : Block}
    (hblank : Block.fill f.block.type [] (Child.fillOf f) = .ok blank) :
  c.GivesRows v f m merged others
  := by
  obtain ⟨k, -, hc, hm⟩ := hv.exists_number
  rw [h.children_eq] at hc
  have hmem : c ∈ children := List.mem_of_getElem? hc
  obtain ⟨b, hb, hmerge⟩ := h.getElem?_blocks hc
  have hsizes := (hregular c hmem).shape_eq_cons hmerge
  obtain ⟨hmergedValid, hothersValid⟩ := List.forall₂_cons.mp hvalid
  rw [← h.size_eq_of_owns hv] at hmergedValid
  have hothersValid : Request.AllValid c.shape.tail others := by
    rw [h.tail_shape_eq hregular c hmem]
    exact hothersValid
  apply Child.givesRows_of_nodup (hregular c hmem).nodup hv.field_eq hv.dims_eq
    (hv.shape_eq.trans hsizes) hsizes hothersValid _ _ hroom.allocates hblank
  · exact Request.pairwise_rows_of_merge h.union_eq hb hm hmergedValid
  · exact Request.rows_within_of_merge h.union_eq hb hm hmergedValid

include hbuilt

theorem Joins.exists_owns (hv : v ∈ d.variableNames) :
  ∃ c f m, d.Owns v c f m
  := by
  obtain ⟨k, c, hk, hc, hvc⟩ := h.exists_owner hv
  obtain ⟨f, hf, hdims, hshape⟩ := (hbuilt c (List.mem_of_getElem? hc)).exists_field hvc
  obtain ⟨b, hb, -⟩ := h.getElem?_blocks hc
  obtain ⟨m, hm⟩ : ∃ m, d.union.maps[k]? = some m := by
    obtain ⟨hlt, -⟩ := List.getElem?_eq_some_iff.mp hb
    rw [← Axis.length_maps h.union_eq] at hlt
    exact ⟨_, List.getElem?_eq_getElem hlt⟩
  exact ⟨c, f, m, ⟨k, hk, h.children_eq ▸ hc, hm⟩, hf, hdims, hshape⟩

/-- The data of a variable are given exactly if they can be read. -/
theorem Joins.exists_variableData_iff [Machine] (hmerged : merged.Valid d.union.size) :
  (∃ b, (d.variableData v merged others).result = .ok b) ↔ d.CanRead merged others v
  := by
  constructor
  · rintro ⟨b, hb⟩
    obtain ⟨k, hk⟩ : ∃ k, d.owner v = .ok k := by
      simp only [variableData, Noted.result_bind, Noted.result_liftM, bind_eq_ok_iff] at hb
      obtain ⟨k, hk, -⟩ := hb
      exact ⟨k, hk⟩
    obtain ⟨c', hc', hvc⟩ := h.owner_eq_ok_iff.mp hk
    have hv : v ∈ d.variableNames := by
      rw [h.variableNames_eq]
      exact List.mem_flatMap.mpr ⟨c', List.mem_of_getElem? hc', hvc⟩
    obtain ⟨c, f, m, hown⟩ := h.exists_owns hbuilt hv
    have hdata := hown.variableData_hasGaps (h.size_eq_of_owns hown ▸ hmerged) others
    exact ⟨c, f, m, hown, hdata.1.mp ⟨b, hb⟩⟩
  · rintro ⟨c, f, m, hown, hrows⟩
    exact (hown.variableData_hasGaps (h.size_eq_of_owns hown ▸ hmerged) others).1.mpr hrows

/-- Every dimension has values along it. -/
theorem Joins.exists_axisValues_cons {name : String} (hname : name ∈ d.axes) :
  ∃ values n shape, d.axisValues name = .ok values ∧ values.shape = n :: shape
  := by
  by_cases hmerged : name = d.first.axis
  · exact ⟨d.union.axis, d.union.size, [], by rw [axisValues, if_pos hmerged], h.shape_axis⟩
  · have hfirst := hbuilt d.first h.first_mem
    obtain ⟨values, hvalues⟩ := hfirst.exists_values name hname
    obtain ⟨n, hn⟩ := hfirst.exists_length? hname hvalues
    obtain ⟨shape, hshape⟩ := List.head?_eq_some_iff.mp hn
    exact ⟨values, n, shape, by rw [axisValues, if_neg hmerged, hvalues], hshape⟩

/-- The values of every dimension are given at requested positions. -/
theorem Joins.exists_axisData_of_isBuilt {requests : List Request}
    (hvalid : Request.AllValid d.shape requests) :
  ∀ p ∈ d.axes.zip requests, ∃ b, d.axisData p.1 p.2 = .ok b
  := by
  rintro ⟨name, r⟩ hp
  obtain ⟨hname, hr⟩ := List.of_mem_zip hp
  have hstride := hvalid.one_le_stride r hr
  have hstep : r.slice.step ≠ 0 := by
    simp only [Request.slice]
    omega
  obtain ⟨values, n, shape, hvalues, hshape⟩ := h.exists_axisValues_cons hbuilt hname
  obtain ⟨picks, hpicks⟩ := Slice.exists_positions? hstep n
  use values.select [picks]
  simp [axisData, hvalues, hshape, hpicks]

section Valid

variable {names : List String} (hvalid : Request.AllValid d.shape (merged :: others))

include hvalid

/-- Variables of regular children can be read if the dataset can answer for them. -/
theorem Joins.canRead [Machine] (hregular : ∀ c ∈ children, c.IsRegular)
    (hanswers : d.HasAnswers names (merged :: others)) (hv : v ∈ names)
    (hname : v ∈ d.variableNames) :
  d.CanRead merged others v
  := by
  obtain ⟨c, f, m, hown⟩ := h.exists_owns hbuilt hname
  obtain ⟨⟨blank, hblank⟩, hroom⟩ := hanswers v hv c f m hown
  exact ⟨c, f, m, hown, h.givesRows hregular hown hvalid hroom hblank⟩

/-- What comes of requests within the dimensions is what comes of the variables. -/
theorem Joins.result_data [Machine] :
  ∃ parts, ∀ names, (d.data names (merged :: others)).result
    = (d.variablesData merged others names parts).result
  := by
  have haxis := h.exists_axisData_of_isBuilt hbuilt hvalid
  choose! axis haxis using haxis
  have hparts : ((d.axes.zip (merged :: others)).mapM fun p =>
      (do return (p.1, ← d.axisData p.1 p.2) : Except Failure (String × Block)))
        = .ok ((d.axes.zip (merged :: others)).map fun p => (p.1, axis p)) := by
    apply mapM_eq_ok_map
    intro p hp
    rw [haxis p hp]
    rfl
  have hlength : ¬ (merged :: others).length ≠ d.axes.length := by
    rw [length_axes, hvalid.length_eq, not_not]
  use setBlocks ((d.axes.zip (merged :: others)).map fun p => (p.1, axis p)) []
  intro names
  simp only [data, if_neg hlength, checkRequests_eq_ok hvalid, Noted.result_bind, Noted.result_liftM,
    Noted.result_mapM, hparts]
  rfl

/-- Data are given for requests within the dimensions exactly if those of each variable can be
read. -/
theorem Joins.exists_data_iff [Machine] (names : List String) :
  (∃ answer, (d.data names (merged :: others)).result = .ok answer)
    ↔ ∀ v ∈ names, d.CanRead merged others v
  := by
  obtain ⟨hmerged, -⟩ := List.forall₂_cons.mp hvalid
  obtain ⟨parts, hparts⟩ := h.result_data hbuilt hvalid
  simp only [← h.exists_variableData_iff hbuilt hmerged, hparts]
  exact exists_variablesData_iff

/-- What is given under the names of variables and dimensions. -/
theorem Joins.lookup_of_data [Machine] {answer : List (String × Block)}
    (hanswer : (d.data names (merged :: others)).result = .ok answer) :
  (∀ v ∈ names, ∃ b, (d.variableData v merged others).result = .ok b
      ∧ answer.lookup v = some b)
    ∧ (d.axes.Nodup → ∀ p ∈ d.axes.zip (merged :: others), p.1 ∉ names →
        ∃ b, d.axisData p.1 p.2 = .ok b ∧ answer.lookup p.1 = some b)
  := by
  have hlength : d.axes.length = (merged :: others).length := by
    rw [length_axes, hvalid.length_eq]
  obtain ⟨-, -, parts, -, hvariables⟩ := data_eq_ok_iff.mp hanswer
  have haxis := h.exists_axisData_of_isBuilt hbuilt hvalid
  have hblock := exists_variablesData_iff.mp ⟨answer, hvariables⟩
  choose! axis haxis using haxis
  choose! block hblock using hblock
  obtain rfl := Except.ok.inj (hanswer.symm.trans (data_eq_answer hvalid haxis hblock))
  constructor
  · intro v hv
    exact ⟨block v, hblock v hv, lookup_answer_of_mem hv⟩
  · intro hnodup p hp hname
    exact ⟨axis p, haxis p hp, lookup_answer_of_not_mem hlength hnodup hp hname⟩

/-- The data of a variable hold what stands for missing data wherever its owner has no row. -/
theorem Joins.hasGaps_of_data [Machine] {answer : List (String × Block)}
    (hanswer : (d.data names (merged :: others)).result = .ok answer) (hv : v ∈ names) :
  ∃ c f m b, d.Owns v c f m ∧ merged.Valid m.size ∧ answer.lookup v = some b
    ∧ Fetch.HasGaps (Child.fillOf f) f.block.type (others.map Request.length) (merged.rows m) b
    ∧ b.shape = (merged :: others).map Request.length
  := by
  obtain ⟨hmerged, -⟩ := List.forall₂_cons.mp hvalid
  obtain ⟨b, hb, hlookup⟩ := (h.lookup_of_data hbuilt hvalid hanswer).1 v hv
  obtain ⟨c, f, m, hown, -⟩ := (h.exists_variableData_iff hbuilt hmerged).mp ⟨b, hb⟩
  rw [← h.size_eq_of_owns hown] at hmerged
  have hgaps := (hown.variableData_hasGaps hmerged others).2 b hb
  have hshape := hgaps.shape_eq
  rw [Request.length_rows] at hshape
  exact ⟨c, f, m, b, hown, hmerged, hlookup, hgaps, hshape⟩

end Valid

end Joins

end Dataset

end GridUnion
