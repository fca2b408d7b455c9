import GridUnion.Proofs.Dataset.Read
import GridUnion.Proofs.Grid.Cube

/-!
# Data as grids

The requested data of a dataset are put into a grid: the values of the dimensions as coordinates, and
those of the variables as fields over all dimensions.
-/

namespace GridUnion.Dataset

/-- A coordinate lies along its own dimension. -/
theorem name_of_coordinate {d : Dataset} {dim : String} {b : Block} {f : Field}
    (h : d.coordinate dim b = .ok f) :
  f.name = dim ∧ f.dims = [dim]
  := by
  unfold coordinate at h
  split at h
  · simp only [bind_eq_ok_iff, pure_eq_ok_iff] at h
    obtain ⟨_, -, _, -, rfl⟩ := h
    exact ⟨rfl, rfl⟩
  · simp only [bind_eq_ok_iff, pure_eq_ok_iff] at h
    obtain ⟨_, -, _, -, rfl⟩ := h
    exact ⟨rfl, rfl⟩

/-- An extract has the coordinate of the merged axis. -/
theorem exists_coordinate_of_subset [Machine] {d : Dataset} {names : List String}
    {requests : List Request} {g : Grid} (h : (d.subset names requests).result = .ok g)
    (hothers : d.first.axis ∉ d.first.others) :
  ∃ answer f, (d.data names requests).result = .ok answer
    ∧ d.coordinate d.first.axis ((answer.lookup d.first.axis).getD default) = .ok f
    ∧ f ∈ g.coordinates ∧ g.field? d.first.axis = some f
  := by
  simp only [subset, Noted.result_bind, Noted.result_mapM, Noted.result_liftM, bind_eq_ok_iff] at h
  obtain ⟨answer, hanswer, coordinates, hcoordinates, _, -, hgrid⟩ := h
  obtain ⟨f, rest, hf, hrest, rfl⟩ := List.forall₂_cons_left_iff.mp (mapM_eq_ok_iff.mp hcoordinates)
  have hname := (name_of_coordinate hf).1
  have hnames : rest.map Field.name = d.first.others := by
    rw [← List.forall₂_eq_eq_eq, List.forall₂_map_left_iff]
    exact hrest.flip.imp fun _ _ hcoordinate => (name_of_coordinate hcoordinate).1
  have hne : ∀ e ∈ rest, e.name ≠ f.name := by
    intro e he heq
    apply hothers
    rw [← hname, ← heq, ← hnames]
    exact List.mem_map_of_mem he
  obtain ⟨hmem, hfield⟩ := Grid.field?_of_ofFields hgrid hne
  exact ⟨answer, f, hanswer, hf, hmem, hname ▸ hfield⟩

/-- An extract of one variable has its data as a field over all dimensions. -/
theorem field?_of_subset [Machine] {d : Dataset} {v : String} {requests : List Request} {g : Grid}
    (h : (d.subset [v] requests).result = .ok g) :
  ∃ answer attributes, (d.data [v] requests).result = .ok answer
    ∧ g.field? v = some ⟨v, d.axes, (answer.lookup v).getD default, attributes, []⟩
  := by
  simp only [subset, Noted.result_bind, Noted.result_mapM, Noted.result_liftM, bind_eq_ok_iff] at h
  obtain ⟨answer, hanswer, coordinates, -, fields, hfields, hgrid⟩ := h
  obtain ⟨f, rest, hf, hrest, rfl⟩ := List.forall₂_cons_left_iff.mp (mapM_eq_ok_iff.mp hfields)
  obtain rfl := List.forall₂_nil_left_iff.mp hrest
  obtain ⟨attributes, -, hf⟩ := bind_eq_ok_iff.mp hf
  obtain ⟨hperm, -⟩ := Grid.checked_of_ofFields hgrid
  have hmem : f ∈ g.fields := by
    apply hperm.symm.subset
    exact List.mem_append_right _ (List.mem_singleton_self f)
  have hbuilt : g.IsBuilt := ⟨_, _, _, hgrid⟩
  have hfield := hbuilt.fits.field?_name hmem
  obtain rfl := pure_eq_ok_iff.mp hf
  exact ⟨answer, attributes, hanswer, hfield⟩

theorem subset_of_data_eq_error [Machine] {d : Dataset} {names : List String}
    {requests : List Request} {e : Failure} (h : (d.data names requests).result = .error e) :
  (d.subset names requests).result = .error e
  := by
  simp only [subset, Noted.result_bind, h]
  rfl

theorem shape_ofNanoseconds {b instants : Block} (h : Times.ofNanoseconds b = .ok instants) :
  instants.shape = b.shape
  := by
  simp only [Times.ofNanoseconds, bind_eq_ok_iff, liftConversion_eq_ok_iff, pure_eq_ok_iff] at h
  obtain ⟨words, hwords, rfl⟩ := h
  have hshape : words.shape = b.shape := Block.shape_mapM hwords
  exact hshape

/-- A coordinate has as many values as it is made of. -/
theorem shape_of_coordinate {d : Dataset} {dim : String} {b : Block} {f : Field}
    (h : d.coordinate dim b = .ok f) :
  f.block.shape = b.shape
  := by
  unfold coordinate at h
  split at h
  · simp only [bind_eq_ok_iff, liftConversion_eq_ok_iff, pure_eq_ok_iff] at h
    obtain ⟨instants, hinstants, kept, hkept, rfl⟩ := h
    exact (Block.shape_kept hkept).trans (shape_ofNanoseconds hinstants)
  · simp only [bind_eq_ok_iff, liftConversion_eq_ok_iff, pure_eq_ok_iff] at h
    obtain ⟨values, hvalues, kept, hkept, rfl⟩ := h
    obtain rfl := Except.ok.inj hvalues
    exact Block.shape_kept hkept

/-- An extract holds requested data in the fields of a grid. -/
theorem subset_eq_ok [Machine] {d : Dataset} {names : List String} {requests : List Request}
    {answer : List (String × Block)} (hdata : (d.data names requests).result = .ok answer)
    {coordinate cube : String → Field}
    (hcoordinate : ∀ dim ∈ d.axes,
      d.coordinate dim ((answer.lookup dim).getD default) = .ok (coordinate dim))
    (hcube : ∀ v ∈ names, ∃ attributes, d.variableAttributes v = .ok attributes
      ∧ cube v = ⟨v, d.axes, (answer.lookup v).getD default, attributes, []⟩)
    {g : Grid} (hgrid : Grid.ofFields (d.axes.map coordinate) (names.map cube) d.attributes = .ok g) :
  (d.subset names requests).result = .ok g
  := by
  have hcoordinates := mapM_eq_ok_map hcoordinate
  have hcubes : names.mapM (fun v => (do
      return ⟨v, d.axes, (answer.lookup v).getD default, ← d.variableAttributes v, []⟩ :
      Except Failure Field)) = .ok (names.map cube) := by
    apply mapM_eq_ok_map
    intro v hv
    obtain ⟨attributes, hattributes, heq⟩ := hcube v hv
    rw [hattributes, heq]
    rfl
  simp only [subset, Noted.result_bind, Noted.result_mapM, Noted.result_liftM, bind_eq_ok_iff]
  exact ⟨answer, hdata, _, hcoordinates, _, hcubes, hgrid⟩

/-- An extract can be made of data whose dimensions can be coordinates and whose variables have all
requested positions. -/
theorem exists_subset_of_data [Machine] {d : Dataset} {names : List String}
    {requests : List Request} {answer : List (String × Block)}
    (hdata : (d.data names requests).result = .ok answer)
    (hlength : d.axes.length = requests.length) (hnodup : d.axes.Nodup)
    (hcoordinate : ∀ p ∈ d.axes.zip requests, ∃ f,
      d.coordinate p.1 ((answer.lookup p.1).getD default) = .ok f ∧ f.block.shape = [p.2.length])
    (hcube : ∀ v ∈ names, v ∉ d.axes ∧ (∃ attributes, d.variableAttributes v = .ok attributes)
      ∧ ((answer.lookup v).getD default).shape = requests.map Request.length) :
  ∃ g, (d.subset names requests).result = .ok g
  := by
  have hdim : ∀ dim ∈ d.axes, ∃ f, d.coordinate dim ((answer.lookup dim).getD default) = .ok f := by
    intro dim hdim
    obtain ⟨i, hi, rfl⟩ := List.mem_iff_getElem.mp hdim
    obtain ⟨f, hf, -⟩ := hcoordinate _ (getElem_mem_zip hi (hlength ▸ hi))
    exact ⟨f, hf⟩
  choose! line hline using hdim
  have hattributes : ∀ v ∈ names, ∃ attributes, d.variableAttributes v = .ok attributes :=
    fun v hv => (hcube v hv).2.1
  choose! attributes hattributes using hattributes
  let cube (v : String) : Field := ⟨v, d.axes, (answer.lookup v).getD default, attributes v, []⟩
  obtain ⟨kept, hkept, hmem, hset⟩ := Grid.exists_setFields_map cube (fun _ => rfl) names
  have hisCube : Grid.IsCube d.axes (requests.map Request.length) (d.axes.map line)
      (kept.map cube) := by
    apply Grid.isCube_map (by simpa using hlength) hnodup _ hkept
      (fun v hv => (hcube v ((hmem v).mp hv)).1)
    · intro v hv
      use rfl, rfl, (hcube v ((hmem v).mp hv)).2.2
    · intro dim n hn
      rw [List.zip_map_right] at hn
      obtain ⟨⟨name, r⟩, hp, heq⟩ := List.mem_map.mp hn
      obtain ⟨rfl, rfl⟩ := Prod.mk.inj heq
      obtain ⟨f, hf, hshape⟩ := hcoordinate _ hp
      have hlinef := hline name (List.of_mem_zip hp).1
      obtain rfl := Except.ok.inj (hlinef.symm.trans hf)
      obtain ⟨hname, hdims⟩ := name_of_coordinate hlinef
      exact ⟨hname, hdims, hshape⟩
  have hcubes : Grid.setFields (names.map cube) = Grid.setFields (kept.map cube) := by
    rw [hset, Grid.setFields_eq_self hisCube.nodup_names]
  use ⟨d.axes.map line, kept.map cube, d.attributes⟩
  apply subset_eq_ok hdata hline fun v hv => ⟨attributes v, hattributes v hv, rfl⟩
  rw [Grid.ofFields_congr d.attributes hcubes]
  exact hisCube.ofFields_eq_ok d.attributes

/-- The values of every dimension at requested positions can be a coordinate. -/
def HasCoordinates (d : Dataset) (requests : List Request) : Prop :=
  ∀ p ∈ d.axes.zip requests, ∀ b, d.axisData p.1 p.2 = .ok b → ∃ f, d.coordinate p.1 b = .ok f

/-- An extract can be made of the data of regular children if the dimensions can be coordinates. -/
theorem Joins.exists_subset_of_hasCoordinates [Machine] {d : Dataset} {children : List Child}
    {blocks : List Block} (h : d.Joins children blocks) (hbuilt : ∀ c ∈ children, c.IsBuilt)
    (hregular : ∀ c ∈ children, c.IsRegular) {merged : Request} {others : List Request}
    (hvalid : Request.AllValid d.shape (merged :: others))
    (hcoordinates : d.HasCoordinates (merged :: others)) {names : List String}
    {answer : List (String × Block)} (hanswer : (d.data names (merged :: others)).result = .ok answer) :
  ∃ g, (d.subset names (merged :: others)).result = .ok g
  := by
  have hnodup : d.axes.Nodup := (hregular d.first h.first_mem).nodup
  have happart : ∀ v ∈ names, v ∈ d.variableNames ∧ v ∉ d.axes := by
    obtain ⟨-, -, _, -, hvariables⟩ := data_eq_ok_iff.mp hanswer
    intro v hv
    obtain ⟨k, hk⟩ := exists_owner_of_variablesData hvariables v hv
    obtain ⟨c, hc, hname⟩ := h.owner_eq_ok_iff.mp hk
    rw [h.variableNames_eq]
    exact ⟨List.mem_flatMap.mpr ⟨c, List.mem_of_getElem? hc, hname⟩, h.not_mem_axes hbuilt hk⟩
  obtain ⟨-, haxes⟩ := h.lookup_of_data hbuilt hvalid hanswer
  apply exists_subset_of_data hanswer (d.length_axes.trans hvalid.length_eq) hnodup
  · intro p hp
    have hname : p.1 ∉ names := fun hmem => (happart p.1 hmem).2 (List.of_mem_zip hp).1
    obtain ⟨b, hb, hlookup⟩ := haxes hnodup p hp hname
    obtain ⟨_, _, -, hb', hvalues⟩ := h.exists_axisData hbuilt hregular hvalid p hp
    obtain rfl := Except.ok.inj (hb.symm.trans hb')
    obtain ⟨f, hf⟩ := hcoordinates p hp b hb
    rw [hlookup]
    use f, hf, (shape_of_coordinate hf).trans hvalues.shape_eq
  · intro v hv
    obtain ⟨hknown, hname⟩ := happart v hv
    obtain ⟨_, _, _, b, -, -, hlookup, -, hshape⟩ := h.hasGaps_of_data hbuilt hvalid hanswer hv
    refine ⟨hname, h.exists_variableAttributes hknown, ?_⟩
    rw [hlookup, Option.getD_some, hshape]

end GridUnion.Dataset
