import GridUnion.Child
import GridUnion.Proofs.Block.Index
import GridUnion.Proofs.Fetch
import GridUnion.Proofs.Grid

/-!
# Reading children

The data variables of a child have the child's dimensions and shape.  A child is regular if its
dimensions differ and each has one value for every position; such a child gives the rows it is asked
for.
-/

namespace GridUnion

namespace Child

/-- The child apart from where it comes from. -/
def detached (c : Child) : Child := { c with origin := .memory 0 }

/-- Children that are made of grids. -/
def IsBuilt (c : Child) : Prop :=
  c.grid.IsBuilt ∧ ∃ axis, ofGrid c.grid c.name axis c.source none = .ok c.detached

/-- The dimensions differ, and each has one value for every position. -/
structure IsRegular (c : Child) : Prop where
  nodup : c.axes.Nodup
  shape_eq : ∀ dim ∈ c.axes, ∀ b, c.grid.values dim = .ok b →
    b.shape = [(c.grid.size? dim).getD 0]

variable {c : Child}

/-- A child of a grid is called by its name, else by where it comes from. -/
theorem label_of_ofGrid {grid : Grid} {name axis source : Value} {handle : Option Handle}
    (h : ofGrid grid name axis source handle = .ok c) :
  c.label = labelOf name source
  := by
  unfold ofGrid at h
  extract_lets label at h
  split at h
  · cases h
  · split at h
    · cases h
    · split at h
      · cases h
      · split at h
        · exact congrArg Child.label (Except.ok.inj h).symm
        · split at h
          · exact congrArg Child.label (Except.ok.inj h).symm
          · cases h

/-- All data variables of a child have its dimensions. -/
theorem IsBuilt.dims_eq (h : c.IsBuilt) :
  ∀ f ∈ c.grid.quantities, f.dims = c.axes
  := by
  obtain ⟨-, axis, hgrid⟩ := h
  unfold ofGrid at hgrid
  extract_lets label at hgrid
  split at hgrid
  · cases hgrid
  · next first rest hquantities =>
    split at hgrid
    · cases hgrid
    · next hsame =>
      have hrest : ∀ f ∈ rest, f.dims = first.dims := by
        simpa using List.find?_eq_none.mp hsame
      have hfirst : first.dims = c.axes := by
        split at hgrid
        · cases hgrid
        · next dim others hdims =>
          rw [hdims]
          split at hgrid
          · exact congrArg axes (Except.ok.inj hgrid)
          · split at hgrid
            · exact congrArg axes (Except.ok.inj hgrid)
            · cases hgrid
      intro f hf
      rw [hquantities] at hf
      rcases List.mem_cons.mp hf with rfl | hf
      · exact hfirst
      · rw [hrest f hf, hfirst]

theorem IsBuilt.variableNames_ne_nil (h : c.IsBuilt) :
  c.variableNames ≠ []
  := by
  obtain ⟨-, axis, hgrid⟩ := h
  intro hnil
  have hquantities : c.grid.quantities = [] := by simpa [variableNames] using hnil
  simp [ofGrid, hquantities] at hgrid

/-- No data variable of a child occurs twice. -/
theorem IsBuilt.nodup_variableNames (h : c.IsBuilt) :
  c.variableNames.Nodup
  := by
  have hfields := h.1.fits.nodup
  rw [Grid.fields, List.map_append] at hfields
  exact hfields.of_append_right

/-- A data variable of a child is a field that has the child's dimensions and shape. -/
theorem IsBuilt.exists_field (h : c.IsBuilt) {name : String} (hname : name ∈ c.variableNames) :
  ∃ f, c.grid.field? name = some f ∧ f.dims = c.axes ∧ f.block.shape = c.shape
  := by
  obtain ⟨f, hf, rfl⟩ := List.mem_map.mp hname
  have hfits := h.1.fits
  have hmem : f ∈ c.grid.fields := List.mem_append_right _ hf
  have hdims := h.dims_eq f hf
  have hlength := hfits.length_dims f hmem
  use f, hfits.field?_name hmem, hdims
  apply List.ext_getElem
  · rw [shape, List.length_map, ← hdims, hlength]
  · intro i hi _
    have hdim : i < f.dims.length := by rwa [hlength]
    have hsize := hfits.size?_eq (Grid.getElem_mem_sizes hmem hdim hi)
    simp [shape, ← hdims, hsize]

/-- A dimension of a child has a size. -/
theorem IsBuilt.exists_size (h : c.IsBuilt) {dim : String} (hdim : dim ∈ c.axes) :
  ∃ n, (dim, n) ∈ c.grid.sizes
  := by
  obtain ⟨name, hname⟩ := List.exists_mem_of_ne_nil _ h.variableNames_ne_nil
  obtain ⟨f, hf, hdims, -⟩ := h.exists_field hname
  have hmem : f ∈ c.grid.fields := List.mem_of_find?_eq_some hf
  obtain ⟨i, hi, rfl⟩ := List.mem_iff_getElem.mp (hdims ▸ hdim)
  exact ⟨_, Grid.getElem_mem_sizes hmem hi (h.1.fits.length_dims f hmem ▸ hi)⟩

/-- No data variable of a child is named like one of its dimensions. -/
theorem IsBuilt.not_mem_axes (h : c.IsBuilt) {name : String} (hname : name ∈ c.variableNames) :
  name ∉ c.axes
  := by
  intro hdim
  obtain ⟨f, hf, rfl⟩ := List.mem_map.mp hname
  obtain ⟨n, hn⟩ := h.exists_size hdim
  exact h.1.not_mem_sizes hf n hn

/-- A child has values for each of its dimensions. -/
theorem IsBuilt.exists_values (h : c.IsBuilt) :
  ∀ dim ∈ c.axes, ∃ values, c.grid.values dim = .ok values
  := by
  intro dim hdim
  obtain ⟨n, hsize⟩ := h.exists_size hdim
  rcases hfield : c.grid.field? dim with _ | f
  · use Grid.positions n
    simp [Grid.values, Grid.fieldOrPositions, hfield, h.1.fits.size?_eq hsize, Except.map]
  · use f.block
    simp [Grid.values, Grid.fieldOrPositions, hfield, Except.map]

/-- The values of a dimension have a length. -/
theorem IsBuilt.exists_length? (h : c.IsBuilt) {dim : String} (hdim : dim ∈ c.axes) {values : Block}
    (hvalues : c.grid.values dim = .ok values) :
  ∃ n, values.length? = some n
  := by
  suffices hshape : values.shape ≠ [] by
    obtain ⟨n, sizes, hsizes⟩ := List.exists_cons_of_ne_nil hshape
    exact ⟨n, by simp [Block.length?, hsizes]⟩
  obtain ⟨n, hsize⟩ := h.exists_size hdim
  rcases hfield : c.grid.field? dim with _ | f
  · simp only [Grid.values, Grid.fieldOrPositions, hfield, h.1.fits.size?_eq hsize, Except.map,
      Except.ok.injEq] at hvalues
    simp [← hvalues, Grid.positions, Block.ofList]
  · simp only [Grid.values, Grid.fieldOrPositions, hfield, Except.map, Except.ok.injEq] at hvalues
    have hf : f ∈ c.grid.fields := List.mem_of_find?_eq_some hfield
    have hname : f.name = dim := by simpa using List.find?_some hfield
    have hdims := h.1.dims_ne_nil hf (hname ▸ hsize)
    rw [← hvalues, ← List.length_pos_iff, ← h.1.fits.length_dims f hf]
    exact List.length_pos_iff.mpr hdims

/-! ### Reading rows -/

section Fetch

variable {name : String} {f : Field} (hfield : c.grid.field? name = some f)

include hfield

theorem fieldOrPositions_eq_ok :
  c.grid.fieldOrPositions name = .ok f
  := by
  simp [Grid.fieldOrPositions, hfield]

theorem fieldNamed_eq_ok :
  c.grid.fieldNamed name = .ok f
  := by
  simp [Grid.fieldNamed, fieldOrPositions_eq_ok hfield]

theorem fill_eq_ok :
  c.fill name = .ok (fillOf f)
  := by
  simp [fill, fieldNamed_eq_ok hfield]

end Fetch

/-- The slices of requests within a field's dimensions select the positions of the requests. -/
theorem picks_slices {f : Field} {requests : List Request} (hnodup : f.dims.Nodup)
    (hlength : f.dims.length = f.block.shape.length)
    (hvalid : Request.AllValid f.block.shape requests) :
  picks f (f.dims.zip (requests.map Request.slice)) = .ok (requests.map Request.positions)
  := by
  obtain ⟨hcount, hvalid⟩ := List.forall₂_iff_get.mp hvalid
  apply mapM_eq_ok_iff.mpr
  apply List.forall₂_iff_get.mpr
  constructor
  · simp [Field.sizes, hlength, hcount]
  · intro i hi hi'
    have hdim : i < f.dims.length := by
      rw [hlength]
      simpa [Field.sizes, hlength] using hi
    have hrequest : i < requests.length := by simpa using hi'
    have hkeys : ((f.dims.zip (requests.map Request.slice)).reverse.map Prod.fst).Nodup := by
      rw [List.map_reverse, List.nodup_reverse, List.map_fst_zip (by simp [hlength, hcount])]
      exact hnodup
    have hlookup : (f.dims.zip (requests.map Request.slice)).reverse.lookup f.dims[i]
        = some requests[i].slice := by
      apply (lookup_eq_some_iff_mem hkeys).mpr
      rw [List.mem_reverse, ← List.getElem_map Request.slice]
      exact getElem_mem_zip hdim (by simpa using hrequest)
    have hpositions := Request.positions?_slice (hvalid i (hlength ▸ hdim) hrequest)
    simp only [List.get_eq_getElem] at hpositions
    simp [Field.sizes, hlookup, hpositions]

/-- Requests within a child's dimensions are answered with the elements at their positions. -/
theorem fetch_eq_ok (hnodup : c.axes.Nodup) {name : String} {f : Field}
    (hfield : c.grid.field? name = some f) (hdims : f.dims = c.axes)
    (hshape : f.block.shape = c.shape) {rows : Request} {others : List Request}
    (hvalid : Request.AllValid c.shape (rows :: others)) :
  c.fetch name rows others = .ok (f.block.select ((rows :: others).map Request.positions))
  := by
  have hothers : others.length = c.others.length := by
    have hlength := hvalid.length_eq
    simp only [shape, axes, List.length_map, List.length_cons] at hlength
    omega
  have hpicks := picks_slices (f := f) (hdims ▸ hnodup) (by rw [hdims, hshape, shape, List.length_map])
    (hshape ▸ hvalid)
  have hmissing : ¬ ∃ d ∈ c.axes, d ∉ f.dims := by
    simp [hdims]
  rw [hdims, List.map_cons, List.map_cons] at hpicks
  simp [fetch, hothers, fieldNamed_eq_ok hfield, hmissing, hpicks]

/-- The element of a block in a row, at positions of the requests for the other dimensions; a blank
where there is no row. -/
def cellOf (b : Block) (others : List Request) (blank : Element) :
    Option Int → List Nat → Element
  | some row, ix => b.get (row.toNat :: Block.through (others.map Request.positions) ix)
  | none, _ => blank

/-- What a run reads from a block is stacked of the run's rows. -/
theorem select_run {b : Block} {others : List Request} (hlength : b.shape.length = others.length + 1)
    {start stride stop : Int} {n : Nat} (hrun : (Segment.run start stride stop n).Proper)
    (hstride : 1 ≤ stride) (blank : Element) :
  b.select (((⟨start, stride, stop⟩ : Request) :: others).map Request.positions)
    = Block.stack b.type (others.map Request.length) (cellOf b others blank)
        (Segment.run start stride stop n).expand
  := by
  obtain ⟨hn, hstop, -⟩ := hrun
  have hcount : (⟨start, stride, stop⟩ : Request).length = n := Request.length_eq hstride hn hstop
  have hshape : b.shape.drop (others.length + 1) = [] := by
    rw [← hlength, List.drop_length]
  rw [Block.select_eq_tabulate, Segment.expand, Block.stack_map]
  simp only [List.map_cons, List.map_map, List.length_cons, List.length_map, hshape,
    List.append_nil, Request.length_positions, hcount, Function.comp_def, Block.tabulate_cons]
  apply Block.stack_congr
  intro i hi ix _
  have hlt := List.mem_range.mp hi
  simp [cellOf, Block.through, Request.positions_eq_map, Request.position, hcount, hlt]

/-- A child answers the runs among rows that ascend strictly within it. -/
theorem answers_ofRows (hnodup : c.axes.Nodup) {name : String} {f : Field}
    (hfield : c.grid.field? name = some f) (hdims : f.dims = c.axes)
    {size : Nat} {sizes : List Nat} (hshape : f.block.shape = size :: sizes)
    (hsizes : c.shape = size :: sizes) {others : List Request}
    (hothers : Request.AllValid sizes others)
    {rows : List (Option Int)} {blank : Element}
    (hblank : none ∈ rows → (fillOf f).scalar?.isSome ∧ (fillOf f).store f.block.type = .ok blank)
    (hsorted : rows.reduceOption.Pairwise (· < ·))
    (hrows : ∀ row ∈ rows.reduceOption, 0 ≤ row ∧ row < size) (type? : Option ElementType) :
  Fetch.Answers ⟨others.map fun r => (r.length : Int), type?, fillOf f⟩
    (fun _ start stride stop => c.fetch name ⟨start, stride, stop⟩ others)
    f.block.type (others.map Request.length) (cellOf f.block others blank) (Segment.ofRows rows)
  := by
  have hcuts := Segment.cuts_ofRows rows
  apply Fetch.answers_ofRows hsorted hrows
  · intro hnone n
    obtain ⟨hscalar, hblank⟩ := hblank hnone
    have hcell : ∀ r ∈ List.replicate n none, ∀ ix, Block.IsIndex (others.map Request.length) ix →
        cellOf f.block others blank r ix = blank := by
      intro r hr ix _
      rw [List.eq_of_mem_replicate hr, cellOf]
    rw [Block.fill_eq_replicate hscalar hblank, ← Block.replicate_cons hcell, List.length_replicate]
  · intro start stride stop n hrequest hrun _
    have hvalid : Request.AllValid c.shape
        ((⟨start, stride, stop⟩ : Request) :: others) := by
      rw [hsizes]
      exact List.Forall₂.cons hrequest hothers
    refine ⟨_, fetch_eq_ok hnodup hfield hdims (hshape.trans hsizes.symm) hvalid, ?_⟩
    rw [select_run (by rw [hshape, List.length_cons, hothers.length_eq]) (hcuts.proper _ hrun)
      hrequest.1 blank]
    exact Block.convert_self (Block.stack _ _ _ _)

end Child

end GridUnion
