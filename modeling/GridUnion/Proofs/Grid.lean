import GridUnion.Grid
import GridUnion.Proofs.Lookup
import GridUnion.Proofs.Success

/-!
# Fields that fit together

The fields of a grid have different names, as many sizes as dimensions, and the same size along a
dimension they share.  `Grid.ofFields` makes no other grids.
-/

namespace GridUnion

namespace Grid

/-- The fields of a grid fit together. -/
structure Fits (g : Grid) : Prop where
  nodup : (g.fields.map Field.name).Nodup
  length_dims : ∀ f ∈ g.fields, f.dims.length = f.block.shape.length
  size_eq : ∀ p ∈ g.sizes, ∀ q ∈ g.sizes, p.1 = q.1 → p.2 = q.2

/-- Grids that are made of fields. -/
def IsBuilt (g : Grid) : Prop :=
  ∃ coordinates quantities attributes, ofFields coordinates quantities attributes = .ok g

/-! ### Grids of fields -/

theorem names_setField (f : Field) (fs : List Field) :
  (setField f fs).map Field.name
    = if f.name ∈ fs.map Field.name then fs.map Field.name else fs.map Field.name ++ [f.name]
  := by
  induction fs with
  | nil => simp [setField]
  | cons g gs ih =>
    by_cases hname : g.name = f.name
    · simp [setField, hname]
    · have hne : f.name ≠ g.name := Ne.symm hname
      simp only [setField, beq_iff_eq, hname, if_false, List.map_cons, ih, List.mem_cons, hne,
        false_or]
      split
      · rfl
      · rfl

/-- Fields that are set one after the other have different names. -/
theorem nodup_names_foldl_setField (fs : List Field) {set : List Field}
    (h : (set.map Field.name).Nodup) :
  ((fs.foldl (fun fs f => setField f fs) set).map Field.name).Nodup
  := by
  induction fs generalizing set with
  | nil => exact h
  | cons f fs ih =>
    apply ih
    rw [names_setField]
    split
    · exact h
    · next hnew => exact List.nodup_append.mpr ⟨h, List.nodup_singleton _, by simpa using hnew⟩

theorem mem_setField_of_ne {f g : Field} {fs : List Field} (hf : f ∈ fs) (hname : g.name ≠ f.name) :
  f ∈ setField g fs
  := by
  induction fs with
  | nil => cases hf
  | cons e fs ih =>
    by_cases heq : e.name = g.name
    · rcases List.mem_cons.mp hf with rfl | hf
      · exact absurd heq.symm hname
      · simp [setField, heq, hf]
    · rcases List.mem_cons.mp hf with rfl | hf
      · simp [setField, heq]
      · simp [setField, heq, ih hf]

/-- A field stays when fields of other names are set. -/
theorem mem_foldl_setField {f : Field} {fs set : List Field} (hf : f ∈ set)
    (hnames : ∀ g ∈ fs, g.name ≠ f.name) :
  f ∈ fs.foldl (fun fs f => setField f fs) set
  := by
  induction fs generalizing set with
  | nil => exact hf
  | cons g fs ih =>
    obtain ⟨hg, hfs⟩ := List.forall_mem_cons.mp hnames
    apply ih (mem_setField_of_ne hf hg) hfs

theorem size_eq_of_unevenDim? {sizes : List (String × Nat)} (h : unevenDim? sizes = none) :
  ∀ p ∈ sizes, ∀ q ∈ sizes, p.1 = q.1 → p.2 = q.2
  := by
  rw [unevenDim?, Option.map_eq_none_iff, List.find?_eq_none] at h
  intro p hp q hq hdim
  have hsame := h p hp
  simp only [List.any_eq_true, not_exists, not_and] at hsame
  have hpq := hsame q hq
  simpa [hdim] using hpq

/-- Fields set one after the other. -/
def setFields (fs : List Field) : List Field := fs.foldl (fun fs f => setField f fs) []

/-- Whether a field is named like a dimension of fields. -/
def namesDim (all : List Field) (f : Field) : Bool :=
  (all.flatMap Field.sizes).any fun (d, _) => d == f.name

/-- The fields of a grid are as many sizes as dimensions, have different names and even dimensions,
and those that are named like a dimension have dimensions. -/
structure AreFit (coordinates quantities : List Field) : Prop where
  length_dims : ∀ f ∈ coordinates ++ quantities, f.dims.length = f.block.shape.length
  apart : ∀ f ∈ quantities, f.name ∉ coordinates.map Field.name
  even : unevenDim? ((coordinates ++ quantities).flatMap Field.sizes) = none
  dims_ne_nil : ∀ f ∈ coordinates ++ quantities, namesDim (coordinates ++ quantities) f → f.dims ≠ []

/-- Fields are fit for a grid exactly if none is found that is not. -/
theorem areFit_iff_find? {cs qs : List Field} :
  AreFit cs qs ↔ (cs ++ qs).find? (fun f => f.dims.length != f.block.shape.length) = none
    ∧ qs.find? (fun f => cs.any fun c => c.name == f.name) = none
    ∧ unevenDim? ((cs ++ qs).flatMap Field.sizes) = none
    ∧ (cs ++ qs).find? (fun f => namesDim (cs ++ qs) f && f.dims.isEmpty) = none
  := by
  simp only [List.find?_eq_none]
  constructor
  · rintro ⟨hlength, hapart, heven, hdims⟩
    refine ⟨by simpa using hlength, ?_, heven, ?_⟩
    · intro q hq
      simpa using hapart q hq
    · intro f hf
      rw [Bool.and_eq_true, not_and]
      intro hdim
      simpa using hdims f hf hdim
  · rintro ⟨hlength, hapart, heven, hdims⟩
    constructor
    · simpa using hlength
    · intro q hq
      simpa using hapart q hq
    · exact heven
    · intro f hf hdim
      have hno := hdims f hf
      rw [Bool.and_eq_true, not_and] at hno
      simpa using hno hdim

/-- Fields make a grid exactly if those that were set are fit for one. -/
theorem ofFields_eq_ok_iff {coordinates quantities : List Field} {attributes : Attributes}
    {g : Grid} :
  ofFields coordinates quantities attributes = .ok g
    ↔ AreFit (setFields coordinates) (setFields quantities)
      ∧ ⟨setFields coordinates
            ++ (setFields quantities).filter
              (namesDim (setFields coordinates ++ setFields quantities)),
          (setFields quantities).filter fun f =>
            !namesDim (setFields coordinates ++ setFields quantities) f, attributes⟩ = g
  := by
  rw [areFit_iff_find?]
  unfold ofFields
  extract_lets cs qs all sizes isDim
  change _ ↔ (all.find? (fun f => f.dims.length != f.block.shape.length) = none
      ∧ qs.find? (fun f => cs.any fun c => c.name == f.name) = none
      ∧ unevenDim? sizes = none ∧ all.find? (fun f => isDim f && f.dims.isEmpty) = none)
    ∧ ⟨cs ++ qs.filter isDim, qs.filter fun f => !isDim f, attributes⟩ = g
  split
  · next hlength => simp [hlength]
  · next hlength =>
    split
    · next hapart => simp [hapart]
    · next hapart =>
      split
      · next heven => simp [heven]
      · next heven =>
        split
        · next hdims => simp [hdims]
        · next hdims =>
          refine ⟨fun hg => ⟨⟨hlength, hapart, heven, hdims⟩, Except.ok.inj hg⟩, ?_⟩
          rintro ⟨-, hg⟩
          rw [hg]

theorem ofFields_congr {coordinates quantities quantities' : List Field} (attributes : Attributes)
    (h : setFields quantities = setFields quantities') :
  ofFields coordinates quantities attributes = ofFields coordinates quantities' attributes
  := by
  have hfold : quantities.foldl (fun fs f => setField f fs) []
      = quantities'.foldl (fun fs f => setField f fs) [] := h
  simp only [ofFields, hfold]

/-- What `ofFields` has checked when it makes a grid, which has the fields that were set. -/
theorem checked_of_ofFields {coordinates quantities : List Field} {attributes : Attributes}
    {g : Grid} (h : ofFields coordinates quantities attributes = .ok g) :
  List.Perm g.fields (setFields coordinates ++ setFields quantities)
    ∧ AreFit (setFields coordinates) (setFields quantities)
  := by
  obtain ⟨hfit, rfl⟩ := ofFields_eq_ok_iff.mp h
  refine ⟨?_, hfit⟩
  rw [fields, List.append_assoc]
  apply (List.filter_append_perm _ _).append_left

/-- The fields of a grid that is made of fields fit together. -/
theorem IsBuilt.fits {g : Grid} (h : g.IsBuilt) :
  g.Fits
  := by
  obtain ⟨coordinates, quantities, attributes, hfields⟩ := h
  obtain ⟨hperm, hlength, hapart, heven, -⟩ := checked_of_ofFields hfields
  constructor
  · rw [(hperm.map Field.name).nodup_iff, List.map_append]
    apply List.nodup_append.mpr
    refine ⟨nodup_names_foldl_setField _ List.nodup_nil, nodup_names_foldl_setField _ List.nodup_nil,
      ?_⟩
    rintro name hc _ hq rfl
    obtain ⟨f, hf, rfl⟩ := List.mem_map.mp hq
    exact hapart f hf hc
  · intro f hf
    apply hlength f (hperm.subset hf)
  · intro p hp q hq
    apply size_eq_of_unevenDim? heven p ((hperm.flatMap_right _).subset hp) q
      ((hperm.flatMap_right _).subset hq)

/-- A field that is named like a dimension has dimensions itself. -/
theorem IsBuilt.dims_ne_nil {g : Grid} (h : g.IsBuilt) {f : Field} (hf : f ∈ g.fields) {n : Nat}
    (hn : (f.name, n) ∈ g.sizes) :
  f.dims ≠ []
  := by
  obtain ⟨coordinates, quantities, attributes, hfields⟩ := h
  obtain ⟨hperm, hfit⟩ := checked_of_ofFields hfields
  apply hfit.dims_ne_nil f (hperm.subset hf)
  exact List.any_eq_true.mpr ⟨_, (hperm.flatMap_right _).subset hn, beq_self_eq_true _⟩

/-- No data variable is named like a dimension. -/
theorem IsBuilt.not_mem_sizes {g : Grid} (h : g.IsBuilt) {f : Field} (hf : f ∈ g.quantities) (n : Nat) :
  (f.name, n) ∉ g.sizes
  := by
  obtain ⟨coordinates, quantities, attributes, hfields⟩ := h
  obtain ⟨hperm, -⟩ := checked_of_ofFields hfields
  obtain ⟨-, rfl⟩ := ofFields_eq_ok_iff.mp hfields
  intro hn
  have hdim : namesDim (setFields coordinates ++ setFields quantities) f :=
    List.any_eq_true.mpr ⟨_, (hperm.flatMap_right _).subset hn, beq_self_eq_true _⟩
  have hno := (List.mem_filter.mp hf).2
  simp [hdim] at hno

/-- The field of a name is found by it. -/
theorem Fits.field?_name {g : Grid} (h : g.Fits) {f : Field} (hf : f ∈ g.fields) :
  g.field? f.name = some f
  := by
  rcases hfind : g.field? f.name with _ | found
  · have hno := List.find?_eq_none.mp hfind f hf
    simp at hno
  · have hname : found.name = f.name := by simpa using List.find?_some hfind
    rw [List.inj_on_of_nodup_map h.nodup (List.mem_of_find?_eq_some hfind) hf hname]

/-- The first coordinate is found in the grid if no other coordinate has its name. -/
theorem field?_of_ofFields {f : Field} {fs quantities : List Field} {attributes : Attributes} {g : Grid}
    (h : ofFields (f :: fs) quantities attributes = .ok g) (hnames : ∀ e ∈ fs, e.name ≠ f.name) :
  f ∈ g.coordinates ∧ g.field? f.name = some f
  := by
  have hmem : f ∈ g.coordinates := by
    obtain ⟨-, rfl⟩ := ofFields_eq_ok_iff.mp h
    apply List.mem_append_left
    change f ∈ fs.foldl (fun fs f => setField f fs) [f]
    exact mem_foldl_setField (List.mem_singleton_self f) hnames
  have hbuilt : g.IsBuilt := ⟨_, _, _, h⟩
  use hmem, hbuilt.fits.field?_name (List.mem_append_left _ hmem)

theorem getElem_mem_sizes {g : Grid} {f : Field} (hf : f ∈ g.fields) {i : Nat}
    (hdim : i < f.dims.length) (hsize : i < f.block.shape.length) :
  (f.dims[i], f.block.shape[i]) ∈ g.sizes
  := by
  apply List.mem_flatMap.mpr ⟨f, hf, ?_⟩
  exact getElem_mem_zip hdim hsize

/-- The size of a field along a dimension is the size of the dimension. -/
theorem Fits.size?_eq {g : Grid} (h : g.Fits) {dim : String} {n : Nat} (hn : (dim, n) ∈ g.sizes) :
  g.size? dim = some n
  := by
  rcases hlookup : g.size? dim with _ | m
  · have hno := List.lookup_eq_none_iff.mp hlookup (dim, n) hn
    simp at hno
  · have hm := mem_of_lookup_eq_some hlookup
    have heq : m = n := h.size_eq (dim, m) hm (dim, n) hn rfl
    rw [heq]

end Grid

end GridUnion
