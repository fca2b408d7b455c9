import GridUnion.Proofs.Child
import Mathlib.Data.List.Induction

/-!
# Grids over all of their dimensions

A grid that has a line of values for each dimension, and variables over all dimensions, can be made
and can be a child.  The child is regular and has the dimensions in their order, with their sizes.
-/

namespace GridUnion

namespace Grid

theorem setField_of_not_mem {f : Field} {fs : List Field} (h : f.name ∉ fs.map Field.name) :
  setField f fs = fs ++ [f]
  := by
  induction fs with
  | nil => rfl
  | cons g fs ih =>
    simp only [List.map_cons, List.mem_cons, not_or] at h
    obtain ⟨hname, hfs⟩ := h
    simp [setField, Ne.symm hname, ih hfs]

/-- Fields of different names that are set one after the other are all kept, in order. -/
theorem setFields_eq_self {fs : List Field} (h : (fs.map Field.name).Nodup) :
  setFields fs = fs
  := by
  induction fs using List.reverseRecOn with
  | nil => rfl
  | append_singleton fs f ih =>
    rw [List.map_append, List.map_singleton, List.nodup_append] at h
    obtain ⟨hfs, -, hnew⟩ := h
    have hname : f.name ∉ fs.map Field.name := fun hmem =>
      hnew _ hmem _ (List.mem_singleton_self _) rfl
    have hset : setFields (fs ++ [f]) = setField f (setFields fs) := by
      simp [setFields, List.foldl_append]
    rw [hset, ih hfs, setField_of_not_mem hname]

theorem setField_map {cube : String → Field} (hname : ∀ v, (cube v).name = v) {v : String}
    {names : List String} (hv : v ∈ names) :
  setField (cube v) (names.map cube) = names.map cube
  := by
  induction names with
  | nil => cases hv
  | cons w names ih =>
    by_cases heq : w = v
    · simp [setField, hname, heq]
    · have hmem : v ∈ names := (List.mem_cons.mp hv).resolve_left (Ne.symm heq)
      simp [setField, hname, heq, ih hmem]

/-- Of fields that are made of their names only one is kept for each name. -/
theorem exists_setFields_map (cube : String → Field) (hname : ∀ v, (cube v).name = v)
    (names : List String) :
  ∃ kept : List String, kept.Nodup ∧ (∀ v, v ∈ kept ↔ v ∈ names)
    ∧ setFields (names.map cube) = kept.map cube
  := by
  induction names using List.reverseRecOn with
  | nil => exact ⟨[], List.nodup_nil, fun v => Iff.rfl, rfl⟩
  | append_singleton names v ih =>
    obtain ⟨kept, hnodup, hmem, hset⟩ := ih
    have hstep : setFields ((names ++ [v]).map cube) = setField (cube v) (kept.map cube) := by
      rw [← hset]
      simp [setFields, List.foldl_append]
    rw [hstep]
    by_cases hv : v ∈ kept
    · refine ⟨kept, hnodup, ?_, setField_map hname hv⟩
      intro w
      rw [List.mem_append, List.mem_singleton, hmem]
      constructor
      · exact Or.inl
      · rintro (hw | rfl)
        · exact hw
        · exact (hmem _).mp hv
    · have hnew : (cube v).name ∉ (kept.map cube).map Field.name := by
        simpa [hname, Function.comp_def] using hv
      refine ⟨kept ++ [v], ?_, ?_, ?_⟩
      · simpa using hnodup.concat hv
      · intro w
        rw [List.mem_append, List.mem_append, hmem]
      · rw [setField_of_not_mem hnew, List.map_append, List.map_singleton]

/-- Fields over dimensions of given sizes: a line along each dimension, and variables over all of
them, which are not named like one. -/
structure IsCube (axes : List String) (shape : List Nat) (lines cubes : List Field) : Prop where
  length_eq : axes.length = shape.length
  nodup_axes : axes.Nodup
  names_eq : lines.map Field.name = axes
  line_eq : ∀ f ∈ lines, f.dims = [f.name] ∧ ∃ n, (f.name, n) ∈ axes.zip shape ∧ f.block.shape = [n]
  cube_eq : ∀ f ∈ cubes, f.dims = axes ∧ f.block.shape = shape
  nodup_names : (cubes.map Field.name).Nodup
  apart : ∀ f ∈ cubes, f.name ∉ axes

/-- A line for each dimension and a variable for each name make a grid over all dimensions. -/
theorem isCube_map {axes : List String} {shape : List Nat} (hlength : axes.length = shape.length)
    (haxes : axes.Nodup) {line : String → Field}
    (hline : ∀ dim n, (dim, n) ∈ axes.zip shape →
      (line dim).name = dim ∧ (line dim).dims = [dim] ∧ (line dim).block.shape = [n])
    {names : List String} (hnames : names.Nodup) (hapart : ∀ v ∈ names, v ∉ axes)
    {cube : String → Field}
    (hcube : ∀ v ∈ names,
      (cube v).name = v ∧ (cube v).dims = axes ∧ (cube v).block.shape = shape) :
  IsCube axes shape (axes.map line) (names.map cube)
  := by
  have hsize : ∀ dim ∈ axes, ∃ n, (dim, n) ∈ axes.zip shape := by
    intro dim hdim
    obtain ⟨i, hi, rfl⟩ := List.mem_iff_getElem.mp hdim
    exact ⟨_, getElem_mem_zip hi (hlength ▸ hi)⟩
  have hnames' : (names.map cube).map Field.name = names := by
    rw [List.map_map]
    exact (List.map_congr_left fun v hv => (hcube v hv).1).trans (List.map_id names)
  constructor
  · exact hlength
  · exact haxes
  · rw [List.map_map]
    apply (List.map_congr_left _).trans (List.map_id axes)
    intro dim hdim
    obtain ⟨n, hn⟩ := hsize dim hdim
    exact (hline dim n hn).1
  · intro f hf
    obtain ⟨dim, hdim, rfl⟩ := List.mem_map.mp hf
    obtain ⟨n, hn⟩ := hsize dim hdim
    obtain ⟨hname, hdims, hshape⟩ := hline dim n hn
    rw [hname]
    exact ⟨hdims, n, hn, hshape⟩
  · intro f hf
    obtain ⟨v, hv, rfl⟩ := List.mem_map.mp hf
    exact (hcube v hv).2
  · rwa [hnames']
  · intro f hf
    apply hapart
    rw [← hnames']
    exact List.mem_map_of_mem hf

namespace IsCube

variable {axes : List String} {shape : List Nat} {lines cubes : List Field}
  (h : IsCube axes shape lines cubes)

include h

theorem map_fst_zip :
  (axes.zip shape).map Prod.fst = axes
  := List.map_fst_zip h.length_eq.le

/-- A dimension has one size. -/
theorem size_eq {p q : String × Nat} (hp : p ∈ axes.zip shape) (hq : q ∈ axes.zip shape)
    (hdim : p.1 = q.1) :
  p = q
  := by
  apply List.inj_on_of_nodup_map _ hp hq hdim
  rw [h.map_fst_zip]
  exact h.nodup_axes

theorem mem_zip_of_mem_sizes {p : String × Nat} (hp : p ∈ (lines ++ cubes).flatMap Field.sizes) :
  p ∈ axes.zip shape
  := by
  obtain ⟨f, hf, hp⟩ := List.mem_flatMap.mp hp
  rcases List.mem_append.mp hf with hf | hf
  · obtain ⟨hdims, n, hn, hshape⟩ := h.line_eq f hf
    obtain rfl : p = (f.name, n) := by simpa [Field.sizes, hdims, hshape] using hp
    exact hn
  · obtain ⟨hdims, hshape⟩ := h.cube_eq f hf
    rwa [Field.sizes, hdims, hshape] at hp

theorem mem_sizes_of_mem_zip {p : String × Nat} (hp : p ∈ axes.zip shape) :
  p ∈ (lines ++ cubes).flatMap Field.sizes
  := by
  have hdim : p.1 ∈ lines.map Field.name := h.names_eq ▸ (List.of_mem_zip hp).1
  obtain ⟨f, hf, hname⟩ := List.mem_map.mp hdim
  obtain ⟨hdims, n, hn, hshape⟩ := h.line_eq f hf
  obtain rfl := h.size_eq hn hp hname
  apply List.mem_flatMap.mpr ⟨f, List.mem_append_left _ hf, ?_⟩
  simp [Field.sizes, hdims, hshape]

theorem namesDim_iff {f : Field} :
  namesDim (lines ++ cubes) f ↔ f.name ∈ axes
  := by
  simp only [namesDim, List.any_eq_true, beq_iff_eq]
  constructor
  · rintro ⟨p, hp, hname⟩
    rw [← hname]
    exact (List.of_mem_zip (h.mem_zip_of_mem_sizes hp)).1
  · intro hname
    rw [← h.map_fst_zip] at hname
    obtain ⟨p, hp, hname⟩ := List.mem_map.mp hname
    use p, h.mem_sizes_of_mem_zip hp

theorem areFit :
  AreFit lines cubes
  := by
  constructor
  · intro f hf
    rcases List.mem_append.mp hf with hf | hf
    · obtain ⟨hdims, n, -, hshape⟩ := h.line_eq f hf
      rw [hdims, hshape]
      rfl
    · obtain ⟨hdims, hshape⟩ := h.cube_eq f hf
      rw [hdims, hshape, h.length_eq]
  · intro f hf
    rw [h.names_eq]
    exact h.apart f hf
  · rw [unevenDim?, Option.map_eq_none_iff, List.find?_eq_none]
    intro p hp
    simp only [List.any_eq_true, not_exists, not_and, Bool.and_eq_true, beq_iff_eq, bne_iff_ne]
    intro q hq hdim hsize
    have hpq := h.size_eq (h.mem_zip_of_mem_sizes hp) (h.mem_zip_of_mem_sizes hq) hdim
    rw [hpq] at hsize
    exact hsize rfl
  · intro f hf hdim
    rcases List.mem_append.mp hf with hf | hf
    · rw [(h.line_eq f hf).1]
      simp
    · exact absurd (h.namesDim_iff.mp hdim) (h.apart f hf)

/-- The fields make a grid, which has them as its coordinates and its data variables. -/
theorem ofFields_eq_ok (attributes : Attributes) :
  ofFields lines cubes attributes = .ok ⟨lines, cubes, attributes⟩
  := by
  have hlines : setFields lines = lines := setFields_eq_self (h.names_eq.symm ▸ h.nodup_axes)
  have hcubes : setFields cubes = cubes := setFields_eq_self h.nodup_names
  have hnone : ∀ f ∈ cubes, namesDim (lines ++ cubes) f = false := by
    intro f hf
    rw [← Bool.not_eq_true, h.namesDim_iff]
    exact h.apart f hf
  rw [ofFields_eq_ok_iff, hlines, hcubes]
  use h.areFit
  rw [List.filter_eq_nil_iff.mpr fun f hf => by simp [hnone f hf],
    List.filter_eq_self.mpr fun f hf => by simp [hnone f hf], List.append_nil]

section Child

variable (attributes : Attributes)

theorem isBuilt :
  IsBuilt ⟨lines, cubes, attributes⟩
  := ⟨lines, cubes, attributes, h.ofFields_eq_ok attributes⟩

/-- The dimensions of the grid have the given sizes. -/
theorem size?_eq {dim : String} {n : Nat} (hdim : (dim, n) ∈ axes.zip shape) :
  size? ⟨lines, cubes, attributes⟩ dim = some n
  := (h.isBuilt attributes).fits.size?_eq (h.mem_sizes_of_mem_zip hdim)

/-- The values of a dimension are those of its line. -/
theorem values_eq_ok {f : Field} (hf : f ∈ lines) :
  values ⟨lines, cubes, attributes⟩ f.name = .ok f.block
  := by
  have hfield := (h.isBuilt attributes).fits.field?_name (List.mem_append_left _ hf)
  simp [values, fieldOrPositions, hfield, Except.map]

/-- The grid can be a child, whose merged axis is the first dimension. -/
theorem ofGrid_eq_ok {axis : String} {others : List String} (haxes : axes = axis :: others)
    (hne : cubes ≠ []) :
  Child.ofGrid ⟨lines, cubes, attributes⟩ .null .null .null none
    = .ok ⟨⟨lines, cubes, attributes⟩, .null, .null, axis, others, .memory 0⟩
  := by
  obtain ⟨first, rest, hcubes⟩ := List.exists_cons_of_ne_nil hne
  have hfirst : first.dims = axis :: others := by
    rw [← haxes]
    exact (h.cube_eq first (hcubes ▸ List.mem_cons_self)).1
  have hsame : Child.otherDims? (axis :: others) rest = none := by
    apply List.find?_eq_none.mpr
    intro f hf
    have hdims := (h.cube_eq f (hcubes ▸ List.mem_cons_of_mem _ hf)).1
    simp [hdims, haxes]
  simp [Child.ofGrid, Origin.ofHandle, hcubes, hfirst, hsame]

theorem isBuilt_child {axis : String} {others : List String} (haxes : axes = axis :: others)
    (hne : cubes ≠ []) :
  Child.IsBuilt ⟨⟨lines, cubes, attributes⟩, .null, .null, axis, others, .memory 0⟩
  := ⟨h.isBuilt attributes, .null, h.ofGrid_eq_ok attributes haxes hne⟩

/-- The child is regular. -/
theorem isRegular_child {axis : String} {others : List String} (haxes : axes = axis :: others) :
  Child.IsRegular ⟨⟨lines, cubes, attributes⟩, .null, .null, axis, others, .memory 0⟩
  := by
  constructor
  · rw [Child.axes, ← haxes]
    exact h.nodup_axes
  · intro dim hdim b hb
    rw [Child.axes, ← haxes, ← h.names_eq] at hdim
    obtain ⟨f, hf, rfl⟩ := List.mem_map.mp hdim
    obtain ⟨-, n, hn, hshape⟩ := h.line_eq f hf
    obtain rfl := Except.ok.inj ((h.values_eq_ok attributes hf).symm.trans hb)
    rw [hshape, h.size?_eq attributes hn, Option.getD_some]

theorem shape_child {axis : String} {others : List String} (haxes : axes = axis :: others) :
  Child.shape ⟨⟨lines, cubes, attributes⟩, .null, .null, axis, others, .memory 0⟩ = shape
  := by
  apply List.ext_getElem
  · simp [Child.shape, Child.axes, ← haxes, h.length_eq]
  · intro i hi hi'
    have hdim : i < axes.length := h.length_eq ▸ hi'
    have hsize := h.size?_eq attributes (getElem_mem_zip hdim hi')
    simp [Child.shape, Child.axes, ← haxes, hsize]

end Child

end IsCube

end Grid

end GridUnion
