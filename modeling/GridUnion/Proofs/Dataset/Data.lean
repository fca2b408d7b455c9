import GridUnion.Proofs.Block.Fill
import GridUnion.Proofs.Dataset.Build

/-!
# Data of datasets

The values of a variable at requested positions are read from the child that owns it: the element at
a position is that of the row which the child's map has there, or the variable's blank.
-/

namespace GridUnion

namespace Child

variable {c : Child}

/-- Merged values are as many as the values of the merged axis. -/
theorem shape_mergeValues {b : Block} (h : c.mergeValues = .ok b) :
  ∃ values, c.grid.values c.axis = .ok values ∧ b.shape = values.shape
  := by
  simp only [mergeValues, bind_eq_ok_iff] at h
  obtain ⟨values, hvalues, h⟩ := h
  use values, hvalues
  split at h
  · simp only [Times.toNanoseconds, bind_eq_ok_iff, liftConversion_eq_ok_iff, pure_eq_ok_iff] at h
    obtain ⟨instants, hinstants, rfl⟩ := h
    have hshape := Block.shape_mapM hinstants
    exact hshape
  · rw [pure_eq_ok_iff.mp h]

/-- A regular child has a position for every value it merges. -/
theorem IsRegular.shape_eq_cons (h : c.IsRegular) {b : Block} (hb : c.mergeValues = .ok b) :
  c.shape = b.data.length :: c.shape.tail
  := by
  obtain ⟨values, hvalues, hshape⟩ := shape_mergeValues hb
  have hsize := h.shape_eq c.axis List.mem_cons_self values hvalues
  rw [b.size_eq, hshape, hsize]
  simp [shape, axes]

end Child

namespace Block

/-- A block has the values of a line at the positions of a request. -/
structure HasValuesAt (b line : Block) (r : Request) : Prop where
  type_eq : b.type = line.type
  shape_eq : b.shape = [r.length]
  get_eq : ∀ i < r.length, b.get [i] = line.get [r.position i]

theorem hasValuesAt_select {line : Block} {r : Request} (hline : line.shape.length = 1) :
  (line.select [r.positions]).HasValuesAt line r
  := by
  have hshape : line.shape.drop 1 = [] := by rw [← hline, List.drop_length]
  have hselect : line.select [r.positions]
      = tabulate line.type [r.length] fun ix => line.get (through [r.positions] ix) := by
    simp [select_eq_tabulate, hshape]
  rw [hselect]
  constructor
  · rfl
  · rfl
  · intro i hi
    rw [get_tabulate _ (List.Forall₂.cons hi List.Forall₂.nil)]
    simp [through, Request.positions_eq_map, hi]

section Line

variable {b line : Block} {r : Request}

/-- The elements at the positions of a request. -/
theorem HasValuesAt.data_eq (h : b.HasValuesAt line r) {n : Nat} (hline : line.shape = [n]) :
  b.data = r.positions.map fun p => line.data.getD p default
  := by
  have hlength : b.data.length = r.length := by
    rw [b.size_eq, h.shape_eq]
    simp
  apply List.ext_getElem
  · simp [hlength]
  · intro i hi _
    have hget := h.get_eq i (hlength ▸ hi)
    simpa [get, h.shape_eq, hline, offset, hi, Request.positions_eq_map] using hget

theorem exists_mapM_of_subset {ε : Type} {type : ElementType} {f : Element → Except ε Element}
    {kept : Block} (hsub : b.data ⊆ line.data) (h : line.mapM type f = .ok kept) :
  ∃ block, b.mapM type f = .ok block
  := by
  obtain ⟨-, -, hline⟩ := mapM_eq_ok_iff_data.mp h
  have helement : ∀ e ∈ b.data, ∃ e', f e = .ok e' := by
    intro e he
    obtain ⟨e', -, he'⟩ := exists_mem_of_mapM hline (hsub he)
    exact ⟨e', he'⟩
  obtain ⟨data, hdata⟩ := exists_mapM_eq_ok helement
  unfold mapM
  split
  · exact ⟨_, rfl⟩
  · next e he => cases hdata.symm.trans he

/-- What is selected of values that can be kept can be kept. -/
theorem HasValuesAt.exists_kept (h : b.HasValuesAt line r) {n : Nat} (hline : line.shape = [n])
    (hvalid : r.Valid n) {kept : Block} (hkept : line.kept = .ok kept) :
  ∃ block, b.kept = .ok block ∧ block.shape = [r.length]
  := by
  have hlength : line.data.length = n := by
    rw [line.size_eq, hline]
    simp
  have hsub : b.data ⊆ line.data := by
    rw [h.data_eq hline, Request.positions_eq_map, List.map_map]
    intro e he
    obtain ⟨i, hi, rfl⟩ := List.mem_map.mp he
    have hlt := Request.position_lt hvalid (List.mem_range.mp hi)
    simp [hlength, hlt]
  have hexists : ∃ block, b.kept = .ok block := by
    unfold Block.kept at hkept ⊢
    rw [h.type_eq]
    split at hkept
    · apply exists_mapM_of_subset hsub hkept
    · apply exists_mapM_of_subset hsub hkept
    · exact ⟨b, rfl⟩
  obtain ⟨block, hblock⟩ := hexists
  use block, hblock
  rw [shape_kept hblock, h.shape_eq]

end Line

end Block

namespace Dataset

theorem axisValues_axis (d : Dataset) :
  d.axisValues d.first.axis = .ok d.union.axis
  := if_pos rfl

/-- The values of a line are selected at requested positions. -/
theorem axisData_eq_select {d : Dataset} {dim : String} {line : Block} {n : Nat} {r : Request}
    (hline : d.axisValues dim = .ok line) (hshape : line.shape = [n]) (hvalid : r.Valid n) :
  d.axisData dim r = .ok (line.select [r.positions])
  := by
  simp [axisData, hline, hshape, Request.positions?_slice hvalid]

section Variable

variable {d : Dataset} {children : List Child} {blocks : List Block} (h : d.Joins children blocks)

include h

theorem Joins.getElem?_blocks {k : Nat} {c : Child} (hc : children[k]? = some c) :
  ∃ b, blocks[k]? = some b ∧ c.mergeValues = .ok b
  := by
  have hall := mapM_eq_ok_iff.mp h.axes_eq
  obtain ⟨hlength, hget⟩ := List.forall₂_iff_get.mp hall
  obtain ⟨hk, rfl⟩ := List.getElem?_eq_some_iff.mp hc
  use blocks[k], List.getElem?_eq_getElem (hlength ▸ hk)
  simpa using hget k hk (hlength ▸ hk)

/-- The values of a variable are those in the rows of its owner's map. -/
theorem Joins.variableData_eq_stack [Machine] {v : String} {k : Nat} {c : Child} {f : Field}
    {m : IndexMap} (hk : d.owner v = .ok k) (hc : children[k]? = some c)
    (hm : d.union.maps[k]? = some m) (hf : c.grid.field? v = some f) (hdims : f.dims = c.axes)
    (hshape : f.block.shape = c.shape) (hregular : ∀ c ∈ children, c.IsRegular) {blank : Element}
    {merged : Request} {others : List Request}
    (hblank : none ∈ merged.rows m →
      (Child.fillOf f).scalar?.isSome ∧ (Child.fillOf f).store f.block.type = .ok blank)
    (hvalid : Request.AllValid d.shape (merged :: others))
    (hroom : Fetch.HasRoom f.block.type ((merged :: others).map Request.length)) :
  (d.variableData v merged others).result
    = .ok (Block.stack f.block.type (others.map Request.length) (Child.cellOf f.block others blank)
        (merged.rows m))
  := by
  have hmem : c ∈ children := List.mem_of_getElem? hc
  have hcRegular := hregular c hmem
  obtain ⟨b, hb, hmerge⟩ := h.getElem?_blocks hc
  have hsize : m.size = d.union.size := Axis.size_maps h.union_eq m (List.mem_of_getElem? hm)
  have hsizes := hcRegular.shape_eq_cons hmerge
  obtain ⟨hmergedValid, hothersValid⟩ := List.forall₂_cons.mp hvalid
  rw [← hsize] at hmergedValid
  have hothersValid : Request.AllValid c.shape.tail others := by
    rw [h.tail_shape_eq hregular c hmem]
    exact hothersValid
  have hsorted := Request.pairwise_rows_of_merge h.union_eq hb hm hmergedValid
  have hwithin := Request.rows_within_of_merge h.union_eq hb hm hmergedValid
  have hanswers := Child.answers_ofRows hcRegular.nodup hf hdims (hshape.trans hsizes) hsizes
    hothersValid hblank hsorted hwithin (some f.block.type)
  have hrun := (Fetch.run_eq_ok_iff hmergedValid hanswers
    (by simp [List.map_map, Function.comp_def]) (fun _ _ => rfl)).mpr ⟨hroom.allocates, rfl⟩
  have hchild : d.children[k]?.getD default = c := by
    rw [h.children_eq, hc]
    rfl
  simp [variableData, hk, hchild, AxisUnion.mapOfChild, hm, Child.fill_eq_ok hf,
    Child.fieldOrPositions_eq_ok hf, hrun]

theorem Joins.shape_axis :
  d.union.axis.shape = [d.union.size]
  := by
  obtain ⟨-, -, type, ps, data, -, -, -, -, hmerged, -⟩ := Axis.merge_eq_ok_iff.mp h.union_eq
  simp [AxisUnion.size, ← hmerged, Block.ofList]

/-- Every dimension has values, as many as its size. -/
theorem Joins.axisValues_shape (hbuilt : ∀ c ∈ children, c.IsBuilt)
    (hregular : ∀ c ∈ children, c.IsRegular) :
  List.Forall₂ (fun name (n : Nat) => ∃ values, d.axisValues name = .ok values ∧ values.shape = [n])
    d.axes d.shape
  := by
  have hfirst := hregular d.first h.first_mem
  obtain ⟨hother, -⟩ := List.nodup_cons.mp hfirst.nodup
  simp only [axes, shape, Child.axes, Child.shape, List.map_cons, List.drop_one, List.tail_cons]
  apply List.Forall₂.cons
  · use d.union.axis, d.axisValues_axis, h.shape_axis
  · rw [List.forall₂_map_right_iff, List.forall₂_same]
    intro dim hdim
    have hdim' := List.mem_cons_of_mem d.first.axis hdim
    obtain ⟨values, hvalues⟩ := (hbuilt d.first h.first_mem).exists_values dim hdim'
    use values
    constructor
    · rwa [axisValues, if_neg]
      rintro rfl
      exact hother hdim
    · apply hfirst.shape_eq dim hdim' values hvalues

/-- Every dimension has values, and what is requested is within them. -/
theorem Joins.exists_axisValues (hbuilt : ∀ c ∈ children, c.IsBuilt)
    (hregular : ∀ c ∈ children, c.IsRegular) {requests : List Request}
    (hvalid : Request.AllValid d.shape requests) :
  ∀ p ∈ d.axes.zip requests, ∃ values n, d.axisValues p.1 = .ok values ∧ values.shape = [n]
    ∧ p.2.Valid n
  := by
  obtain ⟨hlength, haxes⟩ := List.forall₂_iff_get.mp (h.axisValues_shape hbuilt hregular)
  obtain ⟨hlength', hvalid⟩ := List.forall₂_iff_get.mp hvalid
  intro p hp
  obtain ⟨i, hi, rfl⟩ := List.mem_iff_getElem.mp hp
  obtain ⟨hname, hrequest⟩ := Nat.lt_min.mp (List.length_zip ▸ hi)
  obtain ⟨values, hvalues, hshape⟩ := haxes i hname (hlength ▸ hname)
  have hr := hvalid i (hlength ▸ hname) hrequest
  simp only [List.get_eq_getElem] at hvalues hshape hr
  rw [List.getElem_zip]
  exact ⟨values, _, hvalues, hshape, hr⟩

/-- The values of every dimension are selected at the requested positions. -/
theorem Joins.exists_axisData (hbuilt : ∀ c ∈ children, c.IsBuilt)
    (hregular : ∀ c ∈ children, c.IsRegular) {requests : List Request}
    (hvalid : Request.AllValid d.shape requests) :
  ∀ p ∈ d.axes.zip requests, ∃ values b, d.axisValues p.1 = .ok values
    ∧ d.axisData p.1 p.2 = .ok b ∧ b.HasValuesAt values p.2
  := by
  intro p hp
  obtain ⟨values, n, hvalues, hshape, hr⟩ := h.exists_axisValues hbuilt hregular hvalid p hp
  use values, values.select [p.2.positions], hvalues, axisData_eq_select hvalues hshape hr
  exact Block.hasValuesAt_select (by rw [hshape]; rfl)

end Variable

/-! ### Blocks by name -/

theorem lookup_setBlock (name key : String) (b : Block) (data : List (String × Block)) :
  (setBlock name b data).lookup key = if key = name then some b else data.lookup key
  := by
  induction data with
  | nil =>
    by_cases hkey : key = name
    · simp [setBlock, hkey]
    · simp [setBlock, hkey, List.lookup_cons, beq_false_of_ne hkey]
  | cons p data ih =>
    obtain ⟨n, x⟩ := p
    by_cases hname : n = name
    · subst hname
      by_cases hkey : key = n
      · simp [setBlock, hkey]
      · simp [setBlock, hkey, List.lookup_cons, beq_false_of_ne hkey]
    · by_cases hkey : key = n
      · subst hkey
        simp [setBlock, hname]
      · simp only [setBlock, hname, if_false, List.lookup_cons, beq_false_of_ne hkey, ih]

/-- Sets the blocks of several names one after the other. -/
def setBlocks (pairs data : List (String × Block)) : List (String × Block) :=
  pairs.foldl (fun data p => setBlock p.1 p.2 data) data

/-- Of several blocks set under a name the last one is found. -/
theorem lookup_setBlocks (key : String) (pairs data : List (String × Block)) :
  (setBlocks pairs data).lookup key = (pairs.reverse.lookup key).or (data.lookup key)
  := by
  unfold setBlocks
  induction pairs generalizing data with
  | nil => simp
  | cons p pairs ih =>
    obtain ⟨name, b⟩ := p
    rw [List.foldl_cons, ih, lookup_setBlock, List.reverse_cons, List.lookup_append, Option.or_assoc]
    by_cases hkey : key = name
    · simp [hkey]
    · simp [hkey, List.lookup_cons, beq_false_of_ne hkey]

/-- The data of variables are set one after the other. -/
theorem variablesData_eq_ok [Machine] {d : Dataset} {merged : Request} {others : List Request}
    {block : String → Block} {names : List String}
    (h : ∀ v ∈ names, (d.variableData v merged others).result = .ok (block v))
    (data : List (String × Block)) :
  (d.variablesData merged others names data).result
    = .ok (setBlocks (names.map fun v => (v, block v)) data)
  := by
  induction names generalizing data with
  | nil => rfl
  | cons v vs ih =>
    obtain ⟨hv, hvs⟩ := List.forall_mem_cons.mp h
    simp [variablesData, hv, ih hvs, setBlocks]

/-! ### Checked requests -/

theorem checkRequests_eq_ok {names : List String} {sizes : List Nat} {requests : List Request}
    (h : Request.AllValid sizes requests) :
  checkRequests (names.zip (sizes.zip requests)) = .ok ()
  := by
  induction h generalizing names with
  | nil => simp [checkRequests]
  | @cons n r sizes requests hr _ ih =>
    cases names with
    | nil => rfl
    | cons name names =>
      simp [checkRequests, Request.check_eq_ok_iff.mpr hr, ih]

/-! ### Answers -/

/-- The data are computed exactly if the requests are within the dimensions and all dimensions and
variables have values. -/
theorem data_eq_ok_iff [Machine] {d : Dataset} {names : List String} {merged : Request}
    {others : List Request} {answer : List (String × Block)} :
  (d.data names (merged :: others)).result = .ok answer
    ↔ d.axes.length = (merged :: others).length
      ∧ checkRequests (d.axes.zip (d.shape.zip (merged :: others))) = .ok ()
      ∧ ∃ parts, List.Forall₂ (fun p q => p.1 = q.1 ∧ d.axisData p.1 p.2 = .ok q.2)
            (d.axes.zip (merged :: others)) parts
          ∧ (d.variablesData merged others names (setBlocks parts [])).result = .ok answer
  := by
  have hpart : ∀ (p : String × Request) (q : String × Block),
      (∃ b, d.axisData p.1 p.2 = .ok b ∧ (p.1, b) = q)
        ↔ p.1 = q.1 ∧ d.axisData p.1 p.2 = .ok q.2 := by
    rintro ⟨name, r⟩ ⟨key, b⟩
    simp only [Prod.mk.injEq]
    constructor
    · rintro ⟨_, hb, rfl, rfl⟩
      exact ⟨rfl, hb⟩
    · rintro ⟨rfl, hb⟩
      exact ⟨b, hb, rfl, rfl⟩
  by_cases hlength : d.axes.length = (merged :: others).length
  · simp only [data, hlength, ne_eq, not_true_eq_false, if_false, true_and, Noted.result_bind,
      Noted.result_liftM, Noted.result_mapM, bind_eq_ok_iff, mapM_eq_ok_iff, pure_eq_ok_iff, hpart]
    constructor
    · rintro ⟨⟨⟩, hcheck, hparts⟩
      exact ⟨hcheck, hparts⟩
    · rintro ⟨hcheck, hparts⟩
      exact ⟨(), hcheck, hparts⟩
  · have hlength' : ¬ (merged :: others).length = d.axes.length := fun h => hlength h.symm
    simp only [data, ne_eq, hlength', not_false_eq_true, if_true, Noted.result_bind,
      Noted.result_liftM, bind_eq_ok_iff, hlength, false_and]
    simp

section Read

variable {d : Dataset} {merged : Request} {others : List Request} {names : List String}
  {data answer : List (String × Block)}

/-- The variables whose data were read have owners. -/
theorem exists_owner_of_variablesData [Machine]
    (h : (d.variablesData merged others names data).result = .ok answer) :
  ∀ v ∈ names, ∃ k, d.owner v = .ok k
  := by
  induction names generalizing data with
  | nil => simp
  | cons v vs ih =>
    simp only [variablesData, variableData, Noted.result_bind, Noted.result_liftM,
      bind_eq_ok_iff] at h
    obtain ⟨b, ⟨k, hk, -⟩, hvs⟩ := h
    exact List.forall_mem_cons.mpr ⟨⟨k, hk⟩, ih hvs⟩

/-- The data of variables leave other names as they are. -/
theorem lookup_of_variablesData [Machine]
    (h : (d.variablesData merged others names data).result = .ok answer) {key : String}
    (hkey : key ∉ names) :
  answer.lookup key = data.lookup key
  := by
  induction names generalizing data with
  | nil => rw [← Except.ok.inj h]
  | cons v vs ih =>
    simp only [variablesData, Noted.result_bind, bind_eq_ok_iff] at h
    obtain ⟨b, -, hvs⟩ := h
    rw [List.mem_cons, not_or] at hkey
    rw [ih hvs hkey.2, lookup_setBlock, if_neg hkey.1]

/-- The data have the values of the merged axis if no variable and no other dimension has its
name. -/
theorem lookup_axis_of_data [Machine] (h : (d.data names (merged :: others)).result = .ok answer)
    (hothers : d.first.axis ∉ d.first.others) (hnames : d.first.axis ∉ names) :
  ∃ b, d.axisData d.first.axis merged = .ok b ∧ answer.lookup d.first.axis = some b
  := by
  obtain ⟨-, -, parts, hparts, hvariables⟩ := data_eq_ok_iff.mp h
  obtain ⟨⟨key, b⟩, rest, ⟨hkey, hb⟩, hrest, rfl⟩ := List.forall₂_cons_left_iff.mp hparts
  obtain rfl : d.first.axis = key := hkey
  have hkeys : (d.first.others.zip others).map Prod.fst = rest.map Prod.fst := by
    rw [← List.forall₂_eq_eq_eq, List.forall₂_map_left_iff, List.forall₂_map_right_iff]
    exact hrest.imp fun _ _ hpart => hpart.1
  have hlookup : rest.reverse.lookup d.first.axis = none := by
    rw [← Option.not_isSome_iff_eq_none, lookup_isSome_iff, List.map_reverse, List.mem_reverse,
      ← hkeys]
    intro hmem
    obtain ⟨p, hp, heq⟩ := List.mem_map.mp hmem
    exact hothers (heq ▸ (List.of_mem_zip hp).1)
  use b, hb
  rw [lookup_of_variablesData hvariables hnames, lookup_setBlocks, List.reverse_cons,
    List.lookup_append, hlookup]
  simp

end Read

section Answers

variable {d : Dataset} {merged : Request} {others : List Request} {names : List String}
  {axis : String × Request → Block} {block : String → Block}

/-- The blocks of dimensions, and after them those of variables, under their names. -/
def answer (d : Dataset) (requests : List Request) (axis : String × Request → Block)
    (names : List String) (block : String → Block) : List (String × Block) :=
  setBlocks (names.map fun v => (v, block v))
    (setBlocks ((d.axes.zip requests).map fun p => (p.1, axis p)) [])

theorem data_eq_answer [Machine] (hvalid : Request.AllValid d.shape (merged :: others))
    (haxis : ∀ p ∈ d.axes.zip (merged :: others), d.axisData p.1 p.2 = .ok (axis p))
    (hblock : ∀ v ∈ names, (d.variableData v merged others).result = .ok (block v)) :
  (d.data names (merged :: others)).result = .ok (d.answer (merged :: others) axis names block)
  := by
  have hlength : d.axes.length = (merged :: others).length := by
    rw [length_axes, hvalid.length_eq]
  apply data_eq_ok_iff.mpr
  refine ⟨hlength, checkRequests_eq_ok hvalid, _, ?_, variablesData_eq_ok hblock _⟩
  rw [List.forall₂_map_right_iff, List.forall₂_same]
  intro p hp
  use rfl, haxis p hp

theorem lookup_answer_of_mem {requests : List Request} {v : String} (hv : v ∈ names) :
  (d.answer requests axis names block).lookup v = some (block v)
  := by
  rw [answer, lookup_setBlocks, ← List.map_reverse, lookup_map_of_mem _ (List.mem_reverse.mpr hv)]
  rfl

theorem keys_zip {requests : List Request} (hlength : d.axes.length = requests.length) :
  ((d.axes.zip requests).map fun p => (p.1, axis p)).map Prod.fst = d.axes
  := by
  rw [List.map_map]
  exact List.map_fst_zip hlength.le

theorem lookup_answer_of_not_mem {requests : List Request}
    (hlength : d.axes.length = requests.length) (hnodup : d.axes.Nodup)
    {p : String × Request} (hp : p ∈ d.axes.zip requests) (hname : p.1 ∉ names) :
  (d.answer requests axis names block).lookup p.1 = some (axis p)
  := by
  have hvariables : (names.map fun v => (v, block v)).reverse.lookup p.1 = none := by
    apply List.lookup_eq_none_iff.mpr
    intro q hq
    obtain ⟨v, hv, rfl⟩ := List.mem_map.mp (List.mem_reverse.mp hq)
    simpa using fun heq : p.1 = v => hname (heq ▸ hv)
  have hkeys : (((d.axes.zip requests).map fun p => (p.1, axis p)).reverse.map Prod.fst).Nodup := by
    rw [List.map_reverse, List.nodup_reverse, keys_zip hlength]
    exact hnodup
  have haxis : ((d.axes.zip requests).map fun p => (p.1, axis p)).reverse.lookup p.1
      = some (axis p) := by
    apply (lookup_eq_some_iff_mem hkeys).mpr
    apply List.mem_reverse.mpr
    apply List.mem_map.mpr ⟨p, hp, rfl⟩
  rw [answer, lookup_setBlocks, lookup_setBlocks, hvariables, haxis]
  rfl

theorem lookup_answer_isSome_iff {requests : List Request}
    (hlength : d.axes.length = requests.length) {key : String} :
  ((d.answer requests axis names block).lookup key).isSome ↔ key ∈ d.axes ∨ key ∈ names
  := by
  rw [answer, lookup_setBlocks, lookup_setBlocks, Option.isSome_or, Option.isSome_or, Bool.or_eq_true,
    Bool.or_eq_true, lookup_isSome_iff, lookup_isSome_iff, List.map_reverse, List.map_reverse,
    keys_zip hlength]
  simp [or_comm, Function.comp_def]

end Answers

/-- If all requests are within their dimensions and the variables have values, the data hold the
values of every dimension and of every variable, and nothing else. -/
theorem Joins.data_eq_ok [Machine] {d : Dataset} {children : List Child} {blocks : List Block}
    (h : d.Joins children blocks) (hbuilt : ∀ c ∈ children, c.IsBuilt)
    (hregular : ∀ c ∈ children, c.IsRegular) {merged : Request} {others : List Request}
    (hvalid : Request.AllValid d.shape (merged :: others))
    {names : List String} (hnames : ∀ v ∈ names, v ∉ d.axes) {block : String → Block}
    (hblock : ∀ v ∈ names, (d.variableData v merged others).result = .ok (block v)) :
  ∃ data, (d.data names (merged :: others)).result = .ok data
    ∧ (∀ key, (data.lookup key).isSome ↔ key ∈ d.axes ∨ key ∈ names)
    ∧ (∀ p ∈ d.axes.zip (merged :: others), ∃ values b, d.axisValues p.1 = .ok values
        ∧ data.lookup p.1 = some b ∧ b.HasValuesAt values p.2)
    ∧ ∀ v ∈ names, data.lookup v = some (block v)
  := by
  have haxes := h.exists_axisData hbuilt hregular hvalid
  have hlength : d.axes.length = (merged :: others).length := by
    rw [length_axes, hvalid.length_eq]
  have hnodup : d.axes.Nodup := (hregular d.first h.first_mem).nodup
  choose! values axis hvalues haxis hselected using haxes
  use d.answer (merged :: others) axis names block, data_eq_answer hvalid haxis hblock
  refine ⟨fun key => lookup_answer_isSome_iff hlength, ?_, fun v hv => lookup_answer_of_mem hv⟩
  intro p hp
  have hname : p.1 ∉ names := fun hmem => hnames p.1 hmem (List.of_mem_zip hp).1
  exact ⟨values p, axis p, hvalues p hp, lookup_answer_of_not_mem hlength hnodup hp hname,
    hselected p hp⟩

end Dataset

end GridUnion
