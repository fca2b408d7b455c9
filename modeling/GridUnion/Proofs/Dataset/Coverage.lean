import GridUnion.Drawing
import GridUnion.Proofs.Axis.Coverage
import GridUnion.Proofs.Dataset.Join

/-!
# Coverages of datasets

A description of a dataset has a line for each column of its coverage, and a drawing has a row for
each.  So every child is described and drawn exactly if no two children are called the same.
-/

namespace GridUnion

/-- A child is present at as many positions as are true in its presence. -/
theorem IndexMap.count_true_presence (m : IndexMap) :
  m.presence.count true = m.countPresent
  := by
  rw [List.count_eq_countP, countPresent]
  apply List.countP_congr
  simp

namespace Dataset

open AxisUnion (AreDifferent)

variable {d : Dataset} {c : Coverage}

/-! ### Descriptions -/

/-- The lines of a description about the whole dataset. -/
def headLines (d : Dataset) : List String :=
  let axes := (d.axes.zip d.shape).map fun (n, s) => n ++ "[" ++ toString s ++ "]"
  ["Dataset " ++ d.id.formatted ++ ": " ++ d.title.formatted,
    "  axes: " ++ ", ".intercalate axes, "  variables: " ++ ", ".intercalate d.variableNames]

/-- The lines of a description about a coverage. -/
def countLines (d : Dataset) (c : Coverage) : List String :=
  c.columns.map fun q => d.columnLine c.axis.data.length q.1 q.2

/-- The line of a description about a child with a map: under how many of all positions it has a
value. -/
def childLine (d : Dataset) (label : Value) (m : IndexMap) : String :=
  "  " ++ label.formatted ++ s!": {m.countPresent} of {d.union.size} " ++ d.first.axis ++ " values"

/-- The numbers in the id and the title of a dataset can be put into text. -/
def IsShort (d : Dataset) : Prop := ¬ d.id.isTooLong ∧ ¬ d.title.isTooLong

theorem describe_of_not_isShort (h : ¬ d.IsShort) :
  d.describe = .error .numberTooLong
  := by
  have hlong : d.id.isTooLong || d.title.isTooLong := by
    rw [Bool.or_eq_true]
    exact Decidable.or_iff_not_not_and_not.mpr h
  rw [describe, if_pos hlong]
  rfl

theorem describe_of_isShort (h : d.IsShort) :
  d.describe = d.coverage.bind fun c => if AxisUnion.areDistinct c.columns then
      .ok ("\n".intercalate (d.headLines ++ d.countLines c ++ d.warnings.map ("  warning: " ++ ·)))
    else .error .labelsNotDistinct
  := by
  obtain ⟨hid, htitle⟩ := h
  rw [describe, if_neg (by simp [hid, htitle])]
  rcases d.coverage with f | c
  · rfl
  · by_cases hdistinct : AxisUnion.areDistinct c.columns
    · simp [hdistinct, headLines, countLines, bind, Except.bind, pure, Except.pure]
    · simp [hdistinct, bind, Except.bind, throw, throwThe, MonadExceptOf.throw]

/-- A dataset whose columns have labels of their own is described with the lines of its coverage. -/
theorem describe_eq (hshort : d.IsShort) (hc : d.coverage = .ok c) :
  d.describe = if AxisUnion.areDistinct c.columns then
      .ok ("\n".intercalate (d.headLines ++ d.countLines c ++ d.warnings.map ("  warning: " ++ ·)))
    else .error .labelsNotDistinct
  := by
  rw [describe_of_isShort hshort, hc]
  rfl

/-! ### Drawings -/

/-- The cells of a drawing have a row for each column of a coverage. -/
theorem get_coverageCells {i j : Nat} {q : Value × List Bool} {b : Bool}
    (hq : c.columns[i]? = some q) (hb : q.2[j]? = some b) (hj : j < c.axis.data.length) :
  (coverageCells c).get [i, j] = .int b.toInt
  := by
  obtain ⟨hi, -⟩ := List.getElem?_eq_some_iff.mp hq
  have hindex : Block.IsIndex [c.columns.length, c.axis.data.length] [i, j] :=
    .cons hi (.cons hj .nil)
  rw [coverageCells, Block.get_tabulate _ hindex]
  simp [Array.getD_eq_getD_getElem?, hq, hb]

/-- A drawing has a row for each child, with a one where the child is present and a zero where it is
not. -/
structure DrawsAll (u : AxisUnion) (cells : Block) : Prop where
  shape_eq : cells.shape = [u.maps.length, u.size]
  get_eq : ∀ i m, u.maps[i]? = some m → ∀ j b, m.presence[j]? = some b →
    cells.get [i, j] = .int b.toInt

theorem drawsAll_coverageCells {u : AxisUnion} {names : List Value} (h : u.ShowsAll names c) :
  DrawsAll u (coverageCells c)
  := by
  constructor
  · rw [← h.length_columns, ← h.length_axis]
    rfl
  · intro i m hm j b hb
    obtain ⟨hi, -⟩ := List.getElem?_eq_some_iff.mp hm
    obtain ⟨q, hq⟩ : ∃ q, c.columns[i]? = some q :=
      ⟨_, List.getElem?_eq_getElem (h.length_columns ▸ hi)⟩
    have hcolumn := hq
    rw [h.columns_eq, List.getElem?_zip_eq_some] at hcolumn
    have hpresence : m.presence = q.2 := by simpa [hm] using hcolumn.2
    apply get_coverageCells hq (hpresence ▸ hb)
    rw [h.length_axis, ← h.size_eq m (List.mem_of_getElem? hm), ← m.length_presence]
    exact (List.getElem?_eq_some_iff.mp hb).1

theorem exists_drawCoverage (hc : d.coverage = .ok c) (path : Option Value) :
  ∃ drawing, d.drawCoverage path = .ok drawing
    ∧ ∀ cells, .cells cells ∈ drawing ↔ cells = coverageCells c
  := by
  simp only [drawCoverage, hc, bind, Except.bind, pure, Except.pure]
  refine ⟨_, rfl, ?_⟩
  intro cells
  cases path with
  | none => simp [finish]
  | some p => simp [finish]

/-- Under labels of their own the children have a line each, in order. -/
theorem countLines_eq {names : List Value} (h : d.union.ShowsAll names c) :
  d.countLines c = List.zipWith d.childLine (AxisUnion.labels names) d.union.maps
  := by
  rw [countLines, h.columns_eq, h.length_axis, List.zip_map_right, List.map_map, List.zip,
    List.map_zipWith]
  congr 1
  funext name m
  simp [columnLine, childLine, IndexMap.count_true_presence]

/-! ### Every child -/

/-- Every child of a dataset has its column in the coverage, its line in a description and its row in
a drawing. -/
structure ShowsChildren (d : Dataset) (c : Coverage) : Prop where
  showsAll : d.union.ShowsAll (d.children.map Child.label) c
  lines_eq : d.countLines c
    = List.zipWith d.childLine (AxisUnion.labels (d.children.map Child.label)) d.union.maps
  drawsAll : DrawsAll d.union (coverageCells c)

theorem length_coverage (hc : d.coverage = .ok c) :
  c.axis.data.length = d.union.size
  := by
  obtain ⟨-, -, index, hindex, rfl⟩ := AxisUnion.coverage_eq_ok_iff.mp hc
  exact AxisUnion.length_tableIndex hindex

section Joins

variable {children : List Child} {blocks : List Block} (h : d.Joins children blocks)

include h

/-- A dataset has a coverage exactly if the labels of its children can be keys and the merged axis
can be an index. -/
theorem Joins.exists_coverage_iff :
  (∃ c, d.coverage = .ok c)
    ↔ Value.unhashableIn? (children.map Child.label) = none
      ∧ ∃ index, AxisUnion.tableIndex d.union.axis = .ok index
  := by
  have hlength : (children.map Child.label).length = blocks.length := by
    rw [List.length_map, (mapM_eq_ok_iff.mp h.axes_eq).length_eq]
  simp only [coverage, h.children_eq, AxisUnion.exists_coverage_iff h.union_eq, hlength, true_and]

variable (hc : d.coverage = .ok c)

include hc

theorem Joins.showsChildren_iff :
  d.ShowsChildren c ↔ AreDifferent (children.map Child.label)
  := by
  rw [← h.children_eq, ← (AxisUnion.showsAll_iff h.union_eq hc).1]
  constructor
  · exact ShowsChildren.showsAll
  · intro hall
    exact ⟨hall, countLines_eq hall, drawsAll_coverageCells hall⟩

theorem Joins.length_columns_iff :
  c.columns.length = children.length ↔ AreDifferent (children.map Child.label)
  := by
  rw [(mapM_eq_ok_iff.mp h.axes_eq).length_eq, ← h.children_eq]
  exact (AxisUnion.showsAll_iff h.union_eq hc).2

end Joins

/-! ### Datasets that can be described -/

/-- The labels of the children can be keys and stay apart as labels of columns, the merged axis can be
an index, and the id and the title can be put into text. -/
structure IsDescribable (d : Dataset) : Prop where
  isShort : d.IsShort
  hashable : Value.unhashableIn? (d.children.map Child.label) = none
  indexable : ∃ index, AxisUnion.tableIndex d.union.axis = .ok index
  distinct : AxisUnion.areDistinct
    (AxisUnion.labelled (AxisUnion.columnsOf (d.children.map Child.label) d.union.maps))

/-- Children that are called by texts can be described, whether their names differ or not. -/
theorem isDescribable_of_areTexts (hshort : d.IsShort)
    (h : AxisUnion.AreTexts (d.children.map Child.label))
    (hindex : ∃ index, AxisUnion.tableIndex d.union.axis = .ok index) :
  d.IsDescribable
  := by
  constructor
  · exact hshort
  · exact AxisUnion.unhashableIn?_of_areTexts h
  · exact hindex
  · exact AxisUnion.areDistinct_labelled_columnsOf h d.union.maps

theorem Joins.exists_describe_iff {children : List Child} {blocks : List Block}
    (h : d.Joins children blocks) :
  (∃ text, d.describe = .ok text) ↔ d.IsDescribable
  := by
  by_cases hshort : d.IsShort
  · rcases hc : d.coverage with f | c
    · have hdescribe : d.describe = .error f := by
        rw [describe_of_isShort hshort, hc]
        rfl
      constructor
      · rintro ⟨text, htext⟩
        cases hdescribe.symm.trans htext
      · intro hd
        obtain ⟨c, hc'⟩ := h.exists_coverage_iff.mpr ⟨h.children_eq ▸ hd.hashable, hd.indexable⟩
        cases hc.symm.trans hc'
    · obtain ⟨-, hhashable, index, hindex, rfl⟩ := AxisUnion.coverage_eq_ok_iff.mp hc
      rw [describe_eq hshort hc]
      split
      · next hdistinct =>
        exact iff_of_true ⟨_, rfl⟩ ⟨hshort, hhashable, ⟨index, hindex⟩, hdistinct⟩
      · next hdistinct =>
        apply iff_of_false
        · rintro ⟨text, htext⟩
          cases htext
        · exact fun hd => hdistinct hd.distinct
  · apply iff_of_false
    · rintro ⟨text, htext⟩
      cases (describe_of_not_isShort hshort).symm.trans htext
    · exact fun hd => hshort hd.isShort

/-- A coverage shows every child exactly if no two names are the same; otherwise it has fewer columns
than there are children.  Likewise the children of a dataset are all described and drawn exactly if
no two are called the same. -/
theorem coverage_showsAll_iff (axes : List Block) (names : List Value) (id title : Value)
    (children : List Child) :
  (∀ u, (AxisUnion.ofBlocks axes).result = .ok u →
      ((∃ c, u.coverage names = .ok c) ↔ names.length = axes.length
        ∧ Value.unhashableIn? names = none ∧ ∃ index, AxisUnion.tableIndex u.axis = .ok index)
      ∧ ∀ c, u.coverage names = .ok c →
          (u.ShowsAll names c ↔ AreDifferent names)
          ∧ (c.columns.length = axes.length ↔ AreDifferent names))
    ∧ ∀ d, (build id children title).result = .ok d →
        ((∃ c, d.coverage = .ok c)
          ↔ Value.unhashableIn? (children.map Child.label) = none
            ∧ ∃ index, AxisUnion.tableIndex d.union.axis = .ok index)
        ∧ ∀ c, d.coverage = .ok c →
          (d.ShowsChildren c ↔ AreDifferent (children.map Child.label))
          ∧ ((d.countLines c).length = children.length ↔ AreDifferent (children.map Child.label))
          ∧ ((coverageCells c).shape = [children.length, d.union.size]
              ↔ AreDifferent (children.map Child.label))
          ∧ (d.IsShort → d.describe = if AxisUnion.areDistinct c.columns then
                .ok ("\n".intercalate
                  (d.headLines ++ d.countLines c ++ d.warnings.map ("  warning: " ++ ·)))
              else .error .labelsNotDistinct)
          ∧ (¬ d.IsShort → d.describe = .error .numberTooLong)
          ∧ ∀ path, ∃ drawing, d.drawCoverage path = .ok drawing
              ∧ ∀ cells, .cells cells ∈ drawing ↔ cells = coverageCells c
  := by
  constructor
  · intro u hu
    have hmerge := AxisUnion.merge_eq_of_ofBlocks hu
    exact ⟨AxisUnion.exists_coverage_iff hmerge, fun c => AxisUnion.showsAll_iff hmerge⟩
  · intro d hd
    obtain ⟨blocks, h⟩ := joins_of_build hd
    use h.exists_coverage_iff
    intro c hc
    have hcolumns := h.length_columns_iff hc
    refine ⟨h.showsChildren_iff hc, ?_, ?_, (describe_eq · hc), describe_of_not_isShort,
      exists_drawCoverage hc⟩
    · rwa [countLines, List.length_map]
    · rw [← hcolumns, coverageCells, ← length_coverage hc]
      simp [Block.tabulate]

/-- A child of a line of values that has a name. -/
def namedChild (label : String) (ts : List Int) (name : String) (xs : List Int) : Child :=
  { lineChild ts name xs with name := .text label }

/-- Two children with names of their own. -/
def namedChildren : List Child := [namedChild "a" [1, 3] "v" [10, 30], namedChild "b" [3] "w" [33]]

/-- Both children are described and drawn. -/
theorem coverage_showsAll_named :
  ∃ d c, (build .null namedChildren .null).result = .ok d ∧ d.coverage = .ok c
    ∧ d.ShowsChildren c
    ∧ d.countLines c = ["  a: 2 of 2 t values", "  b: 1 of 2 t values"]
    ∧ (coverageCells c).get [1, 0] = .int 0
  := by
  let u : AxisUnion := ⟨[2, 1], Block.ofInts .int64 [1, 3],
    [IndexMap.ofRows [some 0, some 1], IndexMap.ofRows [none, some 0]]⟩
  let d : Dataset := ⟨.null, namedChild "a" [1, 3] "v" [10, 30], [namedChild "b" [3] "w" [33]],
    [("v", 0), ("w", 1)], u, .null, []⟩
  let c : Coverage := ⟨[(.text "a", [true, true]), (.text "b", [false, true])],
    Block.ofInts .int64 [1, 3]⟩
  have hbuild : (build .null namedChildren .null).result = .ok d := rfl
  have hnames : ["a", "b"].Nodup := by decide
  have hdifferent : AreDifferent (namedChildren.map Child.label) :=
    AxisUnion.areDifferent_text_iff.mpr hnames
  have hcolumns : AxisUnion.columnsOf (namedChildren.map Child.label) u.maps = c.columns :=
    AxisUnion.columnsOf_eq_zip rfl hdifferent
  have hcoverage : d.coverage = .ok c :=
    AxisUnion.coverage_eq_ok rfl rfl rfl hcolumns
  obtain ⟨-, hdataset⟩ := coverage_showsAll_iff [] [] .null .null namedChildren
  obtain ⟨hshows, -⟩ := (hdataset d hbuild).2 c hcoverage
  have hall := hshows.mpr hdifferent
  exact ⟨d, c, hbuild, hcoverage, hall, by decide, hall.drawsAll.get_eq 1 _ rfl 0 false rfl⟩

/-- Of two children of one name only the second has a column. -/
theorem not_showsAll_sameName :
  let names : List Value := [.text "a", .text "a"]
  ∃ u c, (AxisUnion.ofBlocks [Block.ofInts .int64 [1], Block.ofInts .int64 [2]]).result = .ok u
    ∧ u.maps.map IndexMap.presence = [[true, false], [false, true]]
    ∧ u.coverage names = .ok c ∧ c.columns = [(.text "a", [false, true])] ∧ ¬ u.ShowsAll names c
  := by
  intro names
  let u : AxisUnion := ⟨[1, 1], Block.ofInts .int64 [1, 2],
    [IndexMap.ofRows [some 0, none], IndexMap.ofRows [none, some 0]]⟩
  let c : Coverage := ⟨[(.text "a", [false, true])], Block.ofInts .int64 [1, 2]⟩
  have hcolumns : AxisUnion.columnsOf names u.maps = c.columns := by
    simp [names, u, c, AxisUnion.columnsOf, AxisUnion.setColumn, IndexMap.presence_eq_map]
  have hcoverage : u.coverage names = .ok c :=
    AxisUnion.coverage_eq_ok rfl rfl rfl hcolumns
  refine ⟨u, c, rfl, rfl, hcoverage, rfl, ?_⟩
  intro hall
  exact absurd hall.length_columns (by decide)

end Dataset

end GridUnion
