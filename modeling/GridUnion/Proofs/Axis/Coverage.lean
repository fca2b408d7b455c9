import GridUnion.Proofs.Axis.Merge
import GridUnion.Proofs.Block.Index

/-!
# Coverages of unions

The columns of a coverage are set one after the other under their names, and a name that has a
column already gets no other: the column then shows the later child.  So every child is shown exactly
if no two names are the same.
-/

namespace GridUnion

namespace AxisUnion

/-! ### Columns by name -/

/-- No two names are the same. -/
def AreDifferent (names : List Value) : Prop := names.Pairwise fun a b => a.isSame b = false

instance (names : List Value) : Decidable (AreDifferent names) :=
  inferInstanceAs (Decidable (names.Pairwise _))

@[simp]
theorem isSame_text (s t : String) :
  (Value.text s).isSame (.text t) = (s == t)
  := by
  simp [Value.isSame, Value.equals, Value.scalar?, Scalar.equals, Scalar.compared, Scalar.asNumber]

theorem areDifferent_text_iff {texts : List String} :
  AreDifferent (texts.map Value.text) ↔ texts.Nodup
  := by
  simp [AreDifferent, List.Nodup, List.pairwise_map]

example : ¬ AreDifferent [.real .nan, .real .nan] ∧ AreDifferent [.nan 0, .nan 1] := by
  decide

section Columns

/-- Sets the columns of several names one after the other. -/
def setColumns (columns pairs : List (Value × List Bool)) : List (Value × List Bool) :=
  pairs.foldl (fun columns p => setColumn columns p.1 p.2) columns

/-- A name that no column has gets one behind the others; else the columns keep their names. -/
theorem setColumn_cases (columns : List (Value × List Bool)) (p : Value × List Bool) :
  (∀ q ∈ columns, q.1.isSame p.1 = false) ∧ setColumn columns p.1 p.2 = columns ++ [p]
    ∨ (∃ q ∈ columns, q.1.isSame p.1)
      ∧ (setColumn columns p.1 p.2).map Prod.fst = columns.map Prod.fst
  := by
  induction columns with
  | nil =>
    left
    exact ⟨by simp, rfl⟩
  | cons q columns ih =>
    by_cases hsame : q.1.isSame p.1
    · right
      exact ⟨⟨q, List.mem_cons_self, hsame⟩, by simp [setColumn, hsame]⟩
    · rw [Bool.not_eq_true] at hsame
      rcases ih with ⟨hnew, hset⟩ | ⟨⟨r, hr, hfound⟩, hkeys⟩
      · left
        exact ⟨List.forall_mem_cons.mpr ⟨hsame, hnew⟩, by simp [setColumn, hsame, hset]⟩
      · right
        exact ⟨⟨r, List.mem_cons_of_mem _ hr, hfound⟩, by simp [setColumn, hsame, hkeys]⟩

theorem length_setColumns_le (columns pairs : List (Value × List Bool)) :
  (setColumns columns pairs).length ≤ columns.length + pairs.length
  := by
  induction pairs generalizing columns with
  | nil => exact Nat.le_refl _
  | cons p pairs ih =>
    have hstep : (setColumn columns p.1 p.2).length ≤ columns.length + 1 := by
      rcases setColumn_cases columns p with ⟨-, hset⟩ | ⟨-, hkeys⟩
      · simp [hset]
      · have hlength : (setColumn columns p.1 p.2).length = columns.length := by
          simpa using congrArg List.length hkeys
        omega
    rw [setColumns, List.foldl_cons, ← setColumns, List.length_cons]
    apply Nat.le_trans (ih _)
    omega

/-- Different names that no column has get one each, in order. -/
theorem setColumns_eq_append {columns pairs : List (Value × List Bool)}
    (hnew : ∀ p ∈ pairs, ∀ q ∈ columns, q.1.isSame p.1 = false)
    (hnames : AreDifferent (pairs.map Prod.fst)) :
  setColumns columns pairs = columns ++ pairs
  := by
  induction pairs generalizing columns with
  | nil => simp [setColumns]
  | cons p pairs ih =>
    obtain ⟨hp, hpairs⟩ := List.forall_mem_cons.mp hnew
    obtain ⟨hfirst, hrest⟩ := List.pairwise_cons.mp hnames
    have hset : setColumn columns p.1 p.2 = columns ++ [p] := by
      rcases setColumn_cases columns p with ⟨-, hset⟩ | ⟨⟨q, hq, hsame⟩, -⟩
      · exact hset
      · simp [hp q hq] at hsame
    rw [setColumns, List.foldl_cons, hset, ← setColumns, ih _ hrest]
    · simp
    · intro r hr q hq
      rcases List.mem_append.mp hq with hq | hq
      · exact hpairs r hr q hq
      · rw [List.mem_singleton.mp hq]
        exact hfirst _ (List.mem_map_of_mem hr)

/-- If there are as many columns as names the names are different. -/
theorem areDifferent_of_length_setColumns {columns pairs : List (Value × List Bool)}
    (h : columns.length + pairs.length ≤ (setColumns columns pairs).length) :
  (∀ p ∈ pairs, ∀ q ∈ columns, q.1.isSame p.1 = false) ∧ AreDifferent (pairs.map Prod.fst)
  := by
  induction pairs generalizing columns with
  | nil => simp [AreDifferent]
  | cons p pairs ih =>
    have hle := length_setColumns_le (setColumn columns p.1 p.2) pairs
    rw [setColumns, List.foldl_cons, ← setColumns, List.length_cons] at h
    -- a name that has a column already leaves too few steps for the others
    rcases setColumn_cases columns p with ⟨hnew, hset⟩ | ⟨-, hkeys⟩
    · rw [hset] at h
      have hlong : (columns ++ [p]).length + pairs.length
          ≤ (setColumns (columns ++ [p]) pairs).length := by
        rw [List.length_append, List.length_singleton]
        omega
      obtain ⟨hpairs, hnames⟩ := ih hlong
      constructor
      · refine List.forall_mem_cons.mpr ⟨hnew, ?_⟩
        intro r hr q hq
        exact hpairs r hr q (List.mem_append_left _ hq)
      · rw [List.map_cons]
        apply List.Pairwise.cons _ hnames
        intro name hname
        obtain ⟨r, hr, rfl⟩ := List.mem_map.mp hname
        exact hpairs r hr p (List.mem_append_right _ List.mem_cons_self)
    · have hlength : (setColumn columns p.1 p.2).length = columns.length := by
        simpa using congrArg List.length hkeys
      omega

/-- Columns that are set one after the other have names of their own. -/
theorem areDifferent_setColumns {columns pairs : List (Value × List Bool)}
    (h : AreDifferent (columns.map Prod.fst)) :
  AreDifferent ((setColumns columns pairs).map Prod.fst)
    ∧ ∀ v ∈ (setColumns columns pairs).map Prod.fst,
      v ∈ columns.map Prod.fst ∨ v ∈ pairs.map Prod.fst
  := by
  induction pairs generalizing columns with
  | nil => exact ⟨h, fun v hv => .inl hv⟩
  | cons p pairs ih =>
    rw [setColumns, List.foldl_cons, ← setColumns]
    rcases setColumn_cases columns p with ⟨hnew, hset⟩ | ⟨-, hkeys⟩
    · have hdifferent : AreDifferent ((columns ++ [p]).map Prod.fst) := by
        rw [List.map_append]
        refine List.pairwise_append.mpr ⟨h, List.pairwise_singleton _ _, ?_⟩
        intro v hv w hw
        obtain ⟨q, hq, rfl⟩ := List.mem_map.mp hv
        rw [List.mem_singleton.mp hw]
        exact hnew q hq
      rw [← hset] at hdifferent
      obtain ⟨hrest, hmem⟩ := ih hdifferent
      refine ⟨hrest, fun v hv => ?_⟩
      have hv := hmem v hv
      simp only [hset, List.map_append, List.mem_append, List.map_cons, List.map_nil, List.mem_cons,
        List.not_mem_nil, or_false] at hv ⊢
      rwa [← or_assoc]
    · rw [← hkeys] at h
      obtain ⟨hrest, hmem⟩ := ih h
      refine ⟨hrest, fun v hv => ?_⟩
      rw [hkeys] at hmem
      exact (hmem v hv).imp_right (List.mem_cons_of_mem _)

end Columns

section Names

variable {names : List Value} {maps : List IndexMap} (h : names.length = maps.length)

theorem columnsOf_eq_setColumns (names : List Value) (maps : List IndexMap) :
  columnsOf names maps = setColumns [] (names.zip (maps.map IndexMap.presence))
  := by
  rw [columnsOf, setColumns, List.zip_map_right, List.foldl_map]
  rfl

include h

theorem map_fst_zip_presence :
  (names.zip (maps.map IndexMap.presence)).map Prod.fst = names
  := by
  apply List.map_fst_zip
  simp [h]

/-- Under different names the columns are the presences of the children in order. -/
theorem columnsOf_eq_zip (hdifferent : AreDifferent names) :
  columnsOf names maps = names.zip (maps.map IndexMap.presence)
  := by
  rw [← map_fst_zip_presence h] at hdifferent
  rw [columnsOf_eq_setColumns, setColumns_eq_append (by simp) hdifferent, List.nil_append]

/-- There is a column for each child exactly if the names are different. -/
theorem length_columnsOf_eq_iff :
  (columnsOf names maps).length = maps.length ↔ AreDifferent names
  := by
  have hpairs : (names.zip (maps.map IndexMap.presence)).length = maps.length := by simp [h]
  constructor
  · intro hlength
    rw [columnsOf_eq_setColumns] at hlength
    have hmany : ([] : List (Value × List Bool)).length
          + (names.zip (maps.map IndexMap.presence)).length
        ≤ (setColumns [] (names.zip (maps.map IndexMap.presence))).length := by
      apply Nat.le_of_eq
      rw [hlength, hpairs, List.length_nil, Nat.zero_add]
    rw [← map_fst_zip_presence h]
    exact (areDifferent_of_length_setColumns hmany).2
  · intro hdifferent
    rw [columnsOf_eq_zip h hdifferent, hpairs]

end Names

/-! ### Columns with labels -/

theorem length_labels (names : List Value) :
  (labels names).length = names.length
  := by
  simp only [labels]
  split
  · simp
  · split
    · simp
    · rfl

theorem length_labelled (columns : List (Value × List Bool)) :
  (labelled columns).length = columns.length
  := by
  simp [labelled, length_labels]

/-! ### Texts as labels -/

/-- The names are all texts. -/
def AreTexts (names : List Value) : Prop := ∀ v ∈ names, ∃ t, v = .text t

theorem unhashableIn?_of_areTexts {names : List Value} (h : AreTexts names) :
  Value.unhashableIn? names = none
  := by
  induction names with
  | nil => rfl
  | cons v names ih =>
    obtain ⟨⟨t, rfl⟩, hnames⟩ := List.forall_mem_cons.mp h
    simp [Value.unhashableIn?, Value.unhashable?, ih hnames]

/-- Texts are labels as they are. -/
theorem labels_of_areTexts {names : List Value} (h : AreTexts names) :
  labels names = names
  := by
  rcases names with _ | ⟨v, names⟩
  · rfl
  · have hkind : ∀ w ∈ v :: names, labelKind w = .text := by
      intro w hw
      obtain ⟨t, rfl⟩ := h w hw
      rfl
    have htexts : ((v :: names).map labelKind).any (· == .text)
        && ((v :: names).map labelKind).all (fun k => k == .text || k == .missing) := by
      simp only [Bool.and_eq_true, List.any_eq_true, List.all_eq_true, List.mem_map]
      constructor
      · exact ⟨.text, ⟨v, List.mem_cons_self, hkind v List.mem_cons_self⟩, rfl⟩
      · rintro k ⟨w, hw, rfl⟩
        rw [hkind w hw]
        rfl
    simp only [labels, if_pos htexts]
    conv_rhs => rw [← List.map_id (v :: names)]
    apply List.map_congr_left
    intro w hw
    rw [hkind w hw]
    rfl

theorem areDistinct_of_areDifferent {columns : List (Value × List Bool)}
    (htexts : AreTexts (columns.map Prod.fst)) (h : AreDifferent (columns.map Prod.fst)) :
  areDistinct columns
  := by
  induction columns with
  | nil => rfl
  | cons q columns ih =>
    obtain ⟨v, presence⟩ := q
    obtain ⟨hfirst, hrest⟩ := List.pairwise_cons.mp h
    obtain ⟨⟨t, rfl⟩, hothers⟩ := List.forall_mem_cons.mp htexts
    rw [areDistinct, Bool.and_eq_true, List.all_eq_true]
    refine ⟨?_, ih hothers hrest⟩
    rintro ⟨w, presence'⟩ hw
    obtain ⟨s, rfl⟩ := hothers w (List.mem_map_of_mem hw)
    have hne := hfirst (.text s) (List.mem_map_of_mem hw)
    simpa [isSameLabel, isNotANumber, Value.isSame] using hne

/-- The columns of names that are all texts have labels of their own. -/
theorem areDistinct_labelled_columnsOf {names : List Value} (h : AreTexts names)
    (maps : List IndexMap) :
  areDistinct (labelled (columnsOf names maps))
  := by
  let pairs := names.zip (maps.map IndexMap.presence)
  obtain ⟨hdifferent, hmem⟩ := @areDifferent_setColumns [] pairs .nil
  have htexts : AreTexts ((setColumns [] pairs).map Prod.fst) := by
    intro v hv
    rcases hmem v hv with hv | hv
    · cases hv
    · obtain ⟨p, hp, rfl⟩ := List.mem_map.mp hv
      exact h p.1 (List.of_mem_zip hp).1
  have hlabelled : labelled (setColumns [] pairs) = setColumns [] pairs := by
    rw [labelled, labels_of_areTexts htexts, List.zip_map']
    exact List.map_id _
  rw [columnsOf_eq_setColumns, hlabelled]
  exact areDistinct_of_areDifferent htexts hdifferent

/-! ### Indices -/

/-- An index has as many values as the merged axis. -/
theorem length_tableIndex {axis index : Block} (h : tableIndex axis = .ok index) :
  index.data.length = axis.data.length
  := by
  suffices hshape : index.shape = axis.shape by
    rw [index.size_eq, axis.size_eq, hshape]
  unfold tableIndex at h
  split at h
  · exact Block.shape_mapM h
  · rw [← Except.ok.inj h, looseIndex]
    split
    · rfl
    · split
      · next hmap => exact Block.shape_mapM hmap
      · rfl
  · exact Block.shape_kept h

/-! ### Coverages -/

/-- A coverage shows every child: it has a column for each, in order and labelled by its name, which
says at which positions of the merged axis the child is present. -/
structure ShowsAll (u : AxisUnion) (names : List Value) (c : Coverage) : Prop where
  columns_eq : c.columns = (labels names).zip (u.maps.map IndexMap.presence)
  length_columns : c.columns.length = u.maps.length
  length_axis : c.axis.data.length = u.size
  size_eq : ∀ m ∈ u.maps, m.size = u.size

variable {u : AxisUnion} {names : List Value} {c : Coverage}

theorem coverage_eq_ok_iff :
  u.coverage names = .ok c
    ↔ names.length = u.maps.length ∧ Value.unhashableIn? names = none
      ∧ ∃ index, tableIndex u.axis = .ok index ∧ ⟨labelled (columnsOf names u.maps), index⟩ = c
  := by
  unfold coverage
  split
  · next hlength => simp [hlength]
  · next hlength =>
    rw [not_not] at hlength
    split
    · next kind hkind => simp [hkind]
    · next hkind => simp [hlength, hkind]

theorem coverage_eq_ok (hlength : names.length = u.maps.length)
    (hkeys : Value.unhashableIn? names = none) {index : Block} (hindex : tableIndex u.axis = .ok index)
    {columns : List (Value × List Bool)} (hcolumns : columnsOf names u.maps = columns) :
  u.coverage names = .ok ⟨labelled columns, index⟩
  := by
  rw [← hcolumns]
  exact coverage_eq_ok_iff.mpr ⟨hlength, hkeys, index, hindex, rfl⟩

theorem merge_eq_of_ofBlocks {axes : List Block} (h : (ofBlocks axes).result = .ok u) :
  Axis.merge axes = .ok (u.axis, u.maps)
  := by
  simp only [result_ofBlocks, bind_eq_ok_iff, pure_eq_ok_iff] at h
  obtain ⟨sizes, -, union, hunion, rfl⟩ := h
  exact hunion

section Merge

variable {axes : List Block} (h : Axis.merge axes = .ok (u.axis, u.maps))

include h

/-- There is a coverage exactly if there is a name for each child, the names can be keys and the
merged axis can be an index. -/
theorem exists_coverage_iff :
  (∃ c, u.coverage names = .ok c)
    ↔ names.length = axes.length ∧ Value.unhashableIn? names = none
      ∧ ∃ index, tableIndex u.axis = .ok index
  := by
  simp only [coverage_eq_ok_iff, Axis.length_maps h]
  constructor
  · rintro ⟨c, hlength, hkeys, index, hindex, -⟩
    exact ⟨hlength, hkeys, index, hindex⟩
  · rintro ⟨hlength, hkeys, index, hindex⟩
    exact ⟨_, hlength, hkeys, index, hindex, rfl⟩

/-- A coverage has a column for each child exactly if the names are different, and then it shows
every child. -/
theorem showsAll_iff (hc : u.coverage names = .ok c) :
  (u.ShowsAll names c ↔ AreDifferent names)
    ∧ (c.columns.length = axes.length ↔ AreDifferent names)
  := by
  obtain ⟨hlength, -, index, hindex, rfl⟩ := coverage_eq_ok_iff.mp hc
  have hcolumns : (labelled (columnsOf names u.maps)).length = u.maps.length
      ↔ AreDifferent names := by
    rw [length_labelled, length_columnsOf_eq_iff hlength]
  refine ⟨⟨fun hall => hcolumns.mp hall.length_columns, ?_⟩, Axis.length_maps h ▸ hcolumns⟩
  intro hdifferent
  constructor
  · have hnames : (names.zip (u.maps.map IndexMap.presence)).map Prod.fst = names :=
      map_fst_zip_presence hlength
    have hpresences : (names.zip (u.maps.map IndexMap.presence)).map Prod.snd
        = u.maps.map IndexMap.presence := by
      apply List.map_snd_zip
      simp [hlength]
    rw [columnsOf_eq_zip hlength hdifferent, labelled, hnames, hpresences]
  · exact hcolumns.mpr hdifferent
  · exact length_tableIndex hindex
  · exact Axis.size_maps h

end Merge

end AxisUnion

end GridUnion
