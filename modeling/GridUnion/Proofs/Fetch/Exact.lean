import GridUnion.Proofs.Fetch.Positions

/-!
# Answers from any rows

Through any index map, whatever its rows, a request that is answered from a block has at every
position what the position says.  A read is only checked for its number of rows, and this is enough:
a slice of a run that has as many rows as the run has exactly the rows of the run.
-/

namespace GridUnion

/-! ### Slices of runs -/

namespace Slice

/-- As many steps as a slice has fit before its end. -/
theorem lt_of_toNat_ediv {n : Nat} {span step : Int} (hstep : 0 < step) (hn : 1 ≤ n)
    (h : ((span + step - 1) / step).toNat = n) :
  ((n : Int) - 1) * step < span
  := by
  have hle : (n : Int) ≤ (span + step - 1) / step := by omega
  have hmul := (Int.le_ediv_iff_mul_le hstep).mp hle
  rw [Int.sub_mul]
  omega

/-- A bound that counts from the end is kept like the one that counts from the start. -/
theorem clamp_add {size : Nat} {low high bound : Int} (hend : bound < 0)
    (hlow : -(size : Int) ≤ bound) :
  clamp size low high (bound + size) = clamp size low high bound
  := by
  rw [clamp, clamp, if_neg (by omega), if_pos hend]

end Slice

namespace Segment

/-- The rows of a run ascend within a child, all counted from its start, or all from its end; in the
latter case they leave out the last row. -/
def IsReadable (size : Nat) : Segment → Prop
  | fill _ => True
  | run start stride stop _ =>
    1 ≤ stride ∧ (0 ≤ start ∧ stop < size ∨ -(size : Int) ≤ start ∧ stop < -1)

variable {size n : Nat} {start stride stop : Int}

/-- A slice of a run that has as many rows as the run is one of rows that ascend within the
child. -/
theorem isReadable_of_positions? (hrun : (run start stride stop n).Proper)
    {picks : List Nat}
    (hpicks : (⟨start, stop + 1, stride⟩ : Slice).positions? size = some picks)
    (hlength : picks.length = n) :
  (run start stride stop n).IsReadable size
  := by
  -- the run spans from its first row to its last, and a slice has no more rows than the bounds that
  -- are kept of it span
  obtain ⟨hn, hstop, hone⟩ := hrun
  simp only [Slice.positions?] at hpicks
  rcases lt_trichotomy stride 0 with hneg | rfl | hpos
  · -- a slice that goes down has at least one row too few, since its stop is one too high
    rw [if_neg (by omega), if_neg (by omega)] at hpicks
    obtain rfl := Option.some.inj hpicks
    have hlt : 2 ≤ n := by
      by_contra hle
      have hstride := hone (by omega)
      omega
    have hspan := Slice.lt_of_toNat_ediv (Int.neg_pos_of_neg hneg) hn (by simpa using hlength)
    have hdown : ((n : Int) - 1) * -stride = start - stop := by
      rw [hstop]
      ring
    have hmoves : 0 < ((n : Int) - 1) * -stride := Int.mul_pos (by omega) (by omega)
    simp only [Slice.clamp] at hspan
    omega
  · cases hpicks
  · rw [if_neg (by omega), if_pos hpos] at hpicks
    obtain rfl := Option.some.inj hpicks
    have hspan := Slice.lt_of_toNat_ediv hpos hn (by simpa using hlength)
    have hup : 0 ≤ ((n : Int) - 1) * stride := Int.mul_nonneg (by omega) (by omega)
    simp only [Slice.clamp] at hspan
    exact ⟨hpos, by omega⟩

/-- The rows of a run that ascends are between its first and its last. -/
theorem within_of_lt (hrun : (run start stride stop n).Proper) (hstride : 1 ≤ stride)
    {i : Nat} (hi : i < n) :
  start ≤ start + i * stride ∧ start + i * stride ≤ stop
  := by
  have hle : (i : Int) * stride ≤ ((n : Int) - 1) * stride :=
    Int.mul_le_mul_of_nonneg_right (by omega) (by omega)
  have hnonneg : 0 ≤ (i : Int) * stride := Int.mul_nonneg (by omega) (by omega)
  rw [hrun.2.1]
  omega

/-- The rows of a run that ascends within a child are those of a request within the child, by which
the same rows are counted from the start. -/
theorem IsReadable.exists_valid (h : (run start stride stop n).IsReadable size)
    (hrun : (run start stride stop n).Proper) :
  ∃ shift : Int, (⟨start + shift, stride, stop + shift⟩ : Request).Valid size
    ∧ (⟨start + shift, stop + shift + 1, stride⟩ : Slice).positions? size
        = (⟨start, stop + 1, stride⟩ : Slice).positions? size
    ∧ ∀ row, start ≤ row → row ≤ stop → IndexMap.place? size row = some (row + shift).toNat
  := by
  obtain ⟨hstride, hwithin⟩ := h
  have hle : start ≤ stop := by
    have hfirst := within_of_lt hrun hstride hrun.1
    omega
  rcases hwithin with ⟨hlow, hhigh⟩ | ⟨hlow, hhigh⟩
  · use 0
    simp only [Int.add_zero, true_and]
    refine ⟨⟨hstride, hlow, by simp only; omega, hhigh⟩, ?_⟩
    intro row hstart hrow
    rw [IndexMap.place?, if_pos (by omega)]
  · use size
    refine ⟨⟨hstride, by simp only; omega, by simp only; omega, by simp only; omega⟩, ?_, ?_⟩
    · have hnext : stop + size + 1 = stop + 1 + size := by ring
      rw [hnext]
      simp only [Slice.positions?, Slice.clamp_add (show start < 0 by omega) hlow,
        Slice.clamp_add (show stop + 1 < 0 by omega) (show -(size : Int) ≤ stop + 1 by omega)]
    · intro row hstart hrow
      rw [IndexMap.place?, if_neg (by omega), if_pos (by omega)]

/-- A row of a run that ascends within a child has a place there. -/
theorem IsReadable.exists_place (h : (run start stride stop n).IsReadable size)
    (hrun : (run start stride stop n).Proper) {i : Nat} (hi : i < n) :
  ∃ place, IndexMap.place? size (start + i * stride) = some place
  := by
  obtain ⟨shift, -, -, hplace⟩ := h.exists_valid hrun
  obtain ⟨hlow, hhigh⟩ := within_of_lt hrun h.1 hi
  exact ⟨_, hplace _ hlow hhigh⟩

/-- The slice of a run that ascends within a child selects the places of the run's rows. -/
theorem IsReadable.positions?_eq (h : (run start stride stop n).IsReadable size)
    (hrun : (run start stride stop n).Proper) :
  (⟨start, stop + 1, stride⟩ : Slice).positions? size
    = some ((List.range n).map fun (i : Nat) =>
        (IndexMap.place? size (start + i * stride)).getD 0)
  := by
  obtain ⟨shift, hvalid, hslice, hplace⟩ := h.exists_valid hrun
  have hlength : (⟨start + shift, stride, stop + shift⟩ : Request).length = n := by
    apply Request.length_eq h.1 hrun.1
    rw [hrun.2.1]
    ring
  calc (⟨start, stop + 1, stride⟩ : Slice).positions? size
    _ = some (⟨start + shift, stride, stop + shift⟩ : Request).positions := by
      rw [← hslice]
      exact Request.positions?_slice hvalid
    _ = _ := by
      rw [Request.positions_eq_map, hlength]
      congr 1
      apply List.map_congr_left
      intro i hi
      obtain ⟨hlow, hhigh⟩ := within_of_lt hrun h.1 (List.mem_range.mp hi)
      rw [hplace _ hlow hhigh, Option.getD_some, Request.position]
      congr 1
      simp only
      ring

end Segment

/-! ### Reading any segments -/

namespace Fetch

open Block (stack IsIndex)

variable {f : Fetch} {data : Block}

/-- The row of a block that a number means, which counts from the end if it is negative. -/
def rowOf (data : Block) : Option Int → List Nat → Element
  | some row, ix => data.get ((IndexMap.place? (data.shape.headD 0) row).getD 0 :: ix)
  | none, _ => default

/-- What is read from a block for a segment. -/
def pieceOf (data : Block) : Segment → Piece
  | .fill n => .absent n
  | .run start stride stop n =>
    .read n (stack data.type data.shape.tail (rowOf data) (Segment.run start stride stop n).expand)

theorem count_comp_pieceOf (data : Block) :
  Piece.count ∘ pieceOf data = Segment.count
  := by
  funext s
  cases s with
  | fill n => rfl
  | run start stride stop n => rfl

/-- The rows of a block at the places of a run are the rows that the run means. -/
theorem select_places {size : Nat} {other : List Nat} (hdata : data.shape = size :: other)
    (start stride stop : Int) (n : Nat) :
  data.select [(List.range n).map fun (i : Nat) =>
      (IndexMap.place? size (start + i * stride)).getD 0]
    = stack data.type other (rowOf data) (Segment.run start stride stop n).expand
  := by
  rw [Block.select_rows hdata, Segment.expand, Block.stack_map, Block.stack_map]
  apply Block.stack_congr
  intro i _ ix _
  rw [rowOf, hdata, List.headD_cons]

/-- A read of a run gives as many rows as the run has exactly if the run ascends within the block,
and then these are the rows that the run means. -/
theorem ofBlock_eq_ok_iff {start stride stop : Int} {n call : Nat} {block : Block}
    (hrun : (Segment.run start stride stop n).Proper) :
  Reader.ofBlock data call start stride stop = .ok block ∧ block.shape = n :: data.shape.tail
    ↔ (Segment.run start stride stop n).IsReadable (data.shape.headD 0)
      ∧ stack data.type data.shape.tail (rowOf data) (Segment.run start stride stop n).expand
          = block
  := by
  rcases hdata : data.shape with _ | ⟨size, other⟩
  · have hno : ¬ (Segment.run start stride stop n).IsReadable 0 := by
      intro h
      obtain ⟨hlow, hhigh⟩ := Segment.within_of_lt hrun h.1 hrun.1
      have hwithin := h.2
      omega
    simp [Reader.ofBlock, hdata, hno]
  · simp only [Reader.ofBlock, hdata, Request.slice, List.tail_cons, List.headD_cons]
    constructor
    · rintro ⟨hblock, hshape⟩
      split at hblock
      · next picks hpicks =>
        obtain rfl := Except.ok.inj hblock
        have hlength : picks.length = n := by
          rw [Block.select_rows hdata] at hshape
          exact (List.cons.inj hshape).1
        have hreadable := Segment.isReadable_of_positions? hrun hpicks hlength
        rw [hreadable.positions?_eq hrun] at hpicks
        obtain rfl := Option.some.inj hpicks
        use hreadable
        apply (select_places hdata start stride stop n).symm
      · cases hblock
    · rintro ⟨hreadable, rfl⟩
      rw [hreadable.positions?_eq hrun]
      simp only [select_places hdata start stride stop n, true_and]
      simp [stack, Segment.count]

/-- The segments of any rows are read exactly if the runs ascend within the block, and then as the
rows that they mean. -/
theorem readAll_ofBlock_eq_ok_iff {segments : List Segment} (hproper : ∀ s ∈ segments, s.Proper)
    {call : Nat} {pieces : List Piece} :
  (readAll (Reader.ofBlock data) (data.shape.tail.map Int.ofNat) call segments).result = .ok pieces
    ↔ (∀ s ∈ segments, s.IsReadable (data.shape.headD 0)) ∧ segments.map (pieceOf data) = pieces
  := by
  induction segments generalizing call pieces with
  | nil => simp [readAll]
  | cons s segments ih =>
    obtain ⟨hs, hsegments⟩ := List.forall_mem_cons.mp hproper
    cases s with
    | fill n =>
      simp only [readAll_fill_eq_ok_iff, ih hsegments, List.forall_mem_cons, List.map_cons]
      constructor
      · rintro ⟨rest, ⟨hreadable, rfl⟩, rfl⟩
        exact ⟨⟨trivial, hreadable⟩, rfl⟩
      · rintro ⟨⟨-, hreadable⟩, rfl⟩
        exact ⟨_, ⟨hreadable, rfl⟩, rfl⟩
    | run start stride stop n =>
      have hshape (block : Block) : block.shape.map Int.ofNat
          = (n : Int) :: data.shape.tail.map Int.ofNat ↔ block.shape = n :: data.shape.tail := by
        rw [← Int.ofNat_eq_natCast, ← List.map_cons]
        exact (List.map_injective_iff.mpr fun _ _ => Int.ofNat.inj).eq_iff
      simp only [readAll_run_eq_ok_iff, ih hsegments, hshape, List.forall_mem_cons, List.map_cons]
      constructor
      · rintro ⟨block, hblock, hcount, rest, ⟨hreadable, rfl⟩, rfl⟩
        obtain ⟨hrun, rfl⟩ := (ofBlock_eq_ok_iff hs).mp ⟨hblock, hcount⟩
        exact ⟨⟨hrun, hreadable⟩, rfl⟩
      · rintro ⟨⟨hrun, hreadable⟩, rfl⟩
        obtain ⟨hblock, hcount⟩ := (ofBlock_eq_ok_iff hs).mpr ⟨hrun, rfl⟩
        exact ⟨_, hblock, hcount, _, ⟨hreadable, rfl⟩, rfl⟩

/-! ### The type of an answer from any rows -/

section AnswerType

variable {rows : List (Option Int)} {type : ElementType}

theorem AnswerType.eq_of_mem (h : AnswerType data f.fill rows f.type? type) {row : Int}
    (hrow : some row ∈ rows) :
  type = data.type
  := by
  generalize f.type? = known at h
  cases h with
  | given | read => rfl
  | filled hnone => cases hnone _ hrow

/-- If no other type than that of the block is known, an answer is of this type, or of the fill
value's if there are no rows. -/
theorem typeOf_eq_ok_iff (hknown : ∀ t ∈ f.type?, t = data.type) {pieces : List Piece}
    (h : (readAll (Reader.ofBlock data) f.other 1 (Segment.ofRows rows)).result = .ok pieces) :
  f.typeOf pieces = .ok type ↔ AnswerType data f.fill rows f.type? type
  := by
  constructor
  · intro htype
    have hfirst := firstType?_ofRows h
    rcases hgiven : f.type? with _ | t
    · rcases hrows : rows.reduceOption with _ | ⟨row, rest⟩
      · simp only [typeOf, hgiven, hfirst, hrows, List.head?_nil, Option.map_none, bind_eq_ok_iff,
          liftConversion_eq_ok_iff, pure_eq_ok_iff] at htype
        obtain ⟨b, hb, rfl⟩ := htype
        apply AnswerType.filled (reduceOption_eq_nil_iff.mp hrows) hb
      · simp only [typeOf, hgiven, hfirst, hrows, List.head?_cons, Option.map_some,
          Except.ok.injEq] at htype
        have hrow : row ∈ rows.reduceOption := hrows ▸ List.mem_cons_self
        rw [← htype]
        apply AnswerType.read (List.reduceOption_mem_iff.mp hrow)
    · obtain rfl := hknown t hgiven
      simp only [typeOf, hgiven, Except.ok.injEq] at htype
      rw [← htype]
      apply AnswerType.given
  · intro htype
    apply typeOf_of_readAll htype h

end AnswerType

/-! ### Rows of an answer -/

/-- The elements of a row where the child has none: the fill value as it is stored in the type of
the answer.  Of several values it has those that stand there when they are repeated in a gap of rows;
if they fit the other dimensions, every row has them all. -/
def HoldsFill (fill : Value) (type : ElementType) (other : List Nat)
    (cell : List Nat → Element) : Prop :=
  match fill with
  | .block _ | .list _ =>
    (∃ n, ∃ i < n, ∃ gap, Block.fill type (n :: other) fill = .ok gap
      ∧ ∀ ix, IsIndex other ix → cell ix = gap.get (i :: ix))
    ∧ ∀ blank, Block.fill type other fill = .ok blank →
        ∀ ix, IsIndex other ix → cell ix = blank.get ix
  | v => ∃ e, v.store type = .ok e ∧ ∀ ix, IsIndex other ix → cell ix = e

/-- The elements of a row of an answer from a block: those of the block in the row that is meant,
which is there, or the fill value. -/
def IsRow (data : Block) (fill : Value) (type : ElementType) :
    Option Int → (List Nat → Element) → Prop
  | some row, cell => ∃ place, IndexMap.place? (data.shape.headD 0) row = some place
      ∧ ∀ ix, IsIndex data.shape.tail ix → cell ix = data.get (place :: ix)
  | none, cell => HoldsFill fill type data.shape.tail cell

/-- In every row of a block that a value fills, the value is stored. -/
theorem holdsFill_of_fill {fill : Value} {type : ElementType} {other : List Nat} {n : Nat}
    {block : Block} (h : Block.fill type (n :: other) fill = .ok block) {i : Nat} (hi : i < n) :
  HoldsFill fill type other fun ix => block.get (i :: ix)
  := by
  have hrepeat {blank : Block} (hblank : Block.fill type other fill = .ok blank) (ix : List Nat)
      (hix : IsIndex other ix) : block.get (i :: ix) = blank.get ix := by
    have hstack := Block.fill_cons hblank (List.range n)
    rw [List.length_range] at hstack
    obtain rfl := Except.ok.inj (h.symm.trans hstack)
    apply Block.get_stack (List.getElem?_range hi) hix
  cases fill with
  | block | list => exact ⟨⟨n, i, hi, block, h, fun _ _ => rfl⟩, fun _ hblank => hrepeat hblank⟩
  | _ =>
    simp only [Block.fill, bind_eq_ok_iff, pure_eq_ok_iff] at h
    obtain ⟨e, he, rfl⟩ := h
    use e, he
    intro ix hix
    apply Block.get_replicate e (List.Forall₂.cons hi hix)

theorem HoldsFill.congr {fill : Value} {type : ElementType} {other : List Nat}
    {cell cell' : List Nat → Element} (h : HoldsFill fill type other cell)
    (hcell : ∀ ix, IsIndex other ix → cell' ix = cell ix) :
  HoldsFill fill type other cell'
  := by
  cases fill with
  | block | list =>
    obtain ⟨⟨n, i, hi, gap, hgap, hrow⟩, hfits⟩ := h
    constructor
    · refine ⟨n, i, hi, gap, hgap, ?_⟩
      intro ix hix
      rw [hcell ix hix, hrow ix hix]
    · intro blank hblank ix hix
      rw [hcell ix hix, hfits blank hblank ix hix]
  | _ =>
    obtain ⟨e, he, hrow⟩ := h
    use e, he
    intro ix hix
    rw [hcell ix hix, hrow ix hix]

theorem IsRow.congr {fill : Value} {type : ElementType} {row? : Option Int}
    {cell cell' : List Nat → Element} (h : IsRow data fill type row? cell)
    (hcell : ∀ ix, IsIndex data.shape.tail ix → cell' ix = cell ix) :
  IsRow data fill type row? cell'
  := by
  cases row? with
  | none => apply HoldsFill.congr h hcell
  | some row =>
    obtain ⟨place, hplace, hrow⟩ := h
    use place, hplace
    intro ix hix
    rw [hcell ix hix, hrow ix hix]

theorem isRow_rowOf {fill : Value} {type : ElementType} {start stride stop : Int} {n : Nat}
    (hrun : (Segment.run start stride stop n).Proper)
    (h : (Segment.run start stride stop n).IsReadable (data.shape.headD 0)) :
  ∀ row? ∈ (Segment.run start stride stop n).expand,
    IsRow data fill type row? (rowOf data row?)
  := by
  intro row? hrow
  obtain ⟨i, hi, rfl⟩ := List.mem_map.mp hrow
  obtain ⟨place, hplace⟩ := h.exists_place hrun (List.mem_range.mp hi)
  use place, hplace
  intro ix _
  rw [rowOf, hplace, Option.getD_some]

/-- Rows of the block are stored as they are. -/
theorem cells_pieceOf_run (f : Fetch) (data : Block) (start stride stop : Int) (n : Nat) :
  f.cells data.type data.shape.tail (pieceOf data (.run start stride stop n))
    = .ok (stack data.type data.shape.tail (rowOf data)
        (Segment.run start stride stop n).expand).data
  := by
  have hsame := Block.convert_self (stack data.type data.shape.tail (rowOf data)
    (Segment.run start stride stop n).expand)
  exact bind_eq_ok_iff.mpr ⟨_, liftConversion_eq_ok_iff.mpr hsame, rfl⟩

/-- The elements that are stored for a segment are those of the segment's rows. -/
theorem exists_isRow_of_cells {s : Segment} (hs : s.Proper)
    (hreadable : s.IsReadable (data.shape.headD 0)) {type : ElementType}
    (htype : ∀ row, some row ∈ s.expand → type = data.type) {elements : List Element}
    (h : f.cells type data.shape.tail (pieceOf data s) = .ok elements) :
  ∃ entries, List.Forall₂ (IsRow data f.fill type) s.expand entries
    ∧ elements = (stack type data.shape.tail id entries).data
  := by
  cases s with
  | fill n =>
    simp only [cells, pieceOf, bind_eq_ok_iff, liftConversion_eq_ok_iff, pure_eq_ok_iff] at h
    obtain ⟨block, hblock, rfl⟩ := h
    use (List.range n).map fun i ix => block.get (i :: ix)
    constructor
    · have hexpand : (Segment.fill n).expand = (List.range n).map fun _ => none := by
        simp [Segment.expand, List.map_const']
      rw [hexpand, List.forall₂_map_left_iff, List.forall₂_map_right_iff, List.forall₂_same]
      intro i hi
      apply holdsFill_of_fill hblock (List.mem_range.mp hi)
    · rw [Block.data_stack_rows (Block.shape_fill hblock)]
  | run start stride stop n =>
    obtain rfl : type = data.type := by
      apply htype start
      apply List.mem_map.mpr ⟨0, List.mem_range.mpr hs.1, by simp⟩
    obtain rfl := Except.ok.inj ((cells_pieceOf_run f data start stride stop n).symm.trans h)
    use (Segment.run start stride stop n).expand.map (rowOf data)
    constructor
    · rw [List.forall₂_map_right_iff, List.forall₂_same]
      apply isRow_rowOf hs hreadable
    · rw [Block.stack_map]
      rfl

/-- The elements that are stored for segments are those of the segments' rows. -/
theorem exists_isRow_of_mapM {segments : List Segment} (hproper : ∀ s ∈ segments, s.Proper)
    (hreadable : ∀ s ∈ segments, s.IsReadable (data.shape.headD 0)) {type : ElementType}
    (htype : ∀ row, some row ∈ segments.flatMap Segment.expand → type = data.type)
    {elements : List (List Element)}
    (h : (segments.map (pieceOf data)).mapM (f.cells type data.shape.tail) = .ok elements) :
  ∃ entries, List.Forall₂ (IsRow data f.fill type) (segments.flatMap Segment.expand) entries
    ∧ elements.flatten = (stack type data.shape.tail id entries).data
  := by
  rw [mapM_eq_ok_iff, List.forall₂_map_left_iff] at h
  induction h with
  | nil => exact ⟨[], List.Forall₂.nil, rfl⟩
  | @cons s first segments rest hfirst _ ih =>
    obtain ⟨hs, hsegments⟩ := List.forall_mem_cons.mp hproper
    obtain ⟨hread, hreads⟩ := List.forall_mem_cons.mp hreadable
    simp only [List.flatMap_cons, List.mem_append] at htype ⊢
    obtain ⟨entries, hentries, rfl⟩ := exists_isRow_of_cells hs hread
      (fun row hrow => htype row (.inl hrow)) hfirst
    obtain ⟨others, hothers, hflatten⟩ := ih hsegments hreads fun row hrow => htype row (.inr hrow)
    use entries ++ others, List.rel_append hentries hothers
    rw [List.flatten_cons, hflatten]
    simp [stack]

/-- The elements that are stored for the segments of rows are those of the rows. -/
theorem exists_isRow_of_ofRows {rows : List (Option Int)}
    (hreadable : ∀ s ∈ Segment.ofRows rows, s.IsReadable (data.shape.headD 0)) {type : ElementType}
    (htype : AnswerType data f.fill rows f.type? type) {elements : List (List Element)}
    (h : ((Segment.ofRows rows).map (pieceOf data)).mapM (f.cells type data.shape.tail)
      = .ok elements) :
  ∃ entries, List.Forall₂ (IsRow data f.fill type) rows entries
    ∧ elements.flatten = (stack type data.shape.tail id entries).data
  := by
  have hcuts := Segment.cuts_ofRows rows
  have hrows : ∀ row, some row ∈ (Segment.ofRows rows).flatMap Segment.expand →
      type = data.type := by
    intro row hrow
    rw [hcuts.expand_eq] at hrow
    apply htype.eq_of_mem hrow
  obtain ⟨entries, hentries, hflatten⟩ := exists_isRow_of_mapM hcuts.proper hreadable hrows h
  rw [hcuts.expand_eq] at hentries
  use entries

/-- The elements of the segments of rows can be stored if the fill value can. -/
theorem exists_cells_eq_ok {rows : List (Option Int)} {type : ElementType}
    (htype : AnswerType data f.fill rows f.type? type)
    (hfill : ∀ n, .fill n ∈ Segment.ofRows rows →
      ∃ b, Block.fill type (n :: data.shape.tail) f.fill = .ok b) :
  ∃ elements, ((Segment.ofRows rows).map (pieceOf data)).mapM (f.cells type data.shape.tail)
    = .ok elements
  := by
  apply exists_mapM_eq_ok
  intro piece hpiece
  obtain ⟨s, hs, rfl⟩ := List.mem_map.mp hpiece
  cases s with
  | fill n =>
    obtain ⟨b, hb⟩ := hfill n hs
    use b.data
    simp [cells, pieceOf, hb]
  | run start stride stop n =>
    have hstart := ((Segment.cuts_ofRows rows).ends_mem hs).1
    obtain rfl := htype.eq_of_mem (List.reduceOption_mem_iff.mp hstart)
    exact ⟨_, cells_pieceOf_run f data start stride stop n⟩

/-- An answer from a block that is right position by position: it has as many rows as positions are
requested, and each is the row that the map gives for its position. -/
structure IsExact (data : Block) (fill : Value) (m : IndexMap) (r : Request) (b : Block) :
    Prop where
  shape_eq : b.shape = r.length :: data.shape.tail
  isRow : ∀ i < r.length, ∃ row?, m.get (r.start + i * r.stride) = .ok row?
    ∧ IsRow data fill b.type row? fun ix => b.get (i :: ix)

/-- The block that is stacked of the rows at the requested positions is right at each of them. -/
theorem isExact_stack {m : IndexMap} {r : Request} (hr : r.Valid m.size) {fill : Value}
    {type : ElementType} {entries : List (List Nat → Element)}
    (h : List.Forall₂ (IsRow data fill type) (r.rows m) entries) :
  IsExact data fill m r (stack type data.shape.tail id entries)
  := by
  obtain ⟨hlength, hget⟩ := List.forall₂_iff_get.mp h
  rw [Request.length_rows] at hlength
  constructor
  · rw [hlength]
    rfl
  · intro i hi
    have hlt : i < (r.rows m).length := by simpa using hi
    have hrow := List.getElem?_eq_getElem (hlength ▸ hi)
    refine ⟨_, Request.get_position hr (List.getElem?_eq_getElem hlt), ?_⟩
    apply (hget i hlt (hlength ▸ hi)).congr
    intro ix hix
    apply Block.get_stack hrow hix

section Run

variable {m : IndexMap} {r : Request} (hr : r.Valid m.size)
  (hother : f.other = data.shape.tail.map Int.ofNat) (hknown : ∀ t ∈ f.type?, t = data.type)

include hr hother hknown

/-- A request is answered from a block by reading the runs and putting the pieces together. -/
theorem run_ofBlock_eq_ok_iff [Machine] {b : Block} :
  (f.run m r (Reader.ofBlock data)).result = .ok b
    ↔ (∀ s ∈ Segment.ofRows (r.rows m), s.IsReadable (data.shape.headD 0))
      ∧ AnswerType data f.fill (r.rows m) f.type? b.type
      ∧ Allocates b.type (r.length :: data.shape.tail)
      ∧ b.shape = r.length :: data.shape.tail
      ∧ ∃ elements, ((Segment.ofRows (r.rows m)).map (pieceOf data)).mapM
          (f.cells b.type data.shape.tail) = .ok elements ∧ elements.flatten = b.data
  := by
  have hcuts := Segment.cuts_ofRows (r.rows m)
  have hpieces {pieces : List Piece} :
      (readAll (Reader.ofBlock data) f.other 1 (Segment.ofRows (r.rows m))).result = .ok pieces
        ↔ (∀ s ∈ Segment.ofRows (r.rows m), s.IsReadable (data.shape.headD 0))
          ∧ (Segment.ofRows (r.rows m)).map (pieceOf data) = pieces :=
    hother ▸ readAll_ofBlock_eq_ok_iff hcuts.proper
  have hcount : (((Segment.ofRows (r.rows m)).map (pieceOf data)).map Piece.count).sum
      = r.length := by
    rw [List.map_map, count_comp_pieceOf, hcuts.sum_count, Request.length_rows]
  have hassemble := assemble_eq_ok_iff hother (Request.length_pos hr).ne' hcount r (b := b)
  rw [result_run hr, Request.length_rows]
  constructor
  · intro h
    obtain ⟨pieces, hread, hblock⟩ := bind_eq_ok_iff.mp h
    obtain ⟨hreadable, rfl⟩ := hpieces.mp hread
    obtain ⟨htype, hrest⟩ := hassemble.mp hblock
    exact ⟨hreadable, (typeOf_eq_ok_iff hknown hread).mp htype, hrest⟩
  · rintro ⟨hreadable, htype, hrest⟩
    have hread := hpieces.mpr ⟨hreadable, rfl⟩
    apply bind_eq_ok_iff.mpr ⟨_, hread, ?_⟩
    exact hassemble.mpr ⟨(typeOf_eq_ok_iff hknown hread).mpr htype, hrest⟩

/-- Whatever the rows of the map are, an answer is right position by position.  There is one exactly
if its type is known and it can be made, the runs ascend within the block, and the fill value can be
stored where the child has no rows. -/
theorem run_ofBlock_exact [Machine] :
  ((∃ b, (f.run m r (Reader.ofBlock data)).result = .ok b)
      ↔ (∀ s ∈ Segment.ofRows (r.rows m), s.IsReadable (data.shape.headD 0))
        ∧ ∃ type, AnswerType data f.fill (r.rows m) f.type? type
          ∧ Allocates type (r.length :: data.shape.tail)
          ∧ ∀ n, .fill n ∈ Segment.ofRows (r.rows m) →
              ∃ b, Block.fill type (n :: data.shape.tail) f.fill = .ok b)
    ∧ ∀ b, (f.run m r (Reader.ofBlock data)).result = .ok b →
        AnswerType data f.fill (r.rows m) f.type? b.type ∧ IsExact data f.fill m r b
  := by
  have hrun (b : Block) := run_ofBlock_eq_ok_iff hr hother hknown (b := b)
  constructor
  · constructor
    · rintro ⟨b, hb⟩
      obtain ⟨hreadable, htype, hroom, -, elements, helements, -⟩ := (hrun b).mp hb
      use hreadable, b.type, htype, hroom
      intro n hn
      obtain ⟨elements, -, hcells⟩ := exists_mem_of_mapM helements (List.mem_map_of_mem hn)
      simp only [cells, pieceOf, bind_eq_ok_iff, liftConversion_eq_ok_iff] at hcells
      obtain ⟨block, hblock, -⟩ := hcells
      use block
    · rintro ⟨hreadable, type, htype, hroom, hfill⟩
      obtain ⟨elements, helements⟩ := exists_cells_eq_ok htype hfill
      obtain ⟨entries, hentries, hflatten⟩ := exists_isRow_of_ofRows hreadable htype helements
      have hshape := (isExact_stack hr hentries).shape_eq
      obtain ⟨b, rfl, hblock⟩ : ∃ b : Block, b.type = type
          ∧ b.shape = r.length :: data.shape.tail ∧ elements.flatten = b.data :=
        ⟨_, rfl, hshape, hflatten⟩
      use b
      exact (hrun b).mpr ⟨hreadable, htype, hroom, hblock.1, elements, helements, hblock.2⟩
  · intro b hb
    obtain ⟨hreadable, htype, -, hshape, elements, helements, hflatten⟩ := (hrun b).mp hb
    use htype
    obtain ⟨entries, hentries, hdata⟩ := exists_isRow_of_ofRows hreadable htype helements
    have hlength := hentries.length_eq
    rw [Request.length_rows] at hlength
    have hstack : b = stack b.type data.shape.tail id entries :=
      Block.stack_eq_of_data rfl (hlength ▸ hshape) (hflatten.symm.trans hdata)
    rw [hstack]
    apply isExact_stack hr hentries

end Run

/-- Rows that count from the end of three rows. -/
theorem run_ofBlock_exact_fromEnd :
  let data : Block := .ofList .int64 [.int 7, .int 8, .int 9]
  let m : IndexMap := .ofRows [some (-3), some (-2), none]
  let r : Request := ⟨0, 1, 2⟩
  let f : Fetch := ⟨[], none, .int 5⟩
  r.Valid m.size
    ∧ (f.run m r (Reader.ofBlock data)).result = .ok (.ofList .int64 [.int 7, .int 8, .int 5])
    ∧ IsExact data f.fill m r (.ofList .int64 [.int 7, .int 8, .int 5])
  := by
  intro data m r f
  have hvalid : r.Valid m.size := by decide
  have hknown : ∀ t ∈ f.type?, t = data.type := by simp [f]
  have hresult : (f.run m r (Reader.ofBlock data)).result
      = .ok (.ofList .int64 [.int 7, .int 8, .int 5]) := rfl
  use hvalid, hresult
  exact ((run_ofBlock_exact hvalid rfl hknown).2 _ hresult).2

/-- The last row cannot be read by its number from the end: the slice stops before the first row. -/
example :
  let data : Block := .ofList .int64 [.int 7, .int 8, .int 9]
  ((⟨[], none, .int 5⟩ : Fetch).run (.ofRows [some (-1)]) ⟨0, 1, 0⟩ (Reader.ofBlock data)).result
    = .error (.unexpectedShape (-1) 1 (-1) [0] [1])
  := rfl

end Fetch

end GridUnion
