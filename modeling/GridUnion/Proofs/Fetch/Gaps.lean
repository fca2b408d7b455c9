import GridUnion.Proofs.Fetch.Exact
import GridUnion.Proofs.Fetch.Faults

/-!
# Gaps of an answer

If all blocks that are read have the type of the answer, then there is an answer exactly if all runs
are read soundly, the answer can be made, and the fill value can be stored in every gap.  An answer
holds the fill value at every position without a row, whatever is read for the others.
-/

namespace GridUnion

namespace Fetch

open Block (stack IsIndex)

variable {f : Fetch} {read : Reader} {type : ElementType} {other : List Nat}
  {segments : List Segment} {pieces : List Piece}

/-- Reading succeeds exactly if every run is read soundly. -/
theorem exists_readAll_iff {other : List Int} (call : Nat) :
  (∃ pieces, (readAll read other call segments).result = .ok pieces)
    ↔ AllSound read other call (Segment.runs segments)
  := by
  rcases readAll_cases read other call segments with h | ⟨before, last, e, h⟩
  · obtain ⟨pieces, hpieces, -⟩ := h.exists_pieces
    exact iff_of_true ⟨pieces, hpieces⟩ h.sound
  · constructor
    · rintro ⟨pieces, hpieces⟩
      cases h.result_eq.symm.trans hpieces
    · intro hall
      exact absurd h.getElem?_last (h.getElem?_ne_last hall)

/-! ### Pieces of segments -/

/-- What is read for a segment: nothing for a fill, and a block of a type with as many rows for a
run. -/
inductive IsPieceOf (type : ElementType) (other : List Int) : Segment → Piece → Prop where
  | absent {n : Nat} : IsPieceOf type other (.fill n) (.absent n)
  | read {start stride stop : Int} {n : Nat} {block : Block} (htype : block.type = type)
      (hshape : block.shape.map Int.ofNat = (n : Int) :: other) :
      IsPieceOf type other (.run start stride stop n) (.read n block)

/-- There is a piece for each segment. -/
theorem isPieceOf_readAll
    (hread : ∀ call start stride stop block, read call start stride stop = .ok block →
      block.type = type) {other : List Int} {call : Nat}
    (h : (readAll read other call segments).result = .ok pieces) :
  List.Forall₂ (IsPieceOf type other) segments pieces
  := by
  induction segments generalizing call pieces with
  | nil =>
    cases h
    exact .nil
  | cons s segments ih =>
    cases s with
    | fill n =>
      obtain ⟨rest, hrest, rfl⟩ := readAll_fill_eq_ok_iff.mp h
      exact .cons .absent (ih hrest)
    | run start stride stop n =>
      obtain ⟨block, hblock, hshape, rest, hrest, rfl⟩ := readAll_run_eq_ok_iff.mp h
      exact .cons (.read (hread _ _ _ _ _ hblock) hshape) (ih hrest)

theorem map_count_of_isPieceOf {other : List Int}
    (h : List.Forall₂ (IsPieceOf type other) segments pieces) :
  pieces.map Piece.count = segments.map Segment.count
  := by
  induction h with
  | nil => rfl
  | cons hp _ ih =>
    rw [List.map_cons, List.map_cons, ih]
    cases hp with
    | absent => rfl
    | read => rfl

section Cells

variable {s : Segment} {p : Piece}

theorem IsPieceOf.exists_cells_iff (h : IsPieceOf type (other.map Int.ofNat) s p) :
  (∃ elements, f.cells type other p = .ok elements)
    ↔ ∀ n, .fill n = s → ∃ b, Block.fill type (n :: other) f.fill = .ok b
  := by
  cases h with
  | absent => simp [cells]
  | read htype _ =>
    subst htype
    simp [cells, Block.convert_self]

/-- The elements of pieces can be stored exactly if the fill value can be stored in the gaps. -/
theorem exists_mapM_cells_iff
    (h : List.Forall₂ (IsPieceOf type (other.map Int.ofNat)) segments pieces) :
  (∃ elements, pieces.mapM (f.cells type other) = .ok elements)
    ↔ ∀ n, .fill n ∈ segments → ∃ b, Block.fill type (n :: other) f.fill = .ok b
  := by
  have hall : (∃ elements, pieces.mapM (f.cells type other) = .ok elements)
      ↔ ∀ p ∈ pieces, ∃ elements, f.cells type other p = .ok elements := by
    constructor
    · rintro ⟨elements, helements⟩ p hp
      obtain ⟨data, -, hdata⟩ := exists_mem_of_mapM helements hp
      exact ⟨data, hdata⟩
    · exact exists_mapM_eq_ok
  rw [hall]
  clear hall
  induction h with
  | nil => simp
  | cons hp _ ih =>
    rw [List.forall_mem_cons, hp.exists_cells_iff]
    constructor
    · rintro ⟨hfirst, hrest⟩ n hn
      rcases List.mem_cons.mp hn with hn | hn
      · exact hfirst n hn
      · exact ih.mp hrest n hn
    · intro hgaps
      constructor
      · rintro n rfl
        exact hgaps n List.mem_cons_self
      · apply ih.mpr
        intro n hn
        exact hgaps n (List.mem_cons_of_mem _ hn)

/-! ### Rows of pieces -/

/-- The elements of a row are the fill value if the child has no row. -/
def FillsGap (fill : Value) (type : ElementType) (other : List Nat) (row? : Option Int)
    (cell : List Nat → Element) : Prop :=
  row? = none → HoldsFill fill type other cell

/-- The elements of a piece are those of rows, and the rows of a fill hold the fill value. -/
theorem IsPieceOf.exists_fillsGap (h : IsPieceOf type (other.map Int.ofNat) s p)
    {elements : List Element} (hcells : f.cells type other p = .ok elements) :
  ∃ entries, List.Forall₂ (FillsGap f.fill type other) s.expand entries
    ∧ elements = (stack type other id entries).data
  := by
  cases h with
  | @absent n =>
    simp only [cells, bind_eq_ok_iff, liftConversion_eq_ok_iff, pure_eq_ok_iff] at hcells
    obtain ⟨gap, hgap, rfl⟩ := hcells
    use (List.range n).map fun i ix => gap.get (i :: ix)
    constructor
    · have hexpand : (Segment.fill n).expand = (List.range n).map fun _ => none := by
        simp [Segment.expand, List.map_const']
      rw [hexpand, List.forall₂_map_left_iff, List.forall₂_map_right_iff, List.forall₂_same]
      intro i hi _
      apply holdsFill_of_fill hgap (List.mem_range.mp hi)
    · rw [Block.data_stack_rows (Block.shape_fill hgap)]
  -- every row of a run is there, so nothing is asked of its elements
  | @read start stride stop n block htype hshape =>
    subst htype
    simp only [cells, Block.convert_self, bind_eq_ok_iff, liftConversion_eq_ok_iff, Except.ok.injEq,
      exists_eq_left', pure_eq_ok_iff] at hcells
    have hrows : block.shape = n :: other :=
      List.map_injective_iff.mpr (fun _ _ => Int.ofNat.inj) hshape
    use (List.range n).map fun i ix => block.get (i :: ix)
    constructor
    · rw [Segment.expand, List.forall₂_map_left_iff, List.forall₂_map_right_iff, List.forall₂_same]
      rintro i - ⟨⟩
    · rw [Block.data_stack_rows hrows, hcells]

end Cells

/-- The elements of pieces are those of rows, which hold the fill value where there is no row. -/
theorem exists_fillsGap_of_mapM
    (h : List.Forall₂ (IsPieceOf type (other.map Int.ofNat)) segments pieces)
    {elements : List (List Element)} (hcells : pieces.mapM (f.cells type other) = .ok elements) :
  ∃ entries, List.Forall₂ (FillsGap f.fill type other) (segments.flatMap Segment.expand) entries
    ∧ elements.flatten = (stack type other id entries).data
  := by
  induction h generalizing elements with
  | nil =>
    cases hcells
    exact ⟨[], .nil, rfl⟩
  | cons hp _ ih =>
    simp only [List.mapM_cons, bind_eq_ok_iff, pure_eq_ok_iff] at hcells
    obtain ⟨first, hfirst, rest, hrest, rfl⟩ := hcells
    obtain ⟨entries, hentries, rfl⟩ := hp.exists_fillsGap hfirst
    obtain ⟨others, hothers, hflatten⟩ := ih hrest
    use entries ++ others, List.rel_append hentries hothers
    rw [List.flatten_cons, hflatten]
    simp [stack]

/-! ### Answers with gaps -/

/-- An answer has as many rows as positions are requested, and the fill value where the map has no
row. -/
structure HasGaps (fill : Value) (type : ElementType) (other : List Nat) (rows : List (Option Int))
    (b : Block) : Prop where
  type_eq : b.type = type
  shape_eq : b.shape = rows.length :: other
  holdsFill : ∀ i, rows[i]? = some none → HoldsFill fill type other fun ix => b.get (i :: ix)

/-- The block that is stacked of rows has the fill value where there is no row. -/
theorem hasGaps_stack {fill : Value} {rows : List (Option Int)} {entries : List (List Nat → Element)}
    (h : List.Forall₂ (FillsGap fill type other) rows entries) :
  HasGaps fill type other rows (stack type other id entries)
  := by
  obtain ⟨hlength, hget⟩ := List.forall₂_iff_get.mp h
  constructor
  · rfl
  · rw [hlength]
    rfl
  · intro i hi
    obtain ⟨hlt, hnone⟩ := List.getElem?_eq_some_iff.mp hi
    have hrow := List.getElem?_eq_getElem (hlength ▸ hlt)
    apply (hget i hlt (hlength ▸ hlt) hnone).congr
    intro ix hix
    apply Block.get_stack hrow hix

section Run

variable {m : IndexMap} {r : Request} (hr : r.Valid m.size) (hother : f.other = other.map Int.ofNat)
  (htype : f.type? = some type)
  (hread : ∀ call start stride stop block, read call start stride stop = .ok block →
    block.type = type)

include hr hother htype hread

/-- A request is answered by reading the runs and storing the pieces in the type that is known. -/
theorem run_eq_ok_iff_isPieceOf [Machine] {b : Block} :
  (f.run m r read).result = .ok b
    ↔ ∃ pieces, (readAll read f.other 1 (Segment.ofRows (r.rows m))).result = .ok pieces
      ∧ List.Forall₂ (IsPieceOf type (other.map Int.ofNat)) (Segment.ofRows (r.rows m)) pieces
      ∧ b.type = type ∧ Allocates type (r.length :: other) ∧ b.shape = r.length :: other
      ∧ ∃ elements, pieces.mapM (f.cells type other) = .ok elements ∧ elements.flatten = b.data
  := by
  have hassemble {pieces : List Piece}
      (hpieces : List.Forall₂ (IsPieceOf type (other.map Int.ofNat)) (Segment.ofRows (r.rows m))
        pieces) :=
    assemble_eq_ok_iff hother (Request.length_pos hr).ne' ((congrArg List.sum
      (map_count_of_isPieceOf hpieces)).trans ((Segment.cuts_ofRows _).sum_count.trans
        (Request.length_rows m r))) r (b := b)
  have hknown (pieces : List Piece) : f.typeOf pieces = .ok type := by
    simp [typeOf, htype]
  rw [result_run hr, Request.length_rows]
  constructor
  · intro h
    obtain ⟨pieces, hpieces, hblock⟩ := bind_eq_ok_iff.mp h
    have hall := isPieceOf_readAll hread hpieces
    rw [hother] at hall
    obtain ⟨htypes, hrest⟩ := (hassemble hall).mp hblock
    obtain rfl := Except.ok.inj ((hknown pieces).symm.trans htypes)
    exact ⟨pieces, hpieces, hall, rfl, hrest⟩
  · rintro ⟨pieces, hpieces, hall, rfl, hrest⟩
    apply bind_eq_ok_iff.mpr ⟨pieces, hpieces, ?_⟩
    exact (hassemble hall).mpr ⟨hknown pieces, hrest⟩

/-- There is an answer exactly if all runs are read soundly, the answer can be made, and the fill
value can be stored in every gap; and then it has the fill value at every position without a row. -/
theorem run_hasGaps [Machine] :
  ((∃ b, (f.run m r read).result = .ok b)
      ↔ AllSound read f.other 1 (Segment.runs (Segment.ofRows (r.rows m)))
        ∧ Allocates type (r.length :: other)
        ∧ ∀ n, .fill n ∈ Segment.ofRows (r.rows m) →
            ∃ b, Block.fill type (n :: other) f.fill = .ok b)
    ∧ ∀ b, (f.run m r read).result = .ok b → HasGaps f.fill type other (r.rows m) b
  := by
  have hrun (b : Block) := run_eq_ok_iff_isPieceOf hr hother htype hread (b := b)
  constructor
  · rw [← exists_readAll_iff]
    constructor
    · rintro ⟨b, hb⟩
      obtain ⟨pieces, hpieces, hall, -, hroom, -, elements, helements, -⟩ := (hrun b).mp hb
      exact ⟨⟨pieces, hpieces⟩, hroom, (exists_mapM_cells_iff hall).mp ⟨elements, helements⟩⟩
    · rintro ⟨⟨pieces, hpieces⟩, hroom, hgaps⟩
      have hall := isPieceOf_readAll hread hpieces
      rw [hother] at hall
      obtain ⟨elements, helements⟩ := (exists_mapM_cells_iff hall).mpr hgaps
      obtain ⟨entries, hentries, hflatten⟩ := exists_fillsGap_of_mapM hall helements
      rw [(Segment.cuts_ofRows _).expand_eq] at hentries
      have hshape := (hasGaps_stack hentries).shape_eq
      rw [Request.length_rows] at hshape
      use stack type other id entries
      exact (hrun _).mpr
        ⟨pieces, hpieces, hall, rfl, hroom, hshape, elements, helements, hflatten⟩
  · intro b hb
    obtain ⟨pieces, -, hall, htypes, -, hshape, elements, helements, hflatten⟩ := (hrun b).mp hb
    obtain ⟨entries, hentries, hdata⟩ := exists_fillsGap_of_mapM hall helements
    rw [(Segment.cuts_ofRows _).expand_eq] at hentries
    have hlength : entries.length = r.length := by
      rw [← hentries.length_eq, Request.length_rows]
    have hstack : b = stack type other id entries :=
      Block.stack_eq_of_data htypes (hlength ▸ hshape) (hflatten.symm.trans hdata)
    rw [hstack]
    apply hasGaps_stack hentries

end Run

end Fetch

end GridUnion
