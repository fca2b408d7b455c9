import GridUnion.Fetch
import GridUnion.Proofs.Block.Index
import GridUnion.Proofs.Request
import GridUnion.Proofs.Segment
import Mathlib.Algebra.BigOperators.Ring.List
import Mathlib.Algebra.Order.BigOperators.Ring.List

/-!
# Fetched blocks

If the rows of every run can be read, and the fill value be repeated where there are none, then the
answer to a request is the block that is stacked of its rows, and the cuts do not show in it.
-/

namespace GridUnion

namespace Fetch

open Block (stack)

/-! ### Room -/

/-- There is room for a block: neither its dimensions nor its bytes are too many. -/
structure HasRoom [Machine] (type : ElementType) (shape : List Nat) : Prop where
  length_le : shape.length ≤ Block.maxDimensions
  size_lt : ∀ n ∈ shape, n < 2 ^ 63
  bytes_le : type.byteSize * (shape.filter (· ≠ 0)).prod ≤ Machine.room

/-- A block can be made: its dimensions are not too many, its bytes can be counted, the sizes of
zero left out, and there is space for them. -/
structure Allocates [Machine] (type : ElementType) (shape : List Nat) : Prop where
  length_le : shape.length ≤ Block.maxDimensions
  size_lt : ∀ n ∈ shape.tail, n < 2 ^ 63
  count_lt : type.byteSize * (shape.filter (· ≠ 0)).prod < 2 ^ 63
  bytes_le : type.byteSize * shape.prod ≤ Machine.room

theorem filter_ne_zero_prod_pos (shape : List Nat) :
  0 < (shape.filter (· ≠ 0)).prod
  := by
  simp [Nat.pos_iff_ne_zero]

theorem prod_eq_filter_ne_zero {shape : List Nat} (h : 0 < shape.prod) :
  (shape.filter (· ≠ 0)).prod = shape.prod
  := by
  have hne : ∀ n ∈ shape, n ≠ 0 := by
    intro n hn hzero
    rw [hzero] at hn
    exact h.ne' (List.prod_eq_zero hn)
  rw [List.filter_eq_self.mpr (by simpa using hne)]

theorem HasRoom.allocates [Machine] {type : ElementType} {shape : List Nat}
    (h : HasRoom type shape) :
  Allocates type shape
  := by
  constructor
  · exact h.length_le
  · intro n hn
    apply h.size_lt n (List.mem_of_mem_tail hn)
  · apply h.bytes_le.trans_lt Machine.room_lt
  · rcases Nat.eq_zero_or_pos shape.prod with hzero | hpos
    · simp [hzero]
    · rw [← prod_eq_filter_ne_zero hpos]
      exact h.bytes_le

/-- Where there is room for a block there is room for one with smaller sizes. -/
theorem HasRoom.of_le [Machine] {type : ElementType} {shape smaller : List Nat}
    (h : HasRoom type shape) (hle : List.Forall₂ (· ≤ ·) smaller shape) :
  HasRoom type smaller
  := by
  constructor
  · rw [hle.length_eq]
    exact h.length_le
  · intro n hn
    obtain ⟨i, hi, rfl⟩ := List.mem_iff_getElem.mp hn
    obtain ⟨hlength, hget⟩ := List.forall₂_iff_get.mp hle
    apply (hget i hi (hlength ▸ hi)).trans_lt (h.size_lt _ (List.getElem_mem _))
  · apply le_trans _ h.bytes_le
    apply Nat.mul_le_mul_left
    clear h
    induction hle with
    | nil => exact le_refl 1
    | @cons m n smaller shape hmn _ ih =>
      by_cases hn : n = 0
      · obtain rfl : m = 0 := by omega
        simpa [hn] using ih
      · by_cases hm : m = 0
        · simpa [hm, hn] using ih.trans (Nat.le_mul_of_pos_left _ (Nat.pos_of_ne_zero hn))
        · simpa [hm, hn] using Nat.mul_le_mul hmn ih

theorem bytesOf_cons {bytes n : Nat} (hn : n ≠ 0) (sizes : List Int) :
  bytesOf bytes (n :: sizes)
    = if 2 ^ 63 ≤ bytes * n then .error .blockTooLarge else bytesOf (bytes * n) sizes
  := by
  have hnonneg : ¬ (n : Int) < 0 := by omega
  simp [bytesOf, hn, hnonneg]

/-- Bytes are counted exactly if their number, for which sizes of zero do not count, fits into a
word. -/
theorem bytesOf_eq_ok_iff {bytes total : Nat} {shape : List Nat}
    (h : bytes < 2 ^ 63 ∨ ∃ n ∈ shape, n ≠ 0) :
  bytesOf bytes (shape.map Int.ofNat) = .ok total
    ↔ bytes * (shape.filter (· ≠ 0)).prod = total ∧ total < 2 ^ 63
  := by
  induction shape generalizing bytes with
  | nil =>
    have hlt : bytes < 2 ^ 63 := by simpa using h
    simp [bytesOf]
    omega
  | cons n shape ih =>
    by_cases hn : n = 0
    · simpa [bytesOf, hn] using ih (by simpa [hn] using h)
    · have hfilter : ((n :: shape).filter (· ≠ 0)).prod = n * (shape.filter (· ≠ 0)).prod := by
        simp [hn]
      rw [List.map_cons, Int.ofNat_eq_natCast, bytesOf_cons hn, hfilter, ← Nat.mul_assoc]
      split
      · next hlarge =>
        have hle := Nat.le_mul_of_pos_right (bytes * n) (filter_ne_zero_prod_pos shape)
        constructor
        · intro h
          cases h
        · rintro ⟨rfl, hlt⟩
          omega
      · next hsmall => exact ih (.inl (Nat.lt_of_not_ge hsmall))

variable {f : Fetch} {type : ElementType} {other : List Nat}

/-- The other sizes of an answer with rows pass exactly if the answer can be made. -/
theorem otherSizes_eq_ok_iff [Machine] (hother : f.other = other.map Int.ofNat) {n : Nat}
    (hn : n ≠ 0) {sizes : List Nat} :
  f.otherSizes type n = .ok sizes ↔ Allocates type (n :: other) ∧ other = sizes
  := by
  have hbytes (total : Nat) : bytesOf type.byteSize ((n : Int) :: other.map Int.ofNat) = .ok total
      ↔ type.byteSize * ((n :: other).filter (· ≠ 0)).prod = total ∧ total < 2 ^ 63 :=
    bytesOf_eq_ok_iff (.inr ⟨n, List.mem_cons_self, hn⟩)
  have hsizes : (other.map Int.ofNat).map Int.toNat = other := by
    simp [List.map_map, Function.comp_def]
  have hwords : ((other.map Int.ofNat).any fun n => decide (n < -2 ^ 63 ∨ 2 ^ 63 ≤ n)) = false
      ↔ ∀ n ∈ other, n < 2 ^ 63 := by
    rw [List.any_map, List.any_eq_false]
    apply forall₂_congr
    intro m _
    simp
  have hspace : ¬ (Machine.room < type.byteSize * ((n :: other).filter (· ≠ 0)).prod
      ∧ 0 < (n :: other).prod) ↔ type.byteSize * (n :: other).prod ≤ Machine.room := by
    rcases Nat.eq_zero_or_pos (n :: other).prod with hzero | hpos
    · simp [hzero]
    · rw [prod_eq_filter_ne_zero hpos]
      omega
  simp only [otherSizes, hother, List.length_map, hsizes, ite_throw_eq_ok_iff, bind_eq_ok_iff,
    Bool.not_eq_true, hwords, hbytes, Int.toNat_natCast, pure_eq_ok_iff]
  constructor
  · rintro ⟨hlength, hsize, bytes, ⟨rfl, hcount⟩, hno, hsizes⟩
    exact ⟨⟨Nat.le_of_not_lt hlength, hsize, hcount, hspace.mp hno⟩, hsizes⟩
  · rintro ⟨h, hsizes⟩
    exact ⟨Nat.not_lt.mpr h.length_le, h.size_lt, _, ⟨rfl, h.count_lt⟩, hspace.mpr h.bytes_le,
      hsizes⟩

/-! ### Answers of a reader -/

/-- The runs among segments can be read, the fill value can be repeated for the other segments, and
this gives the blocks that are stacked of their rows. -/
structure Answers (f : Fetch) (read : Reader) (type : ElementType) (other : List Nat)
    (cell : Option Int → List Nat → Element) (segments : List Segment) : Prop where
  fill_eq : ∀ n, .fill n ∈ segments →
    Block.fill type (n :: other) f.fill = .ok (stack type other cell (List.replicate n none))
  read_eq : ∀ start stride stop n, .run start stride stop n ∈ segments → ∀ call, ∃ block,
    read call start stride stop = .ok block
      ∧ block.convert type = .ok (stack type other cell (Segment.run start stride stop n).expand)

variable {read : Reader} {cell : Option Int → List Nat → Element} {segments : List Segment}

theorem Answers.tail {s : Segment} (h : Answers f read type other cell (s :: segments)) :
  Answers f read type other cell segments
  := by
  constructor
  · intro n hn
    apply h.fill_eq n (List.mem_cons_of_mem s hn)
  · intro start stride stop n hn
    apply h.read_eq start stride stop n (List.mem_cons_of_mem s hn)

/-- A reader answers the segments of rows that ascend strictly within a child if it reads the runs
that are requests within the child. -/
theorem answers_ofRows {rows : List (Option Int)} (hsorted : rows.reduceOption.Pairwise (· < ·))
    {size : Nat} (hrows : ∀ row ∈ rows.reduceOption, 0 ≤ row ∧ row < size)
    (hfill : none ∈ rows → ∀ n, Block.fill type (n :: other) f.fill
      = .ok (stack type other cell (List.replicate n none)))
    (hread : ∀ start stride stop n, (⟨start, stride, stop⟩ : Request).Valid size →
      .run start stride stop n ∈ Segment.ofRows rows → ∀ call, ∃ block,
        read call start stride stop = .ok block
          ∧ block.convert type
            = .ok (stack type other cell (Segment.run start stride stop n).expand)) :
  Answers f read type other cell (Segment.ofRows rows)
  := by
  constructor
  · intro n hn
    apply hfill ((Segment.cuts_ofRows rows).none_mem hn)
  · intro start stride stop n hrun
    apply hread start stride stop n _ hrun
    exact (Segment.cuts_ofRows rows).valid_of_run_mem hsorted hrows hrun

/-- The pieces that are read for segments hold the blocks of their rows. -/
theorem Answers.readAll_eq (h : Answers f read type other cell segments) (call : Nat) :
  ∃ pieces, (readAll read (other.map Int.ofNat) call segments).result = .ok pieces
    ∧ pieces.map Piece.count = segments.map Segment.count
    ∧ pieces.mapM (f.cells type other)
        = .ok (segments.map fun s => (stack type other cell s.expand).data)
  := by
  induction segments generalizing call with
  | nil => exact ⟨[], rfl, rfl, rfl⟩
  | cons s segments ih =>
    cases s with
    | fill n =>
      obtain ⟨pieces, hpieces, hcount, hcells⟩ := ih h.tail call
      have hfill := h.fill_eq n List.mem_cons_self
      use .absent n :: pieces
      constructor
      · simp [readAll, hpieces, Except.map]
      · constructor
        · rw [List.map_cons, List.map_cons, hcount]
          rfl
        · rw [mapM_eq_ok_iff] at hcells ⊢
          refine List.Forall₂.cons ?_ hcells
          simp [cells, hfill, Segment.expand]
    | run start stride stop n =>
      obtain ⟨block, hblock, hconvert⟩ := h.read_eq start stride stop n List.mem_cons_self call
      obtain ⟨pieces, hpieces, hcount, hcells⟩ := ih h.tail (call + 1)
      have hshape : block.shape.map Int.ofNat = (n : Int) :: other.map Int.ofNat := by
        rw [← Block.shape_mapM hconvert]
        simp [stack, Segment.count]
      use .read n block :: pieces
      constructor
      · simp [readAll, hblock, hshape, hpieces, Except.map]
      · constructor
        · rw [List.map_cons, List.map_cons, hcount]
          rfl
        · rw [mapM_eq_ok_iff] at hcells ⊢
          refine List.Forall₂.cons ?_ hcells
          simp [cells, hconvert]

/-- Pieces are put together to the block of their elements, if it can be made. -/
theorem assemble_eq_ok_iff [Machine] (hother : f.other = other.map Int.ofNat) {pieces : List Piece}
    {expected : Nat} (hexpected : expected ≠ 0) (hcount : (pieces.map Piece.count).sum = expected)
    (r : Request) {b : Block} :
  f.assemble r expected pieces = .ok b
    ↔ f.typeOf pieces = .ok b.type ∧ Allocates b.type (expected :: other)
      ∧ b.shape = expected :: other
      ∧ ∃ data, pieces.mapM (f.cells b.type other) = .ok data ∧ data.flatten = b.data
  := by
  simp only [assemble, bind_eq_ok_iff, hcount]
  constructor
  · rintro ⟨type, htype, sizes, hsizes, data, hdata, hblock⟩
    obtain ⟨hroom, rfl⟩ := (otherSizes_eq_ok_iff hother hexpected).mp hsizes
    split at hblock
    · next block hmade =>
      obtain ⟨rfl, hshape, hflatten⟩ := Block.ofData?_eq_some_iff.mp hmade
      obtain rfl : block = b := by simpa using hblock
      exact ⟨htype, hroom, hshape, data, hdata, hflatten.symm⟩
    · cases hblock
  · rintro ⟨htype, hroom, hshape, data, hdata, hflatten⟩
    have hsizes := (otherSizes_eq_ok_iff hother hexpected).mpr ⟨hroom, rfl⟩
    refine ⟨_, htype, other, hsizes, data, hdata, ?_⟩
    have hmade := Block.ofData?_eq_some_iff.mpr ⟨rfl, hshape, hflatten.symm⟩
    simp [hmade]

/-- The answer to a request of which the segments are known is the block of their rows, if it can be
made. -/
theorem Answers.runSegments_eq_ok_iff [Machine] (h : Answers f read type other cell segments)
    (hother : f.other = other.map Int.ofNat)
    (htype : ∀ pieces, (readAll read f.other 1 segments).result = .ok pieces →
      f.typeOf pieces = .ok type)
    {rows : List (Option Int)} (hcuts : Segment.Cuts segments rows) (hrows : rows.length ≠ 0)
    (r : Request) {b : Block} :
  (f.runSegments r read rows.length segments).result = .ok b
    ↔ Allocates type (rows.length :: other) ∧ stack type other cell rows = b
  := by
  obtain ⟨pieces, hpieces, hcount, hcells⟩ := h.readAll_eq 1
  have hproduced : (pieces.map Piece.count).sum = rows.length := hcount ▸ hcuts.sum_count
  have hdata : (segments.map fun s => (stack type other cell s.expand).data).flatten
      = (stack type other cell rows).data := by
    simp only [stack]
    rw [← hcuts.expand_eq, List.flatMap_assoc, List.flatMap_def]
  have htype := htype pieces (hother ▸ hpieces)
  simp only [runSegments, hother, hpieces, Except.bind]
  rw [assemble_eq_ok_iff hother hrows hproduced, htype]
  constructor
  · rintro ⟨htypes, hroom, hshape, data, hpiece, hflatten⟩
    obtain rfl := Except.ok.inj htypes
    obtain rfl := Except.ok.inj (hcells.symm.trans hpiece)
    use hroom
    exact (Block.stack_eq_of_data rfl hshape (hflatten.symm.trans hdata)).symm
  · rintro ⟨hroom, rfl⟩
    exact ⟨rfl, hroom, rfl, _, hcells, hdata⟩

/-- A request within an axis is answered from the pieces of its segments. -/
theorem result_run [Machine] {m : IndexMap} {r : Request} (hr : r.Valid m.size) (f : Fetch)
    (read : Reader) :
  (f.run m r read).result
    = (f.runSegments r read (r.rows m).length (Segment.ofRows (r.rows m))).result
  := by
  rw [run, Request.count_eq_ok hr, Segment.segments_eq_ok hr, Request.length_rows]
  rfl

/-- The answer to a request is the block of the rows at its positions, if it can be made. -/
theorem run_eq_ok_iff [Machine] {m : IndexMap} {r : Request} (hr : r.Valid m.size)
    (h : Answers f read type other cell (Segment.ofRows (r.rows m)))
    (hother : f.other = other.map Int.ofNat)
    (htype : ∀ pieces, (readAll read f.other 1 (Segment.ofRows (r.rows m))).result = .ok pieces →
      f.typeOf pieces = .ok type) {b : Block} :
  (f.run m r read).result = .ok b
    ↔ Allocates type (r.length :: other) ∧ stack type other cell (r.rows m) = b
  := by
  have hlength := Request.length_rows m r
  rw [result_run hr, h.runSegments_eq_ok_iff hother htype (Segment.cuts_ofRows _)
    (hlength ▸ (Request.length_pos hr).ne'), hlength]

/-- The table of an index map is answered like the map. -/
theorem runTable_ofMap [Machine] (f : Fetch) (m : IndexMap) (r : Request) (read : Reader) :
  f.runTable (IndexTable.ofMap m) r read = f.run m r read
  := by
  have hrows : (IndexTable.ofMap m).rowsAt r.positions = .ok (r.rows m) := by
    simp only [IndexTable.rowsAt, IndexTable.ofMap, IndexTable.isLine, Request.rows,
      IndexMap.toList]
    simp [Array.getD_eq_getD_getElem?]
  have hsegments : (IndexTable.ofMap m).segments r = m.segments r := by
    rw [IndexTable.segments, hrows]
    rfl
  rw [runTable, run, hsegments]

@[simp]
theorem result_noted (o : Outcome Block) (r : Request) :
  (o.noted r).result = o.result
  := by
  rcases o with ⟨reads, _ | block⟩
  · rfl
  · rfl

end Fetch

end GridUnion
