import GridUnion.Proofs.Block.Fill
import GridUnion.Proofs.Fetch

/-!
# Rows of a block, position by position

Through the map that a merge gives a child, a request is answered from a block of the child's rows:
the answer can be made or not, and if it is made it has at every requested position the row that the
map has there, or the fill value.  In what runs the rows were read does not show.
-/

namespace GridUnion

/-- Reads rows of a block as a slice along its first dimension. -/
def Reader.ofBlock (b : Block) : Reader := fun _ start stride stop =>
  match b.shape with
  | [] => .error .noLength
  | n :: _ =>
    match (⟨start, stride, stop⟩ : Request).slice.positions? n with
    | some picks => .ok (b.select [picks])
    | none => .error .zeroSliceStep

namespace Fetch

open Block (stack)

/-! ### Reading from a block -/

/-- The element of a block in a row, or that of the blank where there is no row. -/
def cellOf (data blank : Block) : Option Int → List Nat → Element
  | some row, ix => data.get (row.toNat :: ix)
  | none, ix => blank.get ix

/-- The type of an answer from a block: the given one, that of the block if a row is read, else that
of the fill value. -/
inductive AnswerType (data : Block) (fill : Value) (rows : List (Option Int)) :
    Option ElementType → ElementType → Prop where
  | given : AnswerType data fill rows (some data.type) data.type
  | read {row : Int} (hrow : some row ∈ rows) : AnswerType data fill rows none data.type
  | filled {b : Block} (hrows : ∀ row ∈ rows, row = none) (hfill : Block.ofValue fill = .ok b) :
      AnswerType data fill rows none b.type

section Reading

variable {f : Fetch} {data blank : Block} {size : Nat} {other : List Nat}
  (hdata : data.shape = size :: other)

include hdata

/-- A run within a block is read as the block of the run's rows. -/
theorem ofBlock_eq_ok (blank : Block) {start stride stop : Int} {n : Nat}
    (hrun : (Segment.run start stride stop n).Proper)
    (hvalid : (⟨start, stride, stop⟩ : Request).Valid size) (call : Nat) :
  Reader.ofBlock data call start stride stop
    = .ok (stack data.type other (cellOf data blank) (Segment.run start stride stop n).expand)
  := by
  obtain ⟨hn, hstop, -⟩ := hrun
  have hcount : (⟨start, stride, stop⟩ : Request).length = n :=
    Request.length_eq hvalid.1 hn hstop
  simp only [Reader.ofBlock, hdata, Request.positions?_slice hvalid]
  rw [Block.select_rows hdata, Request.positions_eq_map, hcount, Segment.expand, Block.stack_map,
    Block.stack_map]
  rfl

/-- A block answers the segments of rows that ascend strictly within it. -/
theorem answers_ofBlock {type : ElementType} (hfill : Block.fill type other f.fill = .ok blank)
    {rows : List (Option Int)} (htype : AnswerType data f.fill rows f.type? type)
    (hsorted : rows.reduceOption.Pairwise (· < ·))
    (hrows : ∀ row ∈ rows.reduceOption, 0 ≤ row ∧ row < size) :
  Answers f (Reader.ofBlock data) type other (cellOf data blank) (Segment.ofRows rows)
  := by
  have hcuts := Segment.cuts_ofRows rows
  apply answers_ofRows hsorted hrows
  · intro _ n
    have hstack := Block.fill_cons hfill (List.replicate n (none : Option Int))
    rw [List.length_replicate] at hstack
    rw [hstack]
    congr 1
    apply Block.stack_congr
    intro row hrow ix _
    rw [List.eq_of_mem_replicate hrow, cellOf]
  · intro start stride stop n hvalid hrun call
    refine ⟨_, ofBlock_eq_ok hdata blank (hcuts.proper _ hrun) hvalid call, ?_⟩
    generalize f.type? = known at htype
    cases htype with
    | given | read => exact Block.convert_self (stack _ _ _ _)
    | filled hnone =>
      -- there is no run without a row to start from
      have hstart := (hcuts.ends_mem hrun).1
      rw [List.reduceOption_mem_iff] at hstart
      cases hnone _ hstart

end Reading

/-! ### The type of an answer -/

theorem readAll_fill_eq_ok_iff {read : Reader} {other : List Int} {call n : Nat}
    {segments : List Segment} {pieces : List Piece} :
  (readAll read other call (.fill n :: segments)).result = .ok pieces
    ↔ ∃ rest, (readAll read other call segments).result = .ok rest ∧ .absent n :: rest = pieces
  := by
  simp only [readAll]
  exact map_eq_ok_iff

theorem readAll_run_eq_ok_iff {read : Reader} {other : List Int} {call n : Nat}
    {start stride stop : Int} {segments : List Segment} {pieces : List Piece} :
  (readAll read other call (.run start stride stop n :: segments)).result = .ok pieces
    ↔ ∃ block, read call start stride stop = .ok block
      ∧ block.shape.map Int.ofNat = (n : Int) :: other
      ∧ ∃ rest, (readAll read other (call + 1) segments).result = .ok rest
          ∧ .read n block :: rest = pieces
  := by
  rcases hread : read call start stride stop with e | block
  · simp [readAll, hread]
  · by_cases hshape : block.shape.map Int.ofNat = (n : Int) :: other
    · simp only [readAll, hread, hshape, if_true, Except.ok.injEq, exists_eq_left', true_and]
      exact map_eq_ok_iff
    · simp [readAll, hread, hshape]

theorem type_ofBlock {data block : Block} {call : Nat} {start stride stop : Int}
    (h : Reader.ofBlock data call start stride stop = .ok block) :
  block.type = data.type
  := by
  unfold Reader.ofBlock at h
  split at h
  · cases h
  · split at h
    · cases h
      rfl
    · cases h

/-- If all blocks that are read have one type, this is the type of the first, unless no row is
read. -/
theorem firstType?_of_readAll {read : Reader} {type : ElementType}
    (hread : ∀ call start stride stop block, read call start stride stop = .ok block →
      block.type = type) {other : List Int} {call : Nat} {segments : List Segment}
    (hproper : ∀ s ∈ segments, s.Proper) {pieces : List Piece}
    (h : (readAll read other call segments).result = .ok pieces) :
  firstType? pieces = (segments.flatMap Segment.expand).reduceOption.head?.map fun _ => type
  := by
  induction segments generalizing call pieces with
  | nil =>
    cases h
    rfl
  | cons s segments ih =>
    obtain ⟨hs, hrest⟩ := List.forall_mem_cons.mp hproper
    cases s with
    | fill n =>
      obtain ⟨rest, hpieces, rfl⟩ := readAll_fill_eq_ok_iff.mp h
      have hnext := ih hrest hpieces
      have hnone : (Segment.fill n).expand.reduceOption = [] := by
        simp [Segment.expand]
      simpa [firstType?, List.reduceOption_append, hnone] using hnext
    | run start stride stop n =>
      obtain ⟨block, hblock, -, rest, -, rfl⟩ := readAll_run_eq_ok_iff.mp h
      obtain ⟨k, rfl⟩ : ∃ k, n = k + 1 := ⟨n - 1, by have := hs.1; omega⟩
      simp [firstType?, hread _ _ _ _ _ hblock, List.reduceOption_append,
        Segment.reduceOption_expand_run, List.range_succ_eq_map]

theorem reduceOption_eq_nil_iff {rows : List (Option Int)} :
  rows.reduceOption = [] ↔ ∀ row ∈ rows, row = none
  := by
  rw [List.reduceOption_eq_nil_iff]
  constructor
  · rintro ⟨n, rfl⟩ row hrow
    exact List.eq_of_mem_replicate hrow
  · intro hnone
    use rows.length
    apply List.eq_replicate_of_mem hnone

/-- What is read first from a block is of the block's type, if a row is read. -/
theorem firstType?_ofRows {data : Block} {other : List Int} {rows : List (Option Int)}
    {pieces : List Piece}
    (h : (readAll (Reader.ofBlock data) other 1 (Segment.ofRows rows)).result = .ok pieces) :
  firstType? pieces = rows.reduceOption.head?.map fun _ => data.type
  := by
  have hcuts := Segment.cuts_ofRows rows
  have hfirst := firstType?_of_readAll (fun _ _ _ _ _ => type_ofBlock) hcuts.proper h
  rwa [hcuts.expand_eq] at hfirst

theorem typeOf_of_readAll {f : Fetch} {data : Block} {rows : List (Option Int)} {type : ElementType}
    (htype : AnswerType data f.fill rows f.type? type) {pieces : List Piece}
    (h : (readAll (Reader.ofBlock data) f.other 1 (Segment.ofRows rows)).result = .ok pieces) :
  f.typeOf pieces = .ok type
  := by
  have hfirst := firstType?_ofRows h
  generalize hknown : f.type? = known at htype
  cases htype with
  | given => simp [typeOf, hknown]
  | read hrow =>
    have hne : rows.reduceOption ≠ [] := List.ne_nil_of_mem (List.reduceOption_mem_iff.mpr hrow)
    rw [List.head?_eq_some_head hne] at hfirst
    simp [typeOf, hknown, hfirst]
  | filled hnone hfill =>
    rw [reduceOption_eq_nil_iff.mpr hnone] at hfirst
    simp [typeOf, hknown, hfirst, hfill, liftConversion, Except.mapError]

/-! ### Looking up rows -/

/-- A block that has at every requested position the row of the data that the map has there, or the
blank row. -/
structure IsLookup (data blank : Block) (m : IndexMap) (r : Request) (b : Block) : Prop where
  shape_eq : b.shape = r.length :: data.shape.tail
  get_eq : ∀ i < r.length, ∃ row?, m.get (r.start + i * r.stride) = .ok row?
    ∧ (∀ row ∈ row?, 0 ≤ row ∧ row < data.shape.headD 0)
    ∧ ∀ ix, Block.IsIndex data.shape.tail ix → b.get (i :: ix) = cellOf data blank row? ix

/-- The block that is stacked of the rows at the requested positions looks them up. -/
theorem isLookup_stack {data blank : Block} {size : Nat} {other : List Nat}
    (hdata : data.shape = size :: other) (type : ElementType) {m : IndexMap} {r : Request}
    (hr : r.Valid m.size) (hrows : ∀ row ∈ (r.rows m).reduceOption, 0 ≤ row ∧ row < size) :
  IsLookup data blank m r (Block.stack type other (cellOf data blank) (r.rows m))
  := by
  constructor
  · simp [Block.stack, hdata]
  · intro i hi
    obtain ⟨row?, hrow⟩ : ∃ row?, (r.rows m)[i]? = some row? := by
      simp [hi]
    use row?, Request.get_position hr hrow
    constructor
    · rintro row rfl
      rw [hdata]
      exact hrows row (List.reduceOption_mem_iff.mpr (List.mem_of_getElem? hrow))
    · intro ix hix
      rw [hdata] at hix
      exact Block.get_stack hrow hix

section Merged

variable {axes : List Block} {merged : Block} {maps : List IndexMap} {c : Nat} {axis : Block}
  {m : IndexMap} {r : Request} {data blank : Block} {other : List Nat} {f : Fetch}
  {type : ElementType}

/-- Through a map of a merge a request is answered from a block of the child's rows exactly if the
answer can be made, and then the answer looks the rows up one position after the other. -/
theorem run_merged_iff [Machine] (h : Axis.merge axes = .ok (merged, maps))
    (haxis : axes[c]? = some axis) (hm : maps[c]? = some m)
    (hdata : data.shape = axis.data.length :: other) (hr : r.Valid m.size)
    (hother : f.other = other.map Int.ofNat)
    (htype : AnswerType data f.fill (r.rows m) f.type? type)
    (hfill : Block.fill type other f.fill = .ok blank) :
  ((∃ b, (f.run m r (Reader.ofBlock data)).result = .ok b)
      ↔ Allocates type (r.length :: other))
    ∧ ∀ b, (f.run m r (Reader.ofBlock data)).result = .ok b →
        b.type = type ∧ IsLookup data blank m r b
  := by
  have hrows := Request.rows_within_of_merge h haxis hm hr
  have hanswers := answers_ofBlock hdata hfill htype
    (Request.pairwise_rows_of_merge h haxis hm hr) hrows
  have hrun (b : Block) := run_eq_ok_iff hr hanswers hother
    (fun pieces => typeOf_of_readAll htype) (b := b)
  constructor
  · simp [hrun]
  · intro b hb
    obtain ⟨-, rfl⟩ := (hrun b).mp hb
    exact ⟨rfl, isLookup_stack hdata type hr hrows⟩

end Merged

/-- The first child of two overlapping axes has no row at the middle of three positions. -/
theorem run_merged_overlapping :
  let axis : Block := .ofList .int64 [.int 1, .int 3]
  let m : IndexMap := .ofRows [some 0, none, some 1]
  let data : Block := ⟨.unsigned .w8, [2, 2], [.int 10, .int 11, .int 12, .int 13], rfl⟩
  let blank : Block := .ofList (.unsigned .w8) [.int 7, .int 7]
  let f : Fetch := ⟨[2], none, .int 7⟩
  let r : Request := ⟨0, 1, 2⟩
  (∃ merged maps, Axis.merge [axis, .ofList .int64 [.int 2, .int 3]] = .ok (merged, m :: maps))
    ∧ Block.fill (.unsigned .w8) [2] f.fill = .ok blank
    ∧ ((∃ b, (f.run m r (Reader.ofBlock data)).result = .ok b)
        ↔ Allocates (.unsigned .w8) (r.length :: [2]))
    ∧ ∀ b, (f.run m r (Reader.ofBlock data)).result = .ok b →
        b.type = .unsigned .w8 ∧ IsLookup data blank m r b
  := by
  intro axis m data blank f r
  obtain ⟨merged, maps, hmerge⟩ :
      ∃ merged maps, Axis.merge [axis, .ofList .int64 [.int 2, .int 3]] = .ok (merged, m :: maps) :=
    ⟨_, _, rfl⟩
  use ⟨merged, maps, hmerge⟩, rfl
  have hread : AnswerType data f.fill (r.rows m) none (.unsigned .w8) :=
    .read (show some 0 ∈ r.rows m by decide)
  have haxis : [axis, .ofList .int64 [.int 2, .int 3]][0]? = some axis := rfl
  exact run_merged_iff hmerge haxis rfl rfl (by decide) rfl hread rfl

/-- Sizes of zero do not count for the bytes of an answer: an answer without elements can be too
large. -/
theorem run_tooLarge :
  let f : Fetch := ⟨[0, 2 ^ 62], none, .int 0⟩
  let data : Block := ⟨.unsigned .w8, [1, 0, 2 ^ 62], [], rfl⟩
  ∃ merged m m',
    Axis.merge [Block.ofList .int64 [.int 1], Block.ofList .int64 [.int 2]] = .ok (merged, [m, m'])
      ∧ (⟨0, 1, 1⟩ : Request).Valid m.size
      ∧ Block.fill (.unsigned .w8) [0, 2 ^ 62] (.int 0) = .ok ⟨.unsigned .w8, [0, 2 ^ 62], [], rfl⟩
      ∧ (f.run m ⟨0, 1, 1⟩ (Reader.ofBlock data)).result = .error .blockTooLarge
  := by
  refine ⟨_, _, _, rfl, ?_, rfl, rfl⟩
  decide

end Fetch

end GridUnion
