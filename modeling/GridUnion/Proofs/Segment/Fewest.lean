import GridUnion.Proofs.Segment.Description
import Mathlib.Data.List.Range

/-!
# The fewest reads

Rows can be cut in many ways into pieces without rows and pieces that step by a constant amount.
The segments of a request are such pieces, and no other cut has fewer pieces with rows.
-/

namespace GridUnion

namespace Segment

/-! ### Cuts into pieces -/

/-- A piece has no rows at all, or it has one at every position and they step by a constant
amount. -/
def IsPiece (piece : List (Option Int)) : Prop :=
  (∀ row ∈ piece, row = none)
    ∨ ∃ rows : List Int, piece = rows.map some ∧ ∃ step, rows.IsChain fun a b => b - a = step

/-- Pieces that rows are cut into. -/
structure IsCut (rows : List (Option Int)) (pieces : List (List (Option Int))) : Prop where
  flatten_eq : pieces.flatten = rows
  isPiece : ∀ piece ∈ pieces, IsPiece piece

/-- The number of pieces that have rows. -/
def countPresent (pieces : List (List (Option Int))) : Nat :=
  pieces.countP fun piece => piece.any Option.isSome

/-- The number of reads that segments need. -/
def countRuns (segments : List Segment) : Nat := segments.countP isRun

@[simp]
theorem countRuns_fill_cons (n : Nat) (segments : List Segment) :
  countRuns (fill n :: segments) = countRuns segments
  := rfl

@[simp]
theorem countRuns_run_cons (start stride stop : Int) (n : Nat) (segments : List Segment) :
  countRuns (run start stride stop n :: segments) = countRuns segments + 1
  := by
  rw [countRuns, countRuns, List.countP_cons_of_pos rfl]

/-! ### Runs that have begun -/

section Extend

variable {n n' : Nat}

/-- How many reads a run with a stride still needs depends only on its stride and its last row. -/
theorem countRuns_extend_run_congr (start start' stride last : Int) (hn : 2 ≤ n) (hn' : 2 ≤ n')
    (rows : List (Option Int)) :
  countRuns (extend (run start stride last n) rows)
    = countRuns (extend (run start' stride last n') rows)
  := by
  induction rows generalizing last n n' with
  | nil => rfl
  | cons row rest ih =>
    cases row with
    | none => simp [extend]
    | some row =>
      have hone : n ≠ 1 := by omega
      have hone' : n' ≠ 1 := by omega
      by_cases hstride : row - last = stride
      · simp only [extend, hone, hone', hstride, if_true, if_false]
        apply ih row (by omega) (by omega)
      · simp [extend, hone, hone', hstride]

/-- A run needs at least as many reads as one that begins at its last row, and at most one more. -/
theorem countRuns_extend_run_bounds (start stride last : Int) (hn : 1 ≤ n)
    (rows : List (Option Int)) :
  countRuns (extend (single (some last)) rows) ≤ countRuns (extend (run start stride last n) rows)
    ∧ countRuns (extend (run start stride last n) rows)
      ≤ countRuns (extend (single (some last)) rows) + 1
  := by
  induction rows generalizing start stride last n with
  | nil => simp [extend, single, countRuns, isRun]
  | cons row rest ih =>
    cases row with
    | none => simp [extend, single]
    | some row =>
      have hbegun : extend (single (some last)) (some row :: rest)
          = extend (run last (row - last) row 2) rest := by
        simp [extend, single]
      rw [hbegun]
      by_cases hone : n = 1
      · -- both take up the stride to this row
        have heq := countRuns_extend_run_congr start last (row - last) row (le_refl 2)
          (le_refl 2) rest
        simp [extend, hone, heq]
      · by_cases hstride : row - last = stride
        · have heq := countRuns_extend_run_congr start last stride row (show 2 ≤ n + 1 by omega)
            (le_refl 2) rest
          simp [extend, hone, hstride, heq]
        · -- the former ends here, and the latter goes on with a stride of its own
          obtain ⟨hle, hge⟩ := ih last (row - last) row (show 1 ≤ 2 by omega)
          simp only [extend, hone, hstride, if_false, countRuns_run_cons]
          omega

/-- A run that has begun needs one read more than the rows that follow would need by themselves, or
as many. -/
theorem countRuns_extend_run_le (start stride last : Int) (hn : 1 ≤ n)
    (rows : List (Option Int)) :
  countRuns (extend (run start stride last n) rows) ≤ countRuns (ofRows rows) + 1
  := by
  rcases rows with _ | ⟨_ | row, rest⟩
  · simp [extend, ofRows, countRuns, isRun]
  · simp [extend, ofRows]
  · simp only [extend, ofRows]
    split
    · apply (countRuns_extend_run_bounds _ _ row (by omega) rest).2
    · split
      · apply (countRuns_extend_run_bounds _ _ row (by omega) rest).2
      · simp

theorem countRuns_extend_fill (n : Nat) (rows : List (Option Int)) :
  countRuns (extend (fill n) rows) = countRuns (ofRows rows)
  := by
  induction rows generalizing n with
  | nil => rfl
  | cons row rest ih =>
    cases row with
    | none => rw [extend, ofRows, single, ih, ih]
    | some row => simp [extend, ofRows]

end Extend

/-! ### Pieces in front of other rows -/

theorem countRuns_absent_append {piece : List (Option Int)} (hpiece : ∀ row ∈ piece, row = none)
    (rest : List (Option Int)) :
  countRuns (ofRows (piece ++ rest)) = countRuns (ofRows rest)
  := by
  obtain ⟨n, rfl⟩ : ∃ n, piece = List.replicate n none :=
    ⟨piece.length, List.eq_replicate_iff.mpr ⟨rfl, hpiece⟩⟩
  cases n with
  | zero => rfl
  | succ n => rw [ofRows_replicate_append, countRuns_extend_fill]

/-- Rows that step by a constant amount are a progression. -/
theorem eq_progression {row step : Int} {rows : List Int}
    (h : (row :: rows).IsChain fun a b => b - a = step) :
  row :: rows = (List.range (rows.length + 1)).map fun (i : Nat) => row + i * step
  := by
  induction rows generalizing row with
  | nil => simp
  | cons next rows ih =>
    obtain ⟨hstep, hrest⟩ := List.isChain_cons_cons.mp h
    obtain rfl : next = row + step := by omega
    rw [List.length_cons, List.range_succ_eq_map, List.map_cons, List.map_map, ih hrest]
    congr 1
    · simp
    · apply List.map_congr_left
      intro i _
      simp only [Function.comp_apply]
      push_cast
      ring

theorem countRuns_present_append_le {rows : List Int} {step : Int}
    (h : rows.IsChain fun a b => b - a = step) (hne : rows ≠ []) (rest : List (Option Int)) :
  countRuns (ofRows (rows.map some ++ rest)) ≤ countRuns (ofRows rest) + 1
  := by
  obtain ⟨row, rows, rfl⟩ := List.exists_cons_of_ne_nil hne
  rw [eq_progression h, List.map_map]
  have hrun := ofRows_progression_append row step rows.length rest
  rw [Function.comp_def, hrun]
  apply countRuns_extend_run_le _ _ _ (by omega)

/-- A cut has at least as many pieces with rows as there are runs. -/
theorem IsCut.countRuns_le {rows : List (Option Int)} {pieces : List (List (Option Int))}
    (h : IsCut rows pieces) :
  countRuns (ofRows rows) ≤ countPresent pieces
  := by
  obtain ⟨rfl, hpieces⟩ := h
  induction pieces with
  | nil => exact Nat.le_refl 0
  | cons piece pieces ih =>
    obtain ⟨hpiece, hrest⟩ := List.forall_mem_cons.mp hpieces
    have hle := ih hrest
    rw [List.flatten_cons, countPresent, List.countP_cons]
    rcases hpiece with habsent | ⟨rows, rfl, step, hchain⟩
    · rw [countRuns_absent_append habsent]
      apply hle.trans (Nat.le_add_right _ _)
    · cases rows with
      | nil => simpa [countPresent] using hle
      | cons row rows =>
        have hnext := countRuns_present_append_le hchain (List.cons_ne_nil row rows)
          pieces.flatten
        apply hnext.trans
        simpa [countPresent] using hle

/-! ### Segments as pieces -/

theorem isPiece_expand (s : Segment) :
  IsPiece s.expand
  := by
  cases s with
  | fill n => exact .inl fun row hrow => List.eq_of_mem_replicate hrow
  | run start stride stop n =>
    refine .inr ⟨(List.range n).map fun (i : Nat) => start + i * stride, ?_, stride, ?_⟩
    · simp [expand]
    · rw [List.isChain_map, List.isChain_range]
      intro i _
      push_cast
      ring

theorem any_isSome_expand {s : Segment} (hs : s.Proper) :
  s.expand.any Option.isSome = s.isRun
  := by
  obtain ⟨rows, heq⟩ := exists_expand_eq_cons hs
  cases s with
  | fill n => simp [expand, isRun]
  | run start stride stop n => simp [heq, first, isRun]

theorem countPresent_map_expand {segments : List Segment} (h : ∀ s ∈ segments, s.Proper) :
  countPresent (segments.map expand) = countRuns segments
  := by
  rw [countPresent, List.countP_map, countRuns]
  apply List.countP_congr
  intro s hs
  rw [Function.comp_apply, any_isSome_expand (h s hs)]

variable {m : IndexMap} {r : Request}

/-- The segments of a request need the fewest reads: as many as the rows at the requested positions
have pieces with rows in a cut that has the fewest. -/
theorem exists_segments_isLeast (h : r.Valid m.size) :
  ∃ segments, m.segments r = .ok segments
    ∧ IsLeast { k | ∃ pieces, IsCut (r.rows m) pieces ∧ countPresent pieces = k }
        (countRuns segments)
  := by
  have hcuts := cuts_ofRows (r.rows m)
  use ofRows (r.rows m), segments_eq_ok h
  constructor
  · refine ⟨(ofRows (r.rows m)).map expand, ⟨?_, ?_⟩, countPresent_map_expand hcuts.proper⟩
    · rw [← List.flatMap_def, hcuts.expand_eq]
    · intro piece hpiece
      obtain ⟨s, -, rfl⟩ := List.mem_map.mp hpiece
      apply isPiece_expand
  · rintro k ⟨pieces, hpieces, rfl⟩
    apply hpieces.countRuns_le

/-- The rows of every second position step by one, by one, by two and by two: two reads are
enough. -/
theorem exists_segments_isLeast_uneven :
  let m : IndexMap := .ofRows [some 0, none, some 1, some 1, some 2, none, some 4, some 5, some 6]
  let r : Request := ⟨0, 2, 8⟩
  r.Valid m.size ∧ ∃ segments, m.segments r = .ok segments
    ∧ IsLeast { k | ∃ pieces, IsCut (r.rows m) pieces ∧ countPresent pieces = k }
        (countRuns segments)
  := by
  intro m r
  have hvalid : r.Valid m.size := by decide
  use hvalid
  apply exists_segments_isLeast hvalid

end Segment

end GridUnion
