import GridUnion.Proofs.Success
import GridUnion.Proofs.Axis.IndexMap
import GridUnion.Segment
import Mathlib.Data.List.Sort
import Mathlib.Tactic.Linarith
import Mathlib.Tactic.Ring

/-!
# Rows in segments

The segments that rows are cut into expand to these rows again.  If the rows ascend strictly, every
run among the segments reads forward.
-/

namespace GridUnion

namespace Segment

/-- A segment has at least one position; a run stops at its last row, and a run of one row has
stride one. -/
def Proper : Segment → Prop
  | fill n => 1 ≤ n
  | run start stride stop n =>
    1 ≤ n ∧ stop = start + ((n : Int) - 1) * stride ∧ (n = 1 → stride = 1)

theorem proper_single (row : Option Int) :
  (single row).Proper
  := by
  cases row with
  | none => exact Nat.le_refl 1
  | some row => simp [single, Proper]

@[simp]
theorem expand_single (row : Option Int) :
  (single row).expand = [row]
  := by
  cases row with
  | none => rfl
  | some row => simp [single, expand]

@[simp]
theorem length_expand (s : Segment) :
  s.expand.length = s.count
  := by
  cases s with
  | fill n => simp [expand, count]
  | run start stride stop n => simp [expand, count]

theorem expand_fill_succ (n : Nat) :
  (fill (n + 1)).expand = (fill n).expand ++ [none]
  := List.replicate_succ'

theorem expand_run_succ (start stride stop stop' : Int) (n : Nat) :
  (run start stride stop' (n + 1)).expand
    = (run start stride stop n).expand ++ [some (start + n * stride)]
  := by
  simp [expand, List.range_succ]

/-- Proper segments that expand to the given rows. -/
structure Cuts (segments : List Segment) (rows : List (Option Int)) : Prop where
  expand_eq : segments.flatMap expand = rows
  proper : ∀ s ∈ segments, s.Proper

theorem Cuts.cons {s : Segment} {segments : List Segment} {rows : List (Option Int)}
    (hs : s.Proper) (h : Cuts segments rows) :
  Cuts (s :: segments) (s.expand ++ rows)
  := by
  constructor
  · rw [List.flatMap_cons, h.expand_eq]
  · apply List.forall_mem_cons.mpr ⟨hs, h.proper⟩

/-- Segments have as many positions as the rows that were cut. -/
theorem Cuts.sum_count {segments : List Segment} {rows : List (Option Int)}
    (h : Cuts segments rows) :
  (segments.map count).sum = rows.length
  := by
  rw [← h.expand_eq, List.length_flatMap]
  simp only [length_expand]

/-- A segment that is extended by rows expands to its own rows and then these. -/
theorem cuts_extend {s : Segment} {rows : List (Option Int)} (hs : s.Proper) :
  Cuts (extend s rows) (s.expand ++ rows)
  := by
  fun_induction extend s rows with
  | case1 s =>
    constructor
    · simp
    · simpa using hs
  | case2 n rest ih =>
    have hnext := ih (Nat.le_add_left 1 n)
    rwa [expand_fill_succ, List.append_assoc] at hnext
  | case3 n row rest ih =>
    apply Cuts.cons hs
    simpa using ih (proper_single _)
  | case4 a s b n rest ih =>
    apply Cuts.cons hs
    simpa using ih (proper_single _)
  | case5 a s b row rest ih =>
    obtain rfl : b = a := by simpa using hs.2.1
    have hnext := ih (by simp [Proper])
    simpa [expand, List.range_succ] using hnext
  | case6 a b n row rest hn ih =>
    obtain ⟨hone, hstop, -⟩ := hs
    have hrow : row = a + n * (row - b) := by linarith
    have hnext := ih ⟨by omega, by push_cast; linarith, by omega⟩
    rw [expand_run_succ a (row - b) b, ← hrow, List.append_assoc] at hnext
    exact hnext
  | case7 a s b n row rest hn hstride ih =>
    apply Cuts.cons hs
    simpa using ih (proper_single _)

/-- The segments of rows expand to these rows. -/
theorem cuts_ofRows (rows : List (Option Int)) :
  Cuts (ofRows rows) rows
  := by
  cases rows with
  | nil =>
    constructor
    · rfl
    · simp [ofRows]
  | cons row rest =>
    have hcuts : Cuts (extend (single row) rest) _ := cuts_extend (proper_single row)
    simpa [ofRows] using hcuts

/-- A request within an axis is cut into the segments of its rows. -/
theorem segments_eq_ok {m : IndexMap} {r : Request} (h : r.Valid m.size) :
  m.segments r = .ok (ofRows (r.rows m))
  := by
  rw [IndexMap.segments, Request.check_eq_ok_iff.mpr h]
  rfl

/-! ### Rows that ascend -/

theorem reduceOption_expand_run (start stride stop : Int) (n : Nat) :
  (run start stride stop n).expand.reduceOption
    = (List.range n).map fun (i : Nat) => start + i * stride
  := by
  simp [expand, List.reduceOption, List.filterMap_map, List.filterMap_eq_map']

section Cuts

variable {segments : List Segment} {rows : List (Option Int)} {start stride stop : Int} {n : Nat}

/-- The rows of a run are among the rows that were cut. -/
theorem Cuts.sublist_of_run_mem (h : Cuts segments rows) (hrun : run start stride stop n ∈ segments) :
  ((List.range n).map fun (i : Nat) => start + i * stride).Sublist rows.reduceOption
  := by
  rw [← reduceOption_expand_run start stride stop, ← h.expand_eq, List.flatMap_def]
  apply List.Sublist.filterMap
  apply List.sublist_flatten_of_mem (List.mem_map_of_mem hrun)

/-- A run among rows that ascend strictly has a positive stride. -/
theorem Cuts.one_le_stride (h : Cuts segments rows) (hrows : rows.reduceOption.Pairwise (· < ·))
    (hrun : run start stride stop n ∈ segments) :
  1 ≤ stride
  := by
  obtain ⟨hn, -, hone⟩ := h.proper _ hrun
  rcases Nat.eq_or_lt_of_le hn with heq | hlt
  · rw [hone heq.symm]
  · have hpair := hrows.sublist (h.sublist_of_run_mem hrun)
    have hfirst := List.pairwise_iff_getElem.mp hpair 0 1 (by simp; omega) (by simp; omega)
    simp at hfirst
    omega

/-- The first and the last row of a run are among the rows that were cut. -/
theorem Cuts.ends_mem (h : Cuts segments rows) (hrun : run start stride stop n ∈ segments) :
  start ∈ rows.reduceOption ∧ stop ∈ rows.reduceOption
  := by
  obtain ⟨hn, hstop, -⟩ := h.proper _ hrun
  have hsub := (h.sublist_of_run_mem hrun).subset
  constructor
  · apply hsub
    apply List.mem_map.mpr ⟨0, List.mem_range.mpr hn, by simp⟩
  · apply hsub
    apply List.mem_map.mpr ⟨n - 1, List.mem_range.mpr (by omega), ?_⟩
    rw [hstop, Nat.cast_sub hn, Nat.cast_one]

/-- A segment without rows stands for positions that have none. -/
theorem Cuts.none_mem (h : Cuts segments rows) (hfill : fill n ∈ segments) :
  none ∈ rows
  := by
  have hn : 1 ≤ n := h.proper _ hfill
  rw [← h.expand_eq]
  apply List.mem_flatMap.mpr ⟨fill n, hfill, ?_⟩
  apply List.mem_replicate.mpr ⟨by omega, rfl⟩

/-- A run among rows that ascend strictly within a child is a request within the child. -/
theorem Cuts.valid_of_run_mem (h : Cuts segments rows)
    (hrows : rows.reduceOption.Pairwise (· < ·)) {size : Nat}
    (hwithin : ∀ row ∈ rows.reduceOption, 0 ≤ row ∧ row < size)
    (hrun : run start stride stop n ∈ segments) :
  (⟨start, stride, stop⟩ : Request).Valid size
  := by
  obtain ⟨hn, hstop, -⟩ := h.proper _ hrun
  obtain ⟨hfirst, hlast⟩ := h.ends_mem hrun
  have hstride := h.one_le_stride hrows hrun
  have hspan : 0 ≤ ((n : Int) - 1) * stride := Int.mul_nonneg (by omega) (by omega)
  exact ⟨hstride, (hwithin start hfirst).1, by simp only [hstop]; omega, (hwithin stop hlast).2⟩

end Cuts

end Segment

end GridUnion
