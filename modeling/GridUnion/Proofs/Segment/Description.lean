import GridUnion.Proofs.Request
import GridUnion.Proofs.Segment
import Mathlib.Data.List.Chain

/-!
# Segments that describe a request

The segments of a request expand to the rows at the requested positions, and none of them goes on
where the next one starts.  No other list of segments does both.
-/

namespace GridUnion

/-! ### Requested positions -/

/-- The list of the positions `start`, `start + stride`, … up to and including `stop`. -/
structure Request.Asks (r : Request) (positions : List Int) : Prop where
  pairwise : positions.Pairwise (· < ·)
  mem_iff : ∀ p, p ∈ positions ↔ r.start ≤ p ∧ p ≤ r.stop ∧ r.stride ∣ p - r.start

namespace Request

variable {r : Request} {m : IndexMap}

/-- Only one list holds the positions of a request. -/
theorem Asks.unique {positions others : List Int} (h : r.Asks positions) (h' : r.Asks others) :
  positions = others
  := by
  apply h.pairwise.sortedLT.eq_of_mem_iff h'.pairwise.sortedLT
  intro p
  rw [h.mem_iff, h'.mem_iff]

/-- A position is asked for exactly if it is `start + i * stride` for a number `i` below the length
of the request. -/
theorem exists_position_iff (h : r.Valid m.size) {p : Int} :
  (∃ i < r.length, (r.position i : Int) = p)
    ↔ r.start ≤ p ∧ p ≤ r.stop ∧ r.stride ∣ p - r.start
  := by
  obtain ⟨hstride, hstart, hstop, -⟩ := id h
  constructor
  · rintro ⟨i, hi, rfl⟩
    rw [cast_position h]
    have hle : (i : Int) ≤ (r.stop - r.start) / r.stride := by
      rw [length] at hi
      omega
    have hmul : (i : Int) * r.stride ≤ r.stop - r.start :=
      (Int.le_ediv_iff_mul_le (by omega)).mp hle
    have hnonneg : 0 ≤ (i : Int) * r.stride := Int.mul_nonneg (by omega) (by omega)
    refine ⟨by omega, by omega, i, by ring⟩
  · rintro ⟨hlow, hhigh, k, hk⟩
    have hk0 : 0 ≤ k := by
      by_contra hneg
      have hmul : r.stride * k < 0 := Int.mul_neg_of_pos_of_neg (by omega) (by omega)
      omega
    have hle : k ≤ (r.stop - r.start) / r.stride := by
      apply (Int.le_ediv_iff_mul_le (by omega)).mpr
      rw [Int.mul_comm]
      omega
    use k.toNat
    constructor
    · rw [length]
      omega
    · rw [cast_position h, Int.toNat_of_nonneg hk0, Int.mul_comm]
      omega

theorem asks_positions (h : r.Valid m.size) :
  r.Asks (r.positions.map Int.ofNat)
  := by
  constructor
  · rw [positions_eq_map, List.map_map, List.pairwise_map]
    apply List.pairwise_lt_range.imp
    intro i j hij
    have hlt := position_lt_position h hij
    simp only [Function.comp_apply, Int.ofNat_eq_natCast]
    omega
  · intro p
    rw [← exists_position_iff h]
    simp [positions_eq_map]

/-- What a map gives for the requested positions, one after the other. -/
theorem map_get_positions (h : r.Valid m.size) :
  (r.positions.map Int.ofNat).map m.get = (r.rows m).map Except.ok
  := by
  apply List.ext_getElem
  · simp
  · intro i hi hi'
    have hrow := List.getElem?_eq_getElem (l := r.rows m) (i := i) (by simpa using hi')
    have hget := get_position h hrow
    rw [← cast_position h] at hget
    simpa [positions_eq_map] using hget

end Request

namespace Segment

/-! ### Neighbours -/

/-- The row at the first position of a segment. -/
def first : Segment → Option Int
  | fill _ => none
  | run start _ _ _ => some start

/-- Whether a segment has rows, which are read in one go. -/
def isRun : Segment → Bool
  | fill _ => false
  | run _ _ _ _ => true

/-- A segment does not go on with a row.  A run of one row goes on with every row, which then sets
its stride. -/
def EndsBefore : Segment → Option Int → Prop
  | fill _, row => row ≠ none
  | run _ _ _ _, none => True
  | run _ stride stop n, some row => 2 ≤ n ∧ row - stop ≠ stride

instance (s : Segment) (row : Option Int) : Decidable (s.EndsBefore row) :=
  match s, row with
  | fill _, row => inferInstanceAs (Decidable (row ≠ none))
  | run _ _ _ _, none => inferInstanceAs (Decidable True)
  | run _ stride stop n, some row => inferInstanceAs (Decidable (2 ≤ n ∧ row - stop ≠ stride))

/-- A segment does not go on with the next one. -/
def Apart (s t : Segment) : Prop := s.EndsBefore t.first

instance : DecidableRel Apart := fun s t => inferInstanceAs (Decidable (s.EndsBefore t.first))

@[simp]
theorem first_single (row : Option Int) :
  (single row).first = row
  := by
  cases row with
  | none => rfl
  | some row => rfl

/-- A segment that is extended keeps its first row. -/
theorem exists_extend_eq_cons (s : Segment) (rows : List (Option Int)) :
  ∃ t segments, extend s rows = t :: segments ∧ t.first = s.first
  := by
  fun_induction extend s rows with
  | case1 s => use s, []
  | case2 n rest ih => exact ih
  | case3 n row rest | case4 a s b n rest | case7 a s b n row rest => exact ⟨_, _, rfl, rfl⟩
  | case5 a s b row rest ih | case6 a b n row rest hn ih => exact ih

theorem isChain_cons_extend {s : Segment} {row : Option Int} {rest : List (Option Int)}
    (hs : s.EndsBefore row) (h : (extend (single row) rest).IsChain Apart) :
  (s :: extend (single row) rest).IsChain Apart
  := by
  obtain ⟨t, segments, heq, hfirst⟩ := exists_extend_eq_cons (single row) rest
  rw [heq] at h ⊢
  apply List.isChain_cons_cons.mpr ⟨?_, h⟩
  rwa [Apart, hfirst, first_single]

/-- Neighbours among the segments that rows are cut into are apart. -/
theorem isChain_extend {s : Segment} (hs : s.Proper) (rows : List (Option Int)) :
  (extend s rows).IsChain Apart
  := by
  fun_induction extend s rows with
  | case1 s => apply List.isChain_singleton
  | case2 n rest ih => apply ih (Nat.le_add_left 1 n)
  | case3 n row rest ih =>
    have hends : (fill n).EndsBefore (some row) := Option.some_ne_none row
    apply isChain_cons_extend hends (ih (proper_single _))
  | case4 a s b n rest ih =>
    have hends : (run a s b n).EndsBefore none := trivial
    apply isChain_cons_extend hends (ih (proper_single _))
  | case5 a s b row rest ih =>
    obtain rfl : b = a := by simpa using hs.2.1
    apply ih
    simp [Proper]
  | case6 a b n row rest hn ih =>
    obtain ⟨hone, hstop, -⟩ := hs
    apply ih ⟨by omega, by push_cast; linarith, by omega⟩
  | case7 a s b n row rest hn hstride ih =>
    have hends : (run a s b n).EndsBefore (some row) := ⟨by have := hs.1; omega, hstride⟩
    apply isChain_cons_extend hends (ih (proper_single _))

/-! ### Segments from what they expand to -/

/-- Rows that start with absences are cut into a fill of all of these and what follows. -/
theorem ofRows_replicate_append (n : Nat) (rest : List (Option Int)) :
  ofRows (List.replicate (n + 1) none ++ rest) = extend (fill (n + 1)) rest
  := by
  induction n generalizing rest with
  | zero => rfl
  | succ n ih =>
    rw [List.replicate_succ', List.append_assoc, ih]
    rfl

/-- Rows that start with a progression are cut into a run of all of it and what follows. -/
theorem ofRows_progression_append (start stride : Int) (n : Nat) (rest : List (Option Int)) :
  ofRows ((List.range (n + 1)).map (fun (i : Nat) => some (start + i * stride)) ++ rest)
    = extend (run start (if n = 0 then 1 else stride) (start + n * stride) (n + 1)) rest
  := by
  induction n generalizing rest with
  | zero => simp [ofRows, single]
  | succ n ih =>
    rw [List.range_succ, List.map_append, List.append_assoc, ih]
    cases n with
    | zero => simp [extend]
    | succ n =>
      have hstep : start + ((n + 1 + 1 : Nat) : Int) * stride - (start + (n + 1 : Nat) * stride)
          = stride := by
        push_cast
        ring
      rw [if_neg (Nat.succ_ne_zero n), if_neg (Nat.succ_ne_zero _), List.map_singleton,
        List.singleton_append, extend, if_neg (by omega), if_pos hstep]

/-- Rows that start with those of a segment are cut like those that follow, after the segment. -/
theorem ofRows_expand_append {s : Segment} (hs : s.Proper) (rest : List (Option Int)) :
  ofRows (s.expand ++ rest) = extend s rest
  := by
  cases s with
  | fill n =>
    obtain ⟨k, rfl⟩ := Nat.exists_eq_add_of_le' hs
    apply ofRows_replicate_append
  | run start stride stop n =>
    obtain ⟨hn, rfl, hone⟩ := hs
    obtain ⟨k, rfl⟩ := Nat.exists_eq_add_of_le' hn
    rw [expand, ofRows_progression_append]
    cases k with
    | zero => simp [hone rfl]
    | succ k => simp

theorem extend_cons_of_endsBefore {s : Segment} {row : Option Int} (h : s.EndsBefore row)
    (rest : List (Option Int)) :
  extend s (row :: rest) = s :: extend (single row) rest
  := by
  cases s with
  | fill n =>
    cases row with
    | none => cases h rfl
    | some row => rfl
  | run start stride stop n =>
    cases row with
    | none => rfl
    | some row =>
      obtain ⟨hn, hstride⟩ := h
      rw [extend, if_neg (by omega), if_neg hstride]

theorem exists_expand_eq_cons {s : Segment} (hs : s.Proper) :
  ∃ rows, s.expand = s.first :: rows
  := by
  cases s with
  | fill n =>
    obtain ⟨k, rfl⟩ := Nat.exists_eq_add_of_le' hs
    use List.replicate k none
    rfl
  | run start stride stop n =>
    obtain ⟨k, rfl⟩ := Nat.exists_eq_add_of_le' hs.1
    simp [expand, first, List.range_succ_eq_map]

/-- Proper segments of which neighbours are apart are those that their rows are cut into. -/
theorem ofRows_flatMap_expand {segments : List Segment} (hproper : ∀ s ∈ segments, s.Proper)
    (hapart : segments.IsChain Apart) :
  ofRows (segments.flatMap expand) = segments
  := by
  induction segments with
  | nil => rfl
  | cons s segments ih =>
    obtain ⟨hs, hsegments⟩ := List.forall_mem_cons.mp hproper
    have hrest := ih hsegments hapart.tail
    rw [List.flatMap_cons, ofRows_expand_append hs]
    cases segments with
    | nil => rfl
    | cons t segments =>
      obtain ⟨hst, -⟩ := List.isChain_cons_cons.mp hapart
      obtain ⟨rows, heq⟩ := exists_expand_eq_cons (hsegments t List.mem_cons_self)
      rw [List.flatMap_cons, heq, List.cons_append] at hrest ⊢
      rw [extend_cons_of_endsBefore hst]
      congr

/-! ### Descriptions -/

/-- Segments describe a request on a map: they expand to what the map gives for the requested
positions, each of them has a position and stops at its last row, and neighbours are apart. -/
structure Describes (m : IndexMap) (r : Request) (segments : List Segment) : Prop where
  expand_eq : ∃ positions, r.Asks positions
    ∧ (segments.flatMap expand).map Except.ok = positions.map m.get
  proper : ∀ s ∈ segments, s.Proper
  apart : segments.IsChain Apart

variable {m : IndexMap} {r : Request}

theorem describes_ofRows (h : r.Valid m.size) :
  Describes m r (ofRows (r.rows m))
  := by
  have hcuts := cuts_ofRows (r.rows m)
  constructor
  · use r.positions.map Int.ofNat, Request.asks_positions h
    rw [hcuts.expand_eq, Request.map_get_positions h]
  · exact hcuts.proper
  · cases r.rows m with
    | nil => apply List.isChain_nil
    | cons row rest => apply isChain_extend (proper_single row)

/-- A request within an axis is cut into segments that describe it, and no other segments do. -/
theorem exists_segments_describes (h : r.Valid m.size) :
  ∃ segments, m.segments r = .ok segments ∧ Describes m r segments
    ∧ ∀ others, Describes m r others → others = segments
  := by
  use ofRows (r.rows m), segments_eq_ok h, describes_ofRows h
  intro others hothers
  obtain ⟨positions, hasks, hexpand⟩ := hothers.expand_eq
  rw [hasks.unique (Request.asks_positions h), Request.map_get_positions h] at hexpand
  have hinj : Function.Injective (Except.ok : Option Int → Except Failure (Option Int)) :=
    fun _ _ => Except.ok.inj
  rw [← List.map_injective_iff.mpr hinj hexpand]
  apply (ofRows_flatMap_expand hothers.proper hothers.apart).symm

/-- Every second position of a map whose rows go forward, then backward. -/
theorem exists_segments_describes_backward :
  let m : IndexMap := .ofRows [some 4, none, some 6, some 0, some 8, none, none, none, some 3,
    some 3, some (-1)]
  let r : Request := ⟨0, 2, 10⟩
  r.Valid m.size ∧ ∃ segments, m.segments r = .ok segments ∧ Describes m r segments
    ∧ ∀ others, Describes m r others → others = segments
  := by
  intro m r
  have hvalid : r.Valid m.size := by decide
  use hvalid
  apply exists_segments_describes hvalid

end Segment

end GridUnion
