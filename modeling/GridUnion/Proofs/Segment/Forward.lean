import GridUnion.Proofs.Segment.Description
import Mathlib.Data.List.Range
import Mathlib.Data.List.SplitBy

/-!
# Forward reads

On a map of a merge the runs of a request read a child forward: within the child, by no more than
the stride of the request, and no row twice.  A request for neighbouring positions has one run for
each stretch of positions that the child has, and the request for the whole axis reads the whole
child, unless the child's axis holds nothing in some place.
-/

namespace GridUnion

/-! ### Rows that count up -/

section Count

variable {rows : List (Option Int)} {size i j : Nat} {row next : Int}

theorem reduceOption_eq_append_cons (hrow : rows[i]? = some (some row)) :
  rows.reduceOption = (rows.take i).reduceOption ++ row :: (rows.drop (i + 1)).reduceOption
  := by
  obtain ⟨hi, hget⟩ := List.getElem?_eq_some_iff.mp hrow
  rw [← List.reduceOption_cons_of_some, ← List.reduceOption_append, ← hget,
    List.getElem_cons_drop, List.take_append_drop]

/-- Among rows that count up from zero, a row is the number of rows before it. -/
theorem eq_length_reduceOption_take (h : rows.reduceOption = (List.range size).map Int.ofNat)
    (hrow : rows[i]? = some (some row)) :
  row = (rows.take i).reduceOption.length
  := by
  have hplace := congrArg (fun l => l[(rows.take i).reduceOption.length]?)
    (reduceOption_eq_append_cons hrow)
  simp only [h, List.getElem?_append_right (Nat.le_refl _), Nat.sub_self,
    List.getElem?_cons_zero, List.getElem?_map] at hplace
  obtain ⟨k, hk, rfl⟩ := Option.map_eq_some_iff.mp hplace
  obtain ⟨-, rfl⟩ := List.getElem?_eq_some_iff.mp hk
  simp

/-- Rows that count up ascend from position to position, by no more than the positions do. -/
theorem sub_bounds_of_count (h : rows.reduceOption = (List.range size).map Int.ofNat)
    (hrow : rows[i]? = some (some row)) (hnext : rows[j]? = some (some next)) (hij : i < j) :
  1 ≤ next - row ∧ next - row ≤ (j : Int) - i
  := by
  have hbefore : (rows.take j)[i]? = some (some row) := by
    rwa [List.getElem?_take_of_lt hij]
  have hlength := congrArg List.length (reduceOption_eq_append_cons hbefore)
  have hle := List.reduceOption_length_le ((rows.take j).drop (i + 1))
  rw [eq_length_reduceOption_take h hrow, eq_length_reduceOption_take h hnext]
  rw [List.take_take, Nat.min_eq_left hij.le] at hlength
  simp only [List.length_append, List.length_cons, List.length_drop, List.length_take]
    at hlength hle
  omega

end Count

namespace Segment

/-- A position's row and the next one's, if both are there, ascend by at most a bound. -/
def Ascends (bound : Int) (row? next? : Option Int) : Prop :=
  ∀ row ∈ row?, ∀ next ∈ next?, 1 ≤ next - row ∧ next - row ≤ bound

/-- The rows of a request on a map whose rows count up ascend by at most the request's stride. -/
theorem isChain_ascends {m : IndexMap} {r : Request} {size : Nat}
    (h : m.rows = (List.range size).map Int.ofNat) (hr : r.Valid m.size) :
  (r.rows m).IsChain (Ascends r.stride)
  := by
  rw [IndexMap.rows_eq_reduceOption] at h
  apply List.isChain_iff_getElem.mpr
  intro i hi row hrow next hnext
  rw [Request.length_rows] at hi
  have hi' : i < r.length := by omega
  have hplace : m.toList[r.position i]? = some (some row) := by
    rw [← Request.getElem?_rows hr hi', List.getElem?_eq_getElem (by simpa using hi')]
    rw [Option.mem_def.mp hrow]
  have hplace' : m.toList[r.position (i + 1)]? = some (some next) := by
    rw [← Request.getElem?_rows hr hi, List.getElem?_eq_getElem (by simpa using hi)]
    rw [Option.mem_def.mp hnext]
  have hbounds := sub_bounds_of_count h hplace hplace'
    (Request.position_lt_position hr (Nat.lt_succ_self i))
  rw [Request.cast_position hr, Request.cast_position hr] at hbounds
  push_cast at hbounds
  constructor
  · exact hbounds.1
  · linarith [hbounds.2]

/-! ### Segments of rows that ascend -/

/-- The row at the last position of a segment. -/
def last : Segment → Option Int
  | fill _ => none
  | run _ _ stop _ => some stop

theorem head?_expand {s : Segment} (hs : s.Proper) :
  s.expand.head? = some s.first
  := by
  obtain ⟨rows, heq⟩ := exists_expand_eq_cons hs
  rw [heq, List.head?_cons]

theorem expand_ne_nil {s : Segment} (hs : s.Proper) :
  s.expand ≠ []
  := by
  obtain ⟨rows, heq⟩ := exists_expand_eq_cons hs
  rw [heq]
  apply List.cons_ne_nil

theorem getLast?_expand {s : Segment} (hs : s.Proper) :
  s.expand.getLast? = some s.last
  := by
  cases s with
  | fill n =>
    have hne : n ≠ 0 := Nat.one_le_iff_ne_zero.mp hs
    simp [expand, last, List.getLast?_replicate, hne]
  | run start stride stop n =>
    obtain ⟨hn, rfl, -⟩ := hs
    obtain ⟨k, rfl⟩ := Nat.exists_eq_add_of_le' hn
    simp [expand, last, List.range_succ]

section Cuts

variable {segments : List Segment} {rows : List (Option Int)} (h : Cuts segments rows)

include h

theorem Cuts.nil_not_mem :
  [] ∉ segments.map expand
  := by
  intro hnil
  obtain ⟨s, hs, heq⟩ := List.mem_map.mp hnil
  apply expand_ne_nil (h.proper s hs) heq

/-- What holds of all neighbours among rows holds within the segments that the rows are cut into,
and from the end of a segment to the start of the next. -/
theorem Cuts.isChain {R : Option Int → Option Int → Prop} (hrows : rows.IsChain R) :
  (∀ s ∈ segments, s.expand.IsChain R) ∧ segments.IsChain fun s t => R s.last t.first
  := by
  rw [← h.expand_eq, List.flatMap_def, List.isChain_flatten h.nil_not_mem, List.isChain_map]
    at hrows
  obtain ⟨hwithin, hnext⟩ := hrows
  constructor
  · intro s hs
    apply hwithin _ (List.mem_map_of_mem hs)
  · apply hnext.imp_of_mem_imp
    intro s t hs ht hst
    apply hst _ (getLast?_expand (h.proper s hs)) _ (head?_expand (h.proper t ht))

/-- A run among rows that ascend by at most a bound has a stride within the bound. -/
theorem Cuts.stride_bounds {bound : Int} (hbound : 1 ≤ bound)
    (hrows : rows.IsChain (Ascends bound)) {start stride stop : Int} {n : Nat}
    (hrun : run start stride stop n ∈ segments) :
  1 ≤ stride ∧ stride ≤ bound
  := by
  obtain ⟨hn, -, hone⟩ := h.proper _ hrun
  rcases Nat.eq_or_lt_of_le hn with heq | hlt
  · rw [hone heq.symm]
    exact ⟨le_refl 1, hbound⟩
  · have hchain := (h.isChain hrows).1 _ hrun
    rw [expand, List.isChain_map, List.isChain_range] at hchain
    have hfirst := hchain 0 (by omega) _ rfl _ rfl
    simpa using hfirst

/-- Two runs among rows that ascend one by one are not next to each other. -/
theorem Cuts.isChain_not_isRun (hrows : rows.IsChain (Ascends 1))
    (hapart : segments.IsChain Apart) :
  segments.IsChain fun s t => s.isRun → ¬ t.isRun
  := by
  have hnext := (h.isChain hrows).2
  rw [List.isChain_iff_getElem] at hapart hnext ⊢
  intro i hi hs ht
  have happart := hapart i hi
  have hascends := hnext i hi
  have hmem : segments[i] ∈ segments := List.getElem_mem _
  revert hmem hs ht happart hascends
  generalize segments[i] = s
  generalize segments[i + 1] = t
  cases s with
  | fill => simp [isRun]
  | run start stride stop n =>
    cases t with
    | fill => simp [isRun]
    | run start' stride' stop' n' =>
      rintro - - ⟨-, hbreak⟩ hascends hmem
      have hstride := h.stride_bounds (le_refl 1) hrows hmem
      have hstep := hascends stop rfl start' rfl
      omega

end Cuts

theorem isSome_of_mem_expand {s : Segment} {row : Option Int} (h : row ∈ s.expand) :
  row.isSome = s.isRun
  := by
  cases s with
  | fill n =>
    rw [List.eq_of_mem_replicate h]
    rfl
  | run start stride stop n =>
    obtain ⟨i, -, rfl⟩ := List.mem_map.mp h
    rfl

/-- Of two segments that are apart, if they are not both runs, one is a fill and one a run. -/
theorem Apart.isRun_ne {s t : Segment} (h : Apart s t) (hruns : s.isRun → ¬ t.isRun) :
  s.isRun ≠ t.isRun
  := by
  cases s with
  | fill n =>
    cases t with
    | fill k => exact absurd rfl h
    | run => exact Bool.false_ne_true
  | run =>
    cases t with
    | fill k => exact Bool.false_ne_true.symm
    | run => exact absurd rfl (hruns rfl)

/-- Segments that are fills and runs in turn are the stretches of positions that the child does not
have and of those that it has. -/
theorem Cuts.map_expand_eq_splitBy {segments : List Segment} {rows : List (Option Int)}
    (h : Cuts segments rows) (hapart : segments.IsChain Apart)
    (hruns : segments.IsChain fun s t => s.isRun → ¬ t.isRun) :
  segments.map expand = rows.splitBy fun x y => x.isSome == y.isSome
  := by
  symm
  rw [List.splitBy_eq_iff]
  refine ⟨?_, h.nil_not_mem, ?_, ?_⟩
  · rw [← List.flatMap_def, h.expand_eq]
  · intro piece hpiece
    obtain ⟨s, -, rfl⟩ := List.mem_map.mp hpiece
    apply (List.pairwise_of_forall_mem_list _).isChain
    intro x hx y hy
    rw [isSome_of_mem_expand hx, isSome_of_mem_expand hy, beq_self_eq_true]
  · rw [List.isChain_map]
    have hboth : segments.IsChain fun s t => Apart s t ∧ (s.isRun → ¬ t.isRun) := by
      rw [List.isChain_iff_getElem] at hapart hruns ⊢
      exact fun i hi => ⟨hapart i hi, hruns i hi⟩
    apply hboth.imp_of_mem_imp
    rintro s t hs ht ⟨hst, hrun⟩
    use expand_ne_nil (h.proper s hs), expand_ne_nil (h.proper t ht)
    rw [isSome_of_mem_expand (List.getLast_mem _), isSome_of_mem_expand (List.head_mem _)]
    apply beq_false_of_ne (hst.isRun_ne hrun)

/-! ### Forward reads of a child -/

/-- The rows that the runs among segments read, one after the other. -/
def rowsRead (segments : List Segment) : List Int := (segments.flatMap expand).reduceOption

/-- Runs read a child of some size forward: each lies within the child and steps by at least one and
at most a bound, and the rows of all runs ascend strictly. -/
structure ReadsForward (size : Nat) (bound : Int) (segments : List Segment) : Prop where
  within : ∀ start stride stop n, run start stride stop n ∈ segments →
    0 ≤ start ∧ start ≤ stop ∧ stop < size
  stride_bounds : ∀ start stride stop n, run start stride stop n ∈ segments →
    1 ≤ stride ∧ stride ≤ bound
  stop_eq : ∀ start stride stop n, run start stride stop n ∈ segments →
    stop = start + ((n : Int) - 1) * stride
  pairwise : (rowsRead segments).Pairwise (· < ·)

/-- Segments are the stretches of positions with and without rows: the runs have stride one, no two
of them are next to each other, and there is one for each longest stretch of positions with rows. -/
structure FollowsStretches (rows : List (Option Int)) (segments : List Segment) : Prop where
  stride_eq : ∀ start stride stop n, run start stride stop n ∈ segments → stride = 1
  not_isRun : segments.IsChain fun s t => s.isRun → ¬ t.isRun
  map_expand_eq : segments.map expand = rows.splitBy fun x y => x.isSome == y.isSome

section Merge

variable {axes : List Block} {merged : Block} {maps : List IndexMap} {c : Nat} {b : Block}
  {m : IndexMap} {r : Request} (h : Axis.merge axes = .ok (merged, maps)) (hb : axes[c]? = some b)
  (hm : maps[c]? = some m) (hr : r.Valid m.size)

include h hb hm

theorem rowsRead_whole_of_merge {segments : List Segment} (hcuts : Cuts segments m.toList) :
  rowsRead segments = (List.range b.data.length).map Int.ofNat
    ↔ ∀ s ∈ b.scalars, s.element ≠ .null
  := by
  have hread : rowsRead segments = (List.range (Axis.values b).length).map Int.ofNat := by
    rw [rowsRead, hcuts.expand_eq, ← IndexMap.rows_eq_reduceOption,
      Axis.rows_of_getElem?_maps h hb hm]
  rw [hread, ← Axis.length_values_eq_iff]
  constructor
  · intro heq
    simpa using congrArg List.length heq
  · intro heq
    rw [heq]

include hr

theorem readsForward_of_merge {segments : List Segment} (hcuts : Cuts segments (r.rows m)) :
  ReadsForward b.data.length r.stride segments
  := by
  have hsorted := Request.pairwise_rows_of_merge h hb hm hr
  have hwithin := Request.rows_within_of_merge h hb hm hr
  have hascends := isChain_ascends (Axis.rows_of_getElem?_maps h hb hm) hr
  constructor
  · intro start stride stop n hrun
    obtain ⟨-, hstart, hstop, hsize⟩ := hcuts.valid_of_run_mem hsorted hwithin hrun
    exact ⟨hstart, hstop, hsize⟩
  · intro start stride stop n hrun
    apply hcuts.stride_bounds hr.1 hascends hrun
  · intro start stride stop n hrun
    apply (hcuts.proper _ hrun).2.1
  · rw [rowsRead, hcuts.expand_eq]
    exact hsorted

theorem followsStretches_of_merge (hstride : r.stride = 1) {segments : List Segment}
    (hcuts : Cuts segments (r.rows m)) (hapart : segments.IsChain Apart) :
  FollowsStretches (r.rows m) segments
  := by
  have hascends := isChain_ascends (Axis.rows_of_getElem?_maps h hb hm) hr
  rw [hstride] at hascends
  have hruns := hcuts.isChain_not_isRun hascends hapart
  constructor
  · intro start stride stop n hrun
    have hbounds := hcuts.stride_bounds (le_refl 1) hascends hrun
    omega
  · exact hruns
  · apply hcuts.map_expand_eq_splitBy hapart hruns

/-- On a map of a merge the runs of a request read the child forward.  If the stride is one, they
are the stretches of positions that the child has.  If all positions are asked for, they read every
row of the child, one after the other, exactly if the child's axis does not hold nothing. -/
theorem exists_segments_forward :
  ∃ segments, m.segments r = .ok segments
    ∧ ReadsForward b.data.length r.stride segments
    ∧ (r.stride = 1 → FollowsStretches (r.rows m) segments)
    ∧ (r = Request.whole m.size →
        (rowsRead segments = (List.range b.data.length).map Int.ofNat
          ↔ ∀ s ∈ b.scalars, s.element ≠ .null))
  := by
  have hcuts := cuts_ofRows (r.rows m)
  use ofRows (r.rows m), segments_eq_ok hr, readsForward_of_merge h hb hm hr hcuts
  constructor
  · intro hstride
    apply followsStretches_of_merge h hb hm hr hstride hcuts (describes_ofRows hr).apart
  · rintro rfl
    rw [Request.rows_whole] at hcuts ⊢
    apply rowsRead_whole_of_merge h hb hm hcuts

end Merge

/-- All positions of two overlapping axes. -/
theorem exists_segments_forward_overlapping :
  let axis : Block := .ofList .int64 [.int 1, .int 2, .int 5]
  let m : IndexMap := .ofRows [some 0, some 1, none, some 2]
  let r : Request := ⟨0, 1, 3⟩
  (∃ merged maps, Axis.merge [axis, .ofList .int64 [.int 2, .int 4]] = .ok (merged, m :: maps))
    ∧ r.Valid m.size
    ∧ ∃ segments, m.segments r = .ok segments
        ∧ ReadsForward axis.data.length r.stride segments
        ∧ (r.stride = 1 → FollowsStretches (r.rows m) segments)
        ∧ (r = Request.whole m.size →
            (rowsRead segments = (List.range axis.data.length).map Int.ofNat
              ↔ ∀ s ∈ axis.scalars, s.element ≠ .null))
  := by
  intro axis m r
  obtain ⟨merged, maps, hmerge⟩ :
      ∃ merged maps, Axis.merge [axis, .ofList .int64 [.int 2, .int 4]] = .ok (merged, m :: maps) :=
    ⟨_, _, rfl⟩
  have hvalid : r.Valid m.size := by decide
  have haxis : [axis, .ofList .int64 [.int 2, .int 4]][0]? = some axis := rfl
  use ⟨merged, maps, hmerge⟩, hvalid
  apply exists_segments_forward hmerge haxis rfl hvalid

/-- The row of a nothing is not read with the whole axis, without a failure. -/
theorem rowsRead_nothing :
  let axis : Block := .ofList .object [.null]
  ∃ merged m m', Axis.merge [axis, .ofList .int64 [.int 1]] = .ok (merged, [m, m'])
    ∧ (Request.whole m.size).Valid m.size
    ∧ ∃ segments, m.segments (Request.whole m.size) = .ok segments
        ∧ rowsRead segments ≠ (List.range axis.data.length).map Int.ofNat
  := by
  refine ⟨_, _, _, rfl, ?_, [fill 1], rfl, ?_⟩
  · decide
  · decide

end Segment

end GridUnion
