import GridUnion.Fetch
import GridUnion.Proofs.Segment.Description

/-!
# Scans of index maps

An index map keeps a row for every position, also where the child is absent and the row means
nothing.  A scan walks through a request and looks at presences and kept rows as they are, back to
the position before the one it has come to.  It finds the segments of the request, so what is kept
where the child is absent does not show: maps are equal exactly if no request tells them apart.
-/

namespace GridUnion

namespace Request

/-- The positions of a request are numbered as far as they do not pass its stop. -/
theorem lt_length_iff {r : Request} (hstride : 1 ≤ r.stride) {i : Nat} :
  i < r.length ↔ r.start + i * r.stride ≤ r.stop
  := by
  have hle : (i : Int) ≤ (r.stop - r.start) / r.stride ↔ (i : Int) * r.stride ≤ r.stop - r.start :=
    Int.le_ediv_iff_mul_le (by omega)
  rw [length]
  omega

end Request

namespace IndexMap

/-- What is kept for a position. -/
def slotAt (m : IndexMap) (position : Int) : Slot := m.slots.getD position.toNat default

/-- The segment of positions without values, if there are any. -/
def gap (count : Nat) : List Segment := if 0 < count then [.fill count] else []

mutual

/-- The segments from a position on, after positions where the child is absent. -/
def scanGap (m : IndexMap) (r : Request) (hstride : 1 ≤ r.stride) (position : Int) (count : Nat) :
    List Segment :=
  if position ≤ r.stop then
    if (m.slotAt position).present then
      gap count ++ scanRun m r hstride (position + r.stride) (m.slotAt position).row none 1
    else scanGap m r hstride (position + r.stride) (count + 1)
  else gap count
termination_by ((r.stop + 1 - position).toNat, 0)

/-- The segments from a position on, after positions that make a run of which the stride is known if
it has two rows.  The rows of the run are looked up again at the position before. -/
def scanRun (m : IndexMap) (r : Request) (hstride : 1 ≤ r.stride) (position start : Int)
    (stride? : Option Int) (count : Nat) : List Segment :=
  let last := (m.slotAt (position - r.stride)).row
  let step := (m.slotAt position).row - last
  if position ≤ r.stop ∧ (m.slotAt position).present ∧ stride?.all (· == step) then
    scanRun m r hstride (position + r.stride) start (some step) (count + 1)
  else .run start (stride?.getD 1) last count :: scanGap m r hstride position 0
termination_by ((r.stop + 1 - position).toNat, 1)

end

/-- The segments that a scan of a request finds. -/
def scan (m : IndexMap) (r : Request) : Except Failure (List Segment) :=
  match h : r.check m.size with
  | .error e => .error e
  | .ok () => .ok (m.scanGap r (Request.check_eq_ok_iff.mp h).1 r.start 0)

end IndexMap

namespace Segment

/-! ### Scanning what is left of a request -/

theorem add_stride (r : Request) (i : Nat) :
  r.start + i * r.stride + r.stride = r.start + (i + 1 : Nat) * r.stride
  := by
  push_cast
  ring

section Scan

variable {m : IndexMap} {r : Request} (hstride : 1 ≤ r.stride)

include hstride

/-- The rows of a request from a position on, if it is not past the stop. -/
theorem drop_rows {i : Nat} (hi : r.start + i * r.stride ≤ r.stop) :
  (r.rows m).drop i = (m.slotAt (r.start + i * r.stride)).row? :: (r.rows m).drop (i + 1)
  := by
  have hlt : i < (r.rows m).length := by
    rw [Request.length_rows]
    exact (Request.lt_length_iff hstride).mpr hi
  have hrow : (r.rows m)[i] = (m.slotAt (r.start + i * r.stride)).row? := by
    simp only [Request.rows_eq_map, List.getElem_map, List.getElem_range, Request.position,
      IndexMap.toList, IndexMap.slotAt, List.getD_eq_getElem?_getD, List.getElem?_map]
    rcases m.slots[(r.start + i * r.stride).toNat]? with _ | slot
    · rfl
    · rfl
  rw [List.drop_eq_getElem_cons hlt, hrow]

theorem drop_rows_eq_nil {i : Nat} (hi : ¬ r.start + i * r.stride ≤ r.stop) :
  (r.rows m).drop i = []
  := by
  apply List.drop_eq_nil_of_le
  rw [Request.length_rows]
  exact Nat.le_of_not_lt (mt (Request.lt_length_iff hstride).mp hi)

/-- After any number of absences a scan goes on like cutting the rows that are left. -/
def ScansGaps (m : IndexMap) (i : Nat) : Prop :=
  ∀ n, m.scanGap r hstride (r.start + i * r.stride) n
    = ofRows (List.replicate n none ++ (r.rows m).drop i)

/-- After any run a scan goes on like cutting the rows that are left. -/
def ScansRuns (m : IndexMap) (i : Nat) : Prop :=
  ∀ start stride? n, 1 ≤ n → (stride? = none ↔ n = 1) →
    m.scanRun r hstride (r.start + i * r.stride) start stride? n
      = extend (run start (stride?.getD 1) (m.slotAt (r.start + i * r.stride - r.stride)).row n)
          ((r.rows m).drop i)

theorem scansGaps_of_next {i : Nat}
    (hnext : i < r.length → ScansGaps hstride m (i + 1) ∧ ScansRuns hstride m (i + 1)) :
  ScansGaps hstride m i
  := by
  intro n
  rw [IndexMap.scanGap]
  split
  · next hi =>
    obtain ⟨hgaps, hruns⟩ := hnext ((Request.lt_length_iff hstride).mpr hi)
    rw [drop_rows hstride hi]
    generalize hslot : m.slotAt (r.start + i * r.stride) = slot
    obtain ⟨row, _ | _⟩ := slot
    · rw [if_neg Bool.false_ne_true, add_stride, hgaps, List.replicate_succ', List.append_assoc]
      rfl
    · have hrun := hruns row none 1 (le_refl 1) (by simp)
      rw [← add_stride, Int.add_sub_cancel, hslot] at hrun
      rw [if_pos rfl, hrun]
      cases n with
      | zero => rfl
      | succ n =>
        rw [ofRows_replicate_append]
        rfl
  · next hi =>
    rw [drop_rows_eq_nil hstride hi]
    cases n with
    | zero => rfl
    | succ n =>
      rw [ofRows_replicate_append]
      rfl

theorem scansRuns_of_next {i : Nat}
    (hnext : i < r.length → ScansRuns hstride m (i + 1)) (hgaps : ScansGaps hstride m i) :
  ScansRuns hstride m i
  := by
  intro start stride? n hn hone
  have hgap := hgaps 0
  rw [List.replicate_zero, List.nil_append] at hgap
  rw [IndexMap.scanRun, hgap]
  generalize (m.slotAt (r.start + i * r.stride - r.stride)).row = last
  by_cases hi : r.start + i * r.stride ≤ r.stop
  · have hruns := hnext ((Request.lt_length_iff hstride).mpr hi)
    rw [drop_rows hstride hi]
    generalize hslot : m.slotAt (r.start + i * r.stride) = slot
    obtain ⟨row, _ | _⟩ := slot
    · rw [if_neg (by simp)]
      rfl
    · have hrun := hruns start (some (row - last)) (n + 1) (by omega) (by simp; omega)
      rw [← add_stride, Int.add_sub_cancel, hslot] at hrun
      rcases stride? with _ | stride
      · obtain rfl : n = 1 := hone.mp rfl
        rw [if_pos ⟨hi, rfl, rfl⟩, hrun]
        rfl
      · have hn : n ≠ 1 := mt hone.mpr (Option.some_ne_none stride)
        by_cases heq : row - last = stride
        · rw [if_pos ⟨hi, rfl, by simp [heq]⟩, hrun]
          simp [Slot.row?, extend, hn, heq]
        · rw [if_neg fun h => heq (beq_iff_eq.mp h.2.2).symm]
          simp [Slot.row?, extend, hn, heq, ofRows]
  · rw [if_neg (fun h => hi h.1), drop_rows_eq_nil hstride hi]
    rfl

/-- A scan of a request finds the segments of its rows. -/
theorem scanGap_eq_ofRows :
  m.scanGap r hstride r.start 0 = ofRows (r.rows m)
  := by
  have hscans (k : Nat) : ∀ i, r.length ≤ i + k →
      ScansGaps hstride m i ∧ ScansRuns hstride m i := by
    induction k with
    | zero =>
      intro i hi
      have hgaps : ScansGaps hstride m i := scansGaps_of_next hstride (by omega)
      exact ⟨hgaps, scansRuns_of_next hstride (by omega) hgaps⟩
    | succ k ih =>
      intro i hi
      have hnext := ih (i + 1) (by omega)
      have hgaps : ScansGaps hstride m i := scansGaps_of_next hstride fun _ => hnext
      exact ⟨hgaps, scansRuns_of_next hstride (fun _ => hnext.2) hgaps⟩
  have hstart := (hscans r.length 0 (by omega)).1 0
  simpa using hstart

end Scan

/-- A scan finds the segments of a request, or refuses the request like them. -/
theorem scan_eq_segments (m : IndexMap) (r : Request) :
  m.scan r = m.segments r
  := by
  rw [IndexMap.scan, IndexMap.segments]
  split
  · next e hcheck =>
    rw [hcheck]
    rfl
  · next hcheck =>
    rw [scanGap_eq_ofRows, hcheck]
    rfl

end Segment

namespace IndexMap

/-! ### Maps that no request tells apart -/

/-- Two maps give the same answers: every request is scanned to the same segments or refused alike,
and every fetch makes the same reads and has the same outcome. -/
structure SameAnswers [Machine] (a b : IndexMap) : Prop where
  scan_eq : ∀ r, a.scan r = b.scan r
  segments_eq : ∀ r, a.segments r = b.segments r
  run_eq : ∀ (f : Fetch) r read, f.run a r read = f.run b r read

variable {a b : IndexMap}

theorem segments_eq_of_toList_eq (h : a.toList = b.toList) (r : Request) :
  a.segments r = b.segments r
  := by
  have hsize : a.size = b.size := by rw [← length_toList, h, length_toList]
  rw [segments, segments, hsize, Request.rows, h]
  rfl

theorem sameAnswers_of_toList_eq [Machine] (h : a.toList = b.toList) :
  SameAnswers a b
  := by
  constructor
  · intro r
    rw [Segment.scan_eq_segments, Segment.scan_eq_segments, segments_eq_of_toList_eq h]
  · exact segments_eq_of_toList_eq h
  · intro f r read
    rw [Fetch.run, Fetch.run, segments_eq_of_toList_eq h]

/-- If a map has the segments of another one, it is as long, for the whole axis can be asked for. -/
theorem size_le_of_segments_eq (h : ∀ r, a.segments r = b.segments r) :
  a.size ≤ b.size
  := by
  rcases Nat.eq_zero_or_pos a.size with hzero | hpos
  · omega
  · have hwhole := Segment.segments_eq_ok (Request.valid_whole hpos)
    rw [h] at hwhole
    obtain ⟨_, hcheck, -⟩ := bind_eq_ok_iff.mp hwhole
    have hstop := (Request.check_eq_ok_iff.mp hcheck).2.2.2
    simp only [Request.whole] at hstop
    omega

/-- If all segments are the same, so are the rows at all positions. -/
theorem toList_eq_of_segments_eq (h : ∀ r, a.segments r = b.segments r) :
  a.toList = b.toList
  := by
  have hsize : a.size = b.size :=
    le_antisymm (size_le_of_segments_eq h) (size_le_of_segments_eq fun r => (h r).symm)
  rcases Nat.eq_zero_or_pos a.size with hzero | hpos
  · rw [List.eq_nil_of_length_eq_zero ((length_toList a).trans hzero),
      List.eq_nil_of_length_eq_zero ((length_toList b).trans (hsize ▸ hzero))]
  · have hwhole := h (Request.whole a.size)
    rw [Segment.segments_eq_ok (Request.valid_whole hpos), Request.rows_whole, hsize,
      Segment.segments_eq_ok (Request.valid_whole (hsize ▸ hpos)), Request.rows_whole] at hwhole
    rw [← (Segment.cuts_ofRows a.toList).expand_eq, Except.ok.inj hwhole,
      (Segment.cuts_ofRows b.toList).expand_eq]

/-- Maps are equal exactly if they have the same rows at the same positions, and exactly if they
give the same answers, also where their columns are scanned as they are. -/
theorem equals_iff_sameAnswers [Machine] (a b : IndexMap) :
  (a.equals b ↔ a.toList = b.toList) ∧ (a.equals b ↔ SameAnswers a b)
    ∧ ∀ r, a.scan r = a.segments r
  := by
  use equals_iff_toList_eq
  constructor
  · rw [equals_iff_toList_eq]
    constructor
    · exact sameAnswers_of_toList_eq
    · intro hsame
      exact toList_eq_of_segments_eq hsame.segments_eq
  · exact Segment.scan_eq_segments a

/-- What is kept where the child is absent does not show. -/
example : (⟨[⟨5, false⟩, ⟨1, true⟩]⟩ : IndexMap).equals ⟨[⟨-7, false⟩, ⟨1, true⟩]⟩ := by decide

end IndexMap

end GridUnion
