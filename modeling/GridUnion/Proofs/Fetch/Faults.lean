import GridUnion.Proofs.Fetch.Pieces

/-!
# Faults on the way of a fetch

A fetch reads the runs of its request one after the other, up to the first read that fails or gives
a block of another shape, and this fault comes out.  If there is none all runs are read, and the
pieces fill the answer: they have as many positions as are requested.  A request that is not within
the axis is refused before anything is read.
-/

namespace GridUnion

namespace Segment

/-- The read that a run takes and the number of its rows; a fill takes none. -/
def run? : Segment → Option (Request × Nat)
  | fill _ => none
  | run start stride stop n => some (⟨start, stride, stop⟩, n)

/-- The runs among segments. -/
def runs (segments : List Segment) : List (Request × Nat) := segments.filterMap run?

end Segment

/-! ### Tables -/

namespace IndexTable

variable {t : IndexTable} {size : Nat} {r : Request}

theorem length_rowsAt {places : List Nat} {rows : List (Option Int)}
    (h : t.rowsAt places = .ok rows) :
  rows.length = places.length
  := by
  unfold rowsAt at h
  split at h
  · cases h
    simp
  · exact (mapM_eq_ok_iff.mp h).length_eq.symm

/-- A request within the first dimension is cut into the segments of its rows. -/
theorem segments_eq_map (hsize : t.size = .ok size) (hr : r.Valid size) :
  t.segments r = Segment.ofRows <$> t.rowsAt r.positions
  := by
  rw [segments, hsize]
  simp only [bind, Except.bind, Request.check_eq_ok_iff.mpr hr]
  rfl

/-- The segments of a request are cut from as many rows as positions are requested. -/
theorem exists_cuts_of_segments (hsize : t.size = .ok size) (hr : r.Valid size)
    {segments : List Segment} (h : t.segments r = .ok segments) :
  ∃ rows, Segment.Cuts segments rows ∧ rows.length = r.length
  := by
  rw [segments_eq_map hsize hr, map_eq_ok_iff] at h
  obtain ⟨rows, hrows, rfl⟩ := h
  use rows, Segment.cuts_ofRows rows
  rw [length_rowsAt hrows, Request.length_positions]

/-- A table of one dimension has the rows of any request. -/
theorem exists_segments_of_isLine (hline : t.isLine) (hsize : t.size = .ok size)
    (hr : r.Valid size) :
  ∃ segments, t.segments r = .ok segments
  := by
  rw [segments_eq_map hsize hr, rowsAt]
  simp [hline]

end IndexTable

namespace Fetch

variable {read : Reader} {other : List Int}

/-! ### Reads up to the first fault -/

/-- The read of a run is sound: it gives a block with as many rows as the run has. -/
def IsSound (read : Reader) (other : List Int) (call : Nat) (run : Request × Nat) : Prop :=
  ∃ block, read call run.1.start run.1.stride run.1.stop = .ok block
    ∧ block.shape.map Int.ofNat = (run.2 : Int) :: other

/-- What comes out of the read of a run that is not sound. -/
inductive Fault (read : Reader) (other : List Int) (call : Nat) :
    Request × Nat → Failure → Prop where
  | raised {run : Request × Nat} {e : Failure}
      (hread : read call run.1.start run.1.stride run.1.stop = .error e) :
      Fault read other call run e
  | misshapen {run : Request × Nat} {block : Block}
      (hread : read call run.1.start run.1.stride run.1.stop = .ok block)
      (hshape : block.shape.map Int.ofNat ≠ (run.2 : Int) :: other) :
      Fault read other call run
        (.unexpectedShape run.1.start run.1.stride run.1.stop block.shape ((run.2 : Int) :: other))

theorem Fault.not_isSound {call : Nat} {run : Request × Nat} {e : Failure}
    (h : Fault read other call run e) :
  ¬ IsSound read other call run
  := by
  rintro ⟨block, hread, hshape⟩
  cases h with
  | raised hfault => cases hread.symm.trans hfault
  | misshapen hfault hno =>
    obtain rfl := Except.ok.inj (hread.symm.trans hfault)
    exact hno hshape

theorem isSound_or_fault (read : Reader) (other : List Int) (call : Nat) (run : Request × Nat) :
  IsSound read other call run ∨ ∃ e, Fault read other call run e
  := by
  rcases hread : read call run.1.start run.1.stride run.1.stop with e | block
  · right
    exact ⟨e, .raised hread⟩
  · by_cases hshape : block.shape.map Int.ofNat = (run.2 : Int) :: other
    · left
      exact ⟨block, hread, hshape⟩
    · right
      exact ⟨_, .misshapen hread hshape⟩

/-- Only one failure comes out of a read. -/
theorem Fault.unique {call : Nat} {run : Request × Nat} {e e' : Failure}
    (h : Fault read other call run e) (h' : Fault read other call run e') :
  e = e'
  := by
  cases h with
  | raised hread =>
    cases h' with
    | raised hread' => exact Except.error.inj (hread.symm.trans hread')
    | misshapen hread' => cases hread.symm.trans hread'
  | misshapen hread =>
    cases h' with
    | raised hread' => cases hread.symm.trans hread'
    | misshapen hread' =>
      obtain rfl := Except.ok.inj (hread.symm.trans hread')
      rfl

/-- The reads of runs are all sound; the first of them is number `call`. -/
def AllSound (read : Reader) (other : List Int) (call : Nat) (runs : List (Request × Nat)) : Prop :=
  ∀ k run, runs[k]? = some run → IsSound read other (call + k) run

theorem allSound_nil (read : Reader) (other : List Int) (call : Nat) :
  AllSound read other call []
  := by
  rintro k run ⟨⟩

theorem AllSound.cons {call : Nat} {run : Request × Nat} {runs : List (Request × Nat)}
    (h : AllSound read other (call + 1) runs) (hrun : IsSound read other call run) :
  AllSound read other call (run :: runs)
  := by
  rintro (_ | k) next hnext
  · obtain rfl := Option.some.inj hnext
    exact hrun
  · rw [← Nat.add_assoc, Nat.add_right_comm]
    exact h k next hnext

theorem AllSound.of_isPrefix {call : Nat} {runs first : List (Request × Nat)}
    (h : AllSound read other call runs) (hfirst : first <+: runs) :
  AllSound read other call first
  := by
  intro k run hrun
  obtain ⟨hk, rfl⟩ := List.getElem?_eq_some_iff.mp hrun
  exact h k _ (List.prefix_iff_getElem?.mp hfirst k hk)

/-- All runs are read soundly, and there is a piece for every segment. -/
structure Completes (read : Reader) (other : List Int) (call : Nat) (segments : List Segment)
    (o : Outcome (List Piece)) : Prop where
  sound : AllSound read other call (Segment.runs segments)
  reads_eq : o.reads = (Segment.runs segments).map Prod.fst
  exists_pieces : ∃ pieces, o.result = .ok pieces
    ∧ pieces.map Piece.count = segments.map Segment.count ∧ ∀ p ∈ pieces, p.IsShaped other

/-- Some runs are read soundly, and the next one, which is read last, is not. -/
structure Breaks (read : Reader) (other : List Int) (call : Nat) (segments : List Segment)
    (before : List (Request × Nat)) (last : Request × Nat) (e : Failure)
    (o : Outcome (List Piece)) : Prop where
  isPrefix : before ++ [last] <+: Segment.runs segments
  sound : AllSound read other call before
  fault : Fault read other (call + before.length) last e
  reads_eq : o.reads = (before ++ [last]).map Prod.fst
  result_eq : o.result = .error e

section Steps

variable {call n : Nat} {start stride stop : Int} {rest : List Segment} {e : Failure}
  {before : List (Request × Nat)} {last : Request × Nat}

theorem Completes.fill (h : Completes read other call rest (readAll read other call rest)) :
  Completes read other call (.fill n :: rest) (readAll read other call (.fill n :: rest))
  := by
  obtain ⟨hsound, hreads, pieces, hresult, hcount, hshaped⟩ := h
  refine ⟨hsound, hreads, .absent n :: pieces, ?_, ?_, ?_⟩
  · rw [readAll, hresult]
    rfl
  · rw [List.map_cons, List.map_cons, hcount]
    rfl
  · exact List.forall_mem_cons.mpr ⟨trivial, hshaped⟩

theorem Breaks.fill (h : Breaks read other call rest before last e (readAll read other call rest)) :
  Breaks read other call (.fill n :: rest) before last e (readAll read other call (.fill n :: rest))
  := by
  obtain ⟨hfirst, hsound, hfault, hreads, hresult⟩ := h
  refine ⟨hfirst, hsound, hfault, hreads, ?_⟩
  rw [readAll, hresult]
  rfl

/-- A sound read is followed by the reads of the other runs. -/
theorem readAll_run_of_shape {block : Block} (hread : read call start stride stop = .ok block)
    (hshape : block.shape.map Int.ofNat = (n : Int) :: other) :
  readAll read other call (.run start stride stop n :: rest)
    = ⟨⟨start, stride, stop⟩ :: (readAll read other (call + 1) rest).reads,
        (readAll read other (call + 1) rest).result.map (Piece.read n block :: ·)⟩
  := by
  simp [readAll, hread, hshape]

theorem Completes.run
    (h : Completes read other (call + 1) rest (readAll read other (call + 1) rest))
    (hsound : IsSound read other call (⟨start, stride, stop⟩, n)) :
  Completes read other call (.run start stride stop n :: rest)
    (readAll read other call (.run start stride stop n :: rest))
  := by
  obtain ⟨block, hread, hshape⟩ := id hsound
  obtain ⟨hrest, hreads, pieces, hresult, hcount, hshaped⟩ := h
  rw [readAll_run_of_shape hread hshape, hreads, hresult]
  refine ⟨hrest.cons hsound, rfl, .read n block :: pieces, rfl, ?_, ?_⟩
  · rw [List.map_cons, List.map_cons, hcount]
    rfl
  · exact List.forall_mem_cons.mpr ⟨hshape, hshaped⟩

theorem Breaks.run
    (h : Breaks read other (call + 1) rest before last e (readAll read other (call + 1) rest))
    (hsound : IsSound read other call (⟨start, stride, stop⟩, n)) :
  Breaks read other call (.run start stride stop n :: rest) ((⟨start, stride, stop⟩, n) :: before)
    last e (readAll read other call (.run start stride stop n :: rest))
  := by
  obtain ⟨block, hread, hshape⟩ := id hsound
  obtain ⟨hfirst, hrest, hfault, hreads, hresult⟩ := h
  rw [readAll_run_of_shape hread hshape, hreads, hresult]
  refine ⟨List.cons_prefix_cons.mpr ⟨rfl, hfirst⟩, hrest.cons hsound, ?_, rfl, rfl⟩
  rwa [List.length_cons, Nat.add_comm before.length, ← Nat.add_assoc]

/-- Reading ends with a read that is not sound. -/
theorem Fault.breaks (h : Fault read other call (⟨start, stride, stop⟩, n) e) :
  Breaks read other call (.run start stride stop n :: rest) [] (⟨start, stride, stop⟩, n) e
    (readAll read other call (.run start stride stop n :: rest))
  := by
  have hall : readAll read other call (.run start stride stop n :: rest)
      = ⟨[⟨start, stride, stop⟩], .error e⟩ := by
    cases h with
    | raised hread => simp [readAll, hread]
    | misshapen hread hshape => simp [readAll, hread, hshape]
  rw [hall]
  have hfirst : [((⟨start, stride, stop⟩ : Request), n)]
      <+: Segment.runs (.run start stride stop n :: rest) :=
    List.cons_prefix_cons.mpr ⟨rfl, List.nil_prefix⟩
  exact ⟨hfirst, allSound_nil read other call, h, rfl, rfl⟩

end Steps

/-- Either all runs are read, or there is a first one that is not read soundly. -/
theorem readAll_cases (read : Reader) (other : List Int) (call : Nat) (segments : List Segment) :
  Completes read other call segments (readAll read other call segments)
    ∨ ∃ before last e, Breaks read other call segments before last e
        (readAll read other call segments)
  := by
  induction segments generalizing call with
  | nil =>
    left
    exact ⟨allSound_nil read other call, rfl, [], rfl, rfl, by simp⟩
  | cons s rest ih =>
    cases s with
    | fill n =>
      rcases ih call with h | ⟨before, last, e, h⟩
      · left
        exact h.fill
      · right
        exact ⟨before, last, e, h.fill⟩
    | run start stride stop n =>
      rcases isSound_or_fault read other call (⟨start, stride, stop⟩, n) with hsound | ⟨e, hfault⟩
      · rcases ih (call + 1) with h | ⟨before, last, e, h⟩
        · left
          exact h.run hsound
        · right
          exact ⟨_, last, e, h.run hsound⟩
      · right
        exact ⟨[], _, e, hfault.breaks⟩

/-! ### Fetches up to the first fault -/

/-- A fetch reads runs in order, up to the first one that is not read soundly.  What comes out of
that read is the result, and a result of sound reads is not inconsistent. -/
structure StopsAtFault (read : Reader) (other : List Int) (runs : List (Request × Nat))
    (o : Outcome Block) : Prop where
  /-- The reads are those of the first runs, in order. -/
  reads_isPrefix : o.reads <+: runs.map Prod.fst
  /-- A run is read exactly if all runs before it are read soundly. -/
  lt_length_iff : ∀ k, k < o.reads.length ↔ k < runs.length ∧ AllSound read other 1 (runs.take k)
  /-- A read that fails or gives a wrong shape is the last one, and its failure comes out. -/
  of_fault : ∀ k < o.reads.length, ∀ run, runs[k]? = some run →
    ∀ e, Fault read other (k + 1) run e → o.reads.length = k + 1 ∧ o.result = .error e
  /-- If all runs are read soundly then all are read, and the result is not inconsistent. -/
  of_allSound : AllSound read other 1 runs →
    o.reads = runs.map Prod.fst ∧ NeverInconsistent o.result

section Outcomes

variable {f : Fetch} {segments : List Segment} {expected : Int}

theorem Completes.stopsAtFault [Machine]
    (h : Completes read f.other 1 segments (readAll read f.other 1 segments))
    (hcount : ((segments.map Segment.count).sum : Int) = expected) (r : Request) :
  StopsAtFault read f.other (Segment.runs segments) (f.runSegments r read expected segments)
  := by
  obtain ⟨hsound, hreads, pieces, hresult, hcounts, hshaped⟩ := h
  have hlength : (f.runSegments r read expected segments).reads.length
      = (Segment.runs segments).length := by
    rw [runSegments, hreads, List.length_map]
  constructor
  · simp only [runSegments, hreads, List.prefix_rfl]
  · intro k
    have hfirst : (Segment.runs segments).take k <+: Segment.runs segments := List.take_prefix k _
    rw [hlength]
    constructor
    · intro hk
      exact ⟨hk, hsound.of_isPrefix hfirst⟩
    · exact And.left
  · intro k _ run hrun e hfault
    rw [Nat.add_comm] at hfault
    exact absurd (hsound k run hrun) hfault.not_isSound
  · intro _
    use hreads
    rw [runSegments, hresult]
    apply neverInconsistent_assemble hshaped
    rw [hcounts, hcount]

section Breaks

variable {call : Nat} {before : List (Request × Nat)} {last : Request × Nat} {e : Failure}
  {o : Outcome (List Piece)}

theorem Breaks.isPrefix_before (h : Breaks read other call segments before last e o) :
  before <+: Segment.runs segments
  := by
  apply List.IsPrefix.trans _ h.isPrefix
  exact List.prefix_append before [last]

theorem Breaks.getElem?_last (h : Breaks read other call segments before last e o) :
  (Segment.runs segments)[before.length]? = some last
  := by
  simpa using List.prefix_iff_getElem?.mp h.isPrefix before.length (by simp)

/-- Sound reads end before the one that is not sound. -/
theorem Breaks.getElem?_ne_last (h : Breaks read other call segments before last e o)
    {runs : List (Request × Nat)} (hruns : AllSound read other call runs) :
  runs[before.length]? ≠ some last
  := by
  intro hlast
  exact h.fault.not_isSound (hruns before.length last hlast)

/-- The reads that are made are those with only sound ones before them. -/
theorem Breaks.lt_iff (h : Breaks read other call segments before last e o) (k : Nat) :
  k < before.length + 1
    ↔ k < (Segment.runs segments).length
      ∧ AllSound read other call ((Segment.runs segments).take k)
  := by
  constructor
  · intro hk
    have hle : before.length + 1 ≤ (Segment.runs segments).length := by
      simpa using h.isPrefix.length_le
    have hfirst : (Segment.runs segments).take k <+: Segment.runs segments := List.take_prefix k _
    use by omega
    apply h.sound.of_isPrefix
    apply List.prefix_of_prefix_length_le hfirst h.isPrefix_before
    rw [List.length_take]
    omega
  · rintro ⟨-, htake⟩
    by_contra hk
    apply h.getElem?_ne_last htake
    rw [List.getElem?_take_of_lt (by omega), h.getElem?_last]

/-- Of the reads that are made only the last one is not sound. -/
theorem Breaks.eq_of_fault (h : Breaks read other call segments before last e o) {k : Nat}
    (hk : k < before.length + 1) {run : Request × Nat}
    (hrun : (Segment.runs segments)[k]? = some run) {e' : Failure}
    (hfault : Fault read other (call + k) run e') :
  k = before.length ∧ e' = e
  := by
  rcases Nat.lt_succ_iff_lt_or_eq.mp hk with hlt | rfl
  · have hget := List.prefix_iff_getElem?.mp h.isPrefix_before k hlt
    obtain rfl := Option.some.inj (hget.symm.trans hrun)
    exact absurd (h.sound k _ (List.getElem?_eq_getElem hlt)) hfault.not_isSound
  · obtain rfl := Option.some.inj (h.getElem?_last.symm.trans hrun)
    exact ⟨rfl, hfault.unique h.fault⟩

theorem Breaks.stopsAtFault [Machine]
    (h : Breaks read f.other 1 segments before last e (readAll read f.other 1 segments))
    (r : Request) :
  StopsAtFault read f.other (Segment.runs segments) (f.runSegments r read expected segments)
  := by
  have hlength : (f.runSegments r read expected segments).reads.length = before.length + 1 := by
    rw [runSegments, h.reads_eq, List.length_map, List.length_append, List.length_singleton]
  constructor
  · rw [runSegments, h.reads_eq]
    exact h.isPrefix.map Prod.fst
  · rw [hlength]
    exact h.lt_iff
  · intro k hk run hrun e' hfault
    rw [hlength] at hk ⊢
    rw [Nat.add_comm] at hfault
    obtain ⟨rfl, rfl⟩ := h.eq_of_fault hk hrun hfault
    rw [runSegments, h.result_eq]
    exact ⟨rfl, rfl⟩
  · intro hall
    exact absurd h.getElem?_last (h.getElem?_ne_last hall)

end Breaks

theorem stopsAtFault_runSegments [Machine] (read : Reader)
    (hcount : ((segments.map Segment.count).sum : Int) = expected) (r : Request) :
  StopsAtFault read f.other (Segment.runs segments) (f.runSegments r read expected segments)
  := by
  rcases readAll_cases read f.other 1 segments with h | ⟨before, last, e, h⟩
  · exact h.stopsAtFault hcount r
  · exact h.stopsAtFault r

end Outcomes

section Tables

variable {t : IndexTable} {size : Nat} {r : Request}

theorem runTable_of_error [Machine] {n : Int} (hcount : r.count = .ok n) {e : Failure}
    (h : t.segments r = .error e) (f : Fetch) (read : Reader) :
  f.runTable t r read = ⟨[], .error e⟩
  := by
  rw [runTable, hcount, h]
  rfl

/-- A fetch within an axis reads up to the first fault.  A table of one dimension has segments for
it; another table may have a position that no row can be looked up at, and then nothing is read.
The segments have as many positions as are requested, so that the total of the answer is never
wrong. -/
theorem runTable_stopsAtFault [Machine] (hsize : t.size = .ok size) (hr : r.Valid size) (f : Fetch)
    (read : Reader) :
  (t.isLine → ∃ segments, t.segments r = .ok segments)
    ∧ (∀ e, t.segments r = .error e → f.runTable t r read = ⟨[], .error e⟩)
    ∧ ∀ segments, t.segments r = .ok segments →
        r.count = .ok ((segments.map Segment.count).sum : Nat)
        ∧ StopsAtFault read f.other (Segment.runs segments) (f.runTable t r read)
  := by
  have hcount := Request.count_eq_ok hr
  refine ⟨fun hline => IndexTable.exists_segments_of_isLine hline hsize hr,
    fun e he => runTable_of_error hcount he f read, ?_⟩
  intro segments hsegments
  obtain ⟨rows, hcuts, hrows⟩ := IndexTable.exists_cuts_of_segments hsize hr hsegments
  have hsum : (segments.map Segment.count).sum = r.length := hcuts.sum_count.trans hrows
  rw [hsum]
  use hcount
  rw [runTable, hcount, hsegments]
  exact stopsAtFault_runSegments read (congrArg Nat.cast hsum) r

/-- The second of three reads fails. -/
theorem runTable_stopsAtFault_second :
  let t : IndexTable := .ofMap (.ofRows [some 0, none, some 1, some 5, none, some 6])
  let r : Request := ⟨0, 1, 5⟩
  let f : Fetch := ⟨[], none, .int 0⟩
  let read : Reader := fun call _ _ _ =>
    if call = 1 then .ok (.ofList .int64 [.int 7]) else .error .notAPosition
  t.size = .ok 6 ∧ r.Valid 6
    ∧ f.runTable t r read = ⟨[⟨0, 1, 0⟩, ⟨1, 4, 5⟩], .error .notAPosition⟩
    ∧ StopsAtFault read [] [(⟨0, 1, 0⟩, 1), (⟨1, 4, 5⟩, 2), (⟨6, 1, 6⟩, 1)] (f.runTable t r read)
  := by
  intro t r f read
  have hsize : t.size = .ok 6 := rfl
  have hvalid : r.Valid 6 := by decide
  have hsegments : t.segments r
      = .ok [.run 0 1 0 1, .fill 1, .run 1 4 5 2, .fill 1, .run 6 1 6 1] := rfl
  use hsize, hvalid, rfl
  exact ((runTable_stopsAtFault hsize hvalid f read).2.2 _ hsegments).2

/-! ### Refused requests -/

/-- A request that is not within the axis is refused before anything is read, with the failure of
its segments; but where the stride is zero it fails because the positions cannot be counted. -/
theorem runTable_refused [Machine] (hsize : t.size = .ok size) (hr : ¬ r.Valid size) (f : Fetch)
    (read : Reader) :
  ∃ e, t.segments r = .error e ∧ e.kind = .value
    ∧ f.runTable t r read = ⟨[], .error (if r.stride = 0 then .zeroStride else e)⟩
  := by
  obtain ⟨e, hcheck, hkind⟩ := Request.exists_check_eq_error hr
  have hsegments : t.segments r = .error e := by
    rw [IndexTable.segments, hsize]
    simp only [bind, Except.bind, hcheck]
  use e, hsegments, hkind
  split
  · next hzero =>
    rw [runTable, Request.count, if_pos hzero]
    rfl
  · next hnonzero =>
    exact runTable_of_error (if_neg hnonzero) hsegments f read

/-- A request past the end of an axis. -/
theorem runTable_refused_pastEnd :
  let t : IndexTable := .ofMap (.ofRows [some 0, some 1])
  let r : Request := ⟨1, 1, 2⟩
  let f : Fetch := ⟨[], none, .int 0⟩
  let read : Reader := fun _ _ _ _ => .ok (.ofList .int64 [.int 7])
  t.size = .ok 2 ∧ ¬ r.Valid 2 ∧ ∃ e, t.segments r = .error e ∧ e.kind = .value
    ∧ f.runTable t r read = ⟨[], .error e⟩
  := by
  intro t r f read
  have hsize : t.size = .ok 2 := rfl
  have hinvalid : ¬ r.Valid 2 := by decide
  use hsize, hinvalid
  exact runTable_refused hsize hinvalid f read

/-- A stride of zero is not refused as a wrong value, although the segments refuse it so. -/
theorem runTable_strideZero :
  let t : IndexTable := .ofMap (.ofRows [some 0, some 1])
  let r : Request := ⟨0, 0, 1⟩
  let f : Fetch := ⟨[], none, .int 0⟩
  let read : Reader := fun _ _ _ _ => .ok (.ofList .int64 [.int 7])
  t.size = .ok 2 ∧ ¬ r.Valid 2 ∧ t.segments r = .error (.strideTooSmall 0)
    ∧ (Failure.strideTooSmall 0).kind = .value
    ∧ f.runTable t r read = ⟨[], .error .zeroStride⟩ ∧ Failure.zeroStride.kind ≠ .value
  := by
  intro t r f read
  have hinvalid : ¬ r.Valid 2 := by decide
  exact ⟨rfl, hinvalid, rfl, rfl, rfl, by decide⟩

end Tables

end Fetch

end GridUnion
