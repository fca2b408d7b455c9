import GridUnion.Proofs.Catalogue
import GridUnion.Proofs.Dataset.Whole
import GridUnion.Proofs.Silent

/-!
# Extracts of catalogues

The tool writes the part of a dataset that it is told to extract as the last thing it does that can
fail.  So it writes once and ends with code 0, or it writes nothing.
-/

namespace GridUnion

namespace CommandLine

variable {catalogue : String} {id : Argument} {es : List DatasetEntry} {s : Session}

/-! ### The named dataset -/

/-- The dataset of the only entry of a catalogue with the given id, built from files. -/
def IsNamed (catalogue : String) (id : Argument) (s : Session) (d : Dataset) : Prop :=
  ∃ es s' e, Catalogue.load catalogue s = (.ok es, s')
    ∧ es.filter (fun e => id == .word e.id) = [e] ∧ (e.build .fromFiles s').1 = .ok d

theorem IsNamed.unique {d d' : Dataset} (h : IsNamed catalogue id s d)
    (h' : IsNamed catalogue id s d') :
  d = d'
  := by
  obtain ⟨es, s', e, hload, hfound, hbuild⟩ := h
  obtain ⟨_, _, e', hload', hfound', hbuild'⟩ := h'
  cases hload.symm.trans hload'
  cases hfound.symm.trans hfound'
  exact Except.ok.inj (hbuild.symm.trans hbuild')

theorem selected_cases (catalogue : String) (id : Argument) (hids : (es.map DatasetEntry.id).Nodup) :
  (es.filter (fun e => id == .word e.id) = []
      ∧ selected catalogue (some id) es = .error (.notConfigured id.text catalogue))
    ∨ ∃ e, es.filter (fun e => id == .word e.id) = [e] ∧ id = .word e.id
      ∧ selected catalogue (some id) es = .ok [e]
  := by
  rcases hfound : es.filter (fun e => id == .word e.id) with _ | ⟨e, found⟩
  · left
    simp only [selected, hfound, and_self]
  · right
    have hsame : ∀ e' ∈ e :: found, id = .word e'.id := by
      intro e' he'
      rw [← hfound] at he'
      exact eq_of_beq (List.mem_filter.mp he').2
    obtain ⟨he, hothers⟩ := List.forall_mem_cons.mp hsame
    have hnodup : ((e :: found).map DatasetEntry.id).Nodup := by
      rw [← hfound]
      exact hids.sublist (List.filter_sublist.map _)
    have hnone : found = [] := by
      apply List.eq_nil_iff_forall_not_mem.mpr
      intro e' he'
      have hid : e.id = e'.id := Argument.word.inj (he.symm.trans (hothers e' he'))
      exact (List.nodup_cons.mp hnodup).1 (hid ▸ List.mem_map_of_mem he')
    rw [hnone] at hfound
    use e, hfound, he
    simp only [selected, hfound]

/-- The named dataset is published alone; if there is none, that is a failure, or it is among the
failures. -/
theorem loadCatalogue_cases (catalogue : String) (id : Argument) (s : Session) :
  (∃ d e s', IsNamed catalogue id s d ∧ id = .word e.id
      ∧ loadCatalogue catalogue (some id) s = (.ok (Registry.empty.publish e d, []), s'))
    ∨ ((∀ d, ¬ IsNamed catalogue id s d)
      ∧ ((∃ f s', loadCatalogue catalogue (some id) s = (.error f, s'))
        ∨ ∃ r failure s', loadCatalogue catalogue (some id) s = (.ok (r, [failure]), s')))
  := by
  rcases hload : Catalogue.load catalogue s with ⟨f | es, s₁⟩
  · right
    constructor
    · rintro d ⟨_, _, _, hload', -⟩
      cases hload.symm.trans hload'
    · left
      use f, s₁
      simp only [loadCatalogue, Action.bind_apply, hload]
  · obtain ⟨hnone, hselected⟩ | ⟨e, hfound, hid, hselected⟩ :=
      selected_cases catalogue id (Catalogue.nodup_ids_of_load hload)
    · right
      constructor
      · rintro d ⟨_, _, _, hload', hfound, -⟩
        cases hload.symm.trans hload'
        cases hnone.symm.trans hfound
      · left
        use .notConfigured id.text catalogue, s₁
        simp only [loadCatalogue, Action.bind_apply, hload, Action.liftM_apply, hselected]
    · have heq : loadCatalogue catalogue (some id) s = loadEntries [e] s₁ := by
        simp only [loadCatalogue, Action.bind_apply, hload, Action.liftM_apply, hselected]
      rw [heq, loadEntries, Service.loadAll]
      obtain ⟨f, s', hbuild, hone⟩ | ⟨d, s', text, hbuild, hone⟩ :=
        Service.load_cases .fromFiles e ⟨.empty, s₁⟩
      · right
        constructor
        · rintro d ⟨_, _, _, hload', hfound', hbuild'⟩
          cases hload.symm.trans hload'
          cases hfound.symm.trans hfound'
          rw [hbuild] at hbuild'
          cases hbuild'
        · right
          exact ⟨_, (e.id, f), _, by rw [hone]; rfl⟩
      · left
        exact ⟨d, e, _, ⟨es, s₁, e, hload, hfound, congrArg Prod.fst hbuild⟩, hid,
          by rw [hone]; rfl⟩

/-- A command on a dataset is carried out on the named one, or ends with code 1, or fails. -/
theorem onDataset_cases (catalogue : String) (id : Argument) (f : Dataset → Action Unit)
    (s : Session) :
  (∃ d s', IsNamed catalogue id s d ∧ s'.written = s.written
      ∧ onDataset catalogue id f s = (f d >>= fun _ => pure 0) s')
    ∨ ((∀ d, ¬ IsNamed catalogue id s d) ∧ ∃ r s', onDataset catalogue id f s = (r, s')
      ∧ s'.written = s.written ∧ (r = .ok 1 ∨ ∃ failure, r = .error failure))
  := by
  have hsilent := isSilent_loadCatalogue catalogue (some id) s
  obtain ⟨d, e, s', hnamed, hid, hload⟩ | ⟨hnone, ⟨failure, s', hload⟩ | ⟨r, failure, s', hload⟩⟩ :=
    loadCatalogue_cases catalogue id s
  · left
    rw [hload] at hsilent
    use d, s', hnamed, hsilent
    have hget : (Registry.empty.publish e d).get (.text id.text) = .ok ⟨0, d⟩ := by
      simp [Registry.get, Registry.publish, Registry.lookUp_text, Registry.lookup_put, hid,
        Argument.text, Argument.word?, Registry.empty]
    simp only [onDataset, Action.bind_apply, hload, List.isEmpty_nil, hget]
    rfl
  · right
    rw [hload] at hsilent
    use hnone, .error failure, s'
    simp only [onDataset, Action.bind_apply, hload]
    exact ⟨trivial, hsilent, .inr ⟨failure, rfl⟩⟩
  · right
    rw [hload] at hsilent
    use hnone, .ok 1, s'
    simp only [onDataset, Action.bind_apply, hload]
    exact ⟨rfl, hsilent, .inl trivial⟩

/-! ### The requests -/

theorem completeRequests_eq_ok_iff {d : Dataset} {constraints : List (Option Request)}
    {full : List Request} :
  completeRequests d constraints = .ok full
    ↔ ∃ given, constraints = given.map some ∧ given.length ≤ d.shape.length
      ∧ given ++ (d.shape.drop given.length).map Request.whole = full
  := by
  rw [completeRequests, bind_eq_ok_iff]
  constructor
  · rintro ⟨full', hgiven, hrest⟩
    split at hrest
    · next hall =>
      cases hrest
      obtain ⟨hle, heq⟩ := Dataset.fullConstraints_eq_ok_iff.mp hgiven
      refine ⟨_, ?_, hle, heq⟩
      rw [List.map_map]
      nth_rewrite 1 [← List.map_id constraints]
      apply List.map_congr_left
      intro r hr
      obtain ⟨request, rfl⟩ := Option.isSome_iff_exists.mp (List.all_eq_true.mp hall r hr)
      rfl
    · simp at hrest
  · rintro ⟨given, rfl, hle, heq⟩
    use full
    have hgetD : (given.map some).map (fun r => r.getD default) = given := by
      simp [Function.comp_def]
    rw [hgetD, Dataset.fullConstraints_eq_ok_iff]
    use ⟨hle, heq⟩
    simp

/-! ### The part that is written -/

/-- What is extracted: the given variables of the named dataset, at the given requests and along all
of each dimension that is left out. -/
def IsExtracted [Machine] (catalogue : String) (id : Argument) (names : List String)
    (constraints : List (Option Request)) (s : Session) (grid : Grid) : Prop :=
  ∃ d given, IsNamed catalogue id s d ∧ constraints = given.map some
    ∧ given.length ≤ d.shape.length
    ∧ (d.subset names (given ++ (d.shape.drop given.length).map Request.whole)).result = .ok grid

/-- A part of a dataset is written once, or it cannot be had and nothing is written. -/
theorem writePart_cases [Machine] (d : Dataset) (names : List String)
    (constraints : List (Option Request)) (output : String) (s : Session) :
  (∃ full grid s', completeRequests d constraints = .ok full
      ∧ (d.subset names full).result = .ok grid
      ∧ writePart d names constraints output s = (.ok (), s')
      ∧ s'.written = s.written ++ [(output, grid)])
    ∨ ((∀ full grid, completeRequests d constraints = .ok full →
        (d.subset names full).result ≠ .ok grid)
      ∧ ∃ f s', writePart d names constraints output s = (.error f, s') ∧ s'.written = s.written)
  := by
  rcases hfull : completeRequests d constraints with f | full
  · right
    constructor
    · intro full grid h
      cases h
    · use f, s
      simp only [writePart, Action.bind_apply, Action.liftM_apply, hfull, and_self]
  · rcases hgrid : (d.subset names full).result with f | grid
    · right
      constructor
      · intro full' grid h h'
        cases h
        cases hgrid.symm.trans h'
      · use f, { s with notes := s.notes ++ (d.subset names full).notes }
        simp only [writePart, Action.bind_apply, Action.liftM_apply, hfull, Action.ofNoted, hgrid,
          and_self]
    · left
      have hwrite : writePart d names constraints output s
          = (Action.write output grid >>= fun _ => Action.note .info .tool ("Wrote " ++ output))
            { s with notes := s.notes ++ (d.subset names full).notes } := by
        simp only [writePart, Action.bind_apply, Action.liftM_apply, hfull, Action.ofNoted, hgrid]
      exact ⟨full, grid, _, rfl, hgrid, hwrite, rfl⟩

/-- The command writes an extract that can be had, once and to the given path, and ends with code 0;
otherwise it ends with code 1 or fails, and nothing is written. -/
theorem perform_extract_cases [Machine] (catalogue : String) (id : Argument) (names : List String)
    (constraints : List (Option Request)) (output : Argument) (s : Session) :
  (∃ grid s', IsExtracted catalogue id names constraints s grid
      ∧ (Command.extract catalogue id names constraints output).perform s = (.ok 0, s')
      ∧ s'.written = s.written ++ [(output.text, grid)])
    ∨ ((∀ grid, ¬ IsExtracted catalogue id names constraints s grid)
      ∧ ∃ r s', (Command.extract catalogue id names constraints output).perform s = (r, s')
        ∧ s'.written = s.written ∧ (r = .ok 1 ∨ ∃ f, r = .error f))
  := by
  obtain ⟨d, s₁, hnamed, hwritten, hcommand⟩ | ⟨hnone, r, s₁, hcommand, hwritten, hr⟩ :=
    onDataset_cases catalogue id (fun d => writePart d names constraints output.text) s
  · rw [Action.bind_apply] at hcommand
    obtain ⟨full, grid, s₂, hfull, hgrid, hpart, hgrids⟩ | ⟨hnot, f, s₂, hpart, hgrids⟩ :=
      writePart_cases d names constraints output.text s₁
    · left
      rw [hpart] at hcommand
      obtain ⟨given, hgiven, hle, rfl⟩ := completeRequests_eq_ok_iff.mp hfull
      refine ⟨grid, s₂, ⟨d, given, hnamed, hgiven, hle, hgrid⟩, hcommand, ?_⟩
      rw [hgrids, hwritten]
    · right
      rw [hpart] at hcommand
      refine ⟨?_, .error f, s₂, hcommand, hgrids.trans hwritten, .inr ⟨f, rfl⟩⟩
      rintro grid ⟨d', given, hnamed', hgiven, hle, hgrid⟩
      obtain rfl := hnamed.unique hnamed'
      exact hnot _ grid (completeRequests_eq_ok_iff.mpr ⟨given, hgiven, hle, rfl⟩) hgrid
  · right
    refine ⟨?_, r, s₁, hcommand, hwritten, hr⟩
    rintro grid ⟨d, given, hnamed, -⟩
    exact hnone d hnamed

/-- Once the log is prepared, the tool ends as its command does; a failure that is the user's to mend
is code 1. -/
theorem run_of_prepareLog [Machine] {i : Invocation} {s₁ : Session}
    (hlog : prepareLog i.logFile s = (.ok (), s₁)) :
  (∀ code s₂, i.command.perform s₁ = (.ok code, s₂) → i.run s = (.ok code, s₂))
    ∧ ∀ f s₂, i.command.perform s₁ = (.error f, s₂) →
      ((i.run s).1 = .ok 1 ∨ ∃ f, (i.run s).1 = .error f) ∧ (i.run s).2.written = s₂.written
  := by
  constructor
  · intro code s₂ hperform
    simp only [Invocation.run, Action.bind_apply, hlog, Action.attempt, hperform]
    rfl
  · intro f s₂ hperform
    simp only [Invocation.run, Action.bind_apply, hlog, Action.attempt, hperform]
    split
    · exact ⟨.inl rfl, rfl⟩
    · exact ⟨.inr ⟨f, rfl⟩, rfl⟩

/-- An extract that can be had is written, once and to the given path, and the tool ends with code 0;
otherwise it ends with code 1 or fails, and nothing is written. -/
theorem run_extract [Machine] (logFile : Option String) (verbose : Bool) (catalogue : String)
    (id : Argument) (names : List String) (constraints : List (Option Request)) (output : Argument)
    (s : Session) :
  let log := prepareLog logFile s
  let run := Invocation.run ⟨logFile, verbose, .extract catalogue id names constraints output⟩ s
  (∃ grid, log.1 = .ok () ∧ IsExtracted catalogue id names constraints log.2 grid
      ∧ run.1 = .ok 0 ∧ run.2.written = s.written ++ [(output.text, grid)])
    ∨ (¬ (log.1 = .ok () ∧ ∃ grid, IsExtracted catalogue id names constraints log.2 grid)
      ∧ (run.1 = .ok 1 ∨ ∃ f, run.1 = .error f) ∧ run.2.written = s.written)
  := by
  intro log run
  have hsilent := isSilent_prepareLog logFile s
  rcases hlog : prepareLog logFile s with ⟨f | _, s₁⟩
  · right
    rw [hlog] at hsilent
    have hrun : run = (.error f, s₁) := by
      simp only [run, Invocation.run, Action.bind_apply, hlog]
    rw [hrun]
    refine ⟨?_, .inr ⟨f, rfl⟩, hsilent⟩
    rintro ⟨hok, -⟩
    cases (congrArg Prod.fst hlog).symm.trans hok
  · rw [hlog] at hsilent
    have hprepared : log = (.ok (), s₁) := hlog
    rw [hprepared]
    obtain ⟨hends, hfails⟩ := run_of_prepareLog
      (i := ⟨logFile, verbose, .extract catalogue id names constraints output⟩) hlog
    obtain ⟨grid, s₂, hgrid, hcommand, hwritten⟩ | ⟨hnone, r, s₂, hcommand, hwritten, hr⟩ :=
      perform_extract_cases catalogue id names constraints output s₁
    · left
      have hrun : run = (.ok 0, s₂) := hends 0 s₂ hcommand
      rw [hrun]
      exact ⟨grid, rfl, hgrid, rfl, hwritten.trans (by rw [hsilent])⟩
    · right
      refine ⟨?_, ?_⟩
      · rintro ⟨-, grid, hgrid⟩
        exact hnone grid hgrid
      · obtain rfl | ⟨f, rfl⟩ := hr
        · have hrun : run = (.ok 1, s₂) := hends 1 s₂ hcommand
          rw [hrun]
          exact ⟨.inl rfl, hwritten.trans hsilent⟩
        · obtain ⟨hresult, hnothing⟩ := hfails f s₂ hcommand
          exact ⟨hresult, hnothing.trans (hwritten.trans hsilent)⟩

end CommandLine

end GridUnion
