import GridUnion.Proofs.Dataset.Detached
import GridUnion.Proofs.Registry.Refused

/-!
# Outcomes

Every child of an entry has an outcome when the children are opened one after the other: it opens, or
it fails.  The outcomes decide what is opened and what is said about it; and a dataset is built from
them as from any other children that are the same without their origins.
-/

namespace GridUnion

namespace DatasetEntry

/-! ### Opened and skipped children -/

/-- The session after it is noted that a child is skipped. -/
def skipped (e : DatasetEntry) (number : Nat) (c : ChildEntry) (s : Session) : Session :=
  { s with notes := s.notes ++
    [⟨.error, .registry, "Dataset " ++ e.id ++ s!": skipping child #{number} " ++ c.path⟩] }

/-- The outcomes of children that are opened one after the other, and the session after them. -/
def outcomes (opener : Opener) (e : DatasetEntry) :
    (number : Nat) → List ChildEntry → Session → List (Except Failure Child) × Session
  | _, [], s => ([], s)
  | number, c :: cs, s =>
    match opener c e.axis e.base s with
    | (.ok child, s) =>
      let (rs, s) := outcomes opener e (number + 1) cs s
      (.ok child :: rs, s)
    | (.error f, s) =>
      let (rs, s) := outcomes opener e (number + 1) cs (e.skipped number c s)
      (.error f :: rs, s)

/-- The children that opened. -/
def opened (rs : List (Except Failure Child)) : List Child := rs.filterMap Except.toOption

/-- One message for each child that failed, counting from `number`. -/
def messages (number : Nat) (cs : List ChildEntry) (rs : List (Except Failure Child)) :
    List String :=
  ((cs.zip rs).zipIdx number).filterMap fun
    | ((c, .error f), n) => some (warning n c f)
    | ((_, .ok _), _) => none

/-- The entry that lists only the children that opened. -/
def only (e : DatasetEntry) (rs : List (Except Failure Child)) : DatasetEntry :=
  { e with children := ((e.children.zip rs).filter fun (_, r) => r.isOk).map Prod.fst }

variable {opener : Opener} {e : DatasetEntry} {s : Session}

theorem length_outcomes (opener : Opener) (e : DatasetEntry) (number : Nat) (cs : List ChildEntry)
    (s : Session) :
  (e.outcomes opener number cs s).1.length = cs.length
  := by
  induction cs generalizing number s with
  | nil => rfl
  | cons c cs ih =>
    rw [outcomes]
    rcases opener c e.axis e.base s with ⟨f | child, s'⟩
    · simp [ih]
    · simp [ih]

/-- Each child either opens or is reported. -/
theorem length_opened_add_length_messages (number : Nat) {cs : List ChildEntry}
    {rs : List (Except Failure Child)} (h : rs.length = cs.length) :
  (opened rs).length + (messages number cs rs).length = cs.length
  := by
  induction rs generalizing number cs with
  | nil =>
    obtain rfl := List.eq_nil_of_length_eq_zero h.symm
    rfl
  | cons r rs ih =>
    obtain ⟨c, cs, rfl⟩ := List.exists_cons_of_length_eq_add_one h.symm
    have hrest := ih (number + 1) (Nat.succ.inj h)
    rw [opened, messages] at hrest
    rcases r with f | child
    · simp only [opened, messages, List.zip_cons_cons, List.zipIdx_cons, List.filterMap_cons,
        Except.toOption, List.length_cons]
      omega
    · simp only [opened, messages, List.zip_cons_cons, List.zipIdx_cons, List.filterMap_cons,
        Except.toOption, List.length_cons]
      omega

/-- The children after the first are opened, or reported. -/
theorem openOthers_eq_outcomes (e : DatasetEntry) (number : Nat) (cs : List ChildEntry)
    (s : Session) :
  e.openOthers opener number cs s
    = ((opened (e.outcomes opener number cs s).1,
        messages number cs (e.outcomes opener number cs s).1), (e.outcomes opener number cs s).2)
  := by
  induction cs generalizing number s with
  | nil => rfl
  | cons c cs ih =>
    rw [openOthers, outcomes]
    rcases opener c e.axis e.base s with ⟨f | child, s'⟩
    · simp only [ih]
      rfl
    · simp only [ih]
      rfl

/-- If the first child fails, nothing else happens. -/
theorem openChildren_eq_error {c : ChildEntry} {cs : List ChildEntry} {f : Failure} {s' : Session}
    (hchildren : e.children = c :: cs) (hfirst : opener c e.axis e.base s = (.error f, s')) :
  e.openChildren opener s = (.error f, s')
  := by
  rw [openChildren, hchildren]
  simp only [hfirst]

/-- Unless the first child fails, all that open are taken and the others are reported. -/
theorem openChildren_eq_ok (h : ∀ f, (e.outcomes opener 0 e.children s).1.head? ≠ some (.error f)) :
  e.openChildren opener s
    = (.ok (opened (e.outcomes opener 0 e.children s).1,
        messages 0 e.children (e.outcomes opener 0 e.children s).1),
      (e.outcomes opener 0 e.children s).2)
  := by
  rw [openChildren]
  rcases hchildren : e.children with _ | ⟨c, cs⟩
  · rfl
  · rw [hchildren] at h
    simp only [outcomes, openOthers_eq_outcomes] at h ⊢
    rcases hfirst : opener c e.axis e.base s with ⟨f | child, s'⟩
    · rw [hfirst] at h
      exact absurd rfl (h f)
    · rfl

theorem map_detached_opened (rs : List (Except Failure Child)) :
  (opened rs).map Child.detached = opened (rs.map fun r => r.map Child.detached)
  := by
  rw [opened, opened, List.map_filterMap, List.filterMap_map]
  congr 1
  funext r
  rcases r with f | c
  · rfl
  · rfl

/-- What a build does once the children are open. -/
theorem build_eq_of_openChildren {children : List Child} {warnings : List String} {s' : Session}
    (h : e.openChildren opener s = (.ok (children, warnings), s')) :
  (e.build opener s).1 = (Dataset.build (.text e.id) children e.title).result.map fun d =>
    { d with warnings := d.warnings ++ warnings }
  := by
  rw [build, h]
  simp only [Action.ofNoted]
  rcases (Dataset.build (.text e.id) children e.title).result with f | d
  · rfl
  · rfl

theorem build_eq_of_openChildren_error {f : Failure} {s' : Session}
    (h : e.openChildren opener s = (.error f, s')) :
  e.build opener s = (.error f, s')
  := by
  rw [build, h]

/-! ### Builds that are alike -/

/-- Two builds fail with the same failure, or give datasets with the same contents. -/
inductive BuildsAlike [Machine] : Except Failure Dataset → Except Failure Dataset → Prop
  | failed (f : Failure) : BuildsAlike (.error f) (.error f)
  | built {d d' : Dataset} (h : d.SameContents d') : BuildsAlike (.ok d) (.ok d')

theorem buildsAlike_of_map_contents_eq [Machine] {r r' : Except Failure Dataset}
    (h : r'.map Dataset.contents = r.map Dataset.contents) :
  BuildsAlike r r'
  := by
  rcases r with f | d
  · rcases r' with f' | d'
    · cases Except.error.inj h
      exact .failed f
    · cases h
  · rcases r' with f' | d'
    · cases h
    · exact .built (Dataset.sameContents_of_contents_eq (Except.ok.inj h))

/-- Children that are the same without their origins give datasets with the same contents, whatever
is reported besides. -/
theorem buildsAlike_of_openChildren [Machine] {opener' : Opener} {e' : DatasetEntry}
    {t s' t' : Session} {children children' : List Child} {warnings warnings' : List String}
    (h : e.openChildren opener s = (.ok (children, warnings), s'))
    (h' : e'.openChildren opener' t = (.ok (children', warnings'), t'))
    (hid : e'.id = e.id) (htitle : e'.title = e.title)
    (hchildren : children'.map Child.detached = children.map Child.detached) :
  BuildsAlike (e.build opener s).1 (e'.build opener' t).1
  := by
  -- The contents do not show what was reported.
  have hcontents : ∀ (r : Except Failure Dataset) (w : List String),
      (r.map fun d => { d with warnings := d.warnings ++ w }).map Dataset.contents
        = (r.map Dataset.detached).map fun d => { d with warnings := [] } := by
    rintro (f | d) w
    · rfl
    · rfl
  apply buildsAlike_of_map_contents_eq
  rw [build_eq_of_openChildren h, build_eq_of_openChildren h', hcontents, hcontents, hid, htitle,
    Dataset.build_congr hchildren]

end DatasetEntry

/-! ### Steady openers -/

/-- What an opener gives depends on its arguments only, apart from the origin, as long as it sees
certain files; and it leaves such files. -/
structure Opener.IsSteady (opener : Opener) (allowed : Files → Prop) : Prop where
  outcome_eq : ∀ c axis base s t, allowed s.files → allowed t.files →
    (opener c axis base t).1.map Child.detached = (opener c axis base s).1.map Child.detached
  allowed_files : ∀ c axis base s, allowed s.files → allowed (opener c axis base s).2.files

/-- As long as the files stay the same, opening from files is steady. -/
theorem isSteady_fromFiles (fs : Files) :
  Opener.fromFiles.IsSteady (· = fs)
  := by
  constructor
  · rintro c axis base s t rfl htfiles
    simp only [Opener.fromFiles, Child.openFrom, Action.bind_apply, Action.liftM_apply,
      Action.ask_apply, Action.ite_apply, Action.note_apply, htfiles]
    rcases Location.resolve s.files c.path base with f | location
    · rfl
    · simp only
      rcases location.isMissing s.files with f | _ | _
      · rfl
      · simp only [Bool.false_eq_true, if_false, openGrid, htfiles]
        rcases s.files.grid? location.text with _ | grid | f
        · rfl
        · simp only
          rw [Child.ofGrid_handle, Child.ofGrid_handle grid c.name axis _ (some ⟨s.opened, _⟩)]
          rcases Child.ofGrid grid c.name axis (.text location.text) none with f | child
          · rfl
          · rfl
        · rfl
      · rfl
  · rintro c axis base s rfl
    obtain ⟨-, f, notes, hopen⟩ | ⟨r, location, notes, -, hopen⟩ :=
      Opener.fromFiles_cases c axis base s
    · rw [hopen]
    · rw [hopen]

theorem isSteady_lines :
  Opener.lines.IsSteady fun _ => True
  := by
  constructor
  · intro c axis base s t _ _
    unfold Opener.lines
    split
    · rfl
    · rfl
  · intros
    trivial

namespace DatasetEntry

variable {opener : Opener} {allowed : Files → Prop} {e : DatasetEntry} {s t : Session}

/-- Each outcome of a steady opener is that of the child by itself. -/
theorem map_outcomes_eq_map (h : opener.IsSteady allowed) (e : DatasetEntry) (number : Nat)
    (cs : List ChildEntry) (hs : allowed s.files) (ht : allowed t.files) :
  ((e.outcomes opener number cs t).1.map fun r => r.map Child.detached)
      = cs.map (fun c => (opener c e.axis e.base s).1.map Child.detached)
    ∧ allowed (e.outcomes opener number cs t).2.files
  := by
  induction cs generalizing number t with
  | nil => exact ⟨rfl, ht⟩
  | cons c cs ih =>
    have houtcome := h.outcome_eq c e.axis e.base s t hs ht
    have hallowed := h.allowed_files c e.axis e.base t ht
    rw [outcomes, List.map_cons, ← houtcome]
    rcases hopen : opener c e.axis e.base t with ⟨f | child, t'⟩
    · rw [hopen] at hallowed
      obtain ⟨hrest, hfiles⟩ := ih (number + 1) (t := e.skipped number c t') hallowed
      exact ⟨congrArg (List.cons _) hrest, hfiles⟩
    · rw [hopen] at hallowed
      obtain ⟨hrest, hfiles⟩ := ih (number + 1) hallowed
      exact ⟨congrArg (List.cons _) hrest, hfiles⟩

theorem allowed_openChildren (h : opener.IsSteady allowed) (e : DatasetEntry)
    (hs : allowed s.files) :
  allowed (e.openChildren opener s).2.files
  := by
  rcases hchildren : e.children with _ | ⟨c, cs⟩
  · rw [openChildren, hchildren]
    exact hs
  · have hallowed := h.allowed_files c e.axis e.base s hs
    simp only [openChildren, hchildren, openOthers_eq_outcomes]
    rcases hopen : opener c e.axis e.base s with ⟨f | child, s'⟩
    · rwa [hopen] at hallowed
    · rw [hopen] at hallowed
      exact (map_outcomes_eq_map h e 1 cs hallowed hallowed).2

theorem allowed_build (h : opener.IsSteady allowed) (e : DatasetEntry) (hs : allowed s.files) :
  allowed (e.build opener s).2.files
  := by
  have hopen := allowed_openChildren h e hs
  obtain ⟨f, s', heq, hbuild⟩ | ⟨children, warnings, s', notes, heq, ⟨f, hbuild⟩ | ⟨d, -, hbuild⟩⟩ :=
    build_cases opener e s
  · rw [heq] at hopen
    rwa [hbuild]
  · rw [heq] at hopen
    rwa [hbuild, Session.closeChildren_eq]
  · rw [heq] at hopen
    rwa [hbuild]

/-- What is reported does not depend on origins. -/
theorem messages_map_detached (number : Nat) (cs : List ChildEntry)
    (rs : List (Except Failure Child)) :
  messages number cs (rs.map fun r => r.map Child.detached) = messages number cs rs
  := by
  induction rs generalizing number cs with
  | nil => rfl
  | cons r rs ih =>
    rcases cs with _ | ⟨c, cs⟩
    · rfl
    · have hrest := ih (number + 1) cs
      rw [messages, messages] at hrest ⊢
      simp only [List.map_cons, List.zip_cons_cons, List.zipIdx_cons, List.filterMap_cons, hrest]
      rcases r with f | child
      · rfl
      · rfl

/-- What is built of children that have certain outcomes. -/
def assembled (e : DatasetEntry) (rs : List (Except Failure Child)) : Except Failure Dataset :=
  match rs.head? with
  | some (.error f) => .error f
  | _ => (Dataset.build (.text e.id) (opened rs) e.title).result.map fun d =>
      { d with warnings := d.warnings ++ messages 0 e.children rs }

theorem build_eq_assembled (opener : Opener) (e : DatasetEntry) (s : Session) :
  (e.build opener s).1 = e.assembled (e.outcomes opener 0 e.children s).1
  := by
  rw [assembled]
  split
  · next f hf =>
    rcases hchildren : e.children with _ | ⟨c, cs⟩
    · rw [hchildren] at hf
      cases hf
    · rw [hchildren, outcomes] at hf
      rcases hfirst : opener c e.axis e.base s with ⟨f' | child, s'⟩
      · rw [hfirst] at hf
        cases hf
        rw [build_eq_of_openChildren_error (openChildren_eq_error hchildren hfirst)]
      · rw [hfirst] at hf
        cases hf
  · next hhead => exact build_eq_of_openChildren (openChildren_eq_ok hhead)

theorem assembled_map_detached (e : DatasetEntry) (rs : List (Except Failure Child)) :
  (e.assembled (rs.map fun r => r.map Child.detached)).map Dataset.detached
    = (e.assembled rs).map Dataset.detached
  := by
  have hwarned : ∀ (r : Except Failure Dataset) (w : List String),
      (r.map fun d => { d with warnings := d.warnings ++ w }).map Dataset.detached
        = (r.map Dataset.detached).map fun d => { d with warnings := d.warnings ++ w } := by
    rintro (f | d) w
    · rfl
    · rfl
  have hbuild := Dataset.build_congr (Child.map_detached_detached (opened rs)) (.text e.id) e.title
  have hrest := congrArg (fun r => r.map fun d : Dataset =>
    { d with warnings := d.warnings ++ messages 0 e.children rs }) hbuild
  simp only [← hwarned] at hrest
  rw [assembled, assembled, ← map_detached_opened, messages_map_detached]
  rcases rs with _ | ⟨f | child, rs⟩
  · exact hrest
  · rfl
  · exact hrest

/-- With a steady opener an entry is always built alike. -/
theorem map_build_eq (h : opener.IsSteady allowed) (e : DatasetEntry) (hs : allowed s.files)
    (ht : allowed t.files) :
  (e.build opener t).1.map Dataset.detached = (e.build opener s).1.map Dataset.detached
  := by
  rw [build_eq_assembled, build_eq_assembled, ← assembled_map_detached,
    (map_outcomes_eq_map h e 0 e.children hs ht).1, ← (map_outcomes_eq_map h e 0 e.children hs hs).1,
    assembled_map_detached]

/-- Every outcome is one of a child that is opened while certain files are there. -/
theorem exists_of_mem_outcomes (h : opener.IsSteady allowed) (e : DatasetEntry) {number : Nat}
    {cs : List ChildEntry} (hs : allowed s.files) {r : Except Failure Child}
    (hr : r ∈ (e.outcomes opener number cs s).1) :
  ∃ c ∈ cs, ∃ s', allowed s'.files ∧ (opener c e.axis e.base s').1 = r
  := by
  induction cs generalizing number s with
  | nil => cases hr
  | cons c cs ih =>
    have hfiles := h.allowed_files c e.axis e.base s hs
    rw [outcomes] at hr
    rcases hopen : opener c e.axis e.base s with ⟨f | child, s'⟩
    · rw [hopen] at hr hfiles
      rcases List.mem_cons.mp hr with rfl | hr
      · exact ⟨c, List.mem_cons_self, s, hs, by rw [hopen]⟩
      · obtain ⟨c', hc', hrest⟩ := ih (s := e.skipped number c s') hfiles hr
        exact ⟨c', List.mem_cons_of_mem c hc', hrest⟩
    · rw [hopen] at hr hfiles
      rcases List.mem_cons.mp hr with rfl | hr
      · exact ⟨c, List.mem_cons_self, s, hs, by rw [hopen]⟩
      · obtain ⟨c', hc', hrest⟩ := ih hfiles hr
        exact ⟨c', List.mem_cons_of_mem c hc', hrest⟩

/-- Every child of a dataset that is built from files is made of a grid in the files. -/
theorem exists_grid_of_build {d : Dataset} (h : (e.build .fromFiles s).1 = .ok d) {child : Child}
    (hchild : child ∈ d.children) :
  ∃ c ∈ e.children, ∃ location grid handle, s.files.grid? location = some (.grid grid)
    ∧ Child.ofGrid grid c.name e.axis (.text location) (some handle) = .ok child
  := by
  have hmem : child ∈ opened (e.outcomes .fromFiles 0 e.children s).1 := by
    rw [build_eq_assembled, assembled] at h
    split at h
    · cases h
    · obtain ⟨d', hd', rfl⟩ := map_eq_ok_iff.mp h
      obtain ⟨blocks, hjoins⟩ := Dataset.joins_of_build hd'
      exact hjoins.children_eq ▸ hchild
  obtain ⟨r, hr, hopen⟩ := List.mem_filterMap.mp hmem
  obtain ⟨c, hc, s', hfiles, hfirst⟩ := exists_of_mem_outcomes (isSteady_fromFiles s.files) e rfl hr
  rw [eq_ok_of_toOption hopen] at hfirst
  obtain ⟨location, grid, handle, hgrid, hmade⟩ := Opener.exists_grid_of_fromFiles hfirst
  exact ⟨c, hc, location, grid, handle, hfiles ▸ hgrid, hmade⟩

end DatasetEntry

end GridUnion
