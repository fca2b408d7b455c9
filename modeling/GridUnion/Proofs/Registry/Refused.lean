import GridUnion.Proofs.Registry.Readers

/-!
# Refused grids

The grid of a child may be opened and then refused, for example because it has no data variables.
Nothing is given back for it, so nobody can close it: a failed load closes all grids that it has
opened exactly if none was refused.
-/

namespace GridUnion

open Child (numbers)

/-! ### What is found at the path of a child -/

/-- The grid at a path, with its location. -/
def Location.grid? (fs : Files) (path : String) (base : Option String) : Option (String × Grid) :=
  match resolve fs path base with
  | .error _ => none
  | .ok location =>
    match location.isMissing fs, fs.grid? location.text with
    | .ok false, some (.grid grid) => some (location.text, grid)
    | _, _ => none

namespace ChildEntry

/-- The child of the grid at a path, or why the grid is refused, if there is a grid. -/
def found? (c : ChildEntry) (fs : Files) (axis : Value) (base : Option String) :
    Option (Except Failure Child) :=
  (Location.grid? fs c.path base).map fun (location, grid) =>
    Child.ofGrid grid c.name axis (.text location) none

/-- There is a grid at the path of a child, but it is refused. -/
def IsRefused (c : ChildEntry) (fs : Files) (axis : Value) (base : Option String) : Prop :=
  ∃ f, c.found? fs axis base = some (.error f)

end ChildEntry

/-- Whether a grid is refused does not depend on its handle. -/
theorem Child.ofGrid_handle (grid : Grid) (name axis source : Value) (handle : Option Handle) :
  ofGrid grid name axis source handle
    = (ofGrid grid name axis source none).map fun c => { c with origin := .ofHandle handle }
  := by
  unfold ofGrid
  rcases grid.quantities with _ | ⟨first, rest⟩
  · rfl
  · simp only
    rcases otherDims? first.dims rest with _ | f
    · rcases first.dims with _ | ⟨dim, others⟩
      · rfl
      · cases axis <;> simp only <;> try split
        all_goals rfl
    · rfl

/-- A child is not found, and nothing is opened; or a grid is opened, of which the child is made. -/
theorem Opener.fromFiles_cases (c : ChildEntry) (axis : Value) (base : Option String)
    (s : Session) :
  (c.found? s.files axis base = none
      ∧ ∃ f notes, fromFiles c axis base s = (.error f, { s with notes := notes }))
    ∨ ∃ r location notes, c.found? s.files axis base = some r
      ∧ fromFiles c axis base s
        = (r.map fun child => { child with origin := .opened ⟨s.opened, location⟩ },
            { s with opened := s.opened + 1, notes := notes })
  := by
  simp only [ChildEntry.found?, Location.grid?, fromFiles, Child.openFrom, Action.bind_apply,
    Action.liftM_apply, Action.ask_apply, Action.ite_apply, Action.note_apply]
  rcases Location.resolve s.files c.path base with f | location
  · left
    exact ⟨rfl, f, s.notes, rfl⟩
  · simp only
    rcases location.isMissing s.files with f | _ | _
    · left
      exact ⟨rfl, f, s.notes, rfl⟩
    · simp only [Bool.false_eq_true, if_false, openGrid]
      rcases s.files.grid? location.text with _ | grid | f
      · left
        exact ⟨rfl, .raised .system ("cannot open " ++ location.text), _, rfl⟩
      · right
        have hmade := Child.ofGrid_handle grid c.name axis (.text location.text)
          (some ⟨s.opened, location.text⟩)
        exact ⟨_, location.text, _, rfl, Prod.ext hmade rfl⟩
      · left
        exact ⟨rfl, f, _, rfl⟩
    · left
      exact ⟨rfl, .childFileMissing location.text, s.notes, rfl⟩

/-- A child that opens is made of a grid in the files. -/
theorem Opener.exists_grid_of_fromFiles {c : ChildEntry} {axis : Value} {base : Option String}
    {s : Session} {child : Child} (h : (fromFiles c axis base s).1 = .ok child) :
  ∃ location grid handle, s.files.grid? location = some (.grid grid)
    ∧ Child.ofGrid grid c.name axis (.text location) (some handle) = .ok child
  := by
  simp only [fromFiles, Child.openFrom, Action.bind_fst, Action.liftM_apply, Action.ask_apply,
    bind_eq_ok_iff] at h
  obtain ⟨_, hfiles, location, -, missing, -, h⟩ := h
  obtain rfl := Except.ok.inj hfiles
  rcases missing with _ | _
  · simp only [Bool.false_eq_true, if_false, Action.bind_fst, bind_eq_ok_iff] at h
    obtain ⟨_, -, ⟨grid, handle⟩, hopen, hmade⟩ := h
    refine ⟨location.text, grid, handle, ?_, hmade⟩
    simp only [openGrid, Action.note_apply] at hopen
    split at hopen
    · cases hopen
    · cases hopen
    · next g hgrid =>
      obtain ⟨rfl, -⟩ := Prod.mk.inj (Except.ok.inj hopen)
      exact hgrid
  · cases h

theorem isFresh_fromFiles :
  Opener.fromFiles.IsFresh
  := by
  intro c axis base s
  obtain ⟨-, f, notes, hopen⟩ | ⟨r, location, notes, -, hopen⟩ :=
    Opener.fromFiles_cases c axis base s
  · rw [hopen]
    exact Session.opens_nil le_rfl rfl
  · rw [hopen]
    rcases r with f | child
    · exact Session.opens_nil (Nat.le_succ _) rfl
    · exact Session.opens_singleton rfl rfl rfl

/-! ### Grids that belong to children -/

namespace Session

/-- Between two sessions nothing was closed, and all grids that were opened belong to the given
children exactly under a condition. -/
structure Accounts (s : Session) (cs : List Child) (s' : Session) (complete : Prop) : Prop where
  files_eq : s'.files = s.files
  closings_eq : s'.closings = s.closings
  mem_iff : (∀ n, s.opened ≤ n → n < s'.opened → n ∈ numbers cs) ↔ complete

variable {s s' s'' : Session} {cs : List Child} {complete : Prop}

theorem accounts_nil (hcomplete : complete) (hfiles : s'.files = s.files)
    (hopened : s'.opened = s.opened) (hclosings : s'.closings = s.closings) :
  s.Accounts [] s' complete
  := by
  use hfiles, hclosings
  simp only [hcomplete, iff_true]
  intro n hge hlt
  omega

/-- A grid that is opened and belongs to no child is not accounted for. -/
theorem Accounts.skip (h : s'.Accounts cs s'' complete) (hopens : s'.Opens cs s'')
    (hfiles : s'.files = s.files) (hopened : s'.opened = s.opened + 1)
    (hclosings : s'.closings = s.closings) :
  s.Accounts cs s'' False
  := by
  use h.files_eq.trans hfiles, h.closings_eq.trans hclosings
  simp only [iff_false, not_forall]
  have hle := hopens.opened_le
  use s.opened, le_rfl, by omega
  intro hmem
  have := (hopens.number_mem _ hmem).1
  omega

/-- A grid that is opened belongs to the child that is made of it. -/
theorem Accounts.cons (h : s'.Accounts cs s'' complete) {c : Child} (hnumber : c.number = s.opened)
    (hfiles : s'.files = s.files) (hopened : s'.opened = s.opened + 1)
    (hclosings : s'.closings = s.closings) :
  s.Accounts (c :: cs) s'' complete
  := by
  use h.files_eq.trans hfiles, h.closings_eq.trans hclosings
  rw [← h.mem_iff]
  have hnumbers : numbers (c :: cs) = s.opened :: numbers cs := by
    simp [numbers, hnumber]
  rw [hnumbers]
  constructor
  · intro hall n hge hlt
    rcases List.mem_cons.mp (hall n (by omega) hlt) with rfl | hmem
    · omega
    · exact hmem
  · intro hall n hge hlt
    rcases Nat.eq_or_lt_of_le hge with rfl | hgt
    · exact List.mem_cons_self
    · exact List.mem_cons_of_mem _ (hall n (by omega) hlt)

/-- Once the children are closed, all grids that were opened are closed exactly if all of them
belong to the children. -/
theorem Accounts.mem_closedNumbers_iff (h : s.Accounts cs s' complete)
    (hclosed : ∀ n ∈ s.closedNumbers, n < s.opened) (hcloses : s'.Closes cs s'') :
  (∀ n, s.opened ≤ n → n < s''.opened → n ∈ s''.closedNumbers) ↔ complete
  := by
  have hbefore : s'.closedNumbers = s.closedNumbers := by
    rw [closedNumbers, h.closings_eq, closedNumbers]
  have hafter : s''.closedNumbers = s'.closedNumbers ++ numbers cs := by
    rw [closedNumbers, hcloses.closings_eq, numbers_append, closedNumbers]
  rw [← h.mem_iff, hafter, hbefore, hcloses.opened_eq]
  apply forall_congr'
  intro n
  apply forall_congr'
  intro hge
  have hold : n ∉ s.closedNumbers := by
    intro hmem
    have := hclosed n hmem
    omega
  simp [hold]

end Session

namespace DatasetEntry

variable {e : DatasetEntry} {s : Session}

/-- The grids that are opened for the children after the first all belong to children exactly if
none is refused. -/
theorem accounts_openOthers (e : DatasetEntry) (number : Nat) (cs : List ChildEntry)
    (s : Session) :
  s.Accounts (e.openOthers .fromFiles number cs s).1.1 (e.openOthers .fromFiles number cs s).2
    (∀ c ∈ cs, ¬ c.IsRefused s.files e.axis e.base)
  := by
  induction cs generalizing number s with
  | nil => exact Session.accounts_nil (by simp) rfl rfl rfl
  | cons c cs ih =>
    rw [openOthers, List.forall_mem_cons]
    obtain ⟨hfound, f, notes, hopen⟩ | ⟨r, location, notes, hfound, hopen⟩ :=
      Opener.fromFiles_cases c e.axis e.base s
    · have hrefused : ¬ c.IsRefused s.files e.axis e.base := by
        simp [ChildEntry.IsRefused, hfound]
      rw [hopen]
      simp only [hrefused, not_false_eq_true, true_and]
      have hnext := ih (number + 1) { s with notes := notes ++ [⟨.error, .registry,
        "Dataset " ++ e.id ++ s!": skipping child #{number} " ++ c.path⟩] }
      exact ⟨hnext.files_eq, hnext.closings_eq, hnext.mem_iff⟩
    · rw [hopen]
      rcases r with f | child
      · have hrefused : c.IsRefused s.files e.axis e.base := ⟨f, hfound⟩
        simp only [hrefused, not_true_eq_false, false_and]
        exact (ih (number + 1) _).skip (opens_openOthers isFresh_fromFiles e _ cs _) rfl rfl rfl
      · have hrefused : ¬ c.IsRefused s.files e.axis e.base := by
          simp [ChildEntry.IsRefused, hfound]
        simp only [hrefused, not_false_eq_true, true_and]
        exact (ih (number + 1) _).cons rfl rfl rfl rfl

/-- The children that are looked for: the others only if there is one at the first path. -/
def attempted (fs : Files) (e : DatasetEntry) : List ChildEntry :=
  match e.children with
  | [] => []
  | c :: cs =>
    match c.found? fs e.axis e.base with
    | some (.ok _) => c :: cs
    | _ => [c]

/-- The grids that are opened for an entry all belong to its children exactly if none is refused. -/
theorem accounts_openChildren (e : DatasetEntry) (s : Session) :
  s.Accounts ((e.openChildren .fromFiles s).1.toOption.elim [] Prod.fst)
    (e.openChildren .fromFiles s).2
    (∀ c ∈ e.attempted s.files, ¬ c.IsRefused s.files e.axis e.base)
  := by
  rcases hchildren : e.children with _ | ⟨c, cs⟩
  · simp only [openChildren, attempted, hchildren]
    exact Session.accounts_nil (by simp) rfl rfl rfl
  · simp only [openChildren, attempted, hchildren]
    obtain ⟨hfound, f, notes, hopen⟩ | ⟨r, location, notes, hfound, hopen⟩ :=
      Opener.fromFiles_cases c e.axis e.base s
    · rw [hopen, hfound]
      exact Session.accounts_nil (by simp [ChildEntry.IsRefused, hfound]) rfl rfl rfl
    · rw [hopen, hfound]
      rcases r with f | child
      · have hrefused : c.IsRefused s.files e.axis e.base := ⟨f, hfound⟩
        simp only [List.mem_singleton, forall_eq, hrefused, not_true_eq_false]
        exact (Session.accounts_nil trivial rfl rfl rfl).skip (Session.opens_nil le_rfl rfl)
          rfl rfl rfl
      · have hrefused : ¬ c.IsRefused s.files e.axis e.base := by
          simp [ChildEntry.IsRefused, hfound]
        simp only [List.forall_mem_cons, hrefused, not_false_eq_true, true_and]
        exact (accounts_openOthers e 1 cs _).cons rfl rfl rfl rfl

theorem mem_closedNumbers_iff_of_build_error
    (hclosed : ∀ n ∈ s.closedNumbers, n < s.opened) {f : Failure} {s' : Session}
    (h : e.build .fromFiles s = (.error f, s')) :
  (∀ n, s.opened ≤ n → n < s'.opened → n ∈ s'.closedNumbers)
    ↔ ∀ c ∈ e.attempted s.files, ¬ c.IsRefused s.files e.axis e.base
  := by
  have haccounts := accounts_openChildren e s
  have hcloses := closes_of_build_error isFresh_fromFiles (Session.holds_nil hclosed) h
  obtain ⟨f', s₁, hopen, hbuild⟩ | ⟨children, warnings, s₁, notes, hopen, -⟩ :=
    build_cases .fromFiles e s
  · cases hbuild.symm.trans h
    have hcloses : s'.Closes [] s' :=
      ⟨rfl, (List.append_nil _).symm, List.nodup_nil, fun c hc => nomatch hc⟩
    rw [hopen] at haccounts
    exact haccounts.mem_closedNumbers_iff hclosed hcloses
  · rw [hopen] at haccounts hcloses
    exact haccounts.mem_closedNumbers_iff hclosed hcloses.1

end DatasetEntry

namespace Service

/-- When a load or a reload from files fails, all grids that it has opened are closed exactly if
none was refused. -/
theorem mem_closedNumbers_iff_of_load_error {e : DatasetEntry} {s s' : Service} {f : Failure}
    (hclosed : ∀ n ∈ s.session.closedNumbers, n < s.session.opened)
    (h : s.load .fromFiles e = (.error f, s')
      ∨ ∃ id, s.registry.entries.lookup id = some e
        ∧ s.reload .fromFiles (.text id) = (.error f, s')) :
  (∀ n, s.session.opened ≤ n → n < s'.session.opened → n ∈ s'.session.closedNumbers)
    ↔ ∀ c ∈ e.attempted s.session.files, ¬ c.IsRefused s.session.files e.axis e.base
  := by
  have hload : s.load .fromFiles e = (.error f, s') := by
    rcases h with hload | ⟨id, he, hreload⟩
    · exact hload
    · rw [← hreload, reload, Registry.lookUp_text, he]
  obtain ⟨f', s₁, hbuild, hfail⟩ | ⟨d, s₁, text, -, hok⟩ := load_cases .fromFiles e s
  · cases hfail.symm.trans hload
    exact DatasetEntry.mem_closedNumbers_iff_of_build_error hclosed hbuild
  · cases hok.symm.trans hload

/-- A service that can see one grid, at an address on the net. -/
def ofGrid (grid : Grid) : Service :=
  ⟨.empty, { (default : Session) with
    files := { (default : Files) with grids := [("http://a", .grid grid)] } }⟩

/-- The grid with a variable is opened twice, and both are closed. -/
theorem mem_closedNumbers_twice :
  let s := ofGrid (Dataset.lineChild [1] "v" [2]).grid
  let e : DatasetEntry := .ofPaths "d" ["http://a", "http://a"]
  ∃ f s', s.load .fromFiles e = (.error f, s') ∧ s'.session.opened = 2
    ∧ ((∀ n, s.session.opened ≤ n → n < s'.session.opened → n ∈ s'.session.closedNumbers)
      ↔ ∀ c ∈ e.attempted s.session.files, ¬ c.IsRefused s.session.files e.axis e.base)
  := by
  intro s e
  obtain ⟨f, hf⟩ : ∃ f, (s.load .fromFiles e).1 = .error f := by
    apply exists_error_of_isNone
    decide +kernel
  have hload : s.load .fromFiles e = (.error f, (s.load .fromFiles e).2) := Prod.ext hf rfl
  use f, (s.load .fromFiles e).2, hload, by decide +kernel
  apply mem_closedNumbers_iff_of_load_error
  · intro n hn
    cases hn
  · exact .inl hload

/-- The grid without variables is opened and stays open, although the load fails. -/
theorem isOpen_refused :
  let s := ofGrid ⟨[], [], []⟩
  let e : DatasetEntry := .ofPaths "d" ["http://a"]
  ∃ f s', s.load .fromFiles e = (.error f, s') ∧ s.session.opened = 0 ∧ s'.session.opened = 1
    ∧ s'.session.closings = []
  := by
  intro s e
  obtain ⟨f, hf⟩ : ∃ f, (s.load .fromFiles e).1 = .error f := by
    apply exists_error_of_isNone
    decide +kernel
  have hload : s.load .fromFiles e = (.error f, (s.load .fromFiles e).2) := Prod.ext hf rfl
  use f, (s.load .fromFiles e).2, hload, rfl
  constructor
  · decide +kernel
  · decide +kernel

end Service

end GridUnion
