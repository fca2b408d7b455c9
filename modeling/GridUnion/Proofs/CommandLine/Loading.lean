import GridUnion.CommandLine.Tool
import GridUnion.Proofs.Axis.Coverage
import GridUnion.Proofs.Catalogue
import GridUnion.Proofs.Registry.Several

/-!
# Loaded catalogues

A command is about the entries of a catalogue that it chooses, unless the catalogue cannot be read.
Each of them is loaded as it would be alone, so what can be told of the registry after that is told of
the entries and the files.
-/

namespace GridUnion

/-- Reading a catalogue leaves the files as they are. -/
theorem Catalogue.files_load (path : String) (s : Session) :
  (load path s).2.files = s.files
  := by
  simp only [load, Action.bind_apply, Action.note_apply, Action.ask_apply, Action.liftM_apply]
  rcases s.files.read (.ofString path) with f | bytes
  · rfl
  · dsimp only
    rcases parse (.ofString path) bytes with f | v
    · rfl
    · rfl

/-! ### Catalogues that cannot be read -/

/-- Why there is no file at the end of a path. -/
inductive Files.IsNoFile (p : Path) : Failure → Prop
  | missing : IsNoFile p (.missingFile p.text)
  | blocked : IsNoFile p (.notADirectory p.text)
  | tooLong : IsNoFile p (.nameTooLong p.text)
  | directory : IsNoFile p (.directoryAsFile p.text)

theorem Files.IsNoFile.isUserLevel_eq {p : Path} {f : Failure} (h : IsNoFile p f) :
  f.kind.isUserLevel = false
  := by
  cases h <;> rfl

/-- A path that is no path at all is the user's to mend, a file that is not there is not. -/
theorem Files.cases_of_read {fs : Files} {p : Path} {f : Failure} (h : fs.read p = .error f) :
  f.kind.isUserLevel = true ∨ IsNoFile p f
  := by
  obtain hpath | ⟨⟨⟩, -, hplace⟩ := bind_eq_error_iff.mp h
  · left
    unfold checkPath at hpath
    split at hpath
    · next fault hfault =>
      obtain rfl := Except.error.inj hpath
      unfold pathFault? at hfault
      split at hfault
      · obtain rfl := Option.some.inj hfault
        rfl
      · split at hfault
        · obtain rfl := Option.some.inj hfault
          rfl
        · cases hfault
    · cases hpath
  · right
    split at hplace
    · split at hplace
      · cases hplace
      · obtain rfl := Except.error.inj hplace
        exact .missing
    · obtain rfl := Except.error.inj hplace
      exact .blocked
    · obtain rfl := Except.error.inj hplace
      exact .tooLong
    · obtain rfl := Except.error.inj hplace
      exact .directory
    · cases hplace

theorem IsRefusal.isUserLevel_eq {v : Value} {f : Failure} (h : IsRefusal v f) :
  f.kind.isUserLevel = true
  := by
  obtain h | ⟨-, rfl⟩ := h
  · rw [h]
    rfl
  · rfl

namespace Catalogue

/-- Bytes that are no text or no document are the user's to mend. -/
theorem cases_of_parse {p : Path} {bytes : List UInt8} {f : Failure}
    (h : parse p bytes = .error f) :
  f.kind.isUserLevel = true ∨ ∃ kind text, f = .badScalar kind text
  := by
  rw [parse] at h
  rcases hread : Yaml.read (.ofBytes bytes) with fault | v
  · rw [hread] at h
    obtain rfl := Except.error.inj h
    cases fault with
    | malformed => exact .inl rfl
    | ended => exact .inl rfl
    | undecodable fault => exact .inl rfl
    | badScalar kind text => exact .inr ⟨kind, text, rfl⟩
  · rw [hread] at h
    cases h

/-- A catalogue cannot be read: there is no file, or a plain value in it is not what its tag says and
that is not the user's to mend. -/
inductive IsUnread (path : String) (s : Session) : Failure → Prop
  | noFile {f : Failure} (read_eq : s.files.read (.ofString path) = .error f)
      (isNoFile : Files.IsNoFile (.ofString path) f) : IsUnread path s f
  | badScalar {bytes : List UInt8} {kind : Kind} {text : String}
      (read_eq : s.files.read (.ofString path) = .ok bytes)
      (parse_eq : parse (.ofString path) bytes = .error (.badScalar kind text))
      (kind_eq : kind.isUserLevel = false) : IsUnread path s (.badScalar kind text)

theorem isUnread_iff {path : String} {s : Session} {f : Failure} :
  IsUnread path s f ↔ (load path s).1 = .error f ∧ f.kind.isUserLevel = false
  := by
  rw [load_fst_eq_bind]
  constructor
  · intro h
    cases h with
    | noFile hread hfile =>
      rw [hread]
      exact ⟨rfl, hfile.isUserLevel_eq⟩
    | badScalar hread hparse hkind =>
      rw [hread]
      dsimp only [bind, Except.bind]
      rw [hparse]
      exact ⟨rfl, hkind⟩
  · rintro ⟨hload, hkind⟩
    have hnot : ¬ f.kind.isUserLevel = true := by simp [hkind]
    obtain hread | ⟨bytes, hread, hload⟩ := bind_eq_error_iff.mp hload
    · exact .noFile hread ((Files.cases_of_read hread).resolve_left hnot)
    obtain hparse | ⟨v, -, hload⟩ := bind_eq_error_iff.mp hload
    · obtain ⟨kind, text, rfl⟩ := (cases_of_parse hparse).resolve_left hnot
      exact .badScalar hread hparse hkind
    · exact absurd (isRefusal_of_result_entries hload).isUserLevel_eq hnot

end Catalogue

namespace CommandLine

/-! ### Entries of a command -/

/-- The catalogue of a command. -/
def Command.catalogue : Command → String
  | .info catalogue _ => catalogue
  | .extract catalogue _ _ _ _ => catalogue
  | .plot catalogue _ _ => catalogue

/-- The id of the only dataset that a command is about, if it is not about all. -/
def Command.only : Command → Option Argument
  | .info _ only => only
  | .extract _ id _ _ _ => some id
  | .plot _ id _ => some id

/-- The entries that a command is about. -/
def chosen (s : Session) (command : Command) : Except Failure (List DatasetEntry) :=
  (Catalogue.load command.catalogue s).1 >>= selected command.catalogue command.only

/-- A command loads a dataset from one of its entries. -/
def Loads (s : Session) (command : Command) (e : DatasetEntry) (d : Dataset) : Prop :=
  ∃ es, chosen s command = .ok es ∧ e ∈ es ∧ (e.build .fromFiles s).1 = .ok d

/-- A dataset that a command is about fails to load. -/
def Skips (s : Session) (command : Command) : Prop :=
  ∃ es, chosen s command = .ok es ∧ ∃ e ∈ es, ∃ f, (e.build .fromFiles s).1 = .error f

variable {s : Session} {command : Command} {es : List DatasetEntry}

theorem loads_iff (h : chosen s command = .ok es) {e : DatasetEntry} {d : Dataset} :
  Loads s command e d ↔ e ∈ es ∧ (e.build .fromFiles s).1 = .ok d
  := by
  simp [Loads, h]

/-- Of one entry at most one dataset is loaded. -/
theorem exists_loads_iff {e : DatasetEntry} (h : chosen s command = .ok [e]) {p : Dataset → Prop} :
  (∃ e' d, Loads s command e' d ∧ p d) ↔ ∃ d, (e.build .fromFiles s).1 = .ok d ∧ p d
  := by
  simp only [loads_iff h, List.mem_singleton]
  constructor
  · rintro ⟨_, d, ⟨rfl, hd⟩, hp⟩
    exact ⟨d, hd, hp⟩
  · rintro ⟨d, hd, hp⟩
    exact ⟨e, d, ⟨rfl, hd⟩, hp⟩

/-- A dataset that is loaded joins its children. -/
theorem Loads.joins {e : DatasetEntry} {d : Dataset} (h : Loads s command e d) :
  ∃ blocks, d.Joins d.children blocks
  := by
  obtain ⟨es, -, -, hbuild⟩ := h
  have hbuilds : e.Builds .fromFiles d := ⟨s, hbuild⟩
  exact hbuilds.joins.2

/-- Children without names, or with texts as names, are called by texts. -/
theorem Loads.areTexts {e : DatasetEntry} {d : Dataset} (h : Loads s command e d)
    (hnames : ∀ c ∈ e.children, c.name = .null ∨ ∃ t, c.name = .text t) :
  AxisUnion.AreTexts (d.children.map Child.label)
  := by
  obtain ⟨es, -, -, hbuild⟩ := h
  intro label hlabel
  obtain ⟨child, hchild, rfl⟩ := List.mem_map.mp hlabel
  obtain ⟨c, hc, location, grid, handle, -, hmade⟩ :=
    DatasetEntry.exists_grid_of_build hbuild hchild
  rw [Child.label_of_ofGrid hmade]
  rcases hnames c hc with hname | ⟨t, hname⟩
  · exact ⟨location, by rw [hname]; rfl⟩
  · exact ⟨t, by rw [hname]; rfl⟩

theorem loadCatalogue_fst_of_chosen_eq_error {f : Failure} (h : chosen s command = .error f) :
  (loadCatalogue command.catalogue command.only s).1 = .error f
  := by
  simp only [loadCatalogue, Action.bind_fst, Action.liftM_apply]
  obtain h | ⟨es, hes, h⟩ := bind_eq_error_iff.mp h
  · rw [h]
    rfl
  · rw [hes]
    dsimp only [bind, Except.bind]
    rw [h]

/-- The chosen entries have ids of their own, and they are loaded while the files stay the same. -/
theorem loadCatalogue_fst_of_chosen_eq_ok (h : chosen s command = .ok es) :
  (es.map DatasetEntry.id).Nodup ∧ ∃ s', s'.files = s.files
    ∧ (loadCatalogue command.catalogue command.only s).1 = (loadEntries es s').1
  := by
  obtain ⟨all, hall, hselected⟩ := bind_eq_ok_iff.mp h
  have hids := Catalogue.nodup_ids_of_load (Prod.ext hall rfl)
  constructor
  · unfold selected at hselected
    split at hselected
    · obtain rfl := Except.ok.inj hselected
      exact hids
    · split at hselected
      · cases hselected
      · obtain rfl := Except.ok.inj hselected
        exact hids.sublist (List.filter_sublist.map _)
  · use (Catalogue.load command.catalogue s).2, Catalogue.files_load command.catalogue s
    simp only [loadCatalogue, Action.bind_fst, Action.liftM_apply]
    rw [hall]
    dsimp only [bind, Except.bind]
    rw [hselected]

/-- Of the failures to choose entries just those to read the catalogue are not the user's to mend. -/
theorem isUnread_iff_chosen {f : Failure} :
  Catalogue.IsUnread command.catalogue s f
    ↔ chosen s command = .error f ∧ f.kind.isUserLevel = false
  := by
  rw [Catalogue.isUnread_iff]
  constructor
  · rintro ⟨hload, hkind⟩
    rw [chosen, hload]
    exact ⟨rfl, hkind⟩
  · rintro ⟨hchosen, hkind⟩
    obtain hload | ⟨es, -, hselected⟩ := bind_eq_error_iff.mp hchosen
    · exact ⟨hload, hkind⟩
    · unfold selected at hselected
      split at hselected
      · cases hselected
      · split at hselected
        · obtain rfl := Except.error.inj hselected
          cases hkind
        · cases hselected

/-! ### Loads -/

/-- A registry has the datasets of entries that can be built; the other entries are failures. -/
structure HasLoaded (s : Session) (es : List DatasetEntry) (r : Registry)
    (failures : List (String × Failure)) : Prop where
  isEmpty_iff : failures.isEmpty ↔ ∀ e ∈ es, ∃ d, (e.build .fromFiles s).1 = .ok d
  of_lookup : ∀ id p, r.datasets.lookup id = some p →
    ∃ e ∈ es, e.id = id ∧ ∃ d, (e.build .fromFiles s).1 = .ok d ∧ p.dataset.detached = d.detached
  exists_lookup : ∀ e ∈ es, ∀ d, (e.build .fromFiles s).1 = .ok d →
    ∃ p, r.datasets.lookup e.id = some p ∧ p.dataset.detached = d.detached

/-- A dataset fails to load exactly if there are failures. -/
theorem HasLoaded.skips_iff {r : Registry} {failures : List (String × Failure)}
    (h : HasLoaded s es r failures) (hchosen : chosen s command = .ok es) :
  Skips s command ↔ ¬ failures.isEmpty
  := by
  simp only [h.isEmpty_iff, Skips, hchosen, Except.ok.injEq, exists_eq_left', not_forall]
  constructor
  · rintro ⟨e, he, f, hf⟩
    refine ⟨e, he, ?_⟩
    rintro ⟨d, hd⟩
    cases hf.symm.trans hd
  · rintro ⟨e, he, hnone⟩
    refine ⟨e, he, ?_⟩
    rcases hbuild : (e.build .fromFiles s).1 with f | d
    · exact ⟨f, rfl⟩
    · exact absurd ⟨d, hbuild⟩ hnone

/-- The chosen entries are loaded as each would be alone. -/
theorem exists_hasLoaded (h : chosen s command = .ok es) :
  ∃ r failures, (loadCatalogue command.catalogue command.only s).1 = .ok (r, failures)
    ∧ HasLoaded s es r failures
  := by
  obtain ⟨hids, s', hfiles, hload⟩ := loadCatalogue_fst_of_chosen_eq_ok h
  have hsteady := isSteady_fromFiles s.files
  obtain ⟨hothers, hloaded⟩ := Service.isLoaded_loadAll (s := ⟨.empty, s'⟩) hsteady hids hfiles []
    fun _ _ => rfl
  have hbuild : ∀ e : DatasetEntry,
      (Service.load .fromFiles e ⟨.empty, s'⟩).1.map Dataset.detached
        = (e.build .fromFiles s).1.map Dataset.detached := by
    intro e
    rw [Service.load_fst]
    exact DatasetEntry.map_build_eq hsteady e rfl hfiles
  refine ⟨_, _, hload, ?_, ?_, ?_⟩
  · rw [isEmpty_iff_lookup]
    constructor
    · intro hnone e he
      cases hloaded e he with
      | failed hload hfailure => cases hfailure.symm.trans (hnone e.id)
      | published hload =>
        have heq := hbuild e
        rw [hload] at heq
        obtain ⟨d, hd, -⟩ := map_eq_ok_iff.mp heq.symm
        exact ⟨d, hd⟩
    · intro hall id
      by_cases hid : id ∈ es.map DatasetEntry.id
      · obtain ⟨e, he, rfl⟩ := List.mem_map.mp hid
        cases hloaded e he with
        | failed hload =>
          have heq := hbuild e
          obtain ⟨d, hd⟩ := hall e he
          rw [hload, hd] at heq
          cases heq
        | published hload hfailure => exact hfailure
      · exact (hothers id hid).1
  · intro id p hp
    by_cases hid : id ∈ es.map DatasetEntry.id
    · obtain ⟨e, he, rfl⟩ := List.mem_map.mp hid
      cases hloaded e he with
      | failed hload hfailure hagrees =>
        rw [hagrees.dataset_eq] at hp
        cases hp
      | published hload hfailure hdataset hentry hle hdetached =>
        obtain rfl := Option.some.inj (hp.symm.trans hdataset)
        have heq := hbuild e
        rw [hload] at heq
        obtain ⟨d, hd, hsame⟩ := map_eq_ok_iff.mp heq.symm
        exact ⟨e, he, rfl, d, hd, hdetached.trans hsame.symm⟩
    · rw [(hothers id hid).2.dataset_eq] at hp
      cases hp
  · intro e he d hd
    have heq := hbuild e
    rw [hd] at heq
    cases hloaded e he with
    | failed hload =>
      rw [hload] at heq
      cases heq
    | published hload hfailure hdataset hentry hle hdetached =>
      rw [hload] at heq
      exact ⟨_, hdataset, hdetached.trans (Except.ok.inj heq)⟩

end CommandLine

end GridUnion
