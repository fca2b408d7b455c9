import GridUnion.Proofs.Registry.Outcomes

/-!
# Several loads

When several entries are loaded, each is loaded as if it were alone: what is left under its id, and
whether it is among the failures, depends neither on the other entries nor on their order.
-/

namespace GridUnion

/-- Two registries hold the same under an id: a dataset, which is the very same, and its entry. -/
structure Registry.AgreesAt (r : Registry) (id : String) (r' : Registry) : Prop where
  dataset_eq : r'.datasets.lookup id = r.datasets.lookup id
  entry_eq : r'.entries.lookup id = r.entries.lookup id

theorem Registry.AgreesAt.trans {r r' r'' : Registry} {id : String} (h : r.AgreesAt id r')
    (h' : r'.AgreesAt id r'') :
  r.AgreesAt id r''
  := ⟨h'.dataset_eq.trans h.dataset_eq, h'.entry_eq.trans h.entry_eq⟩

namespace Service

variable {opener : Opener} {allowed : Files → Prop} {e e' : DatasetEntry} {es es' : List DatasetEntry}
  {s s' : Service} {failures : List (String × Failure)}

/-! ### One load -/

/-- With a steady opener a load gives what it gives in any other service. -/
theorem map_load_eq (h : opener.IsSteady allowed) (e : DatasetEntry)
    (hs : allowed s.session.files) (hs' : allowed s'.session.files) :
  (s'.load opener e).1.map Dataset.detached = (s.load opener e).1.map Dataset.detached
  := by
  rw [load_fst, load_fst, DatasetEntry.map_build_eq h e hs hs']

theorem allowed_load (h : opener.IsSteady allowed) (e : DatasetEntry)
    (hs : allowed s.session.files) :
  allowed (s.load opener e).2.session.files
  := by
  have hfiles := DatasetEntry.allowed_build h e hs
  obtain ⟨f, session, hbuild, hload⟩ | ⟨d, session, text, hbuild, hload⟩ := load_cases opener e s
  · rw [hbuild] at hfiles
    rwa [hload]
  · rw [hbuild] at hfiles
    rwa [hload]

/-- What is left after an entry was loaded, perhaps among others: its failure and what was published
before, or a dataset like the one that it gives by itself. -/
inductive IsLoaded (opener : Opener) (e : DatasetEntry) (s : Service)
    (failures : List (String × Failure)) (s' : Service) : Prop
  | failed {f : Failure} (load_eq : (s.load opener e).1 = .error f)
      (failure_eq : failures.lookup e.id = some f) (agrees : s.registry.AgreesAt e.id s'.registry)
  | published {d : Dataset} {p : Published} (load_eq : (s.load opener e).1 = .ok d)
      (failure_eq : failures.lookup e.id = none)
      (dataset_eq : s'.registry.datasets.lookup e.id = some p)
      (entry_eq : s'.registry.entries.lookup e.id = some e)
      (editions_le : s.registry.editions ≤ p.edition)
      (detached_eq : p.dataset.detached = d.detached)

/-- What happens under other ids afterwards does not matter. -/
theorem IsLoaded.later {failures' : List (String × Failure)} {s'' : Service}
    (h : IsLoaded opener e s failures s') (hfailures : failures'.lookup e.id = failures.lookup e.id)
    (hagrees : s'.registry.AgreesAt e.id s''.registry) :
  IsLoaded opener e s failures' s''
  := by
  cases h with
  | failed hload hfailure hkept =>
    exact .failed hload (hfailures.trans hfailure) (hkept.trans hagrees)
  | published hload hfailure hdataset hentry hle hdetached =>
    exact .published hload (hfailures.trans hfailure) (hagrees.dataset_eq.trans hdataset)
      (hagrees.entry_eq.trans hentry) hle hdetached

/-- What happened under other ids before does not matter. -/
theorem IsLoaded.earlier {s₁ : Service} (h : IsLoaded opener e s₁ failures s')
    (hsteady : opener.IsSteady allowed) (hs : allowed s.session.files)
    (hs₁ : allowed s₁.session.files) (hagrees : s.registry.AgreesAt e.id s₁.registry)
    (hle : s.registry.editions ≤ s₁.registry.editions) :
  IsLoaded opener e s failures s'
  := by
  have hload := map_load_eq hsteady e hs hs₁
  cases h with
  | failed hload₁ hfailure hkept =>
    rw [hload₁] at hload
    exact .failed (error_of_map_eq_error hload.symm) hfailure (hagrees.trans hkept)
  | published hload₁ hfailure hdataset hentry hle₁ hdetached =>
    rw [hload₁] at hload
    obtain ⟨d, hd, hsame⟩ := map_eq_ok_iff.mp hload.symm
    exact .published hd hfailure hdataset hentry (hle.trans hle₁) (hdetached.trans hsame.symm)

/-- The first of several loads: what it leaves, and that it leaves the rest alone. -/
theorem loadAll_cons (h : opener.IsSteady allowed) (e : DatasetEntry) (es : List DatasetEntry)
    (hs : allowed s.session.files) (hnew : failures.lookup e.id = none) :
  ∃ failures₁ s₁, s.loadAll opener (e :: es) failures = s₁.loadAll opener es failures₁
    ∧ IsLoaded opener e s failures₁ s₁ ∧ allowed s₁.session.files
    ∧ s.registry.editions ≤ s₁.registry.editions
    ∧ ∀ id ≠ e.id, failures₁.lookup id = failures.lookup id ∧ s.registry.AgreesAt id s₁.registry
  := by
  have hfiles := allowed_load h e hs
  obtain ⟨f, session, -, hload⟩ | ⟨d, session, text, -, hload⟩ := load_cases opener e s
  · rw [hload] at hfiles
    use Registry.put e.id f failures,
      noted .error ("Failed to load dataset " ++ e.id) ⟨s.registry, session⟩
    refine ⟨by rw [loadAll, hload], ?_, hfiles, le_rfl, ?_⟩
    · exact .failed (by rw [hload]) (by rw [Registry.lookup_put, if_pos rfl]) ⟨rfl, rfl⟩
    · intro id hid
      exact ⟨by rw [Registry.lookup_put, if_neg hid], rfl, rfl⟩
  · rw [hload] at hfiles
    use failures, noted .info text ⟨s.registry.publish e d, session⟩
    refine ⟨by rw [loadAll, hload], ?_, hfiles, Nat.le_succ _, ?_⟩
    · exact .published (p := ⟨s.registry.editions, d⟩) (by rw [hload]) hnew
        (by simp [noted, Registry.publish, Registry.lookup_put])
        (by simp [noted, Registry.publish, Registry.lookup_put]) le_rfl rfl
    · intro id hid
      refine ⟨rfl, ?_, ?_⟩
      · simp [noted, Registry.publish, Registry.lookup_put, hid]
      · simp [noted, Registry.publish, Registry.lookup_put, hid]

/-! ### Several loads -/

/-- Under ids that are not listed nothing changes, and each listed entry is loaded as if it were
alone. -/
theorem isLoaded_loadAll (h : opener.IsSteady allowed) (hids : (es.map DatasetEntry.id).Nodup)
    (hs : allowed s.session.files) (failures : List (String × Failure))
    (hnew : ∀ e ∈ es, failures.lookup e.id = none) :
  (∀ id ∉ es.map DatasetEntry.id,
      (s.loadAll opener es failures).1.lookup id = failures.lookup id
        ∧ s.registry.AgreesAt id (s.loadAll opener es failures).2.registry)
    ∧ ∀ e ∈ es, IsLoaded opener e s (s.loadAll opener es failures).1
      (s.loadAll opener es failures).2
  := by
  induction es generalizing s failures with
  | nil => exact ⟨fun id _ => ⟨rfl, rfl, rfl⟩, fun e he => nomatch he⟩
  | cons e es ih =>
    obtain ⟨hnot, hids⟩ := List.nodup_cons.mp hids
    obtain ⟨hnewe, hnewes⟩ := List.forall_mem_cons.mp hnew
    obtain ⟨failures₁, s₁, heq, hloaded, hs₁, hle, hothers⟩ := loadAll_cons h e es hs hnewe
    have hne : ∀ e' ∈ es, e'.id ≠ e.id := by
      intro e' he' hid
      exact hnot (hid ▸ List.mem_map_of_mem he')
    obtain ⟨hrest, hlater⟩ := ih hids hs₁ failures₁ fun e' he' => by
      rw [(hothers _ (hne e' he')).1, hnewes e' he']
    rw [heq]
    constructor
    · intro id hid
      obtain ⟨hide, hides⟩ := not_or.mp (List.mem_cons.not.mp hid)
      obtain ⟨hfailures, hagrees⟩ := hothers id hide
      obtain ⟨hfailures', hagrees'⟩ := hrest id hides
      exact ⟨hfailures'.trans hfailures, hagrees.trans hagrees'⟩
    · refine List.forall_mem_cons.mpr ⟨?_, ?_⟩
      · obtain ⟨hfailures, hagrees⟩ := hrest e.id hnot
        exact hloaded.later hfailures hagrees
      · intro e' he'
        exact (hlater e' he').earlier h hs hs₁ (hothers _ (hne e' he')).2 hle

/-- Two services hold the same under an id, but for the origins of children. -/
structure HoldsAlike (id : String) (s s' : Service) : Prop where
  entry_eq : s'.registry.entries.lookup id = s.registry.entries.lookup id
  detached_eq : (s'.registry.datasets.lookup id).map (fun p => p.dataset.detached)
    = (s.registry.datasets.lookup id).map fun p => p.dataset.detached

theorem HoldsAlike.rel [Machine] {id : String} (h : HoldsAlike id s s') :
  Option.Rel (fun p p' => p.dataset.SameContents p'.dataset
      ∧ p'.dataset.warnings = p.dataset.warnings)
    (s.registry.datasets.lookup id) (s'.registry.datasets.lookup id)
  := by
  have hdetached := h.detached_eq
  rcases hp : s.registry.datasets.lookup id with _ | p
  · rw [hp, Option.map_none, Option.map_eq_none_iff] at hdetached
    rw [hdetached]
    exact .none
  · rw [hp, Option.map_some, Option.map_eq_some_iff] at hdetached
    obtain ⟨p', hp', heq⟩ := hdetached
    rw [hp']
    have hwarnings := congrArg Dataset.warnings heq
    apply Option.Rel.some
    use Dataset.sameContents_of_contents_eq (by rw [Dataset.contents, Dataset.contents, heq])
    exact hwarnings

/-- If an entry is loaded twice from the same service, among whatever others, both times the same is
left. -/
theorem IsLoaded.alike {failures' : List (String × Failure)} {s'' : Service}
    (h : IsLoaded opener e s failures s') (h' : IsLoaded opener e s failures' s'') :
  failures'.lookup e.id = failures.lookup e.id ∧ HoldsAlike e.id s' s''
  := by
  cases h with
  | failed hload hfailure hkept =>
    cases h' with
    | failed hload' hfailure' hkept' =>
      obtain rfl := Except.error.inj (hload.symm.trans hload')
      refine ⟨hfailure'.trans hfailure.symm, ?_, ?_⟩
      · rw [hkept.entry_eq, hkept'.entry_eq]
      · rw [hkept.dataset_eq, hkept'.dataset_eq]
    | published hload' => cases hload.symm.trans hload'
  | published hload hfailure hdataset hentry hle hdetached =>
    cases h' with
    | failed hload' => cases hload.symm.trans hload'
    | published hload' hfailure' hdataset' hentry' hle' hdetached' =>
      obtain rfl := Except.ok.inj (hload.symm.trans hload')
      refine ⟨hfailure'.trans hfailure.symm, hentry'.trans hentry.symm, ?_⟩
      rw [hdataset, hdataset', Option.map_some, Option.map_some, hdetached, hdetached']

/-- Several entries are loaded as each would be alone, in whatever order: the same ones fail, with the
same failures and what was published under their ids before, and the others are published with the
same contents. -/
theorem loadAll_perm [Machine] (h : opener.IsSteady allowed) (hids : (es.map DatasetEntry.id).Nodup)
    (hperm : es.Perm es') (hs : allowed s.session.files) :
  let (failures, s₁) := s.loadAll opener es []
  let (failures', s₂) := s.loadAll opener es' []
  (∀ e ∈ es, IsLoaded opener e s failures s₁)
    ∧ (∀ id ∉ es.map DatasetEntry.id,
      failures.lookup id = none ∧ s.registry.AgreesAt id s₁.registry)
    ∧ ∀ id, failures'.lookup id = failures.lookup id
      ∧ s₂.registry.entries.lookup id = s₁.registry.entries.lookup id
      ∧ Option.Rel (fun p p' => p.dataset.SameContents p'.dataset
          ∧ p'.dataset.warnings = p.dataset.warnings)
        (s₁.registry.datasets.lookup id) (s₂.registry.datasets.lookup id)
  := by
  have hids' : (es'.map DatasetEntry.id).Nodup := (hperm.map _).nodup_iff.mp hids
  obtain ⟨hothers, hloaded⟩ := isLoaded_loadAll h hids hs [] fun _ _ => rfl
  obtain ⟨hothers', hloaded'⟩ := isLoaded_loadAll h hids' hs [] fun _ _ => rfl
  refine ⟨hloaded, hothers, ?_⟩
  intro id
  suffices halike : _ ∧ HoldsAlike id (s.loadAll opener es []).2 (s.loadAll opener es' []).2 from
    ⟨halike.1, halike.2.entry_eq, halike.2.rel⟩
  by_cases hid : id ∈ es.map DatasetEntry.id
  · obtain ⟨e, he, rfl⟩ := List.mem_map.mp hid
    exact (hloaded e he).alike (hloaded' e (hperm.mem_iff.mp he))
  · have hid' : id ∉ es'.map DatasetEntry.id := fun hmem => hid ((hperm.map _).mem_iff.mpr hmem)
    obtain ⟨hfailures, hagrees⟩ := hothers id hid
    obtain ⟨hfailures', hagrees'⟩ := hothers' id hid'
    refine ⟨hfailures'.trans hfailures.symm, ?_, ?_⟩
    · rw [hagrees.entry_eq, hagrees'.entry_eq]
    · rw [hagrees.dataset_eq, hagrees'.dataset_eq]

/-- One of two entries takes the place of a published one, the other fails; in both orders. -/
theorem loadAll_perm_lines :
  let s := (Service.load .lines (.ofPaths "d" ["u"]) ⟨.empty, default⟩).2
  let es : List DatasetEntry := [.ofPaths "d" ["v", "", "w"], .ofPaths "e" [""]]
  (es.map DatasetEntry.id).Nodup
    ∧ (∀ e ∈ es, IsLoaded .lines e s (s.loadAll .lines es []).1 (s.loadAll .lines es []).2)
    ∧ Option.Rel (fun p p' => p.dataset.SameContents p'.dataset
          ∧ p'.dataset.warnings = p.dataset.warnings)
        ((s.loadAll .lines es []).2.registry.datasets.lookup "d")
        ((s.loadAll .lines es.reverse []).2.registry.datasets.lookup "d")
  := by
  intro s es
  have hids : (es.map DatasetEntry.id).Nodup := by decide +kernel
  obtain ⟨hloaded, -, halike⟩ := loadAll_perm (s := s) isSteady_lines hids
    es.reverse_perm.symm trivial
  exact ⟨hids, hloaded, (halike "d").2.2⟩

end Service

end GridUnion
