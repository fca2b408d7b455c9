import GridUnion.Proofs.Registry.Consistent

/-!
# Atomic tasks

A task either succeeds and changes the tables under its own ids only, or leaves them as they were.
-/

namespace GridUnion

namespace Service

/-- Between two services the tables differ at most under the ids of the events. -/
def Frames (events : List Event) (s s' : Service) : Prop :=
  ∀ id, (∀ ev ∈ events, ev.id? ≠ some id) →
    s'.registry.datasets.lookup id = s.registry.datasets.lookup id
      ∧ s'.registry.entries.lookup id = s.registry.entries.lookup id

variable {opener : Opener} {e : DatasetEntry} {s : Service} {events : List Event}

theorem frames_of_eq {s' : Service} (h : s'.registry = s.registry) :
  Frames events s s'
  := by
  intro id _
  rw [h]
  exact ⟨rfl, rfl⟩

theorem Frames.append {events' : List Event} {s' s'' : Service} (h : Frames events s s')
    (h' : Frames events' s' s'') :
  Frames (events ++ events') s s''
  := by
  intro id hid
  obtain ⟨hdatasets, hentries⟩ := h id fun ev hev => hid ev (List.mem_append_left events' hev)
  obtain ⟨hdatasets', hentries'⟩ := h' id fun ev hev => hid ev (List.mem_append_right events hev)
  exact ⟨hdatasets'.trans hdatasets, hentries'.trans hentries⟩

theorem frames_publish {d : Dataset} {ev : Event} (hev : ev.id? = some e.id) {s' : Service}
    (h : s'.registry = s.registry.publish e d) :
  Frames [ev] s s'
  := by
  intro id hid
  have hne : id ≠ e.id := by
    rintro rfl
    exact hid ev List.mem_cons_self hev
  rw [h, Registry.publish, Registry.lookup_put, Registry.lookup_put, if_neg hne, if_neg hne]
  exact ⟨rfl, rfl⟩

theorem frames_load (opener : Opener) (e : DatasetEntry) (s : Service) :
  Frames (s.loadEvents opener e) s (s.load opener e).2
  := by
  obtain ⟨f, s', -, hload⟩ | ⟨d, s', text, -, hload⟩ := load_cases opener e s
  · apply frames_of_eq
    rw [hload]
  · rw [loadEvents, hload]
    exact frames_publish rfl rfl

theorem frames_loadNoted (opener : Opener) (e : DatasetEntry) (s : Service) :
  Frames (s.loadEvents opener e) s (s.loadNoted opener e)
  := by
  have hload := frames_load opener e s
  unfold loadNoted
  split
  · next h =>
    rw [h] at hload
    exact hload
  · next h =>
    rw [h] at hload
    exact hload

theorem frames_loadAll (opener : Opener) (es : List DatasetEntry) (s : Service) :
  Frames (s.loadAllEvents opener es) s (s.loadAll opener es []).2
  := by
  rw [loadAll_eq_foldl]
  induction es generalizing s with
  | nil => exact frames_of_eq rfl
  | cons e es ih => exact (frames_loadNoted opener e s).append (ih (s.loadNoted opener e))

/-- A reload changes no other id if every dataset is kept under the id of its entry. -/
theorem frames_reload {openers : List Opener} {l : Ledger} (h : s.registry.Consistent openers l)
    (opener : Opener) (id : Value) :
  Frames (s.reloadEvents opener id) s (s.reload opener id).2
  := by
  obtain ⟨f, hreload, -⟩ | ⟨k, e, rfl, he, hreload⟩ := reload_cases opener id s
  · apply frames_of_eq
    rw [hreload]
  · obtain ⟨rfl, -⟩ := h.exists_dataset he
    rw [reloadEvents, hreload, Registry.lookUp_text, he]
    obtain ⟨f, s', -, hload⟩ | ⟨d, s', text, -, hload⟩ := load_cases opener e s
    · apply frames_of_eq
      rw [hload]
    · rw [hload, Value.formatted_text]
      exact frames_publish rfl rfl

theorem frames_remove (id : Value) (s : Service) :
  Frames (s.removeEvents id) s (s.remove id).2
  := by
  obtain ⟨f, hremove⟩ | ⟨k, p, text, rfl, -, hremove⟩ := remove_cases id s
  · apply frames_of_eq
    rw [hremove]
  · rw [removeEvents, hremove, Value.formatted_text]
    intro k' hk'
    have hne : k' ≠ k := by
      rintro rfl
      exact hk' _ List.mem_cons_self rfl
    simp only [noted, Registry.erase, Registry.lookup_filter, if_neg hne]
    exact ⟨trivial, trivial⟩

/-! ### Own ids -/

theorem id?_eq_none_of_mem_abandoned {ev : Event} (h : ev ∈ s.abandoned opener e) :
  ev.id? = none
  := by
  unfold abandoned at h
  split at h
  · obtain rfl := List.mem_singleton.mp h
    rfl
  · cases h

theorem eq_of_mem_loadEvents {ev : Event} {id : String} (h : ev ∈ s.loadEvents opener e)
    (hid : ev.id? = some id) :
  id = e.id
  := by
  unfold loadEvents at h
  split at h
  · obtain rfl := List.mem_singleton.mp h
    exact (Option.some.inj hid).symm
  · rw [id?_eq_none_of_mem_abandoned h] at hid
    cases hid

theorem exists_entry_of_mem_loadAllEvents {ev : Event} {id : String} {es : List DatasetEntry}
    (h : ev ∈ s.loadAllEvents opener es) (hid : ev.id? = some id) :
  ∃ e ∈ es, e.id = id
  := by
  induction es generalizing s with
  | nil => cases h
  | cons e es ih =>
    rcases List.mem_append.mp h with h | h
    · use e, List.mem_cons_self, (eq_of_mem_loadEvents h hid).symm
    · obtain ⟨e', he', hid'⟩ := ih h
      use e', List.mem_cons_of_mem e he', hid'

end Service

/-- A task that fails leaves the tables as they were; otherwise they only change under the ids of
what was loaded, reloaded or removed, which are ids of the task. -/
structure Task.Atomic (t : Task) (s : Service) : Prop where
  registry_eq : ∀ f, (t.perform s).1 = .error f → (t.perform s).2.registry = s.registry
  mem_ids : ∀ ev ∈ t.events s, ∀ id, ev.id? = some id → .text id ∈ t.ids
  frames : Service.Frames (t.events s) s (t.perform s).2

namespace Service

variable {s : Service} {openers : List Opener} {l : Ledger}

theorem atomic_load (opener : Opener) (e : DatasetEntry) (s : Service) :
  (Task.load opener e).Atomic s
  := by
  constructor
  · intro f hf
    obtain ⟨f', s', -, hload⟩ | ⟨d, s', text, -, hload⟩ := load_cases opener e s
    · rw [Task.perform, hload]
    · rw [Task.perform, hload] at hf
      cases hf
  · intro ev hev id hid
    rw [eq_of_mem_loadEvents hev hid]
    exact List.mem_singleton.mpr rfl
  · exact frames_load opener e s

theorem atomic_loadAll (opener : Opener) (es : List DatasetEntry) (s : Service) :
  (Task.loadAll opener es).Atomic s
  := by
  constructor
  · intro f hf
    cases hf
  · intro ev hev id hid
    obtain ⟨e, he, rfl⟩ := exists_entry_of_mem_loadAllEvents hev hid
    exact List.mem_map_of_mem he
  · exact frames_loadAll opener es s

theorem atomic_reload (hs : s.registry.Consistent openers l) (opener : Opener) (id : Value) :
  (Task.reload opener id).Atomic s
  := by
  constructor
  · intro f hf
    obtain ⟨f', hreload, -⟩ | ⟨k, e, rfl, -, hreload⟩ := reload_cases opener id s
    · rw [Task.perform, hreload]
    · rw [Task.perform, hreload] at hf ⊢
      exact (atomic_load opener e s).registry_eq f hf
  · intro ev hev k hk
    obtain ⟨f, -, hevents⟩ | ⟨k', e, rfl, he, hreload⟩ := reload_cases opener id s
    · rw [Task.events, hevents] at hev
      cases hev
    · rw [Task.events, reloadEvents, hreload, Registry.lookUp_text, he] at hev
      rcases hload : (s.load opener e).1 with f | d
      · rw [hload] at hev
        rw [id?_eq_none_of_mem_abandoned hev] at hk
        cases hk
      · rw [hload, Value.formatted_text] at hev
        obtain rfl := List.mem_singleton.mp hev
        obtain rfl := Option.some.inj hk
        exact List.mem_singleton.mpr rfl
  · exact frames_reload hs opener id

theorem atomic_remove (id : Value) (s : Service) :
  (Task.remove id).Atomic s
  := by
  constructor
  · intro f hf
    obtain ⟨f', hremove⟩ | ⟨k, p, text, rfl, -, hremove⟩ := remove_cases id s
    · rw [Task.perform, hremove]
    · rw [Task.perform, hremove] at hf
      cases hf
  · intro ev hev k hk
    obtain ⟨f', hremove⟩ | ⟨k', p, text, rfl, -, hremove⟩ := remove_cases id s
    · rw [Task.events, removeEvents, hremove] at hev
      cases hev
    · rw [Task.events, removeEvents, hremove, Value.formatted_text] at hev
      obtain rfl := List.mem_singleton.mp hev
      obtain rfl := Option.some.inj hk
      exact List.mem_singleton.mpr rfl
  · exact frames_remove id s

theorem atomic_of_consistent (hs : s.registry.Consistent openers l) (t : Task) :
  t.Atomic s
  := by
  cases t with
  | load opener e => exact atomic_load opener e s
  | loadAll opener es => exact atomic_loadAll opener es s
  | reload opener id => exact atomic_reload hs opener id
  | remove id => exact atomic_remove id s
  | get id =>
    constructor
    · intro f hf
      rfl
    · intro ev hev
      cases hev
    · exact frames_of_eq rfl

/-- A reload of an id loads the entry that the ledger has for it. -/
theorem reload_text_eq (hs : s.registry.Consistent openers l) (opener : Opener) (id : String) :
  s.reload opener (.text id)
    = match l.entries id with
      | some e => s.load opener e
      | none => (.error (.noDataset (.text id)), s)
  := by
  rw [reload, Registry.lookUp_text, hs.entry_eq]
  rcases l.entries id with _ | e <;> rfl

/-- After every run the tables hold, under the same ids, what the ledger says: whole datasets with
the entries they were built from.  Of a further task they show everything or nothing. -/
theorem run_consistent (tasks : List Task) (session : Session) :
  let s := run tasks ⟨.empty, session⟩
  let l := Ledger.ofHistory (history tasks ⟨.empty, session⟩)
  s.registry.Consistent (tasks.filterMap Task.opener?) l
    ∧ (∀ id p, s.registry.datasets.lookup id = some p →
        p.dataset.id = .text id ∧ ∃ axes, p.dataset.Joins p.dataset.children axes)
    ∧ (∀ opener id, s.reload opener (.text id)
        = match l.entries id with
          | some e => s.load opener e
          | none => (.error (.noDataset (.text id)), s))
    ∧ ∀ t : Task, t.Atomic s
  := by
  intro s l
  have hs : s.registry.Consistent (tasks.filterMap Task.opener?) l :=
    (keeps_isConsistent _).run (Task.mem_filterMap_opener? tasks) (h := [])
      (Registry.consistent_empty _)
  use hs
  constructor
  · intro id p hp
    obtain ⟨e, -, rfl, opener, -, hbuilds⟩ := hs.built id p hp
    exact hbuilds.joins
  · exact ⟨reload_text_eq hs, atomic_of_consistent hs⟩

/-- A dataset is loaded, replaced, and fails to be built again; another is loaded and removed. -/
theorem run_consistent_lines :
  let e : DatasetEntry := .ofPaths "d" ["v", "w"]
  let tasks : List Task :=
    [.load .lines (.ofPaths "d" ["v"]), .load .lines e, .load .lines (.ofPaths "d" [""]),
      .loadAll .lines [.ofPaths "e" ["v"], .ofPaths "f" []], .remove (.text "e")]
  let s := run tasks ⟨.empty, default⟩
  (∃ p, s.registry.datasets = [("d", p)] ∧ p.dataset.id = .text "d")
    ∧ s.reload .lines (.text "d") = s.load .lines e
  := by
  intro e tasks s
  obtain ⟨-, hwhole, hreload, -⟩ := run_consistent tasks default
  obtain ⟨p, hp⟩ : ∃ p, s.registry.datasets = [("d", p)] := ⟨_, rfl⟩
  constructor
  · use p, hp
    apply (hwhole "d" p _).1
    rw [hp]
    rfl
  · exact hreload .lines "d"

end Service

end GridUnion
