import GridUnion.Proofs.Registry.Build
import GridUnion.Proofs.Registry.Task

/-!
# Consistent registries

The two tables of a registry always have the same ids.  What they hold is what the history says: a
ledger keeps, for every id, the entry of its last load and the dataset of its last load or reload.
A task that fails leaves the tables as they were, and a task changes only the ids that it loads,
reloads or removes.
-/

namespace GridUnion

/-! ### The ledger -/

/-- What a history says of a registry. -/
structure Ledger where
  /-- The entry that an id was last loaded with, unless it was removed since. -/
  entries : String → Option DatasetEntry
  /-- The dataset that was last published under an id, unless it was removed since. -/
  datasets : String → Option Dataset
  /-- The datasets that others took the place of. -/
  replaced : List Dataset
  /-- The children that were closed, in order. -/
  closings : List Child

namespace Ledger

/-- The ledger of a registry in which nothing has happened. -/
def empty : Ledger := ⟨fun _ => none, fun _ => none, [], []⟩

/-- A dataset is published in the place of one with the same id. -/
def publish (id : String) (d : Dataset) (l : Ledger) : Ledger :=
  { l with
    datasets := Function.update l.datasets id (some d)
    replaced := l.replaced ++ (l.datasets id).toList }

/-- Adds an event. -/
def add (l : Ledger) : Event → Ledger
  | .loaded e d => { l.publish e.id d with entries := Function.update l.entries e.id (some e) }
  | .reloaded id d => l.publish id d
  | .removed id d =>
    { l with
      entries := Function.update l.entries id none
      datasets := Function.update l.datasets id none
      closings := l.closings ++ d.children }
  | .abandoned children => { l with closings := l.closings ++ children }

/-- The ledger of a history. -/
def ofHistory (h : List Event) : Ledger := h.foldl add empty

theorem ofHistory_append (h h' : List Event) :
  ofHistory (h ++ h') = h'.foldl add (ofHistory h)
  := List.foldl_append

end Ledger

/-! ### Consistency -/

namespace Registry

/-- The tables have the same ids and hold what the ledger says, and every dataset was built from the
entry of its id, with children opened in one of the given ways. -/
structure Consistent (openers : List Opener) (l : Ledger) (r : Registry) : Prop where
  ids_eq : r.datasets.map Prod.fst = r.entries.map Prod.fst
  nodup_ids : (r.datasets.map Prod.fst).Nodup
  entry_eq : ∀ id, r.entries.lookup id = l.entries id
  dataset_eq : ∀ id, (r.datasets.lookup id).map Published.dataset = l.datasets id
  built : ∀ id p, r.datasets.lookup id = some p → ∃ e, r.entries.lookup id = some e ∧ e.id = id
    ∧ ∃ opener ∈ openers, e.Builds opener p.dataset

variable {openers : List Opener} {l : Ledger} {r : Registry} {opener : Opener} {e : DatasetEntry}
  {d : Dataset} {id : String}

theorem consistent_empty (openers : List Opener) :
  Consistent openers .empty .empty
  := by
  constructor
  · rfl
  · exact List.nodup_nil
  · intro id
    rfl
  · intro id
    rfl
  · intro id p hp
    cases hp

namespace Consistent

variable (h : Consistent openers l r)

include h

/-- An id with an entry has the dataset of that entry. -/
theorem exists_dataset (he : r.entries.lookup id = some e) :
  e.id = id ∧ ∃ p, r.datasets.lookup id = some p
  := by
  have hmem : id ∈ r.datasets.map Prod.fst := by
    rw [h.ids_eq, ← lookup_isSome_iff, he]
    rfl
  obtain ⟨p, hp⟩ := Option.isSome_iff_exists.mp (lookup_isSome_iff.mpr hmem)
  obtain ⟨e', he', hid, -⟩ := h.built id p hp
  obtain rfl := Option.some.inj (he.symm.trans he')
  use hid, p

theorem publish_loaded (hopener : opener ∈ openers) (hd : e.Builds opener d) :
  Consistent openers (l.add (.loaded e d)) (r.publish e d)
  := by
  constructor
  · rw [publish, keys_put, keys_put, h.ids_eq]
  · exact nodup_keys_put h.nodup_ids
  · intro id
    rw [publish, lookup_put, h.entry_eq]
    simp [Ledger.add, Function.update_apply]
  · intro id
    rw [publish, lookup_put, apply_ite (Option.map Published.dataset), h.dataset_eq]
    simp [Ledger.add, Ledger.publish, Function.update_apply]
  · intro id p hp
    rw [publish, lookup_put] at hp ⊢
    split at hp
    · next hid =>
      subst hid
      cases hp
      simp only [if_true]
      use e, rfl, rfl, opener
    · next hid =>
      rw [if_neg hid]
      exact h.built id p hp

/-- The entry stays the same when a dataset is built from it again. -/
theorem publish_reloaded (he : r.entries.lookup id = some e) (hopener : opener ∈ openers)
    (hd : e.Builds opener d) :
  Consistent openers (l.add (.reloaded id d)) (r.publish e d)
  := by
  obtain ⟨rfl, -⟩ := h.exists_dataset he
  have hloaded := h.publish_loaded hopener hd
  constructor
  · exact hloaded.ids_eq
  · exact hloaded.nodup_ids
  · intro id
    rw [publish, lookup_put, h.entry_eq]
    split
    · next hid =>
      rw [hid, ← he, h.entry_eq]
      rfl
    · rfl
  · exact hloaded.dataset_eq
  · exact hloaded.built

theorem erase (id : String) (d : Dataset) :
  Consistent openers (l.add (.removed id d)) (r.erase id)
  := by
  constructor
  · rw [Registry.erase, keys_filter, keys_filter, h.ids_eq]
  · rw [Registry.erase, keys_filter]
    exact h.nodup_ids.filter _
  · intro k
    rw [Registry.erase, lookup_filter, h.entry_eq]
    simp [Ledger.add, Function.update_apply]
  · intro k
    rw [Registry.erase, lookup_filter, apply_ite (Option.map Published.dataset), h.dataset_eq]
    simp [Ledger.add, Function.update_apply]
  · intro k p hp
    rw [Registry.erase, lookup_filter] at hp ⊢
    split at hp
    · cases hp
    · next hk =>
      rw [if_neg hk]
      exact h.built k p hp

theorem abandoned (children : List Child) :
  Consistent openers (l.add (.abandoned children)) r
  := ⟨h.ids_eq, h.nodup_ids, h.entry_eq, h.dataset_eq, h.built⟩

end Consistent

end Registry

namespace Service

variable {opener : Opener} {e : DatasetEntry} {s : Service} {openers : List Opener}

/-- Consistency of the tables with a history. -/
def IsConsistent (openers : List Opener) (h : List Event) (s : Service) : Prop :=
  s.registry.Consistent openers (.ofHistory h)

theorem isConsistent_abandoned {h : List Event} (hs : IsConsistent openers h s)
    (opener : Opener) (e : DatasetEntry) (session : Session) :
  IsConsistent openers (h ++ s.abandoned opener e) ⟨s.registry, session⟩
  := by
  rw [IsConsistent, Ledger.ofHistory_append, abandoned]
  split
  · exact hs.abandoned _
  · exact hs

theorem keeps_isConsistent (openers : List Opener) :
  Keeps (· ∈ openers) (IsConsistent openers)
  := by
  constructor
  · intro h s level text hs
    exact hs
  · intro h s opener e hopener hs
    obtain ⟨f, s', -, hload⟩ | ⟨d, s', text, hbuild, hload⟩ := load_cases opener e s
    · rw [loadEvents, hload]
      exact isConsistent_abandoned hs opener e s'
    · rw [loadEvents, hload, IsConsistent, Ledger.ofHistory_append]
      exact hs.publish_loaded hopener ⟨s.session, by rw [hbuild]⟩
  · intro h s opener id hopener hs
    obtain ⟨f, hreload, hevents⟩ | ⟨k, e, rfl, he, hreload⟩ := reload_cases opener id s
    · rw [hreload, hevents, List.append_nil]
      exact hs
    · rw [hreload, reloadEvents, hreload, Registry.lookUp_text, he]
      obtain ⟨f, s', -, hload⟩ | ⟨d, s', text, hbuild, hload⟩ := load_cases opener e s
      · rw [hload]
        exact isConsistent_abandoned hs opener e s'
      · rw [hload, Value.formatted_text, IsConsistent, Ledger.ofHistory_append]
        exact hs.publish_reloaded he hopener ⟨s.session, by rw [hbuild]⟩
  · intro h s id hs
    obtain ⟨f, hremove⟩ | ⟨k, p, text, rfl, hp, hremove⟩ := remove_cases id s
    · rw [removeEvents, hremove, List.append_nil]
      exact hs
    · rw [removeEvents, hremove, Value.formatted_text, IsConsistent, Ledger.ofHistory_append]
      exact hs.erase k p.dataset

end Service

end GridUnion
