import GridUnion.Proofs.Registry.Table
import GridUnion.Proofs.Success
import Mathlib.Logic.Function.Basic

/-!
# Runs of a registry

What a registry is asked to do is a list of tasks.  What happens in it is a history of events, which
are read off the results of the tasks.  A property that every load, reload and removal preserves
holds after every run.
-/

namespace GridUnion

/-- Something that a registry is asked to do. -/
inductive Task where
  | load (opener : Opener) (e : DatasetEntry)
  | loadAll (opener : Opener) (es : List DatasetEntry)
  | reload (opener : Opener) (id : Value)
  | remove (id : Value)
  | get (id : Value)

/-- Something that happened in a registry. -/
inductive Event where
  /-- A dataset was built from an entry and published. -/
  | loaded (e : DatasetEntry) (d : Dataset)
  /-- The dataset of an id was built again and published. -/
  | reloaded (id : String) (d : Dataset)
  | removed (id : String) (d : Dataset)
  /-- Children were opened for a dataset that could not be built. -/
  | abandoned (children : List Child)

/-- The id that an event is about. -/
def Event.id? : Event → Option String
  | loaded e _ => some e.id
  | reloaded id _ => some id
  | removed id _ => some id
  | abandoned _ => none

namespace Task

/-- The ids that a task is about. -/
def ids : Task → List Value
  | load _ e => [.text e.id]
  | loadAll _ es => es.map fun e => .text e.id
  | reload _ id => [id]
  | remove id => [id]
  | get _ => []

/-- What a task opens children with. -/
def opener? : Task → Option Opener
  | load opener _ => some opener
  | loadAll opener _ => some opener
  | reload opener _ => some opener
  | remove _ => none
  | get _ => none

theorem mem_filterMap_opener? (tasks : List Task) :
  ∀ t ∈ tasks, ∀ opener ∈ t.opener?, opener ∈ tasks.filterMap Task.opener?
  := by
  intro t ht opener hopener
  exact List.mem_filterMap.mpr ⟨t, ht, hopener⟩

/-- Performs a task.  Of its result only a failure is kept. -/
def perform : Task → Service → Except Failure Unit × Service
  | load opener e, s => ((s.load opener e).1.map fun _ => (), (s.load opener e).2)
  | loadAll opener es, s => (.ok (), (s.loadAll opener es []).2)
  | reload opener id, s => ((s.reload opener id).1.map fun _ => (), (s.reload opener id).2)
  | remove id, s => ((s.remove id).1.map fun _ => (), (s.remove id).2)
  | get id, s => ((s.registry.get id).map fun _ => (), s)

end Task

namespace Service

/-! ### Events -/

/-- The children of an entry that cannot be built are abandoned if they open. -/
def abandoned (opener : Opener) (e : DatasetEntry) (s : Service) : List Event :=
  match (e.openChildren opener s.session).1 with
  | .ok (children, _) => [.abandoned children]
  | .error _ => []

/-- What happens when an entry is loaded. -/
def loadEvents (opener : Opener) (e : DatasetEntry) (s : Service) : List Event :=
  match (s.load opener e).1 with
  | .ok d => [.loaded e d]
  | .error _ => abandoned opener e s

/-- What happens when an id is reloaded. -/
def reloadEvents (opener : Opener) (id : Value) (s : Service) : List Event :=
  match (s.reload opener id).1, Registry.lookUp id s.registry.entries with
  | .ok d, _ => [.reloaded id.formatted d]
  | .error _, .ok (some e) => abandoned opener e s
  | .error _, _ => []

/-- What happens when an id is removed. -/
def removeEvents (id : Value) (s : Service) : List Event :=
  match (s.remove id).1 with
  | .ok d => [.removed id.formatted d]
  | .error _ => []

/-- Loads an entry, and notes a failure. -/
def loadNoted (opener : Opener) (e : DatasetEntry) (s : Service) : Service :=
  match s.load opener e with
  | (.ok _, s) => s
  | (.error _, s) => s.noted .error ("Failed to load dataset " ++ e.id)

/-- What happens when several entries are loaded. -/
def loadAllEvents (opener : Opener) : List DatasetEntry → Service → List Event
  | [], _ => []
  | e :: es, s => loadEvents opener e s ++ loadAllEvents opener es (loadNoted opener e s)

theorem loadAll_eq_foldl (opener : Opener) (es : List DatasetEntry)
    (failures : List (String × Failure)) (s : Service) :
  (loadAll opener es failures s).2 = es.foldl (fun s e => loadNoted opener e s) s
  := by
  induction es generalizing failures s with
  | nil => rfl
  | cons e es ih =>
    rw [loadAll, List.foldl_cons, loadNoted]
    rcases s.load opener e with ⟨_ | d, next⟩
    · apply ih
    · apply ih

/-- Entries are loaded one after the other, as if the first ones were loaded by themselves. -/
theorem loadAll_append (opener : Opener) (es es' : List DatasetEntry) (s : Service) :
  (s.loadAll opener (es ++ es') []).2 = ((s.loadAll opener es []).2.loadAll opener es' []).2
  := by
  simp only [loadAll_eq_foldl, List.foldl_append]

end Service

/-- What happens when a task is performed. -/
def Task.events : Task → Service → List Event
  | load opener e, s => s.loadEvents opener e
  | loadAll opener es, s => s.loadAllEvents opener es
  | reload opener id, s => s.reloadEvents opener id
  | remove id, s => s.removeEvents id
  | get _, _ => []

namespace Service

variable {opener : Opener} {e : DatasetEntry} {s : Service}

/-! ### Runs -/

/-- The service after several tasks. -/
def run : List Task → Service → Service
  | [], s => s
  | t :: ts, s => run ts (t.perform s).2

/-- What happens when several tasks are performed. -/
def history : List Task → Service → List Event
  | [], _ => []
  | t :: ts, s => t.events s ++ history ts (t.perform s).2

/-- A property of histories and services that is preserved if children are only opened in certain
ways. -/
structure Keeps (allowed : Opener → Prop) (P : List Event → Service → Prop) : Prop where
  noted : ∀ {h s} level text, P h s → P h (s.noted level text)
  load : ∀ {h s} opener e, allowed opener → P h s →
    P (h ++ s.loadEvents opener e) (s.load opener e).2
  reload : ∀ {h s} opener id, allowed opener → P h s →
    P (h ++ s.reloadEvents opener id) (s.reload opener id).2
  remove : ∀ {h s} id, P h s → P (h ++ s.removeEvents id) (s.remove id).2

section Keeps

variable {allowed : Opener → Prop} {P : List Event → Service → Prop} (hP : Keeps allowed P)
  {h : List Event}

include hP

theorem Keeps.loadNoted (hopener : allowed opener) (hs : P h s) :
  P (h ++ s.loadEvents opener e) (s.loadNoted opener e)
  := by
  have hnext := hP.load opener e hopener hs
  unfold Service.loadNoted
  split
  · next hload =>
    rw [hload] at hnext
    exact hnext
  · next hload =>
    rw [hload] at hnext
    exact hP.noted _ _ hnext

theorem Keeps.loadAll (hopener : allowed opener) (es : List DatasetEntry) (hs : P h s) :
  P (h ++ s.loadAllEvents opener es) (s.loadAll opener es []).2
  := by
  rw [loadAll_eq_foldl]
  induction es generalizing h s with
  | nil => simpa [loadAllEvents] using hs
  | cons e es ih =>
    have hnext := ih (hP.loadNoted (e := e) hopener hs)
    rwa [List.append_assoc] at hnext

theorem Keeps.perform {t : Task} (ht : ∀ opener ∈ t.opener?, allowed opener) (hs : P h s) :
  P (h ++ t.events s) (t.perform s).2
  := by
  cases t with
  | load opener e => exact hP.load opener e (ht opener rfl) hs
  | loadAll opener es => exact hP.loadAll (ht opener rfl) es hs
  | reload opener id => exact hP.reload opener id (ht opener rfl) hs
  | remove id => exact hP.remove id hs
  | get id => simpa [Task.events, Task.perform] using hs

/-- A property that is preserved holds after every run. -/
theorem Keeps.run {ts : List Task} (hts : ∀ t ∈ ts, ∀ opener ∈ t.opener?, allowed opener)
    (hs : P h s) :
  P (h ++ history ts s) (run ts s)
  := by
  induction ts generalizing h s with
  | nil => simpa [history, Service.run] using hs
  | cons t ts ih =>
    obtain ⟨ht, hrest⟩ := List.forall_mem_cons.mp hts
    have hnext := ih hrest (hP.perform ht hs)
    rwa [List.append_assoc] at hnext

end Keeps

/-! ### What the tasks do -/

theorem load_cases (opener : Opener) (e : DatasetEntry) (s : Service) :
  (∃ f s', e.build opener s.session = (.error f, s')
      ∧ s.load opener e = (.error f, ⟨s.registry, s'⟩))
    ∨ ∃ d s' text, e.build opener s.session = (.ok d, s')
      ∧ s.load opener e = (.ok d, noted .info text ⟨s.registry.publish e d, s'⟩)
  := by
  rcases hbuild : e.build opener s.session with ⟨f | d, s'⟩
  · left
    use f, s', rfl
    rw [load, hbuild]
  · right
    use d, s', (if (s.registry.datasets.lookup e.id).isSome then "Replaced" else "Loaded")
      ++ " dataset " ++ e.id, rfl
    rw [load, hbuild]

theorem load_fst (opener : Opener) (e : DatasetEntry) (s : Service) :
  (s.load opener e).1 = (e.build opener s.session).1
  := by
  obtain ⟨f, s', hbuild, hload⟩ | ⟨d, s', text, hbuild, hload⟩ := load_cases opener e s
  · rw [hload, hbuild]
  · rw [hload, hbuild]

theorem reload_cases (opener : Opener) (id : Value) (s : Service) :
  (∃ f, s.reload opener id = (.error f, s) ∧ s.reloadEvents opener id = [])
    ∨ ∃ k e, id = .text k ∧ s.registry.entries.lookup k = some e
      ∧ s.reload opener id = s.load opener e
  := by
  rcases hfound : Registry.lookUp id s.registry.entries with f | _ | e
  · left
    use f
    simp [reload, reloadEvents, hfound]
  · left
    use .noDataset id
    simp [reload, reloadEvents, hfound]
  · right
    obtain ⟨k, rfl, hk⟩ := Registry.exists_text_of_lookUp hfound
    use k, e, rfl, hk
    simp [reload, hfound]

/-- A published dataset can be removed. -/
theorem remove_text_eq {k : String} {p : Published} (hp : s.registry.datasets.lookup k = some p) :
  s.remove (.text k)
    = (.ok p.dataset, noted .info ("Removed dataset " ++ k)
        ⟨s.registry.erase k, s.session.closeChildren p.dataset.children⟩)
  := by
  have hne : s.registry.datasets ≠ [] := List.ne_nil_of_mem (mem_of_lookup_eq_some hp)
  simp [remove, hne, Registry.lookUp_text, hp, Value.formatted_text]

theorem remove_cases (id : Value) (s : Service) :
  (∃ f, s.remove id = (.error f, s))
    ∨ ∃ k p text, id = .text k ∧ s.registry.datasets.lookup k = some p
      ∧ s.remove id = (.ok p.dataset, noted .info text
          ⟨s.registry.erase k, s.session.closeChildren p.dataset.children⟩)
  := by
  rcases hfound : Registry.lookUp id s.registry.datasets with f | _ | p
  · left
    unfold remove
    split
    · use .notPublished id
    · use f
      rw [hfound]
  · left
    use .notPublished id
    simp [remove, hfound]
  · right
    obtain ⟨k, rfl, hp⟩ := Registry.exists_text_of_lookUp hfound
    use k, p, "Removed dataset " ++ k, rfl, hp, remove_text_eq hp

end Service

end GridUnion
