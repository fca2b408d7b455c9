import GridUnion.Proofs.Registry.Consistent
import GridUnion.Proofs.Registry.Closings

/-!
# Readers of datasets

If children are opened afresh, those of a published dataset stay open, and so do those of a dataset
that another one took the place of, since it may still be read.  The children of a dataset that is
removed or cannot be built are closed, each once.
-/

namespace GridUnion

open Child (numbers)

/-! ### Opening children afresh -/

/-- Gives a child that was not there before, or fails.  It may close what it opens besides, but
nothing from before. -/
def Opener.IsFresh (opener : Opener) : Prop :=
  ∀ child axis base (s : Session),
    s.Opens (opener child axis base s).1.toOption.toList (opener child axis base s).2

namespace DatasetEntry

variable {opener : Opener} {e : DatasetEntry} {s : Session}

theorem opens_openOthers (hopener : opener.IsFresh) (e : DatasetEntry) (number : Nat)
    (cs : List ChildEntry) (s : Session) :
  s.Opens (e.openOthers opener number cs s).1.1 (e.openOthers opener number cs s).2
  := by
  induction cs generalizing number s with
  | nil => exact Session.opens_nil le_rfl rfl
  | cons c cs ih =>
    have hfirst := hopener c e.axis e.base s
    rw [openOthers]
    rcases hopen : opener c e.axis e.base s with ⟨f | child, s'⟩
    · rw [hopen] at hfirst
      have hskip : s.Opens [] { s' with notes := s'.notes ++ [⟨.error, .registry,
          "Dataset " ++ e.id ++ s!": skipping child #{number} " ++ c.path⟩] } :=
        hfirst.congr rfl rfl
      exact hskip.trans (ih (number + 1) _)
    · rw [hopen] at hfirst
      exact hfirst.trans (ih (number + 1) s')

/-- The children of an entry are opened, or nothing stays open. -/
theorem opens_openChildren (hopener : opener.IsFresh) (e : DatasetEntry) (s : Session) :
  s.Opens ((e.openChildren opener s).1.toOption.elim [] Prod.fst) (e.openChildren opener s).2
  := by
  rcases hchildren : e.children with _ | ⟨c, cs⟩
  · simp only [openChildren, hchildren]
    exact Session.opens_nil le_rfl rfl
  · have hfirst := hopener c e.axis e.base s
    simp only [openChildren, hchildren]
    rcases hopen : opener c e.axis e.base s with ⟨f | child, s'⟩
    · rw [hopen] at hfirst
      exact hfirst
    · rw [hopen] at hfirst
      exact hfirst.trans (opens_openOthers hopener e 1 cs s')

/-- The children of a dataset that is built are open. -/
theorem opens_of_build (hopener : opener.IsFresh) {d : Dataset} {s' : Session}
    (h : e.build opener s = (.ok d, s')) :
  s.Opens d.children s'
  := by
  have hopens := opens_openChildren hopener e s
  obtain ⟨f, s₁, -, hbuild⟩ |
      ⟨children, warnings, s₁, notes, hopen, ⟨f, hbuild⟩ | ⟨d', hd, hbuild⟩⟩ :=
    build_cases opener e s
  · cases hbuild.symm.trans h
  · cases hbuild.symm.trans h
  · cases hbuild.symm.trans h
    obtain ⟨axes, hjoins⟩ := Dataset.joins_of_build hd
    rw [hopen] at hopens
    obtain rfl := hjoins.children_eq
    exact hopens.congr rfl rfl

/-- If a build fails after the children were opened they are closed, and otherwise nothing stays
open. -/
theorem closes_of_build_error (hopener : opener.IsFresh) {all held closed : List Child}
    (hs : s.Holds all held closed) {f : Failure} {s' : Session}
    (h : e.build opener s = (.error f, s')) :
  match e.openChildren opener s with
  | (.ok (children, _), s₁) =>
    s₁.Closes children s' ∧ s'.Holds (all ++ children) held (closed ++ children)
  | (.error _, _) => s'.Holds all held closed
  := by
  have hopens := opens_openChildren hopener e s
  obtain ⟨f', s₁, hopen, hbuild⟩ |
      ⟨children, warnings, s₁, notes, hopen, ⟨f', hbuild⟩ | ⟨d, -, hbuild⟩⟩ :=
    build_cases opener e s
  · cases hbuild.symm.trans h
    rw [hopen] at hopens ⊢
    have hnext : s'.Holds (all ++ []) ([] ++ held) closed := hs.opens hopens
    rwa [List.append_nil, List.nil_append] at hnext
  · cases hbuild.symm.trans h
    rw [hopen] at hopens ⊢
    have hnoted : s.Opens children { s₁ with notes := notes } := hopens.congr rfl rfl
    obtain ⟨hcloses, hholds⟩ := (hs.opens hnoted).closes
    exact ⟨⟨hcloses.opened_eq, hcloses.closings_eq, hcloses.nodup, hcloses.wasOpen⟩, hholds⟩
  · cases hbuild.symm.trans h

end DatasetEntry

/-! ### What a registry holds -/

/-- The children that an event brings. -/
def Event.children : Event → List Child
  | loaded _ d => d.children
  | reloaded _ d => d.children
  | removed _ _ => []
  | abandoned children => children

namespace Registry

variable {openers : List Opener} {l : Ledger} {r : Registry}

/-- The children of published datasets and of those that others took the place of. -/
def held (r : Registry) (l : Ledger) : List Child :=
  ((r.datasets.map Prod.snd).map Published.dataset ++ l.replaced).flatMap Dataset.children

theorem perm_held_publish (h : r.Consistent openers l) (e : DatasetEntry) (d : Dataset) :
  (d.children ++ r.held l).Perm ((r.publish e d).held (l.publish e.id d))
  := by
  have hput := (perm_put e.id (⟨r.editions, d⟩ : Published) r.datasets).map Published.dataset
  have hreplaced : (r.datasets.lookup e.id).toList.map Published.dataset
      = (l.datasets e.id).toList := by
    rw [← h.dataset_eq]
    rcases r.datasets.lookup e.id with _ | p <;> rfl
  rw [List.map_append, hreplaced] at hput
  have hmove : ((r.publish e d).datasets.map Prod.snd).map Published.dataset
        ++ (l.replaced ++ (l.datasets e.id).toList)
      |>.Perm (d :: ((r.datasets.map Prod.snd).map Published.dataset ++ l.replaced)) := by
    apply (List.Perm.append_left _ List.perm_append_comm).trans
    rw [← List.append_assoc]
    exact hput.append_right l.replaced
  exact (hmove.flatMap_right Dataset.children).symm

theorem perm_held_erase (h : r.Consistent openers l) {id : String} {p : Published}
    (hp : r.datasets.lookup id = some p) :
  (r.held l).Perm (p.dataset.children ++ (r.erase id).held l)
  := by
  have hfilter := (perm_filter h.nodup_ids id).map Published.dataset
  rw [hp] at hfilter
  exact (hfilter.append_right l.replaced).flatMap_right Dataset.children

end Registry

namespace Service

variable {openers : List Opener} {opener : Opener} {e : DatasetEntry} {s : Service}
  {h : List Event}

/-- Of all children of the history the session holds those that the registry needs, and has closed
those that the history says. -/
structure IsSafe (openers : List Opener) (h : List Event) (s : Service) : Prop where
  consistent : IsConsistent openers h s
  holds : s.session.Holds (h.flatMap Event.children) (s.registry.held (.ofHistory h))
    (Ledger.ofHistory h).closings

theorem holds_publish (hs : IsSafe openers h s) (hopener : opener.IsFresh) {d : Dataset}
    {s' : Session} (hbuild : e.build opener s.session = (.ok d, s')) :
  s'.Holds (h.flatMap Event.children ++ d.children)
    ((s.registry.publish e d).held ((Ledger.ofHistory h).publish e.id d))
    (Ledger.ofHistory h).closings
  := (hs.holds.opens (DatasetEntry.opens_of_build hopener hbuild)).of_perm
    (Registry.perm_held_publish hs.consistent e d)

theorem holds_abandoned (hs : IsSafe openers h s) (hopener : opener.IsFresh) {f : Failure}
    {s' : Session} (hbuild : e.build opener s.session = (.error f, s')) :
  s'.Holds ((h ++ s.abandoned opener e).flatMap Event.children)
    (s.registry.held (.ofHistory (h ++ s.abandoned opener e)))
    (Ledger.ofHistory (h ++ s.abandoned opener e)).closings
  := by
  have hcloses := DatasetEntry.closes_of_build_error hopener hs.holds hbuild
  rw [Ledger.ofHistory_append, List.flatMap_append, abandoned]
  rcases hopen : e.openChildren opener s.session with ⟨f' | ⟨children, warnings⟩, s₁⟩
  · rw [hopen] at hcloses
    rw [List.flatMap_nil, List.append_nil]
    exact hcloses
  · rw [hopen] at hcloses
    rw [List.flatMap_singleton]
    exact hcloses.2

theorem keeps_isSafe (hopeners : ∀ opener ∈ openers, opener.IsFresh) :
  Keeps (· ∈ openers) (IsSafe openers)
  := by
  have hconsistent := keeps_isConsistent openers
  constructor
  · intro h s level text hs
    use hs.consistent
    exact hs.holds.congr rfl rfl
  · intro h s opener e hopener hs
    use hconsistent.load opener e hopener hs.consistent
    have hfresh := hopeners opener hopener
    obtain ⟨f, s', hbuild, hload⟩ | ⟨d, s', text, hbuild, hload⟩ := load_cases opener e s
    · rw [loadEvents, hload]
      exact holds_abandoned hs hfresh hbuild
    · rw [loadEvents, hload, Ledger.ofHistory_append, List.flatMap_append, List.flatMap_singleton]
      exact (holds_publish hs hfresh hbuild).congr rfl rfl
  · intro h s opener id hopener hs
    use hconsistent.reload opener id hopener hs.consistent
    have hfresh := hopeners opener hopener
    obtain ⟨f, hreload, hevents⟩ | ⟨k, e, rfl, he, hreload⟩ := reload_cases opener id s
    · rw [hreload, hevents, List.append_nil]
      exact hs.holds
    · -- the entry is the one of its id, so the dataset takes the place that the ledger gives it
      obtain ⟨rfl, -⟩ := hs.consistent.exists_dataset he
      rw [hreload, reloadEvents, hreload, Registry.lookUp_text, he]
      obtain ⟨f, s', hbuild, hload⟩ | ⟨d, s', text, hbuild, hload⟩ := load_cases opener e s
      · rw [hload]
        exact holds_abandoned hs hfresh hbuild
      · rw [hload, Value.formatted_text, Ledger.ofHistory_append, List.flatMap_append,
          List.flatMap_singleton]
        exact (holds_publish hs hfresh hbuild).congr rfl rfl
  · intro h s id hs
    use hconsistent.remove id hs.consistent
    obtain ⟨f, hremove⟩ | ⟨k, p, text, rfl, hp, hremove⟩ := remove_cases id s
    · rw [removeEvents, hremove, List.append_nil]
      exact hs.holds
    · rw [removeEvents, hremove, Value.formatted_text, Ledger.ofHistory_append,
        List.flatMap_append, List.flatMap_singleton, Event.children, List.append_nil]
      have hheld := hs.holds.of_perm (Registry.perm_held_erase hs.consistent hp)
      exact hheld.closes.2.congr rfl rfl

/-! ### Readers -/

/-- Children that may be read are open.  Of all children of the history those that are closed are the
children of datasets that were removed and of those that could not be built: each was asked to close
once, and in order. -/
structure SparesReaders (h : List Event) (s : Service) : Prop where
  isOpen_published : ∀ id p, s.registry.datasets.lookup id = some p →
    ∀ c ∈ p.dataset.children, s.session.IsOpen c
  isOpen_replaced : ∀ d ∈ (Ledger.ofHistory h).replaced, ∀ c ∈ d.children, s.session.IsOpen c
  closingsOf_eq : s.session.closingsOf (h.flatMap Event.children) = (Ledger.ofHistory h).closings
  nodup : (numbers (h.flatMap Event.children)).Nodup
  count_le_one : ∀ c ∈ h.flatMap Event.children, s.session.closedNumbers.count c.number ≤ 1
  remove_published : ∀ id p, s.registry.datasets.lookup id = some p →
    (s.remove (.text id)).1 = .ok p.dataset
  closes_removed : ∀ id d s', s.remove id = (.ok d, s') → s.session.Closes d.children s'.session
  closes_failed : ∀ opener : Opener, opener.IsFresh → ∀ e children warnings s₁,
    e.openChildren opener s.session = (.ok (children, warnings), s₁) →
      ∀ f s', (s.load opener e = (.error f, s')
          ∨ ∃ id, s.registry.entries.lookup id = some e
            ∧ s.reload opener (.text id) = (.error f, s')) →
        s₁.Closes children s'.session

theorem closes_of_remove (hs : IsSafe openers h s) {id : Value} {d : Dataset} {s' : Service}
    (hremove : s.remove id = (.ok d, s')) :
  s.session.Closes d.children s'.session
  := by
  obtain ⟨f, hfail⟩ | ⟨k, p, text, rfl, hp, hok⟩ := remove_cases id s
  · cases hfail.symm.trans hremove
  · cases hok.symm.trans hremove
    have hheld := hs.holds.of_perm (Registry.perm_held_erase hs.consistent hp)
    exact hheld.closes.1.congr rfl rfl

theorem closes_of_load_error (hs : IsSafe openers h s) (hopener : opener.IsFresh)
    {children : List Child} {warnings : List String} {s₁ : Session}
    (hopen : e.openChildren opener s.session = (.ok (children, warnings), s₁)) {f : Failure}
    {s' : Service} (hload : s.load opener e = (.error f, s')) :
  s₁.Closes children s'.session
  := by
  obtain ⟨f', s₂, hbuild, hfail⟩ | ⟨d, s₂, text, -, hok⟩ := load_cases opener e s
  · cases hfail.symm.trans hload
    have hcloses := DatasetEntry.closes_of_build_error hopener hs.holds hbuild
    rw [hopen] at hcloses
    exact hcloses.1
  · cases hok.symm.trans hload

/-- If all children are made afresh, readers are spared after every run. -/
theorem run_sparesReaders {tasks : List Task}
    (htasks : ∀ t ∈ tasks, ∀ opener ∈ t.opener?, opener.IsFresh) {session : Session}
    (hsession : ∀ n ∈ session.closedNumbers, n < session.opened) :
  SparesReaders (history tasks ⟨.empty, session⟩) (run tasks ⟨.empty, session⟩)
  := by
  have hfresh : ∀ opener ∈ tasks.filterMap Task.opener?, opener.IsFresh := by
    intro opener hopener
    obtain ⟨t, ht, heq⟩ := List.mem_filterMap.mp hopener
    exact htasks t ht opener heq
  have hstart : IsSafe (tasks.filterMap Task.opener?) [] ⟨.empty, session⟩ :=
    ⟨Registry.consistent_empty _, Session.holds_nil hsession⟩
  have hs := (keeps_isSafe hfresh).run (Task.mem_filterMap_opener? tasks) hstart
  constructor
  · intro id p hp c hc
    apply hs.holds.isOpen_of_mem
    apply List.mem_flatMap.mpr ⟨p.dataset, List.mem_append_left _ _, hc⟩
    exact List.mem_map_of_mem (List.mem_map_of_mem (mem_of_lookup_eq_some hp))
  · intro d hd c hc
    apply hs.holds.isOpen_of_mem
    exact List.mem_flatMap.mpr ⟨d, List.mem_append_right _ hd, hc⟩
  · exact hs.holds.closingsOf_eq
  · exact hs.holds.nodup
  · intro c hc
    exact hs.holds.count_le_one (List.mem_map_of_mem hc)
  · intro id p hp
    rw [remove_text_eq hp]
  · intro id d s' hremove
    exact closes_of_remove hs hremove
  · intro opener hopener e children warnings s₁ hopen f s' hload
    rcases hload with hload | ⟨id, he, hreload⟩
    · exact closes_of_load_error hs hopener hopen hload
    · rw [reload, Registry.lookUp_text, he] at hreload
      exact closes_of_load_error hs hopener hopen hreload

theorem isFresh_lines :
  Opener.lines.IsFresh
  := by
  intro child axis base s
  unfold Opener.lines
  split
  · exact Session.opens_nil le_rfl rfl
  · exact Session.opens_singleton rfl rfl rfl

/-- Of six children the first stays open for its readers, two are published, two are abandoned since
they have the same variable, and the last is removed. -/
theorem run_sparesReaders_lines :
  let tasks : List Task :=
    [.load .lines (.ofPaths "d" ["v"]), .load .lines (.ofPaths "d" ["v", "w"]),
      .load .lines (.ofPaths "d" ["v", "v"]), .loadAll .lines [.ofPaths "e" ["v"]],
      .remove (.text "e")]
  let s := run tasks ⟨.empty, default⟩
  s.session.opened = 6 ∧ s.session.closedNumbers = [3, 4, 5]
    ∧ SparesReaders (history tasks ⟨.empty, default⟩) s
  := by
  intro tasks s
  use rfl, rfl
  apply run_sparesReaders
  · intro t ht opener hopener
    obtain rfl : opener = .lines := by
      simp only [tasks, List.mem_cons, List.not_mem_nil, or_false] at ht
      rcases ht with rfl | rfl | rfl | rfl | rfl <;> cases hopener <;> rfl
    exact isFresh_lines
  · intro n hn
    cases hn

end Service

end GridUnion
