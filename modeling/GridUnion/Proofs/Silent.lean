import GridUnion.CommandLine.Tool
import GridUnion.Proofs.Registry.Outcomes

/-!
# Silent actions

A silent action writes no grid, whether it fails or not.  All that is done to read a catalogue and to
load its datasets is silent.
-/

namespace GridUnion

namespace Action

variable {α β : Type} {x : Action α} {s : Session}

/-- Whatever the action gives, it writes no grid. -/
def IsSilent (x : Action α) : Prop := ∀ s, (x s).2.written = s.written

theorem isSilent_pure (a : α) :
  (pure a : Action α).IsSilent
  := fun _ => rfl

theorem IsSilent.bind {f : α → Action β} (hx : x.IsSilent) (hf : ∀ a, (f a).IsSilent) :
  (x >>= f).IsSilent
  := by
  intro s
  have hs := hx s
  rw [bind_apply]
  rcases hresult : x s with ⟨e | a, s'⟩
  · rw [hresult] at hs
    exact hs
  · rw [hresult] at hs
    exact (hf a s').trans hs

theorem isSilent_liftM (r : Except Failure α) :
  (liftM r : Action α).IsSilent
  := fun _ => rfl

theorem isSilent_ofNoted (x : Noted α) :
  (ofNoted x).IsSilent
  := fun _ => rfl

theorem isSilent_ask (f : Session → α) :
  (ask f).IsSilent
  := fun _ => rfl

theorem isSilent_note (level : Level) (topic : Topic) (text : String) :
  (note level topic text).IsSilent
  := fun _ => rfl

theorem isSilent_changeFiles (f : Files → Except Failure Files) :
  (changeFiles f).IsSilent
  := by
  intro s
  rw [changeFiles]
  split
  · rfl
  · rfl

end Action

/-! ### Loading -/

/-- Opening a child in this way writes no grid. -/
def Opener.IsSilent (opener : Opener) : Prop := ∀ c axis base, (opener c axis base).IsSilent

theorem isSilent_fromFiles :
  Opener.fromFiles.IsSilent
  := by
  intro c axis base s
  obtain ⟨-, f, notes, hopen⟩ | ⟨r, location, notes, -, hopen⟩ :=
    Opener.fromFiles_cases c axis base s
  · rw [hopen]
  · rw [hopen]

variable {opener : Opener} (h : opener.IsSilent)

include h

namespace DatasetEntry

theorem written_outcomes (e : DatasetEntry) (number : Nat) (cs : List ChildEntry) (s : Session) :
  (e.outcomes opener number cs s).2.written = s.written
  := by
  induction cs generalizing number s with
  | nil => rfl
  | cons c cs ih =>
    have hfirst := h c e.axis e.base s
    rw [outcomes]
    rcases hopen : opener c e.axis e.base s with ⟨f | child, s'⟩
    · rw [hopen] at hfirst
      exact (ih (number + 1) (e.skipped number c s')).trans hfirst
    · rw [hopen] at hfirst
      exact (ih (number + 1) s').trans hfirst

theorem isSilent_openChildren (e : DatasetEntry) :
  (e.openChildren opener).IsSilent
  := by
  intro s
  rcases hchildren : e.children with _ | ⟨c, cs⟩
  · rw [openChildren, hchildren]
    rfl
  · have hfirst := h c e.axis e.base s
    simp only [openChildren, hchildren, openOthers_eq_outcomes]
    rcases hopen : opener c e.axis e.base s with ⟨f | child, s'⟩
    · rwa [hopen] at hfirst
    · rw [hopen] at hfirst
      exact (written_outcomes h e 1 cs s').trans hfirst

theorem isSilent_build (e : DatasetEntry) :
  (e.build opener).IsSilent
  := by
  intro s
  have hopen := isSilent_openChildren h e s
  obtain ⟨f, s', heq, hbuild⟩ | ⟨children, warnings, s', notes, heq, ⟨f, hbuild⟩ | ⟨d, -, hbuild⟩⟩ :=
    build_cases opener e s
  · rw [heq] at hopen
    rwa [hbuild]
  · rw [heq] at hopen
    rwa [hbuild, Session.closeChildren_eq]
  · rw [heq] at hopen
    rwa [hbuild]

end DatasetEntry

namespace Service

theorem written_load (e : DatasetEntry) (s : Service) :
  (s.load opener e).2.session.written = s.session.written
  := by
  have hbuild := DatasetEntry.isSilent_build h e s.session
  obtain ⟨f, session, heq, hload⟩ | ⟨d, session, text, heq, hload⟩ := load_cases opener e s
  · rw [heq] at hbuild
    rwa [hload]
  · rw [heq] at hbuild
    rwa [hload]

theorem written_loadAll (es : List DatasetEntry) (s : Service) :
  (s.loadAll opener es []).2.session.written = s.session.written
  := by
  rw [loadAll_eq_foldl]
  induction es generalizing s with
  | nil => rfl
  | cons e es ih =>
    have hload := written_load h e s
    rw [List.foldl_cons, ih, loadNoted]
    split
    · next heq => rwa [heq] at hload
    · next heq => rwa [heq] at hload

end Service

omit h

/-! ### Commands -/

theorem isSilent_prepareLog (logFile : Option String) :
  (prepareLog logFile).IsSilent
  := by
  rw [prepareLog]
  split
  · exact Action.isSilent_pure ()
  · exact (Action.isSilent_changeFiles _).bind fun _ => Action.isSilent_note _ _ _

theorem Catalogue.isSilent_load (path : String) :
  (load path).IsSilent
  := by
  apply (Action.isSilent_note _ _ _).bind
  intro _
  apply (Action.isSilent_ask _).bind
  intro bytes
  apply (Action.isSilent_liftM bytes).bind
  intro bytes
  apply (Action.isSilent_liftM (parse (Path.ofString path) bytes)).bind
  intro v
  exact Action.isSilent_ofNoted _

theorem CommandLine.isSilent_loadCatalogue (catalogue : String) (only : Option Argument) :
  (loadCatalogue catalogue only).IsSilent
  := by
  apply (Catalogue.isSilent_load catalogue).bind
  intro es
  apply (Action.isSilent_liftM (selected catalogue only es)).bind
  intro es s
  exact Service.written_loadAll isSilent_fromFiles es ⟨.empty, s⟩

end GridUnion
