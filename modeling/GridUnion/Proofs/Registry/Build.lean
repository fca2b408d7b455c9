import GridUnion.Proofs.Dataset.Join
import GridUnion.Registry

/-!
# Builds

A build opens the children of an entry and puts them side by side.  It gives a dataset that joins
the children, or fails; and if it fails after the children were opened, it closes them.
-/

namespace GridUnion

theorem Dataset.id_of_build {id title : Value} {children : List Child} {d : Dataset}
    (h : (build id children title).result = .ok d) :
  d.id = id
  := by
  obtain ⟨_, _, _, _, _, _, -, -, -, -, -, -, rfl⟩ := build_eq_ok_iff.mp h
  rfl

namespace DatasetEntry

variable {opener : Opener} {e : DatasetEntry} {s : Session}

/-- A build fails with the first child, or fails after the children were opened and closes them, or
gives a dataset. -/
theorem build_cases (opener : Opener) (e : DatasetEntry) (s : Session) :
  (∃ f s', e.openChildren opener s = (.error f, s') ∧ e.build opener s = (.error f, s'))
    ∨ ∃ children warnings s' notes, e.openChildren opener s = (.ok (children, warnings), s')
      ∧ ((∃ f, e.build opener s
            = (.error f, Session.closeChildren children { s' with notes := notes }))
        ∨ ∃ d, (Dataset.build (.text e.id) children e.title).result = .ok d
          ∧ e.build opener s
            = (.ok { d with warnings := d.warnings ++ warnings }, { s' with notes := notes }))
  := by
  rcases hopen : e.openChildren opener s with ⟨f | ⟨children, warnings⟩, s'⟩
  · left
    use f, s', rfl
    rw [build, hopen]
  · right
    use children, warnings, s', s'.notes ++ (Dataset.build (.text e.id) children e.title).notes, rfl
    rw [build, hopen]
    rcases hresult : (Dataset.build (.text e.id) children e.title).result with f | d
    · left
      use f
      simp [Action.ofNoted, hresult]
    · right
      use d, rfl
      simp [Action.ofNoted, hresult]

/-- A dataset is built from an entry, in some session, with children opened in a certain way. -/
def Builds (opener : Opener) (e : DatasetEntry) (d : Dataset) : Prop :=
  ∃ s, (e.build opener s).1 = .ok d

/-- A dataset that is built has the id of its entry and joins its children. -/
theorem Builds.joins {d : Dataset} (h : e.Builds opener d) :
  d.id = .text e.id ∧ ∃ axes, d.Joins d.children axes
  := by
  obtain ⟨s, hs⟩ := h
  obtain ⟨f, s', -, hbuild⟩ | ⟨children, warnings, s', notes, -, ⟨f, hbuild⟩ | ⟨d', hd, hbuild⟩⟩ :=
    build_cases opener e s
  · rw [hbuild] at hs
    cases hs
  · rw [hbuild] at hs
    cases hs
  · rw [hbuild] at hs
    cases hs
    obtain ⟨axes, hjoins⟩ := Dataset.joins_of_build hd
    have hid : d'.id = .text e.id := Dataset.id_of_build hd
    use hid, axes
    constructor
    · rfl
    · exact hjoins.similar
    · exact hjoins.children_eq ▸ hjoins.owners_eq
    · exact hjoins.children_eq ▸ hjoins.axes_eq
    · exact hjoins.union_eq

/-- The entry of a dataset with children at the given paths. -/
def ofPaths (id : String) (paths : List String) : DatasetEntry :=
  ⟨id, paths.map fun path => ⟨path, .null⟩, .null, .null, none⟩

end DatasetEntry

/-- Opens a child with one value of a variable that is named like the child's path.  The empty path
leads nowhere. -/
def Opener.lines : Opener := fun child _ _ s =>
  if child.path = "" then (.error (.childFileMissing ""), s)
  else
    let line := Dataset.lineChild [1] child.path [2]
    (.ok { line with origin := .memory s.opened }, { s with opened := s.opened + 1 })

end GridUnion
