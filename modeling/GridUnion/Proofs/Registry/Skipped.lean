import GridUnion.Proofs.Registry.Outcomes

/-!
# Skipped children

A child that fails to open is skipped, unless it is the first.  The dataset has the same contents as
if the entry did not list the children that were skipped.
-/

namespace GridUnion

namespace DatasetEntry

variable {opener : Opener} {e : DatasetEntry} {s t : Session} {cs : List Child}

/-- All children of an entry open, as the given ones but for their origins. -/
def OpensAs (opener : Opener) (e : DatasetEntry) (s : Session) (cs : List Child) : Prop :=
  ((e.outcomes opener 0 e.children s).1.map fun r => r.map Child.detached)
    = cs.map fun c => .ok c.detached

/-- If all children open, nothing is reported. -/
theorem OpensAs.openChildren_eq_ok (h : e.OpensAs opener s cs) :
  ∃ children s', e.openChildren opener s = (.ok (children, []), s')
    ∧ children.map Child.detached = cs.map Child.detached
  := by
  let rs := (e.outcomes opener 0 e.children s).1
  have hdetached : (opened rs).map Child.detached = cs.map Child.detached := by
    rw [map_detached_opened, h, opened, List.filterMap_map]
    exact congrFun (List.filterMap_eq_map (f := Child.detached)) cs
  have hhead : ∀ f, rs.head? ≠ some (.error f) := by
    intro f hf
    have hmap := congrArg List.head? h
    rw [List.head?_map, List.head?_map, hf] at hmap
    rcases cs with _ | ⟨c, cs⟩
    · cases hmap
    · cases hmap
  have hmessages : messages 0 e.children rs = [] := by
    have hlength := length_outcomes opener e 0 e.children s
    have hsum := length_opened_add_length_messages 0 hlength
    have hopened : (opened rs).length = cs.length := by
      simpa using congrArg List.length hdetached
    have hrs : rs.length = cs.length := by
      simpa using congrArg List.length h
    rw [← hlength, hrs, hopened] at hsum
    exact List.eq_nil_of_length_eq_zero (Nat.left_eq_add.mp hsum.symm)
  use opened rs, (e.outcomes opener 0 e.children s).2
  rw [DatasetEntry.openChildren_eq_ok hhead]
  exact ⟨congrArg (fun w => (Except.ok (opened rs, w), _)) hmessages, hdetached⟩

/-- A steady opener opens the children again that it has opened. -/
theorem opensAs_only {allowed : Files → Prop} (h : opener.IsSteady allowed) (hs : allowed s.files)
    (ht : allowed t.files) :
  (e.only (e.outcomes opener 0 e.children s).1).OpensAs opener t
    (opened (e.outcomes opener 0 e.children s).1)
  := by
  let outcome (c : ChildEntry) := (opener c e.axis e.base s).1.map Child.detached
  have hkept : ∀ (children : List ChildEntry) (rs : List (Except Failure Child)),
      (rs.map fun r => r.map Child.detached) = children.map outcome →
      (((children.zip rs).filter fun p => p.2.isOk).map Prod.fst).map outcome
        = (opened rs).map fun c => .ok c.detached := by
    intro children rs
    induction rs generalizing children with
    | nil => simp [opened]
    | cons r rs ih =>
      rcases children with _ | ⟨c, children⟩
      · simp
      · intro heq
        obtain ⟨hr, hrs⟩ := List.cons.inj heq
        have hrest := ih children hrs
        rcases r with f | child
        · exact hrest
        · exact congrArg₂ List.cons hr.symm hrest
  have hrs := (map_outcomes_eq_map h e 0 e.children hs hs).1
  have hagain := (map_outcomes_eq_map h (e.only (e.outcomes opener 0 e.children s).1) 0
    (e.only (e.outcomes opener 0 e.children s).1).children hs ht).1
  exact hagain.trans (hkept e.children _ hrs)

/-- A child that fails to open is skipped: if it is the first, its failure is that of the build and
nothing else happens; otherwise it is reported, and the build is like that of the entry without it,
whenever and however the other children open again. -/
theorem build_skipping [Machine] (opener : Opener) (e : DatasetEntry) (s : Session) :
  let rs := (e.outcomes opener 0 e.children s).1
  (∀ c cs f s', e.children = c :: cs → opener c e.axis e.base s = (.error f, s') →
      e.openChildren opener s = (.error f, s') ∧ e.build opener s = (.error f, s'))
    ∧ ((∀ f, rs.head? ≠ some (.error f)) →
      (∃ s', e.openChildren opener s = (.ok (opened rs, messages 0 e.children rs), s'))
        ∧ (opened rs).length + (messages 0 e.children rs).length = e.children.length
        ∧ (∀ d, (e.build opener s).1 = .ok d →
          d.children = opened rs ∧ d.warnings = messages 0 e.children rs)
        ∧ ∀ opener' t, (e.only rs).OpensAs opener' t (opened rs) →
          BuildsAlike ((e.only rs).build opener' t).1 (e.build opener s).1)
    ∧ ∀ allowed t, opener.IsSteady allowed → allowed s.files → allowed t.files →
      (e.only rs).OpensAs opener t (opened rs)
  := by
  intro rs
  refine ⟨?_, ?_, ?_⟩
  · intro c cs f s' hchildren hfirst
    have hopen := openChildren_eq_error hchildren hfirst
    use hopen, build_eq_of_openChildren_error hopen
  · intro hhead
    have hopen := openChildren_eq_ok hhead
    refine ⟨⟨_, hopen⟩, ?_, ?_, ?_⟩
    · exact length_opened_add_length_messages 0 (length_outcomes opener e 0 e.children s)
    · intro d hd
      rw [build_eq_of_openChildren hopen] at hd
      obtain ⟨d', hd', rfl⟩ := map_eq_ok_iff.mp hd
      obtain ⟨first, rest, owners, axes, sizes, union, hchildren, -, -, -, -, -, rfl⟩ :=
        Dataset.build_eq_ok_iff.mp hd'
      use hchildren.symm
      exact List.nil_append _
    · intro opener' t hagain
      obtain ⟨children, t', hopen', hchildren⟩ := hagain.openChildren_eq_ok
      exact buildsAlike_of_openChildren hopen' hopen rfl rfl hchildren.symm
  · intro allowed t hsteady hs ht
    exact opensAs_only hsteady hs ht

/-- The second of three children is skipped, and the third has its place. -/
theorem build_skipping_lines :
  let e : DatasetEntry := .ofPaths "d" ["v", "", "w"]
  (∃ children s', e.openChildren .lines default = (.ok (children,
      ["child #1 : FileNotFoundError: File not found: "]), s'))
    ∧ BuildsAlike ((ofPaths "d" ["v", "w"]).build .lines default).1 (e.build .lines default).1
  := by
  intro e
  let rs := (e.outcomes .lines 0 e.children default).1
  obtain ⟨-, hopens, hsteady⟩ := build_skipping .lines e default
  have hhead : ∀ f, rs.head? ≠ some (.error f) := by
    intro f hf
    cases hf
  obtain ⟨⟨s', hopen⟩, -, -, halike⟩ := hopens hhead
  constructor
  · use opened rs, s'
    have hmessages : messages 0 e.children rs
        = ["child #1 : FileNotFoundError: File not found: "] := by
      decide +kernel
    rw [hopen]
    exact congrArg (fun w => (Except.ok (opened rs, w), s')) hmessages
  · exact halike .lines default (hsteady _ default isSteady_lines trivial trivial)

end DatasetEntry

end GridUnion
