import GridUnion.Proofs.Registry.Build

/-!
# Open children

Children that are made have numbers of their own.  A session holds some children open: they were not
asked to close.  What it holds grows when children are made, and shrinks when they are closed; and of
all children that it has held those that are closed were asked once.
-/

namespace GridUnion

/-- The numbers of children. -/
def Child.numbers (cs : List Child) : List Nat := cs.map Child.number

namespace Session

open Child (numbers)

variable {s s' s'' : Session} {cs cs' : List Child}

/-- The numbers of the children that were asked to close. -/
def closedNumbers (s : Session) : List Nat := numbers s.closings

/-- A child was not asked to close. -/
def IsOpen (s : Session) (c : Child) : Prop := c.number ∉ s.closedNumbers

/-- Which of certain children were asked to close, in order, each as often as it was asked. -/
def closingsOf (s : Session) (cs : List Child) : List Child :=
  s.closings.filter fun c => c.number ∈ numbers cs

/-! ### Making children -/

/-- Between two sessions children were made that are not closed.  Other children that were made in
between may be closed, but none from before. -/
structure Opens (s : Session) (cs : List Child) (s' : Session) : Prop where
  opened_le : s.opened ≤ s'.opened
  closings_eq : ∃ own, s'.closings = s.closings ++ own
    ∧ ∀ c ∈ own, s.opened ≤ c.number ∧ c.number < s'.opened ∧ c.number ∉ numbers cs
  number_mem : ∀ n ∈ numbers cs, s.opened ≤ n ∧ n < s'.opened
  nodup : (numbers cs).Nodup

theorem numbers_append (cs cs' : List Child) :
  numbers (cs ++ cs') = numbers cs ++ numbers cs'
  := List.map_append

/-- What is opened in between does not have to belong to a child. -/
theorem opens_nil (hopened : s.opened ≤ s'.opened) (hclosings : s'.closings = s.closings) :
  s.Opens [] s'
  := by
  constructor
  · exact hopened
  · use []
    simp [hclosings]
  · simp [numbers]
  · exact List.nodup_nil

theorem opens_singleton {c : Child} (hnumber : c.number = s.opened)
    (hopened : s'.opened = s.opened + 1) (hclosings : s'.closings = s.closings) :
  s.Opens [c] s'
  := by
  constructor
  · omega
  · use []
    simp [hclosings]
  · intro n hn
    obtain rfl := List.mem_singleton.mp hn
    omega
  · exact List.nodup_singleton _

theorem Opens.trans (h : s.Opens cs s') (h' : s'.Opens cs' s'') :
  s.Opens (cs ++ cs') s''
  := by
  obtain ⟨own, hown, hrange⟩ := h.closings_eq
  obtain ⟨own', hown', hrange'⟩ := h'.closings_eq
  have hle := h.opened_le
  have hle' := h'.opened_le
  constructor
  · omega
  · use own ++ own', by rw [hown', hown, List.append_assoc]
    intro c hc
    rw [numbers_append, List.mem_append]
    rcases List.mem_append.mp hc with hc | hc
    · obtain ⟨hge, hlt, hnot⟩ := hrange c hc
      refine ⟨hge, by omega, ?_⟩
      rintro (hmem | hmem)
      · exact hnot hmem
      · have := (h'.number_mem _ hmem).1
        omega
    · obtain ⟨hge, hlt, hnot⟩ := hrange' c hc
      refine ⟨by omega, hlt, ?_⟩
      rintro (hmem | hmem)
      · have := (h.number_mem _ hmem).2
        omega
      · exact hnot hmem
  · intro n hn
    rw [numbers_append, List.mem_append] at hn
    rcases hn with hn | hn
    · have := h.number_mem n hn
      omega
    · have := h'.number_mem n hn
      omega
  · rw [numbers_append]
    apply h.nodup.append h'.nodup
    intro n hn hn'
    have := (h.number_mem n hn).2
    have := (h'.number_mem n hn').1
    omega

/-- Only what was opened and closed counts. -/
theorem Opens.congr (h : s.Opens cs s') (hopened : s''.opened = s'.opened)
    (hclosings : s''.closings = s'.closings) :
  s.Opens cs s''
  := by
  rw [← List.append_nil cs]
  exact h.trans (opens_nil hopened.ge hclosings)

/-! ### Closing -/

/-- Between two sessions the children that were asked to close are the given ones, in order, and each
was asked for the first time. -/
structure Closes (s : Session) (cs : List Child) (s' : Session) : Prop where
  opened_eq : s'.opened = s.opened
  closings_eq : s'.closings = s.closings ++ cs
  nodup : (numbers cs).Nodup
  wasOpen : ∀ c ∈ cs, s.IsOpen c

/-- Only what was opened and closed counts. -/
theorem Closes.congr (h : s.Closes cs s') (hopened : s''.opened = s'.opened)
    (hclosings : s''.closings = s'.closings) :
  s.Closes cs s''
  := by
  constructor
  · rw [hopened, h.opened_eq]
  · rw [hclosings, h.closings_eq]
  · exact h.nodup
  · exact h.wasOpen

/-! ### Holding -/

/-- Of certain children a session holds some open.  The others are closed, each asked once and in
order, and nothing is closed that was not made. -/
structure Holds (s : Session) (children held closed : List Child) : Prop where
  perm : children.Perm (held ++ closed)
  nodup : (numbers children).Nodup
  number_lt : ∀ n ∈ numbers children, n < s.opened
  closed_lt : ∀ n ∈ s.closedNumbers, n < s.opened
  closingsOf_eq : s.closingsOf children = closed

variable {children held closed : List Child}

/-- Held children are open. -/
theorem Holds.isOpen_of_mem (h : s.Holds children held closed) {c : Child} (hc : c ∈ held) :
  s.IsOpen c
  := by
  intro hmem
  obtain ⟨c', hc', hnumber⟩ := List.mem_map.mp hmem
  have hheld : c'.number ∈ numbers held := hnumber ▸ List.mem_map_of_mem hc
  -- a closing with the number of a held child would be one of those that are closed
  have hclosed : c' ∈ closed := by
    rw [← h.closingsOf_eq]
    refine List.mem_filter.mpr ⟨hc', decide_eq_true ?_⟩
    apply (h.perm.map _).mem_iff.mpr
    rw [List.map_append]
    exact List.mem_append_left _ hheld
  have hnodup := (h.perm.map _).nodup_iff.mp h.nodup
  rw [List.map_append] at hnodup
  exact hnodup.disjoint hheld (List.mem_map_of_mem hclosed)

/-- What is made is held besides what was held before. -/
theorem Holds.opens (h : s.Holds children held closed) (hopens : s.Opens cs s') :
  s'.Holds (children ++ cs) (cs ++ held) closed
  := by
  obtain ⟨own, hown, hrange⟩ := hopens.closings_eq
  have hle := hopens.opened_le
  -- all numbers of the children are below `s.opened`, and what is made has none of them
  constructor
  · rw [List.append_assoc]
    exact List.perm_append_comm.trans (h.perm.append_left cs)
  · rw [numbers_append]
    apply h.nodup.append hopens.nodup
    intro n hn hn'
    have := h.number_lt n hn
    have := (hopens.number_mem n hn').1
    omega
  · intro n hn
    rw [numbers_append, List.mem_append] at hn
    rcases hn with hn | hn
    · have := h.number_lt n hn
      omega
    · exact (hopens.number_mem n hn).2
  · intro n hn
    rw [closedNumbers, hown, numbers_append, List.mem_append] at hn
    rcases hn with hn | hn
    · have := h.closed_lt n hn
      omega
    · obtain ⟨c, hc, rfl⟩ := List.mem_map.mp hn
      exact (hrange c hc).2.1
  · have hbefore : s.closingsOf (children ++ cs) = s.closingsOf children := by
      apply List.filter_congr
      intro c hc
      have hlt := h.closed_lt c.number (List.mem_map_of_mem hc)
      have hnot : c.number ∉ numbers cs := by
        intro hmem
        have := (hopens.number_mem _ hmem).1
        omega
      rw [numbers_append]
      simp [hnot]
    have hbetween : own.filter (fun c => c.number ∈ numbers (children ++ cs)) = [] := by
      rw [List.filter_eq_nil_iff]
      intro c hc
      obtain ⟨hge, -, hnot⟩ := hrange c hc
      rw [numbers_append, decide_eq_true_iff, List.mem_append]
      rintro (hmem | hmem)
      · have := h.number_lt _ hmem
        omega
      · exact hnot hmem
    rw [← h.closingsOf_eq, ← hbefore, closingsOf, hown, List.filter_append, hbetween,
      List.append_nil]
    rfl

theorem holds_nil (hclosed : ∀ n ∈ s.closedNumbers, n < s.opened) :
  s.Holds [] [] []
  := by
  constructor
  · exact .nil
  · exact List.nodup_nil
  · intro n hn
    cases hn
  · exact hclosed
  · simp [closingsOf, numbers]

/-- Only what was opened and closed counts. -/
theorem Holds.congr (h : s.Holds children held closed) (hopened : s'.opened = s.opened)
    (hclosings : s'.closings = s.closings) :
  s'.Holds children held closed
  := by
  have hopens := h.opens (opens_nil hopened.ge hclosings)
  rwa [List.append_nil, List.nil_append] at hopens

/-- The order in which children are held does not count. -/
theorem Holds.of_perm (h : s.Holds children held closed) {held' : List Child}
    (hperm : held.Perm held') :
  s.Holds children held' closed
  := ⟨h.perm.trans (hperm.append_right closed), h.nodup, h.number_lt, h.closed_lt, h.closingsOf_eq⟩

/-- Held children are closed, each once, and the others stay held. -/
theorem Holds.closes (h : s.Holds children (cs ++ held) closed) :
  s.Closes cs (s.closeChildren cs) ∧ (s.closeChildren cs).Holds children held (closed ++ cs)
  := by
  have hnumbers := (h.perm.map Child.number).nodup_iff.mp h.nodup
  have hmem : ∀ c ∈ cs, c.number ∈ numbers children := by
    intro c hc
    apply (h.perm.map _).mem_iff.mpr
    apply List.mem_map_of_mem
    exact List.mem_append_left _ (List.mem_append_left _ hc)
  rw [closeChildren_eq]
  constructor
  · constructor
    · rfl
    · rfl
    · rw [List.map_append, List.map_append] at hnumbers
      exact hnumbers.of_append_left.of_append_left
    · intro c hc
      exact h.isOpen_of_mem (List.mem_append_left _ hc)
  · constructor
    · apply h.perm.trans
      rw [List.append_assoc, ← List.append_assoc held]
      exact List.perm_append_comm
    · exact h.nodup
    · exact h.number_lt
    · intro n hn
      rw [closedNumbers, numbers_append, List.mem_append] at hn
      rcases hn with hn | hn
      · exact h.closed_lt n hn
      · obtain ⟨c, hc, rfl⟩ := List.mem_map.mp hn
        exact h.number_lt _ (hmem c hc)
    · have hnow : cs.filter (fun c => c.number ∈ numbers children) = cs :=
        List.filter_eq_self.mpr fun c hc => decide_eq_true (hmem c hc)
      rw [← h.closingsOf_eq, closingsOf, List.filter_append, hnow]
      rfl

/-- None of the children is asked to close twice. -/
theorem Holds.count_le_one (h : s.Holds children held closed) {n : Nat}
    (hn : n ∈ numbers children) :
  s.closedNumbers.count n ≤ 1
  := by
  have hcount : (numbers (s.closingsOf children)).count n = s.closedNumbers.count n := by
    simp only [closedNumbers, closingsOf, numbers, List.count_eq_countP, List.countP_map,
      List.countP_filter]
    apply List.countP_congr
    intro c _
    simp only [Function.comp_apply, beq_iff_eq, Bool.and_eq_true]
    constructor
    · exact And.left
    · rintro rfl
      exact ⟨rfl, decide_eq_true hn⟩
  have hnodup := (h.perm.map Child.number).nodup_iff.mp h.nodup
  rw [List.map_append] at hnodup
  rw [← hcount, h.closingsOf_eq]
  exact List.nodup_iff_count_le_one.mp hnodup.of_append_right n

end Session

end GridUnion
