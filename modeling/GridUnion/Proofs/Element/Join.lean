import GridUnion.Element.Join
import GridUnion.Proofs.Success
import Mathlib.Data.List.Basic

/-!
# The common type of numbers

Types of numbers always have a common type, and it admits the values of all of them.  The proof
follows the rounds of meetings: of two families that meet, the one of the higher rank goes on, and
the other is left behind unless the first one admits it.  So the leader has the highest rank and
knows of all others, and together with those left behind it admits every family.
-/

namespace GridUnion

namespace ElementType

/-- Whether the values of the second type of numbers go into the first one: reals take all numbers,
and integers those that are within their bounds. -/
def admits : ElementType → ElementType → Bool
  | single, t | double, t => t.isNumeric
  | signed w, signed v | unsigned w, unsigned v => v.bits ≤ w.bits
  | signed w, unsigned v => v.bits < w.bits
  | signed _, bool | unsigned _, bool | bool, bool => true
  | _, _ => false

variable {a b r s t : ElementType}

/-! ### Families of numbers

There are few types of numbers, so that what holds of two or three of them is found by trying. -/

theorem mem_plainTypes (h : t.isNumeric) :
  t ∈ plainTypes
  := by
  cases t with
  | bool | single | double => decide
  | signed w | unsigned w => cases w <;> decide
  | _ => cases h

theorem admits_self (h : t.isNumeric) :
  t.admits t
  := by
  have hall : ∀ t ∈ plainTypes, t.isNumeric → t.admits t := by decide
  exact hall t (mem_plainTypes h) h

theorem admits_trans (ht : t.isNumeric) (hs : s.isNumeric) (hr : r.isNumeric)
    (hts : t.admits s) (hsr : s.admits r) :
  t.admits r
  := by
  have hall : ∀ t ∈ plainTypes, ∀ s ∈ plainTypes, t.admits s →
      ∀ r ∈ plainTypes, s.admits r → t.admits r := by decide
  exact hall t (mem_plainTypes ht) s (mem_plainTypes hs) hts r (mem_plainTypes hr) hsr

/-- A family of numbers knows of those that are not ranked above it. -/
theorem exists_joinKnown? (ha : a.isNumeric) (hb : b.isNumeric) (hrank : b.rank ≤ a.rank) :
  ∃ t, joinKnown? a b = some t ∧ t.isNumeric ∧ t.admits a ∧ t.admits b
  := by
  have hall : ∀ a ∈ plainTypes, ∀ b ∈ plainTypes, a.isNumeric → b.isNumeric → b.rank ≤ a.rank →
      ∃ t ∈ joinKnown? a b, t.isNumeric ∧ t.admits a ∧ t.admits b := by decide
  exact hall a (mem_plainTypes ha) b (mem_plainTypes hb) ha hb hrank

theorem exists_joinFamilies? (ha : a.isNumeric) (hb : b.isNumeric) :
  ∃ t, joinFamilies? a b = some t ∧ t.isNumeric ∧ t.admits a ∧ t.admits b
  := by
  have hall : ∀ a ∈ plainTypes, ∀ b ∈ plainTypes, a.isNumeric → b.isNumeric →
      ∃ t ∈ joinFamilies? a b, t.isNumeric ∧ t.admits a ∧ t.admits b := by decide
  exact hall a (mem_plainTypes ha) b (mem_plainTypes hb) ha hb

/-- The families of a meeting that are still there. -/
def Meeting.parties (m : Meeting) : List ElementType := m.onward :: m.behind.toList

/-- What there is after two families have met. -/
structure Meets (a b : ElementType) (m : Meeting) : Prop where
  mem : ∀ g ∈ m.parties, g = a ∨ g = b
  rank_le : a.rank ≤ m.onward.rank ∧ b.rank ≤ m.onward.rank
  admits : ∀ f ∈ [a, b], ∃ g ∈ m.parties, g.admits f
  joined : ∀ t ∈ m.joined, t.isNumeric ∧ ∀ g ∈ m.parties, t.admits g

theorem meets_meet (ha : a.isNumeric) (hb : b.isNumeric) :
  Meets a b (meet a b)
  := by
  have hall : ∀ a ∈ plainTypes, ∀ b ∈ plainTypes, a.isNumeric → b.isNumeric →
      (∀ g ∈ (meet a b).parties, g = a ∨ g = b)
      ∧ (a.rank ≤ (meet a b).onward.rank ∧ b.rank ≤ (meet a b).onward.rank)
      ∧ (∀ f ∈ [a, b], ∃ g ∈ (meet a b).parties, g.admits f)
      ∧ ∀ t ∈ (meet a b).joined, t.isNumeric ∧ ∀ g ∈ (meet a b).parties, t.admits g := by decide
  obtain ⟨hmem, hrank, hadmits, hjoined⟩ := hall a (mem_plainTypes ha) b (mem_plainTypes hb) ha hb
  exact ⟨hmem, hrank, hadmits, hjoined⟩

/-! ### One round -/

section Round

variable {α : Type} (l : List α)

/-- The pairs that meet in a round: the first with the last, the second with the last but one. -/
def pairing : List (α × α) :=
  (l.take (l.length / 2)).zip ((l.drop (l.length / 2)).drop (spare l).length).reverse
where
  /-- The one in the middle of an odd round. -/
  spare (l : List α) : List α := (l.drop (l.length / 2)).take (l.length - 2 * (l.length / 2))

open pairing (spare)

theorem length_spare :
  (spare l).length = l.length - 2 * (l.length / 2)
  := by
  simp only [spare, List.length_take, List.length_drop]
  omega

theorem map_fst_pairing :
  (pairing l).map Prod.fst = l.take (l.length / 2)
  := by
  apply List.map_fst_zip
  simp only [List.length_reverse, List.length_take, List.length_drop, length_spare]
  omega

theorem map_snd_pairing :
  (pairing l).map Prod.snd = ((l.drop (l.length / 2)).drop (spare l).length).reverse
  := by
  apply List.map_snd_zip
  simp only [List.length_reverse, List.length_take, List.length_drop, length_spare]
  omega

/-- In a round everyone is in a pair or in the middle. -/
theorem mem_iff_pairing {x : α} :
  x ∈ l ↔ x ∈ spare l ∨ ∃ p ∈ pairing l, x ∈ [p.1, p.2]
  := by
  have hpairs : (∃ p ∈ pairing l, x ∈ [p.1, p.2])
      ↔ x ∈ (pairing l).map Prod.fst ∨ x ∈ (pairing l).map Prod.snd := by
    simp only [List.mem_map, List.mem_cons, List.not_mem_nil, or_false]
    grind
  rw [hpairs, map_fst_pairing, map_snd_pairing, List.mem_reverse]
  conv_lhs =>
    rw [← List.take_append_drop (l.length / 2) l,
      ← List.take_append_drop (spare l).length (l.drop (l.length / 2))]
  rw [List.mem_append, List.mem_append]
  have hspare : (l.drop (l.length / 2)).take (spare l).length = spare l := by
    rw [length_spare]
    rfl
  rw [hspare]
  tauto

theorem mem_of_mem_pairing {p : α × α} (hp : p ∈ pairing l) :
  p.1 ∈ l ∧ p.2 ∈ l
  := by
  constructor
  · exact (mem_iff_pairing l).mpr (.inr ⟨p, hp, by simp⟩)
  · exact (mem_iff_pairing l).mpr (.inr ⟨p, hp, by simp⟩)

end Round

open pairing (spare)

/-- The families that go on from a round. -/
def onwards (fs : List ElementType) : List ElementType :=
  (pairing fs).map (fun p => (meet p.1 p.2).onward) ++ spare fs

/-- The families that are left behind in a round. -/
def behinds (fs : List ElementType) : List (Option ElementType) :=
  ((pairing fs).map fun p => (meet p.1 p.2).behind).reverse

theorem rounds_succ (fuel : Nat) {fs : List ElementType} (h : 3 ≤ fs.length) :
  rounds (fuel + 1) fs
    = (rounds fuel (onwards fs)).map fun r => { r with others := r.others ++ behinds fs }
  := by
  match fs, h with
  | a :: b :: c :: fs, _ =>
    rw [rounds]
    · simp only [onwards, behinds, pairing, List.map_zip_eq_zipWith, List.map_zipWith]
      rfl
    · simp
    · simp
    · simp

theorem length_onwards_lt {fs : List ElementType} (h : 3 ≤ fs.length) :
  (onwards fs).length < fs.length
  := by
  have hpairs := congrArg List.length (map_fst_pairing fs)
  simp only [List.length_map, List.length_take] at hpairs
  simp only [onwards, List.length_append, List.length_map, length_spare, hpairs]
  omega

section Numbers

variable {fs : List ElementType} (hnum : ∀ f ∈ fs, f.isNumeric)

include hnum

theorem meets_of_mem_pairing {p : ElementType × ElementType} (hp : p ∈ pairing fs) :
  Meets p.1 p.2 (meet p.1 p.2)
  := by
  obtain ⟨h₁, h₂⟩ := mem_of_mem_pairing fs hp
  exact meets_meet (hnum _ h₁) (hnum _ h₂)

theorem mem_of_mem_parties {p : ElementType × ElementType} (hp : p ∈ pairing fs) {g : ElementType}
    (hg : g ∈ (meet p.1 p.2).parties) :
  g ∈ fs
  := by
  obtain ⟨h₁, h₂⟩ := mem_of_mem_pairing fs hp
  rcases (meets_of_mem_pairing hnum hp).mem g hg with rfl | rfl
  · exact h₁
  · exact h₂

theorem mem_of_mem_onwards {g : ElementType} (hg : g ∈ onwards fs) :
  g ∈ fs
  := by
  rcases List.mem_append.mp hg with hg | hg
  · obtain ⟨p, hp, rfl⟩ := List.mem_map.mp hg
    exact mem_of_mem_parties hnum hp List.mem_cons_self
  · exact (mem_iff_pairing fs).mpr (.inl hg)

theorem mem_of_mem_behinds {g : ElementType} (hg : some g ∈ behinds fs) :
  g ∈ fs
  := by
  obtain ⟨p, hp, hbehind⟩ := List.mem_map.mp (List.mem_reverse.mp hg)
  apply mem_of_mem_parties hnum hp
  simp [Meeting.parties, hbehind]

/-- A round goes on with a family at least as high in rank. -/
theorem exists_rank_le_onwards {f : ElementType} (hf : f ∈ fs) :
  ∃ g ∈ onwards fs, f.rank ≤ g.rank
  := by
  rcases (mem_iff_pairing fs).mp hf with hf | ⟨p, hp, hf⟩
  · exact ⟨f, List.mem_append_right _ hf, Nat.le_refl _⟩
  · use (meet p.1 p.2).onward, List.mem_append_left _ (List.mem_map_of_mem hp)
    obtain ⟨h₁, h₂⟩ := (meets_of_mem_pairing hnum hp).rank_le
    simp only [List.mem_cons, List.not_mem_nil, or_false] at hf
    rcases hf with rfl | rfl
    · exact h₁
    · exact h₂

/-- After a round each family is admitted by one that goes on or is left behind. -/
theorem exists_admits_after_round {f : ElementType} (hf : f ∈ fs) :
  ∃ g, (g ∈ onwards fs ∨ some g ∈ behinds fs) ∧ g.admits f
  := by
  rcases (mem_iff_pairing fs).mp hf with hspare | ⟨p, hp, hf⟩
  · exact ⟨f, .inl (List.mem_append_right _ hspare), admits_self (hnum f hf)⟩
  · obtain ⟨g, hg, hadmits⟩ := (meets_of_mem_pairing hnum hp).admits f hf
    use g
    constructor
    · rcases List.mem_cons.mp hg with rfl | hg
      · exact .inl (List.mem_append_left _ (List.mem_map_of_mem hp))
      · right
        apply List.mem_reverse.mpr
        exact List.mem_map.mpr ⟨p, hp, by simpa using hg⟩
    · exact hadmits

end Numbers

/-! ### All rounds -/

/-- The families that are still there after all rounds. -/
def Ranking.survivors (r : Ranking) : List ElementType :=
  r.leader :: (r.second :: r.others).filterMap id

/-- What there is after the rounds of several families. -/
structure Leads (fs : List ElementType) (r : Ranking) : Prop where
  mem : ∀ g ∈ r.survivors, g ∈ fs
  rank_le : ∀ f ∈ fs, f.rank ≤ r.leader.rank
  admits : ∀ f ∈ fs, ∃ g ∈ r.survivors, g.admits f
  joined : ∀ t ∈ r.joined, t.isNumeric ∧ t.admits r.leader ∧ ∀ g ∈ r.second, t.admits g
  joined_of : ∀ t ∈ r.joined, t ∈ fs ∨ ∃ a ∈ fs, ∃ b ∈ fs, joinKnown? a b = some t

theorem mem_survivors_append {r : Ranking} {behind : List (Option ElementType)} {g : ElementType} :
  g ∈ Ranking.survivors { r with others := r.others ++ behind }
    ↔ g ∈ r.survivors ∨ some g ∈ behind
  := by
  simp [Ranking.survivors, or_assoc]

/-- What leads the families that go on from a round leads all families of the round, together with
those left behind. -/
theorem Leads.of_onwards {fs : List ElementType} (hnum : ∀ f ∈ fs, f.isNumeric) {r : Ranking}
    (h : Leads (onwards fs) r) :
  Leads fs { r with others := r.others ++ behinds fs }
  := by
  constructor
  · intro g hg
    rcases mem_survivors_append.mp hg with hg | hg
    · exact mem_of_mem_onwards hnum (h.mem g hg)
    · exact mem_of_mem_behinds hnum hg
  · intro f hf
    obtain ⟨g, hg, hrank⟩ := exists_rank_le_onwards hnum hf
    exact Nat.le_trans hrank (h.rank_le g hg)
  · intro f hf
    obtain ⟨g, hg | hg, hgf⟩ := exists_admits_after_round hnum hf
    · obtain ⟨s, hs, hsg⟩ := h.admits g hg
      have hsnum := hnum s (mem_of_mem_onwards hnum (h.mem s hs))
      have hgnum := hnum g (mem_of_mem_onwards hnum hg)
      use s, mem_survivors_append.mpr (.inl hs)
      exact admits_trans hsnum hgnum (hnum f hf) hsg hgf
    · exact ⟨g, mem_survivors_append.mpr (.inr hg), hgf⟩
  · exact h.joined
  · intro t ht
    have hmem : ∀ g ∈ onwards fs, g ∈ fs := fun g hg => mem_of_mem_onwards hnum hg
    rcases h.joined_of t ht with ht | ⟨a, ha, b, hb, hknown⟩
    · exact .inl (hmem t ht)
    · exact .inr ⟨a, hmem a ha, b, hmem b hb, hknown⟩

theorem leads_singleton (ha : a.isNumeric) :
  Leads [a] ⟨a, some a, none, []⟩
  := by
  constructor
  · simp [Ranking.survivors]
  · simp
  · simpa [Ranking.survivors] using admits_self ha
  · simpa using ⟨ha, admits_self ha⟩
  · simp

theorem joined_meet (a b : ElementType) :
  (meet a b).joined = joinKnown? a b
  := by
  cases h : joinKnown? a b with
  | none | some t => simp [meet, h]

theorem leads_pair (ha : a.isNumeric) (hb : b.isNumeric) :
  Leads [a, b] ⟨(meet a b).onward, (meet a b).joined, (meet a b).behind, []⟩
  := by
  have hmeets := meets_meet ha hb
  have hsurvivors : ∀ g, g ∈ Ranking.survivors
      ⟨(meet a b).onward, (meet a b).joined, (meet a b).behind, []⟩ ↔ g ∈ (meet a b).parties := by
    intro g
    cases hbehind : (meet a b).behind with
    | none | some c => simp [Ranking.survivors, Meeting.parties, hbehind]
  constructor
  · intro g hg
    simpa using hmeets.mem g ((hsurvivors g).mp hg)
  · simpa using hmeets.rank_le
  · intro f hf
    obtain ⟨g, hg, hgf⟩ := hmeets.admits f hf
    exact ⟨g, (hsurvivors g).mpr hg, hgf⟩
  · intro t ht
    obtain ⟨htnum, hadmits⟩ := hmeets.joined t ht
    use htnum, hadmits _ List.mem_cons_self
    intro g hg
    apply hadmits
    simpa [Meeting.parties] using .inr hg
  · rw [joined_meet]
    intro t ht
    exact .inr ⟨a, by simp, b, by simp, ht⟩

theorem exists_leads_of_length_le {fs : List ElementType} (hne : fs ≠ []) (hlength : fs.length ≤ 2)
    (hnum : ∀ f ∈ fs, f.isNumeric) :
  ∃ r, (∀ fuel, rounds fuel fs = some r) ∧ Leads fs r
  := by
  match fs with
  | [a] =>
    refine ⟨_, ?_, leads_singleton (hnum a (by simp))⟩
    simp [rounds]
  | [a, b] =>
    refine ⟨_, ?_, leads_pair (hnum a (by simp)) (hnum b (by simp))⟩
    simp [rounds]

/-- The rounds of several families of numbers come to an end. -/
theorem exists_leads (fuel : Nat) {fs : List ElementType} (hne : fs ≠ [])
    (hfuel : fs.length ≤ fuel + 2) (hnum : ∀ f ∈ fs, f.isNumeric) :
  ∃ r, rounds fuel fs = some r ∧ Leads fs r
  := by
  induction fuel generalizing fs with
  | zero =>
    obtain ⟨r, hr, hleads⟩ := exists_leads_of_length_le hne hfuel hnum
    exact ⟨r, hr 0, hleads⟩
  | succ fuel ih =>
    by_cases hlength : fs.length ≤ 2
    · obtain ⟨r, hr, hleads⟩ := exists_leads_of_length_le hne hlength hnum
      exact ⟨r, hr _, hleads⟩
    · have hlt := length_onwards_lt (Nat.lt_of_not_le hlength)
      have honwards : onwards fs ≠ [] := by
        obtain ⟨f, hf⟩ := List.exists_mem_of_ne_nil fs hne
        obtain ⟨g, hg, -⟩ := exists_rank_le_onwards hnum hf
        exact List.ne_nil_of_mem hg
      obtain ⟨r, hr, hleads⟩ := ih honwards (by omega) fun g hg => hnum g (mem_of_mem_onwards hnum hg)
      use { r with others := r.others ++ behinds fs }
      constructor
      · rw [rounds_succ fuel (Nat.lt_of_not_le hlength), hr]
        rfl
      · exact hleads.of_onwards hnum

/-! ### The families that follow a leader -/

section Follow

variable {leader : ElementType} (hleader : leader.isNumeric)

include hleader

/-- A leader joins a follower that is not ranked above it to what it has joined before. -/
theorem exists_follow {f : ElementType} (hf : f.isNumeric) (hrank : f.rank ≤ leader.rank)
    {joined : Option ElementType} (hjoined : ∀ u ∈ joined, u.isNumeric ∧ u.admits leader) :
  ∃ t, follow leader joined f = .ok (some t) ∧ t.isNumeric ∧ t.admits leader ∧ t.admits f
    ∧ ∀ u ∈ joined, t.admits u
  := by
  obtain ⟨t, ht, htnum, htleader, htf⟩ := exists_joinKnown? hleader hf hrank
  cases joined with
  | none =>
    use t
    simp [follow, ht, htnum, htleader, htf]
  | some u =>
    obtain ⟨hu, huleader⟩ := hjoined u rfl
    obtain ⟨v, hv, hvnum, hvu, hvt⟩ := exists_joinFamilies? hu htnum
    use v
    have hvleader := admits_trans hvnum hu hleader hvu huleader
    have hvf := admits_trans hvnum htnum hf hvt htf
    simp [follow, ht, hv, hvnum, hvleader, hvf, hvu]

/-- What a leader and its followers have in common admits all of them, and what was joined before. -/
theorem exists_foldlM_follow {followers : List ElementType}
    (hfollowers : ∀ f ∈ followers, f.isNumeric ∧ f.rank ≤ leader.rank) (joined : Option ElementType)
    (hjoined : ∀ u ∈ joined, u.isNumeric ∧ u.admits leader) :
  ∃ last, followers.foldlM (follow leader) joined = .ok last
    ∧ (last.getD leader).isNumeric ∧ (last.getD leader).admits leader
    ∧ (∀ u ∈ joined, (last.getD leader).admits u) ∧ ∀ f ∈ followers, (last.getD leader).admits f
  := by
  induction followers generalizing joined with
  | nil =>
    use joined, rfl
    cases joined with
    | none => simpa using ⟨hleader, admits_self hleader⟩
    | some u =>
      obtain ⟨hu, huleader⟩ := hjoined u rfl
      simpa using ⟨hu, huleader, admits_self hu⟩
  | cons f fs ih =>
    obtain ⟨⟨hf, hrank⟩, hfs⟩ := List.forall_mem_cons.mp hfollowers
    obtain ⟨t, ht, htnum, htleader, htf, htjoined⟩ := exists_follow hleader hf hrank hjoined
    obtain ⟨last, hlast, hnum, hadmits, hlastt, hlastfs⟩ :=
      ih hfs (some t) (by simpa using ⟨htnum, htleader⟩)
    have hlastt := hlastt t rfl
    refine ⟨last, ?_, hnum, hadmits, ?_, ?_⟩
    · rw [List.foldlM_cons, ht]
      exact hlast
    · intro u hu
      exact admits_trans hnum htnum (hjoined u hu).1 hlastt (htjoined u hu)
    · intro g hg
      rcases List.mem_cons.mp hg with rfl | hg
      · exact admits_trans hnum htnum hf hlastt htf
      · exact hlastfs g hg

end Follow

/-- The families that are left after all rounds have a common family. -/
theorem Leads.exists_commonFamily {fs : List ElementType} {r : Ranking} (h : Leads fs r)
    (hnum : ∀ f ∈ fs, f.isNumeric) (hr : rounds fs.length fs = some r) :
  ∃ t, commonFamily fs = .ok t ∧ t.isNumeric ∧ ∀ g ∈ r.survivors, t.admits g
  := by
  have hsurvivors : ∀ g ∈ r.survivors, g.isNumeric ∧ g.rank ≤ r.leader.rank := fun g hg =>
    ⟨hnum g (h.mem g hg), h.rank_le g (h.mem g hg)⟩
  have hleader := (hsurvivors r.leader List.mem_cons_self).1
  have hfollowers : ∀ g ∈ (r.second :: r.others).filterMap id,
      g.isNumeric ∧ g.rank ≤ r.leader.rank := fun g hg => hsurvivors g (List.mem_cons_of_mem _ hg)
  rw [commonFamily, hr]
  -- The second one follows only if nothing was joined with it in the last meeting.
  cases hj : r.joined with
  | none =>
    obtain ⟨last, hlast, hlastnum, hlastleader, -, hadmits⟩ :=
      exists_foldlM_follow hleader hfollowers none (by simp)
    use last.getD r.leader
    refine ⟨?_, hlastnum, ?_⟩
    · simp only [hj, hlast]
      rfl
    · intro g hg
      rcases List.mem_cons.mp hg with rfl | hg
      · exact hlastleader
      · exact hadmits g hg
  | some u =>
    obtain ⟨hunum, huleader, husecond⟩ := h.joined u hj
    have hothers : ∀ g ∈ r.others.filterMap id, g.isNumeric ∧ g.rank ≤ r.leader.rank := by
      intro g hg
      apply hfollowers
      simp only [List.mem_filterMap, id_eq, exists_eq_right] at hg ⊢
      exact List.mem_cons_of_mem _ hg
    obtain ⟨last, hlast, hlastnum, hlastleader, hlastu, hadmits⟩ :=
      exists_foldlM_follow hleader hothers (some u) (by simpa using ⟨hunum, huleader⟩)
    use last.getD r.leader
    refine ⟨?_, hlastnum, ?_⟩
    · simp only [hj, hlast]
      rfl
    · intro g hg
      simp only [Ranking.survivors, List.mem_cons, List.mem_filterMap, id_eq,
        exists_eq_right] at hg
      rcases hg with rfl | hsecond | hg
      · exact hlastleader
      · have hgnum := hfollowers g (by simp [hsecond])
        exact admits_trans hlastnum hunum hgnum.1 (hlastu u rfl) (husecond g hsecond.symm)
      · exact hadmits g (by simpa using hg)

/-- Families of numbers have a common family, which admits the values of all of them. -/
theorem exists_commonFamily {fs : List ElementType} (hne : fs ≠ []) (hnum : ∀ f ∈ fs, f.isNumeric) :
  ∃ t, commonFamily fs = .ok t ∧ t.isNumeric ∧ ∀ f ∈ fs, t.admits f
  := by
  obtain ⟨r, hr, hleads⟩ := exists_leads fs.length hne (by omega) hnum
  obtain ⟨t, ht, htnum, hadmits⟩ := hleads.exists_commonFamily hnum hr
  refine ⟨t, ht, htnum, ?_⟩
  intro f hf
  obtain ⟨g, hg, hgf⟩ := hleads.admits f hf
  exact admits_trans htnum (hnum g (hleads.mem g hg)) (hnum f hf) (hadmits g hg) hgf

theorem family_eq_self (h : t.isNumeric) :
  t.family = t
  := by
  cases t with
  | text | instant | duration => cases h
  | _ => rfl

theorem inFamily_eq_ok (types : List ElementType) (h : t.isNumeric) :
  inFamily types t = .ok t
  := by
  cases t with
  | text | instant | duration => cases h
  | _ => rfl

/-- Types of numbers have a common type, which admits the values of all of them. -/
theorem exists_commonOf {types : List ElementType} (hne : types ≠ [])
    (hnum : ∀ t ∈ types, t.isNumeric) :
  ∃ t, commonOf types = .ok t ∧ t.isNumeric ∧ ∀ s ∈ types, t.admits s
  := by
  obtain ⟨t, ht, htnum, hadmits⟩ := exists_commonFamily hne hnum
  have hfamilies : types.map family = types :=
    (List.map_congr_left fun s hs => family_eq_self (hnum s hs)).trans (List.map_id types)
  match types with
  | s :: rest =>
    by_cases hall : rest.all (· == s)
    · have hs := hnum s List.mem_cons_self
      refine ⟨s, by simp [commonOf, hall], hs, ?_⟩
      intro r hr
      rcases List.mem_cons.mp hr with rfl | hr
      · exact admits_self hs
      · have heq := List.all_eq_true.mp hall r hr
        rw [eq_of_beq heq]
        exact admits_self hs
    · refine ⟨t, ?_, htnum, hadmits⟩
      rw [commonOf, if_neg hall, hfamilies, ht]
      exact inFamily_eq_ok _ htnum

/-! ### Types that are closed under joins -/

section Closed

variable {S : ElementType → Prop}
  (hS : ∀ {a b t : ElementType}, S a → S b → joinKnown? a b = some t → S t)

include hS

theorem closed_joinFamilies? (ha : S a) (hb : S b) (h : joinFamilies? a b = some t) :
  S t
  := by
  rw [joinFamilies?, Option.or_eq_some_iff] at h
  rcases h with h | ⟨-, h⟩
  · exact hS ha hb h
  · exact hS hb ha h

theorem closed_foldlM_follow {leader : ElementType} (hleader : S leader) {followers : List ElementType}
    (hfollowers : ∀ f ∈ followers, S f) {joined last : Option ElementType}
    (hjoined : ∀ u ∈ joined, S u) (h : followers.foldlM (follow leader) joined = .ok last) :
  ∀ u ∈ last, S u
  := by
  induction followers generalizing joined with
  | nil =>
    obtain rfl : joined = last := Except.ok.inj h
    exact hjoined
  | cons f fs ih =>
    obtain ⟨hf, hfs⟩ := List.forall_mem_cons.mp hfollowers
    rw [List.foldlM_cons] at h
    cases hknown : joinKnown? leader f with
    | none => simp [follow, hknown, bind, Except.bind] at h
    | some t =>
      have ht := hS hleader hf hknown
      cases joined with
      | none =>
        simp only [follow, hknown, bind, Except.bind] at h
        exact ih hfs (by simpa using ht) h
      | some u =>
        simp only [follow, hknown, bind, Except.bind] at h
        apply ih hfs ?_ h
        intro v hv
        exact closed_joinFamilies? hS (hjoined u rfl) ht hv

theorem closed_commonFamily {fs : List ElementType} (hne : fs ≠ []) (hnum : ∀ f ∈ fs, f.isNumeric)
    (hfs : ∀ f ∈ fs, S f) (h : commonFamily fs = .ok t) :
  S t
  := by
  obtain ⟨r, hr, hleads⟩ := exists_leads fs.length hne (by omega) hnum
  have hsurvivors : ∀ g ∈ r.survivors, S g := fun g hg => hfs g (hleads.mem g hg)
  have hleader : S r.leader := hsurvivors r.leader List.mem_cons_self
  have hjoined : ∀ u ∈ r.joined, S u := by
    intro u hu
    rcases hleads.joined_of u hu with hu | ⟨a, ha, b, hb, hknown⟩
    · exact hfs u hu
    · exact hS (hfs a ha) (hfs b hb) hknown
  rw [commonFamily, hr] at h
  obtain ⟨last, hlast, heq⟩ := bind_eq_ok_iff.mp h
  obtain rfl := Except.ok.inj heq
  have hlastS : ∀ u ∈ last, S u := by
    apply closed_foldlM_follow hS hleader ?_ hjoined hlast
    intro f hf
    apply hsurvivors
    apply List.mem_cons_of_mem
    cases hj : r.joined with
    | none => simpa [hj] using hf
    | some u =>
      have hmem : some f ∈ r.others := by simpa [hj] using hf
      simpa using .inr hmem
  cases last with
  | none => exact hleader
  | some u => exact hlastS u rfl

/-- The common type of types of numbers is in every closure of them. -/
theorem closed_commonOf {types : List ElementType} (hne : types ≠ [])
    (hnum : ∀ t ∈ types, t.isNumeric) (htypes : ∀ t ∈ types, S t) (h : commonOf types = .ok t) :
  S t
  := by
  obtain ⟨family, hfamily, hfamilynum, -⟩ := exists_commonFamily hne hnum
  have hfamilies : types.map ElementType.family = types :=
    (List.map_congr_left fun s hs => family_eq_self (hnum s hs)).trans (List.map_id types)
  match types with
  | s :: rest =>
    rw [commonOf] at h
    split at h
    · obtain rfl : s = t := Except.ok.inj h
      exact htypes s List.mem_cons_self
    · rw [hfamilies, hfamily] at h
      have hcommon := (inFamily_eq_ok (s :: rest) hfamilynum).symm.trans h
      obtain rfl := Except.ok.inj hcommon
      exact closed_commonFamily hS hne hnum htypes hfamily

end Closed

end ElementType

end GridUnion
