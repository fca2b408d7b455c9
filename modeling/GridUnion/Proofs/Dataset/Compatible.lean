import GridUnion.Proofs.Axis.Numbers
import GridUnion.Proofs.Block.Equality
import GridUnion.Proofs.Dataset.Build

/-!
# Compatible children

Children are put side by side exactly if any two of them agree in all dimensions but the merged one,
no variable is in two of them, and their axes are merged.  They are compared with the first child
only, which is enough because equality is symmetric and transitive.
-/

namespace GridUnion

/-- Whether a value is text, or nothing. -/
def Value.isTextual : Value → Bool
  | null | text _ => true
  | _ => false

/-- Texts, and nothing, are compared; they differ unless they are the same. -/
theorem Value.exists_differs {u v : Value} (hu : u.isTextual) (hv : v.isTextual) :
  ∃ r, u.differs v = .ok r ∧ (r = false ↔ u = v)
  := by
  cases u with
  | null =>
    cases v with
    | null => exact ⟨false, rfl, by simp⟩
    | text t => exact ⟨true, rfl, by simp⟩
    | _ => cases hv
  | text s =>
    cases v with
    | null => exact ⟨true, rfl, by simp⟩
    | text t =>
      refine ⟨!(s == t), rfl, ?_⟩
      simp
    | _ => cases hv
  | _ => cases hu

namespace Child

/-- Children whose other dimensions are compared without a failure: the values of a dimension are of
one type, on which equality is transitive, and its units are text if there are any. -/
structure AreComparable (children : List Child) : Prop where
  isBuilt : ∀ c ∈ children, c.IsBuilt
  isTextual : ∀ c ∈ children, ∀ dim ∈ c.others, (c.units dim).isTextual
  type_eq : ∀ a ∈ children, ∀ b ∈ children, ∀ dim ∈ a.others, dim ∈ b.others →
    ∀ x y, a.grid.values dim = .ok x → b.grid.values dim = .ok y → x.type = y.type
  trans : ∀ a ∈ children, ∀ b ∈ children, ∀ c ∈ children, ∀ dim ∈ a.others, dim ∈ b.others →
    dim ∈ c.others → ∀ x y z, a.grid.values dim = .ok x → b.grid.values dim = .ok y →
    c.grid.values dim = .ok z →
    ∀ r ∈ x.scalars, ∀ s ∈ y.scalars, ∀ t ∈ z.scalars, r.equals s → s.equals t → r.equals t

/-- Equality is transitive among values that are of the kind that their type says. -/
theorem areComparable_of_isKindOf {children : List Child} (hbuilt : ∀ c ∈ children, c.IsBuilt)
    (htextual : ∀ c ∈ children, ∀ dim ∈ c.others, (c.units dim).isTextual)
    (htype : ∀ a ∈ children, ∀ b ∈ children, ∀ dim ∈ a.others, dim ∈ b.others →
      ∀ x y, a.grid.values dim = .ok x → b.grid.values dim = .ok y → x.type = y.type)
    (hkind : ∀ c ∈ children, ∀ dim ∈ c.others, ∀ x, c.grid.values dim = .ok x →
      ∀ e ∈ x.data, Scalar.IsKindOf x.type e) :
  AreComparable children
  := by
  refine ⟨hbuilt, htextual, htype, ?_⟩
  intro a ha b hb c hc dim hdim hdim' hdim'' x y z hx hy hz r hr s hs t ht hrs hst
  have hxy := htype a ha b hb dim hdim hdim' x y hx hy
  have hxz := htype a ha c hc dim hdim hdim'' x z hx hz
  obtain ⟨d, hd, rfl⟩ := List.mem_map.mp hr
  obtain ⟨e, he, rfl⟩ := List.mem_map.mp hs
  obtain ⟨f, hf, rfl⟩ := List.mem_map.mp ht
  have hd := hkind a ha dim hdim x hx d hd
  have he := hkind b hb dim hdim' y hy e he
  have hf := hkind c hc dim hdim'' z hz f hf
  rw [← hxy] at he hrs hst
  rw [← hxz] at hf hst
  simp only [hd.ofCell_eq, he.ofCell_eq, hf.ofCell_eq, ← hxz] at hrs hst ⊢
  exact Scalar.equals_trans hd.ne_object (hd.alike he) (he.alike hf) hrs hst

/-- Children with the same integers along their only other dimension are comparable. -/
theorem areComparable_of_ofInts {children : List Child} (hbuilt : ∀ c ∈ children, c.IsBuilt)
    {dim : String} {xs : List Int} {units : Value} (htextual : units.isTextual)
    (h : ∀ c ∈ children, c.others = [dim] ∧ c.grid.values dim = .ok (Block.ofInts .int64 xs)
      ∧ c.units dim = units) :
  AreComparable children
  := by
  have hvalues : ∀ c ∈ children, ∀ other ∈ c.others, ∀ x, c.grid.values other = .ok x →
      Block.ofInts .int64 xs = x := by
    intro c hc other hother x hx
    obtain ⟨hothers, hvalues, -⟩ := h c hc
    rw [hothers] at hother
    obtain rfl := List.mem_singleton.mp hother
    exact Except.ok.inj (hvalues.symm.trans hx)
  apply areComparable_of_isKindOf hbuilt
  · intro c hc other hother
    obtain ⟨hothers, -, hunits⟩ := h c hc
    rw [hothers] at hother
    rwa [List.mem_singleton.mp hother, hunits]
  · intro a ha b hb other hother hother' x y hx hy
    rw [← hvalues a ha other hother x hx, ← hvalues b hb other hother' y hy]
  · intro c hc other hother x hx e he
    rw [← hvalues c hc other hother x hx] at he ⊢
    obtain ⟨n, -, rfl⟩ := List.mem_map.mp he
    exact .signed _ n

/-- Two children agree if they have the same dimensions beside the merged one, with the same values
and the same units. -/
structure Agree (a b : Child) : Prop where
  others_eq : a.others = b.others
  exists_values : ∀ dim ∈ a.others,
    ∃ x y, a.grid.values dim = .ok x ∧ b.grid.values dim = .ok y ∧ x.equals y
  units_eq : ∀ dim ∈ a.others, a.units dim = b.units dim

theorem Agree.symm {a b : Child} (h : Agree a b) :
  Agree b a
  := by
  constructor
  · exact h.others_eq.symm
  · intro dim hdim
    obtain ⟨x, y, hx, hy, hequals⟩ := h.exists_values dim (h.others_eq ▸ hdim)
    use y, x, hy, hx
    rwa [Block.equals_comm]
  · intro dim hdim
    exact (h.units_eq dim (h.others_eq ▸ hdim)).symm

instance : Std.Symm Agree := ⟨fun _ _ => Agree.symm⟩

namespace AreComparable

variable {children : List Child} (h : AreComparable children) {a b c : Child} (ha : a ∈ children)
  (hb : b ∈ children) (hc : c ∈ children)

include h ha hb

/-- Comparisons of dimensions do not fail. -/
theorem exists_dimDifference? {dim other : String} (hdim : dim ∈ a.others)
    (hother : other ∈ b.others) :
  ∃ r, dimDifference? a b dim other = .ok r
  := by
  unfold dimDifference?
  split
  · exact ⟨_, rfl⟩
  · next hname =>
    obtain rfl : dim = other := not_not.mp hname
    obtain ⟨x, hx⟩ := (h.isBuilt a ha).exists_values dim (List.mem_cons_of_mem _ hdim)
    obtain ⟨y, hy⟩ := (h.isBuilt b hb).exists_values dim (List.mem_cons_of_mem _ hother)
    obtain ⟨m, hm⟩ := (h.isBuilt a ha).exists_length? (List.mem_cons_of_mem _ hdim) hx
    obtain ⟨n, hn⟩ := (h.isBuilt b hb).exists_length? (List.mem_cons_of_mem _ hother) hy
    obtain ⟨r, hr, -⟩ :=
      Value.exists_differs (h.isTextual a ha dim hdim) (h.isTextual b hb dim hother)
    simp only [hx, hy, hm, hn, hr, bind, Except.bind]
    split
    · exact ⟨_, rfl⟩
    · split
      · exact ⟨_, rfl⟩
      · split
        · exact ⟨_, rfl⟩
        · exact ⟨_, rfl⟩

theorem exists_dimsDifference? {dims : List (String × String)}
    (hdims : ∀ p ∈ dims, p.1 ∈ a.others ∧ p.2 ∈ b.others) :
  ∃ r, dimsDifference? a b dims = .ok r
  := by
  induction dims with
  | nil => exact ⟨none, rfl⟩
  | cons p dims ih =>
    obtain ⟨⟨hdim, hother⟩, hdims⟩ := List.forall_mem_cons.mp hdims
    obtain ⟨r, hr⟩ := h.exists_dimDifference? ha hb hdim hother
    rw [dimsDifference?, hr]
    cases r with
    | none => exact ih hdims
    | some d => exact ⟨some d, rfl⟩

theorem exists_difference? :
  ∃ r, a.difference? b = .ok r
  := by
  unfold difference?
  split
  · exact ⟨_, rfl⟩
  · apply h.exists_dimsDifference? ha hb
    intro p hp
    exact ⟨(List.of_mem_zip hp).1, (List.of_mem_zip hp).2⟩

theorem isSameDim_iff {dim : String} (hdim : dim ∈ a.others) (hdim' : dim ∈ b.others) :
  IsSameDim a b dim dim
    ↔ (∃ x y, a.grid.values dim = .ok x ∧ b.grid.values dim = .ok y ∧ x.equals y)
      ∧ a.units dim = b.units dim
  := by
  obtain ⟨r, hr, hunits⟩ :=
    Value.exists_differs (h.isTextual a ha dim hdim) (h.isTextual b hb dim hdim')
  constructor
  · rintro ⟨-, x, y, n, hx, hy, -, -, hequals, hdiffers⟩
    rw [hr] at hdiffers
    exact ⟨⟨x, y, hx, hy, hequals⟩, hunits.mp (Except.ok.inj hdiffers)⟩
  · rintro ⟨⟨x, y, hx, hy, hequals⟩, heq⟩
    obtain ⟨n, hn⟩ := (h.isBuilt a ha).exists_length? (List.mem_cons_of_mem _ hdim) hx
    have htype := h.type_eq a ha b hb dim hdim hdim' x y hx hy
    have hshape := ((Block.equals_iff htype).mp hequals).1
    have hn' : y.length? = some n := by rwa [Block.length?, ← hshape]
    obtain rfl := hunits.mpr heq
    exact ⟨rfl, x, y, n, hx, hy, hn, hn', hequals, hr⟩

/-- Children are similar exactly if they agree. -/
theorem difference?_eq_none_iff :
  a.difference? b = .ok none ↔ Agree a b
  := by
  rw [Child.difference?_eq_none_iff]
  constructor
  · rintro ⟨hothers, hsame⟩
    have hsame : ∀ dim ∈ a.others, _ := fun dim hdim =>
      (h.isSameDim_iff ha hb hdim (hothers ▸ hdim)).mp (hsame dim hdim)
    exact ⟨hothers, fun dim hdim => (hsame dim hdim).1, fun dim hdim => (hsame dim hdim).2⟩
  · intro hagree
    use hagree.others_eq
    intro dim hdim
    apply (h.isSameDim_iff ha hb hdim (hagree.others_eq ▸ hdim)).mpr
    exact ⟨hagree.exists_values dim hdim, hagree.units_eq dim hdim⟩

include hc in
theorem agree_trans (hab : Agree a b) (hbc : Agree b c) :
  Agree a c
  := by
  constructor
  · exact hab.others_eq.trans hbc.others_eq
  · intro dim hdim
    have hdimb := hab.others_eq ▸ hdim
    have hdimc := hbc.others_eq ▸ hdimb
    obtain ⟨x, y, hx, hy, hxy⟩ := hab.exists_values dim hdim
    obtain ⟨y', z, hy', hz, hyz⟩ := hbc.exists_values dim hdimb
    obtain rfl := Except.ok.inj (hy.symm.trans hy')
    use x, z, hx, hz
    apply Block.equals_trans (h.type_eq a ha b hb dim hdim hdimb x y hx hy)
      (h.type_eq b hb c hc dim hdimb hdimc y z hy hz) _ hxy hyz
    apply h.trans a ha b hb c hc dim hdim hdimb hdimc x y z hx hy hz
  · intro dim hdim
    have hdimb := hab.others_eq ▸ hdim
    exact (hab.units_eq dim hdim).trans (hbc.units_eq dim hdimb)

end AreComparable

end Child

namespace Dataset

variable {children : List Child}

section Compatible

variable (h : Child.AreComparable children)

include h

/-- Children agree with each other if they agree with one of them. -/
theorem pairwise_agree {first : Child} (hfirst : first ∈ children) {cs : List Child}
    (hcs : ∀ c ∈ cs, c ∈ children ∧ first.Agree c) :
  (first :: cs).Pairwise Child.Agree
  := by
  apply List.pairwise_cons.mpr
  constructor
  · intro c hc
    exact (hcs c hc).2
  · apply List.pairwise_of_forall_mem_list
    intro a ha b hb
    obtain ⟨ha, hagree⟩ := hcs a ha
    obtain ⟨hb, hagree'⟩ := hcs b hb
    apply h.agree_trans ha hfirst hb hagree.symm hagree'

/-- Children are similar to the first exactly if all have the same dimensions, and any two agree. -/
theorem checkSimilar_iff_pairwise {first : Child} {rest : List Child}
    (hchildren : children = first :: rest) (number : Nat) :
  checkSimilar first number rest = .ok ()
    ↔ (∀ a ∈ children, ∀ b ∈ children, a.axes = b.axes) ∧ children.Pairwise Child.Agree
  := by
  have hfirst : first ∈ children := hchildren ▸ List.mem_cons_self
  have hrest : ∀ c ∈ rest, c ∈ children := fun c hc => hchildren ▸ List.mem_cons_of_mem _ hc
  rw [checkSimilar_eq_ok_iff]
  constructor
  · intro hsimilar
    have hsame : ∀ c ∈ rest, c.axis = first.axis ∧ first.Agree c := by
      intro c hc
      obtain ⟨haxis, hdifference⟩ := hsimilar c hc
      exact ⟨haxis, (h.difference?_eq_none_iff hfirst (hrest c hc)).mp hdifference⟩
    have haxes : ∀ c ∈ children, c.axes = first.axes := by
      intro c hc
      rcases List.mem_cons.mp (hchildren ▸ hc) with rfl | hc
      · rfl
      · obtain ⟨haxis, hagree⟩ := hsame c hc
        rw [Child.axes, Child.axes, haxis, hagree.others_eq]
    constructor
    · intro a ha b hb
      rw [haxes a ha, haxes b hb]
    · rw [hchildren]
      apply pairwise_agree h hfirst
      intro c hc
      exact ⟨hrest c hc, (hsame c hc).2⟩
  · rintro ⟨haxes, hagree⟩ c hc
    rw [hchildren] at hagree
    obtain ⟨haxis, -⟩ := List.cons.inj (haxes c (hrest c hc) first hfirst)
    use haxis
    apply (h.difference?_eq_none_iff hfirst (hrest c hc)).mpr
    apply (List.pairwise_cons.mp hagree).1 c hc

theorem kind_of_checkSimilar {first : Child} (hfirst : first ∈ children) {cs : List Child}
    (hcs : ∀ c ∈ cs, c ∈ children) {number : Nat} {f : Failure}
    (herror : checkSimilar first number cs = .error f) :
  f.kind = .configuration
  := by
  induction cs generalizing number with
  | nil => cases herror
  | cons c cs ih =>
    obtain ⟨hc, hcs⟩ := List.forall_mem_cons.mp hcs
    obtain ⟨r, hr⟩ := h.exists_difference? hfirst hc
    unfold checkSimilar at herror
    split at herror
    · cases herror
      rfl
    · rw [hr] at herror
      cases r with
      | some d =>
        cases herror
        rfl
      | none => exact ih hcs herror

end Compatible

theorem kind_of_addOwners {number : Nat} {owners : List (String × Nat)} {vs : List String}
    {f : Failure} (h : addOwners number owners vs = .error f) :
  f.kind = .configuration
  := by
  induction vs generalizing owners with
  | nil => cases h
  | cons v vs ih =>
    rw [addOwners] at h
    split at h
    · cases h
      rfl
    · exact ih h

theorem kind_of_ownersFrom {number : Nat} {owners : List (String × Nat)} {f : Failure}
    (h : ownersFrom number owners children = .error f) :
  f.kind = .configuration
  := by
  induction children generalizing number owners with
  | nil => cases h
  | cons c cs ih =>
    rw [ownersFrom, bind_eq_error_iff] at h
    rcases h with h | ⟨next, -, h⟩
    · exact kind_of_addOwners h
    · exact ih h

/-- No variable occurs twice exactly if no two children share one, as no child has a variable
twice. -/
theorem nodup_variableNames_iff (h : ∀ c ∈ children, c.IsBuilt) :
  (children.flatMap Child.variableNames).Nodup
    ↔ children.Pairwise fun a b => a.variableNames.Disjoint b.variableNames
  := by
  rw [List.nodup_flatMap]
  apply and_iff_right
  intro c hc
  exact (h c hc).nodup_variableNames

/-- Children whose axes have sizes are put side by side exactly if they are compatible. -/
theorem exists_build_iff (id title : Value) (h : Child.AreComparable children) {blocks : List Block}
    (hblocks : children.mapM Child.mergeValues = .ok blocks) {sizes : List Nat}
    (hsizes : blocks.mapM (fun b => AxisUnion.sizeOf (.block b)) = .ok sizes) :
  (∃ d, (build id children title).result = .ok d)
    ↔ children ≠ [] ∧ (∀ a ∈ children, ∀ b ∈ children, a.axes = b.axes)
      ∧ children.Pairwise Child.Agree
      ∧ (children.Pairwise fun a b => a.variableNames.Disjoint b.variableNames)
      ∧ ∃ union, Axis.merge blocks = .ok union
  := by
  constructor
  · rintro ⟨d, hd⟩
    obtain ⟨first, rest, owners, _, _, union, hchildren, hsimilar, howners, haxes, -, hunion, -⟩ :=
      build_eq_ok_iff.mp hd
    obtain rfl := Except.ok.inj (hblocks.symm.trans haxes)
    obtain ⟨haxes', hagree⟩ := (checkSimilar_iff_pairwise h hchildren 1).mp hsimilar
    have hnodup := ((ownersFrom_eq_ok_iff (by simp)).mp howners).1
    refine ⟨by simp [hchildren], haxes', hagree, ?_, union, hunion⟩
    apply (nodup_variableNames_iff h.isBuilt).mp
    simpa using hnodup
  · rintro ⟨hne, haxes, hagree, hdisjoint, union, hunion⟩
    obtain ⟨first, rest, hchildren⟩ := List.exists_cons_of_ne_nil hne
    have hsimilar := (checkSimilar_iff_pairwise h hchildren 1).mpr ⟨haxes, hagree⟩
    have hnodup := (nodup_variableNames_iff h.isBuilt).mpr hdisjoint
    have howners : ownersFrom 0 [] children = .ok (numbered 0 children) := by
      apply (ownersFrom_eq_ok_iff (by simp)).mpr
      simpa using hnodup
    use ⟨id, first, rest, numbered 0 children, ⟨sizes, union.1, union.2⟩, titleOf id first title, []⟩
    apply build_eq_ok_iff.mpr
    use first, rest, numbered 0 children, blocks, sizes, union

/-- Whatever stops a build of children over lines of numbers is in the configuration. -/
theorem kind_of_build {id title : Value} (h : Child.AreComparable children) {blocks : List Block}
    (hblocks : children.mapM Child.mergeValues = .ok blocks) (hnum : ∀ b ∈ blocks, b.IsNumberLine)
    {f : Failure} (hf : (build id children title).result = .error f) :
  f.kind = .configuration
  := by
  obtain ⟨sizes, hsizes⟩ := AxisUnion.exists_sizes fun b hb =>
    List.ne_nil_of_length_eq_add_one (hnum b hb).length_shape
  cases hchildren : children with
  | nil =>
    rw [hchildren] at hf
    cases hf
    rfl
  | cons first rest =>
    have hfirst : first ∈ children := hchildren ▸ List.mem_cons_self
    have hrest : ∀ c ∈ rest, c ∈ children := fun c hc => hchildren ▸ List.mem_cons_of_mem _ hc
    rw [hchildren, result_build, ← hchildren] at hf
    simp only [bind_eq_error_iff] at hf
    rcases hf with hf | ⟨-, -, hf | ⟨owners, -, hf | ⟨axes, haxes, hf | ⟨_, -, hf | ⟨_, -, hf⟩⟩⟩⟩⟩
    · apply kind_of_checkSimilar h hfirst hrest hf
    · apply kind_of_ownersFrom hf
    · simp [hblocks] at hf
    · obtain rfl := Except.ok.inj (hblocks.symm.trans haxes)
      simp [hsizes] at hf
    · obtain rfl := Except.ok.inj (hblocks.symm.trans haxes)
      apply Axis.kind_of_merge hnum hf
    · cases hf

/-- Children over lines of numbers are put side by side exactly if they are compatible; otherwise the
configuration is refused.  Each child then owns its variables. -/
theorem build_iff_compatible (id title : Value) (h : Child.AreComparable children)
    (hlines : ∀ c ∈ children, ∃ b, c.mergeValues = .ok b ∧ b.IsNumberLine) :
  ((∃ d, (build id children title).result = .ok d)
      ↔ children ≠ [] ∧ (∀ a ∈ children, ∀ b ∈ children, a.axes = b.axes)
        ∧ children.Pairwise Child.Agree
        ∧ (children.Pairwise fun a b => a.variableNames.Disjoint b.variableNames)
        ∧ ∃ blocks union, children.mapM Child.mergeValues = .ok blocks
            ∧ Axis.merge blocks = .ok union)
    ∧ (∀ f, (build id children title).result = .error f → f.kind = .configuration)
    ∧ ∀ d, (build id children title).result = .ok d →
        d.variableNames = children.flatMap Child.variableNames ∧ d.variableNames.Nodup
          ∧ (∀ v k, d.owner v = .ok k ↔ ∃ c, children[k]? = some c ∧ v ∈ c.variableNames)
          ∧ ∀ v ∉ d.variableNames, ∃ f, d.owner v = .error f ∧ f.kind = .key
  := by
  obtain ⟨blocks, hblocks⟩ := exists_mapM_eq_ok fun c hc => (hlines c hc).imp fun b hb => hb.1
  have hnum : ∀ b ∈ blocks, b.IsNumberLine := by
    intro b hb
    obtain ⟨c, hc, hcb⟩ := exists_of_mem_mapM hblocks hb
    obtain ⟨b', hb', hline⟩ := hlines c hc
    rwa [Except.ok.inj (hcb.symm.trans hb')]
  obtain ⟨sizes, hsizes⟩ := AxisUnion.exists_sizes fun b hb =>
    List.ne_nil_of_length_eq_add_one (hnum b hb).length_shape
  refine ⟨?_, ?_, ?_⟩
  · rw [exists_build_iff id title h hblocks hsizes]
    simp [hblocks]
  · intro f hf
    apply kind_of_build h hblocks hnum hf
  · intro d hd
    obtain ⟨axes, hjoins⟩ := joins_of_build hd
    use hjoins.variableNames_eq, hjoins.nodup_variableNames, fun v k => hjoins.owner_eq_ok_iff
    intro v hv
    have hlookup : d.owners.lookup v = none := by
      rwa [← Option.not_isSome_iff_eq_none, lookup_isSome_iff]
    use .unknownVariable d.id v
    simp [owner, hlookup, Failure.kind]

/-- A child of one variable over a merged axis `t` and two positions along `x`. -/
def plateChild (ts : List Int) (name : String) : Child where
  grid := ⟨[⟨"t", ["t"], Block.ofInts .int64 ts, [], []⟩,
      ⟨"x", ["x"], Block.ofInts .int64 [0, 5], [("units", .text "m")], []⟩],
    [⟨name, ["t", "x"], Block.replicate .int64 [ts.length, 2] (.int 7), [], []⟩], []⟩
  name := .null
  source := .null
  axis := "t"
  others := ["x"]
  origin := .memory 0

/-- Two children side by side along `t`, which agree in `x`. -/
def plates : List Child := [plateChild [1, 3] "v", plateChild [2] "w"]

theorem values_of_mem_plates {c : Child} (hc : c ∈ plates) :
  c.others = ["x"] ∧ c.grid.values "x" = .ok (Block.ofInts .int64 [0, 5])
    ∧ c.units "x" = .text "m"
  := by
  simp only [plates, List.mem_cons, List.not_mem_nil, or_false] at hc
  rcases hc with rfl | rfl
  · exact ⟨rfl, rfl, rfl⟩
  · exact ⟨rfl, rfl, rfl⟩

theorem isRegular_of_mem_plates {c : Child} (hc : c ∈ plates) :
  c.IsRegular
  := by
  have hplates : ∀ c ∈ plates, c.axes.Nodup ∧ ∀ dim ∈ c.axes,
      (c.grid.values dim).toOption.map Block.shape = some [(c.grid.size? dim).getD 0] := by
    decide
  obtain ⟨hnodup, hshape⟩ := hplates c hc
  use hnodup
  intro dim hdim b hb
  simpa [hb, Except.toOption] using hshape dim hdim

theorem areComparable_plates :
  Child.AreComparable plates
  := by
  apply Child.areComparable_of_ofInts _ rfl fun c => values_of_mem_plates
  intro c hc
  simp only [plates, List.mem_cons, List.not_mem_nil, or_false] at hc
  rcases hc with rfl | rfl
  · exact ⟨⟨(plateChild [1, 3] "v").grid.coordinates, (plateChild [1, 3] "v").grid.quantities, [],
      rfl⟩, .null, rfl⟩
  · exact ⟨⟨(plateChild [2] "w").grid.coordinates, (plateChild [2] "w").grid.quantities, [], rfl⟩,
      .null, rfl⟩

/-- The two children are compatible, and each owns its variable. -/
theorem build_iff_compatible_plates :
  ∃ d, (build .null plates .null).result = .ok d ∧ d.variableNames = ["v", "w"]
    ∧ ∀ v k, d.owner v = .ok k ↔ ∃ c, plates[k]? = some c ∧ v ∈ c.variableNames
  := by
  have hlines : ∀ c ∈ plates, ∃ b, c.mergeValues = .ok b ∧ b.IsNumberLine := by
    intro c hc
    simp only [plates, List.mem_cons, List.not_mem_nil, or_false] at hc
    rcases hc with rfl | rfl
    · exact ⟨Block.ofInts .int64 [1, 3], rfl, by decide⟩
    · exact ⟨Block.ofInts .int64 [2], rfl, by decide⟩
  obtain ⟨hiff, -, hd⟩ := build_iff_compatible .null .null areComparable_plates hlines
  have hagree : plates.Pairwise Child.Agree := by
    apply List.pairwise_of_forall_mem_list
    intro a ha b hb
    obtain ⟨hothers, hx, hu⟩ := values_of_mem_plates ha
    obtain ⟨hothers', hy, hv⟩ := values_of_mem_plates hb
    constructor
    · rw [hothers, hothers']
    · intro dim hdim
      rw [hothers] at hdim
      obtain rfl := List.mem_singleton.mp hdim
      exact ⟨_, _, hx, hy, rfl⟩
    · intro dim hdim
      rw [hothers] at hdim
      obtain rfl := List.mem_singleton.mp hdim
      rw [hu, hv]
  have hdisjoint := (nodup_variableNames_iff areComparable_plates.isBuilt).mp (by decide)
  obtain ⟨d, hbuild⟩ :=
    hiff.mpr ⟨by decide, by decide, hagree, hdisjoint, _, _, rfl, rfl⟩
  obtain ⟨hnames, -, howner, -⟩ := hd d hbuild
  exact ⟨d, hbuild, hnames, howner⟩

end Dataset

end GridUnion
