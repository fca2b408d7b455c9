import GridUnion.Dataset
import GridUnion.Proofs.Child
import GridUnion.Proofs.Axis.Merge

/-!
# Datasets that are built

What `Dataset.build` has checked when it puts children side by side: the other dimensions of all
children are similar, every variable belongs to the child that has it, and the maps are those of the
merge of the children's axes.
-/

namespace GridUnion

namespace Child

variable {a b : Child}

/-- A dimension of two children has the same name, the same values and the same units in both. -/
def IsSameDim (a b : Child) (dim other : String) : Prop :=
  dim = other ∧ ∃ x y n, a.grid.values dim = .ok x ∧ b.grid.values dim = .ok y
    ∧ x.length? = some n ∧ y.length? = some n ∧ x.equals y
    ∧ (a.units dim).differs (b.units dim) = .ok false

theorem length?_eq_some_of_match {b : Block} {n : Nat}
    (h : (match b.length? with | some n => .ok n | none => .error .noLength : Except Failure Nat)
      = .ok n) :
  b.length? = some n
  := by
  split at h
  · cases h
    assumption
  · cases h

theorem isSameDim_of_dimDifference? {dim other : String}
    (h : dimDifference? a b dim other = .ok none) :
  IsSameDim a b dim other
  := by
  unfold dimDifference? at h
  split at h
  · simp at h
  · next hdim =>
    simp only [bind_eq_ok_iff] at h
    obtain ⟨x, hx, y, hy, m, hm, n, hn, h⟩ := h
    have hlengthX := length?_eq_some_of_match hm
    have hlengthY := length?_eq_some_of_match hn
    split at h
    · cases h
    · next hsize =>
      obtain rfl : m = n := by simpa using hsize
      split at h
      · cases h
      · next hequals =>
        simp only [bind_eq_ok_iff] at h
        obtain ⟨_ | _, hunits, h⟩ := h
        · use by simpa using hdim, x, y, m, hx, hy, hlengthX, hlengthY, by simpa using hequals
        · cases h

theorem isSameDim_of_dimsDifference? {dims : List (String × String)}
    (h : dimsDifference? a b dims = .ok none) :
  ∀ p ∈ dims, IsSameDim a b p.1 p.2
  := by
  induction dims with
  | nil => simp
  | cons p dims ih =>
    obtain ⟨dim, other⟩ := p
    simp only [dimsDifference?, bind_eq_ok_iff] at h
    obtain ⟨_ | d, hdim, h⟩ := h
    · exact List.forall_mem_cons.mpr ⟨isSameDim_of_dimDifference? hdim, ih h⟩
    · cases h

/-- The dimensions of similar children beside the merged one are the same. -/
theorem others_eq_of_difference? (h : difference? a b = .ok none) :
  a.others = b.others ∧ ∀ dim ∈ a.others, IsSameDim a b dim dim
  := by
  unfold difference? at h
  split at h
  · cases h
  · next hlength =>
    have hsame := isSameDim_of_dimsDifference? h
    have hothers : a.others.length = b.others.length := by simpa [axes] using hlength
    have heq : a.others = b.others := by
      apply List.ext_getElem hothers
      intro i hi hi'
      exact (hsame _ (getElem_mem_zip hi hi')).1
    use heq
    intro dim hdim
    apply hsame (dim, dim)
    rw [← heq]
    obtain ⟨i, hi, rfl⟩ := List.mem_iff_getElem.mp hdim
    exact getElem_mem_zip hi hi

theorem dimDifference?_eq_none_of_isSameDim {dim other : String} (h : IsSameDim a b dim other) :
  dimDifference? a b dim other = .ok none
  := by
  obtain ⟨rfl, x, y, n, hx, hy, hn, hn', hequals, hunits⟩ := h
  simp [dimDifference?, hx, hy, hn, hn', hequals, hunits]

theorem dimsDifference?_eq_none_iff {dims : List (String × String)} :
  dimsDifference? a b dims = .ok none ↔ ∀ p ∈ dims, IsSameDim a b p.1 p.2
  := by
  constructor
  · exact isSameDim_of_dimsDifference?
  · intro h
    induction dims with
    | nil => rfl
    | cons p dims ih =>
      obtain ⟨hp, hdims⟩ := List.forall_mem_cons.mp h
      rw [dimsDifference?, dimDifference?_eq_none_of_isSameDim hp]
      exact ih hdims

/-- Children are similar exactly if their dimensions beside the merged one are the same. -/
theorem difference?_eq_none_iff :
  a.difference? b = .ok none ↔ a.others = b.others ∧ ∀ dim ∈ a.others, IsSameDim a b dim dim
  := by
  constructor
  · exact others_eq_of_difference?
  · rintro ⟨hothers, hsame⟩
    have hlength : ¬ a.axes.length ≠ b.axes.length := by simp [axes, hothers]
    rw [difference?, if_neg hlength, dimsDifference?_eq_none_iff, ← hothers]
    intro p hp
    obtain ⟨i, hi, rfl⟩ := List.mem_iff_getElem.mp hp
    have hi' : i < a.others.length := by simpa using hi
    simpa using hsame _ (List.getElem_mem hi')

end Child

namespace Dataset

variable {first : Child} {cs : List Child}

theorem similar_of_checkSimilar {number : Nat} (h : checkSimilar first number cs = .ok ()) :
  ∀ c ∈ cs, c.axis = first.axis ∧ first.difference? c = .ok none
  := by
  induction cs generalizing number with
  | nil => simp
  | cons c cs ih =>
    unfold checkSimilar at h
    split at h
    · simp at h
    · next haxis =>
      extract_lets next at h
      simp only [next, bind_eq_ok_iff] at h
      obtain ⟨_ | d, hdifference, h⟩ := h
      · exact List.forall_mem_cons.mpr ⟨⟨not_not.mp haxis, hdifference⟩, ih h⟩
      · cases h

theorem checkSimilar_eq_ok_iff {number : Nat} :
  checkSimilar first number cs = .ok ()
    ↔ ∀ c ∈ cs, c.axis = first.axis ∧ first.difference? c = .ok none
  := by
  constructor
  · exact similar_of_checkSimilar
  · intro h
    induction cs generalizing number with
    | nil => rfl
    | cons c cs ih =>
      obtain ⟨⟨haxis, hdifference⟩, hcs⟩ := List.forall_mem_cons.mp h
      simp [checkSimilar, haxis, hdifference, ih hcs]

/-- The variables of children with the children's numbers, counting from `number`. -/
def numbered (number : Nat) (cs : List Child) : List (String × Nat) :=
  (cs.zipIdx number).flatMap fun (c, k) => c.variableNames.map fun v => (v, k)

theorem map_fst_numbered (number : Nat) (cs : List Child) :
  (numbered number cs).map Prod.fst = cs.flatMap Child.variableNames
  := by
  induction cs generalizing number with
  | nil => rfl
  | cons c cs ih =>
    have hrest := ih (number + 1)
    simp only [numbered] at hrest
    simp [numbered, List.zipIdx_cons, hrest, Function.comp_def]

/-- A variable is numbered like a child that has it. -/
theorem mem_numbered_iff {number : Nat} {v : String} {k : Nat} :
  (v, k) ∈ numbered number cs ↔ ∃ i c, k = number + i ∧ cs[i]? = some c ∧ v ∈ c.variableNames
  := by
  simp only [numbered, List.mem_flatMap, List.mem_map, Prod.mk.injEq]
  constructor
  · rintro ⟨⟨c, j⟩, hmem, w, hw, rfl, rfl⟩
    obtain ⟨hle, hget⟩ := List.mk_mem_zipIdx_iff_le_and_getElem?_sub.mp hmem
    use j - number, c, by omega
  · rintro ⟨i, c, rfl, hget, hv⟩
    use (c, number + i)
    constructor
    · apply List.mk_mem_zipIdx_iff_le_and_getElem?_sub.mpr
      simpa using hget
    · use v, hv

theorem addOwners_eq_ok_iff {number : Nat} {owners added : List (String × Nat)} {vs : List String}
    (h : (owners.map Prod.fst).Nodup) :
  addOwners number owners vs = .ok added
    ↔ (owners.map Prod.fst ++ vs).Nodup ∧ owners ++ vs.map (fun v => (v, number)) = added
  := by
  induction vs generalizing owners with
  | nil => simp [addOwners, h]
  | cons v vs ih =>
    rw [addOwners]
    cases hlookup : owners.lookup v with
    | some k =>
      have hmem : v ∈ owners.map Prod.fst := by
        rw [← lookup_isSome_iff, hlookup]
        rfl
      have hnot : ¬ (owners.map Prod.fst ++ v :: vs).Nodup := fun hnodup =>
        (List.nodup_append.mp hnodup).2.2 v hmem v List.mem_cons_self rfl
      simp [hnot]
    | none =>
      have hnew : v ∉ owners.map Prod.fst := by
        rw [← lookup_isSome_iff, hlookup]
        simp
      have hnodup : ((owners ++ [(v, number)]).map Prod.fst).Nodup := by
        rw [List.map_append]
        apply List.nodup_append.mpr
        refine ⟨h, List.nodup_singleton v, ?_⟩
        rintro w hw _ hv rfl
        obtain rfl : w = v := List.mem_singleton.mp hv
        exact hnew hw
      simp [ih hnodup]

/-- Owners are found exactly if no variable occurs twice; they are numbered in order. -/
theorem ownersFrom_eq_ok_iff {number : Nat} {owners added : List (String × Nat)}
    (h : (owners.map Prod.fst).Nodup) :
  ownersFrom number owners cs = .ok added
    ↔ (owners.map Prod.fst ++ cs.flatMap Child.variableNames).Nodup
        ∧ owners ++ numbered number cs = added
  := by
  induction cs generalizing number owners with
  | nil => simp [ownersFrom, numbered, h]
  | cons c cs ih =>
    have hnumbered : numbered number (c :: cs)
        = c.variableNames.map (fun v => (v, number)) ++ numbered (number + 1) cs := rfl
    simp only [ownersFrom, bind_eq_ok_iff, addOwners_eq_ok_iff h, hnumbered, List.flatMap_cons,
      ← List.append_assoc]
    constructor
    · rintro ⟨next, ⟨hnodup, rfl⟩, hrest⟩
      have hnext : ((owners ++ c.variableNames.map fun v => (v, number)).map Prod.fst).Nodup := by
        simpa [Function.comp_def] using hnodup
      simpa [Function.comp_def] using (ih hnext).mp hrest
    · rintro ⟨hnodup, rfl⟩
      have hinit := hnodup.of_append_left
      have hnext : ((owners ++ c.variableNames.map fun v => (v, number)).map Prod.fst).Nodup := by
        simpa [Function.comp_def] using hinit
      refine ⟨_, ⟨hinit, rfl⟩, (ih hnext).mpr ⟨?_, rfl⟩⟩
      simpa [Function.comp_def] using hnodup

/-- The steps of putting children side by side. -/
theorem result_build (id title : Value) (first : Child) (rest : List Child) :
  (build id (first :: rest) title).result = do
    checkSimilar first 1 rest
    let owners ← ownersFrom 0 [] (first :: rest)
    let axes ← (first :: rest).mapM Child.mergeValues
    let sizes ← axes.mapM fun b => AxisUnion.sizeOf (.block b)
    let union ← Axis.merge axes
    return ⟨id, first, rest, owners, ⟨sizes, union.1, union.2⟩, titleOf id first title, []⟩
  := by
  simp only [build, Noted.result_bind, AxisUnion.result_ofBlocks, Noted.result_note,
    Noted.result_liftM, Noted.result_mapM, Noted.result_pure, bind_assoc]
  rfl

/-- Children are put side by side exactly if all steps go through. -/
theorem build_eq_ok_iff {id title : Value} {children : List Child} {d : Dataset} :
  (build id children title).result = .ok d
    ↔ ∃ first rest owners axes sizes union, children = first :: rest
        ∧ checkSimilar first 1 rest = .ok () ∧ ownersFrom 0 [] children = .ok owners
        ∧ children.mapM Child.mergeValues = .ok axes
        ∧ axes.mapM (fun b => AxisUnion.sizeOf (.block b)) = .ok sizes
        ∧ Axis.merge axes = .ok union
        ∧ ⟨id, first, rest, owners, ⟨sizes, union.1, union.2⟩, titleOf id first title, []⟩ = d
  := by
  cases children with
  | nil => simp [build]
  | cons first rest =>
    rw [result_build]
    simp only [bind_eq_ok_iff, pure_eq_ok_iff, List.cons.injEq]
    constructor
    · rintro ⟨_, hsimilar, owners, howners, axes, haxes, sizes, hsizes, union, hunion, hd⟩
      exact ⟨first, rest, owners, axes, sizes, union, ⟨rfl, rfl⟩, hsimilar, howners, haxes, hsizes,
        hunion, hd⟩
    · rintro ⟨_, _, owners, axes, sizes, union, ⟨rfl, rfl⟩, hsimilar, howners, haxes, hsizes, hunion,
        hd⟩
      exact ⟨(), hsimilar, owners, howners, axes, haxes, sizes, hsizes, union, hunion, hd⟩

/-- The dataset puts children side by side whose axes it has merged. -/
structure Joins (d : Dataset) (children : List Child) (axes : List Block) : Prop where
  children_eq : d.children = children
  similar : ∀ c ∈ d.rest, c.axis = d.first.axis ∧ d.first.difference? c = .ok none
  owners_eq : ownersFrom 0 [] children = .ok d.owners
  axes_eq : children.mapM Child.mergeValues = .ok axes
  union_eq : Axis.merge axes = .ok (d.union.axis, d.union.maps)

/-- A dataset that is built joins its children. -/
theorem joins_of_build {id title : Value} {children : List Child} {d : Dataset}
    (h : (build id children title).result = .ok d) :
  ∃ axes, d.Joins children axes
  := by
  obtain ⟨first, rest, owners, axes, sizes, union, rfl, hsimilar, howners, haxes, -, hunion, rfl⟩ :=
    build_eq_ok_iff.mp h
  exact ⟨axes, rfl, similar_of_checkSimilar hsimilar, howners, haxes, hunion⟩

/-- There is a size for each dimension. -/
theorem length_axes (d : Dataset) :
  d.axes.length = d.shape.length
  := by
  simp [axes, shape, Child.axes, Child.shape]

section Joins

variable {d : Dataset} {children : List Child} {blocks : List Block} (h : d.Joins children blocks)

include h

theorem Joins.first_mem :
  d.first ∈ children
  := by
  rw [← h.children_eq]
  exact List.mem_cons_self

theorem Joins.numbered_eq :
  (children.flatMap Child.variableNames).Nodup ∧ numbered 0 children = d.owners
  := by
  simpa using (ownersFrom_eq_ok_iff (by simp)).mp h.owners_eq

/-- A dataset has the variables of its children in order. -/
theorem Joins.variableNames_eq :
  d.variableNames = children.flatMap Child.variableNames
  := by
  rw [variableNames, ← h.numbered_eq.2]
  exact map_fst_numbered 0 children

theorem Joins.nodup_variableNames :
  d.variableNames.Nodup
  := by
  rw [h.variableNames_eq]
  exact h.numbered_eq.1

/-- A child owns exactly the variables that it has. -/
theorem Joins.owner_eq_ok_iff {v : String} {k : Nat} :
  d.owner v = .ok k ↔ ∃ c, children[k]? = some c ∧ v ∈ c.variableNames
  := by
  have hlookup : d.owner v = .ok k ↔ d.owners.lookup v = some k := by
    rw [owner]
    cases d.owners.lookup v with
    | none => simp
    | some k => simp
  rw [hlookup, lookup_eq_some_iff_mem h.nodup_variableNames, ← h.numbered_eq.2, mem_numbered_iff]
  simp

/-- The owner of a variable is a child that has it. -/
theorem Joins.exists_owner {v : String} (hv : v ∈ d.variableNames) :
  ∃ k c, d.owner v = .ok k ∧ children[k]? = some c ∧ v ∈ c.variableNames
  := by
  rw [h.variableNames_eq] at hv
  obtain ⟨c, hc, hvc⟩ := List.mem_flatMap.mp hv
  obtain ⟨k, hk⟩ := List.mem_iff_getElem?.mp hc
  use k, c, h.owner_eq_ok_iff.mpr ⟨c, hk, hvc⟩

theorem Joins.exists_variableAttributes {v : String} (hv : v ∈ d.variableNames) :
  ∃ attributes, d.variableAttributes v = .ok attributes
  := by
  obtain ⟨k, c, hk, -⟩ := h.exists_owner hv
  simp [variableAttributes, ownerOf, hk]

/-- All children have the dimensions of the first. -/
theorem Joins.axes_eq_of_mem :
  ∀ c ∈ children, c.axes = d.axes
  := by
  rw [← h.children_eq]
  intro c hc
  rcases List.mem_cons.mp hc with rfl | hc
  · rfl
  · obtain ⟨haxis, hdifference⟩ := h.similar c hc
    obtain ⟨hothers, -⟩ := Child.others_eq_of_difference? hdifference
    rw [axes, Child.axes, Child.axes, haxis, hothers]

/-- No variable of a dataset is named like one of its dimensions. -/
theorem Joins.not_mem_axes (hbuilt : ∀ c ∈ children, c.IsBuilt) {v : String} {k : Nat}
    (hv : d.owner v = .ok k) :
  v ∉ d.axes
  := by
  obtain ⟨c, hc, hname⟩ := h.owner_eq_ok_iff.mp hv
  have hmem := List.mem_of_getElem? hc
  rw [← h.axes_eq_of_mem c hmem]
  exact (hbuilt c hmem).not_mem_axes hname

/-- If the children are regular, their other dimensions have the sizes of the first. -/
theorem Joins.tail_shape_eq (hregular : ∀ c ∈ children, c.IsRegular) :
  ∀ c ∈ children, c.shape.tail = d.shape.tail
  := by
  rw [← h.children_eq] at hregular ⊢
  have hfirst := hregular d.first List.mem_cons_self
  intro c hc
  have hthis := hregular c hc
  rcases List.mem_cons.mp hc with rfl | hc
  · simp [shape, Child.shape, Child.axes]
  · obtain ⟨-, hdifference⟩ := h.similar c hc
    obtain ⟨hothers, hsame⟩ := Child.others_eq_of_difference? hdifference
    simp only [shape, Child.shape, Child.axes, List.map_cons, List.tail_cons, List.drop_one,
      ← hothers]
    apply List.map_congr_left
    intro dim hdim
    obtain ⟨-, x, y, n, hx, hy, hn, hn', -⟩ := hsame dim hdim
    have hsizeX := hfirst.shape_eq dim (List.mem_cons_of_mem _ hdim) x hx
    have hsizeY := hthis.shape_eq dim (List.mem_cons_of_mem _ (hothers ▸ hdim)) y hy
    simp only [Block.length?, hsizeX, hsizeY, List.head?_cons, Option.some.injEq] at hn hn'
    rw [hn, hn']

end Joins

end Dataset

end GridUnion
