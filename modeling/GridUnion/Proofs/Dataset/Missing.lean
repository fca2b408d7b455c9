import GridUnion.Proofs.Dataset.Join
import GridUnion.Proofs.Dataset.Read

/-!
# Missing data of decoded variables

Reals and instants that a file reader has decoded no longer have the attributes that say what stands
for missing data.  Where the owner of such a variable has no row, reals are not a number.  Instants
are not a time there, unless it is known how they were stored: then they hold what stood for missing
data in the store.
-/

namespace GridUnion

namespace Child

variable {f : Field}

/-- A field of reals or instants has no attribute that says what stands for missing data. -/
structure IsDecoded (f : Field) : Prop where
  isMeasured : f.block.type.isReal ∨ f.block.type.isInstant
  fillAttribute?_eq : fillAttribute? f.attributes = none

theorem fillOf_of_isReal (h : IsDecoded f) (hreal : f.block.type.isReal) :
  fillOf f = .real .nan
  := by
  simp [fillOf, h.fillAttribute?_eq, hreal]

theorem fillOf_of_isInstant (h : IsDecoded f) (hinstant : f.block.type.isInstant) :
  fillOf f = (fillAttribute? f.encoding).getD (.scalar ⟨.instant .generic, .time none⟩)
  := by
  cases htype : f.block.type with
  | instant u =>
    rcases hstored : fillAttribute? f.encoding with _ | v
    · simp [fillOf, h.fillAttribute?_eq, htype, hstored, ElementType.isReal]
    · simp [fillOf, h.fillAttribute?_eq, htype, hstored, ElementType.isReal]
  | _ =>
    rw [htype] at hinstant
    cases hinstant

theorem store_nan {type : ElementType} (h : type.isReal) :
  (Value.real .nan).store type = .ok (.real .nan)
  := by
  cases type with
  | single | double => rfl
  | _ => cases h

theorem store_missingTime {type : ElementType} (h : type.isInstant) :
  (Value.scalar ⟨.instant .generic, .time none⟩).store type = .ok (.time none)
  := by
  cases type with
  | instant u =>
    by_cases hunit : TimeUnit.generic = u
    · simp [Value.store, Scalar.store, Scalar.isPlain, Scalar.storeTyped, hunit]
    · simp [Value.store, Scalar.store, Scalar.isPlain, Scalar.storeTyped, hunit, Scalar.storeTime,
        Count.convertInstant]
  | _ => cases h

/-- What stands for missing data in a decoded field can be stored, unless it is known how instants
were stored and what stood for missing data there is no instant. -/
theorem IsDecoded.exists_blank (h : IsDecoded f)
    (hencoded : f.block.type.isInstant → ∀ v ∈ fillAttribute? f.encoding,
      ∃ blank, Block.fill f.block.type [] v = .ok blank) :
  ∃ blank, Block.fill f.block.type [] (fillOf f) = .ok blank
  := by
  rcases h.isMeasured with hreal | hinstant
  · rw [fillOf_of_isReal h hreal]
    exact ⟨_, Block.fill_eq_replicate rfl (store_nan hreal) []⟩
  · rw [fillOf_of_isInstant h hinstant]
    rcases hstored : fillAttribute? f.encoding with _ | v
    · exact ⟨_, Block.fill_eq_replicate rfl (store_missingTime hinstant) []⟩
    · exact hencoded hinstant v hstored

open Block (IsIndex)

/-- The elements of a decoded field where there is no row: not a number among reals, and among
instants no time or what stood for missing data when they were stored. -/
structure IsMissing (f : Field) (other : List Nat) (cell : List Nat → Element) : Prop where
  real_eq : f.block.type.isReal → ∀ ix, IsIndex other ix → cell ix = .real .nan
  instant_eq : f.block.type.isInstant → fillAttribute? f.encoding = none →
    ∀ ix, IsIndex other ix → cell ix = .time none
  holdsFill : f.block.type.isInstant → ∀ v ∈ fillAttribute? f.encoding,
    Fetch.HoldsFill v f.block.type other cell

theorem IsDecoded.isMissing (h : IsDecoded f) {other : List Nat} {cell : List Nat → Element}
    (hcell : Fetch.HoldsFill (fillOf f) f.block.type other cell) :
  IsMissing f other cell
  := by
  constructor
  · intro hreal
    rw [fillOf_of_isReal h hreal] at hcell
    obtain ⟨e, he, hrow⟩ := hcell
    obtain rfl := Except.ok.inj ((store_nan hreal).symm.trans he)
    exact hrow
  · intro hinstant hstored
    rw [fillOf_of_isInstant h hinstant, hstored] at hcell
    obtain ⟨e, he, hrow⟩ := hcell
    obtain rfl := Except.ok.inj ((store_missingTime hinstant).symm.trans he)
    exact hrow
  · intro hinstant v hv
    rwa [fillOf_of_isInstant h hinstant, Option.mem_def.mp hv] at hcell

end Child

namespace Dataset

/-- Data are given exactly if all variables can be read, which is so for regular children and
decoded fields if there is room; only what stood for missing instants in a store may be no instant.
At a position where the owner of a decoded variable has no row its data are missing. -/
theorem data_isMissing [Machine] {id title : Value} {children : List Child} {d : Dataset}
    (h : (build id children title).result = .ok d) (hbuilt : ∀ c ∈ children, c.IsBuilt)
    {names : List String} {merged : Request} {others : List Request}
    (hvalid : Request.AllValid d.shape (merged :: others)) :
  ((∃ answer, (d.data names (merged :: others)).result = .ok answer)
      ↔ ∀ v ∈ names, d.CanRead merged others v)
    ∧ ((∀ c ∈ children, c.IsRegular) → (∀ v ∈ names, v ∈ d.variableNames) →
        (∀ v ∈ names, ∀ c f m, d.Owns v c f m → Child.IsDecoded f
          ∧ Fetch.HasRoom f.block.type ((merged :: others).map Request.length)
          ∧ (f.block.type.isInstant → ∀ w ∈ Child.fillAttribute? f.encoding,
              ∃ blank, Block.fill f.block.type [] w = .ok blank)) →
        ∃ answer, (d.data names (merged :: others)).result = .ok answer)
    ∧ ∀ answer, (d.data names (merged :: others)).result = .ok answer →
        ∀ v ∈ names, ∃ c f m b, d.Owns v c f m ∧ answer.lookup v = some b
          ∧ b.type = f.block.type ∧ b.shape = (merged :: others).map Request.length
          ∧ (Child.IsDecoded f → ∀ i < merged.length, m.toList[merged.position i]? = some none →
              Child.IsMissing f (others.map Request.length) fun ix => b.get (i :: ix))
  := by
  obtain ⟨blocks, hjoins⟩ := joins_of_build h
  have hexists := hjoins.exists_data_iff hbuilt hvalid names
  refine ⟨hexists, ?_, ?_⟩
  · intro hregular hnames hdecoded
    have hanswers : d.HasAnswers names (merged :: others) := by
      intro v hv c f m hown
      obtain ⟨hfield, hroom, hencoded⟩ := hdecoded v hv c f m hown
      exact ⟨hfield.exists_blank hencoded, hroom⟩
    exact hexists.mpr fun v hv =>
      hjoins.canRead hbuilt hvalid hregular hanswers hv (hnames v hv)
  · intro answer hanswer v hv
    obtain ⟨c, f, m, b, hown, hmerged, hlookup, hgaps, hshape⟩ :=
      hjoins.hasGaps_of_data hbuilt hvalid hanswer hv
    refine ⟨c, f, m, b, hown, hlookup, hgaps.type_eq, hshape, ?_⟩
    intro hfield i hi hnone
    apply hfield.isMissing
    apply hgaps.holdsFill
    rw [Request.getElem?_rows hmerged hi, hnone]

/-- A field of one real along `t`. -/
def realField (name : String) (x : Double) : Field :=
  ⟨name, ["t"], ⟨.double, [1], [.real x], rfl⟩, [], []⟩

/-- A field of one instant along `t`, with what is known of how it was stored. -/
def instantField (name : String) (n : Int) (encoding : Attributes) : Field :=
  ⟨name, ["t"], ⟨.instant .nano, [1], [.time (some n)], rfl⟩, [], encoding⟩

/-- A real and an instant, side by side. -/
def decoded : Dataset where
  id := .null
  first := smallChild (lineField "t" "t" [1]) (realField "v" (Double.exact 5)) "t" []
  rest := [smallChild (lineField "t" "t" [2]) (instantField "w" 6 []) "t" []]
  owners := [("v", 0), ("w", 1)]
  union := ⟨[1, 1], Block.ofInts .int64 [1, 2],
    [IndexMap.ofRows [some 0, none], IndexMap.ofRows [none, some 0]]⟩
  title := .null
  warnings := []

theorem owns_decoded {v : String} (hv : v ∈ ["v", "w"]) {c : Child} {f : Field} {m : IndexMap}
    (h : decoded.Owns v c f m) :
  v = "v" ∧ f = realField "v" (Double.exact 5) ∧ m = IndexMap.ofRows [some 0, none]
    ∨ v = "w" ∧ f = instantField "w" 6 [] ∧ m = IndexMap.ofRows [none, some 0]
  := by
  obtain ⟨k, hk, hc, hm⟩ := h.exists_number
  have hfield := h.field_eq
  simp only [List.mem_cons, List.not_mem_nil, or_false] at hv
  rcases hv with rfl | rfl
  · obtain rfl : 0 = k := Except.ok.inj hk
    obtain rfl : decoded.first = c := Option.some.inj hc
    left
    exact ⟨rfl, (Option.some.inj hfield).symm, (Option.some.inj hm).symm⟩
  · obtain rfl : 1 = k := Except.ok.inj hk
    obtain rfl := Option.some.inj hc
    right
    exact ⟨rfl, (Option.some.inj hfield).symm, (Option.some.inj hm).symm⟩

/-- The real is missing at the second position, and the instant at the first. -/
theorem data_isMissing_decoded :
  ∃ answer b b', (build .null decoded.children .null).result = .ok decoded
    ∧ (decoded.data ["v", "w"] [⟨0, 1, 1⟩]).result = .ok answer
    ∧ answer.lookup "v" = some b ∧ b.get [1] = .real .nan
    ∧ answer.lookup "w" = some b' ∧ b'.get [0] = .time none
  := by
  have hbuild : (build .null decoded.children .null).result = .ok decoded := rfl
  have hbuilt : ∀ c ∈ decoded.children, c.IsBuilt := by
    intro c hc
    simp only [children, decoded, List.mem_cons, List.not_mem_nil, or_false] at hc
    rcases hc with rfl | rfl
    · exact ⟨⟨[lineField "t" "t" [1]], [realField "v" (Double.exact 5)], [], rfl⟩, .null, rfl⟩
    · exact ⟨⟨[lineField "t" "t" [2]], [instantField "w" 6 []], [], rfl⟩, .null, rfl⟩
  have hregular : ∀ c ∈ decoded.children, c.IsRegular := by
    intro c hc
    simp only [children, decoded, List.mem_cons, List.not_mem_nil, or_false] at hc
    rcases hc with rfl | rfl
    · exact isRegular_smallChild rfl rfl
    · exact isRegular_smallChild rfl rfl
  have hvalid : Request.AllValid decoded.shape [⟨0, 1, 1⟩] := by decide
  have hnames : ∀ v ∈ ["v", "w"], v ∈ decoded.variableNames := by decide
  have hreal : Child.IsDecoded (realField "v" (Double.exact 5)) := ⟨.inl rfl, rfl⟩
  have hinstant : Child.IsDecoded (instantField "w" 6 []) := ⟨.inr rfl, rfl⟩
  have hfields : ∀ v ∈ ["v", "w"], ∀ c f m, decoded.Owns v c f m → Child.IsDecoded f
      ∧ Fetch.HasRoom f.block.type [2]
      ∧ (f.block.type.isInstant → ∀ w ∈ Child.fillAttribute? f.encoding,
          ∃ blank, Block.fill f.block.type [] w = .ok blank) := by
    intro v hv c f m hown
    rcases owns_decoded hv hown with ⟨-, rfl, -⟩ | ⟨-, rfl, -⟩
    · refine ⟨hreal, ⟨by decide, by decide, by decide⟩, ?_⟩
      intro hinstant
      cases hinstant
    · refine ⟨hinstant, ⟨by decide, by decide, by decide⟩, ?_⟩
      intro _ w hw
      cases hw
  obtain ⟨-, hgiven, hmissing⟩ := data_isMissing hbuild hbuilt hvalid
  obtain ⟨answer, hanswer⟩ := hgiven hregular hnames hfields
  obtain ⟨c, f, m, b, hown, hb, -, -, hcells⟩ := hmissing answer hanswer "v" List.mem_cons_self
  obtain ⟨c', f', m', b', hown', hb', -, -, hcells'⟩ := hmissing answer hanswer "w" (by simp)
  obtain ⟨-, rfl, rfl⟩ := (owns_decoded (by simp) hown).resolve_right (by simp)
  obtain ⟨-, rfl, rfl⟩ := (owns_decoded (by simp) hown').resolve_left (by simp)
  refine ⟨answer, b, b', hbuild, hanswer, hb, ?_, hb', ?_⟩
  · exact (hcells hreal 1 (by decide) rfl).real_eq rfl [] .nil
  · exact (hcells' hinstant 0 (by decide) rfl).instant_eq rfl rfl [] .nil

/-- Two children, of which the first has an instant with a fill value in its encoding. -/
def storedChildren (fill : Value) : List Child :=
  [smallChild (lineField "t" "t" [1]) (instantField "v" 5 [("_FillValue", fill)]) "t" [],
    lineChild [2] "w" [6]]

/-- The number that stood for missing instants in a store is read as an instant, and one that is no
number is refused. -/
theorem not_missing_storedInstants :
  (∃ d answer, (build .null (storedChildren (.int (-999))) .null).result = .ok d
      ∧ Request.AllValid d.shape [⟨0, 1, 1⟩] ∧ (d.data ["v"] [⟨0, 1, 1⟩]).result = .ok answer
      ∧ answer.lookup "v"
        = some ⟨.instant .nano, [2], [.time (some 5), .time (some (-999))], rfl⟩)
    ∧ ∃ d failure, (build .null (storedChildren (.real .nan)) .null).result = .ok d
      ∧ Request.AllValid d.shape [⟨0, 1, 1⟩] ∧ (d.data ["v"] [⟨0, 1, 1⟩]).result = .error failure
  := by
  constructor
  · exact ⟨_, _, rfl, by decide, rfl, rfl⟩
  · exact ⟨_, _, rfl, by decide, rfl⟩

end Dataset

end GridUnion
