import GridUnion.Proofs.Dataset.Refused
import GridUnion.Proofs.Dataset.Whole

/-!
# Completed requests

Given requests are completed by whole ones for the dimensions that are left out.  The data then have
all values along these dimensions.  But no request is within an empty dimension, the whole of it
neither, so the data are refused if an empty dimension is left out.
-/

namespace GridUnion

theorem rel_of_getElem? {α β : Type} {R : α → β → Prop} {xs : List α} {ys : List β}
    (h : List.Forall₂ R xs ys) {i : Nat} {x : α} {y : β} (hx : xs[i]? = some x)
    (hy : ys[i]? = some y) :
  R x y
  := by
  obtain ⟨-, hrel⟩ := List.forall₂_iff_get.mp h
  obtain ⟨hi, rfl⟩ := List.getElem?_eq_some_iff.mp hx
  obtain ⟨hi', rfl⟩ := List.getElem?_eq_some_iff.mp hy
  exact hrel i hi hi'

namespace Request

/-- The whole of a dimension is within it unless it is empty. -/
theorem valid_whole_iff {n : Nat} :
  (whole n).Valid n ↔ 0 < n
  := by
  constructor
  · rintro ⟨-, hstart, hle, hlt⟩
    omega
  · exact valid_whole

section Completed

variable {sizes : List Nat} {given : List Request}

/-- Where a request is left out there is the whole dimension. -/
theorem getElem?_completed {i : Nat} (hi : given.length ≤ i) :
  (completed sizes given)[i]? = sizes[i]?.map whole
  := by
  rw [completed, List.getElem?_append_right hi, List.getElem?_map, List.getElem?_drop,
    Nat.add_sub_cancel' hi]

variable (hgiven : AllValid (sizes.take given.length) given)

include hgiven

theorem length_le_of_allValid_take :
  given.length ≤ sizes.length
  := by
  rw [← hgiven.length_eq]
  exact List.length_take_le' ..

theorem length_completed :
  (completed sizes given).length = sizes.length
  := by
  simp [completed, length_le_of_allValid_take hgiven]

/-- Completed requests are within the dimensions if the given ones are and no dimension that is left
out is empty. -/
theorem allValid_completed_iff :
  AllValid sizes (completed sizes given) ↔ ∀ n ∈ sizes.drop given.length, 0 < n
  := by
  constructor
  · intro hvalid n hn
    obtain ⟨i, hi⟩ := List.mem_iff_getElem?.mp hn
    rw [List.getElem?_drop] at hi
    apply valid_whole_iff.mp (rel_of_getElem? hvalid hi _)
    rw [getElem?_completed (Nat.le_add_right _ i), hi]
    rfl
  · intro hpos
    have hvalid : AllValid (sizes.take given.length ++ sizes.drop given.length)
        (completed sizes given) :=
      List.rel_append hgiven (allValid_whole hpos)
    rwa [List.take_append_drop] at hvalid

end Completed

end Request

namespace Dataset

open Request (AllValid)

variable {d : Dataset} {names : List String} {given : List Request}

/-- A dimension that is left out is empty, and no dimension that is left out before it is. -/
structure IsFirstEmpty (d : Dataset) (given : List Request) (i : Nat) (name : String) : Prop where
  length_le : given.length ≤ i
  name_eq : d.axes[i]? = some name
  size_eq : d.shape[i]? = some 0
  pos_of_lt : ∀ j n, given.length ≤ j → j < i → d.shape[j]? = some n → 0 < n

/-- Requests are refused if an empty dimension is left out, by the name of the first such one. -/
theorem data_of_isEmpty [Machine] (hgiven : AllValid (d.shape.take given.length) given)
    (hempty : ∃ n ∈ d.shape.drop given.length, n = 0) (names : List String) :
  ∃ i name, d.IsFirstEmpty given i name
    ∧ (d.data names (Request.completed d.shape given)).result
      = .error (.onAxis name (.invalidRange 0 (-1) 0))
  := by
  have hinvalid : ¬ AllValid d.shape (Request.completed d.shape given) := by
    rw [Request.allValid_completed_iff hgiven]
    obtain ⟨n, hn, rfl⟩ := hempty
    intro hpos
    exact lt_irrefl 0 (hpos 0 hn)
  have hlength := Request.length_completed hgiven
  obtain ⟨i, name, fault, hfirst, hcheck⟩ :=
    exists_isFirstOutside d.length_axes hlength.symm hinvalid
  obtain ⟨n, r, hn, hr, hfault⟩ := hfirst.check_eq
  have hnot : ¬ r.Valid n := by
    rw [← Request.check_eq_ok_iff, hfault]
    nofun
  -- the given requests are within their dimensions, so what is refused is whole
  have hi : given.length ≤ i := by
    by_contra hlt
    rw [not_le] at hlt
    rw [Request.completed, List.getElem?_append_left hlt] at hr
    exact hnot (rel_of_getElem? hgiven (by rwa [List.getElem?_take_of_lt hlt]) hr)
  rw [Request.getElem?_completed hi, hn] at hr
  obtain rfl : Request.whole n = r := Option.some.inj hr
  obtain rfl : n = 0 := by
    rw [Request.valid_whole_iff] at hnot
    omega
  obtain rfl : Failure.invalidRange 0 (-1) 0 = fault := Except.error.inj hfault
  refine ⟨i, name, ⟨hi, hfirst.name_eq, hn, ?_⟩, ?_⟩
  · intro j n hj hlt hn
    apply Request.valid_whole_iff.mp (rel_of_getElem? hfirst.allValid_take _ _)
    · exact j
    · rwa [List.getElem?_take_of_lt hlt]
    · rw [List.getElem?_take_of_lt hlt, Request.getElem?_completed hj, hn]
      rfl
  · exact data_of_checkRequests_eq_error (hlength.trans d.length_axes.symm) hcheck names

section Joins

variable {children : List Child} {blocks : List Block} (h : d.Joins children blocks)
  (hbuilt : ∀ c ∈ children, c.IsBuilt) {merged : Request} {others : List Request}
  (hvalid : AllValid d.shape (merged :: others))

include h hbuilt hvalid

/-- Along a dimension that is requested whole the data of regular children have all values. -/
theorem Joins.lookup_of_whole [Machine] (hregular : ∀ c ∈ children, c.IsRegular)
    {answer : List (String × Block)}
    (hanswer : (d.data names (merged :: others)).result = .ok answer) {i n : Nat} {name : String}
    (hname : d.axes[i]? = some name) (hsize : d.shape[i]? = some n)
    (hwhole : (merged :: others)[i]? = some (Request.whole n)) (hnames : name ∉ names) :
  ∃ line, d.axisValues name = .ok line ∧ line.shape = [n] ∧ answer.lookup name = some line
  := by
  have hnodup : d.axes.Nodup := (hregular d.first h.first_mem).nodup
  have hmem : (name, Request.whole n) ∈ d.axes.zip (merged :: others) :=
    List.mem_of_getElem? (List.getElem?_zip_eq_some.mpr ⟨hname, hwhole⟩)
  obtain ⟨b, hb, hlookup⟩ := (h.lookup_of_data hbuilt hvalid hanswer).2 hnodup _ hmem hnames
  obtain ⟨line, hline, hshape⟩ := rel_of_getElem? (h.axisValues_shape hbuilt hregular) hname hsize
  have hselect := axisData_eq_select hline hshape (rel_of_getElem? hvalid hsize hwhole)
  rw [Block.select_whole hshape] at hselect
  obtain rfl := Except.ok.inj (hb.symm.trans hselect)
  exact ⟨b, hline, hshape, hlookup⟩

end Joins

/-- Requests for the first dimensions are completed by whole ones.  If no dimension that is left out
is empty the data are given exactly if all variables can be read, and along the dimensions that are
left out they have all values.  If one is empty they are refused. -/
theorem data_completed [Machine] {id title : Value} {children : List Child} {d : Dataset}
    (h : (build id children title).result = .ok d) (hbuilt : ∀ c ∈ children, c.IsBuilt)
    {given : List Request} (hgiven : AllValid (d.shape.take given.length) given)
    (names : List String) :
  ∃ merged others, d.fullConstraints given = .ok (merged :: others)
    ∧ merged :: others = given ++ (d.shape.drop given.length).map Request.whole
    ∧ ((∃ n ∈ d.shape.drop given.length, n = 0) → ∃ i name, d.IsFirstEmpty given i name
        ∧ (d.data names (merged :: others)).result = .error (.onAxis name (.invalidRange 0 (-1) 0)))
    ∧ ((∀ n ∈ d.shape.drop given.length, 0 < n) →
        ((∃ answer, (d.data names (merged :: others)).result = .ok answer)
            ↔ ∀ v ∈ names, d.CanRead merged others v)
        ∧ ((∀ c ∈ children, c.IsRegular) → (∀ v ∈ names, v ∈ d.variableNames) →
            d.HasAnswers names (merged :: others) →
            ∃ answer, (d.data names (merged :: others)).result = .ok answer)
        ∧ ∀ answer, (d.data names (merged :: others)).result = .ok answer →
            (∀ v ∈ names, ∃ b, answer.lookup v = some b
              ∧ b.shape = given.map Request.length ++ d.shape.drop given.length)
            ∧ ((∀ c ∈ children, c.IsRegular) → ∀ i name n, given.length ≤ i →
                d.axes[i]? = some name → d.shape[i]? = some n → name ∉ names →
                ∃ line, d.axisValues name = .ok line ∧ line.shape = [n]
                  ∧ answer.lookup name = some line))
  := by
  obtain ⟨blocks, hjoins⟩ := joins_of_build h
  -- every dataset has a merged axis, so there is a first request
  obtain ⟨merged, others, hfull⟩ : ∃ merged others,
      Request.completed d.shape given = merged :: others := by
    apply List.exists_cons_of_length_pos
    rw [Request.length_completed hgiven]
    exact Nat.succ_pos _
  have hlengths : (merged :: others).map Request.length
      = given.map Request.length ++ d.shape.drop given.length := by
    simp [← hfull, Request.completed, Function.comp_def]
  refine ⟨merged, others, ?_, hfull.symm, ?_, ?_⟩
  · exact fullConstraints_eq_ok_iff.mpr ⟨Request.length_le_of_allValid_take hgiven, hfull⟩
  · intro hempty
    rw [← hfull]
    exact data_of_isEmpty hgiven hempty names
  · intro hpos
    have hvalid := (Request.allValid_completed_iff hgiven).mpr hpos
    rw [hfull] at hvalid
    have hexists := hjoins.exists_data_iff hbuilt hvalid names
    refine ⟨hexists, ?_, ?_⟩
    · intro hregular hknown hanswers
      exact hexists.mpr fun v hv =>
        hjoins.canRead hbuilt hvalid hregular hanswers hv (hknown v hv)
    · intro answer hanswer
      constructor
      · intro v hv
        obtain ⟨-, -, -, b, -, -, hlookup, -, hshape⟩ :=
          hjoins.hasGaps_of_data hbuilt hvalid hanswer hv
        exact ⟨b, hlookup, hshape.trans hlengths⟩
      · intro hregular i name n hi hname hsize hnames
        apply hjoins.lookup_of_whole hbuilt hvalid hregular hanswer hname hsize _ hnames
        rw [← hfull, Request.getElem?_completed hi, hsize]
        rfl

/-- Two of three merged positions of two children, with both positions along `x`. -/
theorem data_completed_plates :
  ∃ d answer b line, (build .null plates .null).result = .ok d
    ∧ d.fullConstraints [⟨1, 1, 2⟩] = .ok [⟨1, 1, 2⟩, ⟨0, 1, 1⟩]
    ∧ (d.data ["w"] [⟨1, 1, 2⟩, ⟨0, 1, 1⟩]).result = .ok answer
    ∧ answer.lookup "w" = some b ∧ b.shape = [2, 2]
    ∧ d.axisValues "x" = .ok line ∧ answer.lookup "x" = some line
  := by
  obtain ⟨d, hd, hshape, haxes, hnames⟩ : ∃ d, (build .null plates .null).result = .ok d
      ∧ d.shape = [3, 2] ∧ d.axes = ["t", "x"] ∧ d.variableNames = ["v", "w"] :=
    ⟨_, rfl, rfl, rfl, rfl⟩
  have hregular : ∀ c ∈ plates, c.IsRegular := fun c => isRegular_of_mem_plates
  obtain ⟨blocks, hjoins⟩ := joins_of_build hd
  have hgiven : AllValid (d.shape.take [(⟨1, 1, 2⟩ : Request)].length) [⟨1, 1, 2⟩] := by
    rw [hshape]
    decide
  obtain ⟨merged, others, hfull, hcompleted, -, hgives⟩ :=
    data_completed hd areComparable_plates.isBuilt hgiven ["w"]
  obtain ⟨rfl, rfl⟩ : merged = ⟨1, 1, 2⟩ ∧ others = [⟨0, 1, 1⟩] := by
    simpa [hshape, Request.whole] using hcompleted
  obtain ⟨-, hexists, hwhole⟩ := hgives (by simp [hshape])
  have hroom : Fetch.HasRoom .int64 [2, 2] := by constructor <;> decide
  obtain ⟨answer, hanswer⟩ := hexists hregular (by simp [hnames])
    (hasAnswers_plates hjoins.children_eq _ hroom)
  obtain ⟨hvariables, hlines⟩ := hwhole answer hanswer
  obtain ⟨b, hb, hsizes⟩ := hvariables "w" List.mem_cons_self
  obtain ⟨line, hline, -, hx⟩ := hlines hregular 1 "x" 2 (by simp) (by simp [haxes])
    (by simp [hshape]) (by simp)
  rw [hshape] at hsizes
  exact ⟨d, answer, b, line, hd, hfull, hanswer, hb, hsizes, hline, hx⟩

/-- The data of a single child without any merged value are refused if all of it is left out. -/
theorem data_emptyLine :
  ∃ d, (build .null [lineChild [] "v" []] .null).result = .ok d ∧ "v" ∈ d.variableNames
    ∧ d.HasAnswers ["v"] [⟨0, 1, -1⟩] ∧ d.fullConstraints [] = .ok [⟨0, 1, -1⟩]
    ∧ (d.data ["v"] [⟨0, 1, -1⟩]).result = .error (.onAxis "t" (.invalidRange 0 (-1) 0))
  := by
  refine ⟨_, rfl, by decide, ?_, rfl, rfl⟩
  intro v hv c f m hown
  obtain rfl := List.mem_singleton.mp hv
  obtain ⟨k, hk, hc, -⟩ := hown.exists_number
  obtain rfl : 0 = k := Except.ok.inj hk
  obtain rfl := Option.some.inj hc
  obtain rfl := Option.some.inj hown.field_eq
  exact ⟨⟨_, rfl⟩, by constructor <;> decide⟩

end Dataset

end GridUnion
