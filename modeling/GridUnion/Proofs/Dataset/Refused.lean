import GridUnion.Proofs.Dataset.Order
import GridUnion.Proofs.Dataset.Read

/-!
# Refused requests

Which requests for data a dataset refuses, and how, depends on the requests alone: on their number,
on the first of them that is not within its dimension, and on the first name that no variable has.
Names do not matter as long as a request is not within its dimension.
-/

namespace GridUnion

namespace Dataset

open Request (AllValid)

/-! ### The first request that is refused -/

/-- The request of a number is the first that is not within its dimension, and why it is not. -/
structure IsFirstOutside (names : List String) (sizes : List Nat) (requests : List Request) (i : Nat)
    (name : String) (fault : Failure) : Prop where
  name_eq : names[i]? = some name
  allValid_take : AllValid (sizes.take i) (requests.take i)
  check_eq : ∃ n r, sizes[i]? = some n ∧ requests[i]? = some r ∧ r.check n = .error fault

theorem IsFirstOutside.succ {names : List String} {sizes : List Nat} {requests : List Request}
    {i : Nat} {name : String} {fault : Failure}
    (h : IsFirstOutside names sizes requests i name fault) {n : Nat} {r : Request} (hr : r.Valid n)
    (first : String) :
  IsFirstOutside (first :: names) (n :: sizes) (r :: requests) (i + 1) name fault
  := by
  obtain ⟨hname, htake, hcheck⟩ := h
  exact ⟨hname, .cons hr htake, hcheck⟩

/-- The first request that is not within its dimension is refused by the dimension's name. -/
theorem exists_isFirstOutside {names : List String} {sizes : List Nat} {requests : List Request}
    (hnames : names.length = sizes.length) (hrequests : sizes.length = requests.length)
    (h : ¬ AllValid sizes requests) :
  ∃ i name fault, IsFirstOutside names sizes requests i name fault
    ∧ checkRequests (names.zip (sizes.zip requests)) = .error (.onAxis name fault)
  := by
  induction sizes generalizing names requests with
  | nil =>
    obtain rfl := List.length_eq_zero_iff.mp hrequests.symm
    exact absurd .nil h
  | cons n sizes ih =>
    obtain ⟨name, names, rfl⟩ := List.exists_cons_of_length_eq_add_one hnames
    obtain ⟨r, requests, rfl⟩ := List.exists_cons_of_length_eq_add_one hrequests.symm
    simp only [List.length_cons, Nat.add_right_cancel_iff] at hnames hrequests
    by_cases hr : r.Valid n
    · obtain ⟨i, axis, fault, hfirst, hcheck⟩ := ih hnames hrequests fun hrest => h (.cons hr hrest)
      refine ⟨i + 1, axis, fault, hfirst.succ hr name, ?_⟩
      simpa [checkRequests, Request.check_eq_ok_iff.mpr hr] using hcheck
    · obtain ⟨fault, hfault, -⟩ := Request.exists_check_eq_error hr
      refine ⟨0, name, fault, ⟨rfl, .nil, n, r, rfl, rfl, hfault⟩, ?_⟩
      simp [checkRequests, hfault]

theorem exists_onAxis_of_checkRequests {items : List (String × Nat × Request)} {e : Failure}
    (h : checkRequests items = .error e) :
  ∃ name fault, e = .onAxis name fault
  := by
  induction items with
  | nil => cases h
  | cons item items ih =>
    obtain ⟨name, size, r⟩ := item
    rw [checkRequests] at h
    split at h
    · next fault _ => exact ⟨name, fault, (Except.error.inj h).symm⟩
    · exact ih h

variable {d : Dataset} {names : List String} {requests : List Request}

/-- How a dataset refuses requests that are not within its dimensions: they are too many or too few,
or the first one that is not within its dimension is refused by the dimension's name. -/
inductive IsRefusal (d : Dataset) (requests : List Request) : Failure → Prop where
  | miscounted (hlength : requests.length ≠ d.axes.length) :
      IsRefusal d requests (.datasetConstraints d.axes.length requests.length)
  | outside {i : Nat} {name : String} {fault : Failure}
      (hlength : requests.length = d.axes.length)
      (hfirst : IsFirstOutside d.axes d.shape requests i name fault) :
      IsRefusal d requests (.onAxis name fault)

theorem IsRefusal.kind_eq {e : Failure} (h : d.IsRefusal requests e) :
  e.kind = .value
  := by
  cases h with
  | miscounted => rfl
  | outside => rfl

theorem data_of_checkRequests_eq_error [Machine] (hlength : requests.length = d.axes.length)
    {e : Failure} (hcheck : checkRequests (d.axes.zip (d.shape.zip requests)) = .error e)
    (names : List String) :
  (d.data names requests).result = .error e
  := by
  simp only [data, hlength, ne_eq, not_true_eq_false, if_false, hcheck]
  rfl

/-- Requests that are not within the dimensions are refused, whatever the names are. -/
theorem data_of_not_allValid [Machine] (h : ¬ AllValid d.shape requests) (names : List String) :
  ∃ e, d.IsRefusal requests e ∧ (d.data names requests).result = .error e
  := by
  by_cases hlength : requests.length = d.axes.length
  · have hsizes : d.shape.length = requests.length := by rw [hlength, length_axes]
    obtain ⟨i, name, fault, hfirst, hcheck⟩ := exists_isFirstOutside d.length_axes hsizes h
    exact ⟨_, .outside hlength hfirst, data_of_checkRequests_eq_error hlength hcheck names⟩
  · refine ⟨_, .miscounted hlength, ?_⟩
    simp only [data, ne_eq, hlength, not_false_eq_true, if_true]
    rfl

/-! ### The first name that is unknown -/

theorem variableData_of_not_mem [Machine] {v : String} (hv : v ∉ d.variableNames) (merged : Request)
    (others : List Request) :
  (d.variableData v merged others).result = .error (.unknownVariable d.id v)
  := by
  have howner : d.owner v = .error (.unknownVariable d.id v) := by
    rw [variableNames, ← lookup_isSome_iff, Option.not_isSome_iff_eq_none] at hv
    rw [owner, hv]
  simp only [variableData, Noted.result_bind, Noted.result_liftM, howner]
  rfl

/-- The first variable whose data are not given decides what comes out. -/
theorem variablesData_of_error [Machine] {merged : Request} {others : List Request}
    {before after : List String} {v : String}
    (hbefore : ∀ w ∈ before, ∃ b, (d.variableData w merged others).result = .ok b) {e : Failure}
    (hv : (d.variableData v merged others).result = .error e) (data : List (String × Block)) :
  (d.variablesData merged others (before ++ v :: after) data).result = .error e
  := by
  induction before generalizing data with
  | nil =>
    simp only [List.nil_append, variablesData, Noted.result_bind, hv]
    rfl
  | cons w before ih =>
    obtain ⟨⟨b, hb⟩, hrest⟩ := List.forall_mem_cons.mp hbefore
    simp only [List.cons_append, variablesData, Noted.result_bind, hb]
    exact ih hrest (setBlock w b data)

/-- A name is the first of several that no variable has. -/
def IsFirstUnknown (d : Dataset) (names : List String) (v : String) : Prop :=
  ∃ before after, names = before ++ v :: after ∧ (∀ w ∈ before, w ∈ d.variableNames)
    ∧ v ∉ d.variableNames

theorem exists_isFirstUnknown (h : ∃ v ∈ names, v ∉ d.variableNames) :
  ∃ v, d.IsFirstUnknown names v
  := by
  have hfind : (names.find? fun v => decide (v ∉ d.variableNames)).isSome := by
    simpa using h
  obtain ⟨v, hv⟩ := Option.isSome_iff_exists.mp hfind
  obtain ⟨hunknown, before, after, hnames, hbefore⟩ := List.find?_eq_some_iff_append.mp hv
  exact ⟨v, before, after, hnames, by simpa using hbefore, by simpa using hunknown⟩

section Joins

variable {children : List Child} {blocks : List Block} (h : d.Joins children blocks)
  (hbuilt : ∀ c ∈ children, c.IsBuilt) {merged : Request} {others : List Request}
  (hvalid : AllValid d.shape (merged :: others))

include h hvalid

/-- The segments of a request are found on every map once the request is within its dimension. -/
theorem Joins.exists_segments :
  ∀ m ∈ d.union.maps, ∃ segments, m.segments merged = .ok segments
  := by
  obtain ⟨hmerged, -⟩ := List.forall₂_cons.mp hvalid
  intro m hm
  have hsize : m.size = d.union.size := Axis.size_maps h.union_eq m hm
  exact ⟨_, Segment.segments_eq_ok (hsize ▸ hmerged)⟩

include hbuilt

/-- The first unknown name is refused if the data of the variables before it can be read. -/
theorem Joins.data_of_isFirstUnknown [Machine] {v : String} (hv : d.IsFirstUnknown names v)
    (hread : ∀ w ∈ names, w ∈ d.variableNames → d.CanRead merged others w) :
  (d.data names (merged :: others)).result = .error (.unknownVariable d.id v)
  := by
  obtain ⟨hmerged, -⟩ := List.forall₂_cons.mp hvalid
  obtain ⟨before, after, rfl, hbefore, hunknown⟩ := hv
  obtain ⟨parts, hparts⟩ := h.result_data hbuilt hvalid
  rw [hparts]
  apply variablesData_of_error _ (variableData_of_not_mem hunknown merged others)
  intro w hw
  apply (h.exists_variableData_iff hbuilt hmerged).mpr
  exact hread w (List.mem_append_left _ hw) (hbefore w hw)

end Joins

/-- Requests that are not within the dimensions are refused, whatever the names are.  For others the
segments are found on every map, and if the children are regular the data are given, unless a name
is unknown: then the first such name is refused. -/
theorem data_refused [Machine] {id title : Value} {children : List Child} {d : Dataset}
    (h : (build id children title).result = .ok d) (hbuilt : ∀ c ∈ children, c.IsBuilt)
    (names : List String) :
  (∀ requests, ¬ AllValid d.shape requests →
      ∃ e, d.IsRefusal requests e ∧ e.kind = .value ∧ (d.data names requests).result = .error e)
    ∧ ∀ merged others, AllValid d.shape (merged :: others) →
        (∀ m ∈ d.union.maps, ∃ segments, m.segments merged = .ok segments)
        ∧ ((∀ c ∈ children, c.IsRegular) → d.HasAnswers names (merged :: others) →
            ((∃ v ∈ names, v ∉ d.variableNames) → ∃ v, d.IsFirstUnknown names v
              ∧ (Failure.unknownVariable d.id v).kind = .key
              ∧ (d.data names (merged :: others)).result = .error (.unknownVariable d.id v))
            ∧ ((∀ v ∈ names, v ∈ d.variableNames) →
              ∃ answer, (d.data names (merged :: others)).result = .ok answer))
  := by
  obtain ⟨blocks, hjoins⟩ := joins_of_build h
  constructor
  · intro requests hinvalid
    obtain ⟨e, he, hdata⟩ := data_of_not_allValid hinvalid names
    exact ⟨e, he, he.kind_eq, hdata⟩
  · intro merged others hvalid
    use hjoins.exists_segments hvalid
    intro hregular hanswers
    have hread : ∀ v ∈ names, v ∈ d.variableNames → d.CanRead merged others v := fun v =>
      hjoins.canRead hbuilt hvalid hregular hanswers
    constructor
    · intro hunknown
      obtain ⟨v, hv⟩ := exists_isFirstUnknown hunknown
      exact ⟨v, hv, rfl, hjoins.data_of_isFirstUnknown hbuilt hvalid hv hread⟩
    · intro hknown
      apply (hjoins.exists_data_iff hbuilt hvalid names).mpr
      intro v hv
      exact hread v hv (hknown v hv)

/-- The integers of two children can stand for missing data. -/
theorem fill_of_mem_plates {c : Child} (hc : c ∈ plates) {v : String} {f : Field}
    (hf : c.grid.field? v = some f) :
  f.block.type = .int64 ∧ ∃ blank, Block.fill f.block.type [] (Child.fillOf f) = .ok blank
  := by
  have hmem : f ∈ c.grid.fields := List.mem_of_find?_eq_some hf
  simp only [plates, List.mem_cons, List.not_mem_nil, or_false] at hc
  rcases hc with rfl | rfl
  all_goals
    simp only [Grid.fields, plateChild, List.cons_append, List.nil_append, List.mem_cons,
      List.not_mem_nil, or_false] at hmem
    rcases hmem with rfl | rfl | rfl
    all_goals exact ⟨rfl, _, rfl⟩

theorem hasAnswers_plates {d : Dataset} (hd : d.children = plates) (names : List String)
    {requests : List Request} (hroom : Fetch.HasRoom .int64 (requests.map Request.length)) :
  d.HasAnswers names requests
  := by
  intro v _ c f m hown
  obtain ⟨k, -, hc, -⟩ := hown.exists_number
  rw [hd] at hc
  obtain ⟨htype, hblank⟩ := fill_of_mem_plates (List.mem_of_getElem? hc) hown.field_eq
  use hblank
  rwa [htype]

/-- Known and unknown variables of two children, and a request past the end. -/
theorem data_refused_plates :
  ∃ d answer e, (build .null plates .null).result = .ok d
    ∧ (d.data ["w", "v"] [⟨0, 1, 2⟩, ⟨0, 1, 1⟩]).result = .ok answer
    ∧ (∃ v, d.IsFirstUnknown ["w", "other", "v"] v
      ∧ (d.data ["w", "other", "v"] [⟨0, 1, 2⟩, ⟨0, 1, 1⟩]).result = .error (.unknownVariable d.id v))
    ∧ d.IsRefusal [⟨0, 1, 2⟩, ⟨0, 1, 2⟩] e
    ∧ (d.data ["other"] [⟨0, 1, 2⟩, ⟨0, 1, 2⟩]).result = .error e
  := by
  obtain ⟨d, hd, hshape, hnames⟩ : ∃ d, (build .null plates .null).result = .ok d
      ∧ d.shape = [3, 2] ∧ d.variableNames = ["v", "w"] := ⟨_, rfl, rfl, rfl⟩
  have hbuilt := areComparable_plates.isBuilt
  have hregular : ∀ c ∈ plates, c.IsRegular := fun c => isRegular_of_mem_plates
  obtain ⟨blocks, hjoins⟩ := joins_of_build hd
  have hroom : Fetch.HasRoom .int64 [3, 2] := by constructor <;> decide
  have hvalid : AllValid d.shape [⟨0, 1, 2⟩, ⟨0, 1, 1⟩] := by
    rw [hshape]
    decide
  have hinvalid : ¬ AllValid d.shape [⟨0, 1, 2⟩, ⟨0, 1, 2⟩] := by
    rw [hshape]
    decide
  obtain ⟨-, hknown⟩ := ((data_refused hd hbuilt ["w", "v"]).2 _ _ hvalid).2 hregular
    (hasAnswers_plates hjoins.children_eq _ hroom)
  obtain ⟨hunknown, -⟩ := ((data_refused hd hbuilt ["w", "other", "v"]).2 _ _ hvalid).2 hregular
    (hasAnswers_plates hjoins.children_eq _ hroom)
  obtain ⟨answer, hanswer⟩ := hknown (by simp [hnames])
  obtain ⟨v, hv, -, hrefused⟩ := hunknown (by simp [hnames])
  obtain ⟨e, he, -, houtside⟩ := (data_refused hd hbuilt ["other"]).1 _ hinvalid
  exact ⟨d, answer, e, hd, hanswer, ⟨v, hv, hrefused⟩, he, houtside⟩

/-- Two children whose values of `x` are equal; the second has fewer positions along `x`. -/
def narrowChildren : List Child := [unevenChild "v" 2, unevenChild "w" 1]

/-- What the first child has room for the second does not give. -/
theorem data_narrowChildren :
  (∀ c ∈ narrowChildren, ∀ f ∈ c.grid.quantities,
      ∃ blank, Block.fill f.block.type [] (Child.fillOf f) = .ok blank)
    ∧ ∃ d failure, (build .null narrowChildren .null).result = .ok d ∧ "w" ∈ d.variableNames
      ∧ AllValid d.shape [⟨0, 1, 0⟩, ⟨0, 1, 1⟩]
      ∧ (d.data ["w"] [⟨0, 1, 0⟩, ⟨0, 1, 1⟩]).result = .error failure
      ∧ failure.kind = .inconsistency
  := by
  constructor
  · intro c hc f hf
    simp only [narrowChildren, List.mem_cons, List.not_mem_nil, or_false] at hc
    rcases hc with rfl | rfl
    · obtain rfl := List.mem_singleton.mp hf
      exact ⟨_, rfl⟩
    · obtain rfl := List.mem_singleton.mp hf
      exact ⟨_, rfl⟩
  · exact ⟨_, _, rfl, by decide, by decide, rfl, rfl⟩

end Dataset

end GridUnion
