import GridUnion.Axis.Union
import GridUnion.Proofs.Axis.Numbers
import GridUnion.Proofs.Axis.Times
import GridUnion.Proofs.Block.Equality

/-!
# Merges that overrun

A missing time is equal to nothing, not even to itself.  A cursor that has come to one never moves on,
and the merge runs past the room for its positions.  The check of an axis does not see missing times,
since their differences are missing as well.  Apart from that, and from blocks without dimensions, a
union of axes of one type of numbers or times is made, or what it refuses is wrong in the
configuration.
-/

namespace GridUnion

/-- Types of numbers and times. -/
def ElementType.IsMeasure (t : ElementType) : Prop := t.isNumeric ∨ t.isInstant ∨ t.isDuration

/-- Whether an element is a value of a type of numbers or times; counts of time are kept in words. -/
def Element.isValueOf : ElementType → Element → Bool
  | .instant _, .time c | .duration _, .time c => Count.ofWord (Count.toWord c) = c
  | t, e => e.isNumberOf t

/-! ### Values of one type -/

namespace Element

variable {t : ElementType} {e : Element}

theorem isNumberOf_of_isValueOf (ht : t.isNumeric) (h : e.isValueOf t) :
  e.isNumberOf t
  := by
  cases t with
  | instant | duration => cases ht
  | _ => exact h

theorem exists_time_of_isValueOf (ht : t.isInstant ∨ t.isDuration) (h : e.isValueOf t) :
  ∃ c, e = .time c ∧ Count.ofWord (Count.toWord c) = c
  := by
  cases t with
  | instant u | duration u =>
    cases e with
    | time c => exact ⟨c, rfl, of_decide_eq_true h⟩
    | _ => cases h
  | _ => simp [ElementType.isInstant, ElementType.isDuration] at ht

theorem ofCell_of_isValueOf (ht : t.IsMeasure) (h : e.isValueOf t) :
  Scalar.ofCell t e = ⟨t, e⟩
  := by
  rcases ht with ht | ht
  · exact ofCell_of_isNumberOf (isNumberOf_of_isValueOf ht h)
  · obtain ⟨c, rfl, -⟩ := exists_time_of_isValueOf ht h
    rfl

end Element

namespace Scalar

variable {t : ElementType} {e : Element}

/-- A missing time is equal to nothing. -/
theorem equals_missingTime (t : ElementType) (s : Scalar) :
  equals ⟨t, .time none⟩ s = false
  := by
  have htimeIn : ∀ u, timeIn u t none = none := by
    intro u
    cases t <;> rfl
  have hnumber : asNumber (.time none) = .time none := rfl
  rw [equals, compared, hnumber]
  generalize asNumber s.element = x
  cases x with
  | time c => cases t.isInstant == s.type.isInstant <;> simp [htimeIn]
  | int n => cases countsBeside ⟨t, .time none⟩ s <;> simp
  | _ => rfl

/-- A count of a word stays as it is in its own unit. -/
theorem timeIn_self (ht : t.isInstant ∨ t.isDuration) {n : Int} (hword : Count.ofWord n = some n) :
  timeIn (t.timeUnit.finer t.timeUnit) t (some n) = some n
  := by
  have hfiner : ∀ u : TimeUnit, u.finer u = u := fun u => if_neg (Nat.lt_irrefl _)
  cases t with
  | instant u => simp [timeIn, ElementType.timeUnit, hfiner, Count.convertInstant]
  | duration u =>
    have hpos : 0 < u.length := by cases u <;> decide
    have hwrap : Count.wrap n = n := by rw [← Count.toWord_ofWord, hword, Count.toWord]
    have hrescale : Count.rescale u.length u.length n = n := by
      simp [Count.rescale, Nat.div_self hpos, hwrap]
    simp [timeIn, ElementType.timeUnit, hfiner, Count.convertDuration, hrescale, hword]
  | _ => simp [ElementType.isInstant, ElementType.isDuration] at ht

/-- A time of a word is equal to itself. -/
theorem equals_self_of_time (ht : t.isInstant ∨ t.isDuration) {n : Int}
    (hword : Count.ofWord n = some n) :
  equals ⟨t, .time (some n)⟩ ⟨t, .time (some n)⟩
  := equals_time_iff.mpr ⟨n, timeIn_self ht hword, timeIn_self ht hword⟩

/-- A value is equal to itself unless it is missing or not a number. -/
theorem equals_self_of_isValueOf (ht : t.IsMeasure) (h : e.isValueOf t) (hnan : e ≠ .real .nan)
    (hmissing : e ≠ .time none) :
  equals ⟨t, e⟩ ⟨t, e⟩
  := by
  rcases ht with ht | ht
  · exact Axis.equals_self_of_isNumberOf (Element.isNumberOf_of_isValueOf ht h) hnan
  · obtain ⟨c, rfl, hword⟩ := Element.exists_time_of_isValueOf ht h
    cases c with
    | none => exact absurd rfl hmissing
    | some n => exact equals_self_of_time ht hword

end Scalar

namespace Axis

open Element (isValueOf)

variable {t : ElementType}

/-- Values of one type of numbers or times are compared and stored without a failure. -/
theorem comparable_values (ht : t.IsMeasure) :
  Comparable t fun s => s.type = t ∧ isValueOf t s.element
  := by
  rcases ht with ht | ht
  · have hnumbers := comparable_numbers ht
    have hmono : ∀ s : Scalar, s.type = t ∧ isValueOf t s.element →
        t.admits s.type ∧ s.element.isNumberOf s.type := by
      rintro ⟨_, e⟩ ⟨rfl, he⟩
      exact ⟨ElementType.admits_self ht, Element.isNumberOf_of_isValueOf ht he⟩
    constructor
    · exact fun v hv => hnumbers.isSomething v (hmono v hv)
    · exact fun v w hv hw => hnumbers.isOrdered v w (hmono v hv) (hmono w hw)
    · exact fun v w hv hw => hnumbers.isCompared v w (hmono v hv) (hmono w hw)
    · exact fun v hv => hnumbers.isStored v (hmono v hv)
  · have htime : ∀ s : Scalar, s.type = t ∧ isValueOf t s.element → ∃ c, s = ⟨t, .time c⟩ := by
      rintro ⟨_, e⟩ ⟨rfl, he⟩
      obtain ⟨c, rfl, -⟩ := Element.exists_time_of_isValueOf ht he
      exact ⟨c, rfl⟩
    have hunits : ElementType.unitFault? t t = none := by
      cases t <;> simp [ElementType.unitFault?, TimeUnit.common]
    constructor
    · intro v hv
      obtain ⟨c, rfl⟩ := htime v hv
      rfl
    · intro v w hv hw
      obtain ⟨c, rfl⟩ := htime v hv
      obtain ⟨d, rfl⟩ := htime w hw
      simp [Scalar.isOrdered, Scalar.asNumber]
    · intro v w hv hw
      obtain ⟨c, rfl⟩ := htime v hv
      obtain ⟨d, rfl⟩ := htime w hw
      simp [Scalar.checkCompared, Scalar.comparisonFault?, hunits]
    · intro v hv
      obtain ⟨c, rfl⟩ := htime v hv
      use .time c
      cases t with
      | instant | duration => simp [Scalar.store, Scalar.storeTyped, Scalar.isPlain]
      | _ => simp [ElementType.isInstant, ElementType.isDuration] at ht

theorem checkDifferences_of_isMeasure {b : Block} (h : b.type.IsMeasure) :
  checkDifferences b = .ok ()
  := by
  rcases h with h | h
  · exact checkDifferences_eq_ok h
  · unfold checkDifferences
    cases htype : b.type with
    | text | object => simp [htype, ElementType.isInstant, ElementType.isDuration] at h
    | _ => rfl

/-- A block that passes the check has only numbers. -/
theorem nan_not_mem_of_check {b : Block} (ht : b.type.IsMeasure)
    (hdata : ∀ e ∈ b.data, isValueOf b.type e) {child : Nat} (h : check child b = .ok ()) :
  .real .nan ∉ b.data
  := by
  obtain ⟨-, hnan, -⟩ := (check_eq_ok_iff_isChain (checkDifferences_of_isMeasure ht) child).mp h
  rcases ht with ht | ht
  · exact (firstNaN?_eq_none_iff fun e he => Element.isNumberOf_of_isValueOf ht (hdata e he)).mp hnan
  · intro hmem
    obtain ⟨c, hc, -⟩ := Element.exists_time_of_isValueOf ht (hdata _ hmem)
    cases hc

/-! ### Merges of one type -/

section Merge

variable {axes : List Block} (ht : t.IsMeasure) (htypes : ∀ b ∈ axes, b.type = t)
  (hdata : ∀ b ∈ axes, ∀ e ∈ b.data, e.isValueOf t)

include ht htypes hdata

theorem mem_of_mem_scalars {b : Block} (hb : b ∈ axes) {s : Scalar} (hs : s ∈ b.scalars) :
  ∃ e ∈ b.data, s = ⟨t, e⟩ ∧ isValueOf t e
  := by
  obtain ⟨e, he, rfl⟩ := List.mem_map.mp hs
  have hvalue := hdata b hb e he
  refine ⟨e, he, ?_, hvalue⟩
  rw [htypes b hb]
  exact Element.ofCell_of_isValueOf ht hvalue

theorem values_of_mem_scalars :
  ∀ b ∈ axes, ∀ s ∈ b.scalars, s.type = t ∧ isValueOf t s.element
  := by
  intro b hb s hs
  obtain ⟨e, -, rfl, hvalue⟩ := mem_of_mem_scalars ht htypes hdata hb hs
  exact ⟨rfl, hvalue⟩

/-- Axes of one type that pass the check are merged if no time is missing. -/
theorem exists_merge_of_no_missingTime (hne : axes ≠ []) (hcheck : checkAll 0 axes = .ok ())
    (hmissing : ∀ b ∈ axes, .time none ∉ b.data) :
  ∃ union, merge axes = .ok union
  := by
  apply (comparable_values ht).exists_merge hne hcheck (commonType_eq_ok hne htypes)
    (values_of_mem_scalars ht htypes hdata)
  intro b hb s hs
  obtain ⟨e, he, rfl, hvalue⟩ := mem_of_mem_scalars ht htypes hdata hb hs
  have hnan : .real .nan ∉ b.data := by
    have hb' := (checkAll_eq_ok_iff_check 0).mp hcheck b hb
    rw [← htypes b hb] at ht
    exact nan_not_mem_of_check ht (htypes b hb ▸ hdata b hb) hb'
  apply Scalar.equals_self_of_isValueOf ht hvalue
  · rintro rfl
    exact hnan he
  · rintro rfl
    exact hmissing b hb he

/-- A merge of axes of one type that pass the check overruns at a missing time. -/
theorem merge_eq_overrun (hcheck : checkAll 0 axes = .ok ()) {b : Block} (hb : b ∈ axes)
    (hmissing : .time none ∈ b.data) :
  merge axes = .error (.axisOverrun (axes.map fun b => b.data.length).sum)
  := by
  have hne := List.ne_nil_of_mem hb
  have hcommon := commonType_eq_ok hne htypes
  have hcompared : checkCompared t axes = .ok () := by
    apply (comparable_values ht).checkSteps
    simpa using values_of_mem_scalars ht htypes hdata
  have hstuck : (⟨0, values b⟩ : Cursor Scalar) ∈ cursors axes := List.mem_map_of_mem hb
  have hvalue : (⟨t, .time none⟩ : Scalar) ∈ values b := by
    have hcell : Scalar.ofCell b.type (.time none) = ⟨t, .time none⟩ := by rw [htypes b hb]; rfl
    apply List.mem_filter.mpr
    exact ⟨hcell ▸ List.mem_map_of_mem hmissing, rfl⟩
  have hpositions : positions axes
      = .error (.axisOverrun (axes.map fun b => b.data.length).sum) := by
    cases hps : positions axes with
    | ok ps =>
      obtain ⟨s, hs⟩ := (positions_eq_ok_iff.mp hps).1.exists_equal hstuck hvalue
      rw [Scalar.equals_missingTime] at hs
      cases hs
    | error f =>
      unfold positions at hps
      split at hps
      · cases hps
      · exact hps.symm
  simp [merge, hne, bind_eq_error_iff, hcheck, hcommon, hcompared, hpositions]

/-- Axes of one type are merged, or the configuration is refused, unless they pass the check with a
missing time among them. -/
theorem exists_merge_or_refused
    (hmissing : checkAll 0 axes = .ok () → ∀ b ∈ axes, .time none ∉ b.data) :
  (∃ union, merge axes = .ok union) ∨ ∃ f, merge axes = .error f ∧ f.kind = .configuration
  := by
  rcases eq_or_ne axes [] with rfl | hne
  · exact .inr ⟨.noAxes, rfl, rfl⟩
  · cases hcheck : checkAll 0 axes with
    | ok =>
      left
      exact exists_merge_of_no_missingTime ht htypes hdata hne hcheck (hmissing hcheck)
    | error f =>
      have hdifferences : ∀ b ∈ axes, checkDifferences b = .ok () := fun b hb =>
        checkDifferences_of_isMeasure (htypes b hb ▸ ht)
      right
      refine ⟨f, ?_, kind_of_checkAll hdifferences hcheck⟩
      simp [merge, hne, bind_eq_error_iff, hcheck]

end Merge

/-- Axes that pass the check are lines. -/
theorem shape_ne_nil_of_checkAll {axes : List Block} (h : checkAll 0 axes = .ok ()) {b : Block}
    (hb : b ∈ axes) :
  b.shape ≠ []
  := by
  have hcheck := (checkAll_eq_ok_iff_check 0).mp h b hb
  rintro hshape
  simp [check, hshape] at hcheck

end Axis

/-! ### Unions of one type -/

namespace AxisUnion

/-- The sizes of axes are taken before anything else, and a block without dimensions has none. -/
theorem result_ofBlocks_of_shape_nil {axes : List Block} {b : Block} (hb : b ∈ axes)
    (hshape : b.shape = []) :
  (ofBlocks axes).result = .error .noLength
  := by
  have hsizes : (axes.mapM fun b => sizeOf (.block b)) = .error .noLength := by
    induction axes with
    | nil => cases hb
    | cons a as ih =>
      rw [List.mapM_cons, bind_eq_error_iff]
      rcases hsize : a.shape with _ | ⟨n, shape⟩
      · left
        simp [sizeOf, hsize]
      · right
        have hmem : b ∈ as := by
          rcases List.mem_cons.mp hb with rfl | hmem
          · simp [hsize] at hshape
          · exact hmem
        refine ⟨n, by simp [sizeOf, hsize], ?_⟩
        rw [bind_eq_error_iff]
        exact .inl (ih hmem)
  simp only [result_ofBlocks, bind_eq_error_iff]
  exact .inl hsizes

section Sizes

variable {axes : List Block} (h : ∀ b ∈ axes, b.shape ≠ [])

include h

/-- A union of axes that have sizes is made exactly if they are merged. -/
theorem exists_result_iff :
  (∃ u, (ofBlocks axes).result = .ok u) ↔ ∃ union, Axis.merge axes = .ok union
  := by
  obtain ⟨sizes, hsizes⟩ := exists_sizes h
  simp only [result_ofBlocks, hsizes, bind_eq_ok_iff, pure_eq_ok_iff]
  constructor
  · rintro ⟨u, -, -, union, hmerge, -⟩
    exact ⟨union, hmerge⟩
  · rintro ⟨union, hmerge⟩
    exact ⟨_, sizes, rfl, union, hmerge, rfl⟩

/-- A union of axes that have sizes fails as their merge does. -/
theorem result_eq_error_iff {f : Failure} :
  (ofBlocks axes).result = .error f ↔ Axis.merge axes = .error f
  := by
  obtain ⟨sizes, hsizes⟩ := exists_sizes h
  simp [result_ofBlocks, hsizes, bind_eq_error_iff, pure, Except.pure]

end Sizes

/-- A union of axes of one type of numbers or times is made or refuses the configuration, unless there
is a block without dimensions, or all axes pass the check and one of them has a missing time.  The
former has no length; in the latter case, and in no other, the merge overruns. -/
theorem builds_or_refuses_iff {t : ElementType} (ht : t.IsMeasure) {axes : List Block}
    (htypes : ∀ b ∈ axes, b.type = t) (hdata : ∀ b ∈ axes, ∀ e ∈ b.data, e.isValueOf t) :
  (((∃ u, (ofBlocks axes).result = .ok u)
        ∨ ∃ f, (ofBlocks axes).result = .error f ∧ f.kind = .configuration)
      ↔ (∀ b ∈ axes, b.shape ≠ [])
        ∧ (Axis.checkAll 0 axes = .ok () → ∀ b ∈ axes, .time none ∉ b.data))
    ∧ ((ofBlocks axes).result = .error .noLength ↔ ∃ b ∈ axes, b.shape = [])
    ∧ ((∃ capacity, (ofBlocks axes).result = .error (.axisOverrun capacity))
      ↔ Axis.checkAll 0 axes = .ok () ∧ ∃ b ∈ axes, .time none ∈ b.data)
  := by
  by_cases hshape : ∃ b ∈ axes, b.shape = []
  · have ⟨b, hb, hnil⟩ := hshape
    have hresult := result_ofBlocks_of_shape_nil hb hnil
    have hcheck : Axis.checkAll 0 axes ≠ .ok () := fun h =>
      Axis.shape_ne_nil_of_checkAll h hb hnil
    refine ⟨iff_of_false ?_ fun h => h.1 b hb hnil, iff_of_true hresult hshape,
      iff_of_false ?_ fun h => hcheck h.1⟩
    · simp [hresult, Failure.kind]
    · simp [hresult]
  · have hshapes : ∀ b ∈ axes, b.shape ≠ [] := fun b hb h => hshape ⟨b, hb, h⟩
    simp only [exists_result_iff hshapes, result_eq_error_iff hshapes]
    by_cases hmissing : Axis.checkAll 0 axes = .ok () ∧ ∃ b ∈ axes, .time none ∈ b.data
    · have ⟨hcheck, b, hb, htime⟩ := hmissing
      have hoverrun := Axis.merge_eq_overrun ht htypes hdata hcheck hb htime
      refine ⟨iff_of_false ?_ fun h => h.2 hcheck b hb htime, iff_of_false ?_ hshape,
        iff_of_true ⟨_, hoverrun⟩ hmissing⟩
      · simp [hoverrun, Failure.kind]
      · simp [hoverrun]
    · have hnone : Axis.checkAll 0 axes = .ok () → ∀ b ∈ axes, .time none ∉ b.data :=
        fun hcheck b hb htime => hmissing ⟨hcheck, b, hb, htime⟩
      have hmerge := Axis.exists_merge_or_refused ht htypes hdata hnone
      have hkind : ∀ f, Axis.merge axes = .error f → f.kind = .configuration := by
        intro f hf
        simpa [hf] using hmerge
      refine ⟨iff_of_true hmerge ⟨hshapes, hnone⟩, iff_of_false ?_ hshape, iff_of_false ?_ hmissing⟩
      · rintro hlength
        cases hkind _ hlength
      · rintro ⟨capacity, hoverrun⟩
        cases hkind _ hoverrun

/-- A time that is there and a missing one pass the check, and are not merged. -/
theorem overrun_behind_time :
  let axes := [Block.ofList (.instant .nano) [.time (some 1), .time none]]
  (∀ b ∈ axes, b.type = .instant .nano) ∧ (∀ b ∈ axes, ∀ e ∈ b.data, e.isValueOf (.instant .nano))
    ∧ Axis.checkAll 0 axes = .ok ()
    ∧ ∃ capacity, (ofBlocks axes).result = .error (.axisOverrun capacity)
  := by
  intro axes
  have htypes : ∀ b ∈ axes, b.type = .instant .nano := List.forall_mem_singleton.mpr rfl
  have hdata : ∀ b ∈ axes, ∀ e ∈ b.data, e.isValueOf (.instant .nano) :=
    List.forall_mem_singleton.mpr (by decide)
  have hcheck : Axis.checkAll 0 axes = .ok () := rfl
  refine ⟨htypes, hdata, hcheck, ?_⟩
  have hunion := builds_or_refuses_iff (.inr (.inl rfl)) htypes hdata
  exact hunion.2.2.mpr ⟨hcheck, _, List.mem_cons_self, by simp [Block.ofList]⟩

/-- An axis that is one missing time overruns, and a number without dimensions has no length; neither
is refused as wrong in the configuration. -/
theorem not_refused_missingTime :
  (ofBlocks [Block.ofList (.instant .nano) [.time none]]).result = .error (.axisOverrun 1)
    ∧ (Failure.axisOverrun 1).kind ≠ .configuration
    ∧ (ofBlocks [⟨.signed .w64, [], [.int 5], rfl⟩]).result = .error .noLength
    ∧ Failure.noLength.kind ≠ .configuration
  := ⟨rfl, by decide, rfl, by decide⟩

end AxisUnion

end GridUnion
