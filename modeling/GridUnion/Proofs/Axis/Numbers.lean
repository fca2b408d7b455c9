import GridUnion.Proofs.Axis.Integers
import Mathlib.Data.List.Chain

/-!
# Axes of numbers

Lines of numbers of any types are merged exactly if each of them passes the check of its values:
numbers have a common type, their comparisons do not fail, and the cursors reach their ends.  All
that a merge of them refuses is wrong in the configuration.
-/

namespace GridUnion

open Element (isNumberOf)

/-- A block of one dimension that holds numbers of its type. -/
structure Block.IsNumberLine (b : Block) : Prop where
  length_shape : b.shape.length = 1
  isNumeric : b.type.isNumeric
  isNumberOf : ∀ e ∈ b.data, e.isNumberOf b.type

instance (b : Block) : Decidable b.IsNumberLine :=
  decidable_of_iff
    (b.shape.length = 1 ∧ b.type.isNumeric ∧ ∀ e ∈ b.data, e.isNumberOf b.type)
    ⟨fun ⟨hshape, htype, hdata⟩ => ⟨hshape, htype, hdata⟩,
      fun h => ⟨h.length_shape, h.isNumeric, h.isNumberOf⟩⟩

namespace Axis

/-! ### Comparisons of numbers -/

section Scalars

variable {a b : ElementType} {d e : Element}

theorem isOrdered_of_isNumberOf (hd : isNumberOf a d) (he : isNumberOf b e) :
  Scalar.isOrdered ⟨a, d⟩ ⟨b, e⟩
  := by
  unfold Scalar.isOrdered
  rcases Element.asNumber_of_isNumberOf hd with ⟨m, hm⟩ | ⟨x, rfl⟩
  · rcases Element.asNumber_of_isNumberOf he with ⟨n, hn⟩ | ⟨y, rfl⟩
    · simp only [hm, hn]
    · simp only [hm, Scalar.asNumber_real]
  · rcases Element.asNumber_of_isNumberOf he with ⟨n, hn⟩ | ⟨y, rfl⟩
    · simp only [hn, Scalar.asNumber_real]
    · simp only [Scalar.asNumber_real]

theorem comparisonFault?_of_isNumeric (ha : a.isNumeric) (hb : b.isNumeric) :
  Scalar.comparisonFault? ⟨a, d⟩ ⟨b, e⟩ = none
  := by
  cases a with
  | object | instant | duration | text => cases ha
  | _ =>
    cases b with
    | object | instant | duration | text => cases hb
    | _ => rfl

theorem equals_self_of_isNumberOf (he : isNumberOf a e) (hnan : e ≠ .real .nan) :
  Scalar.equals ⟨a, e⟩ ⟨a, e⟩
  := by
  have hplain : Scalar.isPlain ⟨a, e⟩ = false := Scalar.isPlain_of_isNumberOf he
  unfold Scalar.equals Scalar.compared
  rcases Element.asNumber_of_isNumberOf he with ⟨n, hn⟩ | ⟨x, rfl⟩
  · simp [hn, Scalar.comparedNumbers]
  · cases x with
    | nan => exact absurd rfl hnan
    | infinite | finite => simp [Scalar.comparedNumbers, Scalar.realBeside, hplain, Double.equals]

/-- Numbers of types that a type admits are compared and stored without a failure; they are
something, as all numbers are. -/
theorem comparable_numbers {t : ElementType} (ht : t.isNumeric) :
  Comparable t fun s => t.admits s.type ∧ isNumberOf s.type s.element
  := by
  constructor
  · rintro ⟨a, e⟩ ⟨-, he⟩
    rcases Element.asNumber_of_isNumberOf he with ⟨n, hn⟩ | ⟨x, rfl⟩
    · cases e with
      | null => cases hn
      | _ => rfl
    · rfl
  · rintro ⟨a, d⟩ ⟨b, e⟩ ⟨-, hd⟩ ⟨-, he⟩
    exact isOrdered_of_isNumberOf hd he
  · rintro ⟨a, d⟩ ⟨b, e⟩ ⟨-, hd⟩ ⟨-, he⟩
    have ha := Element.isNumeric_of_isNumberOf hd
    have hb := Element.isNumeric_of_isNumberOf he
    rw [Scalar.checkCompared, comparisonFault?_of_isNumeric ha hb]
  · rintro ⟨a, e⟩ ⟨hadmits, he⟩
    exact Scalar.exists_store_of_admits ht hadmits he

end Scalars

/-! ### The check of a line of numbers -/

section Check

variable {b : Block}

theorem firstDescent?_eq_none_iff {type : ElementType} (position : Nat) {l : List Element} :
  firstDescent? type position l = none ↔ l.IsChain fun d e => ascends type d e
  := by
  induction l generalizing position with
  | nil => simp [firstDescent?]
  | cons d l ih =>
    cases l with
    | nil => simp [firstDescent?]
    | cons e l =>
      rw [firstDescent?, List.isChain_cons_cons, ← ih (position + 1)]
      split
      · next h => simp [h]
      · next h => simp [h]

theorem firstNaN?_eq_none_iff (h : ∀ e ∈ b.data, e.isNumberOf b.type) :
  firstNaN? b = none ↔ .real .nan ∉ b.data
  := by
  unfold firstNaN?
  split
  · rw [List.findIdx?_eq_none_iff]
    constructor
    · intro hall hmem
      simpa [Double.isNaN] using hall _ hmem
    · intro hmem e he
      split
      · next x =>
        cases x with
        | nan => exact absurd he hmem
        | infinite | finite => rfl
      · rfl
  · next hreal =>
    simp only [true_iff]
    intro hmem
    have hnan := h _ hmem
    cases htype : b.type with
    | single | double => simp [htype, ElementType.isReal] at hreal
    | _ => simp [htype, isNumberOf] at hnan

theorem checkDifferences_eq_ok (htype : b.type.isNumeric) :
  checkDifferences b = .ok ()
  := by
  unfold checkDifferences
  cases h : b.type with
  | text | object => simp [h, ElementType.isNumeric, ElementType.rank] at htype
  | _ => rfl

/-- A block of values that have differences passes the check exactly if it is a line, holds no value
that is not a number, and its neighbours ascend in the arithmetic of its type. -/
theorem check_eq_ok_iff_isChain (hdifferences : checkDifferences b = .ok ()) (child : Nat) :
  check child b = .ok ()
    ↔ b.shape.length = 1 ∧ firstNaN? b = none ∧ b.data.IsChain fun d e => ascends b.type d e
  := by
  rw [← firstDescent?_eq_none_iff 0]
  unfold check
  by_cases hshape : b.shape.length = 1
  · rw [if_neg (not_not.mpr hshape)]
    cases firstNaN? b with
    | some position => simp
    | none =>
      by_cases hlength : b.data.length ≤ 1
      · have hchain : firstDescent? b.type 0 b.data = none := by
          match b.data, hlength with
          | [], _ | [_], _ => rfl
        simp [hshape, hlength, hchain]
      · rcases hdescent : firstDescent? b.type 0 b.data with _ | ⟨position, value, previous⟩
        · simp [hshape, hlength, hdifferences]
        · simp [hlength, hdifferences]
  · simp [hshape]

/-- What the check of values that have differences refuses is wrong in the configuration. -/
theorem kind_of_check (hdifferences : checkDifferences b = .ok ()) {child : Nat} {f : Failure}
    (h : check child b = .error f) :
  f.kind = .configuration
  := by
  unfold check at h
  split at h
  · cases h
    rfl
  · split at h
    · cases h
      rfl
    · split at h
      · cases h
      · rw [hdifferences] at h
        rcases hdescent : firstDescent? b.type 0 b.data with _ | ⟨position, value, previous⟩
        · rw [hdescent] at h
          cases h
        · rw [hdescent] at h
          cases h
          rfl

/-- A line of numbers passes the check exactly if it holds no value that is not a number, and its
neighbours ascend in the arithmetic of its type. -/
theorem check_eq_ok_iff (hb : b.IsNumberLine) (child : Nat) :
  check child b = .ok () ↔ .real .nan ∉ b.data ∧ b.data.IsChain fun d e => ascends b.type d e
  := by
  rw [← firstNaN?_eq_none_iff hb.isNumberOf,
    check_eq_ok_iff_isChain (checkDifferences_eq_ok hb.isNumeric)]
  simp [hb.length_shape]

/-- A strictly ascending line of integers passes the check if its neighbours differ by integers of the
type. -/
theorem check_ofInts {type : ElementType} (htype : type.isInteger) {values : List Int}
    (hsorted : values.Pairwise (· < ·))
    (hgaps : values.IsChain fun m n => type.wrap (n - m) = n - m) (child : Nat) :
  check child (Block.ofInts type values) = .ok ()
  := by
  obtain ⟨hascends, hdifferences, hnumbers⟩ :
      (∀ m n, ascends type (.int m) (.int n) = decide (0 < type.wrap (n - m)))
        ∧ checkDifferences (Block.ofInts type values) = .ok ()
        ∧ firstNaN? (Block.ofInts type values) = none := by
    cases type with
    | signed | unsigned => exact ⟨fun _ _ => rfl, rfl, rfl⟩
    | _ => cases htype
  apply (check_eq_ok_iff_isChain hdifferences child).mpr
  refine ⟨rfl, hnumbers, ?_⟩
  change (values.map Element.int).IsChain _
  rw [List.isChain_map, List.isChain_iff_getElem]
  intro i hi
  have hlt := List.pairwise_iff_getElem.mp hsorted i (i + 1) (by omega) hi (by omega)
  have hgap := List.isChain_iff_getElem.mp hgaps i hi
  simp only [Block.ofInts, Block.ofList, hascends, hgap, decide_eq_true_eq]
  omega

end Check

/-! ### Merges of lines of numbers -/

section Merge

variable {axes : List Block}

theorem checkAll_eq_ok_iff (hnum : ∀ b ∈ axes, b.IsNumberLine) (child : Nat) :
  checkAll child axes = .ok ()
    ↔ ∀ b ∈ axes, .real .nan ∉ b.data ∧ b.data.IsChain fun d e => ascends b.type d e
  := by
  rw [checkAll_eq_ok_iff_check]
  apply forall₂_congr
  intro b hb
  apply check_eq_ok_iff (hnum b hb)

theorem kind_of_checkAll (hdifferences : ∀ b ∈ axes, checkDifferences b = .ok ()) {child : Nat}
    {f : Failure} (h : checkAll child axes = .error f) :
  f.kind = .configuration
  := by
  induction axes generalizing child with
  | nil => cases h
  | cons b bs ih =>
    obtain ⟨hb, hbs⟩ := List.forall_mem_cons.mp hdifferences
    rw [checkAll] at h
    cases hcheck : check child b with
    | error g =>
      rw [hcheck] at h
      cases h
      exact kind_of_check hb hcheck
    | ok =>
      rw [hcheck] at h
      exact ih hbs h

theorem exists_of_mem_cursors {c : Cursor Scalar} (hc : c ∈ cursors axes) {s : Scalar}
    (hs : s ∈ c.rest) :
  ∃ b ∈ axes, s ∈ b.scalars
  := by
  obtain ⟨b, hb, rfl⟩ := List.mem_map.mp hc
  exact ⟨b, hb, List.mem_of_mem_filter hs⟩

/-- Axes whose values are compared and stored without a failure are merged if each value is equal to
itself. -/
theorem Comparable.exists_merge {P : Scalar → Prop} {t : ElementType} (hP : Comparable t P)
    (hne : axes ≠ []) (hcheck : checkAll 0 axes = .ok ()) (hcommon : commonType axes = .ok t)
    (hvalues : ∀ b ∈ axes, ∀ s ∈ b.scalars, P s)
    (hself : ∀ b ∈ axes, ∀ s ∈ b.scalars, Scalar.equals s s) :
  ∃ union, merge axes = .ok union
  := by
  have hcompared : checkCompared t axes = .ok () := by
    apply hP.checkSteps
    simpa using hvalues
  have hequals : ∀ c ∈ cursors axes, ∀ s ∈ c.rest, Scalar.equals s s := by
    intro c hc s hs
    obtain ⟨b, hb, hs⟩ := exists_of_mem_cursors hc hs
    exact hself b hb s hs
  obtain ⟨ps, hrun, hlength⟩ := @exists_merges Scalar Scalar.lt Scalar.equals _ hequals
  have hstored : ∀ p ∈ ps, ∃ e, p.value.store t = .ok e := by
    intro p hp
    obtain ⟨c, hc, hs⟩ := hrun.exists_mem_rest p hp
    obtain ⟨b, hb, hs⟩ := exists_of_mem_cursors hc hs
    exact hP.isStored _ (hvalues b hb _ hs)
  obtain ⟨data, hdata⟩ := exists_mapM_eq_ok hstored
  refine ⟨_, merge_eq_ok_iff.mpr
    ⟨hne, hcheck, t, ps, data, hcommon, hcompared, ?_, hdata, rfl, rfl⟩⟩
  apply positions_eq_ok_iff.mpr
  use hrun
  simpa [total, cursors, Function.comp_def] using hlength

section Values

variable (hnum : ∀ b ∈ axes, b.IsNumberLine)

include hnum

theorem exists_of_mem_scalars {b : Block} (hb : b ∈ axes) {s : Scalar} (hs : s ∈ b.scalars) :
  s.type = b.type ∧ s.element ∈ b.data ∧ isNumberOf s.type s.element
  := by
  obtain ⟨e, he, rfl⟩ := List.mem_map.mp hs
  have hnumber := (hnum b hb).isNumberOf e he
  rw [Element.ofCell_of_isNumberOf hnumber]
  exact ⟨rfl, he, hnumber⟩

/-- Lines of numbers that pass the check are merged. -/
theorem exists_merge_of_checkAll (hne : axes ≠ []) (hcheck : checkAll 0 axes = .ok ()) :
  ∃ union, merge axes = .ok union
  := by
  have hne' : axes.map Block.type ≠ [] := by simpa using hne
  obtain ⟨t, ht, htnum, hadmits⟩ :=
    ElementType.exists_commonOf hne' (by simpa using fun b hb => (hnum b hb).isNumeric)
  apply (comparable_numbers htnum).exists_merge hne hcheck
  · simp [commonType, ht, Except.mapError]
  · intro b hb s hs
    obtain ⟨htype, -, hnumber⟩ := exists_of_mem_scalars hnum hb hs
    exact ⟨htype ▸ hadmits _ (List.mem_map_of_mem hb), hnumber⟩
  · intro b hb s hs
    obtain ⟨-, hmem, hnumber⟩ := exists_of_mem_scalars hnum hb hs
    apply equals_self_of_isNumberOf hnumber
    intro hnan
    exact ((checkAll_eq_ok_iff hnum 0).mp hcheck b hb).1 (hnan ▸ hmem)

/-- What a merge of lines of numbers refuses is wrong in the configuration. -/
theorem kind_of_merge {f : Failure} (h : merge axes = .error f) :
  f.kind = .configuration
  := by
  by_cases hne : axes = []
  · subst hne
    cases h
    rfl
  · cases hcheck : checkAll 0 axes with
    | ok =>
      obtain ⟨union, hunion⟩ := exists_merge_of_checkAll hnum hne hcheck
      rw [hunion] at h
      cases h
    | error g =>
      have hempty : axes.isEmpty = false := by simpa using hne
      simp only [merge, hempty, hcheck] at h
      cases h
      exact kind_of_checkAll (fun b hb => checkDifferences_eq_ok (hnum b hb).isNumeric) hcheck

end Values

end Merge

end Axis

end GridUnion
