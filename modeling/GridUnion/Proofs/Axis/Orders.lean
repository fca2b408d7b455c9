import GridUnion.Proofs.Axis.Mixed
import GridUnion.Proofs.Axis.Overrun
import Mathlib.Data.String.Basic

/-!
# Axes in one order

Values of numbers or times of one type, numbers that are stored apart, and texts are in one order: each
has a key, and values compare as their keys do.  Where axes ascend in one order, a merge has a row of a
child at a position exactly if the child has the value, and it is the row of that value.
-/

namespace GridUnion

/-- The place of a number or of a time in the order of its type. -/
def Element.rank : Element → Double.Level
  | .bool b => ((b.toInt : WithTop Int) : Double.Level)
  | .int n => ((n : WithTop Int) : Double.Level)
  | .time (some n) => ((n : WithTop Int) : Double.Level)
  | .real x => x.level
  | _ => ⊥

namespace Scalar

variable {t : ElementType} {d e : Element}

theorem rank_of_ints {a b : Scalar} {m n : Int} (h : compared a b = .ints m n)
    (ha : a.element.rank = ((m : WithTop Int) : Double.Level))
    (hb : b.element.rank = ((n : WithTop Int) : Double.Level)) :
  (lt a b ↔ a.element.rank < b.element.rank) ∧ (equals a b ↔ a.element.rank = b.element.rank)
  := by
  rw [lt, equals, h, ha, hb]
  simp

/-- Values of one type of numbers or times compare as their places do, unless they are missing or not
numbers. -/
theorem lt_and_equals_iff_rank (ht : t.IsMeasure) (hd : d.isValueOf t) (he : e.isValueOf t)
    (hd' : d ≠ .real .nan ∧ d ≠ .time none) (he' : e ≠ .real .nan ∧ e ≠ .time none) :
  (lt ⟨t, d⟩ ⟨t, e⟩ ↔ d.rank < e.rank) ∧ (equals ⟨t, d⟩ ⟨t, e⟩ ↔ d.rank = e.rank)
  := by
  rcases ht with ht | ht
  · have hd := Element.isNumberOf_of_isValueOf ht hd
    have he := Element.isNumberOf_of_isValueOf ht he
    cases t with
    | bool =>
      obtain ⟨x, rfl⟩ := Element.exists_bool_of_isNumberOf hd
      obtain ⟨y, rfl⟩ := Element.exists_bool_of_isNumberOf he
      exact rank_of_ints (a := ⟨.bool, .bool x⟩) (b := ⟨.bool, .bool y⟩) rfl rfl rfl
    | signed w | unsigned w =>
      obtain ⟨m, rfl, -⟩ := Element.exists_int_of_isNumberOf rfl hd
      obtain ⟨n, rfl, -⟩ := Element.exists_int_of_isNumberOf rfl he
      exact rank_of_ints (a := ⟨_, .int m⟩) (b := ⟨_, .int n⟩) rfl rfl rfl
    | single | double =>
      obtain ⟨x, rfl⟩ := Element.exists_real_of_isNumberOf rfl hd
      obtain ⟨y, rfl⟩ := Element.exists_real_of_isNumberOf rfl he
      have hx : x ≠ .nan := by simpa using hd'.1
      have hy : y ≠ .nan := by simpa using he'.1
      exact ⟨Double.lt_iff_level_lt hx hy, Double.equals_iff_level_eq hx hy⟩
    | _ => cases ht
  · obtain ⟨c, rfl, hc⟩ := Element.exists_time_of_isValueOf ht hd
    obtain ⟨c', rfl, hc'⟩ := Element.exists_time_of_isValueOf ht he
    obtain ⟨m, rfl⟩ := Option.ne_none_iff_exists'.mp fun h => hd'.2 (congrArg Element.time h)
    obtain ⟨n, rfl⟩ := Option.ne_none_iff_exists'.mp fun h => he'.2 (congrArg Element.time h)
    have hm : Count.ofWord m = some m := hc
    have hn : Count.ofWord n = some n := hc'
    have hcompared : compared ⟨t, .time (some m)⟩ ⟨t, .time (some n)⟩
        = .times (timeIn (t.timeUnit.finer t.timeUnit) t (some m))
            (timeIn (t.timeUnit.finer t.timeUnit) t (some n)) := if_pos (beq_self_eq_true _)
    rw [timeIn_self ht hm, timeIn_self ht hn] at hcompared
    rw [lt, equals, hcompared]
    simp [Element.rank]

/-- Texts compare as they do in the order of their characters. -/
theorem lt_and_equals_text (s u : ElementType) (x y : String) :
  (lt ⟨s, .text x⟩ ⟨u, .text y⟩ ↔ x < y) ∧ (equals ⟨s, .text x⟩ ⟨u, .text y⟩ ↔ x = y)
  := by
  simp [lt, equals, compared, asNumber]

end Scalar

namespace Axis

/-- Keys put the values of axes in order: the values compare as their keys do, and on each axis the
keys ascend. -/
structure IsOrderedBy {κ : Type} [LinearOrder κ] (key : Scalar → κ) (axes : List Block) : Prop where
  follows : Follows Scalar.lt (· ∈ allValues axes) key
  equals_iff : ∀ v ∈ allValues axes, ∀ w ∈ allValues axes, v.equals w ↔ key v = key w
  ascending : ∀ b ∈ axes, b.scalars.Pairwise fun v w => key v < key w

/-- Axes in one order: they have numbers or times of one type, numbers that are stored apart, or texts,
and each axis ascends. -/
inductive InOneOrder (axes : List Block) : Prop
  | values {t : ElementType} (ht : t.IsMeasure) (type_eq : ∀ b ∈ axes, b.type = t)
      (isValueOf : ∀ b ∈ axes, ∀ e ∈ b.data, e.isValueOf t)
      (ascending : ∀ b ∈ axes, b.scalars.Pairwise fun v w => v.lt w)
  | numbers (isProperLine : ∀ b ∈ axes, b.IsProperLine)
      (apart : ∀ t, commonType axes = .ok t → StoresApart t axes)
  | texts (isText : ∀ v ∈ allValues axes, ∃ x, v.element = .text x)
      (ascending : ∀ b ∈ axes, b.scalars.Pairwise fun v w => v.lt w)

/-- Values that compare as their keys do are in the order of the keys if each axis ascends. -/
theorem isOrderedBy_of_lt_iff {κ : Type} [LinearOrder κ] {key : Scalar → κ} {axes : List Block}
    (h : ∀ v ∈ allValues axes, ∀ w ∈ allValues axes,
      (v.lt w ↔ key v < key w) ∧ (v.equals w ↔ key v = key w))
    (hascending : ∀ b ∈ axes, b.scalars.Pairwise fun v w => v.lt w) :
  IsOrderedBy key axes
  := by
  constructor
  · constructor
    · intro v w hv hw hlt
      exact ((h v hv w hw).1.mp hlt).le
    · intro v w hv hw hlt
      exact not_lt.mp (mt (h v hv w hw).1.mpr hlt)
  · exact fun v hv w hw => (h v hv w hw).2
  · intro b hb
    have hmem : ∀ v ∈ b.scalars, v ∈ allValues axes := fun v hv => List.mem_flatMap.mpr ⟨b, hb, hv⟩
    apply (hascending b hb).imp_of_mem
    intro v w hv hw
    exact (h v (hmem v hv) w (hmem w hw)).1.mp

section Merge

variable {axes : List Block} {merged : Block} {maps : List IndexMap}
  (h : merge axes = .ok (merged, maps))

include h

/-- On axes that are merged every value of a type of numbers or times is a number, and there. -/
theorem isThere_of_merge {t : ElementType} (ht : t.IsMeasure) (htypes : ∀ b ∈ axes, b.type = t)
    (hdata : ∀ b ∈ axes, ∀ e ∈ b.data, e.isValueOf t) {v : Scalar} (hv : v ∈ allValues axes) :
  ∃ e, v = ⟨t, e⟩ ∧ e.isValueOf t ∧ e ≠ .real .nan ∧ e ≠ .time none
  := by
  obtain ⟨b, hb, hv⟩ := List.mem_flatMap.mp hv
  obtain ⟨e, he, rfl, hvalue⟩ := mem_of_mem_scalars ht htypes hdata hb hv
  obtain ⟨-, hcheck, -⟩ := merge_eq_ok_iff.mp h
  obtain ⟨ps, hrun, -⟩ := exists_merges_of_merge h
  refine ⟨e, rfl, hvalue, ?_, ?_⟩
  · rintro rfl
    have hcheck := (checkAll_eq_ok_iff_check 0).mp hcheck b hb
    rw [← htypes b hb] at ht
    exact nan_not_mem_of_check ht (htypes b hb ▸ hdata b hb) hcheck he
  · rintro rfl
    have hcursor : (⟨0, values b⟩ : Cursor Scalar) ∈ cursors axes := List.mem_map_of_mem hb
    obtain ⟨w, hw⟩ := hrun.exists_equal hcursor (List.mem_filter.mpr ⟨hv, rfl⟩)
    simp [Scalar.equals_missingTime] at hw

/-- Axes in one order are in the order of some keys. -/
theorem InOneOrder.exists_key (horder : InOneOrder axes) :
  ∃ (κ : Type) (_ : LinearOrder κ) (key : Scalar → κ), IsOrderedBy key axes
  := by
  cases horder with
  | @values t ht htypes hdata hascending =>
    refine ⟨Double.Level, inferInstance, fun v => v.element.rank, ?_⟩
    apply isOrderedBy_of_lt_iff _ hascending
    intro v hv w hw
    obtain ⟨d, rfl, hd, hd'⟩ := isThere_of_merge h ht htypes hdata hv
    obtain ⟨e, rfl, he, he'⟩ := isThere_of_merge h ht htypes hdata hw
    exact Scalar.lt_and_equals_iff_rank ht hd he hd' he'
  | numbers hlines hapart =>
    obtain ⟨-, hvalues⟩ := type_merged hlines h
    obtain ⟨-, -, type, ps, data, hcommon, -, -, -, rfl, -⟩ := merge_eq_ok_iff.mp h
    have hapart := hapart type hcommon
    refine ⟨Double.Level, inferInstance, fun v => v.element.levelIn type, ?_, ?_, ?_⟩
    · exact follows_levelIn hvalues
    · exact fun v hv w hw => equals_iff_levelIn_eq hvalues hapart hv hw
    · exact pairwise_scalars_levelIn_lt hvalues hapart fun b hb => (hlines b hb).ascending
  | texts htexts hascending =>
    refine ⟨String, inferInstance, fun v => v.element.textIn v.type, ?_⟩
    apply isOrderedBy_of_lt_iff _ hascending
    rintro ⟨s, d⟩ hv ⟨u, e⟩ hw
    obtain ⟨x, rfl⟩ := htexts _ hv
    obtain ⟨y, rfl⟩ := htexts _ hw
    exact Scalar.lt_and_equals_text s u x y

/-- A child's row at a position is that of a value equal to the one that is stored there.  Of axes in
one order it is the place where the child has an equal value, and there is none if it has no such
value. -/
theorem exists_value_of_merge {c : Nat} {b : Block} {m : IndexMap} (hb : axes[c]? = some b)
    (hm : maps[c]? = some m) {p : Nat} (hp : p < merged.data.length) :
  ∃ (v : Scalar) (e : Element) (row? : Option Nat), merged.data[p]? = some e
    ∧ v.store merged.type = .ok e ∧ m.toList[p]? = some (row?.map Int.ofNat)
    ∧ (∀ row, row? = some row → ∃ s, (values b)[row]? = some s ∧ s.equals v)
    ∧ (InOneOrder axes → row? = (values b).findIdx? fun s => s.equals v)
  := by
  have hmerge := h
  obtain ⟨-, -, type, ps, data, -, -, hps, hdata, rfl, rfl⟩ := merge_eq_ok_iff.mp h
  obtain ⟨hrun, -⟩ := positions_eq_ok_iff.mp hps
  have hall := mapM_eq_ok_iff.mp hdata
  have hposition : p < ps.length := hall.length_eq ▸ hp
  have hstore := hall.get hposition hp
  have hcursor : (cursors axes)[c]? = some ⟨0, values b⟩ := by simp [cursors, hb]
  obtain ⟨hc, -⟩ := List.getElem?_eq_some_iff.mp hb
  obtain rfl : mapOf ps c = m := by simpa [hc] using hm
  use ps[p].value, data[p], ps[p].rows.getD c none, List.getElem?_eq_getElem hp, hstore
  refine ⟨by simp [mapOf, hposition], ?_, ?_⟩
  · intro row hrow
    obtain ⟨k, s, hk, hs, hequal⟩ :=
      hrun.exists_value_of_row (List.getElem_mem hposition) hcursor hrow
    obtain rfl : row = k := by simpa using hk
    exact ⟨s, hs, hequal⟩
  · intro horder
    obtain ⟨κ, _, key, hkey⟩ := horder.exists_key hmerge
    exact hkey.follows.row_eq_findIdx? hrun (fun c hc v hv => mem_allValues_of_mem_rest hc hv)
      (fun hv hw => hkey.equals_iff _ hv _ hw) (pairwise_rest hkey.ascending) hcursor
      (List.getElem_mem hposition)

end Merge

example : InOneOrder [Block.ofList (.duration .day) [.time (some 1), .time (some 3)],
    Block.ofList (.duration .day) [.time (some 2)]] :=
  .values (t := .duration .day) (.inr (.inr rfl)) (by decide) (by decide) (by decide)

end Axis

end GridUnion
