import GridUnion.Proofs.Axis.Numbers
import Mathlib.Data.List.Chain

/-!
# Axes that ascend

The check of an axis judges neighbours by their difference in the arithmetic of their type.  Most
values that ascend have a difference above zero, but it wraps for signed integers that are far
apart, and unsigned integers and truth values have no difference below zero at all.
-/

namespace GridUnion

open Element (isNumberOf)

namespace Axis

/-- A number and the next one pass the check of an axis of their type. -/
inductive Ascent : ElementType → Element → Element → Prop
  /-- Truth values ascend and descend. -/
  | bool {x y : Bool} (h : x ≠ y) : Ascent .bool (.bool x) (.bool y)
  /-- Integers without a sign ascend and descend. -/
  | unsigned {w : WordSize} {m n : Int} (h : m ≠ n) : Ascent (.unsigned w) (.int m) (.int n)
  /-- Integers with a sign ascend as long as their difference is a word. -/
  | near {w : WordSize} {m n : Int} (h : m < n) (hnear : n - m < 2 ^ (w.bits - 1)) :
      Ascent (.signed w) (.int m) (.int n)
  /-- Integers with a sign descend by more than any word. -/
  | far {w : WordSize} {m n : Int} (h : 2 ^ (w.bits - 1) < m - n) :
      Ascent (.signed w) (.int m) (.int n)
  /-- Real numbers ascend. -/
  | real {t : ElementType} {x y : Double} (h : x.lt y) : Ascent t (.real x) (.real y)
  /-- Infinities follow themselves: their difference is not a number. -/
  | infinite {t : ElementType} {s : Bool} :
      Ascent t (.real (.infinite s)) (.real (.infinite s))

/-! ### Differences of numbers -/

section Differences

variable {w : WordSize} {m n : Int}

theorem wrap_unsigned_sub_pos_iff (hm : (ElementType.unsigned w).wrap m = m)
    (hn : (ElementType.unsigned w).wrap n = n) :
  0 < (ElementType.unsigned w).wrap (n - m) ↔ m ≠ n
  := by
  rw [ElementType.wrap_unsigned_eq_self_iff] at hm hn
  change 0 < (n - m) % _ ↔ _
  cases w with
  | w8 | w16 | w32 | w64 =>
    simp only [WordSize.bits] at hm hn ⊢
    norm_num at hm hn ⊢
    omega

theorem wrap_signed_sub_pos_iff (hm : (ElementType.signed w).wrap m = m)
    (hn : (ElementType.signed w).wrap n = n) :
  0 < (ElementType.signed w).wrap (n - m)
    ↔ (m < n ∧ n - m < 2 ^ (w.bits - 1)) ∨ 2 ^ (w.bits - 1) < m - n
  := by
  rw [ElementType.wrap_signed_eq_self_iff] at hm hn
  rw [ElementType.wrap, Int.bmod]
  cases w with
  | w8 | w16 | w32 | w64 =>
    simp only [WordSize.bits] at hm hn ⊢
    norm_num at hm hn ⊢
    omega

end Differences

/-- The difference of two real numbers is above zero or no number exactly if they ascend or are the
same infinity. -/
theorem ascent_real_iff {t : ElementType} {x y : Double} (hx : x ≠ .nan) (hy : y ≠ .nan) :
  Ascent t (.real x) (.real y) ↔ realsAscend x y
  := by
  have hnan : ∀ z : Double, z ≠ .nan → z.isNaN = false := by
    intro z hz
    cases z with
    | nan => exact absurd rfl hz
    | infinite | finite => rfl
  simp only [realsAscend, hnan x hx, hnan y hy, Bool.or_false, Bool.or_eq_true, Bool.and_eq_true]
  constructor
  · intro h
    cases h with
    | real h => exact .inl h
    | infinite => exact .inr ⟨rfl, by simp [Double.equals]⟩
  · rintro (h | ⟨hfinite, hequals⟩)
    · exact .real h
    · cases x with
      | nan => exact absurd rfl hx
      | finite => cases hfinite
      | infinite s =>
        cases y with
        | infinite t =>
          obtain rfl : s = t := by simpa [Double.equals] using hequals
          exact .infinite
        | nan | finite => cases hequals

/-- Two numbers pass the check of an axis exactly if their difference is above zero or no number. -/
theorem ascent_iff {t : ElementType} {d e : Element} (hd : isNumberOf t d) (he : isNumberOf t e)
    (hdnan : d ≠ .real .nan) (henan : e ≠ .real .nan) :
  Ascent t d e ↔ ascends t d e
  := by
  cases t with
  | bool =>
    obtain ⟨x, rfl⟩ := Element.exists_bool_of_isNumberOf hd
    obtain ⟨y, rfl⟩ := Element.exists_bool_of_isNumberOf he
    constructor
    · intro h
      cases h with
      | bool h => simpa [ascends] using h
    · intro h
      exact .bool (by simpa [ascends] using h)
  | unsigned w =>
    obtain ⟨m, rfl, hm⟩ := Element.exists_int_of_isNumberOf rfl hd
    obtain ⟨n, rfl, hn⟩ := Element.exists_int_of_isNumberOf rfl he
    have hdifference := wrap_unsigned_sub_pos_iff hm hn
    constructor
    · intro h
      cases h with
      | unsigned h => simpa [ascends] using hdifference.mpr h
    · intro h
      exact .unsigned (hdifference.mp (by simpa [ascends] using h))
  | signed w =>
    obtain ⟨m, rfl, hm⟩ := Element.exists_int_of_isNumberOf rfl hd
    obtain ⟨n, rfl, hn⟩ := Element.exists_int_of_isNumberOf rfl he
    have hdifference := wrap_signed_sub_pos_iff hm hn
    constructor
    · intro h
      have hpos : 0 < (ElementType.signed w).wrap (n - m) := by
        apply hdifference.mpr
        cases h with
        | near h hnear => exact .inl ⟨h, hnear⟩
        | far h => exact .inr h
      simpa [ascends] using hpos
    · intro h
      rcases hdifference.mp (by simpa [ascends] using h) with ⟨h, hnear⟩ | h
      · exact .near h hnear
      · exact .far h
  | single | double =>
    obtain ⟨x, rfl⟩ := Element.exists_real_of_isNumberOf rfl hd
    obtain ⟨y, rfl⟩ := Element.exists_real_of_isNumberOf rfl he
    exact ascent_real_iff (by simpa using hdnan) (by simpa using henan)
  | instant | duration | text | object => cases hd

/-! ### Axes that are refused -/

variable {axes : List Block}

theorem isChain_ascent_iff {b : Block} (hb : b.IsNumberLine) (hnan : .real .nan ∉ b.data) :
  b.data.IsChain (Ascent b.type) ↔ b.data.IsChain fun d e => ascends b.type d e
  := by
  apply List.IsChain.iff_of_mem_imp
  intro d e hd he
  apply ascent_iff (hb.isNumberOf d hd) (hb.isNumberOf e he)
  · rintro rfl
    exact hnan hd
  · rintro rfl
    exact hnan he

/-- A merge of lines of numbers goes through or refuses the configuration; it refuses exactly those
lines that hold a value that is not a number or have neighbours without an ascent. -/
theorem merge_refused_iff (hne : axes ≠ []) (hnum : ∀ b ∈ axes, b.IsNumberLine) :
  ((∃ f, merge axes = .error f ∧ f.kind = .configuration)
      ↔ ∃ b ∈ axes, .real .nan ∈ b.data ∨ ¬ b.data.IsChain (Ascent b.type))
    ∧ ((∃ union, merge axes = .ok union)
      ↔ ∀ b ∈ axes, .real .nan ∉ b.data ∧ b.data.IsChain (Ascent b.type))
  := by
  have hcheck : checkAll 0 axes = .ok ()
      ↔ ∀ b ∈ axes, .real .nan ∉ b.data ∧ b.data.IsChain (Ascent b.type) := by
    rw [checkAll_eq_ok_iff hnum 0]
    apply forall₂_congr
    intro b hb
    apply and_congr_right
    intro hnan
    exact (isChain_ascent_iff (hnum b hb) hnan).symm
  have hmerge : (∃ union, merge axes = .ok union) ↔ checkAll 0 axes = .ok () := by
    constructor
    · rintro ⟨⟨merged, maps⟩, h⟩
      exact (merge_eq_ok_iff.mp h).2.1
    · exact exists_merge_of_checkAll hnum hne
  constructor
  · have hrefused : (∃ f, merge axes = .error f ∧ f.kind = .configuration)
        ↔ ¬ ∃ union, merge axes = .ok union := by
      cases h : merge axes with
      | ok union => simp
      | error f => simpa using kind_of_merge hnum h
    rw [hrefused, hmerge, hcheck]
    push Not
    apply exists_congr
    intro b
    apply and_congr_right
    intro _
    rw [or_iff_not_imp_left]
  · rw [hmerge, hcheck]

/-- A line of bytes that descends, and one of truth values. -/
theorem merge_refused_iff_bytes :
  ((∃ f, merge [Block.ofInts (.unsigned .w8) [3, 1], Block.ofList .bool [.bool false]] = .error f
        ∧ f.kind = .configuration)
      ↔ ∃ b ∈ [Block.ofInts (.unsigned .w8) [3, 1], Block.ofList .bool [.bool false]],
          .real .nan ∈ b.data ∨ ¬ b.data.IsChain (Ascent b.type))
    ∧ ((∃ union, merge [Block.ofInts (.unsigned .w8) [3, 1], Block.ofList .bool [.bool false]]
          = .ok union)
      ↔ ∀ b ∈ [Block.ofInts (.unsigned .w8) [3, 1], Block.ofList .bool [.bool false]],
          .real .nan ∉ b.data ∧ b.data.IsChain (Ascent b.type))
  := by
  apply merge_refused_iff
  · decide
  · decide

/-- Bytes that descend are merged, and bytes with a sign that ascend too far are refused. -/
theorem merge_descending_bytes :
  (∃ union, merge [Block.ofInts (.unsigned .w8) [3, 1]] = .ok union)
    ∧ ¬ [(3 : Int), 1].IsChain (· < ·)
    ∧ (∃ f, merge [Block.ofInts (.signed .w8) [-100, 100]] = .error f ∧ f.kind = .configuration)
    ∧ [(-100 : Int), 100].IsChain (· < ·)
  := by
  constructor
  · exact ⟨_, rfl⟩
  · refine ⟨by decide, ⟨_, rfl, rfl⟩, by decide⟩

end Axis

end GridUnion
