import GridUnion.Double
import Mathlib.Algebra.Order.Ring.Int
import Mathlib.Data.Int.ConditionallyCompleteOrder
import Mathlib.Data.Nat.Log
import Mathlib.Order.ConditionallyCompleteLattice.Basic

/-!
# The order of doubles

Doubles other than not-a-number are ordered by their levels, and the two zeros share one.  An integer
that is rounded to a double keeps its place among the other integers, though it may come to the level
of its neighbours.
-/

namespace GridUnion

/-! ### Rounded quotients -/

section Quotients

variable {num num' den k : Nat}

/-- A quotient is rounded to one of its two neighbours. -/
theorem div_le_roundHalfEven (num den : Nat) :
  num / den ≤ roundHalfEven num den ∧ roundHalfEven num den ≤ num / den + 1
  := by
  unfold roundHalfEven
  dsimp only
  split_ifs <;> omega

theorem roundHalfEven_le (hden : 0 < den) (h : num ≤ k * den) :
  roundHalfEven num den ≤ k
  := by
  rcases (Nat.div_le_of_le_mul (Nat.mul_comm k den ▸ h)).lt_or_eq with hlt | heq
  · exact (div_le_roundHalfEven num den).2.trans hlt
  · -- The quotient is whole.
    have hmod : num % den = 0 := by
      have hdecomposed := Nat.div_add_mod num den
      rw [heq, Nat.mul_comm] at hdecomposed
      omega
    unfold roundHalfEven
    dsimp only
    rw [if_pos (by omega), heq]

theorem le_roundHalfEven (hden : 0 < den) (h : k * den ≤ num) :
  k ≤ roundHalfEven num den
  := ((Nat.le_div_iff_mul_le hden).mpr h).trans (div_le_roundHalfEven num den).1

theorem roundHalfEven_mono (h : num ≤ num') (den : Nat) :
  roundHalfEven num den ≤ roundHalfEven num' den
  := by
  rcases (Nat.div_le_div_right h : num / den ≤ num' / den).lt_or_eq with hlt | heq
  · have hupper := (div_le_roundHalfEven num den).2
    have hlower := (div_le_roundHalfEven num' den).1
    omega
  · have hmod : num % den ≤ num' % den := by
      have hdecomposed := Nat.div_add_mod num den
      have hdecomposed' := Nat.div_add_mod num' den
      rw [heq] at hdecomposed
      omega
    unfold roundHalfEven
    dsimp only
    rw [heq]
    split_ifs <;> omega

end Quotients

/-! ### Rounded numbers -/

namespace Precision

theorem lt_two_pow_bitLength (n : Nat) :
  n < 2 ^ bitLength n
  := by
  unfold bitLength
  split
  · next h => simp [h]
  · exact Nat.lt_log2_self

theorem two_pow_le_of_lt_bitLength {n l : Nat} (h : l < bitLength n) :
  2 ^ l ≤ n
  := by
  unfold bitLength at h
  split at h
  · cases h
  · next hn => exact (Nat.pow_le_pow_right (by decide) (Nat.le_of_lt_succ h)).trans (Nat.log2_self_le hn)

theorem bitLength_mono {m n : Nat} (h : m ≤ n) :
  bitLength m ≤ bitLength n
  := by
  by_contra hlt
  exact absurd (two_pow_le_of_lt_bitLength (Nat.lt_of_not_le hlt))
    (Nat.not_le_of_lt (h.trans_lt (lt_two_pow_bitLength n)))

theorem spacing_double (n : Nat) :
  double.spacing n = bitLength n - 53
  := Nat.zero_max _

theorem roundUnits_one (p : Precision) (n : Nat) :
  p.roundUnits n 1 = roundHalfEven n (2 ^ p.spacing n) * 2 ^ p.spacing n
  := by
  simp [roundUnits]

/-- What is rounded stays within the powers of two around it. -/
theorem roundUnits_double_le (n : Nat) :
  double.roundUnits n 1 ≤ 2 ^ bitLength n
  := by
  have hspacing : double.spacing n ≤ bitLength n := spacing_double n ▸ Nat.sub_le _ _
  rw [roundUnits_one, ← Nat.pow_sub_mul_pow 2 hspacing]
  apply Nat.mul_le_mul_right
  apply roundHalfEven_le (Nat.two_pow_pos _)
  rw [Nat.pow_sub_mul_pow 2 hspacing]
  exact (lt_two_pow_bitLength n).le

theorem le_roundUnits_double {n l : Nat} (hspacing : double.spacing n ≤ l) (hl : l < bitLength n) :
  2 ^ l ≤ double.roundUnits n 1
  := by
  rw [roundUnits_one, ← Nat.pow_sub_mul_pow 2 hspacing]
  apply Nat.mul_le_mul_right
  apply le_roundHalfEven (Nat.two_pow_pos _)
  rw [Nat.pow_sub_mul_pow 2 hspacing]
  exact two_pow_le_of_lt_bitLength hl

theorem roundUnits_double_mono {m n : Nat} (h : m ≤ n) :
  double.roundUnits m 1 ≤ double.roundUnits n 1
  := by
  have hlength := bitLength_mono h
  by_cases hspacing : double.spacing m = double.spacing n
  · rw [roundUnits_one, roundUnits_one, hspacing]
    exact Nat.mul_le_mul_right _ (roundHalfEven_mono h _)
  · -- On a coarser grid there is a power of two between the two numbers.
    rw [spacing_double, spacing_double] at hspacing
    calc
      double.roundUnits m 1 ≤ 2 ^ bitLength m := roundUnits_double_le m
      _ ≤ 2 ^ (bitLength n - 1) := Nat.pow_le_pow_right (by decide) (by omega)
      _ ≤ double.roundUnits n 1 := le_roundUnits_double (by rw [spacing_double]; omega) (by omega)

end Precision

namespace Double

/-! ### Levels -/

/-- Places in the order of numbers: whole multiples of a unit between two infinities. -/
abbrev Level : Type := WithBot (WithTop Int)

/-- The place of a double in the order; not-a-number has none of its own. -/
def level : Double → Level
  | nan => ⊥
  | infinite negative => if negative then ⊥ else ⊤
  | finite negative units => ((signed negative units : WithTop Int) : Level)

theorem coe_lt_top (n : Int) :
  ((n : WithTop Int) : Level) < ⊤
  := WithBot.coe_lt_coe.mpr (WithTop.coe_lt_top n)

theorem coe_le_coe {m n : Int} :
  ((m : WithTop Int) : Level) ≤ ((n : WithTop Int) : Level) ↔ m ≤ n
  := WithBot.coe_le_coe.trans WithTop.coe_le_coe

variable {x y : Double}

theorem lt_iff_level_lt (hx : x ≠ nan) (hy : y ≠ nan) :
  x.lt y ↔ x.level < y.level
  := by
  cases x with
  | nan => exact absurd rfl hx
  | infinite s =>
    cases y with
    | nan => exact absurd rfl hy
    | infinite t => cases s <;> cases t <;> simp [lt, level]
    | finite t v => cases s <;> simp [lt, level]
  | finite s u =>
    cases y with
    | nan => exact absurd rfl hy
    | infinite t => cases t <;> simp [lt, level, coe_lt_top]
    | finite t v => simp [lt, level]

theorem equals_iff_level_eq (hx : x ≠ nan) (hy : y ≠ nan) :
  x.equals y ↔ x.level = y.level
  := by
  cases x with
  | nan => exact absurd rfl hx
  | infinite s =>
    cases y with
    | nan => exact absurd rfl hy
    | infinite t => cases s <;> cases t <;> simp [equals, level]
    | finite t v => cases s <;> simp [equals, level, (coe_lt_top _).ne']
  | finite s u =>
    cases y with
    | nan => exact absurd rfl hy
    | infinite t => cases t <;> simp [equals, level, (coe_lt_top _).ne]
    | finite t v => simp [equals, level]

/-! ### Integers as doubles -/

theorem exact_ne_nan (n : Int) :
  exact n ≠ nan
  := nofun

theorem level_exact (n : Int) :
  (exact n).level = (((n * one : Int) : WithTop Int) : Level)
  := by
  have hsigned : ∀ unit : Nat, signed (n < 0) (n.natAbs * unit) = n * unit := by
    intro unit
    rcases lt_or_ge n 0 with hn | hn
    · simp [signed, hn, abs_of_neg hn]
    · simp [signed, hn, abs_of_nonneg hn]
  rw [exact, level, hsigned]

theorem level_exact_le_iff {m n : Int} :
  (exact m).level ≤ (exact n).level ↔ m ≤ n
  := by
  have hpos : (0 : Int) < one := by
    unfold one
    apply Int.natCast_pos.mpr
    apply Nat.pow_pos
    decide
  rw [level_exact, level_exact, coe_le_coe, Int.mul_le_mul_right hpos]

/-- Integers without rounding are equal only to themselves. -/
theorem exact_equals_iff {m n : Int} :
  (exact m).equals (exact n) ↔ m = n
  := by
  rw [equals_iff_level_eq (exact_ne_nan m) (exact_ne_nan n), le_antisymm_iff, level_exact_le_iff,
    level_exact_le_iff, ← le_antisymm_iff]

section Round

variable {p : Precision} {num den num' den' : Nat}

theorem round_ne_nan (p : Precision) (negative : Bool) (num den : Nat) :
  round p negative num den ≠ nan
  := by
  unfold round
  dsimp only
  split <;> nofun

/-- Positive numbers are in the order of their units. -/
theorem level_round_le (h : p.roundUnits num den ≤ p.roundUnits num' den') :
  (round p false num den).level ≤ (round p false num' den').level
  := by
  unfold round
  dsimp only
  split_ifs with hleft hright hright
  · exact le_refl _
  · exact absurd (hleft.trans h) hright
  · exact le_top
  · exact coe_le_coe.mpr (Int.ofNat_le.mpr h)

/-- Negative numbers are in the opposite order. -/
theorem level_round_neg_le (h : p.roundUnits num den ≤ p.roundUnits num' den') :
  (round p true num' den').level ≤ (round p true num den).level
  := by
  unfold round
  dsimp only
  split_ifs with hleft hright hright
  · exact le_refl _
  · exact bot_le
  · exact absurd (hright.trans h) hleft
  · exact coe_le_coe.mpr (Int.neg_le_neg (Int.ofNat_le.mpr h))

theorem level_round_neg_le_zero :
  (round p true num den).level ≤ level zero
  := by
  unfold round
  dsimp only
  split_ifs with h
  · exact bot_le
  · exact coe_le_coe.mpr (Int.neg_nonpos_of_nonneg (Int.natCast_nonneg _))

theorem zero_le_level_round :
  level zero ≤ (round p false num den).level
  := by
  unfold round
  dsimp only
  split_ifs with h
  · exact le_top
  · exact coe_le_coe.mpr (Int.natCast_nonneg _)

end Round

theorem ofInt_ne_nan (n : Int) :
  ofInt n ≠ nan
  := by
  rw [ofInt, ofRatio]
  exact round_ne_nan _ _ _ _

theorem ofInt_of_nonneg {n : Int} (h : 0 ≤ n) :
  ofInt n = round .double false (n.natAbs * one) 1
  := by
  rw [ofInt, ofRatio, decide_eq_false (Int.not_lt.mpr h)]

theorem ofInt_of_neg {n : Int} (h : n < 0) :
  ofInt n = round .double true (n.natAbs * one) 1
  := by
  rw [ofInt, ofRatio, decide_eq_true h]

/-- Integers keep their order as doubles. -/
theorem level_ofInt_mono {m n : Int} (h : m ≤ n) :
  (ofInt m).level ≤ (ofInt n).level
  := by
  rcases lt_or_ge m 0 with hm | hm
  · rw [ofInt_of_neg hm]
    rcases lt_or_ge n 0 with hn | hn
    · have habs : n.natAbs ≤ m.natAbs := by omega
      rw [ofInt_of_neg hn]
      exact level_round_neg_le (Precision.roundUnits_double_mono (Nat.mul_le_mul_right one habs))
    · rw [ofInt_of_nonneg hn]
      exact level_round_neg_le_zero.trans zero_le_level_round
  · have habs : m.natAbs ≤ n.natAbs := by omega
    rw [ofInt_of_nonneg hm, ofInt_of_nonneg (hm.trans h)]
    exact level_round_le (Precision.roundUnits_double_mono (Nat.mul_le_mul_right one habs))

end Double

end GridUnion
