import GridUnion.Element.Convert
import GridUnion.Proofs.Element.Join
import Mathlib.Tactic.NormNum

/-!
# Numbers of a type

The elements of a type of numbers: truth values, the integers within its bounds, or reals.  A number
is stored in every type that admits its own.
-/

namespace GridUnion

namespace ElementType

/-- Types of machine integers. -/
def isInteger : ElementType → Bool
  | signed _ => true
  | unsigned _ => true
  | _ => false

/-- The signed words are the integers between the two halves of their range. -/
theorem wrap_signed_eq_self_iff (w : WordSize) (n : Int) :
  (signed w).wrap n = n ↔ -2 ^ (w.bits - 1) ≤ n ∧ n < 2 ^ (w.bits - 1)
  := by
  rw [wrap, Int.bmod]
  cases w with
  | w8 | w16 | w32 | w64 =>
    simp only [WordSize.bits]
    norm_num
    omega

/-- The unsigned words are the natural numbers below the end of their range. -/
theorem wrap_unsigned_eq_self_iff (w : WordSize) (n : Int) :
  (unsigned w).wrap n = n ↔ 0 ≤ n ∧ n < 2 ^ w.bits
  := by
  change n % _ = n ↔ _
  cases w with
  | w8 | w16 | w32 | w64 =>
    simp only [WordSize.bits]
    norm_num
    omega

end ElementType

namespace Element

/-- Whether an element is a number of a type: a truth value, an integer within the bounds of the
type, or a real number. -/
def isNumberOf : ElementType → Element → Bool
  | .bool, .bool _ => true
  | .signed w, .int n => (ElementType.signed w).wrap n = n
  | .unsigned w, .int n => (ElementType.unsigned w).wrap n = n
  | .single, .real _ | .double, .real _ => true
  | _, _ => false

variable {t : ElementType} {e : Element}

theorem isNumeric_of_isNumberOf (h : e.isNumberOf t) :
  t.isNumeric
  := by
  cases t with
  | bool | single | double => rfl
  | signed w | unsigned w => cases w <;> rfl
  | instant | duration | text | object => cases h

theorem exists_bool_of_isNumberOf (h : e.isNumberOf .bool) :
  ∃ x, e = .bool x
  := by
  cases e with
  | bool x => exact ⟨x, rfl⟩
  | _ => cases h

theorem exists_int_of_isNumberOf (htype : t.isInteger) (h : e.isNumberOf t) :
  ∃ n, e = .int n ∧ t.wrap n = n
  := by
  cases t with
  | signed | unsigned =>
    cases e with
    | int n => exact ⟨n, rfl, of_decide_eq_true h⟩
    | _ => cases h
  | _ => cases htype

theorem exists_real_of_isNumberOf (htype : t.isReal) (h : e.isNumberOf t) :
  ∃ x, e = .real x
  := by
  cases t with
  | single | double =>
    cases e with
    | real x => exact ⟨x, rfl⟩
    | _ => cases h
  | _ => cases htype

/-- What stands for a number in comparisons is an integer or a real number. -/
theorem asNumber_of_isNumberOf (h : e.isNumberOf t) :
  (∃ n, Scalar.asNumber e = .int n) ∨ ∃ x, e = .real x
  := by
  cases e with
  | bool b => exact .inl ⟨_, rfl⟩
  | int n => exact .inl ⟨_, rfl⟩
  | real x => exact .inr ⟨x, rfl⟩
  | _ => cases t <;> cases h

theorem ofCell_of_isNumberOf (h : e.isNumberOf t) :
  Scalar.ofCell t e = ⟨t, e⟩
  := by
  cases e with
  | typed => cases t <;> cases h
  | _ => rfl

end Element

namespace Scalar

open Element (isNumberOf)

@[simp]
theorem asNumber_real (x : Double) :
  asNumber (.real x) = .real x
  := rfl

theorem isPlain_of_isNumberOf {s : ElementType} {e : Element} (h : isNumberOf s e) :
  isPlain ⟨s, e⟩ = false
  := by
  cases s with
  | object => cases h
  | _ => rfl

theorem storeInt_int64 (n : Int) :
  Element.storeInt .int64 n
    = if -2 ^ 63 ≤ n ∧ n < 2 ^ 63 then .ok (.int n) else .error .tooLargeForWord
  := rfl

theorem storeInt_signed {w : WordSize} (hw : w ≠ .w64) (n : Int) :
  Element.storeInt (.signed w) n
    = if n < -2 ^ 63 ∨ 2 ^ 63 ≤ n then .error .tooLargeForWord
      else if (ElementType.signed w).wrap n = n then .ok (.int n)
      else .error (.outOfBounds n (.signed w))
  := by
  cases w with
  | w64 => exact absurd rfl hw
  | w8 | w16 | w32 => rfl

theorem storeInt_signed_eq_ok {w : WordSize} {n : Int} (h : (ElementType.signed w).wrap n = n) :
  Element.storeInt (.signed w) n = .ok (.int n)
  := by
  have hbounds := (ElementType.wrap_signed_eq_self_iff w n).mp h
  cases w with
  | w64 =>
    rw [storeInt_int64]
    exact if_pos hbounds
  | w8 | w16 | w32 =>
    simp only [WordSize.bits] at hbounds
    have hword : ¬ (n < -2 ^ 63 ∨ 2 ^ 63 ≤ n) := by omega
    rw [storeInt_signed (by decide), if_neg hword, if_pos h]

/-- An integer of a type goes into the larger signed type that admits it. -/
theorem wrap_signed_of_admits {w : WordSize} {s : ElementType} {n : Int}
    (hadmits : (ElementType.signed w).admits s) (h : isNumberOf s (.int n)) :
  (ElementType.signed w).wrap n = n
  := by
  apply (ElementType.wrap_signed_eq_self_iff w n).mpr
  cases s with
  | signed v =>
    have hbounds := (ElementType.wrap_signed_eq_self_iff v n).mp (of_decide_eq_true h)
    have hbits : v.bits ≤ w.bits := of_decide_eq_true hadmits
    have hpow : (2 : Int) ^ (v.bits - 1) ≤ 2 ^ (w.bits - 1) :=
      pow_le_pow_right₀ (by decide) (by omega)
    omega
  | unsigned v =>
    have hbounds := (ElementType.wrap_unsigned_eq_self_iff v n).mp (of_decide_eq_true h)
    have hbits : v.bits < w.bits := of_decide_eq_true hadmits
    have hpow : (2 : Int) ^ v.bits ≤ 2 ^ (w.bits - 1) :=
      pow_le_pow_right₀ (by decide) (by omega)
    omega
  | _ => cases h

/-- A number is converted into every type of numbers. -/
theorem exists_castTyped {t s : ElementType} {e : Element} (ht : t.isNumeric)
    (h : e.isNumberOf s) :
  ∃ stored, castTyped t ⟨s, e⟩ = .ok stored
  := by
  unfold castTyped
  split
  · exact ⟨e, rfl⟩
  · cases e with
    | bool b =>
      cases t with
      | object | text | instant | duration => cases ht
      | _ => exact ⟨_, rfl⟩
    | int | real => exact ⟨_, rfl⟩
    | _ => cases s <;> cases h

theorem exists_storeTyped_signed {w : WordSize} {s : ElementType} {e : Element}
    (hadmits : (ElementType.signed w).admits s) (h : e.isNumberOf s) :
  ∃ stored, storeTyped (.signed w) ⟨s, e⟩ = .ok stored
  := by
  unfold storeTyped
  split
  · exact ⟨e, rfl⟩
  · cases e with
    | bool b => cases b <;> cases w <;> exact ⟨_, storeInt_signed_eq_ok rfl⟩
    | int n => exact ⟨_, storeInt_signed_eq_ok (wrap_signed_of_admits hadmits h)⟩
    | real x =>
      cases s with
      | single | double => cases hadmits
      | _ => cases h
    | _ => cases s <;> cases h

/-- A number is stored in every type that admits its own. -/
theorem exists_store_of_admits {t s : ElementType} {e : Element} (ht : t.isNumeric)
    (hadmits : t.admits s) (h : e.isNumberOf s) :
  ∃ stored, store t ⟨s, e⟩ = .ok stored
  := by
  rw [store, isPlain_of_isNumberOf h, if_neg (by decide)]
  cases t with
  | signed w => exact exists_storeTyped_signed hadmits h
  | bool | unsigned | single | double =>
    unfold storeTyped
    split
    · exact ⟨e, rfl⟩
    · cases e with
      | bool | int | real => exact exists_castTyped ht h
      | _ => cases s <;> cases h
  | object | text | instant | duration => cases ht

end Scalar

end GridUnion
