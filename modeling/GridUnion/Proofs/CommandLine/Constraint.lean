import GridUnion.CommandLine.Constraint
import GridUnion.Proofs.Text.Numeral
import Mathlib.Data.List.Forall2

/-!
# Constraints as texts

A constraint is one, two or three numerals with colons between them.  Every other text is refused,
and the numbers of a request are read back from the texts that they are printed as.
-/

namespace GridUnion.Request

open Text (IsNumeral readInt digitLimit)

/-- A text for a request: a position, two ends, or two ends with a stride between them. -/
inductive IsWritten : String → Request → Prop
  | position {x : String} {a : Int} : IsNumeral x.toList a → IsWritten x ⟨a, 1, a⟩
  | range {x y : String} {a b : Int} :
      IsNumeral x.toList a → IsNumeral y.toList b → IsWritten (x ++ ":" ++ y) ⟨a, 1, b⟩
  | strided {x y z : String} {a b c : Int} :
      IsNumeral x.toList a → IsNumeral y.toList b → IsNumeral z.toList c →
      IsWritten (x ++ ":" ++ y ++ ":" ++ z) ⟨a, b, c⟩

/-! ### Parts -/

theorem parts_of_not_mem {s : String} (h : ':' ∉ s.toList) :
  parts s = [s]
  := by
  simp [parts, List.splitOn_eq_singleton h]

theorem parts_append {s s' : String} (h : ':' ∉ s.toList) :
  parts (s ++ ":" ++ s') = s :: parts s'
  := by
  have hlist : (s ++ ":" ++ s').toList = s.toList ++ ':' :: s'.toList := by simp
  rw [parts, hlist, List.splitOn_append_cons_self_of_not_mem h]
  simp [parts]

/-- The parts of a text with colons between them are the text. -/
theorem intercalate_parts (s : String) :
  ":".intercalate (parts s) = s
  := by
  rw [← String.toList_inj, String.toList_intercalate]
  simp [parts, Function.comp_def, List.intercalate_splitOn]

/-! ### Numbers -/

theorem toOption_readInt_eq_some_iff {s : String} {n : Int} :
  (readInt s).toOption = some n ↔ IsNumeral s.toList n
  := by
  rw [← Text.readInt_eq_ok_iff]
  cases readInt s <;> simp [Except.toOption]

/-- The numbers of parts are read where every part is a numeral. -/
theorem numbers?_eq_some_iff {ps : List String} {ns : List Int} :
  numbers? ps = some ns ↔ List.Forall₂ (fun p n => IsNumeral p.toList n) ps ns
  := by
  induction ps generalizing ns with
  | nil => simp [numbers?, eq_comm]
  | cons p ps ih =>
    rw [numbers?] at ih
    rw [numbers?, List.mapM_cons, List.forall₂_cons_left_iff]
    constructor
    · intro h
      obtain ⟨n, hn, h⟩ := Option.bind_eq_some_iff.1 h
      obtain ⟨ns', hns', h⟩ := Option.bind_eq_some_iff.1 h
      exact ⟨n, ns', toOption_readInt_eq_some_iff.1 hn, ih.1 hns', (Option.some.inj h).symm⟩
    · rintro ⟨n, ns', hn, hns', rfl⟩
      simp [toOption_readInt_eq_some_iff.2 hn, ih.2 hns']

/-! ### Reading and printing -/

theorem ofText_eq_ok_iff_numbers {s : String} {r : Request} :
  ofText s = .ok r ↔ ∃ ns, numbers? (parts s) = some ns ∧ ofNumbers? ns = some r
  := by
  unfold ofText
  split
  · rename_i r' h
    obtain ⟨ns, hns, hr'⟩ := Option.bind_eq_some_iff.1 h
    simp [hns, hr']
  · rename_i h
    simp only [reduceCtorEq, false_iff, not_exists, not_and]
    intro ns hns hr
    simp [hns, hr] at h

theorem ofText_of_isWritten {s : String} {r : Request} (h : IsWritten s r) :
  ofText s = .ok r
  := by
  rw [ofText_eq_ok_iff_numbers]
  cases h with
  | position hx =>
    refine ⟨[_], ?_, rfl⟩
    rw [parts_of_not_mem hx.colon_not_mem, numbers?_eq_some_iff]
    simpa using hx
  | range hx hy =>
    refine ⟨[_, _], ?_, rfl⟩
    rw [parts_append hx.colon_not_mem, parts_of_not_mem hy.colon_not_mem, numbers?_eq_some_iff]
    simpa using ⟨hx, hy⟩
  | @strided x y z a b c hx hy hz =>
    refine ⟨[a, b, c], ?_, rfl⟩
    have hassoc : x ++ ":" ++ y ++ ":" ++ z = x ++ ":" ++ (y ++ ":" ++ z) := by
      simp [String.append_assoc]
    rw [hassoc, parts_append hx.colon_not_mem, parts_append hy.colon_not_mem,
      parts_of_not_mem hz.colon_not_mem, numbers?_eq_some_iff]
    simpa using ⟨hx, hy, hz⟩

theorem isWritten_of_ofText {s : String} {r : Request} (h : ofText s = .ok r) :
  IsWritten s r
  := by
  obtain ⟨ns, hns, hr⟩ := ofText_eq_ok_iff_numbers.1 h
  have hparts := numbers?_eq_some_iff.1 hns
  rw [← intercalate_parts s]
  generalize parts s = ps at hparts ⊢
  unfold ofNumbers? at hr
  split at hr
  · obtain rfl := Option.some.inj hr
    obtain _ | ⟨hx, ⟨⟩⟩ := hparts
    exact .position hx
  · obtain rfl := Option.some.inj hr
    obtain _ | ⟨hx, _ | ⟨hy, ⟨⟩⟩⟩ := hparts
    exact .range hx hy
  · obtain rfl := Option.some.inj hr
    obtain _ | ⟨hx, _ | ⟨hy, _ | ⟨hz, ⟨⟩⟩⟩⟩ := hparts
    exact .strided hx hy hz
  · cases hr

/-- A text is read as the request that it is written for, and refused where there is none. -/
theorem ofText_eq_ok_iff (s : String) (r : Request) :
  ofText s = .ok r ↔ IsWritten s r
  := by
  exact ⟨isWritten_of_ofText, ofText_of_isWritten⟩

theorem ofText_eq_error_iff (s : String) (f : Failure) :
  ofText s = .error f ↔ f = .badConstraint s ∧ ∀ r, ¬ IsWritten s r
  := by
  simp only [← ofText_eq_ok_iff]
  unfold ofText
  split
  · simp
  · simp [eq_comm]

/-- The constraints on the command line are the texts that are written for a request.  Any other
text is refused as no constraint, and a request is read back from the numbers that it is printed
with. -/
theorem ofText_isWritten :
  (∀ s r, ofText s = .ok r ↔ IsWritten s r) ∧
    (∀ s f, ofText s = .error f ↔
      (f = .badConstraint s ∧ f.kind = .argument) ∧ ∀ r, ¬ IsWritten s r) ∧
    ∀ a b c : Int, a.natAbs < 10 ^ digitLimit → b.natAbs < 10 ^ digitLimit →
      c.natAbs < 10 ^ digitLimit →
      ofText (toString a ++ ":" ++ toString b ++ ":" ++ toString c) = .ok ⟨a, b, c⟩ ∧
        ofText (toString a ++ ":" ++ toString b) = .ok ⟨a, 1, b⟩ ∧
        ofText (toString a) = .ok ⟨a, 1, a⟩
  := by
  refine ⟨ofText_eq_ok_iff, fun s f => ?_, fun a b c ha hb hc => ?_⟩
  · rw [ofText_eq_error_iff]
    constructor
    · rintro ⟨rfl, h⟩
      exact ⟨⟨rfl, rfl⟩, h⟩
    · rintro ⟨⟨rfl, -⟩, h⟩
      exact ⟨rfl, h⟩
  · have hx := Text.isNumeral_toString ha
    have hy := Text.isNumeral_toString hb
    have hz := Text.isNumeral_toString hc
    exact ⟨ofText_of_isWritten (.strided hx hy hz), ofText_of_isWritten (.range hx hy),
      ofText_of_isWritten (.position hx)⟩

/-- A request from the third last position down to the first is read back. -/
theorem ofText_isWritten_backwards :
  ofText "-3:-2:0" = .ok ⟨-3, -2, 0⟩
  := by
  have htext : "-3:-2:0" = toString (-3 : Int) ++ ":" ++ toString (-2 : Int) ++ ":" ++
      toString (0 : Int) := by decide
  have hroom : (10 : Nat) ≤ 10 ^ digitLimit := Nat.le_pow (by decide)
  rw [htext]
  exact (ofText_isWritten.2.2 (-3) (-2) 0 (by omega) (by omega) (by omega)).1

end GridUnion.Request
