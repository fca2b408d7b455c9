import GridUnion.Proofs.Double
import GridUnion.Proofs.Element.Number

/-!
# Integers beside doubles

Signed integers are compared with each other exactly, and with doubles as doubles.  Where both occur
the integers are stored as doubles, so that different ones may be stored as the same number.  The
level of what is stored never contradicts a comparison.
-/

namespace GridUnion

namespace ElementType

/-- Types of signed integers, and doubles. -/
def isSignedOrDouble : ElementType → Bool
  | signed _ | double => true
  | _ => false

variable {t : ElementType}

theorem isNumeric_of_isSignedOrDouble (h : t.isSignedOrDouble) :
  t.isNumeric
  := by
  cases t with
  | signed w => cases w <;> rfl
  | double => rfl
  | _ => cases h

theorem eq_double_of_admits (h : t.isSignedOrDouble) (hadmits : t.admits double) :
  t = double
  := by
  cases t with
  | double => rfl
  | signed w => cases hadmits
  | _ => cases h

/-- The common type of signed integers and doubles is one of them, and it is the doubles exactly if
these are among them. -/
theorem commonOf_eq_double_iff {types : List ElementType} (hne : types ≠ [])
    (htypes : ∀ t ∈ types, t.isSignedOrDouble) (h : commonOf types = .ok t) :
  t.isSignedOrDouble ∧ (∀ s ∈ types, t.admits s) ∧ (t = double ↔ double ∈ types)
  := by
  have hnum : ∀ t ∈ types, t.isNumeric := fun t ht => isNumeric_of_isSignedOrDouble (htypes t ht)
  have hclosed : ∀ {a b t : ElementType}, a.isSignedOrDouble → b.isSignedOrDouble →
      joinKnown? a b = some t → t.isSignedOrDouble := by
    intro a b t ha hb ht
    have hall : ∀ a ∈ plainTypes, ∀ b ∈ plainTypes, a.isSignedOrDouble → b.isSignedOrDouble →
        ∀ t ∈ joinKnown? a b, t.isSignedOrDouble := by decide
    exact hall a (mem_plainTypes (isNumeric_of_isSignedOrDouble ha)) b
      (mem_plainTypes (isNumeric_of_isSignedOrDouble hb)) ha hb t ht
  have hsigned : ∀ {a b t : ElementType}, a.isSignedOrDouble ∧ a ≠ double →
      b.isSignedOrDouble ∧ b ≠ double → joinKnown? a b = some t →
      t.isSignedOrDouble ∧ t ≠ double := by
    rintro a b t ⟨ha, hane⟩ ⟨hb, hbne⟩ ht
    have hall : ∀ a ∈ plainTypes, ∀ b ∈ plainTypes, a.isSignedOrDouble → a ≠ double →
        b.isSignedOrDouble → b ≠ double → ∀ t ∈ joinKnown? a b, t ≠ double := by decide
    exact ⟨hclosed ha hb ht, hall a (mem_plainTypes (isNumeric_of_isSignedOrDouble ha)) b
      (mem_plainTypes (isNumeric_of_isSignedOrDouble hb)) ha hane hb hbne t ht⟩
  obtain ⟨t', ht', -, hadmits⟩ := exists_commonOf hne hnum
  obtain rfl := Except.ok.inj (h.symm.trans ht')
  have ht := closed_commonOf hclosed hne hnum htypes h
  refine ⟨ht, hadmits, ?_⟩
  constructor
  · intro hdouble
    by_contra habsent
    have htypes' : ∀ s ∈ types, s.isSignedOrDouble ∧ s ≠ double := by
      intro s hs
      use htypes s hs
      rintro rfl
      exact habsent hs
    exact (closed_commonOf hsigned hne hnum htypes' h).2 hdouble
  · intro hmem
    exact eq_double_of_admits ht (hadmits double hmem)

end ElementType

namespace Element

/-- The number that an element is, without rounding. -/
def exactly : Element → Double
  | .int n => Double.exact n
  | .real x => x
  | _ => .nan

/-- Whether two elements are the same number. -/
def SameNumber (d e : Element) : Prop := d.exactly.equals e.exactly

instance (d e : Element) : Decidable (d.SameNumber e) := inferInstanceAs (Decidable (_ = true))

/-- Whether an integer is a double; all other elements are in no need of rounding. -/
def IsDouble : Element → Prop
  | .int n => (Double.exact n).equals (Double.ofInt n)
  | _ => True

instance (e : Element) : Decidable e.IsDouble :=
  match e with
  | .int _ => inferInstanceAs (Decidable (_ = true))
  | .null | .bool _ | .real _ | .time _ | .text _ | .typed _ _ => .isTrue trivial

/-- What is stored of an element: integers among doubles become the nearest doubles. -/
def storedIn (t : ElementType) : Element → Element
  | .int n => if t = .double then .real (Double.ofInt n) else .int n
  | e => e

theorem storedIn_of_ne {t : ElementType} (h : t ≠ .double) (e : Element) :
  e.storedIn t = e
  := by
  cases e with
  | int n => exact if_neg h
  | _ => rfl

/-- The level of what is stored of an element. -/
def levelIn (t : ElementType) (e : Element) : Double.Level := (e.storedIn t).exactly.level

end Element

namespace Scalar

/-- A signed integer of its type, or a double that is a number. -/
inductive IsProper : Scalar → Prop
  | int {w : WordSize} {n : Int} (h : (ElementType.signed w).wrap n = n) :
      IsProper ⟨.signed w, .int n⟩
  | real {x : Double} (h : x ≠ .nan) : IsProper ⟨.double, .real x⟩

theorem isProper_of_isNumberOf {t : ElementType} (ht : t.isSignedOrDouble) {e : Element}
    (h : e.isNumberOf t) (hnan : e ≠ .real .nan) :
  IsProper ⟨t, e⟩
  := by
  cases t with
  | signed w =>
    obtain ⟨n, rfl, hn⟩ := Element.exists_int_of_isNumberOf rfl h
    exact .int hn
  | double =>
    obtain ⟨x, rfl⟩ := Element.exists_real_of_isNumberOf rfl h
    exact .real (by simpa using hnan)
  | _ => cases ht

/-! ### Comparisons -/

section Compared

variable {v w : WordSize} {m n : Int} {x y : Double}

theorem compared_int_int :
  compared ⟨.signed v, .int m⟩ ⟨.signed w, .int n⟩ = .ints m n
  := rfl

theorem compared_int_real :
  compared ⟨.signed w, .int m⟩ ⟨.double, .real y⟩ = .reals (Double.ofInt m) y
  := by
  simp [compared, comparedNumbers, asNumber, wholeBeside, realBeside, isPlain]

theorem compared_real_int :
  compared ⟨.double, .real x⟩ ⟨.signed w, .int n⟩ = .reals x (Double.ofInt n)
  := by
  simp [compared, comparedNumbers, asNumber, wholeBeside, realBeside, isPlain]

theorem compared_real_real :
  compared ⟨.double, .real x⟩ ⟨.double, .real y⟩ = .reals x y
  := by
  simp [compared, comparedNumbers, realBeside, isPlain]

end Compared

/-- A number with a type of signed integers or doubles that admits it. -/
structure IsStorable (t : ElementType) (a : Scalar) : Prop where
  isSignedOrDouble : t.isSignedOrDouble
  isProper : a.IsProper
  admits : t.admits a.type

/-! ### Levels -/

section Levels

variable {t : ElementType} {a b : Scalar} (ha : a.IsStorable t) (hb : b.IsStorable t)

include ha hb

/-- Two numbers are compared as integers, or by the levels at which they are stored. -/
theorem compared_cases :
  (∃ m n, a.element = .int m ∧ b.element = .int n ∧ compared a b = .ints m n)
    ∨ ∃ x y : Double, x ≠ .nan ∧ y ≠ .nan ∧ compared a b = .reals x y
        ∧ a.element.levelIn t = x.level ∧ b.element.levelIn t = y.level
  := by
  obtain ⟨ht, ha, hta⟩ := ha
  obtain ⟨-, hb, htb⟩ := hb
  cases ha with
  | @int v m hm =>
    cases hb with
    | @int w n hn => exact .inl ⟨m, n, rfl, rfl, compared_int_int⟩
    | @real y hy =>
      obtain rfl := ElementType.eq_double_of_admits ht htb
      exact .inr ⟨_, y, Double.ofInt_ne_nan m, hy, compared_int_real, rfl, rfl⟩
  | @real x hx =>
    obtain rfl := ElementType.eq_double_of_admits ht hta
    cases hb with
    | @int w n hn => exact .inr ⟨x, _, hx, Double.ofInt_ne_nan n, compared_real_int, rfl, rfl⟩
    | @real y hy => exact .inr ⟨x, y, hx, hy, compared_real_real, rfl, rfl⟩

omit ha hb in
/-- Integers are stored in their order. -/
theorem levelIn_int_mono (t : ElementType) {m n : Int} (h : m ≤ n) :
  (Element.int m).levelIn t ≤ (Element.int n).levelIn t
  := by
  by_cases htype : t = .double
  · subst htype
    exact Double.level_ofInt_mono h
  · rw [Element.levelIn, Element.levelIn, Element.storedIn_of_ne htype, Element.storedIn_of_ne htype]
    exact Double.level_exact_le_iff.mpr h

theorem levelIn_le_of_lt (h : lt a b) :
  a.element.levelIn t ≤ b.element.levelIn t
  := by
  rcases compared_cases ha hb with ⟨m, n, hm, hn, hcompared⟩ | ⟨x, y, hx, hy, hcompared, hxl, hyl⟩
  · have hlt : m < n := by simpa [lt, hcompared] using h
    rw [hm, hn]
    exact levelIn_int_mono t hlt.le
  · have hlt : x.lt y := by simpa [lt, hcompared] using h
    rw [hxl, hyl]
    exact ((Double.lt_iff_level_lt hx hy).mp hlt).le

theorem levelIn_le_of_not_lt (h : ¬ lt a b) :
  b.element.levelIn t ≤ a.element.levelIn t
  := by
  rcases compared_cases ha hb with ⟨m, n, hm, hn, hcompared⟩ | ⟨x, y, hx, hy, hcompared, hxl, hyl⟩
  · have hle : n ≤ m := by simpa [lt, hcompared] using h
    rw [hm, hn]
    exact levelIn_int_mono t hle
  · have hlt : ¬ x.lt y := by simpa [lt, hcompared] using h
    rw [hxl, hyl]
    exact not_lt.mp fun hlevel => hlt ((Double.lt_iff_level_lt hx hy).mpr hlevel)

theorem levelIn_eq_of_equals (h : equals a b) :
  a.element.levelIn t = b.element.levelIn t
  := by
  rcases compared_cases ha hb with ⟨m, n, hm, hn, hcompared⟩ | ⟨x, y, hx, hy, hcompared, hxl, hyl⟩
  · obtain rfl : m = n := by simpa [equals, hcompared] using h
    rw [hm, hn]
  · have hequals : x.equals y := by simpa [equals, hcompared] using h
    rw [hxl, hyl]
    exact (Double.equals_iff_level_eq hx hy).mp hequals

theorem not_equals_of_lt (h : lt a b) :
  ¬ equals a b
  := by
  rcases compared_cases ha hb with ⟨m, n, hm, hn, hcompared⟩ | ⟨x, y, hx, hy, hcompared, hxl, hyl⟩
  · have hlt : m < n := by simpa [lt, hcompared] using h
    simpa [equals, hcompared] using hlt.ne
  · have hlt : x.lt y := by simpa [lt, hcompared] using h
    have hlevel := (Double.lt_iff_level_lt hx hy).mp hlt
    simpa [equals, hcompared] using mt (Double.equals_iff_level_eq hx hy).mp hlevel.ne

/-- The same number is equal to itself, as it is stored at one level. -/
theorem equals_of_sameNumber (hlevel : a.element.levelIn t = b.element.levelIn t)
    (hsame : a.element.SameNumber b.element) :
  equals a b
  := by
  rcases compared_cases ha hb with ⟨m, n, hm, hn, hcompared⟩ | ⟨x, y, hx, hy, hcompared, hxl, hyl⟩
  · rw [hm, hn] at hsame
    obtain rfl : m = n := Double.exact_equals_iff.mp hsame
    simp [equals, hcompared]
  · rw [hxl, hyl] at hlevel
    simpa [equals, hcompared] using (Double.equals_iff_level_eq hx hy).mpr hlevel

end Levels

/-! ### Stored numbers -/

section Proper

variable {a b : Scalar} (ha : a.IsProper) (hb : b.IsProper)

include ha

theorem exactly_ne_nan :
  a.element.exactly ≠ .nan
  := by
  cases ha with
  | int => exact Double.exact_ne_nan _
  | real hx => exact hx

theorem exactly_storedIn_ne_nan (t : ElementType) :
  (a.element.storedIn t).exactly ≠ .nan
  := by
  by_cases htype : t = .double
  · subst htype
    cases ha with
    | int => exact Double.ofInt_ne_nan _
    | real hx => exact hx
  · rw [Element.storedIn_of_ne htype]
    exact exactly_ne_nan ha

theorem ofCell_storedIn (t : ElementType) :
  ofCell t (a.element.storedIn t) = ⟨t, a.element.storedIn t⟩
  := by
  cases ha with
  | int => by_cases htype : t = .double <;> simp [Element.storedIn, htype, ofCell]
  | real => rfl

theorem storedIn_double :
  a.element.storedIn .double = .real (a.element.storedIn .double).exactly
  := by
  cases ha with
  | int | real => rfl

theorem isDouble_storedIn :
  (a.element.storedIn .double).IsDouble
  := by
  cases ha with
  | int | real => trivial

/-- A number is stored as it is unless it is an integer that becomes another double. -/
theorem sameNumber_self_storedIn_iff (t : ElementType) :
  a.element.SameNumber (a.element.storedIn t) ↔ (t = .double → a.element.IsDouble)
  := by
  by_cases htype : t = .double
  · subst htype
    cases ha with
    | int => simp [Element.storedIn, Element.SameNumber, Element.exactly, Element.IsDouble]
    | @real x hx =>
      have hsame : (Element.real x).SameNumber (.real x) := (Double.equals_iff_level_eq hx hx).mpr rfl
      simp [Element.storedIn, Element.IsDouble, hsame]
  · have hnan := exactly_ne_nan ha
    rw [Element.storedIn_of_ne htype]
    exact iff_of_true ((Double.equals_iff_level_eq hnan hnan).mpr rfl) fun h => absurd h htype

include hb

theorem sameNumber_iff :
  a.element.SameNumber b.element ↔ a.element.exactly.level = b.element.exactly.level
  := Double.equals_iff_level_eq (exactly_ne_nan ha) (exactly_ne_nan hb)

/-- Numbers are stored as the same number exactly if it has the same level. -/
theorem sameNumber_storedIn_iff (t : ElementType) :
  (a.element.storedIn t).SameNumber (b.element.storedIn t)
    ↔ a.element.levelIn t = b.element.levelIn t
  := Double.equals_iff_level_eq (exactly_storedIn_ne_nan ha t) (exactly_storedIn_ne_nan hb t)

end Proper

section Storable

variable {t : ElementType} {a b : Scalar} (ha : a.IsStorable t) (hb : b.IsStorable t)

include ha

/-- A number is stored in every type that admits its own. -/
theorem store_eq_ok :
  a.store t = .ok (a.element.storedIn t)
  := by
  obtain ⟨ht, ha, hta⟩ := ha
  cases ha with
  | @int w n hn =>
    cases t with
    | signed v =>
      have hwrap := wrap_signed_of_admits hta (decide_eq_true hn)
      have hstore := storeInt_signed_eq_ok hwrap
      by_cases htype : ElementType.signed w = .signed v
      · simp [store, storeTyped, isPlain, htype, Element.storedIn]
      · simp [store, storeTyped, isPlain, htype, Element.storedIn, hstore]
    | double => simp [store, storeTyped, castTyped, castInt, isPlain, Element.storedIn]
    | _ => cases ht
  | @real x hx =>
    obtain rfl := ElementType.eq_double_of_admits ht hta
    simp [store, storeTyped, isPlain, Element.storedIn]

theorem exists_int_of_ne_double (htype : t ≠ .double) :
  ∃ n, a.element = .int n
  := by
  obtain ⟨ht, ha, hta⟩ := ha
  cases ha with
  | @int v n hn => exact ⟨n, rfl⟩
  | real => exact absurd (ElementType.eq_double_of_admits ht hta) htype

include hb

/-- Stored numbers are in the order of their levels. -/
theorem lt_storedIn_iff :
  lt ⟨t, a.element.storedIn t⟩ ⟨t, b.element.storedIn t⟩
    ↔ a.element.levelIn t < b.element.levelIn t
  := by
  by_cases htype : t = .double
  · subst htype
    rw [storedIn_double ha.isProper, storedIn_double hb.isProper, lt, compared_real_real]
    exact Double.lt_iff_level_lt (exactly_storedIn_ne_nan ha.isProper _)
      (exactly_storedIn_ne_nan hb.isProper _)
  · obtain ⟨m, hm⟩ := exists_int_of_ne_double ha htype
    obtain ⟨n, hn⟩ := exists_int_of_ne_double hb htype
    simp only [hm, hn, Element.levelIn, Element.storedIn_of_ne htype]
    have hlevel : (Double.exact m).level < (Double.exact n).level ↔ m < n := by
      rw [← not_le, ← not_le]
      exact not_congr Double.level_exact_le_iff
    rw [Element.exactly, Element.exactly, hlevel]
    exact decide_eq_true_iff

end Storable

end Scalar

end GridUnion
