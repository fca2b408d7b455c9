import GridUnion.Block
import Mathlib.Data.List.Forall2
import Mathlib.Data.List.Zip

/-!
# Equal values

Equality of scalars is symmetric, whatever their types.  It is no equivalence: not-a-number and no
time are equal to nothing, and a plain number takes over the precision of the one beside it.  Among
values of one definite type it is transitive, and what holds of the elements of blocks holds of the
blocks.
-/

namespace GridUnion

namespace Double

theorem equals_comm (x y : Double) :
  x.equals y = y.equals x
  := by
  cases x <;> cases y <;> first | rfl | exact Bool.beq_comm

theorem equals_trans {x y z : Double} (hxy : x.equals y) (hyz : y.equals z) :
  x.equals z
  := by
  cases x <;> cases y <;> cases z <;> simp_all [equals]

end Double

namespace Scalar

/-! ### Symmetry -/

/-- The two sides of a comparison in the other order. -/
def Compared.swap : Compared → Compared
  | .ints a b => .ints b a
  | .reals a b => .reals b a
  | .texts a b => .texts b a
  | .times a b => .times b a
  | .unequal => .unequal

theorem finer_comm (u v : TimeUnit) :
  u.finer v = v.finer u
  := by
  cases u <;> cases v <;> rfl

theorem compared_swap (a b : Scalar) :
  (compared a b).swap = compared b a
  := by
  have hinstant : (a.type.isInstant == b.type.isInstant) = (b.type.isInstant == a.type.isInstant) :=
    Bool.beq_comm
  unfold compared
  generalize asNumber a.element = x
  generalize asNumber b.element = y
  cases x with
  | time s =>
    cases y with
    | time t =>
      simp only [hinstant, finer_comm a.type.timeUnit]
      split
      · rfl
      · rfl
    | int n =>
      simp only
      split
      · rfl
      · rfl
    | _ => rfl
  | int m =>
    cases y with
    | time t =>
      simp only
      split
      · rfl
      · rfl
    | _ => rfl
  | _ => cases y <;> rfl

/-- Equality is symmetric. -/
theorem equals_comm (a b : Scalar) :
  a.equals b = b.equals a
  := by
  unfold equals
  rw [← compared_swap b a]
  cases compared b a with
  | ints m n => exact Bool.beq_comm
  | reals x y => exact Double.equals_comm y x
  | texts s t => exact Bool.beq_comm
  | times s t =>
    cases s <;> cases t <;> first | rfl | exact Bool.beq_comm
  | unequal => rfl

/-! ### Transitivity -/

/-- Elements of one kind: truth values, integers, reals, times or text. -/
inductive Alike : Element → Element → Prop
  | bool (x y : Bool) : Alike (.bool x) (.bool y)
  | int (m n : Int) : Alike (.int m) (.int n)
  | real (x y : Double) : Alike (.real x) (.real y)
  | time (c d : Count) : Alike (.time c) (.time d)
  | text (s t : String) : Alike (.text s) (.text t)

/-- An element is of the kind that its type says.  Plain values have no kind of their own. -/
inductive IsKindOf : ElementType → Element → Prop
  | bool (x : Bool) : IsKindOf .bool (.bool x)
  | signed (w : WordSize) (n : Int) : IsKindOf (.signed w) (.int n)
  | unsigned (w : WordSize) (n : Int) : IsKindOf (.unsigned w) (.int n)
  | single (x : Double) : IsKindOf .single (.real x)
  | double (x : Double) : IsKindOf .double (.real x)
  | instant (u : TimeUnit) (c : Count) : IsKindOf (.instant u) (.time c)
  | duration (u : TimeUnit) (c : Count) : IsKindOf (.duration u) (.time c)
  | text (width : Nat) (s : String) : IsKindOf (.text width) (.text s)

theorem IsKindOf.alike {t : ElementType} {d e : Element} (hd : IsKindOf t d) (he : IsKindOf t e) :
  Alike d e
  := by
  cases hd <;> cases he <;> constructor

theorem IsKindOf.ofCell_eq {t : ElementType} {e : Element} (h : IsKindOf t e) :
  ofCell t e = ⟨t, e⟩
  := by
  cases h <;> rfl

theorem IsKindOf.ne_object {t : ElementType} {e : Element} (h : IsKindOf t e) :
  t ≠ .object
  := by
  rintro rfl
  cases h

/-- Two times of one type are equal if both are there and the same in the type's own unit. -/
theorem equals_time_iff {t : ElementType} {c d : Count} :
  equals ⟨t, .time c⟩ ⟨t, .time d⟩
    ↔ ∃ n, timeIn (t.timeUnit.finer t.timeUnit) t c = some n
        ∧ timeIn (t.timeUnit.finer t.timeUnit) t d = some n
  := by
  have hcompared : compared ⟨t, .time c⟩ ⟨t, .time d⟩
      = .times (timeIn (t.timeUnit.finer t.timeUnit) t c)
          (timeIn (t.timeUnit.finer t.timeUnit) t d) := if_pos (beq_self_eq_true _)
  rw [equals, hcompared]
  generalize timeIn (t.timeUnit.finer t.timeUnit) t c = c
  generalize timeIn (t.timeUnit.finer t.timeUnit) t d = d
  cases c with
  | none => simp
  | some m =>
    cases d with
    | none => simp
    | some n => simpa using eq_comm

/-- Equality is transitive among values of one kind and one type, unless they are plain. -/
theorem equals_trans {t : ElementType} (ht : t ≠ .object) {d e f : Element} (hde : Alike d e)
    (hef : Alike e f) (hd : equals ⟨t, d⟩ ⟨t, e⟩) (he : equals ⟨t, e⟩ ⟨t, f⟩) :
  equals ⟨t, d⟩ ⟨t, f⟩
  := by
  have hplain : ∀ x, isPlain ⟨t, x⟩ = false := fun x => by simpa [isPlain] using ht
  cases hde with
  | bool x y =>
    cases hef with
    | bool _ z =>
      simp only [equals, compared, asNumber, comparedNumbers, beq_iff_eq] at hd he ⊢
      exact hd.trans he
  | int m n =>
    cases hef with
    | int _ k =>
      simp only [equals, compared, asNumber, comparedNumbers, beq_iff_eq] at hd he ⊢
      exact hd.trans he
  | real x y =>
    cases hef with
    | real _ z =>
      simp only [equals, compared, asNumber, comparedNumbers, realBeside, hplain] at hd he ⊢
      exact Double.equals_trans hd he
  | time c d =>
    cases hef with
    | time _ e =>
      obtain ⟨m, hm, hd⟩ := equals_time_iff.mp hd
      obtain ⟨n, hn, he⟩ := equals_time_iff.mp he
      obtain rfl := Option.some.inj (hd.symm.trans hn)
      exact equals_time_iff.mpr ⟨m, hm, he⟩
  | text s u =>
    cases hef with
    | text _ v =>
      simp only [equals, compared, asNumber, beq_iff_eq] at hd he ⊢
      exact hd.trans he

end Scalar

namespace Block

/-! ### Equal blocks -/

theorem pairs_swap (a b : Block) :
  (pairs a b).map Prod.swap = pairs b a
  := List.zip_swap _ _

/-- Equality of blocks is symmetric. -/
theorem equals_comm (a b : Block) :
  a.equals b = b.equals a
  := by
  rw [equals, equals, ← pairs_swap a b, List.all_map, Bool.beq_comm]
  congr 2
  funext ⟨x, y⟩
  exact Scalar.equals_comm x y

/-- Beside elements of their own type elements stay what they are. -/
theorem pairs_of_type_eq {a b : Block} (htype : a.type = b.type) :
  pairs a b = a.scalars.zip b.scalars
  := by
  have hbeside : ∀ t, beside t t = Scalar.ofCell t := by
    intro t
    funext e
    exact if_neg fun h => h.1 h.2
  simp only [pairs, scalars, htype, hbeside]

/-- Blocks of one type are equal exactly if their shapes are the same, and their elements equal. -/
theorem equals_iff {a b : Block} (htype : a.type = b.type) :
  a.equals b ↔ a.shape = b.shape ∧ List.Forall₂ (fun s t => s.equals t) a.scalars b.scalars
  := by
  rw [equals, pairs_of_type_eq htype, Bool.and_eq_true, beq_iff_eq, List.forall₂_iff_zip]
  apply and_congr_right
  intro hshape
  have hlength : a.scalars.length = b.scalars.length := by
    simp [scalars, a.size_eq, b.size_eq, hshape]
  simp [hlength]

/-- Equality of blocks of one type is transitive if it is among their elements. -/
theorem equals_trans {a b c : Block} (hab : a.type = b.type) (hbc : b.type = c.type)
    (htrans : ∀ r ∈ a.scalars, ∀ s ∈ b.scalars, ∀ t ∈ c.scalars, r.equals s → s.equals t → r.equals t)
    (h : a.equals b) (h' : b.equals c) :
  a.equals c
  := by
  obtain ⟨hshape, hab'⟩ := (equals_iff hab).mp h
  obtain ⟨hshape', hbc'⟩ := (equals_iff hbc).mp h'
  apply (equals_iff (hab.trans hbc)).mpr
  use hshape.trans hshape'
  obtain ⟨hlength, hab'⟩ := List.forall₂_iff_get.mp hab'
  obtain ⟨hlength', hbc'⟩ := List.forall₂_iff_get.mp hbc'
  apply List.forall₂_iff_get.mpr
  use hlength.trans hlength'
  intro i hi hi'
  exact htrans _ (List.get_mem _ _) _ (List.get_mem _ ⟨i, hlength ▸ hi⟩) _ (List.get_mem _ _)
    (hab' i hi (hlength ▸ hi)) (hbc' i (hlength ▸ hi) hi')

end Block

end GridUnion
