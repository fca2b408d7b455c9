import GridUnion.Proofs.Block.Fill
import GridUnion.Proofs.Fetch

/-!
# Pieces of a fetch

A piece that has the shape which its segment asks for has an element for every place of the answer
that it takes.  So the total of the pieces is never wrong, and putting them together fails only for
other reasons, such as a value that cannot be stored or a block that is too large.
-/

namespace GridUnion

namespace Fetch

/-! ### Failures that are not inconsistencies -/

/-- A computation does not fail because of an inconsistency. -/
def NeverInconsistent {α : Type} (x : Except Failure α) : Prop :=
  ∀ e, x = .error e → e.kind ≠ .inconsistency

section NeverInconsistent

variable {α β : Type}

theorem neverInconsistent_ok (a : α) :
  NeverInconsistent (.ok a)
  := by
  rintro e ⟨⟩

theorem neverInconsistent_error {e : Failure} (h : e.kind ≠ .inconsistency) :
  NeverInconsistent (.error e : Except Failure α)
  := by
  rintro _ ⟨⟩
  exact h

theorem NeverInconsistent.bind {x : Except Failure α} {f : α → Except Failure β}
    (hx : NeverInconsistent x) (hf : ∀ a, x = .ok a → NeverInconsistent (f a)) :
  NeverInconsistent (x >>= f)
  := by
  intro e he
  rcases bind_eq_error_iff.mp he with hfirst | ⟨a, ha, hnext⟩
  · exact hx e hfirst
  · exact hf a ha e hnext

theorem NeverInconsistent.guard {c : Prop} [Decidable c] {e : Failure} {f : α → Except Failure β}
    {x : Except Failure β} (he : e.kind ≠ .inconsistency) (hx : NeverInconsistent x) :
  NeverInconsistent (if c then throw e >>= f else x)
  := by
  split
  · exact neverInconsistent_error he
  · exact hx

/-- No failed conversion is an inconsistency. -/
theorem neverInconsistent_conversion (x : Except ConversionFault α) (g : α → β) :
  NeverInconsistent (do return g (← liftConversion x))
  := by
  rcases x with fault | a
  · apply neverInconsistent_error
    cases fault <;> exact nofun
  · exact neverInconsistent_ok (g a)

theorem neverInconsistent_mapM {f : α → Except Failure β} (h : ∀ a, NeverInconsistent (f a))
    (xs : List α) :
  NeverInconsistent (xs.mapM f)
  := by
  induction xs with
  | nil => exact neverInconsistent_ok []
  | cons x xs ih =>
    rw [List.mapM_cons]
    apply (h x).bind
    intro y _
    apply ih.bind
    intro ys _
    exact neverInconsistent_ok (y :: ys)

end NeverInconsistent

/-! ### Putting pieces together -/

/-- A piece has the shape that its segment asks for. -/
def Piece.IsShaped (other : List Int) : Piece → Prop
  | .absent _ => True
  | .read n block => block.shape.map Int.ofNat = (n : Int) :: other

section Assemble

variable {f : Fetch} {type : ElementType} {pieces : List Piece}

theorem neverInconsistent_typeOf (f : Fetch) (pieces : List Piece) :
  NeverInconsistent (f.typeOf pieces)
  := by
  unfold typeOf
  split
  · apply neverInconsistent_ok
  · apply neverInconsistent_ok
  · apply neverInconsistent_conversion

theorem neverInconsistent_bytesOf (bytes : Nat) (sizes : List Int) :
  NeverInconsistent (bytesOf bytes sizes)
  := by
  fun_induction bytesOf bytes sizes with
  | case1 bytes => apply neverInconsistent_ok
  | case2 | case4 => apply neverInconsistent_error (by decide)
  | case3 _ _ _ ih => exact ih
  | case5 _ _ _ _ _ _ ih => exact ih

theorem neverInconsistent_otherSizes [Machine] (f : Fetch) (type : ElementType) (expected : Int) :
  NeverInconsistent (f.otherSizes type expected)
  := by
  simp only [otherSizes]
  apply NeverInconsistent.guard (by simp [Failure.kind])
  apply NeverInconsistent.guard (by decide)
  apply (neverInconsistent_bytesOf _ _).bind
  intro bytes _
  apply NeverInconsistent.guard (by simp [Failure.kind])
  apply neverInconsistent_ok

theorem otherSizes_eq [Machine] {expected : Int} {sizes : List Nat}
    (h : f.otherSizes type expected = .ok sizes) :
  f.other.map Int.toNat = sizes
  := by
  simp only [otherSizes, ite_throw_eq_ok_iff, bind_eq_ok_iff, pure_eq_ok_iff] at h
  obtain ⟨-, -, bytes, -, -, h⟩ := h
  exact h

theorem neverInconsistent_cells (f : Fetch) (type : ElementType) (sizes : List Nat) (p : Piece) :
  NeverInconsistent (f.cells type sizes p)
  := by
  cases p with
  | absent n => apply neverInconsistent_conversion
  | read n block => apply neverInconsistent_conversion

/-- A piece of the right shape has an element for every place of the answer that it takes. -/
theorem length_cells {p : Piece} (hp : p.IsShaped f.other) {data : List Element}
    (h : f.cells type (f.other.map Int.toNat) p = .ok data) :
  data.length = p.count * (f.other.map Int.toNat).prod
  := by
  cases p with
  | absent n =>
    simp only [cells, bind_eq_ok_iff, liftConversion_eq_ok_iff, pure_eq_ok_iff] at h
    obtain ⟨b, hb, rfl⟩ := h
    rw [b.size_eq, Block.shape_fill hb]
    rfl
  | read n block =>
    simp only [cells, bind_eq_ok_iff, liftConversion_eq_ok_iff, pure_eq_ok_iff] at h
    obtain ⟨b, hb, rfl⟩ := h
    have hshape : block.shape = n :: f.other.map Int.toNat := by
      simpa [List.map_map, Function.comp_def] using congrArg (List.map Int.toNat) hp
    rw [b.size_eq, Block.shape_mapM hb, hshape]
    rfl

/-- Pieces of the right shape have an element for every place of the answer. -/
theorem length_flatten_cells (h : ∀ p ∈ pieces, p.IsShaped f.other) {data : List (List Element)}
    (hdata : pieces.mapM (f.cells type (f.other.map Int.toNat)) = .ok data) :
  data.flatten.length = ((pieces.map Piece.count).sum :: f.other.map Int.toNat).prod
  := by
  rw [mapM_eq_ok_iff] at hdata
  induction hdata with
  | nil => simp
  | cons hp _ ih =>
    obtain ⟨hshaped, hrest⟩ := List.forall_mem_cons.mp h
    rw [List.flatten_cons, List.length_append, length_cells hshaped hp, ih hrest]
    simp [Nat.add_mul]

/-- The total of pieces of the right shape is never wrong if their positions are as many as
expected. -/
theorem neverInconsistent_assemble [Machine] (h : ∀ p ∈ pieces, p.IsShaped f.other) {expected : Int}
    (hcount : ((pieces.map Piece.count).sum : Int) = expected) (r : Request) :
  NeverInconsistent (f.assemble r expected pieces)
  := by
  unfold assemble
  apply (neverInconsistent_typeOf f pieces).bind
  intro type _
  apply (neverInconsistent_otherSizes f type expected).bind
  intro sizes hsizes
  obtain rfl := otherSizes_eq hsizes
  apply (neverInconsistent_mapM (neverInconsistent_cells f type _) pieces).bind
  intro data hdata
  have hlength := length_flatten_cells h hdata
  have hblock : Block.ofData? type ((pieces.map Piece.count).sum :: f.other.map Int.toNat)
      data.flatten = some ⟨type, _, data.flatten, hlength⟩ := by
    rw [Block.ofData?, dif_pos hlength]
  simp only [hblock, hcount, if_true]
  apply neverInconsistent_ok

end Assemble

end Fetch

end GridUnion
