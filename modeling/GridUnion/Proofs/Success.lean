import GridUnion.Session
import Mathlib.Data.List.Forall2

/-!
# Success

What it means that a computation which may fail succeeds: each of its steps does.  An action is run
step by step as well.
-/

namespace GridUnion

variable {α β ε : Type}

/-- A sequence succeeds exactly when its first step does and then the next one. -/
@[simp]
theorem bind_eq_ok_iff {x : Except ε α} {f : α → Except ε β} {b : β} :
  x >>= f = .ok b ↔ ∃ a, x = .ok a ∧ f a = .ok b
  := by
  cases x with
  | error e => simp [bind, Except.bind]
  | ok a => simp [bind, Except.bind]

/-- A sequence fails exactly when its first step does, or that succeeds and the next one fails. -/
theorem bind_eq_error_iff {x : Except ε α} {f : α → Except ε β} {e : ε} :
  x >>= f = .error e ↔ x = .error e ∨ ∃ a, x = .ok a ∧ f a = .error e
  := by
  cases x with
  | error d => simp [bind, Except.bind]
  | ok a => simp [bind, Except.bind]

@[simp]
theorem pure_eq_ok_iff {a b : α} :
  (pure a : Except ε α) = .ok b ↔ a = b
  := by
  simp [pure, Except.pure]

@[simp]
theorem map_eq_ok_iff {x : Except ε α} {f : α → β} {b : β} :
  f <$> x = .ok b ↔ ∃ a, x = .ok a ∧ f a = b
  := by
  cases x with
  | error e => simp [Functor.map, Except.map]
  | ok a => simp [Functor.map, Except.map]

theorem error_of_map_eq_error {x : Except ε α} {f : α → β} {e : ε} (h : x.map f = .error e) :
  x = .error e
  := by
  rcases x with d | a
  · exact congrArg Except.error (Except.error.inj h)
  · cases h

/-- A sequence after a guard succeeds exactly when the guard's condition does not hold and the rest
succeeds. -/
theorem ite_throw_eq_ok_iff {c : Prop} [Decidable c] {e : ε} {f : α → Except ε β} {x : Except ε β}
    {b : β} :
  (if c then throw e >>= f else x) = .ok b ↔ ¬ c ∧ x = .ok b
  := by
  split
  · next h => simp [h]
  · next h => simp [h]

@[simp]
theorem exists_unit_eq_ok_iff {x : Except ε Unit} :
  (∃ u, x = .ok u) ↔ x = .ok ()
  := by
  simp [Unique.exists_iff]

theorem eq_ok_of_toOption {r : Except ε α} {a : α} (h : r.toOption = some a) :
  r = .ok a
  := by
  rcases r with e | b
  · cases h
  · exact congrArg Except.ok (Option.some.inj h)

theorem exists_error_of_isNone {r : Except ε α} (h : r.toOption.isNone = true) :
  ∃ e, r = .error e
  := by
  rcases r with e | a
  · use e
  · cases h

/-- A map over a list succeeds exactly when it does on every item. -/
theorem mapM_eq_ok_iff {f : α → Except ε β} {xs : List α} {ys : List β} :
  xs.mapM f = .ok ys ↔ List.Forall₂ (fun x y => f x = .ok y) xs ys
  := by
  induction xs generalizing ys with
  | nil => rw [List.mapM_nil, pure_eq_ok_iff, List.forall₂_nil_left_iff, eq_comm]
  | cons x xs ih =>
    simp only [List.mapM_cons, bind_eq_ok_iff, pure_eq_ok_iff, ih, List.forall₂_cons_left_iff]
    constructor
    · rintro ⟨y, hy, zs, hzs, rfl⟩
      use y, zs
    · rintro ⟨y, zs, hy, hzs, rfl⟩
      use y, hy, zs

/-- A map over a list succeeds as it does on every item, told by a relation. -/
theorem mapM_eq_ok_iff_of {f : α → Except ε β} {R : α → β → Prop} {xs : List α} {ys : List β}
    (h : ∀ x ∈ xs, ∀ y, f x = .ok y ↔ R x y) :
  xs.mapM f = .ok ys ↔ List.Forall₂ R xs ys
  := by
  rw [mapM_eq_ok_iff]
  simp only [List.forall₂_iff_get]
  constructor
  · rintro ⟨hlength, hget⟩
    exact ⟨hlength, fun i hi hi' => (h _ (List.get_mem _ _) _).mp (hget i hi hi')⟩
  · rintro ⟨hlength, hget⟩
    exact ⟨hlength, fun i hi hi' => (h _ (List.get_mem _ _) _).mpr (hget i hi hi')⟩

/-- A map over a list succeeds if it does on every item. -/
theorem mapM_eq_ok_map {f : α → Except ε β} {g : α → β} {xs : List α}
    (h : ∀ x ∈ xs, f x = .ok (g x)) :
  xs.mapM f = .ok (xs.map g)
  := by
  rw [mapM_eq_ok_iff, List.forall₂_map_right_iff, List.forall₂_same]
  exact h

theorem exists_of_mem_mapM {f : α → Except ε β} {xs : List α} {ys : List β}
    (h : xs.mapM f = .ok ys) {y : β} (hy : y ∈ ys) :
  ∃ x ∈ xs, f x = .ok y
  := by
  obtain ⟨hlength, hget⟩ := List.forall₂_iff_get.mp (mapM_eq_ok_iff.mp h)
  obtain ⟨i, hi, rfl⟩ := List.mem_iff_getElem.mp hy
  exact ⟨xs[i], List.getElem_mem _, hget i (hlength ▸ hi) hi⟩

theorem exists_mem_of_mapM {f : α → Except ε β} {xs : List α} {ys : List β}
    (h : xs.mapM f = .ok ys) {x : α} (hx : x ∈ xs) :
  ∃ y ∈ ys, f x = .ok y
  := by
  obtain ⟨hlength, hget⟩ := List.forall₂_iff_get.mp (mapM_eq_ok_iff.mp h)
  obtain ⟨i, hi, rfl⟩ := List.mem_iff_getElem.mp hx
  exact ⟨_, List.getElem_mem (hlength ▸ hi), hget i hi (hlength ▸ hi)⟩

theorem exists_forall₂ {R : α → β → Prop} {xs : List α} (h : ∀ x ∈ xs, ∃ y, R x y) :
  ∃ ys, List.Forall₂ R xs ys
  := by
  induction xs with
  | nil => exact ⟨[], .nil⟩
  | cons x xs ih =>
    obtain ⟨⟨y, hy⟩, hxs⟩ := List.forall_mem_cons.mp h
    obtain ⟨ys, hys⟩ := ih hxs
    exact ⟨y :: ys, .cons hy hys⟩

theorem exists_mapM_eq_ok {f : α → Except ε β} {xs : List α} (h : ∀ x ∈ xs, ∃ y, f x = .ok y) :
  ∃ ys, xs.mapM f = .ok ys
  := by
  simp only [mapM_eq_ok_iff]
  exact exists_forall₂ h

/-- A map over a list that fails does so on one of the items. -/
theorem exists_error_of_mapM {f : α → Except ε β} {xs : List α} {e : ε}
    (h : xs.mapM f = .error e) :
  ∃ x ∈ xs, f x = .error e
  := by
  induction xs with
  | nil => cases h
  | cons x xs ih =>
    rw [List.mapM_cons, bind_eq_error_iff] at h
    obtain hx | ⟨y, -, h⟩ := h
    · exact ⟨x, List.mem_cons_self, hx⟩
    · obtain hxs | ⟨ys, -, h⟩ := bind_eq_error_iff.mp h
      · obtain ⟨x', hx', hf⟩ := ih hxs
        exact ⟨x', List.mem_cons_of_mem _ hx', hf⟩
      · cases h

/-- A check of every item of a list succeeds exactly if it does on each. -/
theorem forM_eq_ok_iff {f : α → Except ε Unit} {xs : List α} :
  forM xs f = .ok () ↔ ∀ x ∈ xs, f x = .ok ()
  := by
  induction xs with
  | nil => exact iff_of_true rfl (List.forall_mem_nil _)
  | cons x xs ih =>
    rw [List.forM_cons, bind_eq_ok_iff, List.forall_mem_cons, ih]
    constructor
    · rintro ⟨⟨⟩, hx, hxs⟩
      exact ⟨hx, hxs⟩
    · rintro ⟨hx, hxs⟩
      exact ⟨(), hx, hxs⟩

/-- A check of every item of a list fails as it does on the first item that it fails on. -/
theorem forM_eq_error_iff {f : α → Except ε Unit} {xs : List α} {e : ε} :
  forM xs f = .error e
    ↔ ∃ before x after, xs = before ++ x :: after ∧ (∀ y ∈ before, f y = .ok ()) ∧ f x = .error e
  := by
  induction xs with
  | nil =>
    constructor
    · intro h
      cases h
    · rintro ⟨before, x, after, hxs, -⟩
      cases before <;> cases hxs
  | cons x xs ih =>
    rw [List.forM_cons, bind_eq_error_iff]
    constructor
    · rintro (hx | ⟨⟨⟩, hx, hrest⟩)
      · exact ⟨[], x, xs, rfl, List.forall_mem_nil _, hx⟩
      · obtain ⟨before, y, after, rfl, hbefore, hy⟩ := ih.mp hrest
        exact ⟨x :: before, y, after, rfl, List.forall_mem_cons.mpr ⟨hx, hbefore⟩, hy⟩
    · rintro ⟨before, y, after, hxs, hbefore, hy⟩
      rcases List.cons_eq_append_iff.mp hxs with ⟨rfl, hcons⟩ | ⟨before, rfl, rfl⟩
      · left
        rwa [← (List.cons.inj hcons).1]
      · right
        obtain ⟨hx, hbefore⟩ := List.forall_mem_cons.mp hbefore
        exact ⟨(), hx, ih.mpr ⟨before, y, after, rfl, hbefore, hy⟩⟩

@[simp]
theorem liftConversion_eq_ok_iff {x : Except ConversionFault α} {a : α} :
  liftConversion x = .ok a ↔ x = .ok a
  := by
  cases x with
  | error e => simp [liftConversion, Except.mapError]
  | ok a => simp [liftConversion, Except.mapError]

namespace Noted

@[simp]
theorem result_bind (x : Noted α) (f : α → Noted β) :
  (x >>= f).result = x.result >>= fun a => (f a).result
  := by
  rcases x with ⟨_ | a, notes⟩
  · rfl
  · rfl

@[simp]
theorem result_pure (a : α) :
  (pure a : Noted α).result = .ok a
  := rfl

@[simp]
theorem result_liftM (x : Except Failure α) :
  (liftM x : Noted α).result = x
  := rfl

@[simp]
theorem result_note (level : Level) (topic : Topic) (text : String) :
  (note level topic text).result = .ok ()
  := rfl

theorem bind_of_ok (a : α) (notes : List Note) (f : α → Noted β) :
  (⟨.ok a, notes⟩ : Noted α) >>= f = ⟨(f a).result, notes ++ (f a).notes⟩
  := rfl

instance : LawfulMonad Noted := by
  refine LawfulMonad.mk' Noted ?_ ?_ ?_
  · rintro α ⟨_ | a, notes⟩
    · rfl
    · change (⟨.ok a, notes ++ []⟩ : Noted α) = ⟨.ok a, notes⟩
      rw [List.append_nil]
  · intro α β a f
    rfl
  · rintro α β γ ⟨_ | a, notes⟩ f g
    · rfl
    · rw [bind_of_ok, bind_of_ok]
      rcases f a with ⟨_ | b, notes'⟩
      · rfl
      · rw [bind_of_ok, bind_of_ok, List.append_assoc]

@[simp]
theorem result_map (f : α → β) (x : Noted α) :
  (f <$> x).result = f <$> x.result
  := by
  rcases x with ⟨_ | a, notes⟩
  · rfl
  · rfl

/-- A noted map over a list has the result of the map of results. -/
@[simp]
theorem result_mapM (f : α → Noted β) (xs : List α) :
  (xs.mapM f).result = xs.mapM fun x => (f x).result
  := by
  induction xs with
  | nil => rfl
  | cons x xs ih => simp [List.mapM_cons, ih]

end Noted

namespace Action

theorem bind_apply (x : Action α) (f : α → Action β) (s : Session) :
  (x >>= f) s = match x s with
    | (.ok a, s') => f a s'
    | (.error e, s') => (.error e, s')
  := rfl

theorem bind_fst (x : Action α) (f : α → Action β) (s : Session) :
  ((x >>= f) s).1 = (x s).1 >>= fun a => (f a (x s).2).1
  := by
  rw [bind_apply]
  rcases x s with ⟨e | a, s'⟩
  · rfl
  · rfl

/-- A sequence succeeds exactly when its first step does and then the next one. -/
theorem bind_eq_ok_iff {x : Action α} {f : α → Action β} {s s' : Session} {b : β} :
  (x >>= f) s = (.ok b, s') ↔ ∃ a s₁, x s = (.ok a, s₁) ∧ f a s₁ = (.ok b, s')
  := by
  rw [bind_apply]
  rcases x s with ⟨e | a, s₁⟩
  · simp
  · simp

theorem liftM_apply (r : Except Failure α) (s : Session) :
  (liftM r : Action α) s = (r, s)
  := rfl

theorem ask_apply (f : Session → α) (s : Session) :
  ask f s = (.ok (f s), s)
  := rfl

theorem note_apply (level : Level) (topic : Topic) (text : String) (s : Session) :
  note level topic text s = (.ok (), { s with notes := s.notes ++ [⟨level, topic, text⟩] })
  := rfl

theorem ite_apply (c : Prop) [Decidable c] (x y : Action α) (s : Session) :
  (if c then x else y) s = if c then x s else y s
  := by
  split <;> rfl

/-- A step for every item of a list, if its result does not depend on the session, is a check of
every item. -/
theorem forM_fst {f : α → Action Unit} {g : α → Except Failure Unit} (h : ∀ x s, (f x s).1 = g x)
    (xs : List α) (s : Session) :
  (forM xs f s).1 = forM xs g
  := by
  induction xs generalizing s with
  | nil => rfl
  | cons x xs ih =>
    have hx := h x s
    rw [List.forM_cons, List.forM_cons, bind_apply, ← hx]
    rcases f x s with ⟨e | u, s'⟩
    · rfl
    · exact ih s'

end Action

end GridUnion
