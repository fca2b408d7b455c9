import GridUnion.Proofs.Axis.Cursors
import Mathlib.Data.List.Nodup
import Mathlib.Order.Lattice

/-!
# Keys of values

The values that a merge compares need not be in a linear order.  Each may have a key in one, so that a
comparison of two values never contradicts that of their keys, though it may tell values of the same
key apart.  A merge then goes through its values in the order of their keys, and no two of them have
the same key if values of the same key are equal.
-/

namespace GridUnion

namespace Axis

variable {α κ : Type} [LinearOrder κ] {lt eq : α → α → Bool} {P : α → Prop} {key : α → κ}

/-- Comparisons of values do not contradict the order of their keys. -/
structure Follows (lt : α → α → Bool) (P : α → Prop) (key : α → κ) : Prop where
  le_of_lt {a b : α} : P a → P b → lt a b → key a ≤ key b
  le_of_not_lt {a b : α} : P a → P b → ¬ lt a b → key b ≤ key a

/-! ### The lowest key -/

theorem Follows.foldl_lower_le (h : Follows lt P key) {cursors : List (Cursor α)}
    (hP : ∀ c ∈ cursors, ∀ v ∈ c.rest, P v) {lowest : Option α} (hlowest : ∀ w, lowest = some w → P w)
    {low : α} (hlow : cursors.foldl (lower lt) lowest = some low) :
  (∀ w, lowest = some w → key low ≤ key w)
    ∧ ∀ c ∈ cursors, ∀ v, c.rest.head? = some v → key low ≤ key v
  := by
  induction cursors generalizing lowest with
  | nil =>
    obtain rfl : lowest = some low := hlow
    simp
  | cons c cs ih =>
    obtain ⟨hc, hcs⟩ := List.forall_mem_cons.mp hP
    obtain ⟨row, _ | ⟨v, rest⟩⟩ := c
    · simpa using ih hcs hlowest hlow
    · have hv : P v := hc v List.mem_cons_self
      have hnext : ∀ u, some v = some u → P u := by simpa using hv
      rcases lowest with _ | w
      · obtain ⟨hfirst, hrest⟩ := ih hcs hnext hlow
        simpa using ⟨hfirst v rfl, hrest⟩
      · have hw : P w := hlowest w rfl
        simp only [List.foldl_cons, lower] at hlow
        split at hlow
        · next hlt =>
          obtain ⟨hfirst, hrest⟩ := ih hcs hnext hlow
          have hlv := hfirst v rfl
          simpa using ⟨hlv.trans (h.le_of_lt hv hw hlt), hlv, hrest⟩
        · next hle =>
          obtain ⟨hfirst, hrest⟩ := ih hcs hlowest hlow
          have hlw := hfirst w rfl
          simpa using ⟨hlw, hlw.trans (h.le_of_not_lt hv hw hle), hrest⟩

/-- The key of the lowest value is not above that of any value under a cursor. -/
theorem Follows.lowest?_le (h : Follows lt P key) {cursors : List (Cursor α)}
    (hP : ∀ c ∈ cursors, ∀ v ∈ c.rest, P v) {low : α} (hlow : lowest? lt cursors = some low) :
  ∀ c ∈ cursors, ∀ v, c.rest.head? = some v → key low ≤ key v
  := (h.foldl_lower_le hP (by simp) hlow).2

/-! ### Runs in the order of keys -/

section Runs

variable (h : Follows lt P key) {r : κ → κ → Prop}
  (hr : ∀ {a b c : κ}, a ≤ b → r b c → r a c)
  (hhead : ∀ {a b : α}, P a → P b → key a ≤ key b → ¬ eq b a → r (key a) (key b))

include h hr hhead

/-- What is left after a step is related to the lowest value. -/
theorem Follows.related_of_mem_rest_advance {cursors : List (Cursor α)}
    (hP : ∀ c ∈ cursors, ∀ v ∈ c.rest, P v)
    (hsorted : ∀ c ∈ cursors, c.rest.Pairwise fun a b => r (key a) (key b)) {low : α}
    (hlow : lowest? lt cursors = some low) {c : Cursor α} (hc : c ∈ cursors) {v : α}
    (hv : v ∈ (c.advance eq low).rest) :
  r (key low) (key v)
  := by
  have hlowP : P low := by
    obtain ⟨d, hd, hhead⟩ := exists_head?_eq_lowest hlow
    exact hP d hd low (List.mem_of_mem_head? hhead)
  have hle := h.lowest?_le hP hlow c hc
  have hvalues := hP c hc
  have hpairwise := hsorted c hc
  obtain ⟨row, _ | ⟨w, rest⟩⟩ := c
  · cases hv
  · have hlw : key low ≤ key w := hle w rfl
    have habove : ∀ v ∈ rest, r (key low) (key v) := fun v hv =>
      hr hlw ((List.pairwise_cons.mp hpairwise).1 v hv)
    by_cases hequal : eq w low
    · simp only [Cursor.advance, hequal, if_true] at hv
      exact habove v hv
    · simp only [Cursor.advance, hequal] at hv
      rcases List.mem_cons.mp hv with rfl | hv
      · exact hhead hlowP (hvalues _ List.mem_cons_self) hlw hequal
      · exact habove v hv

theorem Follows.pairwise {cursors : List (Cursor α)} {positions : List (Position α)}
    (hmerges : Merges lt eq cursors positions) (hP : ∀ c ∈ cursors, ∀ v ∈ c.rest, P v)
    (hsorted : ∀ c ∈ cursors, c.rest.Pairwise fun a b => r (key a) (key b)) :
  (positions.map Position.value).Pairwise fun a b => r (key a) (key b)
  := by
  induction hmerges with
  | done => exact List.Pairwise.nil
  | @step cursors positions low hlow next ih =>
    rw [List.map_cons]
    apply List.pairwise_cons.mpr
    constructor
    · rw [List.forall_mem_map]
      intro p hp
      obtain ⟨d, hd, hv⟩ := next.exists_mem_rest p hp
      obtain ⟨c, hc, rfl⟩ := List.mem_map.mp hd
      exact h.related_of_mem_rest_advance (r := r) hr hhead hP hsorted hlow hc hv
    · apply ih
      · rw [List.forall_mem_map]
        intro c hc v hv
        exact hP c hc v (mem_rest_of_mem_rest_advance hv)
      · rw [List.forall_mem_map]
        intro c hc
        exact (hsorted c hc).sublist (c.rest_advance_suffix low).sublist

end Runs

section Orders

variable (h : Follows lt P key) {cursors : List (Cursor α)} {positions : List (Position α)}
  (hmerges : Merges lt eq cursors positions) (hP : ∀ c ∈ cursors, ∀ v ∈ c.rest, P v)

include h hmerges hP

/-- Lists in the order of their keys are merged in that order. -/
theorem Follows.pairwise_le (hsorted : ∀ c ∈ cursors, c.rest.Pairwise fun a b => key a ≤ key b) :
  (positions.map Position.value).Pairwise fun a b => key a ≤ key b
  := h.pairwise (r := (· ≤ ·)) le_trans (fun _ _ hle _ => hle) hmerges hP hsorted

/-- Lists in the strict order of their keys are merged in that order if values with the same key are
equal. -/
theorem Follows.pairwise_lt (hequal : ∀ {a b : α}, P a → P b → key a = key b → eq b a)
    (hsorted : ∀ c ∈ cursors, c.rest.Pairwise fun a b => key a < key b) :
  (positions.map Position.value).Pairwise fun a b => key a < key b
  := by
  apply h.pairwise (r := (· < ·)) lt_of_le_of_lt ?_ hmerges hP hsorted
  intro a b ha hb hle hne
  exact lt_of_le_of_ne hle fun hkey => hne (hequal ha hb hkey)

/-- Where lists are in the strict order of their keys and equal values are those with the same key, a
list has its row at a position where it has the value that is equal to the position's, and none if it
has no such value. -/
theorem Follows.row_eq_findIdx? (hequal : ∀ {a b : α}, P a → P b → (eq a b ↔ key a = key b))
    (hsorted : ∀ c ∈ cursors, c.rest.Pairwise fun a b => key a < key b) {i : Nat} {xs : List α}
    (hc : cursors[i]? = some ⟨0, xs⟩) {p : Position α} (hp : p ∈ positions) :
  p.rows.getD i none = xs.findIdx? (eq · p.value)
  := by
  have hvalue : ∀ q ∈ positions, P q.value := by
    intro q hq
    obtain ⟨d, hd, hv⟩ := hmerges.exists_mem_rest q hq
    exact hP d hd q.value hv
  rcases hfind : xs.findIdx? (eq · p.value) with _ | k
  · apply Option.eq_none_iff_forall_ne_some.mpr
    intro row hrow
    obtain ⟨k, v, -, hv, hvp⟩ := hmerges.exists_value_of_row hp hc hrow
    have hnot := List.findIdx?_eq_none_iff.mp hfind v (List.mem_of_getElem? hv)
    simp [hvp] at hnot
  · obtain ⟨hk, hkp, -⟩ := List.findIdx?_eq_some_iff_getElem.mp hfind
    obtain ⟨q, hq, hrow, hkq⟩ := hmerges.exists_position hc (List.getElem?_eq_getElem hk)
    have hPk : P xs[k] := hP _ (List.mem_of_getElem? hc) _ (List.getElem_mem hk)
    -- The value has its row at one position, and no two positions have the same key.
    have hkey : key p.value = key q.value :=
      ((hequal hPk (hvalue p hp)).mp hkp).symm.trans ((hequal hPk (hvalue q hq)).mp hkq)
    have hpairwise := h.pairwise_lt hmerges hP (fun ha hb hab => (hequal hb ha).mpr hab.symm) hsorted
    rw [List.pairwise_map] at hpairwise
    have hnodup : (positions.map fun p => key p.value).Nodup :=
      List.pairwise_map.mpr (hpairwise.imp ne_of_lt)
    obtain rfl : p = q := List.inj_on_of_nodup_map hnodup hp hq hkey
    simpa using hrow

end Orders

end Axis

end GridUnion
