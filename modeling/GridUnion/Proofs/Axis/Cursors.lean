import GridUnion.Axis.Merge
import Mathlib.Data.List.ReduceOption

/-!
# Cursors

How the cursors of a merge move, whatever the order and the equality of values are.  The relation
`Merges` says through which positions cursors run; a merge gives positions exactly when the cursors
run through them and there is room.  Every cursor then records its rows one after the other and
leaves none out, and every position has the row of at least one child.
-/

namespace GridUnion

namespace Axis

variable {α : Type} {lt eq : α → α → Bool}

/-- The cursors run through the positions, at each step to the lowest value under a cursor. -/
inductive Merges (lt eq : α → α → Bool) : List (Cursor α) → List (Position α) → Prop
  | done {cursors : List (Cursor α)} (h : lowest? lt cursors = none) : Merges lt eq cursors []
  | step {cursors : List (Cursor α)} {positions : List (Position α)} {low : α}
      (h : lowest? lt cursors = some low)
      (next : Merges lt eq (cursors.map (Cursor.advance eq low)) positions) :
      Merges lt eq cursors (⟨low, cursors.map (Cursor.row? eq low)⟩ :: positions)

/-! ### The lowest value -/

theorem foldl_lower_ne_none (cursors : List (Cursor α)) (v : α) :
  cursors.foldl (lower lt) (some v) ≠ none
  := by
  induction cursors generalizing v with
  | nil => simp
  | cons c cs ih =>
    obtain ⟨row, _ | ⟨w, rest⟩⟩ := c
    · apply ih
    · simp only [List.foldl_cons, lower]
      split
      · apply ih
      · apply ih

/-- There is no lowest value exactly when all cursors have reached their ends. -/
theorem lowest?_eq_none_iff {cursors : List (Cursor α)} :
  lowest? lt cursors = none ↔ ∀ c ∈ cursors, c.rest = []
  := by
  unfold lowest?
  induction cursors with
  | nil => simp
  | cons c cs ih =>
    obtain ⟨row, _ | ⟨v, rest⟩⟩ := c
    · simpa [lower] using ih
    · simp [lower, foldl_lower_ne_none]

theorem lower_eq_some {lowest : Option α} {c : Cursor α} {low : α}
    (h : lower lt lowest c = some low) :
  lowest = some low ∨ c.rest.head? = some low
  := by
  obtain ⟨row, _ | ⟨v, rest⟩⟩ := c
  · exact .inl h
  · rcases lowest with _ | w
    · exact .inr h
    · simp only [lower] at h
      split at h
      · exact .inr h
      · exact .inl h

theorem foldl_lower_eq_some {cursors : List (Cursor α)} {lowest : Option α} {low : α}
    (h : cursors.foldl (lower lt) lowest = some low) :
  lowest = some low ∨ ∃ c ∈ cursors, c.rest.head? = some low
  := by
  induction cursors generalizing lowest with
  | nil => exact .inl h
  | cons c cs ih =>
    rcases ih h with hlow | ⟨d, hd, hlow⟩
    · rcases lower_eq_some hlow with hinit | hc
      · exact .inl hinit
      · exact .inr ⟨c, List.mem_cons_self, hc⟩
    · exact .inr ⟨d, List.mem_cons_of_mem c hd, hlow⟩

/-- The lowest value stands under a cursor. -/
theorem exists_head?_eq_lowest {cursors : List (Cursor α)} {low : α}
    (h : lowest? lt cursors = some low) :
  ∃ c ∈ cursors, c.rest.head? = some low
  := by
  rcases foldl_lower_eq_some h with hnone | hc
  · cases hnone
  · exact hc

/-! ### A cursor's step -/

namespace Cursor

/-- A cursor that records no row stays where it is. -/
theorem advance_of_row?_eq_none {low : α} {c : Cursor α} (h : row? eq low c = none) :
  advance eq low c = c
  := by
  obtain ⟨row, _ | ⟨v, rest⟩⟩ := c
  · rfl
  · simp only [row?, ite_eq_right_iff, reduceCtorEq, imp_false] at h
    simp [advance, h]

variable (eq) in
/-- What a cursor records and what it has left are the rows it had. -/
theorem toList_row?_append_range' (low : α) (c : Cursor α) :
  (row? eq low c).toList ++ List.range' (advance eq low c).row (advance eq low c).rest.length
    = List.range' c.row c.rest.length
  := by
  obtain ⟨row, _ | ⟨v, rest⟩⟩ := c
  · rfl
  · by_cases h : eq v low
    · simp [row?, advance, h, List.range'_succ]
    · simp [row?, advance, h]

variable (eq) in
theorem length_rest_advance (low : α) (c : Cursor α) :
  (advance eq low c).rest.length + (row? eq low c).toList.length = c.rest.length
  := by
  obtain ⟨row, _ | ⟨v, rest⟩⟩ := c
  · rfl
  · by_cases h : eq v low
    · simp [row?, advance, h]
    · simp [row?, advance, h]

end Cursor

/-! ### Runs of cursors -/

/-- The values that are left under all cursors. -/
def total (cursors : List (Cursor α)) : Nat := (cursors.map fun c => c.rest.length).sum

/-- A merge gives positions exactly when its cursors run through them and it has room for them. -/
theorem mergeCursors?_eq_some_iff {capacity : Nat} {cursors : List (Cursor α)}
    {positions : List (Position α)} :
  mergeCursors? lt eq capacity cursors = some positions
    ↔ Merges lt eq cursors positions ∧ positions.length ≤ capacity
  := by
  induction capacity generalizing cursors positions with
  | zero =>
    unfold mergeCursors?
    rcases hlow : lowest? lt cursors with _ | low
    · constructor
      · intro h
        cases h
        exact ⟨.done hlow, Nat.le_refl 0⟩
      · rintro ⟨-, hlen⟩
        rw [List.length_eq_zero_iff.mp (Nat.le_zero.mp hlen)]
    · constructor
      · intro h
        cases h
      · rintro ⟨hrun, hlen⟩
        cases hrun with
        | done hnone => simp [hnone] at hlow
        | step => simp at hlen
  | succ capacity ih =>
    unfold mergeCursors?
    rcases hlow : lowest? lt cursors with _ | low
    · constructor
      · intro h
        cases h
        exact ⟨.done hlow, Nat.zero_le _⟩
      · rintro ⟨hrun, -⟩
        cases hrun with
        | done => rfl
        | step hsome => simp [hsome] at hlow
    · simp only [Option.map_eq_some_iff, ih]
      constructor
      · rintro ⟨rest, ⟨hrun, hlen⟩, rfl⟩
        exact ⟨.step hlow hrun, Nat.succ_le_succ hlen⟩
      · rintro ⟨hrun, hlen⟩
        cases hrun with
        | done hnone => simp [hnone] at hlow
        | step hsome next =>
          obtain rfl : low = _ := Option.some.inj (hlow.symm.trans hsome)
          exact ⟨_, ⟨next, Nat.le_of_succ_le_succ hlen⟩, rfl⟩

theorem Merges.unique {cursors : List (Cursor α)} {ps qs : List (Position α)}
    (hp : Merges lt eq cursors ps) (hq : Merges lt eq cursors qs) :
  ps = qs
  := by
  induction hp generalizing qs with
  | done h =>
    cases hq with
    | done => rfl
    | step h' => simp [h] at h'
  | step h next ih =>
    cases hq with
    | done h' => simp [h] at h'
    | step h' next' =>
      obtain rfl := Option.some.inj (h.symm.trans h')
      rw [ih next']

/-- At every position at least one child has a row: where no cursor moves, a run never ends. -/
theorem Merges.exists_row {cursors : List (Cursor α)} {positions : List (Position α)}
    (h : Merges lt eq cursors positions) :
  ∀ p ∈ positions, ∃ row, some row ∈ p.rows
  := by
  induction h with
  | done => simp
  | @step cursors positions low h next ih =>
    intro p hp
    rcases List.mem_cons.mp hp with rfl | hp
    · by_contra hnone
      have hstay : cursors.map (Cursor.advance eq low) = cursors.map id := by
        apply List.map_congr_left
        intro c hc
        apply Cursor.advance_of_row?_eq_none
        apply Option.eq_none_iff_forall_ne_some.mpr
        intro row hrow
        apply hnone
        use row, List.mem_map.mpr ⟨c, hc, hrow⟩
      rw [List.map_id] at hstay
      have hloop := (Merges.step h next).unique (hstay ▸ next)
      simpa using congrArg List.length hloop
    · exact ih p hp

variable (eq) in
/-- A step takes as many values as it records rows. -/
theorem total_advance (low : α) (cursors : List (Cursor α)) :
  total (cursors.map (Cursor.advance eq low))
      + (cursors.map (Cursor.row? eq low)).reduceOption.length
    = total cursors
  := by
  induction cursors with
  | nil => rfl
  | cons c cs ih =>
    have hc := c.length_rest_advance eq low
    simp only [total, List.map_cons, List.sum_cons] at ih ⊢
    rcases hrow : c.row? eq low with _ | row
    · simp only [hrow, Option.toList_none, List.length_nil] at hc
      rw [List.reduceOption_cons_of_none]
      omega
    · simp only [hrow, Option.toList_some, List.length_singleton] at hc
      rw [List.reduceOption_cons_of_some, List.length_cons]
      omega

theorem exists_row_of_lowest? {cursors : List (Cursor α)} {low : α}
    (h : lowest? lt cursors = some low) (hself : eq low low) :
  ∃ row, some row ∈ cursors.map (Cursor.row? eq low)
  := by
  obtain ⟨⟨row, _ | ⟨v, rest⟩⟩, hc, hlow⟩ := exists_head?_eq_lowest h
  · cases hlow
  · obtain rfl : v = low := Option.some.inj hlow
    use row, List.mem_map.mpr ⟨_, hc, by simp [Cursor.row?, hself]⟩

theorem Cursor.rest_advance_suffix (c : Cursor α) (low : α) :
  (c.advance eq low).rest <:+ c.rest
  := by
  obtain ⟨row, _ | ⟨w, rest⟩⟩ := c
  · exact List.suffix_refl []
  · by_cases hw : eq w low
    · simp [advance, hw]
    · simp [advance, hw]

theorem mem_rest_of_mem_rest_advance {low v : α} {c : Cursor α}
    (h : v ∈ (c.advance eq low).rest) :
  v ∈ c.rest
  := (c.rest_advance_suffix low).subset h

/-- The values of positions are values under cursors. -/
theorem Merges.exists_mem_rest {cursors : List (Cursor α)} {positions : List (Position α)}
    (h : Merges lt eq cursors positions) :
  ∀ p ∈ positions, ∃ c ∈ cursors, p.value ∈ c.rest
  := by
  induction h with
  | done => simp
  | step h next ih =>
    intro p hp
    rcases List.mem_cons.mp hp with rfl | hp
    · obtain ⟨c, hc, hhead⟩ := exists_head?_eq_lowest h
      use c, hc, List.mem_of_mem_head? hhead
    · obtain ⟨d, hd, hvalue⟩ := ih p hp
      obtain ⟨c, hc, rfl⟩ := List.mem_map.mp hd
      use c, hc, mem_rest_of_mem_rest_advance hvalue

/-- Cursors over values that are equal to themselves run to their ends, through no more positions
than there are values. -/
theorem exists_merges {cursors : List (Cursor α)} (h : ∀ c ∈ cursors, ∀ v ∈ c.rest, eq v v) :
  ∃ positions, Merges lt eq cursors positions ∧ positions.length ≤ total cursors
  := by
  induction htotal : total cursors using Nat.strongRecOn generalizing cursors with
  | _ n ih =>
  rcases hlow : lowest? lt cursors with _ | low
  · use [], .done hlow, Nat.zero_le _
  · obtain ⟨c, hc, hhead⟩ := exists_head?_eq_lowest hlow
    have hself := h c hc low (List.mem_of_mem_head? hhead)
    obtain ⟨row, hrow⟩ := exists_row_of_lowest? hlow hself
    have hstep := total_advance eq low cursors
    have hmoved : 0 < (cursors.map (Cursor.row? eq low)).reduceOption.length := by
      apply List.length_pos_of_mem
      apply List.reduceOption_mem_iff.mpr hrow
    have hnext : ∀ d ∈ cursors.map (Cursor.advance eq low), ∀ v ∈ d.rest, eq v v := by
      intro d hd v hv
      obtain ⟨d₀, hd₀, rfl⟩ := List.mem_map.mp hd
      apply h d₀ hd₀ v (mem_rest_of_mem_rest_advance hv)
    obtain ⟨positions, hrun, hlen⟩ := ih _ (by omega) hnext rfl
    use ⟨low, cursors.map (Cursor.row? eq low)⟩ :: positions, .step hlow hrun
    simp only [List.length_cons]
    omega

/-! ### Recorded rows -/

/-- The rows that are recorded for a child, one for every position. -/
def column (positions : List (Position α)) (c : Nat) : List (Option Nat) :=
  positions.map fun p => p.rows.getD c none

/-- Each cursor records all rows that it has left, one after the other. -/
theorem Merges.reduceOption_column {cursors : List (Cursor α)} {positions : List (Position α)}
    (h : Merges lt eq cursors positions) {i : Nat} {c : Cursor α} (hc : cursors[i]? = some c) :
  (column positions i).reduceOption = List.range' c.row c.rest.length
  := by
  induction h generalizing c with
  | done h =>
    rw [lowest?_eq_none_iff.mp h c (List.mem_of_getElem? hc)]
    rfl
  | @step cursors positions low h next ih =>
    have hnext : (cursors.map (Cursor.advance eq low))[i]? = some (c.advance eq low) := by
      simp [hc]
    have hrow : (cursors.map (Cursor.row? eq low)).getD i none = c.row? eq low := by
      simp [List.getD_eq_getElem?_getD, hc]
    rw [← Cursor.toList_row?_append_range' eq low c, ← ih hnext, column, List.map_cons, hrow]
    rcases c.row? eq low with _ | row
    · rfl
    · rfl

/-- The rows of every position are as many as there are cursors. -/
theorem Merges.length_rows {cursors : List (Cursor α)} {positions : List (Position α)}
    (h : Merges lt eq cursors positions) :
  ∀ p ∈ positions, p.rows.length = cursors.length
  := by
  induction h with
  | done => simp
  | step h next ih =>
    intro p hp
    rcases List.mem_cons.mp hp with rfl | hp
    · simp
    · simpa using ih p hp

/-- The row that a position has of a child is that of a value equal to the position's own. -/
theorem Merges.exists_value_of_row {cursors : List (Cursor α)} {positions : List (Position α)}
    (h : Merges lt eq cursors positions) {p : Position α} (hp : p ∈ positions) {i : Nat}
    {c : Cursor α} (hc : cursors[i]? = some c) {row : Nat} (hrow : p.rows.getD i none = some row) :
  ∃ k v, row = c.row + k ∧ c.rest[k]? = some v ∧ eq v p.value
  := by
  induction h generalizing c with
  | done => cases hp
  | @step cursors positions low h next ih =>
    obtain ⟨first, _ | ⟨w, rest⟩⟩ := c
    · -- A cursor at its end records no row, now or later.
      rcases List.mem_cons.mp hp with rfl | hp
      · simp [List.getD_eq_getElem?_getD, hc, Cursor.row?] at hrow
      · have hnext : (cursors.map (Cursor.advance eq low))[i]? = some ⟨first, []⟩ := by
          simp [hc, Cursor.advance]
        obtain ⟨k, v, -, hv, -⟩ := ih hp hnext
        cases hv
    · rcases List.mem_cons.mp hp with rfl | hp
      · have heq : eq w low ∧ first = row := by
          simpa [List.getD_eq_getElem?_getD, hc, Cursor.row?] using hrow
        exact ⟨0, w, heq.2.symm, rfl, heq.1⟩
      · by_cases heq : eq w low
        · have hnext : (cursors.map (Cursor.advance eq low))[i]? = some ⟨first + 1, rest⟩ := by
            simp [hc, Cursor.advance, heq]
          obtain ⟨k, v, rfl, hv, hequal⟩ := ih hp hnext
          exact ⟨k + 1, v, Nat.add_right_comm first 1 k, hv, hequal⟩
        · have hnext : (cursors.map (Cursor.advance eq low))[i]? = some ⟨first, w :: rest⟩ := by
            simp [hc, Cursor.advance, heq]
          exact ih hp hnext

/-- Each value under a cursor has its row at a position of an equal value. -/
theorem Merges.exists_position {cursors : List (Cursor α)} {positions : List (Position α)}
    (h : Merges lt eq cursors positions) {i : Nat} {c : Cursor α} (hc : cursors[i]? = some c)
    {k : Nat} {v : α} (hv : c.rest[k]? = some v) :
  ∃ p ∈ positions, p.rows.getD i none = some (c.row + k) ∧ eq v p.value
  := by
  have hk : k < c.rest.length := (List.getElem?_eq_some_iff.mp hv).1
  have hmem : c.row + k ∈ (column positions i).reduceOption := by
    rw [h.reduceOption_column hc]
    exact List.mem_range'_1.mpr (by omega)
  obtain ⟨p, hp, hrow⟩ := List.mem_map.mp (List.reduceOption_mem_iff.mp hmem)
  obtain ⟨j, w, hj, hw, hequal⟩ := h.exists_value_of_row hp hc hrow
  obtain rfl : k = j := by omega
  obtain rfl := Option.some.inj (hv.symm.trans hw)
  exact ⟨p, hp, hrow, hequal⟩

/-- Cursors do not run to their ends over a value that is equal to nothing. -/
theorem Merges.exists_equal {cursors : List (Cursor α)} {positions : List (Position α)}
    (h : Merges lt eq cursors positions) {c : Cursor α} (hc : c ∈ cursors) {v : α}
    (hv : v ∈ c.rest) :
  ∃ w, eq v w
  := by
  obtain ⟨i, hc⟩ := List.mem_iff_getElem?.mp hc
  obtain ⟨k, hv⟩ := List.mem_iff_getElem?.mp hv
  obtain ⟨p, -, -, hequal⟩ := h.exists_position hc hv
  exact ⟨p.value, hequal⟩

/-! ### Values under another name -/

section Map

variable {β : Type} {lt' eq' : β → β → Bool} (f : α → β)

/-- A cursor over the images of values. -/
def Cursor.map (c : Cursor α) : Cursor β := ⟨c.row, c.rest.map f⟩

/-- A position with the image of its value. -/
def Position.map (p : Position α) : Position β := ⟨f p.value, p.rows⟩

variable {f} (hlt : ∀ a b, lt' (f a) (f b) = lt a b) (heq : ∀ a b, eq' (f a) (f b) = eq a b)

include hlt in
theorem foldl_lower_map (cursors : List (Cursor α)) (lowest : Option α) :
  (cursors.map (Cursor.map f)).foldl (lower lt') (lowest.map f)
    = (cursors.foldl (lower lt) lowest).map f
  := by
  induction cursors generalizing lowest with
  | nil => rfl
  | cons c cs ih =>
    have hc : lower lt' (lowest.map f) (c.map f) = (lower lt lowest c).map f := by
      obtain ⟨row, _ | ⟨v, rest⟩⟩ := c
      · rfl
      · rcases lowest with _ | w
        · rfl
        · simp only [lower, Cursor.map, List.map_cons, Option.map_some, hlt]
          split
          · rfl
          · rfl
    rw [List.map_cons, List.foldl_cons, hc, ih, List.foldl_cons]

include hlt in
theorem lowest?_map (cursors : List (Cursor α)) :
  lowest? lt' (cursors.map (Cursor.map f)) = (lowest? lt cursors).map f
  := foldl_lower_map hlt cursors none

include heq in
theorem Cursor.row?_map (low : α) (c : Cursor α) :
  (c.map f).row? eq' (f low) = c.row? eq low
  := by
  obtain ⟨row, _ | ⟨v, rest⟩⟩ := c
  · rfl
  · simp [row?, map, heq]

include heq in
theorem Cursor.advance_map (low : α) (c : Cursor α) :
  (c.map f).advance eq' (f low) = (c.advance eq low).map f
  := by
  obtain ⟨row, _ | ⟨v, rest⟩⟩ := c
  · rfl
  · simp only [advance, map, List.map_cons, heq]
    split
    · rfl
    · rfl

include hlt heq in
theorem mergeCursors?_map (capacity : Nat) (cursors : List (Cursor α)) :
  mergeCursors? lt' eq' capacity (cursors.map (Cursor.map f))
    = (mergeCursors? lt eq capacity cursors).map (List.map (Position.map f))
  := by
  induction capacity generalizing cursors with
  | zero =>
    unfold mergeCursors?
    rw [lowest?_map hlt]
    rcases lowest? lt cursors with _ | low
    · rfl
    · rfl
  | succ capacity ih =>
    unfold mergeCursors?
    rw [lowest?_map hlt]
    rcases lowest? lt cursors with _ | low
    · rfl
    · have hadvance : (cursors.map (Cursor.map f)).map (Cursor.advance eq' (f low))
          = (cursors.map (Cursor.advance eq low)).map (Cursor.map f) := by
        simp only [List.map_map, Function.comp_def, Cursor.advance_map heq]
      have hrows : (cursors.map (Cursor.map f)).map (Cursor.row? eq' (f low))
          = cursors.map (Cursor.row? eq low) := by
        simp only [List.map_map, Function.comp_def, Cursor.row?_map heq]
      simp only [Option.map_some, hadvance, hrows, ih, Option.map_map]
      rfl

include hlt heq in
/-- A merge does not depend on what values are, only on how they compare. -/
theorem mergeLists?_map (lists : List (List α)) :
  mergeLists? lt' eq' (lists.map (List.map f))
    = (mergeLists? lt eq lists).map (List.map (Position.map f))
  := by
  rw [mergeLists?, mergeLists?, ← mergeCursors?_map hlt heq]
  simp only [List.map_map, Function.comp_def, Cursor.map, List.length_map]

end Map

end Axis

end GridUnion
