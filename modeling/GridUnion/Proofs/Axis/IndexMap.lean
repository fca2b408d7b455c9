import GridUnion.Axis.IndexMap
import Mathlib.Data.List.ReduceOption

/-!
# Index maps by their lists

The presences, rows and counts of an index map in terms of `IndexMap.toList`.  Equality of maps is
equality of these lists.
-/

namespace GridUnion

namespace IndexMap

theorem rows_eq_reduceOption (m : IndexMap) :
  m.rows = m.toList.reduceOption
  := rfl

/-- A child is present at a position exactly if it has a row there. -/
theorem presence_eq_map (m : IndexMap) :
  m.presence = m.toList.map Option.isSome
  := by
  simp only [presence, toList, List.map_map]
  apply List.map_congr_left
  rintro ⟨row, _ | _⟩ _
  · rfl
  · rfl

theorem length_presence (m : IndexMap) :
  m.presence.length = m.size
  := by
  simp [presence, size]

theorem getElem?_presence_eq_true_iff {m : IndexMap} {p : Nat} :
  m.presence[p]? = some true ↔ ∃ row, m.toList[p]? = some (some row)
  := by
  rw [presence_eq_map, List.getElem?_map]
  rcases m.toList[p]? with _ | _ | row
  · simp
  · simp
  · simp

/-- A child is present at as many positions as it has rows there. -/
theorem countPresent_eq_length_rows (m : IndexMap) :
  m.countPresent = m.rows.length
  := by
  rw [countPresent, presence_eq_map, rows_eq_reduceOption]
  induction m.toList with
  | nil => rfl
  | cons row rows ih =>
    rcases row with _ | row
    · simpa using ih
    · simpa using ih

/-- The row at a position that counts from the start. -/
theorem get_natCast {m : IndexMap} {p : Nat} {row? : Option Int} (h : m.toList[p]? = some row?) :
  m.get p = .ok row?
  := by
  have hlt : p < m.size := by
    rw [← length_toList]
    exact (List.getElem?_eq_some_iff.mp h).1
  simp only [get, place?]
  rw [if_pos (by omega)]
  simp [List.getD_eq_getElem?_getD, h]

/-! ### Equal maps -/

/-- Lists with values at the same places are the same if their values are. -/
theorem eq_of_reduceOption_eq {α : Type} {xs ys : List (Option α)}
    (hsome : xs.map Option.isSome = ys.map Option.isSome)
    (hvalues : xs.reduceOption = ys.reduceOption) :
  xs = ys
  := by
  induction xs generalizing ys with
  | nil =>
    rw [List.map_nil, eq_comm, List.map_eq_nil_iff] at hsome
    exact hsome.symm
  | cons x xs ih =>
    cases ys with
    | nil => cases hsome
    | cons y ys =>
      obtain ⟨hhead, htail⟩ := List.cons.inj hsome
      rcases x with _ | v
      · obtain rfl : y = none := by simpa using hhead.symm
        rw [List.reduceOption_cons_of_none, List.reduceOption_cons_of_none] at hvalues
        rw [ih htail hvalues]
      · obtain ⟨w, rfl⟩ : ∃ w, y = some w := by simpa [Option.isSome_iff_exists] using hhead.symm
        rw [List.reduceOption_cons_of_some, List.reduceOption_cons_of_some] at hvalues
        obtain ⟨rfl, hrest⟩ := List.cons.inj hvalues
        rw [ih htail hrest]

/-- Maps are equal exactly if they have the same rows at the same positions. -/
theorem equals_iff_toList_eq {a b : IndexMap} :
  a.equals b ↔ a.toList = b.toList
  := by
  rw [equals, Bool.and_eq_true, beq_iff_eq, beq_iff_eq, presence_eq_map, presence_eq_map,
    rows_eq_reduceOption, rows_eq_reduceOption]
  constructor
  · rintro ⟨hpresence, hrows⟩
    exact eq_of_reduceOption_eq hpresence hrows
  · intro heq
    rw [heq]
    exact ⟨rfl, rfl⟩

/-! ### Values of a child -/

/-- The values at the positions where the child is present. -/
def pick {α : Type} (m : IndexMap) (values : List α) : List α :=
  ((values.zip m.presence).filter fun (_, isPresent) => isPresent).map Prod.fst

/-- Only the list of a map decides which values are picked. -/
theorem pick_eq_of_toList_eq {α : Type} {a b : IndexMap} (h : a.toList = b.toList)
    (values : List α) :
  a.pick values = b.pick values
  := by
  rw [pick, pick, presence_eq_map, presence_eq_map, h]

theorem pick_ofRows_map {α : Type} (f : α → Option Int) (values : List α) :
  (ofRows (values.map f)).pick values = values.filter fun v => (f v).isSome
  := by
  simp only [pick, presence_eq_map, toList_ofRows, List.map_map]
  induction values with
  | nil => rfl
  | cons v vs ih =>
    simp only [List.map_cons, List.zip_cons_cons, Function.comp_apply, List.filter_cons]
    split
    · rw [List.map_cons, ih]
    · exact ih

end IndexMap

end GridUnion
