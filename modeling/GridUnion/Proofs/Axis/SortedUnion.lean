import GridUnion.Proofs.Axis.Keys
import Mathlib.Data.Finset.Sort

/-!
# Sorted unions

A merge of strictly ascending lists of a linear order goes through their sorted union, and records
at every value the place where each list has it.  The values are their own keys here, and two of them
are equal just if their keys are.
-/

namespace GridUnion

namespace Axis

variable {α : Type} [LinearOrder α]

/-- The order of values as a test. -/
def isBelow (a b : α) : Bool := a < b

/-- The equality of values as a test. -/
def isSame (a b : α) : Bool := a == b

/-- The values of several lists in ascending order, each once. -/
def sortedUnion (lists : List (List α)) : List α := lists.flatten.toFinset.sort

theorem mem_sortedUnion {lists : List (List α)} {v : α} :
  v ∈ sortedUnion lists ↔ ∃ xs ∈ lists, v ∈ xs
  := by
  simp [sortedUnion]

theorem pairwise_sortedUnion (lists : List (List α)) :
  (sortedUnion lists).Pairwise (· < ·)
  := (Finset.sortedLT_sort _).pairwise

/-- A strictly ascending list of the same values is the sorted union. -/
theorem eq_sortedUnion {lists : List (List α)} {values : List α} (hsorted : values.Pairwise (· < ·))
    (hmem : ∀ v, v ∈ values ↔ ∃ xs ∈ lists, v ∈ xs) :
  values = sortedUnion lists
  := by
  apply hsorted.sortedLT.eq_of_mem_iff (pairwise_sortedUnion lists).sortedLT
  intro v
  rw [hmem, mem_sortedUnion]

/-! ### Runs on strictly ascending lists -/

/-- Values of a linear order are their own keys. -/
theorem follows_isBelow :
  Follows isBelow (fun _ : α => True) id
  := by
  constructor
  · intro a b _ _ hlt
    exact le_of_lt (of_decide_eq_true hlt)
  · intro a b _ _ hle
    exact not_lt.mp fun hlt => hle (decide_eq_true hlt)

section Runs

variable {cursors : List (Cursor α)} {lists : List (List α)} {positions : List (Position α)}

/-- A run goes through the values under its cursors and no others. -/
theorem Merges.mem_values_iff (h : Merges isBelow isSame cursors positions) {v : α} :
  v ∈ positions.map Position.value ↔ ∃ c ∈ cursors, v ∈ c.rest
  := by
  constructor
  · intro hv
    obtain ⟨p, hp, rfl⟩ := List.mem_map.mp hv
    exact h.exists_mem_rest p hp
  · rintro ⟨c, hc, hv⟩
    obtain ⟨i, hc⟩ := List.mem_iff_getElem?.mp hc
    obtain ⟨k, hv⟩ := List.mem_iff_getElem?.mp hv
    obtain ⟨p, hp, -, hsame⟩ := h.exists_position hc hv
    obtain rfl : v = p.value := eq_of_beq hsame
    exact List.mem_map_of_mem hp

theorem Merges.pairwise_values (h : Merges isBelow isSame cursors positions)
    (hsorted : ∀ c ∈ cursors, c.rest.Pairwise (· < ·)) :
  (positions.map Position.value).Pairwise (· < ·)
  := by
  apply follows_isBelow.pairwise_lt h (fun _ _ _ _ => trivial)
  · rintro a b - - rfl
    exact beq_self_eq_true _
  · exact hsorted

/-- At every position each list has its row where it has the value of the position. -/
theorem Merges.rows_eq (h : Merges isBelow isSame (lists.map fun xs => ⟨0, xs⟩) positions)
    (hsorted : ∀ xs ∈ lists, xs.Pairwise (· < ·)) :
  ∀ p ∈ positions, p.rows = lists.map (List.idxOf? p.value)
  := by
  intro p hp
  have hlength : p.rows.length = lists.length := by simpa using h.length_rows p hp
  apply List.ext_getElem
  · simpa using hlength
  · intro i hi _
    have hc : (lists.map fun xs => (⟨0, xs⟩ : Cursor α))[i]? = some ⟨0, lists[i]⟩ := by simp
    have hrow := follows_isBelow.row_eq_findIdx? h (fun _ _ _ _ => trivial)
      (fun _ _ => beq_iff_eq) (by simpa using hsorted) hc hp
    simpa [List.getD_eq_getElem?_getD, hi, isSame, List.idxOf?] using hrow

end Runs

/-- The merge of strictly ascending lists goes through their sorted union, with the place of each
value in each list. -/
theorem mergeLists?_eq_sortedUnion {lists : List (List α)} (h : ∀ xs ∈ lists, xs.Pairwise (· < ·)) :
  mergeLists? isBelow isSame lists
    = some ((sortedUnion lists).map fun v => ⟨v, lists.map (List.idxOf? v)⟩)
  := by
  have hself : ∀ c ∈ lists.map fun xs => (⟨0, xs⟩ : Cursor α), ∀ v ∈ c.rest, isSame v v := by
    simp [isSame]
  obtain ⟨positions, hrun, hlen⟩ := @exists_merges α isBelow isSame _ hself
  have hvalues : positions.map Position.value = sortedUnion lists := by
    apply eq_sortedUnion (hrun.pairwise_values (by simpa using h))
    intro v
    rw [hrun.mem_values_iff]
    simp
  have hpositions : positions.map id = (sortedUnion lists).map
      fun v => ⟨v, lists.map (List.idxOf? v)⟩ := by
    rw [← hvalues, List.map_map]
    apply List.map_congr_left
    rintro ⟨v, rows⟩ hp
    have hrows : rows = _ := hrun.rows_eq h ⟨v, rows⟩ hp
    simp [hrows]
  rw [List.map_id] at hpositions
  apply mergeCursors?_eq_some_iff.mpr
  rw [← hpositions]
  constructor
  · exact hrun
  · simpa [total, Function.comp_def] using hlen

/-- The sorted union has no more values than all lists together. -/
theorem length_sortedUnion_le (lists : List (List α)) :
  (sortedUnion lists).length ≤ (lists.map List.length).sum
  := by
  rw [sortedUnion, Finset.length_sort, ← List.length_flatten]
  apply List.toFinset_card_le

end Axis

end GridUnion
