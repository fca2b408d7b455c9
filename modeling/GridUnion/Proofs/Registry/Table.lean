import GridUnion.Proofs.Lookup
import GridUnion.Registry
import Mathlib.Data.List.Perm.Basic
import Mathlib.Data.String.Basic

/-!
# The tables of a registry

What is found in a table, and what the table holds, after an id is set or taken out.
-/

namespace GridUnion

theorem Value.formatted_text (k : String) :
  (text k).formatted = k
  := by
  simp [formatted, plain]

namespace Registry

variable {α : Type} {id : String} {value : α} {table : List (String × α)}

/-! ### Lookups -/

theorem lookup_cons_eq_ite (k : String) :
  ((id, value) :: table).lookup k = if k = id then some value else table.lookup k
  := by
  rw [List.lookup_cons]
  by_cases hk : k = id
  · simp [hk]
  · simp [hk, beq_false_of_ne]

theorem lookup_put (k : String) :
  (put id value table).lookup k = if k = id then some value else table.lookup k
  := by
  induction table with
  | nil => exact lookup_cons_eq_ite k
  | cons item rest ih =>
    obtain ⟨i, v⟩ := item
    rw [put]
    split
    · next hi =>
      subst hi
      rw [lookup_cons_eq_ite, lookup_cons_eq_ite]
      by_cases hk : k = i <;> simp [hk]
    · next hi =>
      rw [lookup_cons_eq_ite, lookup_cons_eq_ite, ih]
      by_cases hk : k = i
      · subst hk
        simp [hi]
      · simp [hk]

theorem lookup_filter (k : String) :
  (table.filter fun item => item.1 != id).lookup k = if k = id then none else table.lookup k
  := by
  induction table with
  | nil => simp
  | cons item rest ih =>
    obtain ⟨i, v⟩ := item
    rw [List.filter_cons, lookup_cons_eq_ite]
    by_cases hi : i = id
    · subst hi
      have hdrop : (i != i) = false := by simp
      rw [hdrop, if_neg Bool.false_ne_true, ih]
      by_cases hk : k = i <;> simp [hk]
    · by_cases hk : k = i
      · subst hk
        simp [hi]
      · simp [lookup_cons_eq_ite, hi, ih, hk]

/-- Only text is an id. -/
theorem lookUp_text (k : String) (table : List (String × α)) :
  lookUp (.text k) table = .ok (table.lookup k)
  := by
  simp [lookUp, Value.unhashable?]

theorem exists_text_of_lookUp {v : Value} (h : lookUp v table = .ok (some value)) :
  ∃ k, v = .text k ∧ table.lookup k = some value
  := by
  unfold lookUp at h
  split at h
  · cases h
  · next k _ =>
    use k, rfl
    exact Except.ok.inj h
  · cases h

/-! ### Ids -/

theorem keys_put :
  (put id value table).map Prod.fst
    = if id ∈ table.map Prod.fst then table.map Prod.fst else table.map Prod.fst ++ [id]
  := by
  induction table with
  | nil => rfl
  | cons item rest ih =>
    obtain ⟨i, v⟩ := item
    by_cases hi : i = id
    · simp [put, hi]
    · have hne : id ≠ i := fun h => hi h.symm
      simp only [put, hi, if_false, List.map_cons, ih, List.mem_cons, hne, false_or]
      split <;> rfl

theorem nodup_keys_put (h : (table.map Prod.fst).Nodup) :
  ((put id value table).map Prod.fst).Nodup
  := by
  rw [keys_put]
  split
  · exact h
  · next hid =>
    apply h.append (List.nodup_singleton id)
    simpa using hid

theorem keys_filter :
  (table.filter fun item => item.1 != id).map Prod.fst = (table.map Prod.fst).filter (· != id)
  := by
  rw [List.filter_map]
  rfl

theorem mem_ids_iff {r : Registry} {id : String} :
  id ∈ r.ids ↔ ∃ p, r.datasets.lookup id = some p
  := by
  rw [ids, List.mem_mergeSort, ← lookup_isSome_iff, Option.isSome_iff_exists]

theorem get_text {r : Registry} {id : String} {p : Published} (h : r.datasets.lookup id = some p) :
  r.get (.text id) = .ok p
  := by
  rw [get, lookUp_text, h]
  rfl

/-- The ids of a registry are in order. -/
theorem pairwise_ids (r : Registry) :
  r.ids.Pairwise (· ≤ ·)
  := by
  have htrans : ∀ a b c : String, decide (a ≤ b) → decide (b ≤ c) → decide (a ≤ c) := by
    intro a b c hab hbc
    exact decide_eq_true ((of_decide_eq_true hab).trans (of_decide_eq_true hbc))
  have htotal : ∀ a b : String, decide (a ≤ b) || decide (b ≤ a) := by
    intro a b
    simpa using le_total a b
  have hsorted := List.pairwise_mergeSort htrans htotal (r.datasets.map Prod.fst)
  exact hsorted.imp of_decide_eq_true

/-! ### Values -/

/-- The values of a table in which an id is set, together with the value that it had. -/
theorem perm_put (id : String) (value : α) (table : List (String × α)) :
  ((put id value table).map Prod.snd ++ (table.lookup id).toList).Perm
    (value :: table.map Prod.snd)
  := by
  induction table with
  | nil => exact .refl _
  | cons item rest ih =>
    obtain ⟨i, v⟩ := item
    by_cases hi : i = id
    · subst hi
      simp only [put, if_true, List.map_cons, List.lookup_cons_self, Option.toList_some,
        List.cons_append]
      exact (List.perm_append_singleton v _).cons value
    · have hne : (id == i) = false := beq_false_of_ne fun h => hi h.symm
      simp only [put, hi, if_false, List.map_cons, List.lookup_cons, hne, List.cons_append]
      exact (ih.cons v).trans (.swap value v _)

/-- The values of a table are the one of an id and those that stay when it is taken out. -/
theorem perm_filter (h : (table.map Prod.fst).Nodup) (id : String) :
  (table.map Prod.snd).Perm
    ((table.lookup id).toList ++ (table.filter fun item => item.1 != id).map Prod.snd)
  := by
  induction table with
  | nil => exact .refl _
  | cons item rest ih =>
    obtain ⟨i, v⟩ := item
    obtain ⟨hi, hrest⟩ := List.nodup_cons.mp h
    by_cases hid : i = id
    · subst hid
      have hkeep : rest.filter (fun item => item.1 != i) = rest := by
        apply List.filter_eq_self.mpr
        intro item hitem
        have hmem : item.1 ∈ rest.map Prod.fst := List.mem_map_of_mem hitem
        have hne : item.1 ≠ i := fun heq => hi (heq ▸ hmem)
        simpa using hne
      simp [hkeep]
    · have hne : (id == i) = false := beq_false_of_ne fun h => hid h.symm
      have hkeep : (i != id) = true := by simpa using hid
      simp only [List.map_cons, List.lookup_cons, hne, List.filter_cons, hkeep, if_true]
      exact ((ih hrest).cons v).trans List.perm_middle.symm

end Registry

end GridUnion
