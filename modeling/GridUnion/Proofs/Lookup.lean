import Mathlib.Data.List.Nodup

/-!
# Lookup

What is found under a key is in the list, and is the only such item if the keys differ.
-/

namespace GridUnion

/-- Items at the same position are paired. -/
theorem getElem_mem_zip {α β : Type} {xs : List α} {ys : List β} {i : Nat} (hx : i < xs.length)
    (hy : i < ys.length) :
  (xs[i], ys[i]) ∈ xs.zip ys
  := by
  have hlength : i < (xs.zip ys).length := by
    rw [List.length_zip]
    omega
  rw [← List.getElem_zip]
  exact List.getElem_mem hlength

variable {α β : Type} [BEq α] [LawfulBEq α] {l : List (α × β)} {k : α} {v : β}

theorem mem_of_lookup_eq_some (h : l.lookup k = some v) :
  (k, v) ∈ l
  := by
  obtain ⟨before, after, rfl, -⟩ := List.lookup_eq_some_iff.mp h
  simp

/-- If keys differ, exactly the item with a key is found under it. -/
theorem lookup_eq_some_iff_mem (hkeys : (l.map Prod.fst).Nodup) :
  l.lookup k = some v ↔ (k, v) ∈ l
  := by
  constructor
  · exact mem_of_lookup_eq_some
  · intro hmem
    rcases hlookup : l.lookup k with _ | w
    · have hno := List.lookup_eq_none_iff.mp hlookup (k, v) hmem
      simp at hno
    · have hw := mem_of_lookup_eq_some hlookup
      have heq := List.inj_on_of_nodup_map hkeys hw hmem rfl
      rw [(Prod.mk.inj heq).2]

theorem lookup_map_of_mem (f : α → β) {keys : List α} (h : k ∈ keys) :
  (keys.map fun key => (key, f key)).lookup k = some (f k)
  := by
  rcases hlookup : (keys.map fun key => (key, f key)).lookup k with _ | w
  · have hno := List.lookup_eq_none_iff.mp hlookup (k, f k) (List.mem_map_of_mem h)
    simp at hno
  · obtain ⟨key, -, heq⟩ := List.mem_map.mp (mem_of_lookup_eq_some hlookup)
    obtain ⟨rfl, rfl⟩ := Prod.mk.inj heq
    rfl

theorem lookup_isSome_iff :
  (l.lookup k).isSome ↔ k ∈ l.map Prod.fst
  := by
  constructor
  · intro hsome
    obtain ⟨v, hv⟩ := Option.isSome_iff_exists.mp hsome
    apply List.mem_map_of_mem (mem_of_lookup_eq_some hv)
  · intro hmem
    obtain ⟨p, hp, rfl⟩ := List.mem_map.mp hmem
    rcases hlookup : l.lookup p.1 with _ | v
    · have hno := List.lookup_eq_none_iff.mp hlookup p hp
      simp at hno
    · rfl

theorem isEmpty_iff_lookup :
  l.isEmpty ↔ ∀ k, l.lookup k = none
  := by
  rcases l with _ | ⟨⟨k, v⟩, rest⟩
  · simp
  · simp only [List.isEmpty_cons, Bool.false_eq_true, false_iff, not_forall]
    use k
    simp

end GridUnion
