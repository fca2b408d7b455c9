import GridUnion.Value
import Mathlib.Data.List.Basic

/-!
# Parts of values

What is found in a value once it is opened: the items of a list and the values under the keys of a
mapping.  A whole number with too many digits in such a part is one of the value itself.
-/

namespace GridUnion.Value

/-- The value under a key of a mapping. -/
def under? (key : String) (v : Value) : Option Value :=
  match v.opened with
  | dict entries => lookup? (text key) entries
  | _ => none

theorem under?_of_opened {v : Value} {entries : List (Value × Value)} (h : v.opened = dict entries)
    (key : String) :
  v.under? key = lookup? (text key) entries
  := by
  simp only [under?, h]

theorem under?_of_not_dict {v : Value} (h : ∀ entries, v.opened ≠ dict entries) (key : String) :
  v.under? key = none
  := by
  unfold under?
  split
  · next entries hentries => exact absurd hentries (h entries)
  · rfl

theorem exists_entries_of_under? {v w : Value} {key : String} (h : v.under? key = some w) :
  ∃ entries, v.opened = dict entries ∧ lookup? (text key) entries = some w
  := by
  unfold under? at h
  split at h
  · next entries hentries => exact ⟨entries, hentries, h⟩
  · cases h

/-! ### Long numbers -/

theorem anyTooLong_eq_true_iff {items : List Value} :
  anyTooLong items ↔ ∃ v ∈ items, v.isTooLong
  := by
  induction items with
  | nil => simp [anyTooLong]
  | cons v items ih => simp [anyTooLong, ih]

theorem anyEntryTooLong_eq_true_iff {entries : List (Value × Value)} :
  anyEntryTooLong entries ↔ ∃ e ∈ entries, e.1.isTooLong ∨ e.2.isTooLong
  := by
  induction entries with
  | nil => simp [anyEntryTooLong]
  | cons e entries ih => simp [anyEntryTooLong, ih, or_assoc]

mutual

/-- A long number in a value with another one put into it is from one of the two. -/
theorem isTooLong_of_replaceEnclosing (depth : Nat) (v : Value) :
    (w : Value) → (replaceEnclosing depth v w).isTooLong →
  v.isTooLong ∨ w.isTooLong
  | .enclosing d isMapping => by
    rw [replaceEnclosing]
    split
    · exact .inl
    · exact .inr
  | .list items => by
    rw [replaceEnclosing, isTooLong, isTooLong]
    exact anyTooLong_of_replaceInItems (depth + 1) v items
  | .tuple items => by
    rw [replaceEnclosing, isTooLong, isTooLong]
    exact anyTooLong_of_replaceInItems (depth + 1) v items
  | .dict entries => by
    rw [replaceEnclosing, isTooLong, isTooLong]
    exact anyEntryTooLong_of_replaceInEntries (depth + 1) v entries
  | .null | .bool _ | .int _ | .real _ | .text _ | .bytes _ | .date _ _ _ | .moment _ | .set _
  | .scalar _ | .block _ | .nan _ => by
    simp only [replaceEnclosing]
    exact .inr

theorem anyTooLong_of_replaceInItems (depth : Nat) (v : Value) :
    (items : List Value) → anyTooLong (replaceInItems depth v items) →
  v.isTooLong ∨ anyTooLong items
  | [] => .inr
  | x :: xs => by
    simp only [replaceInItems, anyTooLong, Bool.or_eq_true]
    rintro (h | h)
    · exact (isTooLong_of_replaceEnclosing depth v x h).imp_right .inl
    · exact (anyTooLong_of_replaceInItems depth v xs h).imp_right .inr

theorem anyEntryTooLong_of_replaceInEntries (depth : Nat) (v : Value) :
    (entries : List (Value × Value)) → anyEntryTooLong (replaceInEntries depth v entries) →
  v.isTooLong ∨ anyEntryTooLong entries
  | [] => .inr
  | (k, x) :: es => by
    simp only [replaceInEntries, anyEntryTooLong, Bool.or_eq_true]
    rintro ((h | h) | h)
    · exact .inr (.inl (.inl h))
    · exact (isTooLong_of_replaceEnclosing depth v x h).imp_right fun h => .inl (.inr h)
    · exact (anyEntryTooLong_of_replaceInEntries depth v es h).imp_right .inr

end

theorem isTooLong_of_opened {v : Value} (h : v.opened.isTooLong) :
  v.isTooLong
  := by
  unfold opened at h
  split at h
  · exact (anyTooLong_of_replaceInItems 0 _ _ h).elim id id
  · exact (anyTooLong_of_replaceInItems 0 _ _ h).elim id id
  · exact (anyEntryTooLong_of_replaceInEntries 0 _ _ h).elim id id
  · exact h

theorem isTooLong_of_item {v w : Value} {items : List Value} (hitems : v.opened = list items)
    (hw : w ∈ items) (h : w.isTooLong) :
  v.isTooLong
  := by
  apply isTooLong_of_opened
  rw [hitems]
  exact anyTooLong_eq_true_iff.mpr ⟨w, hw, h⟩

theorem isTooLong_of_key {v : Value} {entries : List (Value × Value)} {e : Value × Value}
    (hentries : v.opened = dict entries) (he : e ∈ entries) (h : e.1.isTooLong) :
  v.isTooLong
  := by
  apply isTooLong_of_opened
  rw [hentries]
  exact anyEntryTooLong_eq_true_iff.mpr ⟨e, he, .inl h⟩

theorem isTooLong_of_under? {v w : Value} {key : String} (hw : v.under? key = some w)
    (h : w.isTooLong) :
  v.isTooLong
  := by
  obtain ⟨entries, hentries, hlookup⟩ := exists_entries_of_under? hw
  obtain ⟨e, he, rfl⟩ := Option.map_eq_some_iff.mp hlookup
  apply isTooLong_of_opened
  rw [hentries]
  exact anyEntryTooLong_eq_true_iff.mpr ⟨e, List.mem_of_find?_eq_some he, .inr h⟩

/-- A part of a value without long numbers has none. -/
theorem isTooLong_eq_false_of_part {v w : Value} (hpart : w.isTooLong → v.isTooLong)
    (h : v.isTooLong = false) :
  w.isTooLong = false
  := by
  rw [Bool.eq_false_iff] at h ⊢
  exact mt hpart h

/-! ### Lists -/

/-- A list counts as something exactly if it has items. -/
theorem isSomething_iff_of_opened {v : Value} {items : List Value} (h : v.opened = list items) :
  v.isSomething ↔ items ≠ []
  := by
  unfold opened at h
  split at h
  · next xs =>
    obtain rfl := list.inj h
    cases xs <;> simp [isSomething, replaceInItems]
  · cases h
  · cases h
  · next hlist _ _ => exact absurd h (hlist items)

end GridUnion.Value
