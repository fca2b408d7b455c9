import GridUnion.Catalogue.File
import GridUnion.Proofs.Success
import GridUnion.Proofs.Value
import Mathlib.Data.List.Nodup

/-!
# Catalogues that are accepted

What a catalogue is made of, told by predicates on the value in its file.  A catalogue is read
exactly if all its parts are there and its ids differ; each entry that is read tells what the value
does, in the order of the file.
-/

namespace GridUnion

/-! ### What a catalogue is made of -/

/-- A child is a path alone or a mapping with a path. -/
def Value.IsChild (v : Value) : Prop :=
  (∃ path, v.opened = .text path) ∨ ∃ path, v.under? "path" = some path

/-- An entry is a mapping with an id and a list of one child or more. -/
def Value.IsEntry (v : Value) : Prop :=
  (∃ id, v.under? "dataset_id" = some id) ∧
    ∃ children items, v.under? "children" = some children ∧ children.opened = .list items ∧
      items ≠ [] ∧ ∀ c ∈ items, c.IsChild

/-- The id of an entry as plain text. -/
def Value.idText (v : Value) : String := ((v.under? "dataset_id").getD .null).plain

/-- A catalogue is a mapping with a list of entries whose ids differ as plain text. -/
def Value.IsCatalogue (v : Value) : Prop :=
  ∃ datasets items, v.under? "datasets" = some datasets ∧ datasets.opened = .list items ∧
    (∀ e ∈ items, e.IsEntry) ∧ (items.map Value.idText).Nodup

/-- What is said of a child: its path, and its name if it has one. -/
def ChildEntry.Tells (c : ChildEntry) (v : Value) : Prop :=
  (v.opened = .text c.path ∧ c.name = .null) ∨
    ∃ path, v.under? "path" = some path ∧ c.path = path.plain ∧
      c.name = (v.under? "name").getD .null

/-- What is said of a dataset whose children are looked for in a directory. -/
structure DatasetEntry.Tells (e : DatasetEntry) (base : Option String) (v : Value) : Prop where
  id : e.id = v.idText
  title : e.title = (v.under? "title").getD .null
  axis : e.axis = (v.under? "axis").getD .null
  base : e.base = base
  children : ∃ children items, v.under? "children" = some children ∧
    children.opened = .list items ∧ List.Forall₂ (fun item c => c.Tells item) items e.children

/-! ### Texts -/

theorem Value.entryText_of_short {v : Value} (h : v.isTooLong = false) :
  v.entryText = .ok v.plain
  := by
  simp [entryText, h]

/-- Only a long number cannot be put into text. -/
theorem Value.entryText_eq_error_iff {v : Value} {f : Failure} :
  v.entryText = .error f ↔ v.isTooLong ∧ f = .numberTooLong
  := by
  rw [entryText]
  split
  · next hlong => simp only [Except.error.injEq, hlong, true_and, eq_comm]
  · next hshort => simp only [reduceCtorEq, hshort, false_and]

/-- A reading of a value fails as a wrong configuration, or because of a long number in it. -/
def IsRefusal (v : Value) (f : Failure) : Prop :=
  f.kind = .configuration ∨ v.isTooLong ∧ f = .numberTooLong

theorem IsRefusal.of_part {v w : Value} {f : Failure} (h : IsRefusal w f)
    (hpart : w.isTooLong → v.isTooLong) :
  IsRefusal v f
  := by
  exact h.imp_right fun ⟨hlong, hf⟩ => ⟨hpart hlong, hf⟩

theorem Value.isRefusal_of_entryText {v : Value} {f : Failure} (h : v.entryText = .error f) :
  IsRefusal v f
  := by
  exact .inr (entryText_eq_error_iff.mp h)

/-! ### Children -/

namespace ChildEntry

variable {id : String} {v : Value}

/-- A child is read as what is said of it. -/
theorem ofValue_eq_ok_iff (hshort : v.isTooLong = false) {c : ChildEntry} :
  ofValue id v = .ok c ↔ c.Tells v
  := by
  obtain ⟨path, name⟩ := c
  unfold ofValue
  split
  · next s hs =>
    have hnone := Value.under?_of_not_dict (v := v) (by simp [hs]) "path"
    simp [Tells, hs, hnone, eq_comm]
  · next entries hentries =>
    simp only [← Value.under?_of_opened hentries]
    split
    · next w hw =>
      have hw' := Value.isTooLong_eq_false_of_part (Value.isTooLong_of_under? hw) hshort
      simp [Tells, hentries, hw, Value.entryText_of_short hw', eq_comm]
    · next hnone => simp [Tells, hentries, hnone]
  · next htext hdict =>
    have hnone := Value.under?_of_not_dict hdict "path"
    have hpath : v.opened ≠ .text path := htext path
    simp [Tells, hnone, hpath]

/-- A child is refused as a wrong configuration, or because of a long number. -/
theorem isRefusal_of_ofValue {f : Failure} (h : ofValue id v = .error f) :
  IsRefusal v f
  := by
  unfold ofValue at h
  split at h
  · cases h
  · next entries hentries =>
    simp only [← Value.under?_of_opened hentries] at h
    split at h
    · next w hw =>
      obtain h | ⟨_, -, h⟩ := bind_eq_error_iff.mp h
      · exact (Value.isRefusal_of_entryText h).of_part (Value.isTooLong_of_under? hw)
      · cases h
    · obtain rfl := Except.error.inj h
      exact .inl rfl
  · obtain rfl := Except.error.inj h
    exact .inl rfl

/-- Children are read one by one. -/
theorem mapM_ofValue_eq_ok_iff {items : List Value} (hshort : ∀ i ∈ items, i.isTooLong = false)
    {cs : List ChildEntry} :
  items.mapM (ofValue id) = .ok cs ↔ List.Forall₂ (fun item c => c.Tells item) items cs
  := by
  exact mapM_eq_ok_iff_of fun i hi c => ofValue_eq_ok_iff (hshort i hi)

theorem exists_tells_iff :
  (∃ c : ChildEntry, c.Tells v) ↔ v.IsChild
  := by
  constructor
  · rintro ⟨c, ⟨hpath, -⟩ | ⟨path, hpath, -⟩⟩
    · exact .inl ⟨_, hpath⟩
    · exact .inr ⟨_, hpath⟩
  · rintro (⟨path, hpath⟩ | ⟨path, hpath⟩)
    · exact ⟨⟨path, .null⟩, .inl ⟨hpath, rfl⟩⟩
    · exact ⟨⟨path.plain, (v.under? "name").getD .null⟩, .inr ⟨path, hpath, rfl, rfl⟩⟩

end ChildEntry

/-! ### Entries -/

namespace DatasetEntry

variable {base : Option String} {v : Value}

/-- The keys without a meaning are found unless there is a long number in one. -/
theorem exists_unknownKeys {entries : List (Value × Value)} (h : v.opened = .dict entries)
    (hshort : v.isTooLong = false) :
  ∃ keys, unknownKeys entries = .ok keys
  := by
  simp only [unknownKeys, bind_eq_ok_iff, pure_eq_ok_iff]
  have hkey : ∀ e ∈ entries, e.1.entryText = .ok e.1.plain := by
    intro e he
    have hpart := Value.isTooLong_of_key h he
    exact Value.entryText_of_short (Value.isTooLong_eq_false_of_part hpart hshort)
  exact ⟨_, _, mapM_eq_ok_map fun e he => hkey e (List.mem_of_mem_filter he), rfl⟩

theorem isRefusal_of_unknownKeys {entries : List (Value × Value)} (h : v.opened = .dict entries)
    {f : Failure} (hkeys : unknownKeys entries = .error f) :
  IsRefusal v f
  := by
  obtain hkeys | ⟨_, -, hkeys⟩ := bind_eq_error_iff.mp hkeys
  · obtain ⟨e, he, hf⟩ := exists_error_of_mapM hkeys
    exact (Value.isRefusal_of_entryText hf).of_part
      (Value.isTooLong_of_key h (List.mem_of_mem_filter he))
  · cases hkeys

/-- The result of reading an entry, without the notes. -/
theorem result_ofValue {entries : List (Value × Value)} (h : v.opened = .dict entries) :
  (ofValue v base).result = match v.under? "dataset_id" with
    | none => .error .entryWithoutId
    | some id => id.entryText >>= fun id =>
      let children := (v.under? "children").getD .null
      if !children.isSomething then .error (.entryWithoutChildren id)
      else match children.opened with
        | .list items => unknownKeys entries >>= fun _ =>
          items.mapM (ChildEntry.ofValue id) >>= fun children =>
            .ok ⟨id, children, (v.under? "title").getD .null, (v.under? "axis").getD .null, base⟩
        | _ => .error (.entryChildrenNotAList id)
  := by
  simp only [ofValue, h, ← Value.under?_of_opened h]
  rcases v.under? "dataset_id" with _ | id
  · rfl
  · simp only [Noted.result_bind, Noted.result_liftM]
    congr 1
    funext id
    split
    · rfl
    · cases ((v.under? "children").getD .null).opened with
      | list items =>
        simp only [Noted.result_bind, Noted.result_liftM]
        congr 1
        funext keys
        split
        · simp only [Noted.result_bind, Noted.result_mapM, Noted.result_liftM]
          rfl
        · simp only [Noted.result_bind, Noted.result_mapM, Noted.result_liftM]
          rfl
      | _ => rfl

theorem result_ofValue_of_not_dict (h : ∀ entries, v.opened ≠ .dict entries) :
  (ofValue v base).result = .error (if v.isTooLong then .numberTooLong else .entryNotAMapping v)
  := by
  unfold ofValue
  split
  · next entries hentries => exact absurd hentries (h entries)
  · rfl

/-- The items of the list of children of a value without long numbers have none. -/
theorem isTooLong_eq_false_of_child {children : Value} {items : List Value}
    (hshort : v.isTooLong = false) (hchildren : v.under? "children" = some children)
    (hitems : children.opened = .list items) :
    ∀ i ∈ items,
  i.isTooLong = false
  := by
  intro i hi
  exact Value.isTooLong_eq_false_of_part (Value.isTooLong_of_item hitems hi)
    (Value.isTooLong_eq_false_of_part (Value.isTooLong_of_under? hchildren) hshort)

/-- An entry that is read has an id and children, and is what is said of it. -/
theorem isEntry_of_result_ofValue (hshort : v.isTooLong = false) {e : DatasetEntry}
    (h : (ofValue v base).result = .ok e) :
  v.IsEntry ∧ e.Tells base v
  := by
  by_cases hdict : ∃ entries, v.opened = .dict entries
  · obtain ⟨entries, hentries⟩ := hdict
    rw [result_ofValue hentries] at h
    rcases hid : v.under? "dataset_id" with _ | id
    · simp [hid] at h
    rcases hchildren : v.under? "children" with _ | children
    · simp [hid, hchildren, Value.isSomething] at h
    simp only [hid, hchildren, Option.getD_some] at h
    obtain ⟨text, htext, h⟩ := bind_eq_ok_iff.mp h
    rw [Value.entryText_of_short
      (Value.isTooLong_eq_false_of_part (Value.isTooLong_of_under? hid) hshort)] at htext
    obtain rfl := Except.ok.inj htext
    split at h
    · cases h
    · next hsome =>
      split at h
      · next items hitems =>
        obtain ⟨keys, -, h⟩ := bind_eq_ok_iff.mp h
        obtain ⟨cs, hcs, h⟩ := bind_eq_ok_iff.mp h
        obtain rfl := Except.ok.inj h
        have hshorts := isTooLong_eq_false_of_child hshort hchildren hitems
        refine ⟨⟨⟨id, hid⟩, children, items, hchildren, hitems, ?_, ?_⟩,
          ⟨by simp [Value.idText, hid], rfl, rfl, rfl, children, items, hchildren, hitems,
            (ChildEntry.mapM_ofValue_eq_ok_iff hshorts).mp hcs⟩⟩
        · exact (Value.isSomething_iff_of_opened hitems).mp (by simpa using hsome)
        · intro i hi
          obtain ⟨c, -, hc⟩ := exists_mem_of_mapM hcs hi
          exact ChildEntry.exists_tells_iff.mp
            ⟨c, (ChildEntry.ofValue_eq_ok_iff (hshorts i hi)).mp hc⟩
      · cases h
  · rw [result_ofValue_of_not_dict (not_exists.mp hdict)] at h
    cases h

/-- An entry with an id and children is read as what is said of it. -/
theorem result_ofValue_of_isEntry (hshort : v.isTooLong = false) (hentry : v.IsEntry)
    {e : DatasetEntry} (htells : e.Tells base v) :
  (ofValue v base).result = .ok e
  := by
  obtain ⟨⟨id, hid⟩, children, items, hchildren, hitems, hne, -⟩ := hentry
  obtain ⟨entries, hentries, -⟩ := Value.exists_entries_of_under? hid
  obtain ⟨keys, hkeys⟩ := exists_unknownKeys hentries hshort
  obtain ⟨hid', htitle, haxis, hbase, _, _, hchildren', hitems', hread⟩ := htells
  obtain rfl := Option.some.inj (hchildren.symm.trans hchildren')
  obtain rfl := Value.list.inj (hitems.symm.trans hitems')
  have htext := Value.entryText_of_short
    (Value.isTooLong_eq_false_of_part (Value.isTooLong_of_under? hid) hshort)
  have hsome : children.isSomething := (Value.isSomething_iff_of_opened hitems).mpr hne
  have hcs : items.mapM (ChildEntry.ofValue id.plain) = .ok e.children :=
    (ChildEntry.mapM_ofValue_eq_ok_iff
      (isTooLong_eq_false_of_child hshort hchildren hitems)).mpr hread
  have hsame : (⟨id.plain, e.children, (v.under? "title").getD .null,
      (v.under? "axis").getD .null, base⟩ : DatasetEntry) = e := by
    have hplain : id.plain = e.id := by rw [hid', Value.idText, hid, Option.getD_some]
    rw [hplain, ← htitle, ← haxis, ← hbase]
  rw [result_ofValue hentries]
  simp [hid, htext, hchildren, hitems, hsome, hkeys, hcs, hsame]

/-- An entry is read, if it is one, as what is said of it. -/
theorem result_ofValue_eq_ok_iff (hshort : v.isTooLong = false) {e : DatasetEntry} :
  (ofValue v base).result = .ok e ↔ v.IsEntry ∧ e.Tells base v
  := by
  exact ⟨isEntry_of_result_ofValue hshort, fun ⟨h, htells⟩ => result_ofValue_of_isEntry hshort h htells⟩

/-- There is something to be said by every entry. -/
theorem exists_tells_of_isEntry (base : Option String) (h : v.IsEntry) :
  ∃ e : DatasetEntry, e.Tells base v
  := by
  obtain ⟨-, children, items, hchildren, hitems, -, hchild⟩ := h
  obtain ⟨cs, hcs⟩ := exists_forall₂ fun i hi => ChildEntry.exists_tells_iff.mpr (hchild i hi)
  exact ⟨⟨v.idText, cs, (v.under? "title").getD .null, (v.under? "axis").getD .null, base⟩,
    rfl, rfl, rfl, rfl, children, items, hchildren, hitems, hcs⟩

/-- An entry is refused as a wrong configuration, or because of a long number. -/
theorem isRefusal_of_result_ofValue {f : Failure} (h : (ofValue v base).result = .error f) :
  IsRefusal v f
  := by
  by_cases hdict : ∃ entries, v.opened = .dict entries
  · obtain ⟨entries, hentries⟩ := hdict
    rw [result_ofValue hentries] at h
    rcases hid : v.under? "dataset_id" with _ | id
    · simp only [hid] at h
      obtain rfl := Except.error.inj h
      exact .inl rfl
    simp only [hid] at h
    obtain htext | ⟨text, -, h⟩ := bind_eq_error_iff.mp h
    · exact (Value.isRefusal_of_entryText htext).of_part (Value.isTooLong_of_under? hid)
    rcases hchildren : v.under? "children" with _ | children
    · simp only [hchildren] at h
      obtain rfl := Except.error.inj h
      exact .inl rfl
    simp only [hchildren, Option.getD_some] at h
    split at h
    · obtain rfl := Except.error.inj h
      exact .inl rfl
    split at h
    · next items hitems =>
      obtain hkeys | ⟨keys, -, h⟩ := bind_eq_error_iff.mp h
      · exact isRefusal_of_unknownKeys hentries hkeys
      obtain hcs | ⟨cs, -, h⟩ := bind_eq_error_iff.mp h
      · obtain ⟨i, hi, hf⟩ := exists_error_of_mapM hcs
        exact (ChildEntry.isRefusal_of_ofValue hf).of_part fun hlong =>
          Value.isTooLong_of_under? hchildren (Value.isTooLong_of_item hitems hi hlong)
      · cases h
    · obtain rfl := Except.error.inj h
      exact .inl rfl
  · rw [result_ofValue_of_not_dict (not_exists.mp hdict)] at h
    obtain rfl := Except.error.inj h
    split
    · next hlong => exact .inr ⟨hlong, rfl⟩
    · exact .inl rfl

end DatasetEntry

/-! ### Catalogues -/

namespace Catalogue

variable {path : Path} {v : Value}

theorem mem_duplicates_iff {ids : List String} {id : String} :
  id ∈ duplicates ids ↔ 1 < ids.count id
  := by
  rw [duplicates, List.mem_mergeSort, List.mem_eraseDups, List.mem_filter, decide_eq_true_iff,
    and_iff_right_iff_imp]
  intro hcount
  exact List.count_pos_iff.mp (by omega)

/-- No id occurs more than once exactly if the ids differ. -/
theorem isEmpty_duplicates_iff {ids : List String} :
  (duplicates ids).isEmpty ↔ ids.Nodup
  := by
  rw [List.isEmpty_iff, List.eq_nil_iff_forall_not_mem, List.nodup_iff_count_le_one]
  simp only [mem_duplicates_iff, Nat.not_lt]

theorem items_eq_ok_iff {items : List Value} :
  Catalogue.items path v = .ok items
    ↔ ∃ datasets, v.under? "datasets" = some datasets ∧ datasets.opened = .list items
  := by
  unfold Catalogue.items
  split
  · next entries hentries =>
    rw [Value.under?_of_opened hentries]
    split
    · next hnone => simp [hnone]
    · next datasets hdatasets =>
      simp only [hdatasets, Option.some.injEq, exists_eq_left']
      split
      · next vs hvs => simp [hvs]
      · next hlist =>
        have hnot : datasets.opened ≠ .list items := hlist items
        simp [hnot]
  · next hdict =>
    rw [Value.under?_of_not_dict hdict]
    simp

theorem kind_of_items {f : Failure} (h : items path v = .error f) :
  f.kind = .configuration
  := by
  unfold items at h
  split at h
  · split at h
    · obtain rfl := Except.error.inj h
      rfl
    · split at h
      · cases h
      · obtain rfl := Except.error.inj h
        rfl
  · obtain rfl := Except.error.inj h
    rfl

/-- The result of reading the entries one by one, without the notes. -/
theorem result_entries :
  (entries path v).result = items path v >>= fun vs =>
    (vs.mapM fun v => (DatasetEntry.ofValue v (some path.parent.text)).result) >>= fun es =>
      if (es.map DatasetEntry.id).Nodup then .ok es
      else .error (.duplicateIds path.text (duplicates (es.map DatasetEntry.id)))
  := by
  simp only [entries, Noted.result_bind, Noted.result_liftM, Noted.result_mapM]
  congr 1
  funext vs
  congr 1
  funext es
  by_cases hids : (es.map DatasetEntry.id).Nodup
  · simp only [hids, isEmpty_duplicates_iff.mpr hids]
    rfl
  · have hsome := mt isEmpty_duplicates_iff.mp hids
    simp only [hids, Bool.eq_false_iff.mpr hsome]
    rfl

/-- A catalogue is refused as a wrong configuration, or because of a long number. -/
theorem isRefusal_of_result_entries {f : Failure} (h : (entries path v).result = .error f) :
  IsRefusal v f
  := by
  rw [result_entries] at h
  obtain h | ⟨vs, hvs, h⟩ := bind_eq_error_iff.mp h
  · exact .inl (kind_of_items h)
  obtain h | ⟨es, -, h⟩ := bind_eq_error_iff.mp h
  · obtain ⟨w, hw, hf⟩ := exists_error_of_mapM h
    obtain ⟨datasets, hdatasets, hitems⟩ := items_eq_ok_iff.mp hvs
    exact (DatasetEntry.isRefusal_of_result_ofValue hf).of_part fun hlong =>
      Value.isTooLong_of_under? hdatasets (Value.isTooLong_of_item hitems hw hlong)
  split at h
  · cases h
  · obtain rfl := Except.error.inj h
    exact .inl rfl

/-- The ids of the entries that are read differ. -/
theorem nodup_ids_of_result_entries {es : List DatasetEntry}
    (h : (entries path v).result = .ok es) :
  (es.map DatasetEntry.id).Nodup
  := by
  rw [result_entries] at h
  obtain ⟨vs, -, h⟩ := bind_eq_ok_iff.mp h
  obtain ⟨es', -, h⟩ := bind_eq_ok_iff.mp h
  split at h
  · next hids =>
    obtain rfl := Except.ok.inj h
    exact hids
  · cases h

/-- What is said of the datasets of a catalogue, in the order of the file. -/
def Tells (es : List DatasetEntry) (path : Path) (v : Value) : Prop :=
  ∃ datasets items, v.under? "datasets" = some datasets ∧ datasets.opened = .list items ∧
    List.Forall₂ (fun item e => DatasetEntry.Tells e (some path.parent.text) item) items es

/-- The ids that are said of entries are their ids as plain text. -/
theorem map_id_of_tells {base : Option String} {items : List Value} {es : List DatasetEntry}
    (h : List.Forall₂ (fun item e => DatasetEntry.Tells e base item) items es) :
  es.map DatasetEntry.id = items.map Value.idText
  := by
  have hids : List.Forall₂ (· = ·) (items.map Value.idText) (es.map DatasetEntry.id) := by
    rw [List.forall₂_map_left_iff, List.forall₂_map_right_iff]
    exact h.imp fun item e htells => htells.id.symm
  rw [List.forall₂_eq_eq_eq] at hids
  exact hids.symm

/-- A catalogue is read, if it is one, as what is said of its datasets. -/
theorem result_entries_eq_ok_iff (hshort : v.isTooLong = false) {es : List DatasetEntry} :
  (entries path v).result = .ok es ↔ v.IsCatalogue ∧ Tells es path v
  := by
  have hread {datasets : Value} {vs : List Value} (hdatasets : v.under? "datasets" = some datasets)
      (hitems : datasets.opened = .list vs) {es : List DatasetEntry} :
      (vs.mapM fun v => (DatasetEntry.ofValue v (some path.parent.text)).result) = .ok es
        ↔ (∀ v ∈ vs, v.IsEntry)
          ∧ List.Forall₂ (fun v e => DatasetEntry.Tells e (some path.parent.text) v) vs es := by
    rw [← List.forall₂_and_left]
    exact mapM_eq_ok_iff_of fun w hw e => DatasetEntry.result_ofValue_eq_ok_iff
      (Value.isTooLong_eq_false_of_part (Value.isTooLong_of_item hitems hw)
        (Value.isTooLong_eq_false_of_part (Value.isTooLong_of_under? hdatasets) hshort))
  constructor
  · intro h
    have hids := nodup_ids_of_result_entries h
    rw [result_entries] at h
    obtain ⟨vs, hvs, h⟩ := bind_eq_ok_iff.mp h
    obtain ⟨es', hes', h⟩ := bind_eq_ok_iff.mp h
    obtain ⟨datasets, hdatasets, hitems⟩ := items_eq_ok_iff.mp hvs
    split at h
    · obtain rfl := Except.ok.inj h
      obtain ⟨hentries, htells⟩ := (hread hdatasets hitems).mp hes'
      rw [map_id_of_tells htells] at hids
      exact ⟨⟨datasets, vs, hdatasets, hitems, hentries, hids⟩, datasets, vs, hdatasets, hitems,
        htells⟩
    · cases h
  · rintro ⟨⟨datasets, vs, hdatasets, hitems, hentries, hids⟩, _, _, hdatasets', hitems', htells⟩
    obtain rfl := Option.some.inj (hdatasets.symm.trans hdatasets')
    obtain rfl := Value.list.inj (hitems.symm.trans hitems')
    rw [← map_id_of_tells htells] at hids
    rw [result_entries, bind_eq_ok_iff]
    refine ⟨vs, items_eq_ok_iff.mpr ⟨datasets, hdatasets, hitems⟩, ?_⟩
    rw [bind_eq_ok_iff]
    exact ⟨es, (hread hdatasets hitems).mpr ⟨hentries, htells⟩, if_pos hids⟩

/-- There is something to be said of every catalogue. -/
theorem exists_tells_of_isCatalogue (path : Path) (h : v.IsCatalogue) :
  ∃ es, Tells es path v
  := by
  obtain ⟨datasets, items, hdatasets, hitems, hentries, -⟩ := h
  obtain ⟨es, hes⟩ := exists_forall₂ fun i hi =>
    DatasetEntry.exists_tells_of_isEntry (some path.parent.text) (hentries i hi)
  exact ⟨es, datasets, items, hdatasets, hitems, hes⟩

/-! ### Files -/

theorem load_fst_eq_bind (path : String) (s : Session) :
  (load path s).1 = s.files.read (.ofString path) >>= fun bytes =>
    parse (.ofString path) bytes >>= fun v => (entries (.ofString path) v).result
  := by
  simp only [load, Action.bind_fst]
  rfl

/-- A file that can be read is a catalogue exactly if the value in it is. -/
theorem load_fst {s : Session} {path : String} {bytes : List UInt8} {v : Value}
    (hread : s.files.read (.ofString path) = .ok bytes)
    (hparse : parse (.ofString path) bytes = .ok v) :
  (load path s).1 = (entries (.ofString path) v).result
  := by
  rw [load_fst_eq_bind, hread]
  dsimp only [bind, Except.bind]
  rw [hparse]

/-- The entries of a catalogue have ids of their own. -/
theorem nodup_ids_of_load {path : String} {s s' : Session} {es : List DatasetEntry}
    (h : load path s = (.ok es, s')) :
  (es.map DatasetEntry.id).Nodup
  := by
  simp only [load, Action.bind_eq_ok_iff] at h
  obtain ⟨_, _, -, read, _, -, bytes, _, -, v, s₁, -, hentries⟩ := h
  exact nodup_ids_of_result_entries (congrArg Prod.fst hentries)

/-- The value in a file, if no whole number in it is too long, is accepted exactly if it is a
catalogue.  What is read is what is said in the file, entry by entry and child by child, and every
other value is refused as a wrong configuration. -/
theorem load_isCatalogue {path : String} {s : Session} {bytes : List UInt8} {v : Value}
    (hread : s.files.read (.ofString path) = .ok bytes)
    (hparse : parse (.ofString path) bytes = .ok v) (hshort : v.isTooLong = false) :
  ((∃ es, (load path s).1 = .ok es) ↔ v.IsCatalogue)
    ∧ (∀ es, (load path s).1 = .ok es → Tells es (.ofString path) v)
    ∧ ∀ f, (load path s).1 = .error f → f.kind = .configuration
  := by
  rw [load_fst hread hparse]
  simp only [result_entries_eq_ok_iff hshort]
  refine ⟨⟨fun ⟨_, h, _⟩ => h, fun h => ?_⟩, fun es h => h.2, fun f h => ?_⟩
  · obtain ⟨es, hes⟩ := exists_tells_of_isCatalogue (.ofString path) h
    exact ⟨es, h, hes⟩
  · obtain h | ⟨hlong, -⟩ := isRefusal_of_result_entries h
    · exact h
    · rw [hshort] at hlong
      cases hlong

/-- A catalogue with one dataset, whose id is a number and which has a child of either form. -/
def twoForms : List UInt8 :=
  "datasets:\n- dataset_id: 7\n  children: [east, path: west]".toList.map fun c =>
    UInt8.ofNat c.toNat

/-- A session in which there is the catalogue and nothing else. -/
def twoFormsSession : Session :=
  { (default : Session) with files := { (default : Files) with onDisk := [(["plates"], twoForms)] } }

/-- The catalogue is read and told of as it is. -/
theorem load_isCatalogue_twoForms :
  ∃ v es, parse (.ofString "plates") twoForms = .ok v ∧ v.IsCatalogue
    ∧ (load "plates" twoFormsSession).1 = .ok es ∧ Tells es (.ofString "plates") v
    ∧ es.map DatasetEntry.id = ["7"]
    ∧ es.flatMap (fun e => e.children.map ChildEntry.path) = ["east", "west"]
  := by
  have hread : twoFormsSession.files.read (.ofString "plates") = .ok twoForms := rfl
  have hvalue : (parse (.ofString "plates") twoForms).toOption.any (fun v => !v.isTooLong) := by
    decide +kernel
  obtain ⟨v, hv, hshort⟩ := (Option.any_eq_true _ _).mp hvalue
  have hparse := eq_ok_of_toOption hv
  have hentries : (load "plates" twoFormsSession).1.toOption.any fun es =>
      es.map DatasetEntry.id == ["7"]
        && es.flatMap (fun e => e.children.map ChildEntry.path) == ["east", "west"] := by
    decide +kernel
  obtain ⟨es, hes, hsame⟩ := (Option.any_eq_true _ _).mp hentries
  have hload := eq_ok_of_toOption hes
  obtain ⟨haccepts, htells, -⟩ := load_isCatalogue hread hparse (by simpa using hshort)
  simp only [Bool.and_eq_true, beq_iff_eq] at hsame
  exact ⟨v, es, hparse, haccepts.mp ⟨es, hload⟩, hload, htells es hload, hsame⟩

end Catalogue

end GridUnion
