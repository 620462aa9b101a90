import Mathlib.Data.List.Induction
import Mathlib.Data.List.Nodup
import RecordAccess.Keyed

/-!
# Tables without repeated keys

Insertion and removal keep the keys of a table apart. A list of entries with different keys builds the
table that it is. What is found under a key after many insertions is the last value that was inserted under
it.
-/

namespace RecordAccess.Keyed

variable {α : Type} {table : Keyed α} {key : String} {value : α}

@[simp] theorem keys_append (table other : Keyed α) :
    keys (table ++ other) = table.keys ++ other.keys :=
  List.map_append

theorem mem_insert {entry : String × α} (member : entry ∈ table.insert key value) :
    entry = (key, value) ∨ entry ∈ table := by
  induction table with
  | nil => exact .inl (List.mem_singleton.1 member)
  | cons first rest ih =>
    unfold insert at member
    split at member
    · rcases List.mem_cons.1 member with rfl | member
      · exact .inl rfl
      · exact .inr (List.mem_cons_of_mem _ member)
    · rcases List.mem_cons.1 member with rfl | member
      · exact .inr (List.mem_cons_self ..)
      · exact (ih member).imp_right (List.mem_cons_of_mem _)

theorem insert_of_not_mem (absent : key ∉ table.keys) :
    table.insert key value = table ++ [(key, value)] := by
  induction table with
  | nil => rfl
  | cons first rest ih =>
    simp only [keys, List.map_cons, List.mem_cons, not_or] at absent
    rw [insert, if_neg fun same => absent.1 same.symm, ih absent.2]
    rfl

/-- A key that is there keeps its place. -/
theorem keys_insert_of_mem (present : key ∈ table.keys) :
    (table.insert key value).keys = table.keys := by
  induction table with
  | nil => cases present
  | cons first rest ih =>
    by_cases same : first.1 = key
    · rw [insert, if_pos same]
      simp [keys, same]
    · have later : key ∈ keys rest := by
        simpa [keys, Ne.symm same] using present
      rw [insert, if_neg same]
      exact congrArg (first.1 :: ·) (ih later)

theorem nodup_insert (nodup : table.keys.Nodup) : (table.insert key value).keys.Nodup := by
  by_cases present : key ∈ table.keys
  · rwa [keys_insert_of_mem present]
  · rw [insert_of_not_mem present, keys_append]
    refine List.nodup_append.2 ⟨nodup, List.nodup_cons.2 ⟨List.not_mem_nil, List.nodup_nil⟩, ?_⟩
    rintro other member last same rfl
    cases List.mem_singleton.1 same
    exact present member

/-- An entry of a table that a list has been inserted into. -/
theorem mem_insertAll {entries : List (String × α)} {entry : String × α}
    (member : entry ∈ table.insertAll entries) : entry ∈ table ∨ entry ∈ entries := by
  induction entries generalizing table with
  | nil => exact .inl member
  | cons first rest ih =>
    rcases ih member with earlier | later
    · rcases mem_insert earlier with rfl | old
      · exact .inr (List.mem_cons_self ..)
      · exact .inl old
    · exact .inr (List.mem_cons_of_mem _ later)

theorem nodup_insertAll (nodup : table.keys.Nodup) (entries : List (String × α)) :
    (table.insertAll entries).keys.Nodup := by
  induction entries generalizing table with
  | nil => exact nodup
  | cons first rest ih => exact ih (nodup_insert nodup)

theorem insertAll_of_nodup {entries : List (String × α)}
    (nodup : (keys (table ++ entries)).Nodup) : table.insertAll entries = table ++ entries := by
  induction entries generalizing table with
  | nil => exact (List.append_nil table).symm
  | cons first rest ih =>
    have absent : first.1 ∉ table.keys := by
      intro member
      rw [keys_append] at nodup
      exact (List.nodup_append.1 nodup).2.2 _ member first.1 (List.mem_cons_self ..) rfl
    have moved : table ++ first :: rest = (table ++ [first]) ++ rest := by simp
    change (table.insert first.1 first.2).insertAll rest = _
    rw [insert_of_not_mem absent, moved]
    exact ih (moved ▸ nodup)

theorem mem_ofList {entries : List (String × α)} {entry : String × α}
    (member : entry ∈ ofList entries) : entry ∈ entries :=
  (mem_insertAll member).resolve_left List.not_mem_nil

theorem nodup_ofList (entries : List (String × α)) : (ofList entries).keys.Nodup :=
  @nodup_insertAll _ [] List.nodup_nil entries

theorem ofList_of_nodup {entries : List (String × α)} (nodup : (keys entries).Nodup) :
    ofList entries = entries :=
  insertAll_of_nodup (by simpa using nodup)

/-! ## What is found -/

theorem mem_keys_iff : key ∈ table.keys ↔ ∃ value, table.find? key = some value := by
  induction table with
  | nil => simp [keys]
  | cons first rest ih =>
    by_cases same : first.1 = key
    · simp [keys, find?, same]
    · rw [find?, if_neg same, ← ih]
      simp [keys, Ne.symm same]

theorem mem_of_find? (found : table.find? key = some value) : (key, value) ∈ table := by
  induction table with
  | nil => cases found
  | cons first rest ih =>
    unfold find? at found
    split at found
    · next same =>
      cases found
      exact same ▸ List.mem_cons_self ..
    · exact List.mem_cons_of_mem _ (ih found)

theorem find?_eq_some_of_mem (nodup : table.keys.Nodup) (member : (key, value) ∈ table) :
    table.find? key = some value := by
  induction table with
  | nil => cases member
  | cons first rest ih =>
    obtain ⟨fresh, others⟩ := List.nodup_cons.1 nodup
    rcases List.mem_cons.1 member with rfl | later
    · exact if_pos rfl
    · have other : first.1 ≠ key := fun same =>
        fresh (same ▸ List.mem_map_of_mem later)
      rw [find?, if_neg other]
      exact ih others later

theorem find?_eq_some_iff (nodup : table.keys.Nodup) :
    table.find? key = some value ↔ (key, value) ∈ table :=
  ⟨mem_of_find?, find?_eq_some_of_mem nodup⟩

theorem nodup_filter (nodup : table.keys.Nodup) (p : String × α → Bool) :
    (keys (List.filter p table)).Nodup :=
  nodup.sublist (List.filter_sublist.map _)

/-- Of some entries, those are found that were found before. -/
theorem find?_filter (nodup : table.keys.Nodup) (p : α → Bool) (key : String) :
    find? (List.filter (fun entry => p entry.2) table) key = (table.find? key).filter p := by
  ext value
  rw [find?_eq_some_iff (nodup_filter nodup _), List.mem_filter, Option.filter_eq_some_iff,
    find?_eq_some_iff nodup]

theorem find?_reverse (nodup : table.keys.Nodup) (key : String) :
    find? (List.reverse table) key = table.find? key := by
  have reversed : (keys (List.reverse table)).Nodup := by
    rw [keys, List.map_reverse]
    exact List.nodup_reverse.2 nodup
  ext value
  rw [find?_eq_some_iff reversed, List.mem_reverse, find?_eq_some_iff nodup]

/-- The last entry under a key is the one that is found after all have been inserted. -/
theorem find?_insertAll (table : Keyed α) (entries : List (String × α)) (key : String) :
    (table.insertAll entries).find? key = (find? entries.reverse key).or (table.find? key) := by
  induction entries using List.reverseRecOn with
  | nil => rfl
  | append_singleton entries last ih =>
    have stepped : table.insertAll (entries ++ [last]) =
        (table.insertAll entries).insert last.1 last.2 := List.foldl_append
    rw [stepped, List.reverse_append, List.reverse_singleton, List.singleton_append, find?]
    split
    · next same => rw [← same, find?_insert_self, Option.some_or]
    · next other => rw [find?_insert_of_ne _ _ other, ih]

/-! ## Removal -/

theorem keys_erase (table : Keyed α) (key : String) : (table.erase key).keys = table.keys.erase key := by
  induction table with
  | nil => rfl
  | cons first rest ih =>
    by_cases same : first.1 = key
    · simp [keys, erase, same]
    · simp only [keys, erase, same, if_false, List.map_cons] at ih ⊢
      rw [ih, List.erase_cons_tail (by simpa using same)]

theorem nodup_erase (nodup : table.keys.Nodup) (key : String) : (table.erase key).keys.Nodup := by
  rw [keys_erase]
  exact nodup.erase key

theorem find?_erase_self (nodup : table.keys.Nodup) (key : String) : (table.erase key).find? key = none := by
  have absent : key ∉ (table.erase key).keys := by
    rw [keys_erase]
    exact nodup.not_mem_erase
  rw [mem_keys_iff, not_exists] at absent
  exact Option.eq_none_iff_forall_ne_some.2 absent

theorem find?_erase_of_ne (table : Keyed α) {key other : String} (different : key ≠ other) :
    (table.erase key).find? other = table.find? other := by
  induction table with
  | nil => rfl
  | cons first rest ih =>
    by_cases same : first.1 = key
    · subst same
      simp [erase, find?, different]
    · simp [erase, find?, same, ih]

end RecordAccess.Keyed
