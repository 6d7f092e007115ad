import Opslane.Lib.Table

/-!
# Maps in insertion order

A key keeps the place it was first set at, and its value is the last one set.
-/

universe u v

abbrev EntryMap (κ : Type u) (α : Type v) := Table (Prod.fst : κ × α → κ)

namespace EntryMap

variable {κ : Type u} {α : Type v} [DecidableEq κ]

/-- The rows of the table stand latest first. -/
def entries (m : EntryMap κ α) : List (κ × α) := m.rows.reverse

def keys (m : EntryMap κ α) : List κ := m.entries.map Prod.fst

def values (m : EntryMap κ α) : List α := m.entries.map Prod.snd

def get? (m : EntryMap κ α) (k : κ) : Option α := (m.find? k).map Prod.snd

def set (m : EntryMap κ α) (k : κ) (v : α) : EntryMap κ α :=
  m.upsert (k, v) (fun e => (e.1, v)) fun _ => rfl

def delete (m : EntryMap κ α) (k : κ) : EntryMap κ α := m.deleteWhere fun e => e.1 = k

@[simp] theorem get?_empty (k : κ) : get? (Table.empty : EntryMap κ α) k = none := rfl

theorem get?_set (m : EntryMap κ α) (k j : κ) (v : α) :
    get? (set m k v) j = if j = k then some v else get? m j := by
  rw [get?, set, Table.find?_upsert]
  by_cases own : j = k
  · rw [if_pos own, if_pos own]
    cases m.find? j <;> rfl
  · rw [if_neg own, if_neg own, get?]

theorem get?_delete (m : EntryMap κ α) (k j : κ) :
    get? (delete m k) j = if j = k then none else get? m j := by
  rw [get?, delete, Table.find?_deleteWhere]
  cases found : m.find? j with
  | none => simp [get?, found]
  | some e =>
    obtain ⟨i, v⟩ := e
    obtain rfl : i = j := Table.key_of_find? found
    by_cases own : i = k <;> simp [get?, found, own]

theorem mem_entries (m : EntryMap κ α) (k : κ) (v : α) : (k, v) ∈ entries m ↔ get? m k = some v := by
  rw [entries, List.mem_reverse, get?, Option.map_eq_some_iff]
  constructor
  · intro member
    exact ⟨(k, v), m.find?_key member, rfl⟩
  · rintro ⟨⟨j, w⟩, found, rfl⟩
    obtain rfl : j = k := Table.key_of_find? found
    exact Table.mem_of_find? found

theorem mem_keys (m : EntryMap κ α) (k : κ) : k ∈ keys m ↔ ∃ v, get? m k = some v := by
  rw [keys, List.mem_map]
  constructor
  · rintro ⟨⟨j, v⟩, member, rfl⟩
    exact ⟨v, (mem_entries m _ v).mp member⟩
  · rintro ⟨v, found⟩
    exact ⟨(k, v), (mem_entries m k v).mpr found, rfl⟩

theorem mem_values (m : EntryMap κ α) (v : α) : v ∈ values m ↔ ∃ k, get? m k = some v := by
  rw [values, List.mem_map]
  constructor
  · rintro ⟨⟨k, w⟩, member, rfl⟩
    exact ⟨k, (mem_entries m k w).mp member⟩
  · rintro ⟨k, found⟩
    exact ⟨(k, v), (mem_entries m k v).mpr found, rfl⟩

omit [DecidableEq κ] in
theorem length_keys (m : EntryMap κ α) : m.keys.length = m.entries.length := by
  rw [keys, List.length_map]

theorem get?_eq_none_iff (m : EntryMap κ α) (k : κ) : get? m k = none ↔ k ∉ keys m := by
  rw [mem_keys, Option.eq_none_iff_forall_ne_some]
  exact ⟨fun none_ ⟨v, found⟩ => none_ v found, fun absent v found => absent ⟨v, found⟩⟩

omit [DecidableEq κ] in
theorem nodup_keys (m : EntryMap κ α) : m.keys.Nodup := by
  rw [keys, entries, List.map_reverse, List.nodup_reverse]
  exact m.unique

theorem keys_set (m : EntryMap κ α) (k : κ) (v : α) :
    keys (set m k v) = if (get? m k).isSome then keys m else keys m ++ [k] := by
  have present : (get? m k).isSome = (m.find? k).isSome := Option.isSome_map
  rw [present, set, Table.upsert]
  cases inserted : m.insert? (k, v) with
  | some m' =>
    obtain ⟨free, rows⟩ := Table.insert?_spec inserted
    rw [free, Option.isSome_none, if_neg (by simp), keys, entries, rows]
    simp [keys, entries]
  | none =>
    obtain ⟨old, found⟩ := (Table.insert?_eq_none_iff m (k, v)).mp inserted
    rw [found, Option.isSome_some, if_pos rfl, keys, keys, entries, entries, List.map_reverse,
      List.map_reverse]
    refine congrArg List.reverse ?_
    rw [Table.updateKey, Table.updateWhere, List.map_map]
    refine List.map_congr_left fun e _ => ?_
    simp only [Function.comp]
    split <;> rfl

theorem keys_delete (m : EntryMap κ α) (k : κ) : keys (delete m k) = (keys m).filter (· ≠ k) := by
  rw [keys, keys, entries, entries, delete, Table.deleteWhere, List.map_reverse, List.map_reverse,
    List.filter_reverse, List.filter_map]
  simp [Function.comp_def]

end EntryMap
