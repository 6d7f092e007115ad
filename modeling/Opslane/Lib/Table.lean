import Mathlib.Data.List.Nodup
import Mathlib.Data.List.Perm.Basic
import Mathlib.Data.Option.Basic

/-!
# Keyed tables

A table is a list of rows whose keys are pairwise distinct: the key constraint
is a field, so a table that violates it cannot be built. The operations are the
statements a relational store runs on one table, and each has one equation that
says what a lookup by key returns afterwards.
-/

universe u v w

/-- Rows with pairwise distinct keys. -/
structure Table {R : Type u} {K : Type v} (key : R → K) where
  rows : List R
  unique : (rows.map key).Nodup

namespace Table

variable {R : Type u} {K : Type v} {key : R → K}

def empty : Table key := ⟨[], by simp⟩

theorem inj (t : Table key) {r r' : R} (member : r ∈ t.rows) (member' : r' ∈ t.rows)
    (same : key r = key r') : r = r' :=
  List.inj_on_of_nodup_map t.unique member member' same

/-- `SELECT ... WHERE p`. -/
def select (t : Table key) (p : R → Bool) : List R := t.rows.filter p

/-- `SELECT EXISTS (... WHERE p)`. -/
def any (t : Table key) (p : R → Bool) : Bool := t.rows.any p

/-- `UPDATE ... SET f WHERE p`; an update never writes the key. -/
def updateWhere (t : Table key) (p : R → Bool) (f : R → R) (frame : ∀ r, key (f r) = key r) :
    Table key where
  rows := t.rows.map fun r => if p r then f r else r
  unique := by
    have same : (t.rows.map fun r => if p r then f r else r).map key = t.rows.map key := by
      rw [List.map_map]
      refine List.map_congr_left fun r _ => ?_
      simp only [Function.comp]
      split
      · exact frame r
      · rfl
    rw [same]
    exact t.unique

/-- `DELETE ... WHERE p`. -/
def deleteWhere (t : Table key) (p : R → Bool) : Table key where
  rows := t.rows.filter fun r => !p r
  unique := t.unique.sublist ((t.rows.filter_sublist).map key)

theorem mem_updateWhere (t : Table key) (p : R → Bool) (f : R → R)
    (frame : ∀ r, key (f r) = key r) (r : R) :
    r ∈ (t.updateWhere p f frame).rows ↔ ∃ old ∈ t.rows, (if p old then f old else old) = r := by
  simp [updateWhere]

theorem updateWhere_none (t : Table key) {p : R → Bool} (f : R → R)
    (frame : ∀ r, key (f r) = key r) (none_ : ∀ r ∈ t.rows, p r = false) :
    t.updateWhere p f frame = t := by
  have same : (t.rows.map fun r => if p r then f r else r) = t.rows := by
    refine (List.map_congr_left fun r member => ?_).trans (List.map_id' t.rows)
    rw [none_ r member]
    rfl
  cases t
  simp only [updateWhere, mk.injEq]
  exact same

section Lookup

variable [DecidableEq K]

/-- The row with key `k`. -/
def find? (t : Table key) (k : K) : Option R := t.rows.find? fun r => key r = k

/-- A plain `INSERT`: refused when the key is taken. -/
def insert? (t : Table key) (r : R) : Option (Table key) :=
  if h : key r ∈ t.rows.map key then none
  else some ⟨r :: t.rows, by simpa using ⟨by simpa using h, t.unique⟩⟩

/-- `INSERT ... ON CONFLICT DO NOTHING`. -/
def insertIgnore (t : Table key) (r : R) : Table key := (t.insert? r).getD t

/-- `UPDATE ... SET f WHERE key = k`. -/
def updateKey (t : Table key) (k : K) (f : R → R) (frame : ∀ r, key (f r) = key r) : Table key :=
  t.updateWhere (fun r => key r = k) f frame

/-- `INSERT ... ON CONFLICT (key) DO UPDATE SET f`. -/
def upsert (t : Table key) (r : R) (f : R → R) (frame : ∀ r, key (f r) = key r) : Table key :=
  match t.insert? r with
  | some inserted => inserted
  | none => t.updateKey (key r) f frame

/-- `INSERT ... SELECT`: refused as a whole when one of the keys is taken. -/
def insertAll? (t : Table key) : List R → Option (Table key)
  | [] => some t
  | r :: rest => (t.insert? r).bind fun t => t.insertAll? rest

theorem find?_eq_some_iff (t : Table key) (k : K) (r : R) :
    t.find? k = some r ↔ r ∈ t.rows ∧ key r = k := by
  constructor
  · intro h
    exact ⟨List.mem_of_find?_eq_some h, by simpa using List.find?_some h⟩
  · rintro ⟨member, rfl⟩
    cases found : t.find? (key r) with
    | none =>
      have absent := List.find?_eq_none.mp found r member
      simp at absent
    | some r' =>
      have member' : r' ∈ t.rows := List.mem_of_find?_eq_some found
      have same : key r' = key r := by simpa using List.find?_some found
      rw [List.inj_on_of_nodup_map t.unique member' member same]

variable {r : R}

theorem find?_key (t : Table key) (member : r ∈ t.rows) : t.find? (key r) = some r :=
  (t.find?_eq_some_iff _ _).mpr ⟨member, rfl⟩

variable {k : K}

theorem mem_of_find? {t : Table key} (h : t.find? k = some r) : r ∈ t.rows :=
  ((t.find?_eq_some_iff k r).mp h).1

theorem key_of_find? {t : Table key} (h : t.find? k = some r) : key r = k :=
  ((t.find?_eq_some_iff k r).mp h).2

theorem find?_eq_none_iff (t : Table key) (k : K) :
    t.find? k = none ↔ ∀ r ∈ t.rows, key r ≠ k := by
  simp [find?, List.find?_eq_none]

theorem mem_select (t : Table key) (p : R → Bool) (r : R) :
    r ∈ t.select p ↔ t.find? (key r) = some r ∧ p r = true := by
  rw [select, List.mem_filter, find?_eq_some_iff]
  simp

omit [DecidableEq K] in
theorem nodup_select (t : Table key) (p : R → Bool) : (t.select p).Nodup :=
  (t.unique.of_map).sublist List.filter_sublist

theorem select_perm (t : Table key) (p : R → Bool) {rows : List R} (distinct : rows.Nodup)
    (same : ∀ r, r ∈ rows ↔ t.find? (key r) = some r ∧ p r = true) : (t.select p).Perm rows := by
  refine (List.perm_ext_iff_of_nodup (t.nodup_select p) distinct).mpr fun r => ?_
  rw [mem_select, same]

@[simp] theorem find?_empty (k : K) : (empty : Table key).find? k = none := rfl

theorem find?_updateWhere (t : Table key) (p : R → Bool) (f : R → R)
    (frame : ∀ r, key (f r) = key r) (k : K) :
    (t.updateWhere p f frame).find? k = (t.find? k).map fun r => if p r then f r else r := by
  have same : ∀ r, key (if p r then f r else r) = key r := by
    intro r
    split
    · exact frame r
    · rfl
  simp only [find?, updateWhere, List.find?_map, Function.comp_def, same]

theorem find?_updateWhere_of (t : Table key) (p : R → Bool) (f : R → R)
    (frame : ∀ r, key (f r) = key r) (found : t.find? k = some r) :
    (t.updateWhere p f frame).find? k = some (if p r then f r else r) := by
  rw [find?_updateWhere, found, Option.map_some]

theorem map_find?_updateWhere {V : Type w} {view : R → V} (t : Table key) {p : R → Bool} {f : R → R}
    (frame : ∀ r, key (f r) = key r) (same : ∀ r ∈ t.rows, p r → view (f r) = view r) (k : K) :
    ((t.updateWhere p f frame).find? k).map view = (t.find? k).map view := by
  rw [find?_updateWhere]
  cases found : t.find? k with
  | none => rfl
  | some r =>
    simp only [Option.map_some, Option.some.injEq]
    split
    · rename_i selected
      exact same r (mem_of_find? found) selected
    · rfl

theorem find?_updateKey (t : Table key) (k : K) (f : R → R) (frame : ∀ r, key (f r) = key r)
    (k' : K) :
    (t.updateKey k f frame).find? k' = if k' = k then (t.find? k).map f else t.find? k' := by
  rw [updateKey, find?_updateWhere]
  by_cases h : k' = k
  · subst h
    rw [if_pos rfl]
    cases found : t.find? k' with
    | none => rfl
    | some r => simp [key_of_find? found]
  · rw [if_neg h]
    cases found : t.find? k' with
    | none => rfl
    | some r => simp [key_of_find? found, h]

theorem mem_updateKey (t : Table key) (present : r ∈ t.rows) (f : R → R)
    (frame : ∀ r, key (f r) = key r) (r' : R) :
    r' ∈ (t.updateKey (key r) f frame).rows ↔ r' = f r ∨ (r' ∈ t.rows ∧ key r' ≠ key r) := by
  refine (mem_updateWhere t _ f frame r').trans ?_
  constructor
  · rintro ⟨old, member, rfl⟩
    split
    · rename_i same
      rw [List.inj_on_of_nodup_map t.unique member present (of_decide_eq_true same)]
      exact Or.inl rfl
    · rename_i other
      exact Or.inr ⟨member, fun same => other (decide_eq_true same)⟩
  · rintro (rfl | ⟨member, other⟩)
    · exact ⟨r, present, if_pos (decide_eq_true rfl)⟩
    · exact ⟨r', member, if_neg fun same => other (of_decide_eq_true same)⟩

theorem map_updateKey_of_ne {rows : List R} (f : R → R) (others : ∀ r ∈ rows, key r ≠ k) :
    rows.map (fun r => if decide (key r = k) then f r else r) = rows := by
  conv => rhs; rw [← List.map_id rows]
  refine List.map_congr_left fun r member => ?_
  simp [others r member]

theorem rows_updateKey_perm (t : Table key) (found : t.find? k = some r) (f : R → R)
    (frame : ∀ r, key (f r) = key r) :
    ∃ others, t.rows.Perm (r :: others) ∧ (t.updateKey k f frame).rows.Perm (f r :: others) := by
  obtain ⟨before, after, split⟩ := List.append_of_mem (mem_of_find? found)
  have own := key_of_find? found
  have unique := t.unique
  rw [split, List.map_append, List.map_cons, List.nodup_middle, List.nodup_cons,
    ← List.map_append] at unique
  have differ : ∀ q ∈ before ++ after, key q ≠ k := fun q member same =>
    unique.1 (List.mem_map.mpr ⟨q, member, same.trans own.symm⟩)
  have kept := map_updateKey_of_ne f differ
  rw [List.map_append] at kept
  refine ⟨before ++ after, split ▸ List.perm_middle, ?_⟩
  simp only [updateKey, updateWhere, split, List.map_append, List.map_cons, own, decide_true, if_true]
  refine List.perm_middle.trans (List.Perm.cons _ ?_)
  rw [kept]

theorem countP_updateKey_le (t : Table key) (k : K) (f : R → R) (frame : ∀ r, key (f r) = key r)
    (p : R → Bool) : (t.updateKey k f frame).rows.countP p ≤ t.rows.countP p + 1 := by
  cases found : t.find? k with
  | none =>
    have others := (t.find?_eq_none_iff k).mp found
    simp only [updateKey, updateWhere]
    rw [map_updateKey_of_ne f others]
    omega
  | some r =>
    obtain ⟨others, before, after⟩ := t.rows_updateKey_perm found f frame
    rw [before.countP_eq, after.countP_eq, List.countP_cons, List.countP_cons]
    split <;> split <;> omega

theorem find?_deleteWhere (t : Table key) (p : R → Bool) (k : K) :
    (t.deleteWhere p).find? k = (t.find? k).filter fun r => !p r := by
  ext r
  simp only [find?_eq_some_iff, deleteWhere, List.mem_filter, Option.filter_eq_some_iff]
  tauto

theorem insert?_eq_none_iff (t : Table key) (r : R) :
    t.insert? r = none ↔ ∃ old, t.find? (key r) = some old := by
  unfold insert?
  constructor
  · intro refused
    split at refused
    · rename_i taken
      obtain ⟨old, member, same⟩ := List.mem_map.mp taken
      exact ⟨old, (t.find?_eq_some_iff _ _).mpr ⟨member, same⟩⟩
    · cases refused
  · rintro ⟨old, found⟩
    rw [dif_pos (List.mem_map.mpr ⟨old, mem_of_find? found, key_of_find? found⟩)]

theorem insert?_spec {t t' : Table key} (inserted : t.insert? r = some t') :
    t.find? (key r) = none ∧ t'.rows = r :: t.rows := by
  have free : t.find? (key r) = none := by
    cases found : t.find? (key r) with
    | none => rfl
    | some old => rw [(t.insert?_eq_none_iff r).mpr ⟨old, found⟩] at inserted; cases inserted
  refine ⟨free, ?_⟩
  unfold insert? at inserted
  split at inserted
  · cases inserted
  · cases inserted
    rfl

theorem find?_insert? {t t' : Table key} (inserted : t.insert? r = some t') (k : K) :
    t'.find? k = if k = key r then some r else t.find? k := by
  obtain ⟨-, rows⟩ := insert?_spec inserted
  simp only [find?, rows, List.find?_cons]
  by_cases h : key r = k
  · simp [h]
  · simp [h, Ne.symm h]

theorem exists_insert? (t : Table key) (free : t.find? (key r) = none) :
    ∃ t', t.insert? r = some t' := by
  cases inserted : t.insert? r with
  | some t' => exact ⟨t', rfl⟩
  | none =>
    obtain ⟨old, found⟩ := (t.insert?_eq_none_iff r).mp inserted
    rw [free] at found
    cases found

theorem insertIgnore_taken (t : Table key) {r old : R} (taken : t.find? (key r) = some old) :
    t.insertIgnore r = t := by
  simp [insertIgnore, (t.insert?_eq_none_iff r).mpr ⟨old, taken⟩]

theorem find?_insertIgnore (t : Table key) (r : R) (k : K) :
    (t.insertIgnore r).find? k = (t.find? k).or (if k = key r then some r else none) := by
  cases taken : t.find? (key r) with
  | some old =>
    rw [insertIgnore_taken t taken]
    by_cases h : k = key r
    · subst h
      simp [taken]
    · simp [h]
  | none =>
    obtain ⟨t', inserted⟩ := t.exists_insert? taken
    rw [insertIgnore, inserted, Option.getD_some, find?_insert? inserted]
    by_cases h : k = key r
    · subst h
      simp [taken]
    · simp [h]

theorem find?_foldl_insertIgnore (rs : List R) (t : Table key) (k : K) :
    (rs.foldl insertIgnore t).find? k = (t.find? k).or (rs.find? fun r => key r = k) := by
  induction rs generalizing t with
  | nil => simp
  | cons r rest ih =>
    rw [List.foldl_cons, ih, find?_insertIgnore, Option.or_assoc, List.find?_cons]
    by_cases h : k = key r
    · simp [h]
    · simp [h, Ne.symm h]

theorem foldl_insertIgnore_perm (rs : List R) (t : Table key) (distinct : (rs.map key).Nodup) :
    (rs.foldl insertIgnore t).rows.Perm
      (t.rows ++ rs.filter fun r => (t.find? (key r)).isNone) := by
  induction rs generalizing t with
  | nil => simp
  | cons r rest ih =>
    obtain ⟨other, distinct⟩ := List.nodup_cons.mp distinct
    rw [List.foldl_cons]
    cases taken : t.find? (key r) with
    | some old =>
      rw [insertIgnore_taken t taken, List.filter_cons_of_neg (by simp [taken])]
      exact ih t distinct
    | none =>
      obtain ⟨t', inserted⟩ := t.exists_insert? taken
      have same : ∀ r' ∈ rest, (t'.find? (key r')).isNone = (t.find? (key r')).isNone := by
        intro r' member
        have apart : key r' ≠ key r := fun own => other (own ▸ List.mem_map_of_mem member)
        rw [find?_insert? inserted, if_neg apart]
      have rows := ih t' distinct
      rw [List.filter_congr same, (insert?_spec inserted).2] at rows
      rw [insertIgnore, inserted, Option.getD_some, List.filter_cons_of_pos (by simp [taken])]
      exact rows.trans List.perm_middle.symm

theorem mem_insert? {t t' : Table key} {r r' : R} (inserted : t.insert? r = some t') :
    r' ∈ t'.rows ↔ r' = r ∨ r' ∈ t.rows := by
  rw [(insert?_spec inserted).2, List.mem_cons]

theorem mem_insertIgnore {t : Table key} {r r' : R} (member : r' ∈ (t.insertIgnore r).rows) :
    r' ∈ t.rows ∨ r' = r := by
  unfold insertIgnore at member
  cases inserted : t.insert? r with
  | none =>
    rw [inserted] at member
    exact Or.inl member
  | some t' =>
    rw [inserted] at member
    exact ((mem_insert? inserted).mp member).symm

theorem mem_insertIgnore_of_mem {t : Table key} (r : R) {r' : R} (member : r' ∈ t.rows) :
    r' ∈ (t.insertIgnore r).rows := by
  unfold insertIgnore
  cases inserted : t.insert? r with
  | none => exact member
  | some t' => exact (mem_insert? inserted).mpr (Or.inr member)

theorem updateKey_updateKey (t : Table key) (k : K) (f g : R → R) (frame : ∀ r, key (f r) = key r)
    (frame' : ∀ r, key (g r) = key r) : (t.updateKey k f frame).updateKey k g frame' =
      t.updateKey k (fun r => g (f r)) fun r => (frame' (f r)).trans (frame r) := by
  simp only [updateKey, updateWhere, mk.injEq, List.map_map]
  refine List.map_congr_left fun r _ => ?_
  simp only [Function.comp]
  by_cases own : key r = k
  · simp [own, frame]
  · simp [own]

theorem find?_upsert (t : Table key) (r : R) (f : R → R) (frame : ∀ r, key (f r) = key r) (k : K) :
    (t.upsert r f frame).find? k =
      if k = key r then some ((t.find? k).elim r f) else t.find? k := by
  unfold upsert
  split
  · rename_i inserted eq
    rw [find?_insert? eq]
    by_cases h : k = key r
    · subst h
      simp [(insert?_spec eq).1]
    · simp [h]
  · rename_i eq
    obtain ⟨old, taken⟩ := (t.insert?_eq_none_iff r).mp eq
    rw [find?_updateKey]
    by_cases h : k = key r
    · subst h
      simp [taken]
    · simp [h]

theorem rows_insertAll? {t t' : Table key} {rs : List R} (inserted : t.insertAll? rs = some t') :
    t'.rows = rs.reverse ++ t.rows := by
  induction rs generalizing t with
  | nil =>
    cases inserted
    rfl
  | cons r rest ih =>
    rw [insertAll?, Option.bind_eq_some_iff] at inserted
    obtain ⟨t₁, first, others⟩ := inserted
    rw [ih others, (insert?_spec first).2, List.reverse_cons, List.append_assoc, List.singleton_append]

theorem exists_insertAll? (t : Table key) (rs : List R) (distinct : (rs.map key).Nodup)
    (fresh : ∀ r ∈ rs, t.find? (key r) = none) :
    ∃ t', t.insertAll? rs = some t' ∧
      ∀ k, t'.find? k = (rs.find? fun r => key r = k).or (t.find? k) := by
  induction rs generalizing t with
  | nil => exact ⟨t, rfl, fun k => by simp⟩
  | cons r rest ih =>
    obtain ⟨notin, distinctRest⟩ := List.nodup_cons.mp distinct
    obtain ⟨t₁, inserted⟩ := t.exists_insert? (fresh r (by simp))
    have freshRest : ∀ q ∈ rest, t₁.find? (key q) = none := by
      intro q member
      have differ : key q ≠ key r := fun same =>
        notin (List.mem_map.mpr ⟨q, member, same⟩)
      rw [find?_insert? inserted, if_neg differ]
      exact fresh q (by simp [member])
    obtain ⟨t', all, lookup⟩ := ih t₁ distinctRest freshRest
    refine ⟨t', by simp [insertAll?, inserted, all], fun k => ?_⟩
    rw [lookup, find?_insert? inserted, List.find?_cons]
    by_cases h : key r = k
    · subst h
      have none : rest.find? (fun q => key q = key r) = none := by
        rw [List.find?_eq_none]
        intro q member same
        exact notin (List.mem_map.mpr ⟨q, member, by simpa using same⟩)
      simp [none]
    · simp [h, Ne.symm h]

end Lookup

end Table
