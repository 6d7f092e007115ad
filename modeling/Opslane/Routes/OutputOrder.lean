import Mathlib.Data.List.Induction
import Opslane.Routes.RouteMap

/-!
# The order of a classification

Of the classified rows of one canonical form the first of widest reach is written. So the order of
the rows makes no difference exactly where all rows of widest reach agree in their name and their
purpose.
-/

namespace Opslane.Routes

open Opslane.Jobs

/-- No classified row of the same canonical form reaches further. -/
def Widest (rows : List RouteMapRow) (row : RouteMapRow) : Prop :=
  ∀ other ∈ rows, canonicalPattern other.pattern = canonicalPattern row.pattern →
    reach other.tier ≤ reach row.tier

/-- What a row is written as. -/
def RouteMapRow.entry (row : RouteMapRow) : Entry :=
  ({ row with pattern := canonicalPattern row.pattern }, .llm)

/-- What can be written under a canonical pattern. -/
def Candidate (rows : List RouteMapRow) (unresolved : List String) (entry : Entry) : Prop :=
  (∃ row ∈ rows, Widest rows row ∧ entry = row.entry) ∨
    (∃ pattern ∈ unresolved, entry = placeholder (canonicalPattern pattern)) ∧
      ∀ row ∈ rows, canonicalPattern row.pattern ≠ entry.1.pattern

/-- What the claim says of one classification, over every database, lease and time. -/
structure Classified (rows : List RouteMapRow) (unresolved : List String) : Prop where
  /-- The order of the rows and of the patterns makes no difference. -/
  order : ∀ refuses jobs map args now rows' unresolved', rows'.Perm rows → unresolved'.Perm unresolved →
    ∀ key, (upsertRouteMapRows refuses jobs map args now rows' unresolved').1.find? key =
      (upsertRouteMapRows refuses jobs map args now rows unresolved).1.find? key
  /-- Each row of the map is as it was, or a candidate was written. -/
  written : ∀ refuses jobs map args now r,
    (upsertRouteMapRows refuses jobs map args now rows unresolved).1.find? r.key = some r →
      map.find? r.key = some r ∨ ∃ entry, Candidate rows unresolved entry ∧
        r.pattern = entry.1.pattern ∧ r.name = entry.1.name ∧ r.purpose = entry.1.purpose ∧
        r.tier = entry.1.tier ∧ r.source = entry.2
  /-- Where the answer is that all were written, each pattern has its candidate or a human row. -/
  complete : ∀ refuses jobs map args now,
    (upsertRouteMapRows refuses jobs map args now rows unresolved).2 = some true →
      ∀ pattern, (∃ row ∈ rows, canonicalPattern row.pattern = pattern) ∨
          (∃ raw ∈ unresolved, canonicalPattern raw = pattern) →
        ∃ r, (upsertRouteMapRows refuses jobs map args now rows unresolved).1.find?
            (args.projectID, pattern) = some r ∧
          (r.source = .human ∨ ∃ entry, Candidate rows unresolved entry ∧ entry.1.pattern = pattern ∧
            r.name = entry.1.name ∧ r.purpose = entry.1.purpose ∧ r.tier = entry.1.tier ∧
            r.source = entry.2)
  /-- A human row stays as it is. -/
  human : ∀ refuses jobs map args now r, map.find? r.key = some r → r.source = .human →
    (upsertRouteMapRows refuses jobs map args now rows unresolved).1.find? r.key = some r

/-- Rows of one canonical form and of widest reach agree. -/
def TiesAgree (rows : List RouteMapRow) : Prop :=
  ∀ row ∈ rows, ∀ row' ∈ rows, Widest rows row → Widest rows row' →
    canonicalPattern row.pattern = canonicalPattern row'.pattern →
      row.name = row'.name ∧ row.purpose = row'.purpose

theorem get?_classify (rows : List RouteMapRow) (k : String) :
    match (rows.foldl classify .empty).get? k with
    | none => ∀ row ∈ rows, canonicalPattern row.pattern ≠ k
    | some entry => ∃ before row after, rows = before ++ row :: after ∧
        canonicalPattern row.pattern = k ∧ entry = row.entry ∧
        (∀ other ∈ before, canonicalPattern other.pattern = k → reach other.tier < reach row.tier) ∧
        ∀ other ∈ after, canonicalPattern other.pattern = k → reach other.tier ≤ reach row.tier := by
  induction rows using List.reverseRecOn with
  | nil => exact fun row member => nomatch member
  | append_singleton rows last ih =>
    rw [List.foldl_append, List.foldl_cons, List.foldl_nil]
    generalize rows.foldl classify .empty = m at ih ⊢
    have kept : (∀ row ∈ rows, canonicalPattern row.pattern ≠ k) → canonicalPattern last.pattern ≠ k →
        ∀ row ∈ rows ++ [last], canonicalPattern row.pattern ≠ k := by
      intro none_ other row member
      rcases List.mem_append.mp member with earlier | own
      · exact none_ row earlier
      · rwa [List.mem_singleton.mp own]
    by_cases own : canonicalPattern last.pattern = k
    · have set : (m.set k last.entry).get? k = some last.entry := by rw [EntryMap.get?_set, if_pos rfl]
      cases found : m.get? k with
      | none =>
        rw [found] at ih
        have result : (classify m last).get? k = some last.entry := by
          rw [classify, own, found, ← set, RouteMapRow.entry, own]
        rw [result]
        exact ⟨rows, last, [], rfl, own, rfl, fun other member same => absurd same (ih other member), nofun⟩
      | some previous =>
        rw [found] at ih
        obtain ⟨before, row, after, rfl, same, rfl, first, later⟩ := ih
        by_cases further : reach row.tier < reach last.tier
        · have result : (classify m last).get? k = some last.entry := by
            rw [classify, own, found]
            dsimp only [RouteMapRow.entry] at set ⊢
            rw [if_pos further, ← set, own]
          rw [result]
          refine ⟨before ++ row :: after, last, [], rfl, own, rfl, fun other member same' => ?_, nofun⟩
          rcases List.mem_append.mp member with early | rest
          · exact Nat.lt_trans (first other early same') further
          · rcases List.mem_cons.mp rest with rfl | late
            · exact further
            · exact Nat.lt_of_le_of_lt (later other late same') further
        · have result : (classify m last).get? k = some row.entry := by
            rw [classify, own, found]
            dsimp only [RouteMapRow.entry]
            rw [if_neg further, found]
            rfl
          rw [result]
          refine ⟨before, row, after ++ [last], by simp, same, rfl, first, fun other member same' => ?_⟩
          rcases List.mem_append.mp member with late | own'
          · exact later other late same'
          · rw [List.mem_singleton.mp own']
            omega
    · have result : (classify m last).get? k = m.get? k := by
        have apart (entry : Entry) : (m.set (canonicalPattern last.pattern) entry).get? k = m.get? k := by
          rw [EntryMap.get?_set, if_neg (Ne.symm own)]
        unfold classify
        dsimp only
        split
        · exact apart _
        · split
          · exact apart _
          · rfl
      rw [result]
      cases found : m.get? k with
      | none =>
        rw [found] at ih
        exact kept ih own
      | some entry =>
        rw [found] at ih
        obtain ⟨before, row, after, rfl, same, rfl, first, later⟩ := ih
        refine ⟨before, row, after ++ [last], by simp, same, rfl, first, fun other member same' => ?_⟩
        rcases List.mem_append.mp member with late | own'
        · exact later other late same'
        · rw [List.mem_singleton.mp own'] at same'
          exact absurd same' own

theorem get?_addUnresolved (unresolved : List String) (m : EntryMap String Entry) (k : String) :
    (unresolved.foldl addUnresolved m).get? k =
      (m.get? k).or (if ∃ raw ∈ unresolved, canonicalPattern raw = k then some (placeholder k) else none) := by
  induction unresolved generalizing m with
  | nil => simp
  | cons raw rest ih =>
    have first : (addUnresolved m raw).get? k =
        (m.get? k).or (if canonicalPattern raw = k then some (placeholder k) else none) := by
      unfold addUnresolved
      dsimp only
      by_cases own : canonicalPattern raw = k
      · subst own
        cases found : m.get? (canonicalPattern raw) with
        | some entry => simp [found]
        | none => simp [EntryMap.get?_set]
      · rw [if_neg own, Option.or_none]
        split
        · rfl
        · rw [EntryMap.get?_set, if_neg (Ne.symm own)]
    rw [List.foldl_cons, ih, first, Option.or_assoc]
    congr 1
    simp only [List.exists_mem_cons_iff]
    by_cases own : canonicalPattern raw = k
    · simp [own]
    · simp [own]

variable {unresolved : List String} {rows : List RouteMapRow}

theorem candidate_of_get? {k : String} {entry : Entry}
    (found : (byCanonical rows unresolved).get? k = some entry) :
    Candidate rows unresolved entry ∧ entry.1.pattern = k := by
  have classified := get?_classify rows k
  rw [byCanonical, get?_addUnresolved] at found
  cases own : (rows.foldl classify .empty).get? k with
  | some entry' =>
    rw [own] at classified found
    cases found
    obtain ⟨before, row, after, rfl, same, rfl, first, later⟩ := classified
    refine ⟨Or.inl ⟨row, by simp, fun other member same' => ?_, rfl⟩, same⟩
    rw [same] at same'
    rcases List.mem_append.mp member with early | rest
    · exact Nat.le_of_lt (first other early same')
    · rcases List.mem_cons.mp rest with rfl | late
      · exact Nat.le_refl _
      · exact later other late same'
  | none =>
    rw [own] at classified found
    rw [Option.none_or] at found
    split at found
    · rename_i unresolved_
      obtain ⟨raw, member, same⟩ := unresolved_
      cases found
      exact ⟨Or.inr ⟨⟨raw, member, by rw [same]⟩, classified⟩, rfl⟩
    · cases found

theorem get?_none_iff {k : String} :
    (byCanonical rows unresolved).get? k = none ↔
      (∀ row ∈ rows, canonicalPattern row.pattern ≠ k) ∧ ∀ raw ∈ unresolved, canonicalPattern raw ≠ k := by
  have classified := get?_classify rows k
  rw [byCanonical, get?_addUnresolved, Option.or_eq_none_iff]
  refine and_congr ?_ (by simp)
  cases own : (rows.foldl classify .empty).get? k with
  | none =>
    rw [own] at classified
    exact iff_of_true rfl classified
  | some entry =>
    rw [own] at classified
    obtain ⟨before, row, after, rfl, same, -⟩ := classified
    exact iff_of_false nofun fun none_ => none_ row (by simp) same

theorem nodup_patterns (rows : List RouteMapRow) (unresolved : List String) :
    ((byCanonical rows unresolved).values.map fun entry => entry.1.pattern).Nodup := by
  have keys : (byCanonical rows unresolved).values.map (fun entry => entry.1.pattern) =
      (byCanonical rows unresolved).keys := by
    rw [EntryMap.values, EntryMap.keys, List.map_map]
    refine List.map_congr_left fun e member => ?_
    exact (candidate_of_get? ((EntryMap.mem_entries _ e.1 e.2).mp member)).2
  rw [keys]
  exact EntryMap.nodup_keys _

theorem find?_write (projectID : UUID) (now : Timestamp) (map : RouteMap) (entry : Entry) (key : UUID × String) :
    (write projectID now map entry).find? key =
      if key = (projectID, entry.1.pattern) then
        some ((map.find? key).elim (inserted projectID now entry) (overwritten now entry))
      else map.find? key :=
  Table.find?_upsert map _ _ (overwritten_key now entry) key

theorem find?_writes (projectID : UUID) (now : Timestamp) (entries : List Entry)
    (distinct : (entries.map fun entry => entry.1.pattern).Nodup) (map : RouteMap) (key : UUID × String) :
    (∀ entry ∈ entries, key = (projectID, entry.1.pattern) →
      (entries.foldl (write projectID now) map).find? key =
        some ((map.find? key).elim (inserted projectID now entry) (overwritten now entry))) ∧
    ((∀ entry ∈ entries, key ≠ (projectID, entry.1.pattern)) →
      (entries.foldl (write projectID now) map).find? key = map.find? key) := by
  induction entries generalizing map with
  | nil => exact ⟨nofun, fun _ => rfl⟩
  | cons first rest ih =>
    rw [List.map_cons, List.nodup_cons] at distinct
    obtain ⟨own, none_⟩ := ih distinct.2 (write projectID now map first)
    rw [List.foldl_cons]
    refine ⟨fun entry member same => ?_, fun apart => ?_⟩
    · rcases List.mem_cons.mp member with rfl | later
      · rw [none_ ?_, find?_write, if_pos same]
        intro other member' same'
        rw [same] at same'
        exact distinct.1 (List.mem_map.mpr ⟨other, member', (Prod.mk.inj same').2.symm⟩)
      · rw [own entry later same, find?_write, if_neg]
        intro same'
        rw [same] at same'
        exact distinct.1 (List.mem_map.mpr ⟨entry, later, (Prod.mk.inj same').2⟩)
    · rw [none_ fun entry member => apart entry (List.mem_cons_of_mem _ member), find?_write,
        if_neg (apart first List.mem_cons_self)]

theorem find?_written (rows : List RouteMapRow) (unresolved : List String) (projectID : UUID)
    (now : Timestamp) (map : RouteMap) (key : UUID × String) :
    ((byCanonical rows unresolved).values.foldl (write projectID now) map).find? key =
      match (if key.1 = projectID then (byCanonical rows unresolved).get? key.2 else none) with
      | some entry => some ((map.find? key).elim (inserted projectID now entry) (overwritten now entry))
      | none => map.find? key := by
  obtain ⟨own, none_⟩ := find?_writes projectID now (byCanonical rows unresolved).values
    (nodup_patterns rows unresolved) map key
  split
  · rename_i entry found
    split at found
    · rename_i project
      refine own entry ((EntryMap.mem_values _ _).mpr ⟨key.2, found⟩) ?_
      rw [(candidate_of_get? found).2, ← project]
    · cases found
  · rename_i found
    refine none_ fun entry member same => ?_
    obtain ⟨k, stored⟩ := (EntryMap.mem_values _ _).mp member
    rw [(candidate_of_get? stored).2] at same
    rw [same, if_pos rfl, stored] at found
    cases found

theorem Widest.perm {rows rows' : List RouteMapRow} (perm : rows'.Perm rows) {row : RouteMapRow}
    (widest : Widest rows' row) : Widest rows row :=
  fun other member => widest other (perm.mem_iff.mpr member)

theorem Candidate.perm {rows rows' : List RouteMapRow} {unresolved unresolved' : List String}
    (perm : rows'.Perm rows) (perm' : unresolved'.Perm unresolved) {entry : Entry}
    (candidate : Candidate rows' unresolved' entry) : Candidate rows unresolved entry := by
  rcases candidate with ⟨row, member, widest, same⟩ | ⟨⟨raw, member, same⟩, none_⟩
  · exact Or.inl ⟨row, perm.mem_iff.mp member, widest.perm perm, same⟩
  · exact Or.inr ⟨⟨raw, perm'.mem_iff.mp member, same⟩, fun row member => none_ row (perm.mem_iff.mpr member)⟩

theorem reach_inj {tier tier' : RouteTier} (same : reach tier = reach tier') : tier = tier' := by
  cases tier <;> cases tier' <;> first | rfl | cases same

theorem TiesAgree.candidate_unique (agree : TiesAgree rows) {entry entry' : Entry}
    (candidate : Candidate rows unresolved entry) (candidate' : Candidate rows unresolved entry')
    (same : entry.1.pattern = entry'.1.pattern) :
    entry = entry' := by
  rcases candidate with ⟨row, member, widest, rfl⟩ | ⟨⟨raw, -, rfl⟩, none_⟩ <;>
    rcases candidate' with ⟨row', member', widest', rfl⟩ | ⟨⟨raw', -, rfl⟩, none'⟩
  · obtain ⟨name, purpose⟩ := agree row member row' member' widest widest' same
    have tier := reach_inj (Nat.le_antisymm (widest' row member same) (widest row' member' same.symm))
    have pattern : canonicalPattern row.pattern = canonicalPattern row'.pattern := same
    rw [RouteMapRow.entry, RouteMapRow.entry, pattern, name, purpose, tier]
  · exact absurd same (none' row member)
  · exact absurd same.symm (none_ row' member')
  · exact congrArg placeholder same

theorem TiesAgree.get?_perm {rows rows' : List RouteMapRow} (agree : TiesAgree rows)
    {unresolved unresolved' : List String} (perm : rows'.Perm rows)
    (perm' : unresolved'.Perm unresolved) (k : String) :
    (byCanonical rows' unresolved').get? k = (byCanonical rows unresolved).get? k := by
  have none_ : (byCanonical rows' unresolved').get? k = none ↔
      (byCanonical rows unresolved).get? k = none := by
    simp only [get?_none_iff, perm.mem_iff, perm'.mem_iff]
  cases found : (byCanonical rows unresolved).get? k with
  | none => exact none_.mpr found
  | some entry =>
    cases found' : (byCanonical rows' unresolved').get? k with
    | none =>
      rw [none_.mp found'] at found
      cases found
    | some entry' =>
      obtain ⟨candidate, pattern⟩ := candidate_of_get? found
      obtain ⟨candidate', pattern'⟩ := candidate_of_get? found'
      rw [agree.candidate_unique (candidate'.perm perm perm') candidate (by rw [pattern, pattern'])]

theorem get?_cons_widest {row : RouteMapRow} {rest : List RouteMapRow} (unresolved : List String)
    (widest : Widest (row :: rest) row) :
    (byCanonical (row :: rest) unresolved).get? (canonicalPattern row.pattern) = some row.entry := by
  have classified := get?_classify (row :: rest) (canonicalPattern row.pattern)
  rw [byCanonical, get?_addUnresolved]
  cases found : ((row :: rest).foldl classify .empty).get? (canonicalPattern row.pattern) with
  | none =>
    rw [found] at classified
    exact absurd rfl (classified row List.mem_cons_self)
  | some entry =>
    rw [found] at classified
    obtain ⟨before, row', after, split_, same, rfl, first, -⟩ := classified
    cases before with
    | nil => rw [(List.cons.inj split_).1, Option.some_or]
    | cons head before =>
      obtain ⟨rfl, tail⟩ := List.cons.inj split_
      have further := first row List.mem_cons_self rfl
      have bound := widest row' (by rw [tail]; simp) same
      omega

theorem upsertRouteMapRows_congr {rows rows' : List RouteMapRow} {unresolved unresolved' : List String}
    (same : ∀ k, (byCanonical rows' unresolved').get? k = (byCanonical rows unresolved).get? k)
    (refuses : Entry → Bool) (jobs : JobTable) (map : RouteMap) (args : UpsertArgs) (now : Timestamp)
    (key : UUID × String) :
    (upsertRouteMapRows refuses jobs map args now rows' unresolved').1.find? key =
      (upsertRouteMapRows refuses jobs map args now rows unresolved).1.find? key := by
  have refused : (byCanonical rows' unresolved').values.any refuses =
      (byCanonical rows unresolved).values.any refuses := by
    rw [Bool.eq_iff_iff, List.any_eq_true, List.any_eq_true]
    simp only [EntryMap.mem_values, same]
  unfold upsertRouteMapRows
  split
  · dsimp only
    rw [refused]
    split
    · rfl
    · rw [find?_written, find?_written, same]
  · rfl

theorem find?_upsertRouteMapRows (refuses : Entry → Bool) (jobs : JobTable) (map : RouteMap)
    (args : UpsertArgs) (now : Timestamp) (rows : List RouteMapRow) (unresolved : List String)
    (key : UUID × String) :
    (upsertRouteMapRows refuses jobs map args now rows unresolved).1.find? key = map.find? key ∨
      ∃ entry, (byCanonical rows unresolved).get? key.2 = some entry ∧
        (upsertRouteMapRows refuses jobs map args now rows unresolved).1.find? key =
          some ((map.find? key).elim (inserted args.projectID now entry) (overwritten now entry)) := by
  unfold upsertRouteMapRows
  split
  · dsimp only
    split
    · exact Or.inl rfl
    · dsimp only
      rw [find?_written]
      split
      · rename_i entry found
        split at found
        · exact Or.inr ⟨entry, found, rfl⟩
        · cases found
      · exact Or.inl rfl
  · exact Or.inl rfl

theorem written (refuses : Entry → Bool) (jobs : JobTable) (map : RouteMap)
    (args : UpsertArgs) (now : Timestamp) (rows : List RouteMapRow) (unresolved : List String)
    (r : RouteRecord)
    (found : (upsertRouteMapRows refuses jobs map args now rows unresolved).1.find? r.key = some r) :
    map.find? r.key = some r ∨ ∃ entry, Candidate rows unresolved entry ∧
      r.pattern = entry.1.pattern ∧ r.name = entry.1.name ∧ r.purpose = entry.1.purpose ∧
      r.tier = entry.1.tier ∧ r.source = entry.2 := by
  rcases find?_upsertRouteMapRows refuses jobs map args now rows unresolved r.key with
    same | ⟨entry, entry_, after⟩
  · rw [same] at found
    exact Or.inl found
  · obtain ⟨candidate, pattern⟩ := candidate_of_get? entry_
    rw [found] at after
    have after := Option.some.inj after
    cases before : map.find? r.key with
    | none =>
      rw [before, Option.elim_none] at after
      rw [after]
      exact Or.inr ⟨entry, candidate, rfl, rfl, rfl, rfl, rfl⟩
    | some old =>
      rw [before, Option.elim_some, overwritten] at after
      split at after
      · rw [after]
        exact Or.inl rfl
      · refine Or.inr ⟨entry, candidate, ?_⟩
        have own : old.pattern = entry.1.pattern := by
          rw [pattern]
          exact congrArg Prod.snd (Table.key_of_find? before)
        rw [after]
        exact ⟨own, rfl, rfl, rfl, rfl⟩

theorem complete (refuses : Entry → Bool) (jobs : JobTable) (map : RouteMap)
    (args : UpsertArgs) (now : Timestamp) (rows : List RouteMapRow) (unresolved : List String)
    (answer : (upsertRouteMapRows refuses jobs map args now rows unresolved).2 = some true)
    (pattern : String) (present : (∃ row ∈ rows, canonicalPattern row.pattern = pattern) ∨
      ∃ raw ∈ unresolved, canonicalPattern raw = pattern) :
    ∃ r, (upsertRouteMapRows refuses jobs map args now rows unresolved).1.find?
        (args.projectID, pattern) = some r ∧
      (r.source = .human ∨ ∃ entry, Candidate rows unresolved entry ∧ entry.1.pattern = pattern ∧
        r.name = entry.1.name ∧ r.purpose = entry.1.purpose ∧ r.tier = entry.1.tier ∧
        r.source = entry.2) := by
  obtain ⟨entry, found⟩ : ∃ entry, (byCanonical rows unresolved).get? pattern = some entry := by
    refine Option.ne_none_iff_exists'.mp fun none_ => ?_
    obtain ⟨noRow, noRaw⟩ := get?_none_iff.mp none_
    rcases present with ⟨row, member, same⟩ | ⟨raw, member, same⟩
    · exact noRow row member same
    · exact noRaw raw member same
  obtain ⟨candidate, own⟩ := candidate_of_get? found
  unfold upsertRouteMapRows at answer ⊢
  split at answer
  · rename_i lease
    rw [if_pos lease]
    dsimp only at answer ⊢
    split at answer
    · cases answer
    · rename_i accepted
      rw [if_neg accepted]
      dsimp only
      rw [find?_written, if_pos rfl, found]
      refine ⟨_, rfl, ?_⟩
      cases map.find? (args.projectID, pattern) with
      | none => exact Or.inr ⟨entry, candidate, own, rfl, rfl, rfl, rfl⟩
      | some old =>
        rw [Option.elim_some, overwritten]
        split
        · rename_i human
          exact Or.inl human
        · exact Or.inr ⟨entry, candidate, own, rfl, rfl, rfl, rfl⟩
  · cases answer

theorem human_stays (refuses : Entry → Bool) (jobs : JobTable) (map : RouteMap)
    (args : UpsertArgs) (now : Timestamp) (rows : List RouteMapRow) (unresolved : List String)
    (r : RouteRecord) (found : map.find? r.key = some r) (human : r.source = .human) :
    (upsertRouteMapRows refuses jobs map args now rows unresolved).1.find? r.key = some r := by
  rcases find?_upsertRouteMapRows refuses jobs map args now rows unresolved r.key with
    same | ⟨entry, -, after⟩
  · rw [same, found]
  · rw [after, found, Option.elim_some, overwritten, if_pos human]

/-- A job whose lease is held. -/
def heldJob : Job :=
  { Job.new 1 1 .routeMap {} 0 0 with
    status := .claimed, workerID := some "worker", leaseGeneration := 1, leaseExpiresAt := some 1 }

def heldJobs : JobTable := ⟨[heldJob], by decide⟩

def heldArgs : UpsertArgs := ⟨1, 1, "worker", 1⟩

theorem find?_widest (rows : List RouteMapRow) (unresolved : List String) {row : RouteMapRow}
    (member : row ∈ rows) (widest : Widest rows row) :
    ∃ rows', rows'.Perm rows ∧
      (upsertRouteMapRows (fun _ => false) heldJobs .empty heldArgs 0 rows' unresolved).1.find?
        (1, canonicalPattern row.pattern) = some (inserted 1 0 row.entry) := by
  obtain ⟨before, after, rfl⟩ := List.append_of_mem member
  have perm : (row :: (before ++ after)).Perm (before ++ row :: after) := List.perm_middle.symm
  refine ⟨row :: (before ++ after), perm, ?_⟩
  have entry := get?_cons_widest unresolved (widest.perm perm.symm)
  have held : leased heldJobs heldArgs 0 := by decide
  unfold upsertRouteMapRows
  rw [if_pos held]
  dsimp only
  rw [if_neg (by simp), find?_written, if_pos (show (1 : UUID) = heldArgs.projectID from rfl)]
  dsimp only
  rw [entry]
  rfl

/-- One call, and the queue it finds. -/
structure Call where
  refuses : Entry → Bool
  jobs : JobTable
  args : UpsertArgs
  now : Timestamp
  rows : List RouteMapRow
  unresolved : List String

def step (map : RouteMap) (c : Call) : RouteMap :=
  (upsertRouteMapRows c.refuses c.jobs map c.args c.now c.rows c.unresolved).1

def machine : Transition.Machine RouteMap Call := ⟨step⟩

/-- A human row is still there as it is, any other with its time of creation and no human one. -/
def RouteRecord.Stays (r r' : RouteRecord) : Prop :=
  if r.source = .human then r' = r else r'.createdAt = r.createdAt ∧ r'.source ≠ .human

def Keeps (map map' : RouteMap) : Prop :=
  ∀ key r, map.find? key = some r → ∃ r', map'.find? key = some r' ∧ r.Stays r'

theorem RouteRecord.Stays.refl (r : RouteRecord) : r.Stays r := by
  unfold RouteRecord.Stays
  split
  · rfl
  · exact ⟨rfl, ‹_›⟩

theorem RouteRecord.Stays.trans {r r' r'' : RouteRecord} (first : r.Stays r') (second : r'.Stays r'') :
    r.Stays r'' := by
  unfold RouteRecord.Stays at *
  by_cases human : r.source = .human
  · rw [if_pos human] at first ⊢
    rwa [first, if_pos human] at second
  · rw [if_neg human] at first ⊢
    rw [if_neg first.2] at second
    exact ⟨second.1.trans first.1, second.2⟩

theorem Candidate.source {rows : List RouteMapRow} {unresolved : List String} {entry : Entry}
    (candidate : Candidate rows unresolved entry) : entry.2 ≠ .human := by
  rcases candidate with ⟨row, -, -, rfl⟩ | ⟨⟨pattern, -, rfl⟩, -⟩
  · simp [RouteMapRow.entry]
  · simp [placeholder]

theorem keeps_step (map : RouteMap) (c : Call) : Keeps map (step map c) := by
  intro key r found
  rcases find?_upsertRouteMapRows c.refuses c.jobs map c.args c.now c.rows c.unresolved key with
    same | ⟨entry, own, after⟩
  · exact ⟨r, same.trans found, .refl r⟩
  · refine ⟨overwritten c.now entry r, by rw [step, after, found]; rfl, ?_⟩
    unfold overwritten RouteRecord.Stays
    split
    · rfl
    · exact ⟨rfl, (candidate_of_get? own).1.source⟩

/-- Whatever calls follow, no route is lost and none becomes a human one. -/
theorem keeps_run (map : RouteMap) (calls : List Call) : Keeps map (machine.run map calls) := by
  refine machine.invariant_run (Keeps map) (fun map' c keeps key r found => ?_)
    (fun key r found => ⟨r, found, .refl r⟩) calls
  obtain ⟨r', there, stays⟩ := keeps key r found
  obtain ⟨r'', after, stays'⟩ := keeps_step map' c key r' there
  exact ⟨r'', after, stays.trans stays'⟩

end Opslane.Routes
