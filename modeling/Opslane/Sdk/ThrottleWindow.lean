import Mathlib.Data.List.Dedup
import Mathlib.Data.List.TakeWhile
import Opslane.Sdk.Throttle

/-!
# The window of the throttle

Only the oldest insertion is ever forgotten. As long as that is the error that was let through
longest ago of all that are remembered, an error is remembered until as many others as the map
holds were let through after it.
-/

namespace Opslane.Sdk.Throttle

/-- The other errors that were let through in a part of the log. -/
def others (k : CodeUnits) (log : List (CodeUnits × Int)) : List CodeUnits :=
  ((log.map Prod.fst).filter (· ≠ k)).dedup

/-- An error that was let through less than a window ago is dropped, while there is room for all
others that were let through since. -/
def Holds (windowMs : Int) (s : State) (c : Call) : Prop :=
  ∀ recent t older, s.accepted = recent ++ (key c.error, t) :: older → c.now - t < windowMs →
    (others (key c.error) recent).length < maxKeys → dropped windowMs s c

/-- What was let through since an error was last. -/
def since (k : CodeUnits) (s : State) : List CodeUnits :=
  (s.accepted.takeWhile fun entry => entry.1 ≠ k).map Prod.fst

/-- Where a new error makes the throttle forget one, as many others as the map holds were let
through after it, the new one counted. -/
def ForgetsLast (s : State) (c : Call) : Bool :=
  (s.lastSeen.get? (key c.error)).isSome || s.lastSeen.entries.length < maxKeys ||
    (s.lastSeen.keys.head?).all fun oldest =>
      maxKeys ≤ (key c.error :: since oldest s).dedup.length

structure Remembers (windowMs : Int) (s : State) : Prop where
  bounded : s.lastSeen.entries.length ≤ maxKeys
  recent : ∀ recent k t older, s.accepted = recent ++ (k, t) :: older →
    (others k recent).length < maxKeys →
      ∃ t', s.lastSeen.get? k = some t' ∧ (t' = t ∨ t + windowMs ≤ t')

variable {log : List (CodeUnits × Int)}

theorem mem_others {k j : CodeUnits} :
    j ∈ others k log ↔ j ≠ k ∧ ∃ t, (j, t) ∈ log := by
  simp only [others, List.mem_dedup, List.mem_filter, List.mem_map, decide_eq_true_eq, Prod.exists,
    exists_and_right, exists_eq_right]
  exact And.comm

theorem le_length_others {k : CodeUnits} {keys : List CodeUnits} (distinct : keys.Nodup)
    (inside : ∀ j ∈ keys, j ∈ others k log) :
    keys.length ≤ (others k log).length :=
  distinct.length_le_of_subset inside

variable {s : State}

theorem mem_since {recent older : List (CodeUnits × Int)} {k j : CodeUnits} {t : Int}
    (log : s.accepted = recent ++ (k, t) :: older) (member : j ∈ since k s) :
    j ≠ k ∧ ∃ t', (j, t') ∈ recent := by
  rw [since, log] at member
  obtain ⟨⟨j', t'⟩, taken, rfl⟩ := List.mem_map.mp member
  refine ⟨by simpa using List.mem_takeWhile_imp taken, ?_⟩
  clear log member
  induction recent with
  | nil => simp at taken
  | cons e recent ih =>
    rw [List.cons_append, List.takeWhile_cons] at taken
    split at taken
    · rcases List.mem_cons.mp taken with rfl | later
      · exact ⟨t', List.mem_cons_self⟩
      · obtain ⟨t'', found⟩ := ih later
        exact ⟨t'', List.mem_cons_of_mem _ found⟩
    · cases taken

/-- The map forgets this one for a new one. -/
def Forgets (m : EntryMap CodeUnits Int) (k j : CodeUnits) : Prop :=
  m.get? k = none ∧ maxKeys ≤ m.keys.length ∧ m.keys.head? = some j

theorem get?_remember {m : EntryMap CodeUnits Int} (bounded : m.keys.length ≤ maxKeys) (k : CodeUnits)
    (now : Int) : (remember m k now).keys.length ≤ maxKeys ∧ (remember m k now).get? k = some now ∧
      ∀ j, j ≠ k → (remember m k now).get? j = m.get? j ∨ Forgets m k j := by
  have set (j : CodeUnits) : (m.set k now).get? j = if j = k then some now else m.get? j :=
    EntryMap.get?_set m k j now
  have keys := EntryMap.keys_set m k now
  unfold remember
  dsimp only
  split
  · rename_i full
    rw [← EntryMap.length_keys] at full
    -- Only a new key makes the map too long.
    have new : m.get? k = none := by
      cases found : m.get? k with
      | none => rfl
      | some t =>
        rw [keys, found, Option.isSome_some, if_pos rfl] at full
        omega
    rw [new, Option.isSome_none, if_neg (by simp)] at keys
    rw [keys, List.length_append, List.length_singleton] at full
    obtain ⟨oldest, rest, order⟩ : ∃ oldest rest, m.keys = oldest :: rest := by
      cases order : m.keys with
      | nil =>
        rw [order] at full
        exact absurd full (by decide)
      | cons oldest rest => exact ⟨oldest, rest, rfl⟩
    have head : (m.set k now).keys.head? = some oldest := by rw [keys, order]; rfl
    have other : k ≠ oldest := by
      rintro rfl
      exact (EntryMap.get?_eq_none_iff m _).mp new (by rw [order]; exact List.mem_cons_self)
    rw [head]
    dsimp only
    refine ⟨?_, ?_, fun j apart => ?_⟩
    · have shorter : ((m.set k now).keys.filter (· ≠ oldest)).length < (m.set k now).keys.length :=
        List.length_filter_lt_length_iff_exists.mpr
          ⟨oldest, List.mem_of_mem_head? head, by simp⟩
      have longer : (m.set k now).keys.length = m.keys.length + 1 := by
        rw [keys, List.length_append, List.length_singleton]
      rw [EntryMap.keys_delete]
      omega
    · rw [EntryMap.get?_delete, if_neg other, set, if_pos rfl]
    · by_cases forgotten : j = oldest
      · exact Or.inr ⟨new, by omega, by rw [order, forgotten]; rfl⟩
      · rw [EntryMap.get?_delete, if_neg forgotten, set, if_neg apart]
        exact Or.inl rfl
  · rename_i room
    rw [← EntryMap.length_keys] at room
    refine ⟨by omega, by rw [set, if_pos rfl], fun j apart => Or.inl ?_⟩
    rw [set, if_neg apart]

variable {windowMs : Int}

theorem Remembers.accept (inv : Remembers windowMs s) {c : Call} (positive : 0 < windowMs)
    (through : dropped windowMs s c = false) (last : ForgetsLast s c) :
    Remembers windowMs
      ⟨remember s.lastSeen (key c.error) c.now, (key c.error, c.now) :: s.accepted⟩ := by
  have bounded : s.lastSeen.keys.length ≤ maxKeys := by
    rw [EntryMap.length_keys]
    exact inv.bounded
  obtain ⟨shorter, own, others_⟩ := get?_remember bounded (key c.error) c.now
  refine ⟨by rwa [← EntryMap.length_keys], fun recent k t older log room => ?_⟩
  rcases List.cons_eq_append_iff.mp log with ⟨rfl, same⟩ | ⟨recent', rfl, log'⟩
  · obtain ⟨first, -⟩ := List.cons.inj same
    cases first
    exact ⟨c.now, own, Or.inl rfl⟩
  · have fewer : (others k recent').length ≤ (others k ((key c.error, c.now) :: recent')).length := by
      refine le_length_others (List.nodup_dedup _) fun j member => ?_
      obtain ⟨apart, t, found⟩ := mem_others.mp member
      exact mem_others.mpr ⟨apart, t, List.mem_cons_of_mem _ found⟩
    obtain ⟨t', stored, later⟩ := inv.recent recent' k t older log' (Nat.lt_of_le_of_lt fewer room)
    by_cases again : k = key c.error
    · subst again
      refine ⟨c.now, own, Or.inr ?_⟩
      have waited : ¬c.now - t' < windowMs := by
        intro within
        simp [dropped, positive, stored, within] at through
      omega
    · refine ⟨t', ?_, later⟩
      rcases others_ k again with kept | ⟨new, full, oldest⟩
      · rw [kept]
        exact stored
      · exfalso
        have full' : ¬s.lastSeen.entries.length < maxKeys := by
          rw [← EntryMap.length_keys]
          omega
        simp only [ForgetsLast, new, Option.isSome_none, full', decide_false, Bool.false_or, oldest,
          Option.all_some, decide_eq_true_eq] at last
        have count : (key c.error :: since k s).dedup.length ≤
            (others k ((key c.error, c.now) :: recent')).length := by
          refine le_length_others (List.nodup_dedup _) fun j member => ?_
          rcases List.mem_cons.mp (List.mem_dedup.mp member) with rfl | after
          · exact mem_others.mpr ⟨Ne.symm again, c.now, List.mem_cons_self⟩
          · obtain ⟨apart, t'', found⟩ := mem_since log' after
            exact mem_others.mpr ⟨apart, t'', List.mem_cons_of_mem (key c.error, c.now) found⟩
        omega

theorem Remembers.holds (inv : Remembers windowMs s) (c : Call) (positive : 0 < windowMs) :
    Holds windowMs s c := by
  intro recent t older log within room
  obtain ⟨t', stored, same | later⟩ := inv.recent recent (key c.error) t older log room
  · simp [dropped, positive, stored, same, within]
  · have before : c.now - t' < windowMs := by omega
    simp [dropped, positive, stored, before]

theorem remembers_start (windowMs : Int) : Remembers windowMs .start where
  bounded := Nat.zero_le _
  recent recent k t older log _ := by
    rw [State.start, eq_comm, List.append_eq_nil_iff] at log
    cases log.2

theorem remembers_step (positive : 0 < windowMs) (s : State) (c : Call) (inv : Remembers windowMs s)
    (last : ForgetsLast s c) :
    Remembers windowMs ((machine windowMs).step s c) := by
  change Remembers windowMs (shouldThrottle windowMs s c)
  unfold shouldThrottle
  rw [if_neg (by omega)]
  split
  · exact inv
  · rename_i through
    exact inv.accept positive (by simpa using through) last

theorem run_off (off : windowMs ≤ 0) (s : State) (calls : List Call) :
    (machine windowMs).run s calls = s := by
  induction calls generalizing s with
  | nil => rfl
  | cons c calls ih =>
    have same : (machine windowMs).step s c = s := if_pos off
    rw [Transition.Machine.run_cons, same, ih]

/-- In every run in which whatever is forgotten is the one let through longest ago, an error that
was let through less than a window ago is dropped, provided fewer others than the map holds were
let through since. -/
theorem dropped_within (windowMs : Int) (calls : List Call)
    (guarded : (machine windowMs).Guarded (fun s c => ForgetsLast s c) .start calls) (c : Call) :
    Holds windowMs ((machine windowMs).run .start calls) c := by
  by_cases positive : 0 < windowMs
  · have inv := (machine windowMs).invariant_guarded (Remembers windowMs) (remembers_step positive)
      (remembers_start windowMs) guarded
    exact inv.holds c positive
  · rw [run_off (by omega)]
    intro recent t older log
    rw [State.start, eq_comm, List.append_eq_nil_iff] at log
    cases log.2

/-- An error of its own type for every number. -/
def numbered (n : Nat) : CapturedError := ⟨[n.toUInt16], [], []⟩

theorem dropped_within_again : (machine 1000).Guarded (fun s c => ForgetsLast s c) .start
      [⟨numbered 0, 0⟩, ⟨numbered 1, 10⟩] ∧
    Holds 1000 ((machine 1000).run .start [⟨numbered 0, 0⟩, ⟨numbered 1, 10⟩]) ⟨numbered 0, 20⟩ :=
  ⟨by decide +kernel, dropped_within 1000 _ (by decide +kernel) ⟨numbered 0, 20⟩⟩

theorem key_numbered_inj {i j : Nat} (small : i < 65536) (small' : j < 65536)
    (same : key (numbered i) = key (numbered j)) : i = j := by
  have first : i.toUInt16 = j.toUInt16 := (List.cons.inj same).1
  have values := congrArg UInt16.toNat first
  simpa [Nat.mod_eq_of_lt small, Nat.mod_eq_of_lt small'] using values

/-- The first errors, all at once. -/
def storm (n : Nat) : List Call := (List.range n).map fun i => ⟨numbered i, 0⟩

theorem run_storm (n : Nat) (room : n ≤ maxKeys) :
    ((machine 1000).run .start (storm n)).lastSeen.keys = (List.range n).map (key ∘ numbered) ∧
      ∀ i < n, ((machine 1000).run .start (storm n)).lastSeen.get? (key (numbered i)) = some 0 := by
  have small : maxKeys < 65536 := by decide
  induction n with
  | zero => exact ⟨rfl, nofun⟩
  | succ n ih =>
    obtain ⟨keys, stored⟩ := ih (by omega)
    rw [storm, List.range_succ, List.map_append, Transition.Machine.run_append]
    rw [storm] at keys stored
    generalize (machine 1000).run .start _ = s at keys stored ⊢
    have new : s.lastSeen.get? (key (numbered n)) = none := by
      rw [EntryMap.get?_eq_none_iff, keys, List.mem_map]
      rintro ⟨i, member, same⟩
      have earlier := List.mem_range.mp member
      have same := key_numbered_inj (by omega) (by omega) same
      omega
    have keys' : (s.lastSeen.set (key (numbered n)) 0).keys =
        (List.range n).map (key ∘ numbered) ++ [key (numbered n)] := by
      rw [EntryMap.keys_set, new, keys]
      rfl
    have short : ¬maxKeys < (s.lastSeen.set (key (numbered n)) 0).entries.length := by
      rw [← EntryMap.length_keys, keys', List.length_append, List.length_map, List.length_range,
        List.length_singleton]
      omega
    have after : (machine 1000).run s [⟨numbered n, 0⟩] =
        ⟨s.lastSeen.set (key (numbered n)) 0, (key (numbered n), 0) :: s.accepted⟩ := by
      simp [machine, shouldThrottle, dropped, new, remember, short]
    rw [List.map_singleton, after]
    refine ⟨by rw [keys', List.map_append]; rfl, fun i before => ?_⟩
    rw [EntryMap.get?_set]
    split
    · rfl
    · rename_i other
      refine stored i (Nat.lt_of_le_of_ne (by omega) fun same => other ?_)
      rw [same]

/-- As many errors as the map holds, the first of them again a window later, and a new one. -/
def repeatedFirst : List Call :=
  storm maxKeys ++ [⟨numbered 0, 1000⟩, ⟨numbered maxKeys, 1001⟩]

/-- The error that was just let through again is the one that is forgotten. -/
theorem not_dropped_within : ¬∀ (windowMs : Int) (calls : List Call) (c : Call),
    Holds windowMs ((machine windowMs).run .start calls) c := by
  intro holds
  obtain ⟨keys, stored⟩ := run_storm maxKeys le_rfl
  have again := holds 1000 repeatedFirst ⟨numbered 0, 1002⟩
  rw [repeatedFirst, Transition.Machine.run_append] at again
  generalize (machine 1000).run .start _ = s at keys stored again
  have first : s.lastSeen.get? (key (numbered 0)) = some 0 := stored 0 (by decide)
  have keys₁ : (s.lastSeen.set (key (numbered 0)) 1000).keys = s.lastSeen.keys := by
    rw [EntryMap.keys_set, first]
    rfl
  have short : ¬maxKeys < (s.lastSeen.set (key (numbered 0)) 1000).entries.length := by
    rw [← EntryMap.length_keys, keys₁, keys, List.length_map, List.length_range]
    omega
  have new : (s.lastSeen.set (key (numbered 0)) 1000).get? (key (numbered maxKeys)) = none := by
    rw [EntryMap.get?_eq_none_iff, keys₁, keys, List.mem_map]
    rintro ⟨i, member, same⟩
    have earlier := List.mem_range.mp member
    have small : maxKeys < 65536 := by decide
    have same := key_numbered_inj (by omega) small same
    omega
  have keys₂ : ((s.lastSeen.set (key (numbered 0)) 1000).set (key (numbered maxKeys)) 1001).keys =
      s.lastSeen.keys ++ [key (numbered maxKeys)] := by
    rw [EntryMap.keys_set, new, keys₁]
    rfl
  have full : maxKeys <
      ((s.lastSeen.set (key (numbered 0)) 1000).set (key (numbered maxKeys)) 1001).entries.length := by
    rw [← EntryMap.length_keys, keys₂, keys, List.length_append, List.length_map, List.length_range,
      List.length_singleton]
    omega
  have head : (s.lastSeen.keys ++ [key (numbered maxKeys)]).head? = some (key (numbered 0)) := by
    rw [keys]
    rfl
  have after : (machine 1000).run s [⟨numbered 0, 1000⟩, ⟨numbered maxKeys, 1001⟩] =
      ⟨((s.lastSeen.set (key (numbered 0)) 1000).set (key (numbered maxKeys)) 1001).delete
        (key (numbered 0)), (key (numbered maxKeys), 1001) :: (key (numbered 0), 1000) :: s.accepted⟩ := by
    simp [machine, shouldThrottle, dropped, first, new, remember, short, full, keys₂, head]
  rw [after] at again
  have dropped_ := again [(key (numbered maxKeys), 1001)] 1000 _ rfl (by decide) (by decide)
  simp [dropped, EntryMap.get?_delete] at dropped_

variable (windowMs)

/-- The map never outgrows its limit, and an error is dropped only within a window of when its key
was last let through. -/
def Truthful (s : State) : Prop :=
  s.lastSeen.keys.length ≤ maxKeys ∧ ∀ c, dropped windowMs s c = true →
    ∃ prev, s.accepted.lookup (key c.error) = some prev ∧ c.now - prev < windowMs

/-- The map tells of the log, and of nothing else. -/
def Recorded (s : State) : Prop :=
  s.lastSeen.keys.length ≤ maxKeys ∧ ∀ k t, s.lastSeen.get? k = some t → s.accepted.lookup k = some t

theorem get?_of_remember {m : EntryMap CodeUnits Int} {k j : CodeUnits} {now t : Int}
    (found : (remember m k now).get? j = some t) : (m.set k now).get? j = some t := by
  unfold remember at found
  dsimp only at found
  split at found
  · split at found
    · rw [EntryMap.get?_delete] at found
      split at found
      · cases found
      · exact found
    · exact found
  · exact found

theorem recorded_step (s : State) (c : Call) (recorded : Recorded s) :
    Recorded (shouldThrottle windowMs s c) := by
  unfold shouldThrottle
  split
  · exact recorded
  split
  · exact recorded
  refine ⟨(get?_remember recorded.1 (key c.error) c.now).1, fun k t found => ?_⟩
  have before := get?_of_remember found
  rw [EntryMap.get?_set] at before
  rw [List.lookup_cons]
  split at before
  · rename_i own
    rw [own, beq_self_eq_true]
    exact before
  · rename_i other
    rw [beq_eq_false_iff_ne.mpr other]
    exact recorded.2 k t before

theorem truthful_run (calls : List Call) : Truthful windowMs ((machine windowMs).run .start calls) := by
  have empty : Recorded .start := ⟨Nat.zero_le _, fun k t found => by cases found⟩
  have recorded := (machine windowMs).invariant_run Recorded (recorded_step windowMs) empty calls
  refine ⟨recorded.1, fun c drops => ?_⟩
  obtain ⟨prev, seen, recent⟩ := (Option.any_eq_true ..).mp ((Bool.and_eq_true ..).mp drops).2
  exact ⟨prev, recorded.2 _ prev seen, of_decide_eq_true recent⟩

end Opslane.Sdk.Throttle
