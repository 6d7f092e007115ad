import Opslane.Identity.Merge

/-!
# Effects of a merge

What an accepted merge leaves in each table, in terms of the tables before it;
for the winner's rollups, in terms of the observations it holds afterwards.
-/

namespace Opslane.Identity

open Delivery

/-- The span of the members with one key. -/
def memberSpan (member : ErrorEvent → Option UUID) (events : List ErrorEvent) (k : UUID) :
    Option (Span Timestamp) :=
  Span.of ((events.filter fun ev => member ev = some k).map ErrorEvent.timestamp)

theorem mem_regroup (issueID : UUID) (member : ErrorEvent → Option UUID)
    (events : List ErrorEvent) (r : Rollup) :
    r ∈ regroup issueID member events ↔
      r.errorGroupID = issueID ∧ memberSpan member events r.memberID = some r.span := by
  simp only [regroup, List.mem_filterMap, List.mem_dedup, Option.map_eq_some_iff]
  constructor
  · rintro ⟨k, -, span, spans, rfl⟩
    exact ⟨rfl, spans⟩
  · rintro ⟨rfl, spans⟩
    refine ⟨r.memberID, ?_, r.span, spans, rfl⟩
    have nonempty := (Span.isSome_of_iff _).mp (Option.isSome_of_eq_some spans)
    rw [Ne, List.map_eq_nil_iff, ← Ne, List.ne_nil_iff_exists_cons] at nonempty
    obtain ⟨ev, rest, list⟩ := nonempty
    have member' : ev ∈ events.filter fun ev => member ev = some r.memberID := by
      rw [list]
      exact List.mem_cons_self
    rw [List.mem_filter, decide_eq_true_eq] at member'
    exact ⟨ev, member'⟩

theorem nodup_regroup (issueID : UUID) (member : ErrorEvent → Option UUID)
    (events : List ErrorEvent) : ((regroup issueID member events).map Rollup.key).Nodup := by
  rw [regroup, List.map_filterMap]
  refine (List.nodup_dedup _).filterMap fun a a' b memA memA' => ?_
  simp only [Option.map_map, Option.mem_def, Option.map_eq_some_iff, Function.comp_apply,
    Rollup.key] at memA memA'
  obtain ⟨_, -, rfl⟩ := memA
  obtain ⟨_, -, same⟩ := memA'
  exact (Prod.mk.inj same).2.symm

theorem find?_rebuildRollups {t t' : Table Rollup.key} {winnerID loserID : UUID}
    {member : ErrorEvent → Option UUID} {events : List ErrorEvent}
    (success : rebuildRollups t winnerID loserID (regroup winnerID member events) = some t')
    (i k : UUID) :
    t'.find? (i, k) =
      if i = winnerID then (memberSpan member events k).map fun span => ⟨winnerID, k, span⟩
      else if i = loserID then none else t.find? (i, k) := by
  have nodup := nodup_regroup winnerID member events
  have cleared : ∀ q, (t.deleteWhere fun r => r.errorGroupID = winnerID ∨
      r.errorGroupID = loserID).find? (i, q) =
      if i = winnerID ∨ i = loserID then none else t.find? (i, q) := by
    intro q
    rw [Table.find?_deleteWhere]
    cases found : t.find? (i, q) with
    | none => simp
    | some r =>
      have key : r.errorGroupID = i := congrArg Prod.fst (Table.key_of_find? found)
      by_cases h : i = winnerID ∨ i = loserID <;> simp [Option.filter, key, h]
  obtain ⟨t'', all, lookup⟩ := Table.exists_insertAll?
    (t.deleteWhere fun r => r.errorGroupID = winnerID ∨ r.errorGroupID = loserID)
    (regroup winnerID member events) nodup (by
      intro r memR
      obtain ⟨rfl, -⟩ := (mem_regroup winnerID member events r).mp memR
      rw [Rollup.key, Table.find?_eq_none_iff]
      intro old memOld same
      have gone := (List.mem_filter.mp memOld).2
      have key : old.errorGroupID = r.errorGroupID := congrArg Prod.fst same
      simp [key] at gone)
  rw [rebuildRollups, all, Option.some.injEq] at success
  subst success
  have rebuilt : ((regroup winnerID member events).find? fun r => r.key = (i, k)) =
      if i = winnerID then (memberSpan member events k).map fun span => ⟨winnerID, k, span⟩
      else none := by
    have table : ((regroup winnerID member events).find? fun r => r.key = (i, k)) =
      (Table.mk (regroup winnerID member events) nodup : Table Rollup.key).find? (i, k) := rfl
    rw [table]
    ext r
    rw [Table.find?_eq_some_iff, mem_regroup, Rollup.key, Prod.mk.injEq]
    split
    · rename_i same
      simp only [Option.map_eq_some_iff]
      constructor
      · rintro ⟨⟨group, spans⟩, -, rfl⟩
        exact ⟨r.span, spans, by rw [← group]⟩
      · rintro ⟨span, spans, rfl⟩
        exact ⟨⟨rfl, spans⟩, same.symm, rfl⟩
    · rename_i differ
      simp only [reduceCtorEq, iff_false]
      rintro ⟨⟨group, -⟩, rfl, -⟩
      exact differ group
  rw [lookup, rebuilt, cleared]
  by_cases winner : i = winnerID
  · simp [winner]
  · by_cases loser : i = loserID <;> simp [winner, loser]

inductive WinnerRound (before after : Episodes) (winner : ErrorGroup) (episodeID fresh : UUID)
    (now : Timestamp) : Prop where
  | told (resolved : winner.status = .resolved) (same : after = before)
      (latest : ∃ ep, before.latest? winner.id = some ep ∧ ep.id = episodeID)
  | first (resolved : winner.status = .resolved) (none : before.latest? winner.id = none)
      (free : before.table.find? fresh = Option.none)
      (rows : ∃ closed, after.rows = ⟨fresh, winner.id, before.lastSequence winner.id + 1, now,
        some closed⟩ :: before.rows)
  | live (unresolved : winner.status ≠ .resolved)
      (opens : OpensRound before after winner.id episodeID fresh now)

theorem winnerEpisode_effects {s s₁ : Store} {winnerID fresh episodeID : UUID} {now : Timestamp}
    {winner : ErrorGroup} (found : s.groups.find? winnerID = some winner)
    (unopened : winner.status = .resolved → s.episodes.open? winnerID = none)
    (success : winnerEpisode s winnerID winner.status fresh now = .ok (s₁, episodeID)) :
    s₁ = { s with episodes := s₁.episodes } ∧
      WinnerRound s.episodes s₁.episodes winner episodeID fresh now := by
  have key : winner.id = winnerID := Table.key_of_find? found
  unfold winnerEpisode at success
  split at success
  · rename_i resolved
    split at success
    · rename_i ep latest
      cases success
      exact ⟨rfl, .told resolved rfl ⟨ep, key ▸ latest, rfl⟩⟩
    · rename_i latest
      obtain ⟨⟨s₂, id⟩, opened, pair⟩ := Except.of_bind success
      cases pair
      have opens := OpenOrGetEpisode_effects opened
      refine ⟨by rw [opens.frame], ?_⟩
      cases opens.round with
      | reused _ isOpen =>
        obtain ⟨ep, isOpen, -⟩ := isOpen
        rw [unopened resolved] at isOpen
        cases isOpen
      | opened _ id free rows =>
        refine .first resolved (key ▸ latest) free
          ⟨((s₂.groups.find? winnerID).bind ErrorGroup.resolvedAt).getD now, ?_⟩
        simp only [Episodes.rows, Episodes.closeWhere, Table.updateWhere]
        rw [show s₂.episodes.table.rows = _ from rows, List.map_cons, id, key]
        simp only [decide_true, if_true]
        congr 1
        -- every earlier row has another id, since the fresh one was free
        refine (List.map_congr_left fun r member => ?_).trans (List.map_id _)
        have other : r.id ≠ fresh := (s.episodes.table.find?_eq_none_iff fresh).mp free r member
        simp [other]
  · rename_i unresolved
    have opens := OpenOrGetEpisode_effects success
    exact ⟨opens.frame, .live unresolved (key ▸ opens.round)⟩

/-- An identity whose issue lost the merge follows it to the winner. -/
def movedIdentity (winnerID loserID episodeID : UUID) (i : EventIdentity) : EventIdentity :=
  if i.canonicalIssueID = some loserID then
    { i with canonicalIssueID := some winnerID, episodeID := some episodeID }
  else i

/-- A parked identity whose conflict the merge mooted is pending again. -/
def requeuedIdentity (conflicts : Table AliasConflict.key) (winnerID loserID : UUID)
    (i : EventIdentity) : EventIdentity :=
  if i.status = .conflict ∧ Mooted conflicts winnerID loserID i.eventID then
    { i with status := .pending, claimedAt := none }
  else i

structure Merges (s s' : Store) (winnerID loserID : UUID) (winner : ErrorGroup)
    (episodeID freshEpisode : UUID) (now : Timestamp) : Prop where
  frame : s' = { s with groups := s'.groups, events := s'.events, identities := s'.identities,
                        fingerprints := s'.fingerprints, episodes := s'.episodes,
                        merges := s'.merges, conflicts := s'.conflicts,
                        environments := s'.environments, affectedUsers := s'.affectedUsers }
  bound : ∀ v f, s'.bound v f =
    (s.bound v f).map fun i => if i = loserID then winnerID else i
  receipts : ∀ j, (s'.receipt? j).map IssueMerge.winnerID =
    if j = loserID then some winnerID else (s.receipt? j).map IssueMerge.winnerID
  identities : ∀ e, s'.identities.find? e = (s.identities.find? e).map fun i =>
    requeuedIdentity s'.conflicts winnerID loserID (movedIdentity winnerID loserID episodeID i)
  events : ∀ e, s'.events.find? e = (s.events.find? e).map fun ev =>
    if (s.identities.find? ev.id).any (fun i => i.canonicalIssueID = some winnerID ∨
      i.canonicalIssueID = some loserID) then { ev with errorGroupID := some winnerID } else ev
  groups : ∀ j, s'.groups.find? j =
    if j = winnerID then some { rebuildCounters (settledEvents s' winnerID) winner with
      affectedUsersCount := countRollups s'.affectedUsers winnerID }
    else if j = loserID then (s.groups.find? j).map (markMerged now)
    else s.groups.find? j
  environments : ∀ i k, s'.environments.find? (i, k) =
    if i = winnerID then
      (memberSpan (fun ev => some ev.environmentID) (settledEvents s' winnerID) k).map
        fun span => ⟨winnerID, k, span⟩
    else if i = loserID then none else s.environments.find? (i, k)
  affectedUsers : ∀ i k, s'.affectedUsers.find? (i, k) =
    if i = winnerID then
      (memberSpan ErrorEvent.endUserID (settledEvents s' winnerID) k).map
        fun span => ⟨winnerID, k, span⟩
    else if i = loserID then none else s.affectedUsers.find? (i, k)
  conflicts : s'.conflicts = resolveConflicts s.conflicts winnerID loserID
  round : ∃ mid, WinnerRound s.episodes mid winner episodeID freshEpisode now ∧
    s'.episodes = mid.close loserID now

theorem settledEvents_requeueMooted (s : Store) (winnerID loserID i : UUID) :
    settledEvents (requeueMooted s winnerID loserID) i = settledEvents s i := by
  unfold settledEvents requeueMooted
  simp only [Table.select, Table.find?_updateWhere]
  refine List.filter_congr fun ev _ => ?_
  cases s.identities.find? ev.id with
  | none => rfl
  | some identity =>
    simp only [Option.map_some, Option.any_some]
    split
    · rename_i requeued
      simp only [decide_eq_true_eq] at requeued
      simp [requeued.1]
    · rfl

theorem Accepted.merges {s s' : Store} {winnerID loserID : UUID} {confirmedBy : ConfirmedBy}
    {actor : String} {freshEpisode : UUID} {now : Timestamp} {winner loser : ErrorGroup}
    (accepted : Accepted s s' winnerID loserID confirmedBy actor freshEpisode now winner loser)
    (unopened : winner.status = .resolved → s.episodes.open? winnerID = none) :
    ∃ episodeID, Merges s s' winnerID loserID winner episodeID freshEpisode now := by
  obtain ⟨⟨s₁, episodeID⟩, episode, run⟩ := Except.of_bind accepted.applies
  obtain ⟨frame₁, round⟩ := winnerEpisode_effects accepted.winnerFound unopened episode
  obtain ⟨s₂, rebuild, run⟩ := Except.of_bind run
  obtain ⟨merges, inserted, run⟩ := Except.of_bind run
  obtain ⟨environments, envs, rebuild⟩ := Except.of_bind rebuild
  obtain ⟨affectedUsers, users, rebuild⟩ := Except.of_bind rebuild
  rw [Option.orError_eq_ok_iff] at inserted envs users
  rw [Except.ok.injEq] at rebuild run
  have settled : settledEvents s' winnerID =
      settledEvents (moveObservations s₁ winnerID loserID confirmedBy episodeID now) winnerID := by
    rw [← run, settledEvents_requeueMooted, ← rebuild]
    rfl
  have groups₁ : s₁.groups = s.groups := by rw [frame₁]
  have winnerFound : s₁.groups.find? winnerID = some winner := by
    rw [groups₁]
    exact accepted.winnerFound
  refine ⟨episodeID,
    { frame := ?_, bound := ?_, receipts := ?_, identities := ?_, events := ?_, groups := ?_,
      environments := ?_, affectedUsers := ?_, conflicts := ?_, round := ?_ }⟩
  · rw [← run, ← rebuild, frame₁]
    rfl
  · intro v f
    rw [← run, ← rebuild]
    simp only [Store.bound, requeueMooted, retireLoser, moveObservations, Table.find?_updateWhere]
    rw [frame₁]
    cases s.fingerprints.find? (v, f) with
    | none => rfl
    | some a =>
      simp only [Option.map_some, decide_eq_true_eq]
      split <;> rfl
  · intro j
    rw [← run]
    simp only [Store.receipt?, requeueMooted]
    rw [Table.find?_insert? inserted, ← rebuild]
    simp only [mergeReceipt, moveObservations]
    rw [frame₁]
    by_cases same : j = loserID <;> simp [same]
  · intro e
    rw [← run, ← rebuild]
    simp only [requeueMooted, retireLoser, moveObservations, Table.find?_updateWhere,
      Option.map_map]
    rw [frame₁]
    cases s.identities.find? e with
    | none => rfl
    | some i =>
      simp only [Option.map_some, Function.comp_apply, decide_eq_true_eq, requeuedIdentity,
        movedIdentity]
      rfl
  · intro e
    rw [← run, ← rebuild]
    simp only [requeueMooted, retireLoser, moveObservations, Table.find?_updateWhere]
    rw [frame₁]
    cases s.events.find? e with
    | none => rfl
    | some ev =>
      simp only [Option.map_some, Option.some.injEq]
      congr 1
      cases s.identities.find? ev.id with
      | none => rfl
      | some i =>
        simp only [Option.map_some, Option.any_some, decide_eq_true_eq]
        by_cases lost : i.canonicalIssueID = some loserID <;> simp [lost]
  · intro j
    rw [settled, ← run, ← rebuild]
    simp only [requeueMooted, retireLoser, moveObservations, Table.find?_updateKey]
    by_cases isWinner : j = winnerID
    · subst isWinner
      simp [accepted.distinct, winnerFound]
    · by_cases isLoser : j = loserID
      · subst isLoser
        simp [isWinner, groups₁]
      · simp [isWinner, isLoser, groups₁]
  · intro i k
    rw [settled, ← run, ← rebuild]
    simp only [requeueMooted, retireLoser]
    rw [find?_rebuildRollups envs]
    simp only [moveObservations]
    rw [frame₁]
  · intro i k
    rw [settled, ← run, ← rebuild]
    simp only [requeueMooted, retireLoser]
    rw [find?_rebuildRollups users]
    simp only [moveObservations]
    rw [frame₁]
  · rw [← run, ← rebuild]
    simp only [requeueMooted, retireLoser, moveObservations]
    rw [frame₁]
  · refine ⟨s₁.episodes, round, ?_⟩
    rw [← run, ← rebuild]
    rfl

end Opslane.Identity
