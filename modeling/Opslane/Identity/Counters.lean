import Opslane.Identity.AliasAgreement
import Opslane.Identity.Receipts

/-!
# Counters

Settlement maintains an issue's counters and both rollups one observation at a time;
a merge rebuilds the winner's from scratch. On every run of the identity package the
two agree with the observations attached to the issue.
-/

namespace Opslane.Identity

/-- The observations attached to an issue. -/
def attachedEvents (s : Store) (issueID : UUID) : List ErrorEvent :=
  s.events.select fun ev => ev.errorGroupID = some issueID

/-- The settled identities that point at an issue. -/
def settledIdentities (s : Store) (issueID : UUID) : List EventIdentity :=
  s.identities.select fun i => i.status = .settled ∧ i.canonicalIssueID = some issueID

/-- The counters and rollups of one issue are those of its attached observations. -/
structure CountsAgree (s : Store) (g : ErrorGroup) : Prop where
  span : Span.of ((attachedEvents s g.id).map ErrorEvent.timestamp) =
    some ⟨g.firstSeen, g.lastSeen, g.occurrenceCount⟩
  environments : ∀ k, s.environments.find? (g.id, k) =
    (memberSpan (fun ev => some ev.environmentID) (attachedEvents s g.id) k).map
      fun span => ⟨g.id, k, span⟩
  affectedUsers : ∀ k, s.affectedUsers.find? (g.id, k) =
    (memberSpan ErrorEvent.endUserID (attachedEvents s g.id) k).map fun span => ⟨g.id, k, span⟩
  userCount : g.affectedUsersCount = countRollups s.affectedUsers g.id

/-- Every issue that lost no merge counts its observations, and an issue that does
not exist has no rollup. -/
structure Counted (s : Store) : Prop where
  live : ∀ i g, s.groups.find? i = some g → ¬s.Lost i → CountsAgree s g
  absent : ∀ i, s.groups.find? i = none → ∀ k,
    s.environments.find? (i, k) = none ∧ s.affectedUsers.find? (i, k) = none

theorem find?_upsertRollup (t : Table Rollup.key) (issueID memberID : UUID) (timestamp : Timestamp)
    (i k : UUID) :
    (upsertRollup t issueID memberID timestamp).find? (i, k) =
      if i = issueID ∧ k = memberID then
        some ⟨issueID, memberID, ((t.find? (issueID, memberID)).map Rollup.span).elim
          (Span.single timestamp) fun span => span.extend timestamp⟩
      else t.find? (i, k) := by
  rw [upsertRollup, Table.find?_upsert, Rollup.key]
  by_cases own : i = issueID ∧ k = memberID
  · obtain ⟨rfl, rfl⟩ := own
    rw [if_pos rfl, if_pos ⟨rfl, rfl⟩]
    cases found : t.find? (i, k) with
    | none => rfl
    | some r =>
      have key : r.key = (i, k) := Table.key_of_find? found
      obtain ⟨rfl, rfl⟩ := Prod.mk.inj key
      rfl
  · rw [if_neg own, if_neg fun same => own (Prod.mk.inj same)]

theorem countRollups_congr {t t' : Table Rollup.key} {i : UUID}
    (same : ∀ k, t.find? (i, k) = t'.find? (i, k)) : countRollups t i = countRollups t' i := by
  refine (t.select_perm (fun r => r.errorGroupID = i) (t'.nodup_select _) fun r => ?_).length_eq
  rw [Table.mem_select]
  simp only [decide_eq_true_eq, Rollup.key]
  refine and_congr_left ?_
  rintro rfl
  rw [same]

variable {t : Table Rollup.key}

theorem countRollups_eq_zero {i : UUID} (none : ∀ k, t.find? (i, k) = none) :
    countRollups t i = 0 := by
  rw [countRollups, List.length_eq_zero_iff, List.filter_eq_nil_iff]
  intro r member own
  have found := t.find?_key member
  simp only [decide_eq_true_eq] at own
  rw [Rollup.key, own, none] at found
  cases found

theorem memberSpan_cons (member : ErrorEvent → Option UUID) (ev : ErrorEvent)
    (events : List ErrorEvent) (k : UUID) :
    memberSpan member (ev :: events) k =
      if member ev = some k then
        some ((memberSpan member events k).elim (Span.single ev.timestamp)
          fun span => span.extend ev.timestamp)
      else memberSpan member events k := by
  unfold memberSpan
  rw [List.filter_cons]
  by_cases own : member ev = some k
  · rw [if_pos (decide_eq_true own), if_pos own, List.map_cons, Span.of_cons]
  · rw [if_neg (by simpa using own), if_neg own]

theorem memberSpan_perm (member : ErrorEvent → Option UUID) {events events' : List ErrorEvent}
    (perm : events.Perm events') (k : UUID) :
    memberSpan member events k = memberSpan member events' k :=
  Span.of_perm ((perm.filter _).map _)

theorem find?_upsertRollup_grouping {issueID memberID : UUID} {member : ErrorEvent → Option UUID}
    {events : List ErrorEvent} (ev : ErrorEvent) (named : member ev = some memberID)
    (agree : ∀ k, t.find? (issueID, k) =
      (memberSpan member events k).map fun span => ⟨issueID, k, span⟩) (k : UUID) :
    (upsertRollup t issueID memberID ev.timestamp).find? (issueID, k) =
      (memberSpan member (ev :: events) k).map fun span => ⟨issueID, k, span⟩ := by
  rw [find?_upsertRollup, memberSpan_cons, named]
  by_cases own : k = memberID
  · subst own
    rw [if_pos ⟨rfl, rfl⟩, if_pos rfl, agree]
    cases memberSpan member events k <;> rfl
  · rw [if_neg fun h => own h.2, if_neg fun h => own (Option.some.inj h).symm, agree]

theorem CountsAgree.congr {s s' : Store} {g g' : ErrorGroup} (agree : CountsAgree s g)
    (id : g'.id = g.id)
    (counters : g'.occurrenceCount = g.occurrenceCount ∧ g'.firstSeen = g.firstSeen ∧
      g'.lastSeen = g.lastSeen ∧ g'.affectedUsersCount = g.affectedUsersCount)
    (events : (attachedEvents s' g.id).Perm (attachedEvents s g.id))
    (environments : ∀ k, s'.environments.find? (g.id, k) = s.environments.find? (g.id, k))
    (affectedUsers : ∀ k, s'.affectedUsers.find? (g.id, k) = s.affectedUsers.find? (g.id, k)) :
    CountsAgree s' g' := by
  obtain ⟨count, first, last, users⟩ := counters
  refine ⟨?_, ?_, ?_, ?_⟩
  · rw [id, count, first, last, Span.of_perm (events.map _), agree.span]
  · intro k
    rw [id, environments, agree.environments, memberSpan_perm _ events]
  · intro k
    rw [id, affectedUsers, agree.affectedUsers, memberSpan_perm _ events]
  · rw [users, id, agree.userCount, countRollups_congr affectedUsers]

variable {s s' : Store}

section Settlement

variable {identity : EventIdentity} {ev : ErrorEvent} {candidates : List CandidateAlias}
  {resolvedFingerprint : String} {issueID episodeID freshIssue freshEpisode : UUID}
  {now : Timestamp}

theorem Settles.attachedEvents_perm
    (settles : Settles s s' identity ev candidates resolvedFingerprint issueID episodeID freshIssue
      freshEpisode now)
    (found : s.events.find? identity.eventID = some ev) (free : ev.errorGroupID = none) (i : UUID) :
    (attachedEvents s' i).Perm
      (if i = issueID then { ev with errorGroupID := some issueID } :: attachedEvents s i
       else attachedEvents s i) := by
  have events := settles.event_eq found
  have key : ev.id = identity.eventID := Table.key_of_find? found
  have detached : ∀ r ∈ attachedEvents s i, r.id ≠ identity.eventID := by
    intro r member same
    obtain ⟨found', own⟩ := (s.events.mem_select _ r).mp member
    rw [same, found, Option.some.injEq] at found'
    subst found'
    simp [free] at own
  refine s'.events.select_perm _ ?_ fun r => ?_
  · split
    · refine List.nodup_cons.mpr ⟨fun member => ?_, s.events.nodup_select _⟩
      exact detached _ member key
    · exact s.events.nodup_select _
  · rw [events]
    by_cases same : r.id = identity.eventID
    · have notOld : r ∉ attachedEvents s i := fun member => detached r member same
      rw [if_pos same]
      split
      · rename_i own
        simp only [List.mem_cons, notOld, or_false, Option.some.injEq, decide_eq_true_eq]
        constructor
        · rintro rfl
          exact ⟨rfl, by rw [own]⟩
        · exact fun h => h.1.symm
      · rename_i other
        simp only [notOld, Option.some.injEq, decide_eq_true_eq, false_iff]
        rintro ⟨rfl, own⟩
        exact other (Option.some.inj own).symm
    · rw [if_neg same]
      have unchanged : r ∈ attachedEvents s i ↔
          s.events.find? r.id = some r ∧ decide (r.errorGroupID = some i) = true :=
        s.events.mem_select _ r
      rw [← unchanged]
      split
      · rw [List.mem_cons]
        refine ⟨fun h => h.resolve_left ?_, Or.inr⟩
        rintro rfl
        exact same key
      · rfl

theorem settledGroup_counters (ev : ErrorEvent) (affectedUsers : Table Rollup.key)
    (g : ErrorGroup) :
    let g' := settledGroup ev affectedUsers g
    g'.id = g.id ∧ g'.occurrenceCount = g.occurrenceCount + 1 ∧
      g'.firstSeen = min g.firstSeen ev.timestamp ∧ g'.lastSeen = max g.lastSeen ev.timestamp ∧
      g'.affectedUsersCount =
        if ev.endUserID.isSome then countRollups affectedUsers g.id else g.affectedUsersCount := by
  unfold settledGroup
  split <;> exact ⟨rfl, rfl, rfl, rfl, rfl⟩

theorem Counted.settle_target (counted : Counted s) (wf : WellFormed s)
    (settles : Settles s s' identity ev candidates resolvedFingerprint issueID episodeID freshIssue
      freshEpisode now)
    (found : s.events.find? identity.eventID = some ev) (free : ev.errorGroupID = none)
    (live : ¬s.Lost issueID) :
    CountsAgree s' (settledGroup ev s'.affectedUsers (baseGroup s issueID ev)) := by
  have perm := settles.attachedEvents_perm found free issueID
  rw [if_pos rfl] at perm
  -- before: either the issue's counters agreed, or nothing was there yet
  obtain ⟨baseID, span, environments, affectedUsers, userCount⟩ :
      (baseGroup s issueID ev).id = issueID ∧
      Span.of ((ev :: attachedEvents s issueID).map ErrorEvent.timestamp) =
        some ⟨min (baseGroup s issueID ev).firstSeen ev.timestamp,
          max (baseGroup s issueID ev).lastSeen ev.timestamp,
          (baseGroup s issueID ev).occurrenceCount + 1⟩ ∧
      (∀ k, s.environments.find? (issueID, k) =
        (memberSpan (fun ev => some ev.environmentID) (attachedEvents s issueID) k).map
          fun span => ⟨issueID, k, span⟩) ∧
      (∀ k, s.affectedUsers.find? (issueID, k) =
        (memberSpan ErrorEvent.endUserID (attachedEvents s issueID) k).map
          fun span => ⟨issueID, k, span⟩) ∧
      (baseGroup s issueID ev).affectedUsersCount = countRollups s.affectedUsers issueID := by
    cases present : s.groups.find? issueID with
    | some g =>
      have key : g.id = issueID := Table.key_of_find? present
      obtain ⟨span, environments, affectedUsers, userCount⟩ := counted.live issueID g present live
      rw [key] at span environments affectedUsers userCount
      simp only [baseGroup, present, Option.getD_some]
      refine ⟨key, ?_, environments, affectedUsers, userCount⟩
      rw [List.map_cons, Span.of_cons, span]
      rfl
    | none =>
      have empty : attachedEvents s issueID = [] := by
        refine List.eq_nil_iff_forall_not_mem.mpr fun r member => ?_
        obtain ⟨foundEvent, own⟩ := (s.events.mem_select _ r).mp member
        obtain ⟨i, foundIdentity, handle⟩ := wf.identityOf foundEvent
        have known := wf.issue _ i issueID foundIdentity (handle ▸ by simpa using own)
        simp [present] at known
      have absent := counted.absent issueID present
      simp only [baseGroup, present, Option.getD_none, empty]
      refine ⟨rfl, by simp [canonicalIssue, Span.of_cons, Span.single], fun k => ?_, fun k => ?_, ?_⟩
      · simp [(absent k).1, memberSpan]
      · simp [(absent k).2, memberSpan]
      · exact (countRollups_eq_zero fun k => (absent k).2).symm
  obtain ⟨id, count, first, last, users⟩ :=
    settledGroup_counters ev s'.affectedUsers (baseGroup s issueID ev)
  rw [baseID] at id users
  refine ⟨?_, ?_, ?_, ?_⟩
  · rw [id, count, first, last, Span.of_perm (perm.map _), ← span]
    rfl
  · intro k
    rw [id, settles.environments, memberSpan_perm _ perm]
    exact find?_upsertRollup_grouping { ev with errorGroupID := some issueID } rfl environments k
  · intro k
    rw [id, settles.affectedUsers, memberSpan_perm _ perm]
    rcases user : ev.endUserID with _ | u
    · rw [Option.elim_none, memberSpan_cons, if_neg (by simp)]
      exact affectedUsers k
    · rw [Option.elim_some]
      exact find?_upsertRollup_grouping ⟨ev.id, ev.environmentID, ev.errorType, ev.errorMessage,
        ev.platform, some u, ev.timestamp, ev.createdAt, some issueID⟩ rfl affectedUsers k
  · rw [users, id]
    split
    · rfl
    · rename_i anonymous
      rw [userCount, settles.affectedUsers, Option.not_isSome_iff_eq_none.mp anonymous]
      rfl

theorem Counted.settle (counted : Counted s) (wf : WellFormed s)
    (settles : Settles s s' identity ev candidates resolvedFingerprint issueID episodeID freshIssue
      freshEpisode now)
    (found : s.events.find? identity.eventID = some ev) (free : ev.errorGroupID = none) :
    Counted s' := by
  have lost : ∀ i, s'.Lost i ↔ s.Lost i := by
    intro i
    rw [Store.Lost, Store.receipt?, settles.frame]
    rfl
  have rollups : ∀ i k, i ≠ issueID →
      s'.environments.find? (i, k) = s.environments.find? (i, k) ∧
      s'.affectedUsers.find? (i, k) = s.affectedUsers.find? (i, k) := by
    intro i k other
    rw [settles.environments, settles.affectedUsers, find?_upsertRollup,
      if_neg fun h => other h.1]
    refine ⟨rfl, ?_⟩
    cases ev.endUserID with
    | none => rfl
    | some u => rw [Option.elim_some, find?_upsertRollup, if_neg fun h => other h.1]
  refine ⟨?_, ?_⟩
  · intro i g' present live
    rw [lost] at live
    rw [settles.groups] at present
    by_cases own : i = issueID
    · subst own
      rw [if_pos rfl, Option.some.injEq] at present
      subst present
      exact counted.settle_target wf settles found free live
    · rw [if_neg own] at present
      have key : g'.id = i := Table.key_of_find? present
      subst key
      have perm := settles.attachedEvents_perm found free g'.id
      rw [if_neg own] at perm
      exact (counted.live g'.id g' present live).congr rfl ⟨rfl, rfl, rfl, rfl⟩ perm
        (fun k => (rollups _ k own).1) (fun k => (rollups _ k own).2)
  · intro i absent k
    rw [settles.groups] at absent
    split at absent
    · cases absent
    · rename_i other
      rw [(rollups i k other).1, (rollups i k other).2]
      exact counted.absent i absent k

end Settlement

theorem settledEvents_eq_attachedEvents (wf : WellFormed s) (issueID : UUID) :
    settledEvents s issueID = attachedEvents s issueID := by
  unfold settledEvents attachedEvents Table.select
  refine List.filter_congr fun ev member => ?_
  obtain ⟨i, found, handle⟩ := wf.identityOf (s.events.find?_key member)
  rw [found, Option.any_some, handle]
  by_cases named : i.canonicalIssueID = some issueID
  · have status := (wf.settled _ i found).mpr (by rw [named]; rfl)
    simp [named, status]
  · simp [named]

theorem Counted.merge (counted : Counted s) (wf : WellFormed s)
    {winnerID loserID episodeID freshEpisode : UUID} {now : Timestamp} {winner : ErrorGroup}
    (winnerFound : s.groups.find? winnerID = some winner) (distinct : winnerID ≠ loserID)
    (merges : Merges s s' winnerID loserID winner episodeID freshEpisode now) : Counted s' := by
  have wf' := wf.merge winnerFound distinct merges
  have key : winner.id = winnerID := Table.key_of_find? winnerFound
  have lost : ∀ i, s'.Lost i ↔ i = loserID ∨ s.Lost i := by
    intro i
    rw [lost_iff_map, lost_iff_map, merges.receipts]
    by_cases h : i = loserID <;> simp [h]
  have attached := settledEvents_eq_attachedEvents wf' winnerID
  refine ⟨?_, ?_⟩
  · intro i g' present live
    rw [lost, not_or] at live
    obtain ⟨notLoser, live⟩ := live
    rw [merges.groups] at present
    by_cases own : i = winnerID
    · subst own
      rw [if_pos rfl, Option.some.injEq, attached] at present
      subst present
      -- the winner kept at least the observations it had
      have nonempty : attachedEvents s' i ≠ [] := by
        have some' := Option.isSome_of_eq_some (counted.live i winner winnerFound live).span
        rw [Span.isSome_of_iff, Ne, List.map_eq_nil_iff, ← Ne, key,
          List.ne_nil_iff_exists_cons] at some'
        obtain ⟨ev, rest, list⟩ := some'
        have member : ev ∈ attachedEvents s i := by
          rw [list]
          exact List.mem_cons_self
        obtain ⟨found, mine⟩ := (s.events.mem_select _ ev).mp member
        obtain ⟨identity, foundIdentity, handle⟩ := wf.identityOf found
        have canonical : identity.canonicalIssueID = some i := handle ▸ by simpa using mine
        refine List.ne_nil_of_mem (a := { ev with errorGroupID := some i }) ?_
        refine (s'.events.mem_select _ _).mpr ⟨?_, by simp⟩
        rw [merges.events, found, Option.map_some, foundIdentity, Option.any_some, if_pos]
        simp [canonical]
      obtain ⟨span, spans⟩ : ∃ span,
          Span.of ((attachedEvents s' i).map ErrorEvent.timestamp) = some span := by
        rw [← Option.isSome_iff_exists, Span.isSome_of_iff]
        exact mt List.map_eq_nil_iff.mp nonempty
      have count : (attachedEvents s' i).length = span.count := by
        rw [← ((Span.of_eq_some_iff _ span).mp spans).2.2, List.length_map]
      refine ⟨?_, ?_, ?_, ?_⟩
      · simp only [rebuildCounters, key, spans, Option.map_some, Option.getD_some]
        rw [count]
      · intro k
        simp only [rebuildCounters, key]
        rw [merges.environments, if_pos rfl, attached]
      · intro k
        simp only [rebuildCounters, key]
        rw [merges.affectedUsers, if_pos rfl, attached]
      · simp only [rebuildCounters, key]
    · rw [if_neg own, if_neg notLoser] at present
      have key' : g'.id = i := Table.key_of_find? present
      subst key'
      refine (counted.live g'.id g' present live).congr rfl ⟨rfl, rfl, rfl, rfl⟩ ?_
        (fun k => ?_) (fun k => ?_)
      · refine s'.events.select_perm _ (s.events.nodup_select _) fun r => ?_
        have unchanged : r ∈ attachedEvents s g'.id ↔
            s.events.find? r.id = some r ∧ decide (r.errorGroupID = some g'.id) = true :=
          s.events.mem_select _ r
        rw [unchanged, merges.events, Option.map_eq_some_iff]
        simp only [decide_eq_true_eq]
        constructor
        · rintro ⟨found, mine⟩
          refine ⟨⟨r, found, if_neg ?_⟩, mine⟩
          obtain ⟨identity, foundIdentity, handle⟩ := wf.identityOf found
          rw [foundIdentity, Option.any_some, ← handle, mine]
          simp [own, notLoser]
        · rintro ⟨⟨ev, found, moved⟩, mine⟩
          split at moved
          · rw [← moved] at mine
            exact absurd (Option.some.inj mine).symm own
          · rw [moved] at found
            exact ⟨found, mine⟩
      · rw [merges.environments, if_neg own, if_neg notLoser]
      · rw [merges.affectedUsers, if_neg own, if_neg notLoser]
  · intro i absent k
    rw [merges.groups] at absent
    split at absent
    · cases absent
    · rename_i notWinner
      rw [merges.environments, merges.affectedUsers, if_neg notWinner, if_neg notWinner]
      split
      · exact ⟨rfl, rfl⟩
      · rename_i notLoser
        rw [if_neg notLoser] at absent
        exact counted.absent i absent k

theorem counted_empty (githubRepo : String) (installationID : Option Nat) :
    Counted (Store.empty githubRepo installationID) :=
  ⟨by simp [Store.empty], fun _ _ _ => ⟨rfl, rfl⟩⟩

theorem Counted.frame (counted : Counted s) (groups : s'.groups = s.groups)
    (merges : s'.merges = s.merges) (events : ∀ i, attachedEvents s' i = attachedEvents s i)
    (environments : s'.environments = s.environments)
    (affectedUsers : s'.affectedUsers = s.affectedUsers) : Counted s' := by
  refine ⟨?_, ?_⟩
  · intro i g present live
    rw [groups] at present
    rw [Store.Lost, Store.receipt?, merges] at live
    exact (counted.live i g present live).congr rfl ⟨rfl, rfl, rfl, rfl⟩ (by rw [events])
      (fun _ => by rw [environments]) (fun _ => by rw [affectedUsers])
  · intro i absent k
    rw [groups] at absent
    rw [environments, affectedUsers]
    exact counted.absent i absent k

theorem Counted.step (counted : Counted s) (wf : WellFormed s) (sha256 : String → Vector UInt8 32)
    (a : Action) : Counted (step sha256 s a) := by
  refine step_induction sha256 a counted ?_ ?_ ?_ ?_ ?_
  · intro s' eventID p now _ success
    obtain ⟨events, inserted, rest⟩ := Except.of_bind success
    obtain ⟨identities, -, rest⟩ := Except.of_bind rest
    rw [Option.orError_eq_ok_iff] at inserted
    cases rest
    refine counted.frame rfl rfl (fun i => ?_) rfl rfl
    -- the captured observation is attached to nothing
    simp only [attachedEvents, Table.select, (Table.insert?_spec inserted).2]
    rw [List.filter_cons, if_neg (by simp [CaptureParams.event])]
  · exact fun _ _ => counted.frame rfl rfl (fun _ => rfl) rfl rfl
  · exact fun _ _ _ _ _ => counted.frame rfl rfl (fun _ => rfl) rfl rfl
  · intro s' eventID identity freshIssue freshEpisode now result _ found did
    have key : identity.eventID = eventID := Table.key_of_find? found
    rw [← key] at found
    cases did with
    | retried _ unchanged =>
      rw [unchanged]
      exact counted
    | parked _ _ _ _ _ _ _ _ _ parks _ =>
      obtain ⟨_, _, -, rfl⟩ := parkConflict_effects parks
      exact counted.frame rfl rfl (fun _ => rfl) rfl rfl
    | attached _ _ _ _ _ _ _ _ _ unsettled _ _ steps _ =>
      obtain ⟨ev, foundEvent, free, settles⟩ := wf.settles found unsettled steps
      exact counted.settle wf settles foundEvent free
  · intro s' winnerID loserID confirmedBy actor freshEpisode now winner loser _ accepted
    obtain ⟨episodeID, merges⟩ := accepted.merges (wf.unopened accepted.winnerFound)
    exact counted.merge wf accepted.winnerFound accepted.distinct merges

theorem identityInvariant_database (sha256 : String → Vector UInt8 32) (githubRepo : UUID → String)
    (installationID : UUID → Option Nat) (actions : List (UUID × Action)) (projectID : UUID) :
    let s := (database sha256).run (emptyDatabase githubRepo installationID) actions projectID
    IdentityInvariant s ∧ Counted s := by
  intro s
  have run : s = (machine sha256).run (Store.empty (githubRepo projectID) (installationID projectID))
      (Transition.Machine.sentTo projectID actions) :=
    (machine sha256).pi_run_apply _ actions projectID
  rw [run]
  exact (machine sha256).invariant_run (fun s => IdentityInvariant s ∧ Counted s)
    (fun _ a inv => ⟨inv.1.step sha256 a, inv.2.step inv.1.wf sha256 a⟩)
    ⟨identityInvariant_empty _ _, counted_empty _ _⟩ _

theorem length_settledIdentities (wf : WellFormed s) (issueID : UUID) :
    (settledIdentities s issueID).length = (attachedEvents s issueID).length := by
  have nodupIdentities : ((settledIdentities s issueID).map EventIdentity.eventID).Nodup :=
    s.identities.unique.sublist (List.filter_sublist.map _)
  have nodupEvents : ((attachedEvents s issueID).map ErrorEvent.id).Nodup :=
    s.events.unique.sublist (List.filter_sublist.map _)
  have perm : ((settledIdentities s issueID).map EventIdentity.eventID).Perm
      ((attachedEvents s issueID).map ErrorEvent.id) := by
    refine (List.perm_ext_iff_of_nodup nodupIdentities nodupEvents).mpr fun e => ?_
    simp only [List.mem_map, settledIdentities, attachedEvents, Table.mem_select,
      decide_eq_true_eq]
    constructor
    · rintro ⟨i, ⟨found, -, canonical⟩, rfl⟩
      obtain ⟨ev, foundEvent, handle⟩ := wf.eventOf found
      have key : ev.id = i.eventID := Table.key_of_find? foundEvent
      exact ⟨ev, ⟨key ▸ foundEvent, handle.trans canonical⟩, key⟩
    · rintro ⟨ev, ⟨found, attached⟩, rfl⟩
      obtain ⟨i, foundIdentity, handle⟩ := wf.identityOf found
      have key : i.eventID = ev.id := Table.key_of_find? foundIdentity
      have canonical := handle.symm.trans attached
      exact ⟨i, ⟨key ▸ foundIdentity,
        (wf.settled _ i foundIdentity).mpr (by rw [canonical]; rfl), canonical⟩, key⟩
  simpa using perm.length_eq

/-- In every reachable state an issue that lost no merge has the counters and the
rollups of its observations, and every settled observation is counted in exactly one
issue, which is not a loser. -/
theorem counters_agree (sha256 : String → Vector UInt8 32) (githubRepo : UUID → String)
    (installationID : UUID → Option Nat) (actions : List (UUID × Action)) (projectID : UUID) :
    let s := (database sha256).run (emptyDatabase githubRepo installationID) actions projectID
    (∀ g ∈ s.groups.rows, ¬s.Lost g.id →
      g.occurrenceCount = (settledIdentities s g.id).length ∧
      g.occurrenceCount = (attachedEvents s g.id).length ∧
      ((attachedEvents s g.id).map ErrorEvent.timestamp).min? = some g.firstSeen ∧
      ((attachedEvents s g.id).map ErrorEvent.timestamp).max? = some g.lastSeen ∧
      (∀ environmentID, s.environments.find? (g.id, environmentID) =
        (Span.of (((attachedEvents s g.id).filter fun ev => ev.environmentID = environmentID).map
          ErrorEvent.timestamp)).map fun span => ⟨g.id, environmentID, span⟩) ∧
      (∀ userID, s.affectedUsers.find? (g.id, userID) =
        (Span.of (((attachedEvents s g.id).filter fun ev => ev.endUserID = some userID).map
          ErrorEvent.timestamp)).map fun span => ⟨g.id, userID, span⟩) ∧
      g.affectedUsersCount = (s.affectedUsers.select fun r => r.errorGroupID = g.id).length) ∧
    (∀ i ∈ s.identities.rows, i.status = .settled → ∃ g ∈ s.groups.rows, ¬s.Lost g.id ∧
      (∃ ev ∈ attachedEvents s g.id, ev.id = i.eventID) ∧
      ∀ g' ∈ s.groups.rows, (∃ ev ∈ attachedEvents s g'.id, ev.id = i.eventID) → g' = g) := by
  intro s
  obtain ⟨⟨wf, survivors, -⟩, counted⟩ :=
    identityInvariant_database sha256 githubRepo installationID actions projectID
  refine ⟨?_, ?_⟩
  · intro g member live
    obtain ⟨span, environments, affectedUsers, userCount⟩ :=
      counted.live g.id g (s.groups.find?_key member) live
    obtain ⟨first, last, count⟩ := (Span.of_eq_some_iff _ _).mp span
    rw [List.length_map] at count
    refine ⟨?_, count.symm, first, last, fun environmentID => ?_, affectedUsers, userCount⟩
    · exact count.symm.trans (length_settledIdentities wf g.id).symm
    · rw [environments, memberSpan]
      simp only [Option.some.injEq]
      rfl
  · intro i member settled
    have found := s.identities.find?_key member
    obtain ⟨issueID, canonical⟩ := Option.isSome_iff_exists.mp ((wf.settled _ i found).mp settled)
    obtain ⟨g, present⟩ := Option.isSome_iff_exists.mp (wf.issue _ i issueID found canonical)
    have key : g.id = issueID := Table.key_of_find? present
    obtain ⟨ev, foundEvent, handle⟩ := wf.eventOf found
    have eventKey : ev.id = i.eventID := Table.key_of_find? foundEvent
    refine ⟨g, Table.mem_of_find? present, ?_, ⟨ev, ?_, eventKey⟩, ?_⟩
    · rw [key]
      exact survivors.settledLive _ i issueID found canonical
    · refine (s.events.mem_select _ ev).mpr ⟨eventKey ▸ foundEvent, ?_⟩
      rw [handle, canonical, key, decide_eq_true_eq]
    · rintro g' member' ⟨ev', attached, sameEvent⟩
      obtain ⟨foundEvent', mine⟩ := (s.events.mem_select _ ev').mp attached
      rw [sameEvent, foundEvent, Option.some.injEq] at foundEvent'
      subst foundEvent'
      rw [handle, canonical, decide_eq_true_eq, Option.some.injEq] at mine
      have found' := s.groups.find?_key member'
      rw [← mine, present, Option.some.injEq] at found'
      exact found'.symm

end Opslane.Identity
