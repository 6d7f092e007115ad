import Opslane.Identity.Observation

/-!
# Confirmed merges

`ConfirmMerge` of `packages/ingestion/identity/merge.go`, the only identity
operation that moves observations. It refuses on the issues' current statuses and
on the loser's receipt, then redirects everything that points at the loser and
rebuilds the winner's rollups from its settled observations.
-/

namespace Opslane.Identity

/-- Both issues' statuses, winner first. -/
def lockMergeIssues (s : Store) (winnerID loserID : UUID) :
    Except String (GroupStatus × GroupStatus) := do
  let winner ← (s.groups.find? winnerID).orError "merge issue not found in project"
  let loser ← (s.groups.find? loserID).orError "merge issue not found in project"
  .ok (winner.status, loser.status)

/-- The event's identity is settled. -/
def hasSettledIdentity (s : Store) (ev : ErrorEvent) : Bool :=
  (s.identities.find? ev.id).any fun i => i.status = .settled

/-- An issue carries observations the rebuild below would lose. -/
def unmergeable (s : Store) (winnerID loserID : UUID) : Bool :=
  (s.groups.any fun g => (g.id = winnerID ∨ g.id = loserID) ∧ g.kind ≠ .error) ||
  (s.events.any fun ev => (ev.errorGroupID = some winnerID ∨ ev.errorGroupID = some loserID) ∧
    ¬hasSettledIdentity s ev)

/-- The episode belongs to one of the two issues. -/
def episodeOf (s : Store) (winnerID loserID episodeID : UUID) : Bool :=
  (s.episodes.table.find? episodeID).any fun ep =>
    ep.canonicalIssueID = winnerID ∨ ep.canonicalIssueID = loserID

/-- An issue was investigated or published. -/
def blocked (s : Store) (winnerID loserID : UUID) : Bool :=
  (s.investigateJobs.any fun j =>
    (j.errorGroupID = some winnerID ∨ j.errorGroupID = some loserID) ∨
      j.episodeID.any (episodeOf s winnerID loserID)) ||
  s.publications.any (episodeOf s winnerID loserID) ||
  s.deliveredItems.any fun i => i = winnerID ∨ i = loserID

/-- The winner's work round. A resolved winner must not gain an open round from
bookkeeping: merged-in observations belong to its already-told story. -/
def winnerEpisode (s : Store) (winnerID : UUID) (status : GroupStatus) (fresh : UUID)
    (now : Timestamp) : Except String (Store × UUID) :=
  if status = .resolved then
    match s.episodes.latest? winnerID with
    | some ep => .ok (s, ep.id)
    | none => do
      let (s, episodeID) ← OpenOrGetEpisode s winnerID fresh now
      let closed := ((s.groups.find? winnerID).bind ErrorGroup.resolvedAt).getD now
      .ok ({ s with episodes := s.episodes.closeWhere (fun ep => ep.id = episodeID)
                      fun _ => closed }, episodeID)
  else OpenOrGetEpisode s winnerID fresh now

/-- `UPDATE canonical_issue_fingerprints SET canonical_issue_id = winner`. -/
def redirectAlias (winnerID : UUID) (confirmedBy : ConfirmedBy) (now : Timestamp)
    (a : FingerprintAlias) : FingerprintAlias :=
  { a with canonicalIssueID := winnerID, confirmedBy, boundAt := now }

theorem redirectAlias_key (winnerID : UUID) (confirmedBy : ConfirmedBy) (now : Timestamp)
    (a : FingerprintAlias) : (redirectAlias winnerID confirmedBy now a).key = a.key := rfl

/-- The observations settled onto an issue. -/
def settledEvents (s : Store) (issueID : UUID) : List ErrorEvent :=
  s.events.select fun ev => (s.identities.find? ev.id).any fun i =>
    i.canonicalIssueID = some issueID ∧ i.status = .settled

/-- `SELECT min(timestamp), max(timestamp), count(*) ... GROUP BY member`. -/
def regroup (issueID : UUID) (member : ErrorEvent → Option UUID) (events : List ErrorEvent) :
    List Rollup :=
  (events.filterMap member).dedup.filterMap fun k =>
    (Span.of ((events.filter fun ev => member ev = some k).map ErrorEvent.timestamp)).map
      fun span => ⟨issueID, k, span⟩

/-- Clears the rollups of both issues and inserts the winner's rebuilt rows. -/
def rebuildRollups (t : Table Rollup.key) (winnerID loserID : UUID) (rows : List Rollup) :
    Option (Table Rollup.key) :=
  (t.deleteWhere fun r => r.errorGroupID = winnerID ∨ r.errorGroupID = loserID).insertAll? rows

/-- The winner's counters, recomputed from its settled observations. -/
def rebuildCounters (events : List ErrorEvent) (g : ErrorGroup) : ErrorGroup :=
  let span := Span.of (events.map ErrorEvent.timestamp)
  { g with
    occurrenceCount := events.length
    firstSeen := (span.map Span.first).getD g.firstSeen
    lastSeen := (span.map Span.last).getD g.lastSeen }

@[simp] theorem rebuildCounters_id (events : List ErrorEvent) (g : ErrorGroup) :
    (rebuildCounters events g).id = g.id := rfl

theorem movedEvent_id (winnerID : UUID) (ev : ErrorEvent) :
    ({ ev with errorGroupID := some winnerID } : ErrorEvent).id = ev.id := rfl

/-- Points everything at the winner: aliases, identities, event handles. -/
def moveObservations (s : Store) (winnerID loserID : UUID) (confirmedBy : ConfirmedBy)
    (episodeID : UUID) (now : Timestamp) : Store :=
  let identities := s.identities.updateWhere (fun i => i.canonicalIssueID = some loserID)
    (fun i => { i with canonicalIssueID := some winnerID, episodeID := some episodeID })
    fun _ => rfl
  { s with
    fingerprints := s.fingerprints.updateWhere (fun a => a.canonicalIssueID = loserID)
      (redirectAlias winnerID confirmedBy now) (redirectAlias_key winnerID confirmedBy now)
    identities
    events := s.events.updateWhere
      (fun ev => (identities.find? ev.id).any fun i => i.canonicalIssueID = some winnerID)
      (fun ev => { ev with errorGroupID := some winnerID }) (movedEvent_id winnerID) }

/-- Rebuilds the winner's counters and both rollups from what it now holds. -/
def rebuildWinner (s : Store) (winnerID loserID : UUID) : Except String Store := do
  let events := settledEvents s winnerID
  let environments ← (rebuildRollups s.environments winnerID loserID
    (regroup winnerID (fun ev => some ev.environmentID) events)).orError
      "rebuild environment rollups: duplicate key value violates unique constraint"
  let affectedUsers ← (rebuildRollups s.affectedUsers winnerID loserID
    (regroup winnerID ErrorEvent.endUserID events)).orError
      "rebuild affected users: duplicate key value violates unique constraint"
  .ok { s with
    environments
    affectedUsers
    groups := (s.groups.updateKey winnerID (rebuildCounters events)
        (rebuildCounters_id events)).updateKey winnerID
      (fun g => { g with affectedUsersCount := countRollups affectedUsers winnerID })
      fun _ => rfl }

/-- `SET status='merged', merged_at=now()`, with the loser's rounds closed. -/
def retireLoser (s : Store) (loserID : UUID) (now : Timestamp) : Store :=
  { s with
    episodes := s.episodes.close loserID now
    groups := s.groups.updateKey loserID (Delivery.markMerged now) (Delivery.markMerged_id now) }

/-- Both sides of a conflict row are among the two issues. -/
def Names (c : AliasConflict) (winnerID loserID : UUID) : Prop :=
  (c.leftIssueID = winnerID ∨ c.leftIssueID = loserID) ∧
    (c.rightIssueID = winnerID ∨ c.rightIssueID = loserID)
  deriving Decidable

def resolveConflict (c : AliasConflict) : AliasConflict := { c with status := .resolved }

theorem resolveConflict_key (c : AliasConflict) : (resolveConflict c).key = c.key := rfl

/-- The open conflicts between the two issues are resolved. -/
def resolveConflicts (t : Table AliasConflict.key) (winnerID loserID : UUID) :
    Table AliasConflict.key :=
  t.updateWhere (fun c => c.status = .opened ∧ Names c winnerID loserID) resolveConflict
    resolveConflict_key

/-- A resolved conflict between the two issues names this observation. -/
def Mooted (t : Table AliasConflict.key) (winnerID loserID eventID : UUID) : Prop :=
  ∃ c ∈ t.rows, c.eventID = eventID ∧ c.status = .resolved ∧ Names c winnerID loserID
  deriving Decidable

/-- The observations the merge's conflicts parked re-enter settlement. -/
def requeueMooted (s : Store) (winnerID loserID : UUID) : Store :=
  let conflicts := resolveConflicts s.conflicts winnerID loserID
  { s with
    conflicts
    identities := s.identities.updateWhere
      (fun i => i.status = .conflict ∧ Mooted conflicts winnerID loserID i.eventID)
      (fun i => { i with status := .pending, claimedAt := none }) fun _ => rfl }

/-- `NULLIF($5, '')` and the counts of the rewrite. -/
def mergeReceipt (s : Store) (winnerID loserID : UUID) (confirmedBy : ConfirmedBy) (actor : String)
    (now : Timestamp) : IssueMerge where
  winnerID
  loserID
  confirmedBy
  actor := if actor = "" then none else some actor
  aliasesMoved := (s.fingerprints.select fun a => a.canonicalIssueID = loserID).length
  eventsMoved := (s.identities.select fun i => i.canonicalIssueID = some loserID).length
  mergedAt := now

/-- Everything a merge writes once its checks have passed. -/
def applyMerge (s : Store) (winnerID loserID : UUID) (confirmedBy : ConfirmedBy) (actor : String)
    (winnerStatus : GroupStatus) (freshEpisode : UUID) (now : Timestamp) : Except String Store := do
  let (s, episodeID) ← winnerEpisode s winnerID winnerStatus freshEpisode now
  let receipt := mergeReceipt s winnerID loserID confirmedBy actor now
  let s ← rebuildWinner (moveObservations s winnerID loserID confirmedBy episodeID now)
    winnerID loserID
  let merges ← (s.merges.insert? receipt).orError
    "record issue merge: duplicate key value violates unique constraint"
  .ok (requeueMooted { retireLoser s loserID now with merges } winnerID loserID)

def ConfirmMerge (s : Store) (winnerID loserID : UUID) (confirmedBy : ConfirmedBy) (actor : String)
    (freshEpisode : UUID) (now : Timestamp) : Except String Store :=
  if winnerID = loserID then .error "merge winner and loser must differ"
  else if confirmedBy = .exact then .error "unsupported merge confirmation \"exact\""
  else do
    let (winner, loser) ← lockMergeIssues s winnerID loserID
    -- idempotency keys off the receipt, not the loser's status
    match s.receipt? loserID with
    | some existing =>
      if existing.winnerID = winnerID then .ok s
      else .error "merge loser is already merged into another issue"
    | none =>
      if winner = .merged then .error "merge winner is already merged"
      else if loser = .merged then .error "merge loser is already merged into another issue"
      else if unmergeable s winnerID loserID then
        .error "merge refused: an issue carries observations without settled identity"
      else if blocked s winnerID loserID ∧ confirmedBy ≠ .human then
        .error "automatic merge refused: an issue was investigated or published"
      else applyMerge s winnerID loserID confirmedBy actor winner freshEpisode now

/-- The merge passed every check and `s'` is what it wrote. -/
structure Accepted (s s' : Store) (winnerID loserID : UUID) (confirmedBy : ConfirmedBy)
    (actor : String) (freshEpisode : UUID) (now : Timestamp) (winner loser : ErrorGroup) :
    Prop where
  distinct : winnerID ≠ loserID
  confirmed : confirmedBy ≠ .exact
  winnerFound : s.groups.find? winnerID = some winner
  loserFound : s.groups.find? loserID = some loser
  unmerged : s.receipt? loserID = none
  winnerLive : winner.status ≠ .merged
  loserLive : loser.status ≠ .merged
  mergeable : unmergeable s winnerID loserID = false
  applies : applyMerge s winnerID loserID confirmedBy actor winner.status freshEpisode now = .ok s'

theorem confirmMerge_cases {s s' : Store} {winnerID loserID : UUID} {confirmedBy : ConfirmedBy}
    {actor : String} {freshEpisode : UUID} {now : Timestamp}
    (success : ConfirmMerge s winnerID loserID confirmedBy actor freshEpisode now = .ok s') :
    (s' = s ∧ ∃ m, s.receipt? loserID = some m ∧ m.winnerID = winnerID) ∨
      ∃ winner loser, Accepted s s' winnerID loserID confirmedBy actor freshEpisode now winner
        loser := by
  unfold ConfirmMerge at success
  simp only [Except.ite_error_eq_ok_iff] at success
  obtain ⟨distinct, confirmed, run⟩ := success
  obtain ⟨⟨winnerStatus, loserStatus⟩, locked, run⟩ := Except.of_bind run
  unfold lockMergeIssues at locked
  obtain ⟨winner, winnerFound, locked⟩ := Except.of_bind locked
  obtain ⟨loser, loserFound, locked⟩ := Except.of_bind locked
  rw [Option.orError_eq_ok_iff] at winnerFound loserFound
  cases locked
  cases receipt : s.receipt? loserID with
  | some existing =>
    simp only [receipt] at run
    split at run
    · rename_i same
      cases run
      exact Or.inl ⟨rfl, existing, rfl, same⟩
    · cases run
  | none =>
    simp only [receipt, Except.ite_error_eq_ok_iff] at run
    obtain ⟨winnerLive, loserLive, mergeable, -, applies⟩ := run
    exact Or.inr ⟨winner, loser, distinct, confirmed, winnerFound, loserFound, receipt, winnerLive,
      loserLive, Bool.eq_false_iff.mpr mergeable, applies⟩

end Opslane.Identity
