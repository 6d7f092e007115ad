import Opslane.Identity.Alias

/-!
# Attaching an observation

The parts of a settlement that create or lock the canonical issue, attach the
observation to it and choose the work round that owns the observation:
`createIssue`, `lockActiveIssue` and `attachObservation` of `settle.go`,
`OpenOrGetEpisode` and `episodeForObservation` of `episode.go`.
-/

namespace Opslane.Identity

/-- The row `createIssue` inserts for an observation. -/
def canonicalIssue (issueID : UUID) (ev : ErrorEvent) : ErrorGroup where
  id := issueID
  environmentID := ev.environmentID
  kind := .error
  fingerprint := "canonical:" ++ toString issueID
  title := ev.errorType ++ ": " ++ ev.errorMessage
  platform := ev.platform
  status := .new
  statusBeforeArchive := none
  archivedAt := none
  ticketID := none
  firstSeen := ev.timestamp
  lastSeen := ev.timestamp
  occurrenceCount := 0
  affectedUsersCount := 0
  sampleEventID := some ev.id
  resolvedAt := none
  resolvedReason := none
  mergedAt := none
  confidence := none
  prURL := none
  prNumber := none
  prFixJobID := none
  terminalFixJobID := none
  prCreatedAt := none
  needsHumanAt := none
  reason := none
  candidateDiff := none
  evidence := none

/-- `issueID` is the uuid the insert draws; the primary key refuses a taken one. -/
def createIssue (s : Store) (eventID issueID : UUID) : Except String (Store × UUID) := do
  let ev ← (s.events.find? eventID).orError "create canonical issue: no rows in result set"
  let groups ← (s.groups.insert? (canonicalIssue issueID ev)).orError
    "create canonical issue: duplicate key value violates unique constraint"
  .ok ({ s with groups }, issueID)

def lockActiveIssue (s : Store) (issueID : UUID) : Except String Unit := do
  let g ← (s.groups.find? issueID).orError "lock canonical issue: no rows in result set"
  if g.status = .merged then
    .error "canonical issue was merged while settlement was in progress"
  else .ok ()

/-- The counters of an issue after one more observation. -/
def observe (ev : ErrorEvent) (g : ErrorGroup) : ErrorGroup :=
  { g with
    occurrenceCount := g.occurrenceCount + 1
    firstSeen := min g.firstSeen ev.timestamp
    lastSeen := max g.lastSeen ev.timestamp
    sampleEventID := g.sampleEventID.or (some ev.id) }

@[simp] theorem observe_id (ev : ErrorEvent) (g : ErrorGroup) : (observe ev g).id = g.id := rfl

def extendRollup (timestamp : Timestamp) (r : Rollup) : Rollup :=
  { r with span := r.span.extend timestamp }

theorem extendRollup_key (timestamp : Timestamp) (r : Rollup) :
    (extendRollup timestamp r).key = r.key := rfl

/-- `INSERT ... ON CONFLICT DO UPDATE` of one rollup row. -/
def upsertRollup (t : Table Rollup.key) (issueID memberID : UUID) (timestamp : Timestamp) :
    Table Rollup.key :=
  t.upsert ⟨issueID, memberID, Span.single timestamp⟩ (extendRollup timestamp)
    (extendRollup_key timestamp)

def countRollups (t : Table Rollup.key) (issueID : UUID) : Nat :=
  (t.rows.filter fun r => r.errorGroupID = issueID).length

/-- The per-user rollup, and the count of affected users it implies. -/
def observeUser (s : Store) (ev : ErrorEvent) (issueID : UUID) : Store :=
  match ev.endUserID with
  | none => s
  | some user =>
    let affectedUsers := upsertRollup s.affectedUsers issueID user ev.timestamp
    { s with
      affectedUsers
      groups := s.groups.updateKey issueID
        (fun g => { g with affectedUsersCount := countRollups affectedUsers issueID }) fun _ => rfl }

/-- The writes that attach a free observation to an issue. -/
def attach (s : Store) (ev : ErrorEvent) (issueID : UUID) : Store :=
  observeUser
    { s with
      events := s.events.updateKey ev.id
        (fun ev => { ev with errorGroupID := some issueID }) fun _ => rfl
      groups := s.groups.updateKey issueID (observe ev) (observe_id ev)
      environments := upsertRollup s.environments issueID ev.environmentID ev.timestamp }
    ev issueID

def attachObservation (s : Store) (eventID issueID : UUID) : Except String Store := do
  let ev ← (s.events.find? eventID).orError "load observation: no rows in result set"
  match ev.errorGroupID with
  | some current =>
    if current = issueID then .ok s
    else .error "observation is already attached to a different issue"
  | none => .ok (attach s ev issueID)

/-- The insert of the next round, selected from the issue's row. -/
def insertEpisode (s : Store) (issueID episodeID : UUID) (now : Timestamp) : Option Episodes :=
  (s.groups.find? issueID).bind fun _ =>
    s.episodes.insert? ⟨episodeID, issueID, s.episodes.lastSequence issueID + 1, now, none⟩

/-- Returns the open work round of an issue, creating one when necessary.
`episodeID` is the uuid the insert draws. -/
def OpenOrGetEpisode (s : Store) (issueID episodeID : UUID) (now : Timestamp) :
    Except String (Store × UUID) :=
  match insertEpisode s issueID episodeID now with
  | some episodes => .ok ({ s with episodes }, episodeID)
  | none =>
    match s.episodes.open? issueID with
    | some ep => .ok (s, ep.id)
    | none => .error "read open issue episode: no rows in result set"

/-- `SET status='new', resolved_at=NULL, resolved_reason=NULL`. -/
def reopen (g : ErrorGroup) : ErrorGroup :=
  { g with status := .new, resolvedAt := none, resolvedReason := none }

@[simp] theorem reopen_id (g : ErrorGroup) : (reopen g).id = g.id := rfl

/-- A resolved issue that an observation of this time does not reopen. -/
def ResolvedAfter (g : ErrorGroup) (observedAt : Timestamp) : Prop :=
  ∃ resolvedAt, g.resolvedAt = some resolvedAt ∧ ¬resolvedAt < observedAt

instance (g : ErrorGroup) (observedAt : Timestamp) : Decidable (ResolvedAfter g observedAt) :=
  match h : g.resolvedAt with
  | none => isFalse fun ⟨_, some', _⟩ => by simp [h] at some'
  | some r =>
    if late : r < observedAt then
      isFalse fun ⟨r', some', notLate⟩ => by
        rw [h] at some'
        cases some'
        exact notLate late
    else isTrue ⟨r, h, late⟩

/-- Chooses the work round that owns an attached observation. A genuinely later
observation reopens a resolved issue; one captured before the resolution but
settled late stays in the round that was resolved. -/
def episodeForObservation (s : Store) (issueID eventID episodeID : UUID) (now : Timestamp) :
    Except String (Store × UUID) := do
  let g ← (s.groups.find? issueID).orError "read issue episode state: no rows in result set"
  let ev ← (s.events.find? eventID).orError "read issue episode state: no rows in result set"
  if g.status ≠ .resolved then OpenOrGetEpisode s issueID episodeID now
  else if ResolvedAfter g ev.timestamp then
    let ep ← (s.episodes.latest? issueID).orError "read resolved issue episode: no rows in result set"
    .ok (s, ep.id)
  else
    OpenOrGetEpisode { s with groups := s.groups.updateKey issueID reopen reopen_id } issueID
      episodeID now

variable {s s' : Store}

theorem createIssue_effects {eventID issueID i : UUID}
    (success : createIssue s eventID issueID = .ok (s', i)) :
    i = issueID ∧ ∃ ev, s.events.find? eventID = some ev ∧ s.groups.find? issueID = none ∧
      s' = { s with groups := s'.groups } ∧
      ∀ j, s'.groups.find? j =
        if j = issueID then some (canonicalIssue issueID ev) else s.groups.find? j := by
  obtain ⟨ev, found, rest⟩ := Except.of_bind success
  obtain ⟨groups, inserted, pair⟩ := Except.of_bind rest
  cases pair
  rw [Option.orError_eq_ok_iff] at found inserted
  exact ⟨rfl, ev, found, (Table.insert?_spec inserted).1, rfl, Table.find?_insert? inserted⟩

theorem lockActiveIssue_eq_ok_iff (s : Store) (issueID : UUID) :
    lockActiveIssue s issueID = .ok () ↔
      ∃ g, s.groups.find? issueID = some g ∧ g.status ≠ .merged := by
  unfold lockActiveIssue
  rw [Except.bind_eq_ok_iff]
  simp only [Option.orError_eq_ok_iff]
  refine exists_congr fun g => and_congr_right fun _ => ?_
  split <;> simp_all

/-- An issue's row after an observation, given the per-user rollup after it. -/
def observed (ev : ErrorEvent) (affectedUsers : Table Rollup.key) (g : ErrorGroup) : ErrorGroup :=
  { observe ev g with
    affectedUsersCount :=
      if ev.endUserID.isSome then countRollups affectedUsers g.id else g.affectedUsersCount }

/-- Attaching a free observation: the event, the issue's counters, its row for
the environment and, for a known user, its row for the user. -/
structure Attaches (s s' : Store) (ev : ErrorEvent) (issueID : UUID) : Prop where
  frame : s' = { s with events := s'.events, groups := s'.groups, environments := s'.environments,
                        affectedUsers := s'.affectedUsers }
  events : s'.events = s.events.updateKey ev.id
    (fun ev => { ev with errorGroupID := some issueID }) fun _ => rfl
  environments : s'.environments =
    upsertRollup s.environments issueID ev.environmentID ev.timestamp
  affectedUsers : s'.affectedUsers = ev.endUserID.elim s.affectedUsers fun user =>
    upsertRollup s.affectedUsers issueID user ev.timestamp
  groups : ∀ j, s'.groups.find? j =
    if j = issueID then (s.groups.find? j).map (observed ev s'.affectedUsers)
    else s.groups.find? j

theorem attach_attaches (s : Store) (ev : ErrorEvent) (issueID : UUID) :
    Attaches s (attach s ev issueID) ev issueID := by
  cases user : ev.endUserID with
  | none =>
    refine ⟨?_, ?_, ?_, ?_, ?_⟩ <;> simp only [attach, observeUser, user, Option.elim_none]
    intro j
    rw [Table.find?_updateKey]
    split
    · rename_i same
      subst same
      cases present : s.groups.find? j with
      | none => rfl
      | some g => simp [observed, observe, user]
    · rfl
  | some u =>
    refine ⟨?_, ?_, ?_, ?_, ?_⟩ <;> simp only [attach, observeUser, user, Option.elim_some]
    intro j
    simp only [Table.find?_updateKey]
    split
    · rename_i same
      subst same
      cases present : s.groups.find? j with
      | none => rfl
      | some g => simp [observed, observe, user, Table.key_of_find? present]
    · rfl

theorem attachObservation_free {eventID : UUID} (issueID : UUID) {ev : ErrorEvent}
    (found : s.events.find? eventID = some ev) (free : ev.errorGroupID = none) :
    attachObservation s eventID issueID = .ok (attach s ev issueID) := by
  simp [attachObservation, found, free, Option.orError, bind, Except.bind]

/-- An issue gets an open round: the one that was open, or a fresh one with a
sequence number above every earlier one. -/
inductive OpensRound (before after : Episodes) (issueID episodeID fresh : UUID) (now : Timestamp) :
    Prop where
  | reused (same : after = before)
      (isOpen : ∃ ep, before.open? issueID = some ep ∧ ep.id = episodeID)
  | opened (closed : before.open? issueID = none) (id : episodeID = fresh)
      (free : before.table.find? fresh = none)
      (rows : after.rows =
        ⟨fresh, issueID, before.lastSequence issueID + 1, now, none⟩ :: before.rows)

structure Opens (s s' : Store) (issueID episodeID fresh : UUID) (now : Timestamp) : Prop where
  frame : s' = { s with episodes := s'.episodes }
  round : OpensRound s.episodes s'.episodes issueID episodeID fresh now

theorem OpenOrGetEpisode_effects {issueID fresh episodeID : UUID} {now : Timestamp}
    (success : OpenOrGetEpisode s issueID fresh now = .ok (s', episodeID)) :
    Opens s s' issueID episodeID fresh now := by
  unfold OpenOrGetEpisode at success
  split at success
  · rename_i episodes inserted
    cases success
    unfold insertEpisode at inserted
    obtain ⟨_, -, inserted⟩ := Option.bind_eq_some_iff.mp inserted
    obtain ⟨rows, free⟩ := Episodes.mem_insert? inserted
    refine ⟨rfl, .opened ?_ rfl ?_ rows⟩
    · rw [Episodes.open?_eq_none_iff]
      intro ep member issue isOpen
      exact free ep member ⟨issue, Or.inr ⟨isOpen, rfl⟩⟩
    · cases taken : s.episodes.table.find? fresh with
      | none => rfl
      | some old =>
        rw [(Episodes.insert?_eq_none_iff _ _).mpr (Or.inr ⟨old, taken⟩)] at inserted
        cases inserted
  · split at success
    · rename_i ep isOpen
      cases success
      exact ⟨rfl, .reused rfl ⟨ep, isOpen, rfl⟩⟩
    · cases success

theorem exists_OpenOrGetEpisode (s : Store) {issueID fresh : UUID} (now : Timestamp)
    {g : ErrorGroup} (present : s.groups.find? issueID = some g)
    (free : s.episodes.table.find? fresh = none) :
    ∃ s' episodeID, OpenOrGetEpisode s issueID fresh now = .ok (s', episodeID) := by
  unfold OpenOrGetEpisode
  split
  · exact ⟨_, _, rfl⟩
  · rename_i refused
    simp only [insertEpisode, present, Option.bind_some] at refused
    rcases (Episodes.insert?_eq_none_iff _ _).mp refused with ⟨r, member, issue, clash⟩ | ⟨old, taken⟩
    · have isOpen : r.closedAt = none := by
        rcases clash with same | both
        · have bound := Episodes.sequence_le_lastSequence member
          simp only at same issue
          rw [issue, same] at bound
          omega
        · exact both.1
      rw [(s.episodes.open?_eq_some_iff issueID r).mpr ⟨member, issue, isOpen⟩]
      exact ⟨_, _, rfl⟩
    · simp only [free] at taken
      cases taken

/-- The three ways `episodeForObservation` can go. -/
inductive ChoosesEpisode (s s' : Store) (issueID episodeID fresh : UUID) (observedAt : Timestamp)
    (now : Timestamp) (g : ErrorGroup) : Prop where
  | active (unresolved : g.status ≠ .resolved) (opens : Opens s s' issueID episodeID fresh now)
  | late (resolved : g.status = .resolved) (before : ResolvedAfter g observedAt)
      (same : s' = s) (latest : ∃ ep, s.episodes.latest? issueID = some ep ∧ ep.id = episodeID)
  | recurred (resolved : g.status = .resolved) (after : ¬ResolvedAfter g observedAt)
      (opens : Opens { s with groups := s.groups.updateKey issueID reopen reopen_id } s' issueID
        episodeID fresh now)

theorem episodeForObservation_effects {issueID eventID fresh episodeID : UUID} {now : Timestamp}
    (success : episodeForObservation s issueID eventID fresh now = .ok (s', episodeID)) :
    ∃ g ev, s.groups.find? issueID = some g ∧ s.events.find? eventID = some ev ∧
      ChoosesEpisode s s' issueID episodeID fresh ev.timestamp now g := by
  obtain ⟨g, present, rest⟩ := Except.of_bind success
  obtain ⟨ev, found, rest⟩ := Except.of_bind rest
  rw [Option.orError_eq_ok_iff] at present found
  refine ⟨g, ev, present, found, ?_⟩
  split at rest
  · rename_i unresolved
    exact .active unresolved (OpenOrGetEpisode_effects rest)
  · rename_i resolved
    split at rest
    · rename_i before
      obtain ⟨ep, latest, pair⟩ := Except.of_bind rest
      rw [Option.orError_eq_ok_iff] at latest
      cases pair
      exact .late (not_not.mp resolved) before rfl ⟨ep, latest, rfl⟩
    · rename_i after
      exact .recurred (not_not.mp resolved) after (OpenOrGetEpisode_effects rest)

end Opslane.Identity
