import Mathlib.Data.Finset.Card
import Mathlib.Data.List.Dedup
import Mathlib.Data.List.Lex
import Mathlib.Algebra.Order.Field.Rat
import Opslane.Lib.Table
import Opslane.Lib.Text
import Opslane.Schema

/-!
# Verified evidence of a ticket

The evidence tables of friction tickets, and the two readers of them: `evidenceRows`,
`summarizeEvidence` and `verifiedEvidence` of `packages/worker/src/friction/tickets-db.ts`
and the lateral query of `ticketIncidentState` in `packages/ingestion/db/ticket_fix.go`. A
signal counts once a finalized batch confirmed it for a recording of the last seven days,
and a cause covers the share of them its diagnosis explains (`causeCoverage`).

An environment belongs to one project, so a row scoped by its environment does not repeat
the project. A signal's id is the text of its uuid, which is how the checks and the
diagnoses name it.
-/

namespace Opslane.Tickets

inductive TicketKind where
  | defect | uxInsight
  deriving DecidableEq

inductive TicketStatus where
  | tracking | published | unpublished | merged | archived
  deriving DecidableEq

/-- A row of `friction_tickets`. -/
structure FrictionTicket where
  id : UUID
  projectID : UUID
  environmentID : UUID
  kind : TicketKind
  status : TicketStatus
  matchedCount : Nat
  nextArrivalNumber : Nat
  arrivalBoundary : Nat
  evidenceVersion : Nat
  liveGeneration : Nat
  foldRetries : Nat
  fixedAt : Option Timestamp
  cohortCutoff : Option Timestamp
  reconcileNeeded : Bool
  reinvestigateNeeded : Bool
  mergedInto : Option UUID
  deriving DecidableEq

/-- The two rows are of one ticket, in one environment. -/
def FrictionTicket.SamePlace (t t' : FrictionTicket) : Prop :=
  t'.id = t.id ∧ t'.projectID = t.projectID ∧ t'.environmentID = t.environmentID

inductive MatchSource where
  | cheap | strong | backfill | fold
  deriving DecidableEq

/-- A row of `friction_ticket_matches`: a recording that shows the ticket's problem. -/
structure TicketMatch where
  ticketID : UUID
  sessionID : String
  environmentID : UUID
  endUserID : Option UUID
  arrivalNumber : Nat
  source : MatchSource
  occurredAt : Timestamp
  deriving DecidableEq

def TicketMatch.key (m : TicketMatch) : UUID × String := (m.ticketID, m.sessionID)

structure MatchObservation where
  ticketID : UUID
  sessionID : String
  signalID : String
  deriving DecidableEq

structure FrictionSignal where
  id : String
  sessionID : String
  environmentID : UUID
  deriving DecidableEq

inductive CheckOutcome where
  | confirmed | refuted | inconclusive | unavailable
  deriving DecidableEq

/-- A row of `friction_checks`: what a finalized batch said of a recording. -/
structure Check where
  ticketID : UUID
  sessionID : String
  attemptID : UUID
  outcome : CheckOutcome
  deriving DecidableEq

def Check.key (c : Check) : UUID × String := (c.ticketID, c.sessionID)

inductive CostToUser where
  | none | annoyance | lostTime | abandonedTask
  deriving DecidableEq

structure CheckAttempt where
  id : UUID
  batchID : UUID
  ticketID : UUID
  sessionID : String
  signalIDs : List String
  note : String
  costToUser : Option CostToUser
  deriving DecidableEq

inductive BatchStatus where
  | staging | finalized | discarded
  deriving DecidableEq

structure ConfirmBatch where
  id : UUID
  ticketID : UUID
  status : BatchStatus
  deriving DecidableEq

structure EndUser where
  id : UUID
  projectID : UUID
  accountName : Option String
  deriving DecidableEq

/-- A row of `sessions`: a recording. -/
structure Session where
  id : String
  environmentID : UUID
  endUserID : Option UUID
  startedAt : Timestamp
  deriving DecidableEq

structure Evidence where
  sessions : Table Session.id
  signals : Table FrictionSignal.id
  endUsers : Table EndUser.id
  ticketMatches : Table TicketMatch.key
  observations : List MatchObservation
  checks : Table Check.key
  attempts : Table CheckAttempt.id
  batches : Table ConfirmBatch.id

/-- `recordMatch`, the only writer of matches and observations, puts a recording under the
ticket's environment and refuses a signal of another recording or environment. -/
structure Evidence.Scoped (e : Evidence) (tickets : Table FrictionTicket.id) : Prop where
  matched : ∀ m ∈ e.ticketMatches.rows, ∃ t ∈ tickets.rows, t.id = m.ticketID ∧
    m.environmentID = t.environmentID
  observed : ∀ o ∈ e.observations, ∃ m ∈ e.ticketMatches.rows,
    m.key = (o.ticketID, o.sessionID) ∧ ∃ f ∈ e.signals.rows, f.id = o.signalID ∧
      f.sessionID = m.sessionID ∧ f.environmentID = m.environmentID

theorem Evidence.Scoped.environment {e : Evidence} {tickets : Table FrictionTicket.id}
    (scope : e.Scoped tickets) {m : TicketMatch} (member : m ∈ e.ticketMatches.rows)
    {t : FrictionTicket} (known : t ∈ tickets.rows) (own : t.id = m.ticketID) :
    m.environmentID = t.environmentID := by
  obtain ⟨t', known', own', environment⟩ := scope.matched m member
  rw [environment, tickets.inj known' known (own'.trans own.symm)]

variable {tickets : Table FrictionTicket.id} {e : Evidence}

theorem Evidence.Scoped.signal (scope : e.Scoped tickets) {o : MatchObservation}
    (observed : o ∈ e.observations) {m : TicketMatch} (member : m ∈ e.ticketMatches.rows)
    (own : m.key = (o.ticketID, o.sessionID)) {f : FrictionSignal}
    (found : e.signals.find? o.signalID = some f) :
    f.sessionID = m.sessionID ∧ f.environmentID = m.environmentID := by
  obtain ⟨m', member', own', f', known, id, session, environment⟩ := scope.observed o observed
  obtain rfl := e.ticketMatches.inj member' member
    (own'.trans own.symm)
  rw [← id, e.signals.find?_key known, Option.some.injEq] at found
  exact found ▸ ⟨session, environment⟩

theorem Evidence.Scoped.updateTicket (scope : e.Scoped tickets) (id : UUID)
    {f : FrictionTicket → FrictionTicket} (frame : ∀ t : FrictionTicket, t.SamePlace (f t)) :
    e.Scoped (tickets.updateKey id f fun t => (frame t).1) where
  matched := by
    intro m member
    obtain ⟨t, known, own, environment⟩ := scope.matched m member
    refine ⟨_, (Table.mem_updateWhere ..).mpr ⟨t, known, rfl⟩, ?_⟩
    split
    · exact ⟨(frame t).1.trans own, environment.trans (frame t).2.2.symm⟩
    · exact ⟨own, environment⟩
  observed := scope.observed

/-- The recording happened after the cutoff of the ticket's cohort. -/
def InCohort (t : FrictionTicket) (m : TicketMatch) : Prop :=
  t.cohortCutoff.all (· < m.occurredAt)
  deriving Decidable

/-- The recording happened in the last `days` days. -/
def InLastDays (days : Nat) (now : Timestamp) (m : TicketMatch) : Prop :=
  now - days * 86400000000 ≤ m.occurredAt ∧ m.occurredAt ≤ now
  deriving Decidable

/-- A row of the evidence query; `arrivalNumber` is only ordered by. -/
structure EvidenceRow where
  sessionID : String
  endUserID : Option UUID
  accountName : Option String
  signalIDs : List String
  note : String
  costToUser : Option CostToUser
  arrivalNumber : Nat
  deriving DecidableEq

/-- The signals of a recording that its confirmed attempt names. -/
def verifiedSignals (e : Evidence) (t : FrictionTicket) (m : TicketMatch)
    (a : CheckAttempt) : List String :=
  ((e.observations.filter fun o => o.ticketID = t.id ∧ o.sessionID = m.sessionID ∧
    o.signalID ∈ a.signalIDs ∧ (e.signals.find? o.signalID).isSome).map
      MatchObservation.signalID).dedup.mergeSort fun s s' => s ≤ s'

/-- The account of a recording's user, if the user is one of the ticket's project. -/
def accountName (e : Evidence) (t : FrictionTicket) (endUserID : Option UUID) : Option String := do
  let user ← e.endUsers.find? (← endUserID)
  if user.projectID = t.projectID then user.accountName else none

/-- The evidence row of one recording, where a finalized batch confirmed it. `days` is
the window, or nothing for the whole cohort. -/
def evidenceRow (e : Evidence) (t : FrictionTicket) (days : Option Nat) (now : Timestamp)
    (m : TicketMatch) : Option EvidenceRow := do
  let c ← e.checks.find? (t.id, m.sessionID)
  let a ← e.attempts.find? c.attemptID
  let b ← e.batches.find? a.batchID
  if m.ticketID = t.id ∧ a.ticketID = t.id ∧ a.sessionID = m.sessionID ∧ b.status = .finalized ∧
      c.outcome = .confirmed ∧ InCohort t m ∧ days.all (fun d => InLastDays d now m) then
    some ⟨m.sessionID, m.endUserID,
      accountName e t m.endUserID,
      verifiedSignals e t m a, a.note, a.costToUser, m.arrivalNumber⟩
  else none

def costRank : Option CostToUser → Nat
  | none | some .none => 0
  | some .annoyance => 1
  | some .lostTime => 2
  | some .abandonedTask => 3

/-- `ORDER BY` cost, arrival number, session. -/
def evidenceOrder (r r' : EvidenceRow) : Bool :=
  costRank r.costToUser < costRank r'.costToUser ∨
    (costRank r.costToUser = costRank r'.costToUser ∧ (r.arrivalNumber < r'.arrivalNumber ∨
      (r.arrivalNumber = r'.arrivalNumber ∧ r.sessionID ≤ r'.sessionID)))

def evidenceRows (e : Evidence) (t : FrictionTicket) (days : Option Nat) (now : Timestamp) :
    List EvidenceRow :=
  (e.ticketMatches.rows.filterMap (evidenceRow e t days now)).mergeSort evidenceOrder

structure EvidenceRepresentative where
  sessionID : String
  signalIDs : List String
  note : String
  costToUser : Option CostToUser
  deriving DecidableEq

structure VerifiedEvidence where
  users : Nat
  sessions : Nat
  accounts : List String
  sessionIDs : List String
  signalIDs : List String
  representative : Option EvidenceRepresentative
  deriving DecidableEq

/-- What `trim` takes off a JavaScript string: white space and line terminators. -/
def isJSSpace (c : Char) : Bool :=
  c.toNat ∈ [0x9, 0xA, 0xB, 0xC, 0xD, 0x20, 0xA0, 0x1680, 0x2028, 0x2029, 0x202F, 0x205F, 0x3000,
    0xFEFF] ∨ (0x2000 ≤ c.toNat ∧ c.toNat ≤ 0x200A)

def trim (s : String) : String := Text.trimmed isJSSpace s

/-- The UTF-16 code units of a text, by which JavaScript sorts. -/
def codeUnits (s : String) : List Nat :=
  s.toList.flatMap fun c =>
    if c.toNat < 0x10000 then [c.toNat]
    else [0xD800 + (c.toNat - 0x10000) / 0x400, 0xDC00 + (c.toNat - 0x10000) % 0x400]

/-- `[...new Set(texts)].sort()`. -/
def sortedSet (texts : List String) : List String :=
  texts.dedup.mergeSort fun s s' => codeUnits s ≤ codeUnits s'

def summarizeEvidence (rows : List EvidenceRow) : VerifiedEvidence where
  users := (rows.filterMap EvidenceRow.endUserID).dedup.length
  sessions := rows.length
  accounts := sortedSet ((rows.filterMap EvidenceRow.accountName).filter fun name => trim name ≠ "")
  sessionIDs := rows.map EvidenceRow.sessionID
  signalIDs := sortedSet (rows.flatMap EvidenceRow.signalIDs)
  representative := rows[(rows.length - 1) / 2]?.map fun median =>
    ⟨median.sessionID, median.signalIDs, median.note, median.costToUser⟩

def verifiedEvidence (e : Evidence) (t : FrictionTicket) (days : Option Nat)
    (now : Timestamp) : VerifiedEvidence :=
  summarizeEvidence (evidenceRows e t days now)

/-- The share of the confirmed signals that a cause explains. -/
def causeCoverage (explained confirmed : List String) : ℚ :=
  let current := confirmed.dedup
  if current.length = 0 then 0
  else ((explained.filter (· ∈ current)).dedup.length : ℚ) / current.length

/-- The joins and filters of the lateral query, seen from one observation. -/
def VerifiedObservation (e : Evidence) (t : FrictionTicket) (now : Timestamp)
    (o : MatchObservation) : Bool :=
  (e.ticketMatches.find? (o.ticketID, o.sessionID)).any fun m =>
  (e.checks.find? (m.ticketID, m.sessionID)).any fun c =>
  (e.attempts.find? c.attemptID).any fun a =>
  (e.batches.find? a.batchID).any fun b =>
  (e.signals.find? o.signalID).any fun f =>
    c.ticketID = t.id ∧ a.ticketID = c.ticketID ∧ a.sessionID = c.sessionID ∧
      b.status = .finalized ∧ f.sessionID = m.sessionID ∧ f.environmentID = t.environmentID ∧
      c.outcome = .confirmed ∧ f.id ∈ a.signalIDs ∧ m.environmentID = t.environmentID ∧
      InLastDays 7 now m ∧ InCohort t m

/-- `SELECT DISTINCT f.id`. -/
def confirmedSignals (e : Evidence) (t : FrictionTicket) (now : Timestamp) : List String :=
  ((e.observations.filter (VerifiedObservation e t now)).map MatchObservation.signalID).dedup

/-- The column `coverage.value`. -/
def coverageValue (explained : Option (List String)) (verified : List String) : ℚ :=
  if verified.length = 0 then 0
  else ((verified.filter (· ∈ explained.getD [])).length : ℚ) / verified.length

theorem mem_sortedSet (texts : List String) (s : String) : s ∈ sortedSet texts ↔ s ∈ texts := by
  rw [sortedSet, List.mem_mergeSort, List.mem_dedup]

theorem mem_verifiedSignals (e : Evidence) (t : FrictionTicket) (m : TicketMatch)
    (a : CheckAttempt) (s : String) :
    s ∈ verifiedSignals e t m a ↔ s ∈ a.signalIDs ∧ (∃ f, e.signals.find? s = some f) ∧
      ⟨t.id, m.sessionID, s⟩ ∈ e.observations := by
  rw [verifiedSignals, List.mem_mergeSort, List.mem_dedup]
  simp only [List.mem_map, List.mem_filter, decide_eq_true_eq, Option.isSome_iff_exists]
  constructor
  · rintro ⟨⟨ticketID, sessionID, signalID⟩, ⟨member, rfl, rfl, named, known⟩, rfl⟩
    exact ⟨named, known, member⟩
  · rintro ⟨named, known, member⟩
    exact ⟨_, ⟨member, rfl, rfl, named, known⟩, rfl⟩

variable {t : FrictionTicket}

theorem evidenceRow_spec {days : Option Nat} {now : Timestamp} {m : TicketMatch} {r : EvidenceRow} :
    evidenceRow e t days now m = some r ↔
      ∃ c a b, e.checks.find? (t.id, m.sessionID) = some c ∧
        e.attempts.find? c.attemptID = some a ∧ e.batches.find? a.batchID = some b ∧
        (m.ticketID = t.id ∧ a.ticketID = t.id ∧ a.sessionID = m.sessionID ∧
          b.status = .finalized ∧ c.outcome = .confirmed ∧ InCohort t m ∧
          days.all (fun d => InLastDays d now m)) ∧
        r = ⟨m.sessionID, m.endUserID,
          accountName e t m.endUserID,
          verifiedSignals e t m a, a.note, a.costToUser, m.arrivalNumber⟩ := by
  unfold evidenceRow
  constructor
  · intro row
    obtain ⟨c, check, row⟩ := Option.bind_eq_some_iff.mp row
    obtain ⟨a, attempt, row⟩ := Option.bind_eq_some_iff.mp row
    obtain ⟨b, batch, row⟩ := Option.bind_eq_some_iff.mp row
    split at row
    · rename_i holds
      exact ⟨c, a, b, check, attempt, batch, holds, (Option.some.inj row).symm⟩
    · cases row
  · rintro ⟨c, a, b, check, attempt, batch, holds, rfl⟩
    simp only [check, attempt, batch, Option.bind_eq_bind, Option.bind_some, if_pos holds]

theorem mem_signalIDs (e : Evidence) (t : FrictionTicket) (days : Option Nat)
    (now : Timestamp) (s : String) :
    s ∈ (verifiedEvidence e t days now).signalIDs ↔
      ∃ m ∈ e.ticketMatches.rows, ∃ r, evidenceRow e t days now m = some r ∧ s ∈ r.signalIDs := by
  rw [verifiedEvidence, summarizeEvidence, mem_sortedSet, evidenceRows]
  simp only [List.mem_flatMap, List.mem_mergeSort, List.mem_filterMap]
  constructor
  · rintro ⟨r, ⟨m, member, row⟩, signal⟩
    exact ⟨m, member, r, row, signal⟩
  · rintro ⟨m, member, r, row, signal⟩
    exact ⟨r, ⟨m, member, row⟩, signal⟩

theorem mem_confirmedSignals (scope : e.Scoped tickets) (known : t ∈ tickets.rows) (now : Timestamp)
    (s : String) :
    s ∈ confirmedSignals e t now ↔ s ∈ (verifiedEvidence e t (some 7) now).signalIDs := by
  rw [mem_signalIDs, confirmedSignals, List.mem_dedup]
  simp only [List.mem_map, List.mem_filter, VerifiedObservation, Option.any_eq_true,
    decide_eq_true_eq]
  constructor
  · rintro ⟨o, ⟨member, m, found, c, check, a, attempt, b, batch, f, signal, ticket, attemptTicket,
      attemptSession, finalized, -, -, confirmed, named, -, recent, cohort⟩, rfl⟩
    have key : m.key = (o.ticketID, o.sessionID) := Table.key_of_find? found
    have checkKey : c.key = m.key := Table.key_of_find? check
    simp only [TicketMatch.key, Check.key, Prod.mk.injEq] at key checkKey
    have own : m.ticketID = t.id := checkKey.1.symm.trans ticket
    have id : f.id = o.signalID := Table.key_of_find? signal
    refine ⟨m, Table.mem_of_find? found, _, evidenceRow_spec.mpr ⟨c, a, b, own ▸ check, attempt, batch,
      ⟨own, attemptTicket.trans ticket, attemptSession.trans checkKey.2, finalized, confirmed, cohort,
        by simpa using recent⟩, rfl⟩, (mem_verifiedSignals e t m a _).mpr ⟨id ▸ named, ⟨f, signal⟩, ?_⟩⟩
    rw [← own, key.1, key.2]
    exact member
  · rintro ⟨m, member, r, row, signal⟩
    obtain ⟨c, a, b, check, attempt, batch, ⟨own, attemptTicket, attemptSession, finalized, confirmed,
      cohort, recent⟩, rfl⟩ := evidenceRow_spec.mp row
    obtain ⟨named, ⟨f, found⟩, observed⟩ := (mem_verifiedSignals e t m a s).mp signal
    have checkKey : c.key = (t.id, m.sessionID) := Table.key_of_find? check
    simp only [Check.key, Prod.mk.injEq] at checkKey
    have key : m.key = (t.id, m.sessionID) := by rw [TicketMatch.key, own]
    have id : f.id = s := Table.key_of_find? found
    obtain ⟨session, signalEnvironment⟩ := scope.signal observed member key found
    have environment := scope.environment member known own.symm
    refine ⟨_, ⟨observed, m, ?_, c, own.symm ▸ check, a, attempt, b, batch, f, found, checkKey.1,
      attemptTicket.trans checkKey.1.symm, attemptSession.trans checkKey.2.symm, finalized, session,
      signalEnvironment.trans environment, confirmed, id.symm ▸ named, environment,
      by simpa using recent, cohort⟩, rfl⟩
    rw [← key]
    exact e.ticketMatches.find?_key member

theorem length_dedup_filter (explained confirmed : List String) :
    (explained.filter (· ∈ confirmed)).dedup.length =
      (explained.toFinset ∩ confirmed.toFinset).card := by
  rw [← List.card_toFinset]
  congr 1
  ext s
  simp

theorem coverageValue_eq {explained : Option (List String)} {verified confirmed : List String}
    (distinct : verified.Nodup) (same : ∀ s, s ∈ verified ↔ s ∈ confirmed) :
    coverageValue explained verified = causeCoverage (explained.getD []) confirmed := by
  have sets : verified.toFinset = confirmed.toFinset := by
    ext s
    simp [same]
  have size : verified.length = confirmed.dedup.length := by
    rw [← List.card_toFinset, ← sets, List.card_toFinset, List.Nodup.dedup distinct]
  have share : (verified.filter (· ∈ explained.getD [])).length =
      ((explained.getD []).filter (· ∈ confirmed.dedup)).dedup.length := by
    have filtered := distinct.filter (fun s => decide (s ∈ explained.getD []))
    have once : confirmed.dedup.toFinset = confirmed.toFinset := by
      ext s
      simp
    rw [← List.Nodup.dedup filtered, length_dedup_filter, length_dedup_filter, sets, once,
      Finset.inter_comm]
  simp only [coverageValue, causeCoverage, size, share]

theorem coverage_agree (scope : e.Scoped tickets) (known : t ∈ tickets.rows)
    (explained : Option (List String)) (now : Timestamp) :
    coverageValue explained (confirmedSignals e t now) =
      causeCoverage (explained.getD []) (verifiedEvidence e t (some 7) now).signalIDs :=
  coverageValue_eq (List.nodup_dedup _) (mem_confirmedSignals scope known now)

end Opslane.Tickets
