import Opslane.Tickets.FixLifecycle

/-!
# Publication of a ticket

A ticket is published as a numbered generation, an incident of its own. Publishing it
again, unpublishing it, a human archiving the problem and the purge of a recording each
retire the live generation: its incident is archived, its jobs are cancelled and its
attempts superseded (`packages/worker/src/friction/tickets-db.ts`, `archiveTicketGroup` of
`packages/ingestion/db/ticket_reconcile.go`, and `friction_reconcile_after_delete` of
migration 078).
-/

namespace Opslane.Tickets

open Jobs (Job)

structure CohortStats where
  counted : Nat
  confirmed : Nat
  refuted : Nat
  inconclusive : Nat
  confirmedUsers : Nat
  identityKnown : Bool
  deriving DecidableEq

/-- The finalized checks of the ticket's cohort, with their recordings. -/
def cohortRows (e : Evidence) (t : FrictionTicket) : List (Check × TicketMatch) :=
  e.checks.rows.filterMap fun c => do
    let m ← e.ticketMatches.find? c.key
    let a ← e.attempts.find? c.attemptID
    let b ← e.batches.find? a.batchID
    if c.ticketID = t.id ∧ b.status = .finalized ∧ InCohort t m then some (c, m) else none

def countOutcome (rows : List (Check × TicketMatch)) (outcome : CheckOutcome) : Nat :=
  rows.countP fun r => r.1.outcome = outcome

def cohortStats (e : Evidence) (t : FrictionTicket) : CohortStats :=
  let rows := cohortRows e t
  let users := (rows.filter fun r => r.1.outcome = .confirmed).filterMap fun r => r.2.endUserID
  { counted := rows.length
    confirmed := countOutcome rows .confirmed
    refuted := countOutcome rows .refuted
    inconclusive := countOutcome rows .inconclusive
    confirmedUsers := users.dedup.length
    identityKnown := users ≠ [] }

inductive BarVerdict where
  | passes | fails | undecided
  deriving DecidableEq

/-- The bar reads a ratio of two counts; the floating-point comparisons of the source agree
with the exact ones. -/
def evaluateBar (stats : CohortStats) (status : TicketStatus) (fixSubstate : Option FixSubstate) :
    BarVerdict :=
  let ratio : ℚ := if stats.counted = 0 then 0 else stats.confirmed / stats.counted
  let diverse := ¬stats.identityKnown ∨ 2 ≤ stats.confirmedUsers
  if 3 ≤ stats.confirmed ∧ diverse ∧ 2 / 5 ≤ ratio then .passes
  else if status = .published ∧ fixSubstate ≠ some .resolved ∧
      (stats.confirmed < 3 ∨ ¬diverse ∨ (10 ≤ stats.counted ∧ ratio < 1 / 4)) then .fails
  else .undecided

def Incident.archive (now : Timestamp) (g : Incident) : Incident :=
  { g with statusBeforeArchive := some g.status, status := .archived, archivedAt := some now }

def FixAttempt.supersede (a : FixAttempt) : FixAttempt := { a with status := .superseded }

/-- The job is taken off the queue. -/
def cancel (reason : String) (j : Job) : Job :=
  { j with status := .failed, lastError := some reason, leaseExpiresAt := none }

/-- The incidents of a ticket that are not archived. -/
def liveIncidents (s : TicketStore) (ticketID : UUID) : List UUID :=
  (s.incidents.table.select fun g => g.ticketID = ticketID ∧ g.status ≠ .archived).map Incident.id

/-- Archives incidents, with their jobs and attempts. -/
def retireIncidents (s : TicketStore) (ids : List UUID) (now : Timestamp) : TicketStore :=
  { s with
    incidents := s.incidents.updateWhere (fun g => g.id ∈ ids) (Incident.archive now)
      fun _ => ⟨rfl, rfl, rfl⟩
    jobs := s.jobs.updateWhere (fun j => j.errorGroupID.any (· ∈ ids) ∧ j.Active ∧
      (j.jobType = .investigate ∨ j.jobType = .fix)) (cancel "unpublished") fun _ => rfl
    attempts := s.attempts.updateWhere (fun a => a.errorGroupID ∈ ids ∧ a.Outstanding)
      FixAttempt.supersede fun _ => rfl }

def retireLiveGeneration (s : TicketStore) (t : FrictionTicket) (now : Timestamp) : TicketStore :=
  retireIncidents s (liveIncidents s t.id) now

def maxInvestigationsPerGeneration : Nat := 3

/-- The one rule every path that queues an investigation asks. -/
def investigationAllowed (t : FrictionTicket) (confirmedIdentifiedUsers insightInvestigateUsers : Nat) :
    Bool :=
  t.kind ≠ .uxInsight ∨ insightInvestigateUsers ≤ confirmedIdentifiedUsers

def Incident.awaitInvestigation (g : Incident) : Incident :=
  { g with investigationStatus := some .pending }

theorem Incident.sameKey_awaitInvestigation (g : Incident) : g.SameKey g.awaitInvestigation :=
  ⟨rfl, rfl, rfl⟩

/-- The investigate job of a publication. -/
def investigateJob (t : FrictionTicket) (generation : Nat) (groupID jobID : UUID) (now : Timestamp) :
    Job :=
  Job.new jobID t.projectID .investigate
    { errorGroupID := some groupID
      sourceID := some groupID
      ticketID := some t.id
      publicationGeneration := some generation } now now

/-- Queues an investigation of the incident, unless one is active besides the finishing one
or the generation has had its share. -/
def enqueueTicketInvestigation (s : TicketStore) (t : FrictionTicket) (generation : Nat)
    (groupID : UUID) (finishingJobID : Option UUID) (jobID : UUID) (now : Timestamp) :
    TicketStore × Bool :=
  let prior := s.jobs.select fun j => j.errorGroupID = some groupID ∧ j.jobType = .investigate ∧
    j.publicationGeneration = some generation
  if prior.any (fun j => j.Active ∧ some j.id ≠ finishingJobID) ∨
      maxInvestigationsPerGeneration ≤ prior.length then (s, false)
  else
    ({ s with
      jobs := Jobs.enqueueJobTx s.jobs (investigateJob t generation groupID jobID now)
      incidents := s.incidents.updateWhere
        (fun g => g.id = groupID ∧ g.investigationStatus = none) Incident.awaitInvestigation
        fun _ => ⟨rfl, rfl, rfl⟩ }, true)

/-- The current row of a ticket a caller read earlier. -/
def lockTicket (s : TicketStore) (ticket : FrictionTicket) : Except String FrictionTicket :=
  ((s.tickets.find? ticket.id).filter fun t => t.projectID = ticket.projectID ∧
    t.environmentID = ticket.environmentID).orError "Ticket outside scope or missing"

/-- A new incident. -/
def Incident.publish (t : FrictionTicket) (evidence : VerifiedEvidence) (allowed : Bool)
    (groupID : UUID) : Incident where
  id := groupID
  ticketID := t.id
  publicationGeneration := t.liveGeneration + 1
  status := .queued
  statusBeforeArchive := none
  archivedAt := none
  fixSubstate := .none
  investigationStatus := if allowed then some .pending else none
  investigationExecution := 0
  evidenceVersionUsed := some t.evidenceVersion
  explainedSignalIDs := none
  rootCause := none
  occurrenceCount := evidence.sessions
  affectedUsersCount := evidence.users
  platform := none
  terminalFixJobID := none
  prFixJobID := none
  prURL := none
  prNumber := none
  prCreatedAt := none
  mergedAt := none

def FrictionTicket.publish (generation : Nat) (t : FrictionTicket) : FrictionTicket :=
  { t with status := .published, liveGeneration := generation, fixedAt := none, foldRetries := 0 }

def activateGeneration (s : TicketStore) (ticket : FrictionTicket) (insightInvestigateUsers : Nat)
    (groupID jobID : UUID) (now : Timestamp) : Except String TicketStore := do
  let t ← lockTicket s ticket
  if t.status = .merged ∨ t.status = .archived then .error "Cannot publish a terminal ticket"
  else if evaluateBar (cohortStats s.evidence t) t.status none ≠ .passes then
    .error "Ticket does not meet publication bar"
  else do
    let evidence := verifiedEvidence s.evidence t none now
    let allowed := investigationAllowed t evidence.users insightInvestigateUsers
    let s := retireLiveGeneration s t now
    let incidents ← (s.incidents.insert? (Incident.publish t evidence allowed groupID)).orError
      duplicateKey
    let s := { s with incidents }.updateTicket t.id (FrictionTicket.publish (t.liveGeneration + 1))
      fun _ => ⟨rfl, rfl, rfl⟩
    .ok (if allowed then
      (enqueueTicketInvestigation s t (t.liveGeneration + 1) groupID none jobID now).1
    else s)

def FrictionTicket.unpublish (t : FrictionTicket) : FrictionTicket :=
  { t with status := .unpublished }

def unpublish (s : TicketStore) (ticket : FrictionTicket) (now : Timestamp) :
    Except String TicketStore := do
  let t ← lockTicket s ticket
  if t.status ≠ .published then .ok s
  else if s.incidents.table.any fun g => g.ticketID = t.id ∧ g.status ≠ .archived ∧
      g.fixSubstate = .resolved then .ok s
  else
    .ok ((retireLiveGeneration s t now).updateTicket t.id FrictionTicket.unpublish
      fun _ => ⟨rfl, rfl, rfl⟩)

inductive ArchiveError where
  | ticketGeneration
  deriving DecidableEq

def FrictionTicket.archive (t : FrictionTicket) : FrictionTicket :=
  { t with status := .archived, reconcileNeeded := false, reinvestigateNeeded := false }

/-- A human archives a problem through one of its incidents. -/
def archiveTicketGroup (s : TicketStore) (projectID groupID : UUID) (now : Timestamp) :
    Except ArchiveError TicketStore :=
  match s.getIncident projectID groupID with
  | none => .ok s
  | some (g, t) =>
    if t.status = .archived then .ok s
    else if t.liveGeneration ≠ g.publicationGeneration then .error .ticketGeneration
    else
      let s := s.updateTicket t.id FrictionTicket.archive fun _ => ⟨rfl, rfl, rfl⟩
      .ok { s with
        incidents := s.incidents.updateWhere
          (fun g => g.ticketID = t.id ∧ g.status ≠ .archived) (Incident.archive now)
          fun _ => ⟨rfl, rfl, rfl⟩
        jobs := s.jobs.updateWhere (fun j => j.ticketID = some t.id ∧ j.Active)
          (cancel "Problem archived") fun _ => rfl
        attempts := s.attempts.updateWhere (fun a => a.ticketID = t.id ∧ a.Outstanding)
          FixAttempt.supersede fun _ => rfl
        evidence := { s.evidence with
          batches := s.evidence.batches.updateWhere
            (fun b => b.ticketID = t.id ∧ b.status = .staging) ConfirmBatch.discard ConfirmBatch.discard_id }
        scope := ⟨s.scope.matched, s.scope.observed⟩ }

def FrictionTicket.recount (matchedCount : Nat) (t : FrictionTicket) : FrictionTicket :=
  { t with
    matchedCount
    evidenceVersion := t.evidenceVersion + 1
    reconcileNeeded := true }

/-- The checks of the ticket's cohort, whatever their batch, with their recordings. -/
def purgedCohort (e : Evidence) (t : FrictionTicket) : List (Check × TicketMatch) :=
  e.checks.rows.filterMap fun c => do
    let m ← e.ticketMatches.find? c.key
    if c.ticketID = t.id ∧ InCohort t m then some (c, m) else none

/-- The ticket no longer meets the bar; an identity nobody has is unknown, not false. -/
def FailsBar (rows : List (Check × TicketMatch)) : Prop :=
  let confirmed := countOutcome rows .confirmed
  let users := (rows.filter fun r => r.1.outcome = .confirmed).filterMap fun r => r.2.endUserID
  confirmed < 3 ∨ (users ≠ [] ∧ users.dedup.length < 2) ∨
    (10 ≤ rows.length ∧ (confirmed : ℚ) / rows.length < 1 / 4)

instance (rows : List (Check × TicketMatch)) : Decidable (FailsBar rows) :=
  inferInstanceAs (Decidable (_ ∨ _))

/-- Recounts a ticket after a recording of it was purged. -/
def frictionReconcileAfterDelete (s : TicketStore) (ticketID : UUID) (now : Timestamp) : TicketStore :=
  match s.tickets.find? ticketID with
  | none => s
  | some t =>
    let matchedCount := (s.evidence.ticketMatches.select fun m => m.ticketID = ticketID).length
    let s := s.updateTicket ticketID (FrictionTicket.recount matchedCount) fun _ => ⟨rfl, rfl, rfl⟩
    if t.status ≠ .published then s
    else
      match s.incidents.table.rows.find? fun g => g.ticketID = ticketID ∧ g.status ≠ .archived with
      | none => s
      | some g =>
        if g.fixSubstate = .resolved then s
        else if FailsBar (purgedCohort s.evidence t) then
          (retireIncidents s [g.id] now).updateTicket ticketID FrictionTicket.unpublish
            fun _ => ⟨rfl, rfl, rfl⟩
        else s

end Opslane.Tickets
