import Opslane.Jobs.Progress
import Opslane.Tickets.Folds

/-!
# The ticket machine

One action is one transaction on the ticket tables: intake and the purge of recordings, the
steps of confirmation, investigation, matching and folding, the operations on publications
and fixes, and the steps of a queued job. What confirmation and investigation write for
others to read is an argument of theirs; which statement computed it is left out.

A dead letter's cleanup is an action of its own, so a run may take it for any job at any
time.
-/

namespace Opslane.Tickets

open Jobs (Job JobTable RequestedBy)
open Transition (Machine committed)

/-- Everything of a recording goes with it. -/
def Evidence.purge (e : Evidence) (sessionID : String) : Evidence :=
  { e with
    sessions := e.sessions.deleteWhere fun r => r.id = sessionID
    signals := e.signals.deleteWhere fun f => f.sessionID = sessionID
    ticketMatches := e.ticketMatches.deleteWhere fun m => m.sessionID = sessionID
    observations := e.observations.filter fun o => o.sessionID ≠ sessionID
    checks := e.checks.deleteWhere fun c => c.sessionID = sessionID
    attempts := e.attempts.deleteWhere fun a => a.sessionID = sessionID }

theorem Evidence.Scoped.purge {e : Evidence} {tickets : Table FrictionTicket.id}
    (scope : e.Scoped tickets) (sessionID : String) : (e.purge sessionID).Scoped tickets where
  matched := by
    intro m member
    exact scope.matched m (List.mem_filter.mp member).1
  observed := by
    intro o member
    obtain ⟨old, kept⟩ := List.mem_filter.mp member
    obtain ⟨m, present, own, f, known, signal, session, environment⟩ := scope.observed o old
    have recording : m.sessionID = o.sessionID := congrArg Prod.snd own
    have elsewhere : m.sessionID ≠ sessionID := by simpa [recording] using kept
    refine ⟨m, ?_, own, f, ?_, signal, session, environment⟩
    · simpa [Evidence.purge, Table.deleteWhere] using ⟨present, elsewhere⟩
    · simpa [Evidence.purge, Table.deleteWhere] using ⟨known, session ▸ elsewhere⟩

/-- The tickets a recording is matched to. -/
def ticketsOf (e : Evidence) (sessionID : String) : List UUID :=
  ((e.ticketMatches.select fun m => m.sessionID = sessionID).map TicketMatch.ticketID).insertionSort
    (· ≤ ·)

/-- `friction_reconcile_after_delete` for each ticket in turn. -/
def reconcileAll (s : TicketStore) (ticketIDs : List UUID) (now : Timestamp) : TicketStore :=
  ticketIDs.foldl (fun s ticketID => frictionReconcileAfterDelete s ticketID now) s

/-- Removes a recording, and recounts the tickets it was on. -/
def deleteMarkedSession (s : TicketStore) (sessionID : String) (now : Timestamp) : TicketStore :=
  if (s.evidence.sessions.find? sessionID).isNone then s
  else
    let tickets := ticketsOf s.evidence sessionID
    let s := { s with
      evidence := s.evidence.purge sessionID
      scope := s.scope.purge sessionID
      observationDecisions := s.observationDecisions.deleteWhere fun d =>
        (s.evidence.signals.find? d.signalID).any fun f => f.sessionID = sessionID }
    reconcileAll s tickets now

def Session.identify (user : Option UUID) (r : Session) : Session := { r with endUserID := user }

def TicketMatch.identify (user : Option UUID) (m : TicketMatch) : TicketMatch :=
  { m with endUserID := user }

def Evidence.identify (e : Evidence) (sessionID : String) (user : Option UUID) : Evidence :=
  { e with
    sessions := e.sessions.updateKey sessionID (Session.identify user) fun _ => rfl
    ticketMatches := e.ticketMatches.updateWhere (fun m => m.sessionID = sessionID)
      (TicketMatch.identify user) fun _ => rfl }

theorem Evidence.Scoped.identify {e : Evidence} {tickets : Table FrictionTicket.id}
    (scope : e.Scoped tickets) (sessionID : String) (user : Option UUID) :
    (e.identify sessionID user).Scoped tickets where
  matched := by
    intro m member
    obtain ⟨old, present, rfl⟩ := (Table.mem_updateWhere e.ticketMatches
      (fun m => m.sessionID = sessionID) (TicketMatch.identify user) (fun _ => rfl) m).mp member
    have kept := scope.matched old present
    split
    · exact kept
    · exact kept
  observed := by
    intro o member
    obtain ⟨m, present, own, f, known, signal, session, environment⟩ := scope.observed o member
    have updated := (Table.mem_updateWhere e.ticketMatches (fun m => m.sessionID = sessionID)
      (TicketMatch.identify user) (fun _ => rfl) _).mpr ⟨m, present, rfl⟩
    refine ⟨_, updated, ?_, f, known, signal, ?_⟩
    · split <;> exact own
    · split <;> exact ⟨session, environment⟩

/-- Changes whose recording it is, and recounts the tickets it is on. -/
def frictionSetSessionIdentity (s : TicketStore) (sessionID : String) (user : Option UUID)
    (now : Timestamp) : TicketStore :=
  match s.evidence.sessions.find? sessionID with
  | none => s
  | some r =>
    if r.endUserID = user then s
    else
      let tickets := ticketsOf s.evidence sessionID
      let s := { s with
        evidence := s.evidence.identify sessionID user
        scope := s.scope.identify sessionID user }
      reconcileAll s tickets now

/-- The columns of a ticket that only its confirmation reads. -/
structure TicketNote where
  arrivalBoundary : Nat
  evidenceVersion : Nat
  foldRetries : Nat
  reconcileNeeded : Bool
  reinvestigateNeeded : Bool

def FrictionTicket.note (n : TicketNote) (t : FrictionTicket) : FrictionTicket :=
  { t with
    arrivalBoundary := n.arrivalBoundary
    evidenceVersion := n.evidenceVersion
    foldRetries := n.foldRetries
    reconcileNeeded := n.reconcileNeeded
    reinvestigateNeeded := n.reinvestigateNeeded }

/-- A step of the confirmation of a ticket's recordings. -/
def confirm (s : TicketStore) (ticketID : UUID) (note : TicketNote) (checks : Table Check.key)
    (attempts : Table CheckAttempt.id) (batches : Table ConfirmBatch.id) : TicketStore :=
  { s with
    evidence := { s.evidence with checks, attempts, batches }
    scope := ⟨s.scope.matched, s.scope.observed⟩ }.updateTicket ticketID
      (FrictionTicket.note note) fun _ => ⟨rfl, rfl, rfl⟩

def FrictionTicket.setMatchedCount (matchedCount : Nat) (t : FrictionTicket) : FrictionTicket :=
  { t with matchedCount }

/-- The recount of a ticket's reconciliation. -/
def recountTicket (s : TicketStore) (ticketID : UUID) : TicketStore :=
  s.updateTicket ticketID (FrictionTicket.setMatchedCount
    (s.evidence.ticketMatches.select fun m => m.ticketID = ticketID).length) fun _ => ⟨rfl, rfl, rfl⟩

/-- What an investigation finds. -/
structure InvestigationNote where
  investigationStatus : Option InvestigationStatus
  investigationExecution : Nat
  evidenceVersionUsed : Option Nat
  explainedSignalIDs : Option (List String)
  rootCause : Option String
  occurrenceCount : Nat
  affectedUsersCount : Nat

def Incident.note (n : InvestigationNote) (g : Incident) : Incident :=
  { g with
    investigationStatus := n.investigationStatus
    investigationExecution := n.investigationExecution
    evidenceVersionUsed := n.evidenceVersionUsed
    explainedSignalIDs := n.explainedSignalIDs
    rootCause := n.rootCause
    occurrenceCount := n.occurrenceCount
    affectedUsersCount := n.affectedUsersCount
    status := if g.fixSubstate = .none then .awaitingApproval else g.status }

/-- A step of the investigation of an incident that is not archived, with the diagnosis it
appends. -/
def investigate (s : TicketStore) (groupID : UUID) (note : InvestigationNote)
    (decision : Option DiagnosisDecision) : TicketStore :=
  { s with
    incidents := s.incidents.updateWhere (fun g => g.id = groupID ∧ g.status ≠ .archived)
      (Incident.note note) fun _ => ⟨rfl, rfl, rfl⟩
    decisions := decision.elim s.decisions s.decisions.insertIgnore }

def snapshot (execution evidenceVersion : Nat) (j : Job) : Job :=
  { j with
    investigationExecution := some execution
    investigationEvidenceVersion := some evidenceVersion }

/-- The snapshot an investigation keeps on its job. -/
def snapshotJob (s : TicketStore) (jobID : UUID) (execution evidenceVersion : Nat) : TicketStore :=
  { s with jobs := s.jobs.updateKey jobID (snapshot execution evidenceVersion) fun _ => rfl }

/-- Another investigation of a ticket's live incident, for evidence that is newer. -/
def reinvestigate (s : TicketStore) (ticket : FrictionTicket) (finishingJobID : Option UUID)
    (jobID : UUID) (now : Timestamp) : Except String TicketStore := do
  let t ← lockTicket s ticket
  if t.status ≠ .published then .ok s
  else
    match s.incidents.table.rows.find? fun g => g.ticketID = t.id ∧ g.status ≠ .archived with
    | none => .ok s
    | some g =>
      .ok (enqueueTicketInvestigation s t t.liveGeneration g.id finishingJobID jobID now).1

/-- One transaction on the ticket tables. -/
inductive Action where
  | setAutonomy (projectID : UUID) (autonomy : FrictionAutonomy)
  | endUser (u : EndUser)
  | session (r : Session)
  | signal (f : FrictionSignal)
  | deleteMarkedSession (sessionID : String) (now : Timestamp)
  | frictionSetSessionIdentity (sessionID : String) (user : Option UUID) (now : Timestamp)
  | confirm (ticketID : UUID) (note : TicketNote) (checks : Table Check.key)
      (attempts : Table CheckAttempt.id) (batches : Table ConfirmBatch.id)
  | recountTicket (ticketID : UUID)
  | investigate (groupID : UUID) (note : InvestigationNote) (decision : Option DiagnosisDecision)
  | snapshotJob (jobID : UUID) (execution evidenceVersion : Nat)
  | reinvestigate (ticket : FrictionTicket) (finishingJobID : Option UUID) (jobID : UUID)
      (now : Timestamp)
  | matchObservation (projectID environmentID : UUID) (sessionID signalID : String)
      (startedAt : Timestamp) (backfill : Bool) (decision : MatchDecision) (leaseMs : Int)
      (now : Timestamp)
  | recordMatch (input : MatchInput)
  | foldInto (source target : FrictionTicket) (jobID : UUID) (now : Timestamp)
  | activateGeneration (ticket : FrictionTicket) (insightInvestigateUsers : Nat)
      (groupID jobID : UUID) (now : Timestamp)
  | unpublish (ticket : FrictionTicket) (now : Timestamp)
  | archiveTicketGroup (projectID groupID : UUID) (now : Timestamp)
  | frictionReconcileAfterDelete (ticketID : UUID) (now : Timestamp)
  | requestTicketFix (projectID groupID : UUID) (guidance : String)
      (expected : Option TicketFixExpectation) (attemptID jobID : UUID) (now clock : Timestamp)
  | requestFix (projectID ticketID : UUID) (generation : Nat) (requestedBy : RequestedBy)
      (guidance : Option String) (maxOpenFixPrs : Nat) (attemptID jobID : UUID) (now : Timestamp)
  | applyPrEvent (projectID : UUID) (e : PrEvent) (factID : UUID) (now : Timestamp)
  | assertFixAttemptCurrent (job : Job) (delivery : Bool) (maxOpenFixPrs : Nat)
      (now clock clock' : Timestamp)
  | recordAttemptPr (job : Job) (repo url : String) (number : Nat) (factID : UUID)
      (occurredAt now clock clock' : Timestamp)
  | attemptFailed (jobID projectID : UUID)
  | processTicketPRWebhook (w : TicketPRWebhook) (factID jobID : UUID) (now : Timestamp)
  | processPrEventJob (job : Job) (factID : UUID) (now clock clock' : Timestamp)
  | enqueue (j : Job)
  | queue (a : Jobs.Action)

def step (s : TicketStore) : Action → TicketStore
  | .setAutonomy projectID autonomy =>
    { s with frictionAutonomy := Function.update s.frictionAutonomy projectID autonomy }
  | .endUser u =>
    { s with
      evidence := { s.evidence with endUsers := s.evidence.endUsers.insertIgnore u }
      scope := ⟨s.scope.matched, s.scope.observed⟩ }
  | .session r =>
    { s with
      evidence := { s.evidence with sessions := s.evidence.sessions.insertIgnore r }
      scope := ⟨s.scope.matched, s.scope.observed⟩ }
  | .signal f =>
    { s with
      evidence := { s.evidence with signals := s.evidence.signals.insertIgnore f }
      scope := ⟨s.scope.matched, fun o member => by
        obtain ⟨m, present, own, f', known, rest⟩ := s.scope.observed o member
        exact ⟨m, present, own, f', Table.mem_insertIgnore_of_mem f known, rest⟩⟩ }
  | .deleteMarkedSession sessionID now => Tickets.deleteMarkedSession s sessionID now
  | .frictionSetSessionIdentity sessionID user now =>
    Tickets.frictionSetSessionIdentity s sessionID user now
  | .confirm ticketID note checks attempts batches =>
    Tickets.confirm s ticketID note checks attempts batches
  | .recountTicket ticketID => Tickets.recountTicket s ticketID
  | .investigate groupID note decision => Tickets.investigate s groupID note decision
  | .snapshotJob jobID execution evidenceVersion =>
    Tickets.snapshotJob s jobID execution evidenceVersion
  | .reinvestigate ticket finishingJobID jobID now =>
    committed s (Tickets.reinvestigate s ticket finishingJobID jobID now)
  | .matchObservation projectID environmentID sessionID signalID startedAt backfill decision leaseMs
      now =>
    committed s (Tickets.matchObservation s projectID environmentID sessionID signalID
      startedAt backfill decision leaseMs now)
  | .recordMatch input => committed s ((Tickets.recordMatch s input).map Prod.fst)
  | .foldInto source target jobID now =>
    committed s (Tickets.foldInto s source target jobID now)
  | .activateGeneration ticket insightInvestigateUsers groupID jobID now =>
    committed s
      (Tickets.activateGeneration s ticket insightInvestigateUsers groupID jobID now)
  | .unpublish ticket now => committed s (Tickets.unpublish s ticket now)
  | .archiveTicketGroup projectID groupID now =>
    committed s (Tickets.archiveTicketGroup s projectID groupID now)
  | .frictionReconcileAfterDelete ticketID now => Tickets.frictionReconcileAfterDelete s ticketID now
  | .requestTicketFix projectID groupID guidance expected attemptID jobID now clock =>
    committed s
      (Tickets.requestTicketFix s projectID groupID guidance expected attemptID jobID now clock)
  | .requestFix projectID ticketID generation requestedBy guidance maxOpenFixPrs attemptID jobID now =>
    committed s ((Tickets.requestFix s projectID ticketID generation requestedBy guidance
      maxOpenFixPrs attemptID jobID now).map Prod.fst)
  | .applyPrEvent projectID e factID now =>
    committed s ((Tickets.applyPrEvent s projectID e factID now).map Prod.fst)
  | .assertFixAttemptCurrent job delivery maxOpenFixPrs now clock clock' =>
    committed s
      (Tickets.assertFixAttemptCurrent s job delivery maxOpenFixPrs now clock clock')
  | .recordAttemptPr job repo url number factID occurredAt now clock clock' =>
    committed s ((Tickets.recordAttemptPr s job repo url number factID occurredAt now clock
      clock').map Prod.fst)
  | .attemptFailed jobID projectID => (Tickets.attemptFailed s jobID projectID).1
  | .processTicketPRWebhook w factID jobID now =>
    committed s ((Tickets.processTicketPRWebhook s w factID jobID now).map Prod.fst)
  | .processPrEventJob job factID now clock clock' =>
    committed s (Tickets.processPrEventJob s job factID now clock clock')
  | .enqueue j =>
    if j.jobType = .investigate ∨ j.jobType = .fix then s
    else { s with jobs := Jobs.enqueueJobTx s.jobs j }
  | .queue a => if Jobs.Progress a then { s with jobs := Jobs.step s.jobs a } else s

def machine : Machine TicketStore Action := ⟨step⟩

end Opslane.Tickets
