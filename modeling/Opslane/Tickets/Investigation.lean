import Opslane.Tickets.Machine

/-!
# Investigations of an incident

`packages/worker/src/friction/investigate-ticket.ts`: an investigation begins by taking the
next execution number of its incident and a snapshot of the confirmed evidence, and finishes
in another transaction, which applies its result only where nothing newer has begun.

A worker keeps its snapshot in memory, so `begun` holds every snapshot taken: any of them may
come back to finish, late or more than once.
-/

namespace Opslane.Tickets

open Jobs (Job)

/-- `FrictionVerdict`, without the texts that are only shown. -/
structure FrictionVerdict where
  codeCause : Bool
  explains : List String
  doesNotExplain : List String
  reason : String
  evidence : Json
  agentTaskBrief : Option String
  deriving DecidableEq

/-- What an investigation came to. -/
inductive InvestigationOutcome where
  | verdict (v : FrictionVerdict)
  | incomplete (reason : String)
  | failed (reason : String)
  deriving DecidableEq

/-- A row of `friction_investigation_results`. -/
structure InvestigationResult where
  ticketID : UUID
  errorGroupID : UUID
  generation : Nat
  execution : Nat
  evidenceVersion : Nat
  jobID : UUID
  result : InvestigationOutcome
  applied : Bool
  deriving DecidableEq

/-- `UNIQUE(error_group_id, execution)`. -/
def InvestigationResult.key (r : InvestigationResult) : UUID × Nat := (r.errorGroupID, r.execution)

/-- The columns every ticket's investigate job has. -/
structure TicketInvestigateJob where
  id : UUID
  projectID : UUID
  ticketID : UUID
  errorGroupID : UUID
  publicationGeneration : Nat
  workerID : String
  leaseGeneration : Nat
  deriving DecidableEq

/-- What `beginInvestigation` returns, with the job it returned it to. -/
structure InvestigationSnapshot where
  job : TicketInvestigateJob
  evidenceVersion : Nat
  execution : Nat
  signalIDs : List String
  deriving DecidableEq

structure InvestigationStore where
  store : TicketStore
  results : Table InvestigationResult.key
  /-- The column `error_groups.investigation_result_execution`. -/
  resultExecution : UUID → Nat
  begun : List InvestigationSnapshot

namespace InvestigationStore

def empty : InvestigationStore := ⟨.empty, Table.empty, fun _ => 0, []⟩

end InvestigationStore

/-- The execution holds the job at this time; `lockJob` throws where it does not. -/
def LeaseHeld (s : TicketStore) (job : TicketInvestigateJob) (clock : Timestamp) : Prop :=
  s.jobs.any fun j =>
    j.projectID = job.projectID ∧ j.Owned job.id job.workerID job.leaseGeneration clock
  deriving Decidable

/-- A result of the job was applied. -/
def Adopted (s : InvestigationStore) (jobID : UUID) : Prop :=
  ∃ r ∈ s.results.rows, r.jobID = jobID ∧ r.applied = true
  deriving Decidable

/-- The ticket is published under the job's generation. -/
def Live (job : TicketInvestigateJob) (t : FrictionTicket) : Prop :=
  t.status = .published ∧ t.liveGeneration = job.publicationGeneration
  deriving Decidable

/-- The incident takes another execution. -/
def Accepts (job : TicketInvestigateJob) (g : Incident) : Prop :=
  g.id = job.errorGroupID ∧ g.ticketID = job.ticketID ∧
    g.publicationGeneration = job.publicationGeneration ∧ g.status ≠ .archived ∧
    g.fixSubstate ≠ .resolved
  deriving Decidable

def Incident.beginInvestigation (g : Incident) : Incident :=
  { g with
    investigationExecution := g.investigationExecution + 1
    investigationStatus := some .pending
    status := if g.fixSubstate = .none then .analyzing else g.status }

/-- The ticket and the incident that a job begins to investigate. -/
def toInvestigate (s : InvestigationStore) (job : TicketInvestigateJob) :
    Option (FrictionTicket × Incident) :=
  if Adopted s job.id then none
  else do
    let t ← (s.store.getTicket job.projectID job.ticketID).filter fun t => Live job t
    let g ← s.store.incidents.table.rows.find? fun g => Accepts job g
    return (t, g)

def beginInvestigation (s : InvestigationStore) (job : TicketInvestigateJob)
    (now clock : Timestamp) : Except String InvestigationStore :=
  if ¬LeaseHeld s.store job clock then .error ("Job lease lost for " ++ toString job.id)
  else
    match toInvestigate s job with
    | none => .ok s
    | some (t, g) =>
      let execution := g.investigationExecution + 1
      let store := s.store.updateIncident g.id Incident.beginInvestigation fun _ => ⟨rfl, rfl, rfl⟩
      .ok { s with
        store := snapshotJob store job.id execution t.evidenceVersion
        begun :=
          { job
            evidenceVersion := t.evidenceVersion
            execution
            signalIDs := (verifiedEvidence store.evidence t (some 7) now).signalIDs } :: s.begun }

def InvestigationOutcome.verdict? : InvestigationOutcome → Option FrictionVerdict
  | .verdict v => some v
  | _ => none

/-- The verdict sorts every signal of the snapshot, once. -/
def ValidPartition (snapshot : InvestigationSnapshot) (v : FrictionVerdict) : Prop :=
  let partition := v.explains ++ v.doesNotExplain
  partition.Nodup ∧ partition.length = snapshot.signalIDs.length ∧
    ∀ id ∈ partition, id ∈ snapshot.signalIDs
  deriving Decidable

/-- The verdict, where it names a cause in the code and a brief for it. -/
def doneVerdict (snapshot : InvestigationSnapshot) (result : InvestigationOutcome) :
    Option FrictionVerdict :=
  result.verdict?.filter fun v =>
    ValidPartition snapshot v ∧ v.codeCause ∧ v.agentTaskBrief.any (· ≠ "")

/-- The result is the newest execution's, and newer than the applied one. -/
def Newest (s : InvestigationStore) (snapshot : InvestigationSnapshot) (g : Incident) : Prop :=
  g.investigationExecution ≤ snapshot.execution ∧ s.resultExecution g.id < snapshot.execution
  deriving Decidable

def Incident.conclude (snapshot : InvestigationSnapshot) (done : Option FrictionVerdict)
    (g : Incident) : Incident :=
  { g with
    investigationStatus := some (if done.isSome then .done else .failed)
    evidenceVersionUsed := some snapshot.evidenceVersion
    explainedSignalIDs := some (done.elim [] FrictionVerdict.explains)
    rootCause := done.map FrictionVerdict.reason
    status := if g.fixSubstate = .none then .awaitingApproval else g.status }

def FrictionTicket.setReinvestigate (needed : Bool) (t : FrictionTicket) : FrictionTicket :=
  { t with reinvestigateNeeded := needed }

theorem FrictionTicket.samePlace_setReinvestigate (needed : Bool) (t : FrictionTicket) :
    t.SamePlace (t.setReinvestigate needed) := ⟨rfl, rfl, rfl⟩

/-- A started text, or null. -/
def textOrNull (text : Option String) : Json := text.elim .null .string

/-- The row of `diagnosis_decisions` a finished investigation appends. -/
def investigationDiagnosis (snapshot : InvestigationSnapshot) (result : InvestigationOutcome)
    (done : Option FrictionVerdict) (decisionID : UUID) (now : Timestamp) : DiagnosisDecision where
  id := decisionID
  errorGroupID := snapshot.job.errorGroupID
  jobID := some snapshot.job.id
  outcome := if done.isSome then .codeFix else .incomplete
  diagnosis := some (.object
    [("evidence", (result.verdict?.map FrictionVerdict.evidence).getD (.array [])),
      ("agentTaskBrief", textOrNull (done.bind FrictionVerdict.agentTaskBrief))])
  decidedAt := now

/-- Another investigation, for evidence that came while this one ran. -/
def queueSuccessor (s : TicketStore) (t : FrictionTicket) (snapshot : InvestigationSnapshot)
    (successorID : UUID) (now : Timestamp) : TicketStore :=
  match enqueueTicketInvestigation s t t.liveGeneration snapshot.job.errorGroupID
    (some snapshot.job.id) successorID now with
  | (s, false) => s
  | (s, true) =>
    (s.updateTicket t.id (FrictionTicket.setReinvestigate false)
      fun _ => ⟨rfl, rfl, rfl⟩).updateIncident snapshot.job.errorGroupID
        Incident.awaitInvestigation Incident.sameKey_awaitInvestigation

/-- Writes a result that applies. -/
def applyResult (s : TicketStore) (t : FrictionTicket) (g : Incident)
    (snapshot : InvestigationSnapshot) (result : InvestigationOutcome) (insightUsers : Nat)
    (decisionID successorID : UUID) (now : Timestamp) : TicketStore :=
  let done := doneVerdict snapshot result
  let current := verifiedEvidence s.evidence t (some 7) now
  let coverage := causeCoverage (done.elim [] FrictionVerdict.explains) current.signalIDs
  let s := s.updateIncident g.id (Incident.conclude snapshot done) fun _ => ⟨rfl, rfl, rfl⟩
  let s := s.updateTicket t.id
    (FrictionTicket.setReinvestigate (done.isNone ∨ coverage < 1 / 2)) fun _ => ⟨rfl, rfl, rfl⟩
  let s :=
    if done.isSome ∧ g.fixSubstate = .none ∧ coverage < 1 / 2 ∧ current.signalIDs ≠ [] ∧
        snapshot.evidenceVersion < t.evidenceVersion ∧
        investigationAllowed t current.users insightUsers then
      queueSuccessor s t snapshot successorID now
    else s
  { s with
    decisions := s.decisions.insertIgnore
      (investigationDiagnosis snapshot result done decisionID now) }

/-- The fact of a result, before it is applied. -/
def InvestigationSnapshot.fact (snapshot : InvestigationSnapshot) (result : InvestigationOutcome) :
    InvestigationResult where
  ticketID := snapshot.job.ticketID
  errorGroupID := snapshot.job.errorGroupID
  generation := snapshot.job.publicationGeneration
  execution := snapshot.execution
  evidenceVersion := snapshot.evidenceVersion
  jobID := snapshot.job.id
  result
  applied := false

def InvestigationResult.apply (r : InvestigationResult) : InvestigationResult :=
  { r with applied := true }

/-- The four times a finishing transaction asks for the clock. -/
structure FinishClocks where
  owned : Timestamp
  stillOwned : Timestamp
  lock : Timestamp
  complete : Timestamp

/-- The incident a result applies to, with its ticket. -/
def appliesTo (s : InvestigationStore) (snapshot : InvestigationSnapshot) (t : FrictionTicket)
    (clocks : FinishClocks) : Option Incident :=
  ((s.store.getIncident snapshot.job.projectID snapshot.job.errorGroupID).map Prod.fst).filter
    fun g => LeaseHeld s.store snapshot.job clocks.owned ∧
      LeaseHeld s.store snapshot.job clocks.stillOwned ∧ Live snapshot.job t ∧
      g.status ≠ .archived ∧ g.fixSubstate ≠ .resolved ∧ Newest s snapshot g

def finishInvestigation (s : InvestigationStore) (snapshot : InvestigationSnapshot)
    (result : InvestigationOutcome) (insightUsers : Nat) (decisionID successorID : UUID)
    (now : Timestamp) (clocks : FinishClocks) : Except String InvestigationStore :=
  match s.store.getTicket snapshot.job.projectID snapshot.job.ticketID with
  | none => .ok s
  | some t =>
    match s.results.insert? (snapshot.fact result) with
    | none => .ok s
    | some results =>
      match appliesTo s snapshot t clocks with
      | none => .ok { s with results }
      | some g =>
        let store := applyResult s.store t g snapshot result insightUsers decisionID successorID now
        if LeaseHeld store snapshot.job clocks.lock then
          .ok { s with
            store
            results := results.updateKey (snapshot.fact result).key InvestigationResult.apply
              fun _ => rfl
            resultExecution := Function.update s.resultExecution g.id snapshot.execution }
        else .error ("Job lease lost for " ++ toString snapshot.job.id)

/-- `SET status='completed', lease_expires_at=NULL`. -/
def completed (j : Job) : Job := { j with status := .completed, leaseExpiresAt := none }

theorem completed_id (j : Job) : (completed j).id = j.id := rfl

/-- The whole transaction: the result, and the job completed where it is still held. -/
def finishJob (s : InvestigationStore) (snapshot : InvestigationSnapshot)
    (result : InvestigationOutcome) (insightUsers : Nat) (decisionID successorID : UUID)
    (now : Timestamp) (clocks : FinishClocks) : Except String InvestigationStore := do
  let s ← finishInvestigation s snapshot result insightUsers decisionID successorID now clocks
  .ok { s with
    store := { s.store with
      jobs := s.store.jobs.updateWhere (fun j => j.Owned snapshot.job.id snapshot.job.workerID
        snapshot.job.leaseGeneration clocks.complete) completed fun _ => rfl } }

/-- The production transition table. -/
inductive TransitionKind where
  | none | activate | classify | refresh | unpublish
  deriving DecidableEq

def confirmationTransition (status : TicketStatus) (fixSubstate : Option FixSubstate)
    (bar : BarVerdict) : TransitionKind :=
  if status = .merged ∨ status = .archived then .none
  else if status = .published then
    if fixSubstate = some .resolved then (if bar = .passes then .activate else .none)
    else if bar = .fails then .unpublish else .refresh
  else if bar = .passes then .classify
  else .none

/-- The incident of the ticket's live generation. -/
def liveIncident (s : TicketStore) (t : FrictionTicket) : Option Incident :=
  s.incidents.table.rows.find? fun g => g.ticketID = t.id ∧
    g.publicationGeneration = t.liveGeneration ∧ g.status ≠ .archived

/-- The transition the locked cohort calls for. -/
def lockedTransition (s : TicketStore) (t : FrictionTicket) : TransitionKind :=
  let substate := (liveIncident s t).map Incident.fixSubstate
  confirmationTransition t.status substate
    (evaluateBar (cohortStats s.evidence t) t.status substate)

def Incident.count (evidence : VerifiedEvidence) (g : Incident) : Incident :=
  { g with occurrenceCount := evidence.sessions, affectedUsersCount := evidence.users }

def FrictionTicket.reconciled (t : FrictionTicket) : FrictionTicket :=
  { t with reconcileNeeded := false }

theorem FrictionTicket.samePlace_reconciled (t : FrictionTicket) : t.SamePlace t.reconciled :=
  ⟨rfl, rfl, rfl⟩

/-- The recent evidence is no longer half explained by the cause. -/
def Diluted (g : Incident) (recent : VerifiedEvidence) : Prop :=
  g.fixSubstate = .none ∧ g.investigationStatus = some .done ∧ recent.signalIDs ≠ [] ∧
    causeCoverage (g.explainedSignalIDs.getD []) recent.signalIDs < 1 / 2
  deriving Decidable

/-- The evidence is newer than what the incident's last investigation used. -/
def Outdates (t : FrictionTicket) (g : Incident) : Prop :=
  g.evidenceVersionUsed.all (· < t.evidenceVersion)
  deriving Decidable

/-- The refresh of a published ticket, which may queue an investigation for evidence the last
one had not seen, and an insight's first one. -/
def refresh (s : TicketStore) (t : FrictionTicket) (g : Incident) (insightUsers : Nat)
    (jobID firstJobID : UUID) (now : Timestamp) : TicketStore :=
  let evidence := verifiedEvidence s.evidence t none now
  let s := s.updateIncident g.id (Incident.count evidence) fun _ => ⟨rfl, rfl, rfl⟩
  let allowed := investigationAllowed t evidence.users insightUsers
  let recent := verifiedEvidence s.evidence t (some 7) now
  let s :=
    if allowed ∧ (t.reinvestigateNeeded ∨ Diluted g recent) ∧ Outdates t g then
      match enqueueTicketInvestigation s t t.liveGeneration g.id none jobID now with
      | (s, false) => s
      | (s, true) =>
        s.updateTicket t.id (FrictionTicket.setReinvestigate false) fun _ => ⟨rfl, rfl, rfl⟩
    else s
  let s :=
    if allowed ∧ t.kind = .uxInsight ∧ g.investigationStatus = none then
      (enqueueTicketInvestigation s t t.liveGeneration g.id none firstJobID now).1
    else s
  s.updateTicket t.id FrictionTicket.reconciled fun _ => ⟨rfl, rfl, rfl⟩

/-- A refresh, where the locked cohort calls for one. -/
def refreshTicket (s : TicketStore) (ticketID : UUID) (insightUsers : Nat)
    (jobID firstJobID : UUID) (now : Timestamp) : TicketStore :=
  match s.tickets.find? ticketID with
  | none => s
  | some t =>
    match liveIncident s t with
    | none => s
    | some g =>
      if lockedTransition s t = .refresh then refresh s t g insightUsers jobID firstJobID now else s

/-- The fact a failed investigation leaves; a job that never began leaves none. -/
def failedFact (j : Job) (ticketID : UUID) (t : FrictionTicket) (reason : String) :
    Option InvestigationResult := do
  let errorGroupID ← j.errorGroupID
  let generation ← j.publicationGeneration
  let execution ← j.investigationExecution
  return {
    ticketID
    errorGroupID
    generation
    execution
    evidenceVersion := j.investigationEvidenceVersion.getD t.evidenceVersion
    jobID := j.id
    result := .failed reason
    applied := false }

def investigation? (s : TicketStore) (jobID projectID : UUID) : Option Job :=
  (s.jobs.find? jobID).filter fun j => j.projectID = projectID ∧ j.jobType = .investigate

/-- Cleanup in the transaction that ends a job. -/
def investigationFailed (s : InvestigationStore) (jobID projectID : UUID) (reason : String) :
    InvestigationStore :=
  let fact := do
    let j ← investigation? s.store jobID projectID
    let ticketID ← j.ticketID
    let t ← s.store.getTicket projectID ticketID
    failedFact j ticketID t reason
  { s with
    store := (attemptFailed s.store jobID projectID).1
    results := fact.elim s.results s.results.insertIgnore }

end Opslane.Tickets
