import Opslane.Tickets.FixAdmission

/-!
# The life of a fix attempt

What happens to an admitted attempt: its pull request is recorded, opened, closed or
merged, or its job fails (`packages/worker/src/friction/fix-attempts.ts`,
`pr-events-job.ts` and `ProcessTicketPRWebhook` of `packages/ingestion/db/ticket_fix.go`).
-/

namespace Opslane.Tickets

open Jobs (Job)

open Latest (latest)

/-- `owned`: the execution holds the job under its generation. -/
def Owned (s : TicketStore) (job : Job) (clock : Timestamp) : Prop :=
  s.jobs.any fun j => job.workerID.any fun workerID =>
    j.Owned job.id workerID job.leaseGeneration clock
  deriving Decidable

/-- `lockJob` also checks the project. -/
def LocksJob (s : TicketStore) (job : Job) (clock : Timestamp) : Prop :=
  s.jobs.any fun j => j.projectID = job.projectID ∧ job.workerID.any fun workerID =>
    j.Owned job.id workerID job.leaseGeneration clock
  deriving Decidable

def leaseLost (job : Job) : String := "Job lease lost for " ++ toString job.id

/-- The event applies: its attempt is outstanding on the live publication. -/
def fixEventCurrent (t : FrictionTicket) (g : Incident) (a : FixAttempt) (e : PrEvent) : Prop :=
  t.status = .published ∧ t.liveGeneration = e.generation ∧ a.generation = e.generation ∧
    g.status ≠ .archived ∧ g.fixSubstate ≠ .resolved ∧ a.Outstanding ∧ e.event ≠ .orphan
  deriving Decidable

/-- The publication the attempt was made for is over. -/
def lineageRetired (t : FrictionTicket) (g : Incident) (a : FixAttempt) : Prop :=
  t.status ≠ .published ∨ a.generation ≠ t.liveGeneration ∨ g.status = .archived
  deriving Decidable

/-- The pull request of an event is kept on the attempt. -/
def FixAttempt.notePr (e : PrEvent) (a : FixAttempt) : FixAttempt :=
  { a with
    prURL := e.prURL.or a.prURL
    prNumber := e.prNumber.or a.prNumber
    githubRepo := e.githubRepo.or a.githubRepo }

def PREventKind.attemptStatus : PREventKind → AttemptStatus
  | .opened => .prOpen
  | .merged => .merged
  | _ => .closed

def PREventKind.substate : PREventKind → FixSubstate
  | .opened => .prOpen
  | .merged => .resolved
  | _ => .none

def PREventKind.groupStatus : PREventKind → GroupStatus
  | .opened => .prCreated
  | .merged => .merged
  | _ => .awaitingApproval

def FixAttempt.applyEvent (e : PrEvent) (a : FixAttempt) : FixAttempt :=
  { a.notePr e with status := e.event.attemptStatus }

def Incident.applyEvent (e : PrEvent) (g : Incident) : Incident :=
  { g with
    fixSubstate := e.event.substate
    status := e.event.groupStatus
    prURL := if e.event.substate = .none then none else e.prURL.or g.prURL
    prNumber := if e.event.substate = .none then none else e.prNumber.or g.prNumber
    mergedAt := if e.event.substate = .resolved then some e.occurredAt else g.mergedAt }

def FrictionTicket.fix (occurredAt : Timestamp) (t : FrictionTicket) : FrictionTicket :=
  { t with fixedAt := some occurredAt, cohortCutoff := some occurredAt }

/-- The attempt of a retired publication is superseded, and keeps its pull request. -/
def FixAttempt.orphan (e : PrEvent) (a : FixAttempt) : FixAttempt :=
  { a.notePr e with status := if a.Outstanding then .superseded else a.status }

/-- `INSERT ... ON CONFLICT(delivery_id) DO UPDATE ... RETURNING`: the fact of an event, and
the facts with it. The row refers to an incident and an attempt. -/
def recordFact (s : TicketStore) (e : PrEvent) (factID : UUID) :
    Except String (Table PrEventFact.key × PrEventFact) :=
  match s.prEvents.find? e.deliveryID with
  | some fact => .ok (s.prEvents, fact)
  | none =>
    if (s.incidents.table.find? e.errorGroupID).isNone ∨ (s.attempts.find? e.attemptID).isNone then
      .error "insert violates foreign key constraint"
    else if s.prEvents.any (fun f => f.id = factID) then .error duplicateKey
    else do
      let fact : PrEventFact := ⟨e, factID, false, none⟩
      let prEvents ← (s.prEvents.insert? fact).orError duplicateKey
      .ok (prEvents, fact)

def PrEventFact.process (applied : Bool) (now : Timestamp) (f : PrEventFact) : PrEventFact :=
  { f with applied, processedAt := some now }

/-- The writes of an event that applies. -/
def applyCurrent (s : TicketStore) (e : PrEvent) : TicketStore :=
  let s := s.updateAttempt e.attemptID (FixAttempt.applyEvent e) fun _ => rfl
  let s := s.updateIncident e.errorGroupID (Incident.applyEvent e) fun _ => ⟨rfl, rfl, rfl⟩
  if e.event = .merged then
    s.updateTicket e.ticketID (FrictionTicket.fix e.occurredAt) fun _ => ⟨rfl, rfl, rfl⟩
  else s

/-- The attempt of an event and its incident. -/
def eventState (s : TicketStore) (projectID : UUID) (e : PrEvent) : Option (Incident × FixAttempt) :=
  do
  let a ← s.attempts.find? e.attemptID
  let (g, _) ← s.getIncident projectID e.errorGroupID
  if a.ticketID = e.ticketID ∧ a.errorGroupID = g.id then some (g, a) else none

/-- Applies an event once, and says whether it applied. -/
def applyPrEvent (s : TicketStore) (projectID : UUID) (e : PrEvent) (factID : UUID)
    (now : Timestamp) : Except String (TicketStore × Bool) :=
  match s.getTicket projectID e.ticketID with
  | none => .ok (s, false)
  | some t => do
    let (prEvents, fact) ← recordFact s e factID
    let s := { s with prEvents }
    if fact.processedAt.isSome then .ok (s, false)
    else
      let state := eventState s projectID e
      let applied := state.any fun (g, a) => fixEventCurrent t g a e
      let s' :=
        if applied then applyCurrent s e
        else if e.event = .orphan ∧ state.any (fun (g, a) => lineageRetired t g a) then
          s.updateAttempt e.attemptID (FixAttempt.orphan e) fun _ => rfl
        else s
      .ok ({ s' with
        prEvents := s'.prEvents.updateWhere (fun f => f.id = fact.id)
          (PrEventFact.process applied now) fun _ => rfl }, applied)

def FixAttempt.reserve (now : Timestamp) (a : FixAttempt) : FixAttempt :=
  { a with deliveryReservedAt := some now }

/-- The attempt a job works on, while its incident is being fixed. -/
def jobAttempt (s : TicketStore) (job : Job) : Option FixAttempt := do
  let a ← s.attempts.find? (← job.fixAttemptID)
  let (g, _) ← s.getIncident job.projectID (← job.errorGroupID)
  if some a.ticketID = job.ticketID ∧ some a.generation = job.publicationGeneration ∧
      a.errorGroupID = g.id ∧ g.status ≠ .archived ∧ g.fixSubstate = .fixing then some a else none

/-- Attempts that take one of the project's pull-request slots. -/
def TakesSlot (a : FixAttempt) : Prop :=
  a.status = .prOpen ∨ (a.status = .active ∧ a.deliveryReservedAt.isSome)
  deriving Decidable

/-- Takes a slot for an automatic attempt that has none. -/
def reserveSlot (s : TicketStore) (job : Job) (a : FixAttempt) (maxOpenFixPrs : Nat)
    (now : Timestamp) : Except String TicketStore :=
  if s.frictionAutonomy job.projectID ≠ .autoFix then .error "Automatic fixes disabled"
  else if a.deliveryReservedAt.isSome then .ok s
  else if maxOpenFixPrs ≤ countAttempts s job.projectID (fun a => TakesSlot a) then
    .error "Automatic fix PR cap reached"
  else .ok (s.updateAttempt a.id (FixAttempt.reserve now) fun _ => rfl)

def assertFixAttemptCurrent (s : TicketStore) (job : Job) (delivery : Bool) (maxOpenFixPrs : Nat)
    (now clock clock' : Timestamp) : Except String TicketStore :=
  if ¬LocksJob s job clock then .error (leaseLost job)
  else
    match job.ticketID.bind (s.getTicket job.projectID), jobAttempt s job with
    | some t, some a =>
      if t.kind ≠ .defect ∨ t.status ≠ .published ∨
          some t.liveGeneration ≠ job.publicationGeneration ∨ a.status ≠ .active then
        .error "Stale ticket fix attempt"
      else do
        let s ← (if delivery ∧ a.requestedBy = .auto then reserveSlot s job a maxOpenFixPrs now
          else .ok s)
        if ¬LocksJob s job clock' then .error (leaseLost job) else .ok s
    | _, _ => .error "Stale ticket fix attempt"

/-- The job's attempt is outstanding on the live publication of its ticket. -/
def attemptCurrent (s : TicketStore) (job : Job) : Prop :=
  (job.ticketID.bind (s.getTicket job.projectID)).any fun t =>
    t.status = .published ∧ some t.liveGeneration = job.publicationGeneration ∧
    (job.errorGroupID.bind s.incidents.table.find?).any fun g =>
      g.ticketID = t.id ∧ g.publicationGeneration = t.liveGeneration ∧ g.status ≠ .archived ∧
        (g.fixSubstate = .fixing ∨ g.fixSubstate = .prOpen) ∧
      (job.fixAttemptID.bind s.attempts.find?).any fun a =>
        a.errorGroupID = g.id ∧ a.Outstanding
  deriving Decidable

/-- The delivery id of a pull request that an execution records. -/
def workerDelivery (job : Job) (number : Nat) : String :=
  "worker:" ++ toString job.id ++ ":" ++ toString job.leaseGeneration ++ ":" ++ toString number

/-- The event a recorded pull request is applied as. -/
def recordedEvent (job : Job) (ticketID groupID attemptID : UUID) (generation : Nat)
    (event : PREventKind) (repo url : String) (number : Nat) (occurredAt : Timestamp) : PrEvent where
  ticketID
  errorGroupID := groupID
  generation
  attemptID
  event
  deliveryID := workerDelivery job number
  occurredAt
  prURL := some url
  prNumber := some number
  githubRepo := some repo

def Incident.recordPr (jobID : UUID) (now : Timestamp) (g : Incident) : Incident :=
  { g with
    terminalFixJobID := some jobID
    prFixJobID := some jobID
    prCreatedAt := g.prCreatedAt.or (some now) }

/-- Called once the pull request exists, even if the job was cancelled meanwhile: only a
current, owned execution applies it. `clock` and `clock'` are read by the two lease checks. -/
def recordAttemptPr (s : TicketStore) (job : Job) (repo url : String) (number : Nat)
    (factID : UUID) (occurredAt now clock clock' : Timestamp) : Except String (TicketStore × Bool) :=
  match job.ticketID, job.publicationGeneration, job.fixAttemptID, job.errorGroupID with
  | some ticketID, some generation, some attemptID, some groupID => do
    let event : PREventKind :=
      if Owned s job clock ∧ attemptCurrent s job ∧ Owned s job clock' then .opened else .orphan
    let (s, applied) ← applyPrEvent s job.projectID
      (recordedEvent job ticketID groupID attemptID generation event repo url number occurredAt)
      factID now
    if applied then
      .ok (s.updateIncident groupID (Incident.recordPr job.id now) fun _ => ⟨rfl, rfl, rfl⟩, true)
    else .ok (s, false)
  | _, _, _, _ => .error "Missing ticket PR identity"

def ConfirmBatch.discard (b : ConfirmBatch) : ConfirmBatch := { b with status := .discarded }

theorem ConfirmBatch.discard_id (b : ConfirmBatch) : b.discard.id = b.id := rfl

def FrictionTicket.needReconcile (t : FrictionTicket) : FrictionTicket :=
  { t with reconcileNeeded := true }

theorem FrictionTicket.samePlace_needReconcile (t : FrictionTicket) : t.SamePlace t.needReconcile :=
  ⟨rfl, rfl, rfl⟩

def FrictionTicket.needReinvestigate (t : FrictionTicket) : FrictionTicket :=
  { t with reinvestigateNeeded := true }

/-- A staging batch is given up, and its ticket is reconciled later. -/
def discardBatch (s : TicketStore) (batchID : UUID) : TicketStore :=
  match s.evidence.batches.find? batchID with
  | none => s
  | some b =>
    if b.status = .staging then
      { s with
        evidence := { s.evidence with
          batches := s.evidence.batches.updateKey batchID ConfirmBatch.discard fun _ => rfl }
        scope := ⟨s.scope.matched, s.scope.observed⟩ }.updateTicket b.ticketID
          FrictionTicket.needReconcile fun _ => ⟨rfl, rfl, rfl⟩
    else s

def FixAttempt.fail (current : Bool) (a : FixAttempt) : FixAttempt :=
  { a with status := if current then .failed else .superseded }

def Incident.abandonFix (g : Incident) : Incident :=
  { g with fixSubstate := .none, status := .awaitingApproval }

def Incident.failInvestigation (evidenceVersion : Option Nat) (g : Incident) : Incident :=
  { g with
    investigationStatus := some .failed
    evidenceVersionUsed := evidenceVersion.or g.evidenceVersionUsed }

/-- The active attempt of the job. -/
def Failing (job : Job) (ticketID : UUID) (a : FixAttempt) : Bool :=
  some a.id = job.fixAttemptID ∧ a.ticketID = ticketID ∧
    some a.generation = job.publicationGeneration ∧ a.status = .active

/-- The attempt fails with its job, and its incident waits for approval again. -/
def failFix (s : TicketStore) (job : Job) (ticketID : UUID) (current : Bool) : TicketStore :=
  let s' := { s with
    attempts := s.attempts.updateWhere (Failing job ticketID) (FixAttempt.fail current) fun _ => rfl }
  if current ∧ s.attempts.any (Failing job ticketID) then
    { s' with
      incidents := s'.incidents.updateWhere (fun g => some g.id = job.errorGroupID ∧
        some g.publicationGeneration = job.publicationGeneration ∧ g.status ≠ .archived ∧
        g.fixSubstate = .fixing) Incident.abandonFix fun _ => ⟨rfl, rfl, rfl⟩ }
  else s'

/-- The investigation fails with its job, unless a newer one runs. -/
def failInvestigation (s : TicketStore) (job : Job) (ticketID : UUID) : TicketStore :=
  if s.jobs.any (fun j => j.errorGroupID = job.errorGroupID ∧ j.jobType = .investigate ∧
      j.id ≠ job.id ∧ j.Active) then s
  else
    match job.errorGroupID.bind s.incidents.table.find? with
    | none => s
    | some g =>
      if g.investigationExecution = job.investigationExecution.getD 0 then
        let incidents := s.incidents.updateWhere (fun h => h.id = g.id ∧ h.status ≠ .archived ∧
          h.fixSubstate ≠ .resolved ∧ h.investigationStatus = some .pending)
          (Incident.failInvestigation job.investigationEvidenceVersion) fun _ => ⟨rfl, rfl, rfl⟩
        { s with incidents }.updateTicket ticketID FrictionTicket.needReinvestigate
          fun _ => ⟨rfl, rfl, rfl⟩
      else s

/-- Cleanup in the transaction that ends the job: says whether the job is a ticket's. -/
def attemptFailed (s : TicketStore) (jobID projectID : UUID) : TicketStore × Bool :=
  match (s.jobs.find? jobID).filter (fun j => j.projectID = projectID) with
  | none => (s, false)
  | some job =>
    match job.ticketID with
    | none => (s, false)
    | some ticketID =>
      match s.getTicket projectID ticketID with
      | none => (s, true)
      | some t =>
        let s := match job.jobType, job.batchID with
          | .frictionConfirm, some batchID => discardBatch s batchID
          | _, _ => s
        let current : Bool := t.status = .published ∧
          some t.liveGeneration = job.publicationGeneration
        if job.jobType = .fix then (failFix s job ticketID current, true)
        else if job.jobType = .investigate ∧ current then (failInvestigation s job ticketID, true)
        else (s, true)

/-- What each of its writes keeps, `attemptFailed` keeps. -/
theorem attemptFailed_keeps {P : TicketStore → Prop} {s : TicketStore} {jobID projectID : UUID}
    (start : P s)
    (discards : ∀ job batchID, s.jobs.find? jobID = some job → job.jobType = .frictionConfirm →
      P (discardBatch s batchID))
    (fixes : ∀ s job ticketID current, P s → P (failFix s job ticketID current))
    (investigations : ∀ s job ticketID, P s → P (failInvestigation s job ticketID)) :
    P (attemptFailed s jobID projectID).1 := by
  unfold attemptFailed
  split
  · exact start
  · rename_i job found
    split
    · exact start
    · split
      · exact start
      · dsimp only
        split
        on_goal 2 => split
        on_goal 1 => apply fixes
        on_goal 2 => apply investigations
        all_goals
          split
          · rename_i batchID type _
            exact discards job batchID (Option.filter_eq_some_iff.mp found).1 type
          · exact start

structure TicketPRWebhook where
  repository : String
  number : Nat
  event : PREventKind
  deliveryID : String
  url : String
  occurredAt : Timestamp
  deriving DecidableEq

structure PRWebhookResult where
  groupID : Option UUID
  duplicate : Bool
  deriving DecidableEq

/-- `ORDER BY created_at, id LIMIT 1`. -/
def FixAttempt.age (a : FixAttempt) : (Timestamp ×ₗ UUID)ᵒᵈ := OrderDual.toDual (toLex (a.createdAt, a.id))

/-- The attempt of a pull request, the oldest one where several name it. -/
def attemptOf (s : TicketStore) (repository : String) (number : Nat) : Option FixAttempt :=
  latest FixAttempt.age (s.attempts.select fun a => a.githubRepo = some repository ∧
    a.prNumber = some number ∧ (s.incidents.table.find? a.errorGroupID).isSome ∧
    (s.tickets.find? a.ticketID).isSome)

/-- The fact a webhook records for an attempt. -/
def webhookFact (w : TicketPRWebhook) (a : FixAttempt) : PrEvent where
  ticketID := a.ticketID
  errorGroupID := a.errorGroupID
  generation := a.generation
  attemptID := a.id
  event := w.event
  deliveryID := w.deliveryID
  occurredAt := w.occurredAt
  prURL := some (if w.url ≠ "" then w.url else a.prURL.getD "")
  prNumber := some w.number
  githubRepo := some w.repository

/-- The job that applies a recorded fact. -/
def prEventJob (factID jobID projectID : UUID) (a : FixAttempt) (now : Timestamp) : Job :=
  Job.new jobID projectID .frictionPREvent
    { errorGroupID := some a.errorGroupID
      ticketID := some a.ticketID
      publicationGeneration := some a.generation
      fixAttemptID := some a.id
      sourceID := some factID
      payload := some (.object [("eventId", .string (toString factID))]) } now now

/-- Records the event and queues its application. -/
def processTicketPRWebhook (s : TicketStore) (w : TicketPRWebhook) (factID jobID : UUID)
    (now : Timestamp) : Except String (TicketStore × PRWebhookResult) :=
  if w.event = .orphan then .error "invalid ticket PR event"
  else
    match (s.prEvents.find? w.deliveryID).filter (fun f => f.githubRepo = some w.repository ∧
        f.prNumber = some w.number) with
    | some f => .ok (s, ⟨some f.errorGroupID, true⟩)
    | none =>
      match attemptOf s w.repository w.number with
      | none => .ok (s, ⟨none, false⟩)
      | some a => do
        let g ← (s.incidents.table.find? a.errorGroupID).orError "no rows in result set"
        let t ← (s.tickets.find? g.ticketID).orError "no rows in result set"
        if (s.prEvents.find? w.deliveryID).isSome then .error "no rows in result set"
        else if s.prEvents.any (fun f => f.id = factID) then .error duplicateKey
        else do
          let prEvents ← (s.prEvents.insert? ⟨webhookFact w a, factID, false, none⟩).orError
            duplicateKey
          let jobs ← (Jobs.insertJob? s.jobs (prEventJob factID jobID t.projectID a now)).orError
            duplicateKey
          .ok ({ s with prEvents, jobs }, ⟨some a.errorGroupID, false⟩)

/-- The `eventId` of a job's payload. -/
def eventID (job : Job) : Option String :=
  match job.payload.bind (Json.field "eventId") with
  | some (.string id) => some id
  | _ => none

/-- The fact with this id, of the job's ticket, attempt and publication. -/
def jobFact (s : TicketStore) (job : Job) (eventID : String) : Option PrEventFact :=
  s.prEvents.rows.find? fun f => toString f.id = eventID ∧
    (s.getTicket job.projectID f.ticketID).isSome ∧ some f.ticketID = job.ticketID ∧
    some f.attemptID = job.fixAttemptID ∧ some f.generation = job.publicationGeneration

/-- Applies the fact a webhook recorded. -/
def processPrEventJob (s : TicketStore) (job : Job) (factID : UUID) (now clock clock' : Timestamp) :
    Except String TicketStore :=
  match eventID job with
  | none => .error "PR event job missing eventId"
  | some id =>
    if ¬LocksJob s job clock then .error (leaseLost job)
    else do
      let s ← (match jobFact s job id with
        | none => .ok s
        | some f => (applyPrEvent s job.projectID f.toPrEvent factID now).map Prod.fst)
      if ¬LocksJob s job clock' then .error (leaseLost job) else .ok s

end Opslane.Tickets
