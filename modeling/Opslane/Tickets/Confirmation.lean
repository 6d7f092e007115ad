import Opslane.Tickets.Investigation

/-!
# Confirmation of a ticket's recordings

`packages/worker/src/friction/confirm-job.ts` and `reconcile-job.ts`, with their statements in
`tickets-db.ts`. A confirmation selects a batch of recordings, stages one check for each of
them, finalizes the batch and applies the transition its checks call for; a reconciliation
applies a transition without a batch. Both compute a plan first, in reads of their own and
without a lock: which published tickets are near, and which of them the one-fix gate says the
ticket duplicates. The plan is applied in a later transaction, under the publication lock of
the environment, where the snapshot it was made from is still current.

An execution of a job is the job as its worker claimed it, with its lease generation. What it
keeps in memory between its transactions is in `memory`; it ends with the transaction that
ends its job, or with an error.
-/

namespace Opslane.Tickets

open Jobs (Job JobType)

/-- A recording of a batch. -/
structure BatchMember where
  sessionID : String
  endUserID : Option UUID
  arrivalNumber : Nat
  signalIDs : List String
  deriving DecidableEq

/-- The columns of `friction_confirm_batches` that its selection sets for good. -/
structure Selection where
  jobID : UUID
  manifest : List BatchMember
  arrivalBoundary : Nat
  liveGeneration : Nat
  status : TicketStatus
  evidenceVersion : Nat
  deriving DecidableEq

/-- A row of `friction_unavailable_retries`. -/
structure UnavailableRetry where
  ticketID : UUID
  sessionID : String
  attempts : Nat
  retryAt : Timestamp
  permanent : Bool
  deriving DecidableEq

def UnavailableRetry.key (r : UnavailableRetry) : UUID × String := (r.ticketID, r.sessionID)

/-- A row of `friction_gate_decisions`: one answer to the one-fix question. -/
structure GateDecision where
  id : UUID
  ticketID : UUID
  candidateID : UUID
  similarity : ℚ
  oneFix : Bool
  decidedAt : Timestamp
  deriving DecidableEq

/-- A published ticket near another one. -/
structure Neighbor where
  id : UUID
  similarity : ℚ
  deriving DecidableEq

structure TransitionPlan where
  ticket : FrictionTicket
  incident : Option Incident
  neighbors : Option (List Neighbor)
  targetID : Option UUID
  /-- The one-fix gate answered for every planned neighbor. -/
  judged : Bool
  /-- The gate answered invalidly twice; the deferral spends a fold retry. -/
  gateInvalid : Bool
  deriving DecidableEq

/-- What an execution remembers, by what it did last. -/
inductive Memory where
  | selected (ticket : FrictionTicket) (batchID : UUID)
  | staging (ticket : FrictionTicket) (batchID : UUID) (left : List BatchMember)
  | reading (ticket : FrictionTicket) (batchID : UUID) (member : BatchMember)
      (left : List BatchMember)
  | planning (ticket : FrictionTicket) (batchID : Option UUID)
  | sawIncident (ticket : FrictionTicket) (batchID : Option UUID) (incident : Option Incident)
  | previewed (ticket : FrictionTicket) (batchID : Option UUID) (incident : Option Incident)
      (stats : CohortStats)
  | judging (plan : TransitionPlan) (batchID : Option UUID) (left : List Neighbor)
  | asking (plan : TransitionPlan) (batchID : Option UUID) (neighbor : Neighbor)
      (left : List Neighbor)
  | planned (plan : TransitionPlan) (batchID : Option UUID)
  /-- A reconciliation whose ticket was gone or terminal plans nothing. -/
  | unplanned
  | ended
  deriving DecidableEq

/-- A claimed job of a ticket, as its worker holds it. -/
structure FrictionJob where
  id : UUID
  projectID : UUID
  ticketID : UUID
  workerID : String
  leaseGeneration : Nat
  deriving DecidableEq

structure ConfirmStore where
  store : TicketStore
  selection : UUID → Selection
  /-- The column `friction_check_attempts.outcome`. -/
  outcome : UUID → CheckOutcome
  retries : Table UnavailableRetry.key
  gateDecisions : Table GateDecision.id
  memory : FrictionJob → Option Memory

/-- The settings of a worker, and how similar two tickets are by the embeddings they were
created with: nothing where one of them has none of the current model. -/
structure ConfirmSettings where
  similarity : UUID → UUID → Option ℚ
  foldMinSimilarity : ℚ
  insightInvestigateUsers : Nat

/-- The changed neighbor snapshots a classification may retry before publishing without the
one-fix gate. -/
def foldRetryLimit : Nat := 3

def TicketStatus.Terminal (status : TicketStatus) : Prop := status = .merged ∨ status = .archived

instance (status : TicketStatus) : Decidable status.Terminal := inferInstanceAs (Decidable (_ ∨ _))

/-- The ticket waits to be published, for the first time or again. -/
def TicketStatus.Classified (status : TicketStatus) : Prop :=
  status = .tracking ∨ status = .unpublished

instance (status : TicketStatus) : Decidable status.Classified :=
  inferInstanceAs (Decidable (_ ∨ _))

namespace ConfirmStore

def empty : ConfirmStore where
  store := .empty
  selection _ := ⟨0, [], 0, 0, .tracking, 0⟩
  outcome _ := .unavailable
  retries := Table.empty
  gateDecisions := Table.empty
  memory _ := none

def remember (s : ConfirmStore) (job : FrictionJob) (m : Option Memory) : ConfirmStore :=
  { s with memory := Function.update s.memory job m }

end ConfirmStore

theorem TicketStore.scoped_checks (s : TicketStore) (checks : Table Check.key)
    (attempts : Table CheckAttempt.id) (batches : Table ConfirmBatch.id) :
    Evidence.Scoped { s.evidence with checks, attempts, batches } s.tickets :=
  ⟨s.scope.matched, s.scope.observed⟩

/-- The tables that only confirmation writes. -/
def TicketStore.withChecks (s : TicketStore) (checks : Table Check.key)
    (attempts : Table CheckAttempt.id) (batches : Table ConfirmBatch.id) : TicketStore :=
  { s with
    evidence := { s.evidence with checks, attempts, batches }
    scope := s.scoped_checks checks attempts batches }

/-- The execution holds its job of this type. -/
def HoldsJob (s : TicketStore) (job : FrictionJob) (type : JobType) (clock : Timestamp) : Prop :=
  s.jobs.any fun j => j.projectID = job.projectID ∧ j.ticketID = some job.ticketID ∧
    j.jobType = type ∧ j.Owned job.id job.workerID job.leaseGeneration clock
  deriving Decidable

/-- Throws where the lease is lost. -/
def lockLease (s : TicketStore) (job : FrictionJob) (type : JobType) (clock : Timestamp) :
    Except String Unit :=
  if HoldsJob s job type clock then .ok () else .error ("Job lease lost for " ++ toString job.id)

def completeTx (s : TicketStore) (job : FrictionJob) (type : JobType) (clock : Timestamp) :
    Except String TicketStore := do
  lockLease s job type clock
  .ok { s with jobs := s.jobs.updateKey job.id completed completed_id }

/-- The recording has no check, and no retry holds it back at `now`. -/
def Selectable (s : ConfirmStore) (ticketID : UUID) (now : Timestamp) (m : TicketMatch) : Prop :=
  m.ticketID = ticketID ∧ (s.store.evidence.checks.find? m.key).isNone ∧
    (s.retries.find? m.key).all fun r => ¬r.permanent ∧ r.retryAt ≤ now
  deriving Decidable

/-- `row_number() OVER(PARTITION BY end_user_id ORDER BY arrival_number)`, from zero. -/
def turn (rows : List TicketMatch) (m : TicketMatch) : Nat :=
  rows.countP fun m' => m'.endUserID = m.endUserID ∧ m'.arrivalNumber < m.arrivalNumber

/-- `ORDER BY turn, arrival_number`. -/
def selectionOrder (rows : List TicketMatch) (m m' : TicketMatch) : Prop :=
  turn rows m < turn rows m' ∨
    (turn rows m = turn rows m' ∧ m.arrivalNumber ≤ m'.arrivalNumber)

instance (rows : List TicketMatch) : DecidableRel (selectionOrder rows) :=
  fun _ _ => inferInstanceAs (Decidable (_ ∨ _))

def batchLimit (t : FrictionTicket) : Nat :=
  if t.arrivalBoundary = 0 ∧ 50 < t.matchedCount then 30 else 10

def batchMember (e : Evidence) (m : TicketMatch) : BatchMember where
  sessionID := m.sessionID
  endUserID := m.endUserID
  arrivalNumber := m.arrivalNumber
  signalIDs := ((e.observations.filter fun o => o.ticketID = m.ticketID ∧
    o.sessionID = m.sessionID).map MatchObservation.signalID).insertionSort (· ≤ ·)

/-- The recordings a batch of the ticket would take now. -/
def selectedMembers (s : ConfirmStore) (t : FrictionTicket) (now : Timestamp) : List BatchMember :=
  let rows := s.store.evidence.ticketMatches.select fun m => Selectable s t.id now m
  ((rows.insertionSort (selectionOrder rows)).take (batchLimit t)).map
    (batchMember s.store.evidence)

/-- The watermark covers arrivals present at selection, including unsampled backlog. -/
def FrictionTicket.cover (t : FrictionTicket) : FrictionTicket :=
  { t with arrivalBoundary := t.nextArrivalNumber }

/-- Selects a batch, unless there is nothing to select. -/
def selectBatch (s : ConfirmStore) (t : FrictionTicket) (jobID batchID : UUID) (now : Timestamp) :
    Except String (Option ConfirmStore) :=
  let manifest := selectedMembers s t now
  if manifest = [] then .ok none
  else do
    let batches ← (s.store.evidence.batches.insert? ⟨batchID, t.id, .staging⟩).orError duplicateKey
    let store := s.store.withChecks s.store.evidence.checks s.store.evidence.attempts batches
    .ok (some { s with
      store := store.updateTicket t.id FrictionTicket.cover fun _ => ⟨rfl, rfl, rfl⟩
      selection := Function.update s.selection batchID
        ⟨jobID, manifest, t.arrivalBoundary, t.liveGeneration, t.status, t.evidenceVersion⟩ })

def getBatch (s : ConfirmStore) (ticketID batchID : UUID) : Option ConfirmBatch :=
  (s.store.evidence.batches.find? batchID).filter fun b => b.ticketID = ticketID

def keepBatch (batchID : UUID) (j : Job) : Job := { j with batchID := some batchID }

theorem keepBatch_id (batchID : UUID) (j : Job) : (keepBatch batchID j).id = j.id := rfl

/-- The batch column of a job. -/
def jobBatch (s : TicketStore) (jobID : UUID) : Option UUID := 
  (s.jobs.find? jobID).bind fun j => j.batchID

/-- The batch the job works on: its own one, or a new one. -/
def takeBatch (s : ConfirmStore) (job : FrictionJob) (t : FrictionTicket) (batchID : UUID)
    (now : Timestamp) : Except String (Option (ConfirmStore × UUID)) :=
  match jobBatch s.store job.id with
  | some id => .ok ((getBatch s t.id id).map fun b => (s, b.id))
  | none => (selectBatch s t job.id batchID now).map (Option.map fun s => (s, batchID))

/-- The end of a job whose ticket is terminal. -/
def settleTerminal (s : TicketStore) (jobID ticketID : UUID) : TicketStore :=
  let s := (jobBatch s jobID).elim s (discardBatch s)
  s.updateTicket ticketID FrictionTicket.reconciled FrictionTicket.samePlace_reconciled

/-- The first transaction of a confirmation. `clock` and `clock'` are read by the two checks of
the lease. -/
def beginConfirm (s : ConfirmStore) (job : FrictionJob) (batchID : UUID)
    (now clock clock' : Timestamp) : Except String ConfirmStore := do
  lockLease s.store job .frictionConfirm clock
  match s.store.getTicket job.projectID job.ticketID with
  | none => do
    let store ← completeTx s.store job .frictionConfirm clock'
    .ok { s with store }
  | some t =>
    if t.status.Terminal then do
      let store ← completeTx (settleTerminal s.store job.id t.id) job .frictionConfirm clock'
      .ok { s with store }
    else
      match ← takeBatch s job t batchID now with
      | none => do
        let store ← completeTx s.store job .frictionConfirm clock'
        .ok { s with store }
      | some (s, id) =>
        if (s.selection id).jobID ≠ job.id then .error "Confirmation batch belongs to another job"
        else
          let store := { s.store with jobs := s.store.jobs.updateKey job.id (keepBatch id) fun _ => rfl }
          .ok ({ s with store }.remember job (some (.selected t id)))

/-- Every recording of the batch is still on its ticket, with the signals it was selected with. -/
def BatchIntact (s : ConfirmStore) (batchID : UUID) : Prop :=
  ∀ member ∈ (s.selection batchID).manifest, (s.store.evidence.batches.find? batchID).all fun b =>
    (s.store.evidence.ticketMatches.find? (b.ticketID, member.sessionID)).isSome ∧
    (s.store.evidence.sessions.find? member.sessionID).isSome ∧
    ∀ id ∈ member.signalIDs, ⟨b.ticketID, member.sessionID, id⟩ ∈ s.store.evidence.observations
  deriving Decidable

/-- What a read of a recording comes to. -/
structure CheckResult where
  outcome : CheckOutcome
  signalIDs : List String
  note : String
  costToUser : Option CostToUser
  deriving DecidableEq

/-- The recording is of the batch, with every signal the check names. -/
def Names (manifest : List BatchMember) (sessionID : String) (r : CheckResult) : Prop :=
  ∃ member ∈ manifest, member.sessionID = sessionID ∧ ∀ id ∈ r.signalIDs, id ∈ member.signalIDs
  deriving Decidable

def hours (n : Int) : Int := n * 3600000000

/-- The first retry of a recording that was unavailable. -/
def UnavailableRetry.first (ticketID : UUID) (sessionID : String) (now : Timestamp) :
    UnavailableRetry :=
  ⟨ticketID, sessionID, 1, now + hours 1, false⟩

/-- It was unavailable again. -/
def UnavailableRetry.again (now : Timestamp) (r : UnavailableRetry) : UnavailableRetry :=
  { r with
    attempts := r.attempts + 1
    retryAt := now + (if r.attempts = 0 then hours 1 else if r.attempts = 1 then hours 6 else hours 24)
    permanent := 4 ≤ r.attempts + 1 }

/-- The batch takes a check of the recording: it is staging, and has none yet. -/
def Stages (s : ConfirmStore) (batchID : UUID) (sessionID : String) (r : CheckResult)
    (b : ConfirmBatch) : Prop :=
  b.status = .staging ∧ Names (s.selection batchID).manifest sessionID r ∧
    ¬s.store.evidence.attempts.any fun a => a.batchID = batchID ∧ a.sessionID = sessionID
  deriving Decidable

def CheckResult.attempt (r : CheckResult) (id batchID ticketID : UUID) (sessionID : String) :
    CheckAttempt :=
  ⟨id, batchID, ticketID, sessionID, r.signalIDs, r.note, r.costToUser⟩

/-- Stages a check of one recording, and counts it where the recording was unavailable. -/
def stageCheck (s : ConfirmStore) (batchID : UUID) (sessionID : String) (r : CheckResult)
    (attemptID : UUID) (now : Timestamp) : Except String ConfirmStore :=
  match (s.store.evidence.batches.find? batchID).filter fun b => Stages s batchID sessionID r b with
  | none => .ok s
  | some b => do
    let attempts ← (s.store.evidence.attempts.insert?
      (r.attempt attemptID batchID b.ticketID sessionID)).orError duplicateKey
    .ok { s with
      store := s.store.withChecks s.store.evidence.checks attempts s.store.evidence.batches
      outcome := Function.update s.outcome attemptID r.outcome
      retries := if r.outcome = .unavailable then
          s.retries.upsert (.first b.ticketID sessionID now) (UnavailableRetry.again now)
            fun _ => rfl
        else s.retries }

/-- The members an execution still has to stage. -/
def unstaged (s : ConfirmStore) (batchID : UUID) : List BatchMember :=
  (s.selection batchID).manifest.filter fun member =>
    ¬s.store.evidence.attempts.any fun a => a.batchID = batchID ∧ a.sessionID = member.sessionID

/-- The transaction that stages one member, or ends the loop where the batch is not intact. -/
def stageMember (s : ConfirmStore) (job : FrictionJob) (t : FrictionTicket) (batchID : UUID)
    (member : BatchMember) (left : List BatchMember) (r : CheckResult) (attemptID : UUID)
    (now clock clock' : Timestamp) : Except String ConfirmStore := do
  lockLease s.store job .frictionConfirm clock
  if ¬BatchIntact s batchID then .ok (s.remember job (some (.planning t (some batchID))))
  else do
    let s ← stageCheck s batchID member.sessionID r attemptID now
    lockLease s.store job .frictionConfirm clock'
    .ok (s.remember job (some (.staging t batchID left)))

/-- What a count of outcomes needs of a check: its outcome, and whose recording it is of. -/
abbrev CountedCheck := CheckOutcome × Option UUID

def summarizeChecks (rows : List CountedCheck) : CohortStats :=
  let users := (rows.filter fun r => r.1 = .confirmed).filterMap Prod.snd
  { counted := rows.length
    confirmed := rows.countP fun r => r.1 = .confirmed
    refuted := rows.countP fun r => r.1 = .refuted
    inconclusive := rows.countP fun r => r.1 = .inconclusive
    confirmedUsers := users.dedup.length
    identityKnown := users ≠ [] }

/-- A check of the ticket's cohort, by the row the ticket has now. -/
def previewRow (s : ConfirmStore) (ticketID : UUID) (sessionID : String) (outcome : CheckOutcome) :
    Option CountedCheck := do
  let t ← s.store.tickets.find? ticketID
  let m ← s.store.evidence.ticketMatches.find? (ticketID, sessionID)
  if InCohort t m then some (outcome, m.endUserID) else none

/-- The finalized checks of the ticket. -/
def finalizedRow (s : ConfirmStore) (ticketID : UUID) (c : Check) : Option CountedCheck := do
  let a ← s.store.evidence.attempts.find? c.attemptID
  let b ← s.store.evidence.batches.find? a.batchID
  if c.ticketID = ticketID ∧ b.status = .finalized then
    previewRow s ticketID c.sessionID c.outcome
  else none

/-- The staged checks of a batch, of recordings that have none yet. -/
def stagedRow (s : ConfirmStore) (ticketID batchID : UUID) (a : CheckAttempt) :
    Option CountedCheck := do
  let b ← s.store.evidence.batches.find? a.batchID
  if a.batchID = batchID ∧ a.ticketID = ticketID ∧ b.status = .staging ∧
      s.outcome a.id ≠ .unavailable ∧
      (s.store.evidence.checks.find? (a.ticketID, a.sessionID)).isNone then
    previewRow s ticketID a.sessionID (s.outcome a.id)
  else none

/-- Includes the batch's staged checks, for planning only. -/
def previewCohort (s : ConfirmStore) (ticketID : UUID) (batchID : Option UUID) : CohortStats :=
  summarizeChecks (s.store.evidence.checks.rows.filterMap (finalizedRow s ticketID) ++
    batchID.elim [] fun id => s.store.evidence.attempts.rows.filterMap (stagedRow s ticketID id))

/-- A published ticket of the environment whose live incident is not resolved. -/
def OpenNeighbor (s : TicketStore) (t n : FrictionTicket) : Prop :=
  n.projectID = t.projectID ∧ n.environmentID = t.environmentID ∧ n.id ≠ t.id ∧
    n.status = .published ∧ (liveIncident s n).any fun g => g.fixSubstate ≠ .resolved
  deriving Decidable

/-- How near a ticket is, where it is near enough to ask about. -/
def neighbor? (c : ConfirmSettings) (s : TicketStore) (t n : FrictionTicket) : Option Neighbor := do
  let similarity ← c.similarity t.id n.id
  if OpenNeighbor s t n ∧ c.foldMinSimilarity ≤ similarity then some ⟨n.id, similarity⟩ else none

/-- `ORDER BY similarity DESC, id`. -/
def Neighbor.nearer (n n' : Neighbor) : Prop :=
  n'.similarity < n.similarity ∨ (n.similarity = n'.similarity ∧ n.id ≤ n'.id)

instance : DecidableRel Neighbor.nearer := fun _ _ => inferInstanceAs (Decidable (_ ∨ _))

def publishedNeighbors (c : ConfirmSettings) (s : TicketStore) (t : FrictionTicket) :
    List Neighbor :=
  ((s.tickets.rows.filterMap (neighbor? c s t)).insertionSort Neighbor.nearer).take 10

/-- The transition an unlocked preview of the cohort calls for. -/
def previewTransition (t : FrictionTicket) (incident : Option Incident) (stats : CohortStats) :
    TransitionKind :=
  let substate := incident.map Incident.fixSubstate
  confirmationTransition t.status substate (evaluateBar stats t.status substate)

/-- The gate is asked about each neighbor in turn, and the first duplicate is the target. -/
def judge (plan : TransitionPlan) (batchID : Option UUID) : List Neighbor → Memory
  | [] => .planned plan batchID
  | n :: left => .judging plan batchID (n :: left)

/-- The plan once its neighbors are read: they are judged where the preview classifies. -/
def startJudging (c : ConfirmSettings) (s : TicketStore) (t : FrictionTicket)
    (batchID : Option UUID) (incident : Option Incident) (stats : CohortStats) : Memory :=
  let plan : TransitionPlan := ⟨t, incident, none, none, false, false⟩
  if ¬t.status.Classified ∨ foldRetryLimit ≤ t.foldRetries then .planned plan batchID
  else
    let neighbors := publishedNeighbors c s t
    if previewTransition t incident stats ≠ .classify then
      .planned { plan with neighbors := some neighbors } batchID
    else judge { plan with neighbors := some neighbors, judged := true } batchID neighbors

/-- `ORDER BY decided_at DESC, id DESC`. -/
def GateDecision.order (d : GateDecision) : Timestamp ×ₗ UUID := toLex (d.decidedAt, d.id)

/-- The latest answer for an ordered pair. -/
def latestGateDecision (s : ConfirmStore) (ticketID candidateID : UUID) : Option Bool :=
  (Latest.latest GateDecision.order (s.gateDecisions.select fun d =>
    d.ticketID = ticketID ∧ d.candidateID = candidateID)).map GateDecision.oneFix

/-- What follows an answer about one neighbor. -/
def answered (plan : TransitionPlan) (batchID : Option UUID) (n : Neighbor) (left : List Neighbor)
    (oneFix : Bool) : Memory :=
  if oneFix then .planned { plan with targetID := some n.id } batchID else judge plan batchID left

/-- A neighbor without a stored answer is asked about, where the lease still holds. -/
def readGate (s : ConfirmStore) (job : FrictionJob) (plan : TransitionPlan) (batchID : Option UUID)
    (n : Neighbor) (left : List Neighbor) (clock : Timestamp) : Option Memory :=
  match latestGateDecision s plan.ticket.id n.id with
  | some oneFix => some (answered plan batchID n left oneFix)
  | none =>
    if s.store.jobs.any fun j => j.Owned job.id job.workerID job.leaseGeneration clock then
      some (.asking plan batchID n left)
    else none

/-- What the model says of a pair: one fix or not, or nothing valid twice. -/
inductive GateAnswer where
  | oneFix (yes : Bool)
  | invalid
  deriving DecidableEq

def recordGateDecision (s : ConfirmStore) (ticketID : UUID) (n : Neighbor) (oneFix : Bool)
    (decisionID : UUID) (now : Timestamp) : Except String ConfirmStore := do
  let gateDecisions ← (s.gateDecisions.insert?
    ⟨decisionID, ticketID, n.id, n.similarity, oneFix, now⟩).orError duplicateKey
  .ok { s with gateDecisions }

def answerGate (s : ConfirmStore) (job : FrictionJob) (plan : TransitionPlan)
    (batchID : Option UUID) (n : Neighbor) (left : List Neighbor) (decisionID : UUID)
    (now : Timestamp) : GateAnswer → Except String ConfirmStore
  | .invalid =>
    .ok (s.remember job (some (.planned
      { plan with judged := false, gateInvalid := true, targetID := none } batchID)))
  | .oneFix yes => do
    let s ← recordGateDecision s plan.ticket.id n yes decisionID now
    .ok (s.remember job (some (answered plan batchID n left yes)))

def SnapshotCurrent (current : FrictionTicket) (status : TicketStatus)
    (liveGeneration evidenceVersion : Nat) (fixedAt : Option Timestamp)
    (savedIncident live : Option Incident) : Prop :=
  current.status = status ∧ current.liveGeneration = liveGeneration ∧
    current.evidenceVersion = evidenceVersion ∧ current.fixedAt = fixedAt ∧
    (live.map Incident.fixSubstate = some .resolved ↔
      savedIncident.map Incident.fixSubstate = some .resolved)
  deriving Decidable

/-- The ticket is as the plan read it. -/
def PlanCurrent (s : TicketStore) (current : FrictionTicket) (plan : TransitionPlan) : Prop :=
  SnapshotCurrent current plan.ticket.status plan.ticket.liveGeneration plan.ticket.evidenceVersion
    plan.ticket.fixedAt plan.incident (liveIncident s current)
  deriving Decidable

/-- The ticket is as the batch was selected from it. -/
def BatchCurrent (s : ConfirmStore) (current : FrictionTicket) (batchID : UUID)
    (plan : TransitionPlan) : Prop :=
  SnapshotCurrent current (s.selection batchID).status (s.selection batchID).liveGeneration
    (s.selection batchID).evidenceVersion plan.ticket.fixedAt plan.incident
    (liveIncident s.store current)
  deriving Decidable

/-- What applying a plan does to its ticket. -/
inductive AppliedTransition where
  | deferred (spent : Bool)
  | folded (targetID : UUID)
  | activated | unpublished | refreshed | unchanged
  deriving DecidableEq

/-- The choice of `applyConfirmationTransition`, from the locked cohort and neighbors. -/
def appliedTransition (c : ConfirmSettings) (s : TicketStore) (t : FrictionTicket)
    (plan : TransitionPlan) : AppliedTransition :=
  match lockedTransition s t with
  | .classify =>
    if t.foldRetries < foldRetryLimit then
      let snapshot := publishedNeighbors c s t
      if some snapshot ≠ plan.neighbors then .deferred true
      -- The preview missed the bar, so the gate was never asked about these candidates.
      else if ¬plan.judged ∧ snapshot ≠ [] then .deferred plan.gateInvalid
      else
        match plan.targetID.filter fun id => id ∈ snapshot.map Neighbor.id with
        | some targetID => .folded targetID
        | none => .activated
    else .activated
  | .activate => .activated
  | .unpublish => .unpublished
  | .refresh => .refreshed
  | .none => .unchanged

def FrictionTicket.defer (spent : Bool) (t : FrictionTicket) : FrictionTicket :=
  { t with reconcileNeeded := true, foldRetries := t.foldRetries + if spent then 1 else 0 }

/-- The uuids an applied transition may draw. -/
structure TransitionDraws where
  group : UUID
  investigation : UUID
  first : UUID
  confirm : UUID
  deriving DecidableEq

def reconciledTicket (s : TicketStore) (ticketID : UUID) : TicketStore :=
  s.updateTicket ticketID FrictionTicket.reconciled FrictionTicket.samePlace_reconciled

def deferTicket (s : TicketStore) (ticketID : UUID) (spent : Bool) : TicketStore :=
  s.updateTicket ticketID (FrictionTicket.defer spent) fun _ => ⟨rfl, rfl, rfl⟩

/-- Carries out a transition of the ticket. -/
def carryOut (c : ConfirmSettings) (s : TicketStore) (t : FrictionTicket) (draws : TransitionDraws)
    (now : Timestamp) : AppliedTransition → Except String TicketStore
  | .deferred spent => .ok (deferTicket s t.id spent)
  | .folded targetID => do
    let target ← (s.tickets.find? targetID).orError "Ticket outside scope or missing"
    let s ← foldInto s t target draws.confirm now
    .ok (reconciledTicket s t.id)
  | .activated => do
    let s ← activateGeneration s t c.insightInvestigateUsers draws.group draws.investigation now
    .ok (reconciledTicket s t.id)
  | .unpublished => do
    let s ← unpublish s t now
    .ok (reconciledTicket s t.id)
  | .refreshed =>
    match liveIncident s t with
    | none => .ok (reconciledTicket s t.id)
    | some g =>
      .ok (refresh s t g c.insightInvestigateUsers draws.investigation draws.first now)
  | .unchanged => .ok (reconciledTicket s t.id)

def applyConfirmationTransition (c : ConfirmSettings) (s : TicketStore) (t : FrictionTicket)
    (plan : TransitionPlan) (draws : TransitionDraws) (now : Timestamp) :
    Except String TicketStore :=
  carryOut c s t draws now (appliedTransition c s t plan)

/-- The attempt of the batch came to an answer. -/
def Conclusive (s : ConfirmStore) (batchID : UUID) (a : CheckAttempt) : Prop :=
  a.batchID = batchID ∧ s.outcome a.id ≠ .unavailable
  deriving Decidable

def CheckAttempt.check (outcome : CheckOutcome) (a : CheckAttempt) : Check :=
  ⟨a.ticketID, a.sessionID, a.id, outcome⟩

/-- The checks a batch is finalized into. -/
def batchChecks (s : ConfirmStore) (batchID : UUID) : List Check :=
  (s.store.evidence.attempts.select fun a => Conclusive s batchID a).map fun a =>
    a.check (s.outcome a.id)

def ConfirmBatch.finalize (b : ConfirmBatch) : ConfirmBatch := { b with status := .finalized }

def FrictionTicket.finalize (t : FrictionTicket) : FrictionTicket :=
  { t with evidenceVersion := t.evidenceVersion + 1 }

/-- Finalizes a staging batch of the ticket; says nothing was finalized of any other. -/
def finalizeBatch (s : ConfirmStore) (t : FrictionTicket) (batchID : UUID) :
    Except String (ConfirmStore × Bool) :=
  match getBatch s t.id batchID with
  | none => .error "Batch outside ticket"
  | some b =>
    if b.status ≠ .staging then .ok (s, false)
    else if (s.store.evidence.attempts.select fun a => a.batchID = batchID).length ≠
        (s.selection batchID).manifest.length then .error "Cannot finalize an incomplete batch"
    else
      let e := s.store.evidence
      .ok ({ s with
        store := (s.store.withChecks ((batchChecks s batchID).foldl Table.insertIgnore e.checks)
          e.attempts (e.batches.updateKey batchID ConfirmBatch.finalize fun _ => rfl)).updateTicket
            t.id FrictionTicket.finalize fun _ => ⟨rfl, rfl, rfl⟩
        retries := s.retries.deleteWhere fun r => e.attempts.any fun a =>
          Conclusive s batchID a ∧ r.key = (a.ticketID, a.sessionID) }, true)

/-- The recording still waits for a check, or for a retry of one. -/
def OpenRecording (s : ConfirmStore) (ticketID : UUID) (m : TicketMatch) : Prop :=
  m.ticketID = ticketID ∧ (s.store.evidence.checks.find? m.key).isNone ∧
    (s.retries.find? m.key).all fun r => ¬r.permanent
  deriving Decidable

/-- Null means no remaining selectable or retryable work. -/
def nextConfirmationAt (s : ConfirmStore) (ticketID : UUID) (now : Timestamp) : Option Timestamp :=
  ((s.store.evidence.ticketMatches.select fun m => OpenRecording s ticketID m).map fun m =>
    (s.retries.find? m.key).elim now fun r => max now r.retryAt).min?

def nextConfirmJob (t : FrictionTicket) (jobID : UUID) (availableAt now : Timestamp) : Job :=
  Job.new jobID t.projectID .frictionConfirm { ticketID := some t.id } availableAt now

/-- Queues the ticket's next confirmation, under a new uuid. -/
def queueNext (s : ConfirmStore) (job : FrictionJob) (jobID : UUID) (now : Timestamp) :
    Except String ConfirmStore :=
  match s.store.getTicket job.projectID job.ticketID with
  | none => .ok s
  | some t =>
    if t.status.Terminal then .ok s
    else
      match nextConfirmationAt s t.id now with
      | none => .ok s
      | some availableAt =>
        if (s.store.jobs.find? jobID).isSome then .error duplicateKey
        else
          let jobs := Jobs.enqueueJobTx s.store.jobs (nextConfirmJob t jobID availableAt now)
          .ok { s with store := { s.store with jobs } }

/-- What the last transaction of a job draws and reads. -/
structure FinalDraws where
  draws : TransitionDraws
  nextID : UUID
  now : Timestamp
  clock : Timestamp
  clock' : Timestamp
  deriving DecidableEq

/-- The batch is given up; a terminal ticket needs no reconciliation after it. -/
def abandonBatch (s : TicketStore) (t : FrictionTicket) (batchID : UUID) : TicketStore :=
  let s := discardBatch s batchID
  if t.status.Terminal then reconciledTicket s t.id else s

/-- A batch that is current is finalized, and its plan applied. -/
def concludeBatch (c : ConfirmSettings) (s : ConfirmStore) (t : FrictionTicket) (batchID : UUID)
    (plan : TransitionPlan) (d : FinalDraws) : Except String ConfirmStore := do
  let (s, finalized) ← finalizeBatch s t batchID
  if finalized then
    let store ← applyConfirmationTransition c s.store t.finalize plan d.draws d.now
    .ok { s with store }
  else .ok s

/-- The last transaction of a confirmation. -/
def finishConfirm (c : ConfirmSettings) (s : ConfirmStore) (job : FrictionJob)
    (plan : TransitionPlan) (batchID : UUID) (d : FinalDraws) : Except String ConfirmStore := do
  lockLease s.store job .frictionConfirm d.clock
  match s.store.getTicket job.projectID plan.ticket.id with
  | none => do
    let store ← completeTx s.store job .frictionConfirm d.clock'
    .ok { s with store }
  | some current =>
    if ¬BatchCurrent s current batchID plan ∨ ¬BatchIntact s batchID then do
      let store ← completeTx (abandonBatch s.store current batchID) job .frictionConfirm d.clock'
      .ok { s with store }
    else do
      let s ← concludeBatch c s current batchID plan d
      let store ← completeTx s.store job .frictionConfirm d.clock'
      queueNext { s with store } job d.nextID d.now

/-- The transition of a reconciliation. -/
def reconcileTicket (c : ConfirmSettings) (s : TicketStore) (current : FrictionTicket)
    (plan : Option TransitionPlan) (d : FinalDraws) : Except String TicketStore :=
  if current.status.Terminal then .ok (reconciledTicket s current.id)
  else
    match plan.filter fun plan => PlanCurrent s current plan with
    | some plan => applyConfirmationTransition c s current plan d.draws d.now
    | none =>
      .ok (s.updateTicket current.id FrictionTicket.needReconcile FrictionTicket.samePlace_needReconcile)

/-- The last transaction of a reconciliation. -/
def finishReconcile (c : ConfirmSettings) (s : ConfirmStore) (job : FrictionJob)
    (plan : Option TransitionPlan) (d : FinalDraws) : Except String ConfirmStore := do
  lockLease s.store job .frictionReconcile d.clock
  match s.store.getTicket job.projectID job.ticketID with
  | none => do
    let store ← completeTx s.store job .frictionReconcile d.clock'
    .ok { s with store }
  | some current => do
    let counted := recountTicket s.store current.id
    let matchedCount := (s.store.evidence.ticketMatches.select fun m =>
      m.ticketID = current.id).length
    let store ← reconcileTicket c counted (current.setMatchedCount matchedCount) plan d
    let store ← completeTx store job .frictionReconcile d.clock'
    queueNext { s with store } job d.nextID d.now

def reconcileJob (t : FrictionTicket) (jobID : UUID) (now : Timestamp) : Job :=
  Job.new jobID t.projectID .frictionReconcile { ticketID := some t.id } now now

/-- A reconciliation of every ticket that needs one, under uuids drawn for the tickets. -/
def scheduleFrictionReconciliation (s : TicketStore) (draw : UUID → UUID) (now : Timestamp) :
    TicketStore :=
  { s with
    jobs := (s.tickets.select fun t => t.reconcileNeeded ∧ ¬t.status.Terminal).foldl
      (fun jobs t => Jobs.enqueueJobTx jobs (reconcileJob t (draw t.id) now)) s.jobs }

/-- The cleanup of a job that is out of attempts. -/
def cleanUp (s : TicketStore) (j : Job) : TicketStore :=
  if j.status = .deadLetter then (attemptFailed s j.id j.projectID).1 else s

/-- Fails a job, with the cleanup of a dead letter in the same transaction. -/
def failJob (s : TicketStore) (jobID : UUID) (workerID : String) (leaseGeneration : Nat)
    (error : String) (options : Jobs.FailOptions) (jitter : Nat) (now clock : Timestamp) :
    TicketStore :=
  let failed := Jobs.failJob s.jobs jobID workerID leaseGeneration error options jitter now clock
  let s := { s with jobs := failed.1 }
  if failed.2 then (s.jobs.find? jobID).elim s (cleanUp s) else s

/-- The reaper, with the cleanup of each dead letter in the same transaction. -/
def requeueStaleJobs (s : TicketStore) (candidateIDs : List UUID) (jitter : UUID → Nat)
    (now : Timestamp) : TicketStore :=
  let reaped := Jobs.requeueStaleJobs s.jobs candidateIDs jitter now
  reaped.2.foldl cleanUp { s with jobs := reaped.1 }

end Opslane.Tickets
