import Opslane.Tickets.Confirmation

/-!
# Runs of confirmations and reconciliations

Any number of executions of the two jobs, interleaved with each other and with every other
transaction on the tickets. An action is one transaction, or one read of an execution
between two of them.

Folding, publishing and unpublishing are what the two jobs do, so they are no actions of
their own here, and neither is the stand-in for what confirmation writes. A failed job and
the cleanup of its dead letter are one action.
-/

namespace Opslane.Tickets.Confirmations

open Jobs (Job)
open Transition (Machine committed)

/-- The job is a confirmation or a reconciliation. -/
def Lane (j : Job) : Prop := j.jobType = .frictionConfirm ∨ j.jobType = .frictionReconcile
  deriving Decidable

/-- The queue's steps that are taken beside the two jobs, which complete and fail in
transactions of their own. -/
def QueueBeside (s : TicketStore) : Jobs.Action → Prop
  | .completeJob jobID .. => (s.jobs.find? jobID).all fun j => ¬Lane j
  | .failJob .. | .requeueStaleJobs .. => False
  | _ => True

instance (s : TicketStore) (a : Jobs.Action) : Decidable (QueueBeside s a) := by
  rcases a with _ | _ <;> dsimp only [QueueBeside] <;> infer_instance

/-- The job is of a ticket of its project. -/
def OfTicket (s : TicketStore) (j : Job) : Prop :=
  ∃ t ∈ s.tickets.rows, j.ticketID = some t.id ∧ t.projectID = j.projectID
  deriving Decidable

/-- The transactions beside the two jobs. -/
def Beside (s : TicketStore) : Tickets.Action → Prop
  | .confirm .. | .recountTicket .. | .foldInto .. | .activateGeneration .. | .unpublish .. => False
  | .enqueue j => Lane j → j.status = .pending ∧ j.batchID = none ∧ OfTicket s j
  | .attemptFailed jobID _ => (s.jobs.find? jobID).all fun j => ¬Lane j
  | .queue a => QueueBeside s a
  | _ => True

instance (s : TicketStore) (a : Tickets.Action) : Decidable (Beside s a) := by
  rcases a with _ | _ <;> dsimp only [Beside] <;> infer_instance

inductive Action where
  | ticket (a : Tickets.Action)
  | scheduleFrictionReconciliation (draw : UUID → UUID) (now : Timestamp)
  | beginConfirm (job : FrictionJob) (batchID : UUID) (now clock clock' : Timestamp)
  | beginReconcile (job : FrictionJob) (clock : Timestamp)
  | read (job : FrictionJob)
  | stageMember (job : FrictionJob) (r : CheckResult) (attemptID : UUID)
      (now clock clock' : Timestamp)
  | readGate (job : FrictionJob) (clock : Timestamp)
  | answerGate (job : FrictionJob) (answer : GateAnswer) (decisionID : UUID) (now : Timestamp)
  | finish (job : FrictionJob) (d : FinalDraws)
  | failJob (jobID : UUID) (workerID : String) (leaseGeneration : Nat) (error : String)
      (options : Jobs.FailOptions) (jitter : Nat) (now clock : Timestamp)
  | requeueStaleJobs (candidateIDs : List UUID) (jitter : UUID → Nat) (now : Timestamp)

/-- The recording a transaction purges. -/
def purged (s : TicketStore) : Tickets.Action → String → Bool
  | .deleteMarkedSession sessionID _, id =>
    id = sessionID ∧ (s.evidence.sessions.find? sessionID).isSome
  | _, _ => false

/-- What an execution reads next. -/
def readNext (c : ConfirmSettings) (s : ConfirmStore) : Memory → Memory
  | .selected t batchID => .staging t batchID (unstaged s batchID)
  | .staging t batchID [] => .planning t (some batchID)
  | .staging t batchID (member :: left) =>
    if BatchIntact s batchID then .reading t batchID member left else .planning t (some batchID)
  | .planning t batchID => .sawIncident t batchID (liveIncident s.store t)
  | .sawIncident t batchID incident => .previewed t batchID incident (previewCohort s t.id batchID)
  | .previewed t batchID incident stats => startJudging c s.store t batchID incident stats
  | m => m

/-- The first reads of a reconciliation: its ticket, under its lease. -/
def beginReconcile (s : ConfirmStore) (job : FrictionJob) (clock : Timestamp) : ConfirmStore :=
  if ¬HoldsJob s.store job .frictionReconcile clock then s.remember job (some .ended)
  else
    match (s.store.getTicket job.projectID job.ticketID).filter fun t => ¬t.status.Terminal with
    | none => s.remember job (some .unplanned)
    | some t => s.remember job (some (.planning t none))

/-- A transaction of an execution; an error ends the execution. -/
def endsOnError (s : ConfirmStore) (job : FrictionJob) : Except String ConfirmStore → ConfirmStore
  | .ok s' => s'
  | .error _ => s.remember job (some .ended)

/-- The transaction an execution ends with. -/
def finish (c : ConfirmSettings) (s : ConfirmStore) (job : FrictionJob) (d : FinalDraws) :
    Memory → Except String ConfirmStore
  | .planned plan (some batchID) => finishConfirm c s job plan batchID d
  | .planned plan none => finishReconcile c s job (some plan) d
  | .unplanned => finishReconcile c s job none d
  | _ => .ok s

/-- The execution is at its last transaction. -/
def Memory.Final : Memory → Prop
  | .planned .. | .unplanned => True
  | _ => False

instance (m : Memory) : Decidable (Memory.Final m) := by
  cases m <;> unfold Memory.Final <;> infer_instance

def step (c : ConfirmSettings) (s : ConfirmStore) : Action → ConfirmStore
  | .ticket a =>
    if Beside s.store a then
      { s with
        store := Tickets.step s.store a
        -- A purged recording's retries go with it.
        retries := s.retries.deleteWhere fun r => purged s.store a r.sessionID }
    else s
  | .scheduleFrictionReconciliation draw now =>
    { s with store := Tickets.scheduleFrictionReconciliation s.store draw now }
  | .beginConfirm job batchID now clock clock' =>
    if (s.memory job).isSome then s
    else endsOnError s job (Tickets.beginConfirm s job batchID now clock clock')
  | .beginReconcile job clock =>
    if (s.memory job).isSome then s else beginReconcile s job clock
  | .read job =>
    match s.memory job with
    | some m => s.remember job (some (readNext c s m))
    | none => s
  | .stageMember job r attemptID now clock clock' =>
    match s.memory job with
    | some (.reading t batchID member left) =>
      endsOnError s job (Tickets.stageMember s job t batchID member left r attemptID now clock clock')
    | _ => s
  | .readGate job clock =>
    match s.memory job with
    | some (.judging plan batchID (n :: left)) =>
      s.remember job (some ((Tickets.readGate s job plan batchID n left clock).getD .ended))
    | _ => s
  | .answerGate job answer decisionID now =>
    match s.memory job with
    | some (.asking plan batchID n left) =>
      endsOnError s job (Tickets.answerGate s job plan batchID n left decisionID now answer)
    | _ => s
  | .finish job d =>
    match (s.memory job).filter fun m => Memory.Final m with
    | some m => (committed s (finish c s job d m)).remember job (some .ended)
    | none => s
  | .failJob jobID workerID leaseGeneration error options jitter now clock =>
    { s with
      store := Tickets.failJob s.store jobID workerID leaseGeneration error options jitter now clock }
  | .requeueStaleJobs candidateIDs jitter now =>
    { s with store := Tickets.requeueStaleJobs s.store candidateIDs jitter now }

def machine (c : ConfirmSettings) : Machine ConfirmStore Action := ⟨step c⟩

end Opslane.Tickets.Confirmations
