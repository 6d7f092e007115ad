import Opslane.Lib.Json
import Opslane.Lib.Table
import Opslane.Lib.Transition
import Opslane.Schema

/-!
# The job queue

The table `error_group_jobs` and its operations in `packages/worker/src/db.ts`:
`claimJob`, `heartbeat`, `rescheduleJob`, `completeJob`, `failJob`, the reaper
`requeueStaleJobs` and `requeueDeadLetters`. Each operation is one transaction, and
takes the clock values its statements read; nothing orders the clocks of different
workers.
-/

namespace Opslane.Jobs

/-- The column `job_type`: the types this worker can dispatch, and any other text. -/
inductive JobType where
  | sessionAnalysis | sessionNarrate | sessionVerifyFrames | ciWatch | routeMap | productContext
  | issueInquiry | digestWrite | scoreSync | stackResolve | fix | investigate | errorFix
  | frictionMatch | frictionConfirm | frictionReconcile | frictionPREvent
  | other (name : String)
  deriving DecidableEq

/-- The enumeration `job_status`. -/
inductive JobStatus where
  | pending | claimed | completed | failed | deadLetter
  deriving DecidableEq

inductive DeadLetterClass where
  | limit | agent | config | transient
  deriving DecidableEq

/-- Who asked for a fix. -/
inductive RequestedBy where
  | human | auto
  deriving DecidableEq

/-- What a job is about: the nullable columns an insert fills in. -/
structure JobColumns where
  errorGroupID : Option UUID := none
  episodeID : Option UUID := none
  runID : Option UUID := none
  sessionID : Option String := none
  ticketID : Option UUID := none
  batchID : Option UUID := none
  publicationGeneration : Option Nat := none
  fixAttemptID : Option UUID := none
  inputVersion : Option Nat := none
  sourceID : Option UUID := none
  sourceJobID : Option UUID := none
  triggeredBy : Option RequestedBy := none
  guidance : Option String := none
  platform : Option String := none
  payload : Option Json := none
  deriving DecidableEq

/-- A row of `error_group_jobs`. -/
structure Job extends JobColumns where
  id : UUID
  projectID : UUID
  jobType : JobType
  status : JobStatus
  workerID : Option String
  leaseGeneration : Nat
  claimedAt : Option Timestamp
  leaseExpiresAt : Option Timestamp
  availableAt : Timestamp
  attempts : Nat
  maxAttempts : Nat
  requeues : Nat
  deadLetterClass : Option DeadLetterClass
  deadLetteredAt : Option Timestamp
  lastError : Option String
  investigationExecution : Option Nat
  investigationEvidenceVersion : Option Nat
  createdAt : Timestamp
  deriving DecidableEq

abbrev JobTable := Table Job.id

/-- A new row, with the defaults of its columns. -/
def Job.new (id projectID : UUID) (jobType : JobType) (columns : JobColumns)
    (availableAt now : Timestamp) : Job where
  toJobColumns := columns
  id
  projectID
  jobType
  status := .pending
  workerID := none
  leaseGeneration := 0
  claimedAt := none
  leaseExpiresAt := none
  availableAt
  attempts := 0
  maxAttempts := 3
  requeues := 0
  deadLetterClass := none
  deadLetteredAt := none
  lastError := none
  investigationExecution := none
  investigationEvidenceVersion := none
  createdAt := now

structure ClaimCaps where
  sessionAnalysis : Int := 2
  narrative : Int := 2
  frames : Int := 1
  frictionMatch : Int := 2
  frictionConfirm : Int := 1

/-- Jobs of one type under a live lease. -/
def runningJobs (jobs : JobTable) (t : JobType) (now : Timestamp) : Int :=
  (jobs.select fun j => j.status = .claimed ∧ j.jobType = t ∧ j.leaseExpiresAt.any (now < ·)).length

/-- The admission caps of one job type. -/
def withinCap (jobs : JobTable) (caps : ClaimCaps) (now : Timestamp) : JobType → Bool
  | .sessionAnalysis => runningJobs jobs .sessionAnalysis now < caps.sessionAnalysis
  | .sessionNarrate => runningJobs jobs .sessionNarrate now < caps.narrative
  | .sessionVerifyFrames => runningJobs jobs .sessionVerifyFrames now < caps.frames
  | .frictionMatch => runningJobs jobs .frictionMatch now < caps.frictionMatch
  | .frictionConfirm => runningJobs jobs .frictionConfirm now < caps.frictionConfirm ∧
      0 < caps.frictionMatch ∧ 0 < caps.frictionConfirm
  | .frictionReconcile => 0 < caps.frictionMatch ∧ 0 < caps.frictionConfirm
  | .other _ => false
  | _ => true

def Eligible (jobs : JobTable) (caps : ClaimCaps) (now : Timestamp) (j : Job) : Bool :=
  j.status = .pending ∧ j.availableAt ≤ now ∧ withinCap jobs caps now j.jobType

/-- `COALESCE(MAX(claimed_at), 'epoch')` over some jobs. -/
def lastClaimed (jobs : JobTable) (p : Job → Bool) : Timestamp :=
  ((jobs.select p).filterMap Job.claimedAt).max?.getD 0

/-- The claim order: `error_fix` first, then the analysis lane when its latest claim is
the older one; route classification stays behind every other lane. -/
def lane (jobs : JobTable) (j : Job) : Nat :=
  if j.jobType = .errorFix then 0
  else if j.jobType = .sessionAnalysis ∧
      lastClaimed jobs (fun k => k.jobType = .sessionAnalysis) <
        lastClaimed jobs (fun k => k.jobType ≠ .sessionAnalysis) then 1
  else if j.jobType = .routeMap ∨ j.jobType = .productContext then 4
  else if j.jobType ≠ .sessionAnalysis then 2
  else 3

/-- `ORDER BY lane, created_at LIMIT 1 FOR UPDATE SKIP LOCKED`. -/
def candidate (jobs : JobTable) (caps : ClaimCaps) (locked : List UUID) (now : Timestamp) :
    Option Job :=
  let eligible := jobs.select fun j => Eligible jobs caps now j ∧ j.id ∉ locked
  eligible.find? fun j => eligible.all fun k =>
    lane jobs j < lane jobs k ∨ (lane jobs j = lane jobs k ∧ j.createdAt ≤ k.createdAt)

/-- A duration in milliseconds, in the clock's microseconds. -/
def millis (duration : Int) : Int := duration * 1000

def claim (workerID : String) (leaseDurationMs : Int) (now : Timestamp) (j : Job) : Job :=
  { j with
    status := .claimed
    workerID := some workerID
    claimedAt := some now
    leaseExpiresAt := some (now + millis leaseDurationMs)
    leaseGeneration := j.leaseGeneration + 1 }

theorem claim_id (workerID : String) (leaseDurationMs : Int) (now : Timestamp) (j : Job) :
    (claim workerID leaseDurationMs now j).id = j.id := rfl

/-- Claims one pending job, and returns its row. -/
def claimJob (jobs : JobTable) (workerID : String) (leaseDurationMs : Int) (caps : ClaimCaps)
    (locked : List UUID) (now : Timestamp) : JobTable × Option Job :=
  match candidate jobs caps locked now with
  | none => (jobs, none)
  | some j =>
    (jobs.updateKey j.id (claim workerID leaseDurationMs now) (claim_id workerID leaseDurationMs now),
      some (claim workerID leaseDurationMs now j))

/-- The fence: this worker holds the job under this generation, and the lease has not
expired. -/
def Job.Owned (id : UUID) (workerID : String) (leaseGeneration : Nat) (now : Timestamp) (j : Job) :
    Prop :=
  j.id = id ∧ j.workerID = some workerID ∧ j.leaseGeneration = leaseGeneration ∧
    j.status = .claimed ∧ j.leaseExpiresAt.any (now < ·)
  deriving Decidable

/-- What a worker knows of the lease it works under. -/
structure JobLease where
  id : UUID
  workerID : String
  leaseGeneration : Nat
  projectID : UUID
  errorGroupID : Option UUID
  sessionID : Option String
  deriving DecidableEq

def Job.lease (j : Job) (workerID : String) : JobLease :=
  ⟨j.id, workerID, j.leaseGeneration, j.projectID, j.errorGroupID, j.sessionID⟩

/-- An update under a fence, and whether it changed a row. -/
def fencedUpdate (jobs : JobTable) (p : Job → Bool) (f : Job → Job) (frame : ∀ j, (f j).id = j.id) :
    JobTable × Bool :=
  (jobs.updateWhere p f frame, jobs.any p)

def extendLease (leaseDurationMs : Int) (now : Timestamp) (j : Job) : Job :=
  { j with leaseExpiresAt := some (now + millis leaseDurationMs) }

/-- Extends the lease on a claimed job. -/
def heartbeat (jobs : JobTable) (jobID : UUID) (workerID : String) (leaseGeneration : Nat)
    (leaseDurationMs : Int) (now : Timestamp) : JobTable × Bool :=
  fencedUpdate jobs (fun j => j.Owned jobID workerID leaseGeneration now)
    (extendLease leaseDurationMs now) fun _ => rfl

def complete (j : Job) : Job := { j with status := .completed }

theorem complete_id (j : Job) : (complete j).id = j.id := rfl

/-- Marks a claimed job as completed. -/
def completeJob (jobs : JobTable) (jobID : UUID) (workerID : String) (leaseGeneration : Nat)
    (now : Timestamp) : JobTable × Bool :=
  fencedUpdate jobs (fun j => j.Owned jobID workerID leaseGeneration now) complete fun _ => rfl

/-- Back to pending, without a worker or a lease. -/
def release (availableAt : Timestamp) (j : Job) : Job :=
  { j with
    status := .pending
    workerID := none
    claimedAt := none
    leaseExpiresAt := none
    availableAt }

def reschedule (availableAt : Timestamp) (payload : Option Json) (j : Job) : Job :=
  { release availableAt j with payload := payload.or j.payload }

/-- `rescheduleJob` also checks that the lease names the job's own scope. -/
def JobLease.Owns (lease : JobLease) (now : Timestamp) (j : Job) : Prop :=
  j.Owned lease.id lease.workerID lease.leaseGeneration now ∧ j.projectID = lease.projectID ∧
    j.errorGroupID = lease.errorGroupID ∧ j.sessionID = lease.sessionID
  deriving Decidable

/-- Returns a claimed job to pending without consuming a retry attempt. -/
def rescheduleJob (jobs : JobTable) (lease : JobLease) (availableAt : Timestamp)
    (payload : Option Json) (now : Timestamp) : Except String JobTable :=
  let result := fencedUpdate jobs (fun j => lease.Owns now j) (reschedule availableAt payload)
    fun _ => rfl
  if result.2 then .ok result.1 else .error ("Job lease lost for " ++ toString lease.id)

/-- Half a minute, doubled by each attempt, scaled by a random factor between one half
and three halves (`jitter` millionths over one half), and at most fifteen minutes. -/
def retryBackoff (attempts jitter : Nat) : Int :=
  min (30 * 2 ^ attempts * (500000 + jitter)) (900 * 1000000)

/-- The job goes back on the queue after a backoff. -/
def retry (error : String) (jitter : Nat) (now : Timestamp) (j : Job) : Job :=
  { release (now + retryBackoff j.attempts jitter) j with
    attempts := j.attempts + 1
    lastError := some error }

/-- The job is out of attempts; who held it stays on the row. -/
def deadLetter (error : String) (deadLetterClass : DeadLetterClass) (now : Timestamp) (j : Job) :
    Job :=
  { j with
    attempts := j.attempts + 1
    lastError := some error
    status := .deadLetter
    deadLetterClass := some deadLetterClass
    deadLetteredAt := some now }

structure FailOptions where
  exhaust : Bool := false
  deadLetterClass : Option DeadLetterClass := none

def fail (error : String) (options : FailOptions) (jitter : Nat) (now : Timestamp) (j : Job) : Job :=
  if options.exhaust ∨ j.maxAttempts ≤ j.attempts + 1 then
    deadLetter error (options.deadLetterClass.getD .transient) now j
  else retry error jitter now j

theorem fail_id (error : String) (options : FailOptions) (jitter : Nat) (now : Timestamp) (j : Job) :
    (fail error options jitter now j).id = j.id := by
  unfold fail
  split <;> rfl

/-- Fails a job. Its fence reads the clock at the statement (`clock`), everything it
writes the transaction's start (`now`). -/
def failJob (jobs : JobTable) (jobID : UUID) (workerID : String) (leaseGeneration : Nat)
    (error : String) (options : FailOptions) (jitter : Nat) (now clock : Timestamp) : JobTable × Bool :=
  fencedUpdate jobs (fun j => j.Owned jobID workerID leaseGeneration clock)
    (fail error options jitter now) (fail_id error options jitter now)

/-- A claimed job whose lease has run out. -/
def Stale (now : Timestamp) (j : Job) : Prop :=
  j.status = .claimed ∧ j.leaseExpiresAt.any (· < now)
  deriving Decidable

def reap (jitter : Nat) (now : Timestamp) (j : Job) : Job :=
  if j.maxAttempts ≤ j.attempts + 1 then
    deadLetter ("dead-lettered by reaper: lease expired " ++ toString (j.attempts + 1) ++ " times")
      .transient now j
  else retry ("reaper: lease expired (attempt " ++ toString (j.attempts + 1) ++ ")") jitter now j

theorem reap_id (jitter : Nat) (now : Timestamp) (j : Job) : (reap jitter now j).id = j.id := by
  unfold reap
  split <;> rfl

/-- Reclaims jobs with expired leases. The candidates were selected before the
publication locks were taken; eligibility is rechecked after waiting for them. The rows
it reaped are returned as they are afterwards. -/
def requeueStaleJobs (jobs : JobTable) (candidateIDs : List UUID) (jitter : UUID → Nat)
    (now : Timestamp) : JobTable × List Job :=
  (jobs.updateWhere (fun j => j.id ∈ candidateIDs ∧ Stale now j)
      (fun j => reap (jitter j.id) now j) (fun j => reap_id (jitter j.id) now j),
    (jobs.select fun j => j.id ∈ candidateIDs ∧ Stale now j).map fun j => reap (jitter j.id) now j)

inductive RequeueTrigger where
  | boot | interval
  deriving DecidableEq

def RequeueTrigger.classes : RequeueTrigger → List DeadLetterClass
  | .boot => [.limit, .agent, .config]
  | .interval => [.transient, .agent]

def maxDeadLetterRequeues : Nat := 3

/-- How old a dead letter must be: ten minutes at a boot, else 1, 4 and 16 hours. -/
def RequeueTrigger.minAge (requeues : Nat) : RequeueTrigger → Int
  | .boot => 10 * 60000000
  | .interval => 4 ^ requeues * 3600000000

/-- A live job does the same work. -/
def superseded (jobs : JobTable) (j : Job) : Bool :=
  jobs.any fun live => (live.status = .pending ∨ live.status = .claimed) ∧
    live.projectID = j.projectID ∧ live.jobType = j.jobType ∧
    live.errorGroupID = j.errorGroupID ∧ live.episodeID = j.episodeID ∧ live.runID = j.runID

def Due (jobs : JobTable) (trigger : RequeueTrigger) (now : Timestamp) (j : Job) : Bool :=
  j.status = .deadLetter ∧
    (j.jobType = .investigate ∨ j.jobType = .routeMap ∨ j.jobType = .productContext) ∧
    j.deadLetterClass.any (· ∈ trigger.classes) ∧ j.requeues < maxDeadLetterRequeues ∧
    j.deadLetteredAt.any (· ≤ now - trigger.minAge j.requeues) ∧ ¬superseded jobs j

def requeue (now : Timestamp) (j : Job) : Job :=
  { release now j with
    requeues := j.requeues + 1
    deadLetterClass := none
    deadLetteredAt := none }

/-- The only path out of `dead_letter`; attempts are not reset. -/
def requeueDeadLetters (jobs : JobTable) (trigger : RequeueTrigger) (locked : List UUID)
    (now : Timestamp) : JobTable :=
  jobs.updateWhere (fun j => Due jobs trigger now j ∧ j.id ∉ locked) (requeue now) fun _ => rfl

end Opslane.Jobs
