import Opslane.Jobs.Lease
import Opslane.Sessions.Uploads

/-!
# Session analyses

Who makes the chunks of a session readable and who reads them: the scrubber with
`ClaimUnscrubbedChunks` and `MarkChunkScrubbed`, `CloseIdleSessions`, and the executions of
`processSessionAnalysisJob` in `packages/worker/src/index.ts` under the leases of the job
queue. `MarkChunkScrubbed` is one transaction; the statement that may enqueue an analysis
reads the rows as they were committed when it began.
-/

namespace Opslane.Sessions

open Jobs (Job JobLease JobTable)

/-- How far an execution of `processSessionAnalysisJob` is. -/
inductive RunPhase where
  | claimed | analyzing
  | read (chunks : List Nat)
  | finished (chunks : List Nat)
  | failed
  deriving DecidableEq

/-- The chunk list the execution has read. -/
def RunPhase.chunks : RunPhase → Option (List Nat)
  | .read chunks | .finished chunks => some chunks
  | _ => none

/-- One execution of an analysis job. -/
structure AnalysisRun where
  lease : JobLease
  phase : RunPhase
  deriving DecidableEq

/-- A job is executed once under each generation of its lease. -/
def AnalysisRun.key (r : AnalysisRun) : UUID × Nat := (r.lease.id, r.lease.leaseGeneration)

def AnalysisRun.enter (phase : RunPhase) (r : AnalysisRun) : AnalysisRun := { r with phase }

/-- A transaction of `MarkChunkScrubbed`, and whether it inserts a job. -/
structure ScrubMark where
  seq : Nat
  enqueues : Bool
  deriving DecidableEq

structure Analyses extends Uploads where
  jobs : JobTable
  runs : Table AnalysisRun.key
  /-- The chunks some scrubber has claimed. -/
  scrubs : List Nat
  marks : Table ScrubMark.seq
  /-- The chunks that became readable after the session closed. -/
  late : List Nat

def Analyses.start : Analyses where
  toUploads := .start
  jobs := .empty
  runs := .empty
  scrubs := []
  marks := .empty
  late := []

namespace Analyses

variable (sessionID : String) (projectID : UUID)

/-- An analysis of this session. -/
def Ours (j : Job) : Prop := j.jobType = .sessionAnalysis ∧ j.sessionID = some sessionID
  deriving Decidable

/-- A new pending analysis. -/
def analysisJob (id : UUID) (now : Timestamp) : Job :=
  Job.new id projectID .sessionAnalysis { sessionID := some sessionID } now now

/-- The statuses a late chunk re-enqueues from. -/
def AtRest (status : SessionStatus) : Prop :=
  status = .closed ∨ status = .analyzed ∨ status = .analysisFailed
  deriving Decidable

/-- An analysis of the session is pending or claimed. -/
def liveAnalysis (jobs : JobTable) : Bool :=
  jobs.any fun j => Ours sessionID j ∧ (j.status = .pending ∨ j.status = .claimed)

variable (s : Analyses)

/-- `CloseIdleSessions`: one statement closes the session and inserts its analysis. -/
def closeIdleSessions (idle : Bool) (jobID : UUID) (now : Timestamp) : Analyses :=
  if s.session.status = .recording ∧ idle ∧ ¬s.sessionLocked then
    match s.jobs.insert? (analysisJob sessionID projectID jobID now) with
    | none => s
    | some jobs => { s with toUploads := s.setStatus .closed, jobs }
  else s

/-- `ClaimUnscrubbedChunks`, for one chunk. -/
def claimUnscrubbedChunk (seq : Nat) : Analyses :=
  match s.chunks.find? seq with
  | none => s
  | some c =>
    if c.scrubbedAt = none ∧ c.uploadedAt.isSome ∧ s.session.status ≠ .deleting then
      { s with scrubs := seq :: s.scrubs }
    else s

/-- `MarkChunkScrubbed` up to its COMMIT: it holds the row of the chunk. -/
def beginMark (seq : Nat) : Analyses :=
  if seq ∈ s.scrubs then
    match s.marks.insert? ⟨seq, AtRest s.session.status ∧ ¬liveAnalysis sessionID s.jobs⟩ with
    | none => s
    | some marks => { s with marks }
  else s

def scrubRow (now : Timestamp) (c : SessionChunk) : SessionChunk := { c with scrubbedAt := some now }

/-- The mark makes a chunk of a closed session readable. -/
def MakesLate (seq : Nat) : Prop :=
  s.session.status ≠ .recording ∧ (s.chunks.find? seq).any fun c => c.scrubbedAt = none

instance (seq : Nat) : Decidable (s.MakesLate seq) := inferInstanceAs (Decidable (_ ∧ _))

def markedChunk (seq : Nat) (now : Timestamp) : Analyses :=
  { s with
    chunks := s.chunks.updateKey seq (scrubRow now) fun _ => rfl
    scrubs := s.scrubs.erase seq
    marks := s.marks.deleteWhere fun m => m.seq = seq
    late := if s.MakesLate seq then seq :: s.late else s.late }

/-- The COMMIT of `MarkChunkScrubbed`. -/
def commitMark (seq : Nat) (jobID : UUID) (now : Timestamp) : Analyses :=
  match s.marks.find? seq with
  | none => s
  | some m =>
    if m.enqueues then
      match s.jobs.insert? (analysisJob sessionID projectID jobID now) with
      | none => s
      | some jobs => { s.markedChunk seq now with jobs }
    else s.markedChunk seq now

/-- The scrub or its transaction fails. -/
def dropMark (seq : Nat) : Analyses :=
  { s with scrubs := s.scrubs.erase seq, marks := s.marks.deleteWhere fun m => m.seq = seq }

/-- A step of the queue. A claimed analysis begins an execution, and only an execution
completes its job; the reaper sets the status of a session whose analysis it gives up. -/
def jobStep : Jobs.Action → Analyses
  | .claimJob workerID leaseDurationMs caps locked now =>
    match Jobs.claimJob s.jobs workerID leaseDurationMs caps locked now with
    | (jobs, some j) =>
      if Ours sessionID j then { s with jobs, runs := s.runs.insertIgnore ⟨j.lease workerID, .claimed⟩ }
      else { s with jobs }
    | (jobs, none) => { s with jobs }
  | .completeJob jobID workerID leaseGeneration now =>
    if s.jobs.any fun j => j.id = jobID ∧ Ours sessionID j then s
    else { s with jobs := (Jobs.completeJob s.jobs jobID workerID leaseGeneration now).1 }
  | .requeueStaleJobs candidateIDs jitter now =>
    let (jobs, reaped) := Jobs.requeueStaleJobs s.jobs candidateIDs jitter now
    if reaped.any fun j => Ours sessionID j ∧ j.status = .deadLetter then
      if s.sessionLocked then s else { s with toUploads := s.setStatus .analysisFailed, jobs }
    else { s with jobs }
  | a => { s with jobs := Jobs.step s.jobs a }

/-- The lease of an execution still holds. -/
def holdsLease (lease : JobLease) (now : Timestamp) : Bool := s.jobs.any fun j => lease.Owns now j

def enter (key : UUID × Nat) (phase : RunPhase) : Analyses :=
  { s with runs := s.runs.updateKey key (AnalysisRun.enter phase) fun _ => rfl }

/-- `setSessionAnalysisStatus` under the lease of an execution, which then goes on. -/
def writeStatus (r : AnalysisRun) (status : AnalysisStatus) (phase : RunPhase) (now : Timestamp) :
    Analyses :=
  if s.holdsLease r.lease now ∧ ¬s.sessionLocked then
    { s.enter r.key phase with toUploads := s.setStatus status.toStatus }
  else s

/-- `getScrubbedChunksForSession`. -/
def readableChunks : List Nat :=
  (s.chunks.select fun c => c.scrubbedAt.isSome).map SessionChunk.seq

/-- The steps of an execution. -/
inductive RunStep where
  | analyze | readChunks | finish | fail | complete
  deriving DecidableEq

/-- `processSessionAnalysisJob`, and the poller's `completeJob` after it. -/
def runStep (key : UUID × Nat) (step : RunStep) (now : Timestamp) : Analyses :=
  match s.runs.find? key with
  | none => s
  | some r =>
    match step, r.phase with
    | .analyze, .claimed => s.writeStatus r .analyzing .analyzing now
    | .readChunks, .analyzing => s.enter key (.read s.readableChunks)
    | .finish, .read chunks => s.writeStatus r .analyzed (.finished chunks) now
    | .fail, .claimed | .fail, .analyzing | .fail, .read _ =>
      s.writeStatus r .analysisFailed .failed now
    | .complete, .finished _ =>
      { s with jobs := (Jobs.completeJob s.jobs r.lease.id r.lease.workerID r.lease.leaseGeneration
          now).1 }
    | _, _ => s

inductive Action where
  | upload (a : Uploads.UploadAction)
  | closeIdleSessions (idle : Bool) (jobID : UUID) (now : Timestamp)
  | claimUnscrubbedChunk (seq : Nat)
  | beginMark (seq : Nat)
  | commitMark (seq : Nat) (jobID : UUID) (now : Timestamp)
  | dropMark (seq : Nat)
  | job (a : Jobs.Action)
  | run (key : UUID × Nat) (step : RunStep) (now : Timestamp)

def step : Action → Analyses
  | .upload a => { s with toUploads := s.uploadStep a }
  | .closeIdleSessions idle jobID now => s.closeIdleSessions sessionID projectID idle jobID now
  | .claimUnscrubbedChunk seq => s.claimUnscrubbedChunk seq
  | .beginMark seq => s.beginMark sessionID seq
  | .commitMark seq jobID now => s.commitMark sessionID projectID seq jobID now
  | .dropMark seq => s.dropMark seq
  | .job a => s.jobStep sessionID a
  | .run key step now => s.runStep key step now

def machine : Transition.Machine Analyses Action := ⟨step sessionID projectID⟩

end Analyses

end Opslane.Sessions
