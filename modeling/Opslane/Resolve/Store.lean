import Opslane.Resolve.StackResolve

/-!
# Resolutions, source maps and the queue

The tables that captures, the executions of `stack_resolve`, uploads of source maps and the
watchdog share. Each statement is a step. `WakePendingStackResolutions` is one statement; it
reads the rows that were committed when it began, and its jobs are there at its COMMIT.
-/

namespace Opslane.Resolve

open Jobs (Job JobTable)

/-- How far an execution of `runStackResolve` is. -/
inductive RunPhase where
  /-- Nothing is written yet. -/
  | claimed
  /-- The wait state is published. -/
  | waiting
  /-- The catalog was read; nothing if that failed. -/
  | read (rows : Option (List SourceMapFile))
  | returned
  | threw
  deriving DecidableEq

/-- One execution of a job, with the job as it was claimed. -/
structure ResolveRun where
  job : Job
  workerID : String
  eventID : UUID
  phase : RunPhase
  deriving DecidableEq

/-- A job is executed once under each generation of its lease. -/
def ResolveRun.key (r : ResolveRun) : UUID × Nat := (r.job.id, r.job.leaseGeneration)

def ResolveRun.enter (phase : RunPhase) (r : ResolveRun) : ResolveRun := { r with phase }

/-- The attempt after which the job is a dead letter. -/
def ResolveRun.finalAttempt (r : ResolveRun) : Prop := r.job.maxAttempts ≤ r.job.attempts + 1

instance (r : ResolveRun) : Decidable r.finalAttempt := inferInstanceAs (Decidable (_ ≤ _))

/-- How far a request of `UploadSourceMap` is. -/
inductive UploadPhase where
  | received
  /-- The row is there with the same digest. -/
  | found
  | absent
  | stored
  /-- The row is durable, and the waiting events are not woken yet. -/
  | toWake
  /-- The wake has read the events it enqueues a job for. -/
  | waking (events : List UUID)
  | finished
  deriving DecidableEq

/-- A request whose body gives the debug id of its URL. -/
structure Upload where
  id : UUID
  projectID : UUID
  debugID : String
  contentSHA256 : String
  body : String
  phase : UploadPhase
  deriving DecidableEq

def Upload.objectKey (u : Upload) : String :=
  "sourcemaps/" ++ toString u.projectID ++ "/" ++ u.debugID ++ "/" ++ u.contentSHA256

def Upload.row (u : Upload) : SourceMapFile := ⟨u.projectID, u.debugID, u.contentSHA256, u.objectKey⟩

def Upload.enter (phase : UploadPhase) (u : Upload) : Upload := { u with phase }

structure StoredObject where
  key : String
  body : String
  deriving DecidableEq

structure Store where
  events : Table Event.id
  resolutions : ResolutionTable
  files : Table SourceMapFile.key
  objects : Table StoredObject.key
  jobs : JobTable
  /-- The column `event_id` of a job. -/
  eventOf : UUID → Option UUID
  runs : Table ResolveRun.key
  uploads : Table Upload.id

def Store.start : Store :=
  ⟨.empty, .empty, .empty, .empty, .empty, fun _ => none, .empty, .empty⟩

namespace Store

variable (reader : MapReader) (s : Store)

/-- A resolver job of the event. -/
def StackJob (eventID : UUID) (j : Job) : Prop :=
  j.jobType = .stackResolve ∧ s.eventOf j.id = some eventID

instance (eventID : UUID) (j : Job) : Decidable (s.StackJob eventID j) :=
  inferInstanceAs (Decidable (_ ∧ _))

/-- A new pending resolver job. -/
def stackJob (id projectID : UUID) (now : Timestamp) : Job :=
  Job.new id projectID .stackResolve {} now now

/-- `CaptureEvent`: the event and its first job. -/
def capture (e : Event) (jobID : UUID) (now : Timestamp) : Store :=
  match s.events.insert? e, s.jobs.insert? (stackJob jobID e.projectID now) with
  | some events, some jobs =>
    { s with events, jobs, eventOf := Function.update s.eventOf jobID (some e.id) }
  | _, _ => s

/-- A step of the queue. A claimed resolver job begins an execution, and only an execution
completes or fails its job. -/
def jobStep : Jobs.Action → Store
  | .enqueue id projectID jobType columns availableAt now =>
    if jobType = .stackResolve then s
    else { s with jobs := Jobs.step s.jobs (.enqueue id projectID jobType columns availableAt now) }
  | .claimJob workerID leaseDurationMs caps locked now =>
    match Jobs.claimJob s.jobs workerID leaseDurationMs caps locked now with
    | (jobs, none) => { s with jobs }
    | (jobs, some j) =>
      if j.jobType = .stackResolve then
        match s.eventOf j.id with
        | none => { s with jobs }
        | some eventID => { s with jobs, runs := s.runs.insertIgnore ⟨j, workerID, eventID, .claimed⟩ }
      else { s with jobs }
  | .completeJob jobID workerID leaseGeneration now =>
    if s.jobs.any fun j => j.id = jobID ∧ j.jobType = .stackResolve then s
    else { s with jobs := (Jobs.completeJob s.jobs jobID workerID leaseGeneration now).1 }
  | .failJob jobID workerID leaseGeneration error options jitter now clock =>
    if s.jobs.any fun j => j.id = jobID ∧ j.jobType = .stackResolve then s
    else { s with
      jobs := (Jobs.failJob s.jobs jobID workerID leaseGeneration error options jitter now clock).1 }
  | a => { s with jobs := Jobs.step s.jobs a }

def enter (key : UUID × Nat) (phase : RunPhase) : Store :=
  { s with runs := s.runs.updateKey key (ResolveRun.enter phase) fun _ => rfl }

/-- `recordResolution` by an execution, which then goes on. -/
def record (r : ResolveRun) (status : ResolutionStatus) (envelope : Option Envelope) (phase : RunPhase)
    (now : Timestamp) : Store :=
  { s.enter r.key phase with
    resolutions := recordResolution s.resolutions r.job.projectID r.eventID status envelope now }

/-- `getErrorEvent` in the project of the job. -/
def errorEvent (r : ResolveRun) : Option Event :=
  (s.events.find? r.eventID).filter fun e => e.projectID = r.job.projectID

/-- `getSourceMapRows` -/
def sourceMapRows (e : Event) : List SourceMapFile :=
  s.files.select fun f => f.projectID = e.projectID ∧ f.debugID ∈ e.debugIDs

def fetchMap (key : String) : Option String := (s.objects.find? key).map StoredObject.body

/-- The end of `runStackResolve`. -/
def conclude (r : ResolveRun) (result : StackResolution) (now : Timestamp) : Store :=
  match result with
  | .noDebugIDs => s.record r .noMap none .returned now
  | .mapNotFound | .partlyResolved _ => s.record r .pending none .returned now
  | .resolved frames => s.record r .resolved (some (buildEnvelope frames)) .returned now
  | .invalidMap | .resolutionFailed =>
    s.record r (if r.finalAttempt then .noMap else .failed) none .threw now

/-- The steps of an execution. -/
inductive RunStep where
  | publishWait
  /-- The worker has no object storage, so it refuses an event with images. -/
  | unconfigured
  | readCatalog (fails : Bool)
  | conclude (answers : List FrameAnswers)
  /-- A query fails, or the event is gone. -/
  | throws
  | completeJob
  | failJob (error : String) (jitter : Nat) (clock : Timestamp)
  deriving DecidableEq

/-- `runStackResolve`, and what the poller does after it. -/
def runStep (key : UUID × Nat) (step : RunStep) (now : Timestamp) : Store :=
  match s.runs.find? key with
  | none => s
  | some r =>
    match s.errorEvent r, step, r.phase with
    | some _, .publishWait, .claimed => s.record r .pending none .waiting now
    | some e, .unconfigured, .waiting => if hasDebugImages e then s.enter key .threw else s
    | some e, .readCatalog fails, .waiting =>
      s.enter key (.read (if fails then none else some (s.sourceMapRows e)))
    | some e, .conclude answers, .read rows =>
      s.conclude r (resolveEventStack reader e rows s.fetchMap answers) now
    | _, .throws, .claimed | _, .throws, .waiting | _, .throws, .read _ => s.enter key .threw
    | _, .completeJob, .returned =>
      { s with jobs := (Jobs.completeJob s.jobs r.job.id r.workerID r.job.leaseGeneration now).1 }
    | _, .failJob error jitter clock, .threw =>
      { s with jobs := (Jobs.failJob s.jobs r.job.id r.workerID r.job.leaseGeneration error {} jitter
          now clock).1 }
    | _, _, _ => s

def receive (u : Upload) : Store :=
  if u.phase = .received then { s with uploads := s.uploads.insertIgnore u } else s

def moveUpload (id : UUID) (phase : UploadPhase) : Store :=
  { s with uploads := s.uploads.updateKey id (Upload.enter phase) fun _ => rfl }

/-- `PutObject` overwrites the object of its key. -/
def putObject (key body : String) : Store :=
  { s with objects := s.objects.upsert ⟨key, body⟩ (fun o => { o with body }) fun _ => rfl }

/-- The events that wait for this map and have no pending job. -/
def waitingEvents (u : Upload) : List UUID :=
  (s.resolutions.select fun r => r.projectID = u.projectID ∧ r.status = .pending ∧
    (s.events.find? r.eventID).any (fun e => e.projectID = r.projectID ∧
      u.debugID ∈ e.images.map DebugImage.debugID) ∧
    ¬s.jobs.any fun j => j.projectID = r.projectID ∧ s.StackJob r.eventID j ∧
      j.status = .pending).map EventResolution.eventID

/-- One resolver job for each of these events, under the ids the database gives them. -/
def enqueueWoken (projectID : UUID) (eventIDs : List UUID) (jobID : UUID → UUID) (now : Timestamp) :
    Option Store :=
  (s.jobs.insertAll? (eventIDs.map fun eventID => stackJob (jobID eventID) projectID now)).map
    fun jobs => { s with
      jobs
      eventOf := fun id => (eventIDs.find? fun eventID => jobID eventID = id).or (s.eventOf id) }

/-- The steps of a request. -/
inductive UploadStep where
  | lookUp | statObject | putObject | insertRow | readWaiting
  | commitWake (jobID : UUID → UUID)

/-- `UploadSourceMap`. A request that fails, or whose wake does, takes no further step. -/
def uploadStep (id : UUID) (step : UploadStep) (now : Timestamp) : Store :=
  match s.uploads.find? id with
  | none => s
  | some u =>
    match step, u.phase with
    | .lookUp, .received =>
      match s.files.find? u.row.key with
      | none => s.moveUpload id .absent
      | some existing =>
        s.moveUpload id (if existing.contentSHA256 = u.contentSHA256 then .found else .finished)
    | .statObject, .found =>
      match s.files.find? u.row.key with
      | none => s
      | some existing =>
        if (s.objects.find? existing.objectKey).isSome then s.moveUpload id .toWake
        else (s.putObject existing.objectKey u.body).moveUpload id .toWake
    | .putObject, .absent => (s.putObject u.objectKey u.body).moveUpload id .stored
    | .insertRow, .stored =>
      match s.files.insert? u.row with
      | some files => { s with files }.moveUpload id .toWake
      | none =>
        s.moveUpload id (if (s.files.find? u.row.key).any fun stored =>
          stored.contentSHA256 = u.contentSHA256 then .toWake else .finished)
    | .readWaiting, .toWake => s.moveUpload id (.waking (s.waitingEvents u))
    | .commitWake jobID, .waking eventIDs =>
      match s.enqueueWoken u.projectID eventIDs jobID now with
      | none => s
      | some woken => woken.moveUpload id .finished
    | _, _ => s

def settleRaw (now : Timestamp) (r : EventResolution) : EventResolution :=
  { r with status := .noMap, resolvedAt := now }

/-- The first two statements of `Sweep`, for the rows of one status. -/
def sweep (status : ResolutionStatus) (boundary : Int) (now : Timestamp) : Store :=
  { s with
    resolutions := s.resolutions.updateWhere
      (fun r => r.status = status ∧ r.resolvedAt < now - boundary) (settleRaw now) fun _ => rfl }

def sweepPending (boundary : Int) (now : Timestamp) : Store := s.sweep .pending boundary now

def sweepFailed (boundary : Int) (now : Timestamp) : Store := s.sweep .failed boundary now

/-- The raw fallback of an old event that no execution wrote a row for. -/
def sweepOrphans (boundary : Int) (now : Timestamp) : Store :=
  { s with
    resolutions := (s.events.select fun e => e.createdAt < now - boundary).foldl
      (fun resolutions e => resolutions.insertIgnore
        ⟨e.projectID, e.id, .noMap, none, resolverVersion, now⟩) s.resolutions }

inductive Action where
  | capture (e : Event) (jobID : UUID) (now : Timestamp)
  | job (a : Jobs.Action)
  | run (key : UUID × Nat) (step : RunStep) (now : Timestamp)
  | receive (u : Upload)
  | upload (id : UUID) (step : UploadStep) (now : Timestamp)
  | sweepPending (boundary : Int) (now : Timestamp)
  | sweepFailed (boundary : Int) (now : Timestamp)
  | sweepOrphans (boundary : Int) (now : Timestamp)

def step : Action → Store
  | .capture e jobID now => s.capture e jobID now
  | .job a => s.jobStep a
  | .run key step now => s.runStep reader key step now
  | .receive u => s.receive u
  | .upload id step now => s.uploadStep id step now
  | .sweepPending boundary now => s.sweepPending boundary now
  | .sweepFailed boundary now => s.sweepFailed boundary now
  | .sweepOrphans boundary now => s.sweepOrphans boundary now

def machine : Transition.Machine Store Action := ⟨step reader⟩

end Store

end Opslane.Resolve
