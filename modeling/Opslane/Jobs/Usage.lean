import Opslane.Jobs.Indexes
import Opslane.Jobs.Lease

/-!
# The usage ledger

`job_usage` keeps one row for a job, an execution number, a phase and a model; a second write
under that key is dropped. Some handlers number an execution by the job's lease generation,
which each claim raises. The others number it by `attempts`, which a failure raises,
`rescheduleJob` keeps and the push webhook's `EnqueueProductContextPush` sets back to zero, so
two executions can work under one number.

A usage record is written without a lease, by an execution that may have lost its own long
ago.
-/

namespace Opslane.Jobs

/-- The column `job_usage.phase`. -/
inductive UsagePhase where
  | frictionReconcile (id : String) | frictionConfirm (id : String)
  | investigation | embeddings | frictionMatch | frictionFirstLook | fix | judge | productContext
  | inquiry | narrate | verify | digestWrite | visualAnalysis | fixNarrative | diffJudge
  deriving DecidableEq

/-- The handler of this phase numbers the job's executions by `attempts`. -/
def UsagePhase.ByAttempts (phase : UsagePhase) (job : Job) : Prop :=
  match phase with
  | .inquiry | .narrate | .verify | .digestWrite | .productContext | .visualAnalysis => True
  | .investigation | .fix | .judge | .fixNarrative | .diffJudge => job.ticketID = none
  | .frictionReconcile _ | .frictionConfirm _ | .embeddings | .frictionMatch
  | .frictionFirstLook => False

instance (phase : UsagePhase) (job : Job) : Decidable (phase.ByAttempts job) := by
  unfold UsagePhase.ByAttempts
  cases phase <;> infer_instance

/-- The execution number a handler records usage under. -/
def UsagePhase.execution (phase : UsagePhase) (job : Job) : Nat :=
  if phase.ByAttempts job then job.attempts else job.leaseGeneration

structure TokenUsage where
  input : Nat
  output : Nat
  cacheRead : Nat
  cacheWrite : Nat
  deriving DecidableEq

/-- A row of `job_usage`. -/
structure JobUsage where
  jobID : UUID
  execution : Nat
  phase : UsagePhase
  model : String
  usage : TokenUsage
  deriving DecidableEq

def JobUsage.key (u : JobUsage) : UUID × Nat × UsagePhase × String :=
  (u.jobID, u.execution, u.phase, u.model)

/-- `INSERT ... ON CONFLICT (job_id, execution, phase, model) DO NOTHING`. -/
def recordJobUsage (ledger : Table JobUsage.key) (u : JobUsage) : Table JobUsage.key :=
  ledger.insertIgnore u

/-- A row of `product_context_push_receipts`. -/
structure PushReceipt where
  projectID : UUID
  deliveryID : String
  commitSHA : String
  deriving DecidableEq

def PushReceipt.key (r : PushReceipt) : UUID × String := (r.projectID, r.deliveryID)

/-- The queued or running product-context job of the project. -/
def ActiveProductContext (projectID : UUID) (j : Job) : Prop :=
  j.projectID = projectID ∧ j.jobType = .productContext ∧ j.Active
  deriving Decidable

def pushPayload (deliveryID commitSHA : String) (changedPaths : Json) : Json :=
  .object [("changed_paths", changedPaths), ("commit_sha", .string commitSHA),
    ("delivery_id", .string deliveryID)]

/-- A newer push takes the job back from whoever runs it. -/
def supersede (payload : Json) (now : Timestamp) (j : Job) : Job :=
  { release now j with attempts := 0, lastError := none, payload := some payload }

/-- A push to the repository of one project: the job the project has goes back to pending, and a
project without one gets one. A superseded job is to look at every path. -/
def pushProductContext (jobs : JobTable) (projectID jobID : UUID) (deliveryID commitSHA : String)
    (changedPaths : Json) (now : Timestamp) : JobTable :=
  if jobs.any fun j => ActiveProductContext projectID j then
    jobs.updateWhere (fun j => ActiveProductContext projectID j)
      (supersede (pushPayload deliveryID commitSHA .null) now) fun _ => rfl
  else (jobs.insert? (Job.new jobID projectID .productContext
    { triggeredBy := some .auto, payload := some (pushPayload deliveryID commitSHA changedPaths) } now
      now)).getD jobs

/-- An execution: the row its claim returned. `reissued` once the job went back on the queue
with the number this execution has. -/
structure Execution where
  job : Job
  reissued : Bool
  deriving DecidableEq

def Execution.reissue (e : Execution) : Execution := { e with reissued := true }

/-- The two are one execution of one job. -/
def Execution.Of (id : UUID) (generation : Nat) (e : Execution) : Prop :=
  e.job.id = id ∧ e.job.leaseGeneration = generation
  deriving Decidable

def Execution.usage (e : Execution) (phase : UsagePhase) (model : String) (usage : TokenUsage) :
    JobUsage :=
  ⟨e.job.id, phase.execution e.job, phase, model, usage⟩

/-- A call of `recordJobUsage`, with the execution that made it. -/
structure UsageRecord where
  generation : Nat
  byAttempts : Bool
  entry : JobUsage
  deriving DecidableEq

/-- The queue, the push receipts and the ledger, with the executions so far and the calls that
recorded usage. -/
structure Metering where
  jobs : JobTable
  receipts : Table PushReceipt.key
  ledger : Table JobUsage.key
  executions : List Execution
  records : List UsageRecord

def Metering.empty : Metering := ⟨.empty, .empty, .empty, [], []⟩

/-- The executions after a transaction on the queue: a claim starts one, and a job that is
handed back keeps its number for the next. -/
def nextExecutions (jobs : JobTable) (executions : List Execution) : Action → List Execution
  | .claimJob workerID leaseDurationMs caps locked now =>
    match (claimJob jobs workerID leaseDurationMs caps locked now).2 with
    | none => executions
    | some j => ⟨j, false⟩ :: executions
  | .rescheduleJob lease availableAt payload now =>
    if (rescheduleJob jobs lease availableAt payload now).isOk then
      executions.map fun e => if e.Of lease.id lease.leaseGeneration then e.reissue else e
    else executions
  | _ => executions

/-- The execution's job is one a push to the project takes back. -/
def Superseded (jobs : JobTable) (projectID : UUID) (e : Execution) : Prop :=
  (jobs.find? e.job.id).any fun j => ActiveProductContext projectID j
  deriving Decidable

/-- `EnqueueProductContextPush` for one of the projects connected to the repository. -/
def enqueueProductContextPush (s : Metering) (projectID jobID : UUID) (deliveryID commitSHA : String)
    (changedPaths : Json) (now : Timestamp) : Metering :=
  match s.receipts.insert? ⟨projectID, deliveryID, commitSHA⟩ with
  | none => s
  | some receipts =>
    { s with
      receipts
      jobs := pushProductContext s.jobs projectID jobID deliveryID commitSHA changedPaths now
      executions := s.executions.map fun e => if Superseded s.jobs projectID e then e.reissue else e }

namespace Metering

inductive Action where
  | queue (a : Jobs.Action)
  | enqueueProductContextPush (projectID jobID : UUID) (deliveryID commitSHA : String)
      (changedPaths : Json) (now : Timestamp)
  | recordJobUsage (jobID : UUID) (generation : Nat) (phase : UsagePhase) (model : String)
      (usage : TokenUsage)

def step (s : Metering) : Action → Metering
  | .queue a =>
    { s with jobs := Jobs.step s.jobs a, executions := nextExecutions s.jobs s.executions a }
  | .enqueueProductContextPush projectID jobID deliveryID commitSHA changedPaths now =>
    Jobs.enqueueProductContextPush s projectID jobID deliveryID commitSHA changedPaths now
  | .recordJobUsage jobID generation phase model usage =>
    match s.executions.find? fun e => e.Of jobID generation with
    | none => s
    | some e =>
      { s with
        ledger := Jobs.recordJobUsage s.ledger (e.usage phase model usage)
        records :=
          ⟨generation, phase.ByAttempts e.job, e.usage phase model usage⟩ :: s.records }

def machine : Transition.Machine Metering Action := ⟨step⟩

/-- An execution whose number goes to the next one has recorded nothing under its attempts, and
records nothing under them afterwards. -/
def NumbersOnce (s : Metering) : Action → Prop
  | .queue (.rescheduleJob lease availableAt payload now) =>
    (Jobs.rescheduleJob s.jobs lease availableAt payload now).isOk →
      ∀ r ∈ s.records, r.entry.jobID = lease.id → r.generation = lease.leaseGeneration →
        r.byAttempts = false
  | .enqueueProductContextPush projectID _ deliveryID _ _ _ =>
    s.receipts.find? (projectID, deliveryID) = none →
      ∀ j ∈ s.jobs.rows, ActiveProductContext projectID j →
        ∀ r ∈ s.records, r.entry.jobID = j.id → r.byAttempts = false
  | .recordJobUsage jobID generation phase _ _ =>
    ∀ e ∈ s.executions, e.Of jobID generation → phase.ByAttempts e.job → e.reissued = false
  | _ => True

instance (s : Metering) (a : Action) : Decidable (NumbersOnce s a) :=
  match a with
  | .queue (.rescheduleJob ..) => inferInstanceAs (Decidable (_ → _))
  | .enqueueProductContextPush .. => inferInstanceAs (Decidable (_ → _))
  | .recordJobUsage .. => inferInstanceAs (Decidable (∀ e ∈ s.executions, _))
  | .queue (.enqueue ..) | .queue (.claimJob ..) | .queue (.heartbeat ..) | .queue (.completeJob ..)
  | .queue (.failJob ..) | .queue (.requeueStaleJobs ..) | .queue (.requeueDeadLetters ..) =>
    isTrue trivial

end Metering

/-- The execution in charge still has the job, or finished it. -/
def Job.Kept (j : Job) : Prop := j.status = .claimed ∨ j.status = .completed

/-- The job's row no longer gives out the number of this execution. -/
def Job.Spends (j e : Job) : Prop :=
  e.attempts < j.attempts ∨
    (e.leaseGeneration = j.leaseGeneration ∧ e.attempts = j.attempts ∧ j.Kept)

/-- The same job, its count no lower, and not back on the queue at the same count. -/
structure Job.CountsOn (j j' : Job) : Prop where
  ticketID : j'.ticketID = j.ticketID
  generation : j'.leaseGeneration = j.leaseGeneration
  count : j.attempts < j'.attempts ∨ (j'.attempts = j.attempts ∧ (j.Kept → j'.Kept))

theorem Job.CountsOn.refl (j : Job) : j.CountsOn j := ⟨rfl, rfl, Or.inr ⟨rfl, fun kept => kept⟩⟩

theorem Job.CountsOn.spends {j j' e : Job} (counts : j.CountsOn j') (spends : j.Spends e) :
    j'.Spends e := by
  rcases spends with past | ⟨generation, same, kept⟩ <;>
    rcases counts.count with later | ⟨still, keeps⟩
  · exact Or.inl (Nat.lt_trans past later)
  · exact Or.inl (still ▸ past)
  · exact Or.inl (same ▸ later)
  · exact Or.inr ⟨generation.trans counts.generation.symm, same.trans still.symm, keeps kept⟩

/-- Every job is still there, its count kept on. -/
def CountOn (before after : JobTable) : Prop :=
  ∀ id j, before.find? id = some j → ∃ j', after.find? id = some j' ∧ j.CountsOn j'

theorem countOn_updateWhere (jobs : JobTable) (p : Job → Bool) (f : Job → Job)
    (frame : ∀ j, (f j).id = j.id) (counts : ∀ j, p j → j.CountsOn (f j)) :
    CountOn jobs (jobs.updateWhere p f frame) := by
  intro id j found
  refine ⟨_, jobs.find?_updateWhere_of p f frame found, ?_⟩
  split
  · rename_i selected
    exact counts j selected
  · exact .refl j

theorem countOn_insert {jobs jobs' : JobTable} {j : Job} (inserted : jobs.insert? j = some jobs') :
    CountOn jobs jobs' := by
  intro id k found
  refine ⟨k, ?_, .refl k⟩
  rw [Table.find?_insert? inserted, if_neg, found]
  rintro rfl
  rw [(Table.insert?_spec inserted).1] at found
  cases found

theorem fail_countsOn (error : String) (options : FailOptions) (jitter : Nat) (now : Timestamp)
    (j : Job) : j.CountsOn (fail error options jitter now j) := by
  unfold fail
  split <;> exact ⟨rfl, rfl, Or.inl (Nat.lt_succ_self _)⟩

theorem reap_countsOn (jitter : Nat) (now : Timestamp) (j : Job) :
    j.CountsOn (reap jitter now j) := by
  unfold reap
  split <;> exact ⟨rfl, rfl, Or.inl (Nat.lt_succ_self _)⟩

/-- A transaction that neither claims a job nor hands one back. -/
def Counts : Action → Prop
  | .claimJob .. | .rescheduleJob .. => False
  | _ => True

theorem countOn_step (jobs : JobTable) {a : Action} (counts : Counts a) :
    CountOn jobs (step jobs a) := by
  cases a with
  | claimJob => cases counts
  | rescheduleJob => cases counts
  | enqueue id projectID jobType columns availableAt now =>
    rw [step]
    cases inserted : jobs.insert? (Job.new id projectID jobType columns availableAt now) with
    | none => exact fun _ j found => ⟨j, found, .refl j⟩
    | some after => exact countOn_insert inserted
  | heartbeat jobID workerID leaseGeneration leaseDurationMs now =>
    exact countOn_updateWhere jobs _ (extendLease leaseDurationMs now) (fun _ => rfl)
      fun j _ => ⟨rfl, rfl, Or.inr ⟨rfl, fun kept => kept⟩⟩
  | completeJob jobID workerID leaseGeneration now =>
    exact countOn_updateWhere jobs _ complete (fun _ => rfl)
      fun j _ => ⟨rfl, rfl, Or.inr ⟨rfl, fun _ => Or.inr rfl⟩⟩
  | failJob jobID workerID leaseGeneration error options jitter now clock =>
    exact countOn_updateWhere jobs _ _ (fail_id error options jitter now)
      fun j _ => fail_countsOn error options jitter now j
  | requeueStaleJobs candidateIDs jitter now =>
    exact countOn_updateWhere jobs _ _ (fun j => reap_id (jitter j.id) now j)
      fun j _ => reap_countsOn (jitter j.id) now j
  | requeueDeadLetters trigger locked now =>
    refine countOn_updateWhere jobs _ (requeue now) (fun _ => rfl) fun j due => ?_
    simp only [Due, decide_eq_true_eq] at due
    refine ⟨rfl, rfl, Or.inr ⟨rfl, fun kept => ?_⟩⟩
    rcases kept with claimed | completed
    · rw [claimed] at due
      cases due.1.1
    · rw [completed] at due
      cases due.1.1

namespace Metering

/-- Each execution's job is there; a number that was not given out again belongs to one
execution of the job, and no later one will get it. What was recorded under `attempts` is such
an execution's, and the ledger has a row of each record's key, and each of its rows from a
record. -/
structure Metered (s : Metering) : Prop where
  jobs : ∀ e ∈ s.executions, ∃ j, s.jobs.find? e.job.id = some j ∧ j.ticketID = e.job.ticketID ∧
    e.job.leaseGeneration ≤ j.leaseGeneration ∧ (e.reissued = false → j.Spends e.job)
  single : ∀ e ∈ s.executions, ∀ e' ∈ s.executions, e.job.id = e'.job.id →
    e.job.leaseGeneration = e'.job.leaseGeneration → e = e'
  numbers : ∀ e ∈ s.executions, ∀ e' ∈ s.executions, e.job.id = e'.job.id → e.reissued = false →
    e'.reissued = false → e.job.attempts = e'.job.attempts → e = e'
  records : ∀ r ∈ s.records, ∃ e ∈ s.executions, e.Of r.entry.jobID r.generation ∧
    r.byAttempts = decide (r.entry.phase.ByAttempts e.job) ∧
    r.entry.execution = r.entry.phase.execution e.job ∧ (r.byAttempts → e.reissued = false)
  kept : ∀ r ∈ s.records, (s.ledger.find? r.entry.key).isSome
  origin : ∀ u ∈ s.ledger.rows, ∃ r ∈ s.records, r.entry = u

theorem metered_empty : Metered .empty := by
  constructor <;> simp [empty, Table.empty]

variable {s s' : Metering}

theorem Metered.reissue (metered : Metered s) (again : Execution → Prop) [DecidablePred again] {jobs : JobTable}
    (rows : ∀ e ∈ s.executions, ∀ j, s.jobs.find? e.job.id = some j → ∃ j',
      jobs.find? e.job.id = some j' ∧ j'.ticketID = j.ticketID ∧
      j.leaseGeneration ≤ j'.leaseGeneration ∧
      (¬again e → e.reissued = false → j.Spends e.job → j'.Spends e.job))
    (unrecorded : ∀ e ∈ s.executions, again e → ∀ r ∈ s.records,
      e.Of r.entry.jobID r.generation → r.byAttempts = false)
    (receipts : Table PushReceipt.key) :
    Metered { s with
      jobs
      receipts
      executions := s.executions.map fun e => if again e then e.reissue else e } := by
  have mem : ∀ e', e' ∈ (s.executions.map fun e => if again e then e.reissue else e) →
      ∃ e ∈ s.executions, e'.job = e.job ∧ (e'.reissued = false → e.reissued = false ∧
        ¬again e) ∧ (if again e then e.reissue else e) = e' := by
    intro e' member
    obtain ⟨e, old, rfl⟩ := List.mem_map.mp member
    refine ⟨e, old, ?_, ?_, rfl⟩
    · split <;> rfl
    · intro free
      by_cases marked : again e
      · simp [marked, Execution.reissue] at free
      · exact ⟨by simpa [marked] using free, marked⟩
  refine ⟨?_, ?_, ?_, ?_, metered.kept, metered.origin⟩
  · intro e' member
    obtain ⟨e, old, job, free, -⟩ := mem e' member
    obtain ⟨j, found, ticket, generation, spends⟩ := metered.jobs e old
    obtain ⟨j', found', ticket', generation', keeps⟩ := rows e old j found
    rw [job]
    refine ⟨j', found', ticket'.trans ticket, Nat.le_trans generation generation', fun unmarked => ?_⟩
    exact keeps (free unmarked).2 (free unmarked).1 (spends (free unmarked).1)
  · intro e₁ mem₁ e₂ mem₂ id generation
    obtain ⟨e, old, job, -, rfl⟩ := mem e₁ mem₁
    obtain ⟨e', old', job', -, rfl⟩ := mem e₂ mem₂
    rw [job, job'] at id generation
    rw [metered.single e old e' old' id generation]
  · intro e₁ mem₁ e₂ mem₂ id free₁ free₂ attempts
    obtain ⟨e, old, job, free, rfl⟩ := mem e₁ mem₁
    obtain ⟨e', old', job', free', rfl⟩ := mem e₂ mem₂
    rw [job, job'] at id attempts
    rw [metered.numbers e old e' old' id (free free₁).1 (free' free₂).1 attempts]
  · intro r member
    obtain ⟨e, old, own, numbered, execution, free⟩ := metered.records r member
    refine ⟨_, List.mem_map.mpr ⟨e, old, rfl⟩, ?_⟩
    by_cases marked : again e
    · rw [if_pos marked]
      have none := unrecorded e old marked r member own
      exact ⟨own, numbered, execution, fun recorded => by simp [none] at recorded⟩
    · rw [if_neg marked]
      exact ⟨own, numbered, execution, free⟩

theorem Metered.countOn (metered : Metered s) {jobs : JobTable} (counts : CountOn s.jobs jobs) :
    Metered { s with jobs } := by
  refine ⟨?_, metered.single, metered.numbers, metered.records, metered.kept, metered.origin⟩
  intro e member
  obtain ⟨j, found, ticket, generation, spends⟩ := metered.jobs e member
  obtain ⟨j', found', moved⟩ := counts e.job.id j found
  exact ⟨j', found', moved.ticketID.trans ticket, moved.generation ▸ generation,
    fun free => moved.spends (spends free)⟩

theorem Metered.claimJob (metered : Metered s) (workerID : String) (leaseDurationMs : Int)
    (caps : ClaimCaps) (locked : List UUID) (now : Timestamp) :
    Metered (step s (.queue (.claimJob workerID leaseDurationMs caps locked now))) := by
  rw [step]
  dsimp only [nextExecutions, Jobs.step]
  unfold Jobs.claimJob
  cases chosen : candidate s.jobs caps locked now with
  | none => exact metered
  | some c =>
    obtain ⟨present, pending⟩ := candidate_spec chosen
    dsimp only
    have row : ∀ id, (s.jobs.updateKey c.id (claim workerID leaseDurationMs now)
        (claim_id workerID leaseDurationMs now)).find? id =
        if id = c.id then some (claim workerID leaseDurationMs now c) else s.jobs.find? id := by
      intro id
      rw [Table.find?_updateKey, present, Option.map_some]
    -- an execution in force leaves a waiting job at a higher count
    have past : ∀ e ∈ s.executions, e.job.id = c.id → e.job.ticketID = c.ticketID ∧
        e.job.leaseGeneration ≤ c.leaseGeneration ∧ (e.reissued = false →
          e.job.attempts < c.attempts) := by
      intro e member own
      obtain ⟨j, found, ticket, generation, spends⟩ := metered.jobs e member
      rw [own, present, Option.some.injEq] at found
      subst found
      refine ⟨ticket.symm, generation, fun free => ?_⟩
      rcases spends free with lower | ⟨-, -, claimed | completed⟩
      · exact lower
      · rw [pending] at claimed
        cases claimed
      · rw [pending] at completed
        cases completed
    refine ⟨?_, ?_, ?_, ?_, metered.kept, metered.origin⟩
    · intro e member
      rcases List.mem_cons.mp member with rfl | old
      · refine ⟨claim workerID leaseDurationMs now c, ?_, rfl, Nat.le_refl _, fun _ => ?_⟩
        · rw [row, if_pos (by rfl)]
        · exact Or.inr ⟨rfl, rfl, Or.inl rfl⟩
      · rw [row]
        by_cases own : e.job.id = c.id
        · obtain ⟨ticket, generation, lower⟩ := past e old own
          rw [if_pos own]
          exact ⟨_, rfl, ticket.symm, Nat.le_succ_of_le generation, fun free => Or.inl (lower free)⟩
        · rw [if_neg own]
          exact metered.jobs e old
    · intro e member e' member' id generation
      rcases List.mem_cons.mp member with rfl | old <;> rcases List.mem_cons.mp member' with rfl | old'
      · rfl
      · have := (past e' old' id.symm).2.1
        simp only [claim] at generation
        omega
      · have := (past e old id).2.1
        simp only [claim] at generation
        omega
      · exact metered.single e old e' old' id generation
    · intro e member e' member' id free free' attempts
      rcases List.mem_cons.mp member with rfl | old <;> rcases List.mem_cons.mp member' with rfl | old'
      · rfl
      · have := (past e' old' id.symm).2.2 free'
        simp only [claim] at attempts
        omega
      · have := (past e old id).2.2 free
        simp only [claim] at attempts
        omega
      · exact metered.numbers e old e' old' id free free' attempts
    · intro r member
      obtain ⟨e, old, rest⟩ := metered.records r member
      exact ⟨e, List.mem_cons_of_mem _ old, rest⟩

theorem Metered.rescheduleJob (metered : Metered s) (lease : JobLease) (availableAt : Timestamp)
    (payload : Option Json) (now : Timestamp)
    (once : NumbersOnce s (.queue (.rescheduleJob lease availableAt payload now))) :
    Metered (step s (.queue (.rescheduleJob lease availableAt payload now))) := by
  simp only [NumbersOnce] at once
  rw [step]
  dsimp only [nextExecutions, Jobs.step]
  cases result : Jobs.rescheduleJob s.jobs lease availableAt payload now with
  | error => exact metered
  | ok jobs =>
    have updated : jobs = s.jobs.updateWhere (fun j => lease.Owns now j)
        (reschedule availableAt payload) fun _ => rfl := by
      unfold Jobs.rescheduleJob at result
      dsimp only at result
      split at result <;> cases result
      rfl
    subst updated
    rw [result] at once
    have unrecorded := once rfl
    dsimp only
    rw [if_pos (by rfl)]
    refine metered.reissue (fun e => e.Of lease.id lease.leaseGeneration) ?_ ?_ s.receipts
    · intro e member j found
      refine ⟨_, Table.find?_updateWhere_of s.jobs _ (reschedule availableAt payload) _ found, ?_⟩
      split
      · rename_i owns
        obtain ⟨⟨own, -, generation, -⟩, -⟩ := of_decide_eq_true owns
        refine ⟨rfl, Nat.le_refl _, fun other _ spends => ?_⟩
        rcases spends with lower | ⟨same, -, -⟩
        · exact Or.inl lower
        · have of : e.Of lease.id lease.leaseGeneration :=
            ⟨(Table.key_of_find? found).symm.trans own, same.trans generation⟩
          exact absurd of other
      · exact ⟨rfl, Nat.le_refl _, fun _ _ spends => spends⟩
    · intro e _ marked r member own
      obtain ⟨id, generation⟩ := marked
      exact unrecorded r member (own.1.symm.trans id) (own.2.symm.trans generation)

theorem Metered.enqueueProductContextPush (metered : Metered s) (projectID jobID : UUID)
    (deliveryID commitSHA : String) (changedPaths : Json) (now : Timestamp)
    (once : NumbersOnce s (.enqueueProductContextPush projectID jobID deliveryID commitSHA changedPaths
      now)) :
    Metered (step s (.enqueueProductContextPush projectID jobID deliveryID commitSHA changedPaths
      now)) := by
  rw [step]
  unfold Jobs.enqueueProductContextPush
  cases inserted : s.receipts.insert? ⟨projectID, deliveryID, commitSHA⟩ with
  | none => exact metered
  | some receipts =>
    have unrecorded := once (Table.insert?_spec inserted).1
    dsimp only
    refine metered.reissue (fun e => Superseded s.jobs projectID e) ?_ ?_ receipts
    · intro e member j found
      unfold pushProductContext
      split
      · refine ⟨_, Table.find?_updateWhere_of s.jobs _
          (supersede (pushPayload deliveryID commitSHA .null) now) _ found, ?_⟩
        split
        · rename_i active
          refine ⟨rfl, Nat.le_refl _, fun other => ?_⟩
          have superseded : Superseded s.jobs projectID e := by
            rw [Superseded, found, Option.any_some]
            exact active
          exact absurd superseded other
        · exact ⟨rfl, Nat.le_refl _, fun _ _ spends => spends⟩
      · cases added : s.jobs.insert? (Job.new jobID projectID .productContext
            { triggeredBy := some .auto,
              payload := some (pushPayload deliveryID commitSHA changedPaths) } now now) with
        | none => exact ⟨j, found, rfl, Nat.le_refl _, fun _ _ spends => spends⟩
        | some jobs =>
          obtain ⟨j', found', counts⟩ := countOn_insert added e.job.id j found
          exact ⟨j', found', counts.ticketID, Nat.le_of_eq counts.generation.symm,
            fun _ _ => counts.spends⟩
    · intro e _ superseded r member own
      obtain ⟨j, found, active⟩ := (Option.any_eq_true ..).mp superseded
      refine unrecorded j (Table.mem_of_find? found) (of_decide_eq_true active) r member ?_
      exact own.1.symm.trans (Table.key_of_find? found).symm

theorem Metered.recordJobUsage (metered : Metered s) (jobID : UUID) (generation : Nat)
    (phase : UsagePhase) (model : String) (usage : TokenUsage)
    (once : NumbersOnce s (.recordJobUsage jobID generation phase model usage)) :
    Metered (step s (.recordJobUsage jobID generation phase model usage)) := by
  rw [step]
  cases found : s.executions.find? fun e => e.Of jobID generation with
  | none => exact metered
  | some e =>
    have member := List.mem_of_find?_eq_some found
    have own := List.find?_some found
    simp only [decide_eq_true_eq] at own
    have lookup : ∀ k, (Jobs.recordJobUsage s.ledger (e.usage phase model usage)).find? k =
        (s.ledger.find? k).or
          (if k = (e.usage phase model usage).key then some (e.usage phase model usage) else none) :=
      fun k => Table.find?_insertIgnore s.ledger (e.usage phase model usage) k
    refine ⟨metered.jobs, metered.single, metered.numbers, ?_, ?_, ?_⟩
    · intro r recorded
      rcases List.mem_cons.mp recorded with rfl | old
      · refine ⟨e, member, ⟨rfl, own.2⟩, rfl, rfl, fun numbered => ?_⟩
        exact once e member own (of_decide_eq_true numbered)
      · exact metered.records r old
    · intro r recorded
      rw [lookup]
      rcases List.mem_cons.mp recorded with rfl | old
      · simp
      · simp [metered.kept r old]
    · intro u row
      rcases Table.mem_insertIgnore row with old | rfl
      · obtain ⟨r, recorded, same⟩ := metered.origin u old
        exact ⟨r, List.mem_cons_of_mem _ recorded, same⟩
      · exact ⟨_, List.mem_cons_self, rfl⟩

theorem Metered.step (metered : Metered s) (a : Action) (once : NumbersOnce s a) :
    Metered (step s a) := by
  cases a with
  | enqueueProductContextPush projectID jobID deliveryID commitSHA changedPaths now =>
    exact metered.enqueueProductContextPush projectID jobID deliveryID commitSHA changedPaths now once
  | recordJobUsage jobID generation phase model usage =>
    exact metered.recordJobUsage jobID generation phase model usage once
  | queue a =>
    cases a with
    | claimJob workerID leaseDurationMs caps locked now =>
      exact metered.claimJob workerID leaseDurationMs caps locked now
    | rescheduleJob lease availableAt payload now =>
      exact metered.rescheduleJob lease availableAt payload now once
    | enqueue => exact metered.countOn (countOn_step s.jobs trivial)
    | heartbeat => exact metered.countOn (countOn_step s.jobs trivial)
    | completeJob => exact metered.countOn (countOn_step s.jobs trivial)
    | failJob => exact metered.countOn (countOn_step s.jobs trivial)
    | requeueStaleJobs => exact metered.countOn (countOn_step s.jobs trivial)
    | requeueDeadLetters => exact metered.countOn (countOn_step s.jobs trivial)

theorem Metered.one_execution (metered : Metered s) {r r' : UsageRecord} (member : r ∈ s.records)
    (member' : r' ∈ s.records) (same : r.entry.key = r'.entry.key) : r.generation = r'.generation := by
  simp only [JobUsage.key, Prod.mk.injEq] at same
  obtain ⟨job, execution, phase, -⟩ := same
  obtain ⟨e, memE, own, numbered, number, free⟩ := metered.records r member
  obtain ⟨e', memE', own', numbered', number', free'⟩ := metered.records r' member'
  have id : e.job.id = e'.job.id := own.1.trans (job.trans own'.1.symm)
  -- the handlers of the phase number both executions the same way
  have ticket : e.job.ticketID = e'.job.ticketID := by
    obtain ⟨j, found, ticket, -⟩ := metered.jobs e memE
    obtain ⟨j', found', ticket', -⟩ := metered.jobs e' memE'
    rw [id, found', Option.some.injEq] at found
    rw [← ticket, ← ticket', found]
  have kind : r.entry.phase.ByAttempts e.job ↔ r'.entry.phase.ByAttempts e'.job := by
    rw [phase]
    cases r'.entry.phase <;> simp [UsagePhase.ByAttempts, ticket]
  rw [number, number', UsagePhase.execution, UsagePhase.execution] at execution
  by_cases attempts : r.entry.phase.ByAttempts e.job
  · rw [if_pos attempts, if_pos (kind.mp attempts)] at execution
    have same := metered.numbers e memE e' memE' id (free (by simp [numbered, attempts]))
      (free' (by simp [numbered', kind.mp attempts])) execution
    rw [← own.2, ← own'.2, same]
  · rw [if_neg attempts, if_neg (mt kind.mpr attempts)] at execution
    exact own.2.symm.trans (execution.trans own'.2)

end Metering

/-- Two executions that record usage of one job, phase and model use different numbers, and of
each execution's record the ledger keeps a row that this execution recorded. -/
theorem ledger_keys_unique (actions : List Metering.Action)
    (once : Metering.machine.Guarded Metering.NumbersOnce .empty actions) :
    let s := Metering.machine.run .empty actions
    (∀ r ∈ s.records, ∀ r' ∈ s.records, r.entry.jobID = r'.entry.jobID →
      r.entry.phase = r'.entry.phase → r.entry.model = r'.entry.model →
      r.generation ≠ r'.generation → r.entry.execution ≠ r'.entry.execution) ∧
    ∀ r ∈ s.records, ∃ r' ∈ s.records, r'.generation = r.generation ∧
      s.ledger.find? r.entry.key = some r'.entry := by
  intro s
  have metered : s.Metered := Metering.machine.invariant_guarded Metering.Metered
    (fun _ a metered once => metered.step a once) Metering.metered_empty once
  constructor
  · intro r member r' member' job phase model apart execution
    exact apart (metered.one_execution member member' (by
      rw [JobUsage.key, JobUsage.key, job, execution, phase, model]))
  · intro r member
    obtain ⟨u, found⟩ := Option.isSome_iff_exists.mp (metered.kept r member)
    obtain ⟨r', member', rfl⟩ := metered.origin u (Table.mem_of_find? found)
    exact ⟨r', member', metered.one_execution member' member (Table.key_of_find? found), found⟩

section Example

open Metering (Action)

def failedExecution : List Metering.Action :=
  [.enqueueProductContextPush 1 10 "d1" "c1" .null 0,
    .queue (.claimJob "w" 1000 {} [] 0),
    .recordJobUsage 10 1 .productContext "m" ⟨1, 1, 0, 0⟩,
    .queue (.failJob 10 "w" 1 "the sandbox is gone" {} 0 1 1)]

theorem ledger_keys_unique_failed :
    let s := Metering.machine.run .empty (failedExecution ++ [
      Action.queue (.claimJob "w" 1000 {} [] 100000000000),
      Action.recordJobUsage 10 2 .productContext "m" ⟨2, 2, 0, 0⟩])
    (∀ r ∈ s.records, ∀ r' ∈ s.records, r.entry.jobID = r'.entry.jobID →
      r.entry.phase = r'.entry.phase → r.entry.model = r'.entry.model →
      r.generation ≠ r'.generation → r.entry.execution ≠ r'.entry.execution) ∧
    ∀ r ∈ s.records, ∃ r' ∈ s.records, r'.generation = r.generation ∧
      s.ledger.find? r.entry.key = some r'.entry :=
  ledger_keys_unique (failedExecution ++ [Action.queue (.claimJob "w" 1000 {} [] 100000000000),
    Action.recordJobUsage 10 2 .productContext "m" ⟨2, 2, 0, 0⟩]) (by decide +kernel)

/-- A push arrives after the execution recorded its usage and before it completed the job; the
next execution has the same number. -/
theorem ledger_key_reused :
    ¬∀ (actions : List Metering.Action) (r r' : UsageRecord),
      r ∈ (Metering.machine.run .empty actions).records →
      r' ∈ (Metering.machine.run .empty actions).records → r.entry.jobID = r'.entry.jobID →
      r.entry.phase = r'.entry.phase → r.entry.model = r'.entry.model →
      r.generation ≠ r'.generation → r.entry.execution ≠ r'.entry.execution := by
  intro apart
  have records : (Metering.machine.run .empty [
      .enqueueProductContextPush 1 10 "d1" "c1" .null 0,
      .queue (.claimJob "w" 1000 {} [] 0),
      .recordJobUsage 10 1 .productContext "m" ⟨1, 1, 0, 0⟩,
      .enqueueProductContextPush 1 11 "d2" "c2" .null 1,
      .queue (.claimJob "w" 1000 {} [] 2),
      .recordJobUsage 10 2 .productContext "m" ⟨2, 2, 0, 0⟩]).records =
      [⟨2, true, 10, 0, .productContext, "m", 2, 2, 0, 0⟩,
        ⟨1, true, 10, 0, .productContext, "m", 1, 1, 0, 0⟩] := by
    decide +kernel
  exact apart _ ⟨2, true, 10, 0, .productContext, "m", 2, 2, 0, 0⟩
    ⟨1, true, 10, 0, .productContext, "m", 1, 1, 0, 0⟩ (by rw [records]; simp) (by rw [records]; simp) rfl
    rfl rfl (by decide) rfl

end Example

end Opslane.Jobs
