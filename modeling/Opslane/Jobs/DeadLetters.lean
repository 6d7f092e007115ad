import Opslane.Jobs.Indexes
import Opslane.Jobs.Lease

/-!
# Re-runs of dead letters

`requeueDeadLetters` puts every due dead letter back on the queue in one statement, and a
violation of a unique index refuses the whole statement. The statement compares a dead
letter with the live jobs of its key. It does not compare the dead letters with each
other, nor with live jobs that an index sets against them under another key.
-/

namespace Opslane.Jobs

/-- The rows satisfy the unique indexes. -/
def Indexed (jobs : JobTable) : Prop :=
  ∀ j ∈ jobs.rows, ∀ k ∈ jobs.rows, j.id ≠ k.id → ¬Clash j k
  deriving Decidable

/-- A table of jobs that the unique indexes admit. -/
structure IndexedJobs where
  table : JobTable
  indexed : Indexed table

def IndexedJobs.empty : IndexedJobs := ⟨.empty, by simp [Indexed, Table.empty]⟩

/-- A statement that would leave two rows an index keeps apart is refused. -/
def commitIndexed (table : JobTable) : Except String IndexedJobs :=
  if indexed : Indexed table then .ok ⟨table, indexed⟩
  else .error "duplicate key value violates unique constraint"

/-- `requeueDeadLetters` as a statement under the unique indexes. -/
def rerunDeadLetters (jobs : IndexedJobs) (trigger : RequeueTrigger) (locked : List UUID)
    (now : Timestamp) : Except String IndexedJobs :=
  commitIndexed (requeueDeadLetters jobs.table trigger locked now)

/-- The transactions on the queue; one that an index refuses leaves the table alone. -/
def indexedMachine : Transition.Machine IndexedJobs Action where
  step jobs a := Transition.committed jobs (commitIndexed (step jobs.table a))

/-- What the statement compares a dead letter and a live job by. -/
def Job.key (j : Job) : UUID × JobType × Option UUID × Option UUID × Option UUID :=
  (j.projectID, j.jobType, j.errorGroupID, j.episodeID, j.runID)

/-- The job types the worker re-runs. -/
def Job.Rerunnable (j : Job) : Prop :=
  j.jobType = .investigate ∨ j.jobType = .routeMap ∨ j.jobType = .productContext

instance (j : Job) : Decidable j.Rerunnable := inferInstanceAs (Decidable (_ ∨ _))

/-- At most one live job of each key, among the types the worker re-runs. -/
def OneLive (jobs : JobTable) : Prop :=
  ∀ j ∈ jobs.rows, ∀ k ∈ jobs.rows, j.Rerunnable → j.Active → k.Active → j.key = k.key → j.id = k.id
  deriving Decidable

/-- The statement takes the dead letter: it is due, without a live job of its key, and no
other transaction holds it. -/
def Taken (jobs : JobTable) (trigger : RequeueTrigger) (locked : List UUID) (now : Timestamp)
    (j : Job) : Prop :=
  Due jobs trigger now j = true ∧ j.id ∉ locked
  deriving Decidable

/-- Each dead letter the statement takes is re-run, or another one of its key is. -/
def Reruns (jobs after : JobTable) (trigger : RequeueTrigger) (locked : List UUID)
    (now : Timestamp) : Prop :=
  ∀ j ∈ jobs.rows, Taken jobs trigger locked now j →
    ∃ k ∈ jobs.rows, Taken jobs trigger locked now k ∧ k.key = j.key ∧
      after.find? k.id = some (requeue now k)

/-- The re-run completes, leaves one live job of a key and re-runs what is due. -/
def RerunsOnce (jobs : IndexedJobs) (trigger : RequeueTrigger) (locked : List UUID)
    (now : Timestamp) : Prop :=
  ∃ after, rerunDeadLetters jobs trigger locked now = .ok after ∧ OneLive after.table ∧
    Reruns jobs.table after.table trigger locked now

/-- The live jobs have keys of their own; so have the dead letters the statement takes, and no
index sets one of them against another or against a live job. -/
structure Separate (jobs : JobTable) (trigger : RequeueTrigger) (locked : List UUID)
    (now : Timestamp) : Prop where
  live : OneLive jobs
  keys : ∀ j ∈ jobs.rows, ∀ k ∈ jobs.rows, Taken jobs trigger locked now j →
    Taken jobs trigger locked now k → j.key = k.key → j.id = k.id
  indexes : ∀ j ∈ jobs.rows, ∀ k ∈ jobs.rows, Taken jobs trigger locked now j →
    (Taken jobs trigger locked now k ∨ k.Active) → ActiveClash j k → j.id = k.id

variable {jobs : JobTable} {trigger : RequeueTrigger} {locked : List UUID} {now : Timestamp}

theorem ActiveClash.symm {j k : Job} (clash : ActiveClash j k) : ActiveClash k j := by
  obtain ⟨sameType, sets⟩ := clash
  refine ⟨sameType.symm, ?_⟩
  rcases sets with ⟨project, episode | run | product | route⟩ | ⟨kind, ticket⟩ | ⟨kind, session⟩ |
    ⟨kind, issue⟩
  · exact Or.inl ⟨project.symm, Or.inl episode.symm⟩
  · exact Or.inl ⟨project.symm, Or.inr (Or.inl run.symm)⟩
  · exact Or.inl ⟨project.symm, Or.inr (Or.inr (Or.inl (sameType ▸ product)))⟩
  · exact Or.inl ⟨project.symm, Or.inr (Or.inr (Or.inr (sameType ▸ route)))⟩
  · exact Or.inr (Or.inl ⟨sameType ▸ kind, ticket.symm⟩)
  · exact Or.inr (Or.inr (Or.inl ⟨sameType ▸ kind, session.symm⟩))
  · exact Or.inr (Or.inr (Or.inr ⟨sameType ▸ kind, issue.symm⟩))

theorem Taken.alone {j : Job} (taken : Taken jobs trigger locked now j) :
    j.Rerunnable ∧ ∀ k ∈ jobs.rows, k.Active → k.key ≠ j.key := by
  have due := taken.1
  simp only [Due, decide_eq_true_eq] at due
  obtain ⟨-, kind, -, -, -, free⟩ := due
  refine ⟨kind, fun k member active same => free ?_⟩
  simp only [Job.key, Prod.mk.injEq] at same
  exact List.any_eq_true.mpr ⟨k, member, decide_eq_true ⟨active, same⟩⟩

/-- What the statement makes of a row. -/
def rerun (jobs : JobTable) (trigger : RequeueTrigger) (locked : List UUID) (now : Timestamp)
    (j : Job) : Job :=
  if Taken jobs trigger locked now j then requeue now j else j

theorem mem_requeueDeadLetters {j' : Job} :
    j' ∈ (requeueDeadLetters jobs trigger locked now).rows ↔
      ∃ j ∈ jobs.rows, rerun jobs trigger locked now j = j' := by
  have mem := Table.mem_updateWhere jobs (fun j => Due jobs trigger now j ∧ j.id ∉ locked)
    (requeue now) (fun _ => rfl) j'
  simp only [decide_eq_true_eq] at mem
  exact mem

section Rerun

variable (jobs trigger locked now) (j k : Job)

@[simp] theorem rerun_id : (rerun jobs trigger locked now j).id = j.id := by
  unfold rerun
  split <;> rfl

@[simp] theorem rerun_key : (rerun jobs trigger locked now j).key = j.key := by
  unfold rerun
  split <;> rfl

@[simp] theorem rerun_rerunnable : (rerun jobs trigger locked now j).Rerunnable ↔ j.Rerunnable := by
  unfold rerun
  split <;> rfl

@[simp] theorem rerun_active :
    (rerun jobs trigger locked now j).Active ↔ Taken jobs trigger locked now j ∨ j.Active := by
  unfold rerun
  split
  · rename_i taken
    simp [taken, Job.Active, requeue, release]
  · rename_i left
    simp [left]

@[simp] theorem rerun_versionClash :
    VersionClash (rerun jobs trigger locked now j) (rerun jobs trigger locked now k) ↔
      VersionClash j k := by
  unfold rerun
  split <;> split <;> rfl

@[simp] theorem rerun_activeClash :
    ActiveClash (rerun jobs trigger locked now j) (rerun jobs trigger locked now k) ↔
      ActiveClash j k := by
  unfold rerun
  split <;> split <;> rfl

end Rerun

theorem indexed_rerun_iff (jobs : IndexedJobs) :
    Indexed (requeueDeadLetters jobs.table trigger locked now) ↔
      ∀ j ∈ jobs.table.rows, ∀ k ∈ jobs.table.rows, Taken jobs.table trigger locked now j →
        (Taken jobs.table trigger locked now k ∨ k.Active) → ActiveClash j k → j.id = k.id := by
  constructor
  · intro indexed j memJ k memK taken live clash
    by_contra apart
    have admitted := indexed _ (mem_requeueDeadLetters.mpr ⟨j, memJ, rfl⟩) _
      (mem_requeueDeadLetters.mpr ⟨k, memK, rfl⟩) (by simpa using apart)
    simp [Clash, taken, live, clash] at admitted
  · intro apart j' memJ k' memK differ
    obtain ⟨j, oldJ, rfl⟩ := mem_requeueDeadLetters.mp memJ
    obtain ⟨k, oldK, rfl⟩ := mem_requeueDeadLetters.mp memK
    simp only [rerun_id] at differ
    have before := jobs.indexed j oldJ k oldK differ
    simp only [Clash, rerun_versionClash, rerun_active, rerun_activeClash]
    rintro (version | ⟨liveJ, liveK, clash⟩)
    · exact before (Or.inl version)
    · rcases liveJ with takenJ | activeJ
      · exact differ (apart j oldJ k oldK takenJ liveK clash)
      · rcases liveK with takenK | activeK
        · exact differ (apart k oldK j oldJ takenK (Or.inr activeJ) clash.symm).symm
        · exact before (Or.inr ⟨activeJ, activeK, clash⟩)

theorem oneLive_rerun_iff :
    OneLive (requeueDeadLetters jobs trigger locked now) ↔
      OneLive jobs ∧ ∀ j ∈ jobs.rows, ∀ k ∈ jobs.rows, Taken jobs trigger locked now j →
        Taken jobs trigger locked now k → j.key = k.key → j.id = k.id := by
  constructor
  · intro one
    have each : ∀ j ∈ jobs.rows, ∀ k ∈ jobs.rows, j.Rerunnable →
        (Taken jobs trigger locked now j ∨ j.Active) → (Taken jobs trigger locked now k ∨ k.Active) →
        j.key = k.key → j.id = k.id := by
      intro j memJ k memK kind liveJ liveK same
      have ids := one _ (mem_requeueDeadLetters.mpr ⟨j, memJ, rfl⟩) _
        (mem_requeueDeadLetters.mpr ⟨k, memK, rfl⟩)
      simp only [rerun_id, rerun_key, rerun_active, rerun_rerunnable] at ids
      exact ids kind liveJ liveK same
    exact ⟨fun j memJ k memK kind liveJ liveK => each j memJ k memK kind (Or.inr liveJ) (Or.inr liveK),
      fun j memJ k memK takenJ takenK =>
        each j memJ k memK takenJ.alone.1 (Or.inl takenJ) (Or.inl takenK)⟩
  · rintro ⟨one, keys⟩ j' memJ k' memK
    obtain ⟨j, oldJ, rfl⟩ := mem_requeueDeadLetters.mp memJ
    obtain ⟨k, oldK, rfl⟩ := mem_requeueDeadLetters.mp memK
    simp only [rerun_id, rerun_key, rerun_active, rerun_rerunnable]
    rintro kind (takenJ | activeJ) (takenK | activeK) same
    · exact keys j oldJ k oldK takenJ takenK same
    · exact absurd same.symm (takenJ.alone.2 k oldK activeK)
    · exact absurd same (takenK.alone.2 j oldJ activeJ)
    · exact one j oldJ k oldK kind activeJ activeK same

theorem reruns_requeueDeadLetters :
    Reruns jobs (requeueDeadLetters jobs trigger locked now) trigger locked now := by
  intro j member taken
  refine ⟨j, member, taken, rfl, ?_⟩
  have row : rerun jobs trigger locked now j ∈ (requeueDeadLetters jobs trigger locked now).rows :=
    mem_requeueDeadLetters.mpr ⟨j, member, rfl⟩
  have found := Table.find?_key _ row
  rw [rerun_id] at found
  rw [found, rerun, if_pos taken]

theorem commitIndexed_eq_ok_iff {table : JobTable} {after : IndexedJobs} :
    commitIndexed table = .ok after ↔ Indexed table ∧ after.table = table := by
  obtain ⟨table', indexed'⟩ := after
  unfold commitIndexed
  split
  · rename_i indexed
    simp only [Except.ok.injEq, IndexedJobs.mk.injEq, indexed, true_and]
    exact eq_comm
  · rename_i refused
    constructor
    · intro done
      cases done
    · rintro ⟨indexed, -⟩
      exact absurd indexed refused

/-- Over any rows the indexes admit, the re-run completes, leaves one live job of a key and
re-runs what is due, if and only if the dead letters it takes are kept apart by their keys and
by no index. -/
theorem deadLetters_rerun (jobs : IndexedJobs) (trigger : RequeueTrigger) (locked : List UUID)
    (now : Timestamp) :
    RerunsOnce jobs trigger locked now ↔ Separate jobs.table trigger locked now := by
  constructor
  · rintro ⟨after, done, one, -⟩
    obtain ⟨indexed, table⟩ := commitIndexed_eq_ok_iff.mp done
    rw [table] at one
    obtain ⟨live, keys⟩ := oneLive_rerun_iff.mp one
    exact ⟨live, keys, (indexed_rerun_iff jobs).mp indexed⟩
  · rintro ⟨live, keys, indexes⟩
    have indexed := (indexed_rerun_iff jobs).mpr indexes
    exact ⟨⟨_, indexed⟩, commitIndexed_eq_ok_iff.mpr ⟨indexed, rfl⟩, oneLive_rerun_iff.mpr ⟨live, keys⟩,
      reruns_requeueDeadLetters⟩

section Example

/-- A product-context job of project 1 is claimed and fails for good. -/
def failedRun (id : UUID) (now : Timestamp) : List Action :=
  [.enqueue id 1 .productContext {} now now,
    .claimJob "w" 1000 {} [] now,
    .failJob id "w" 1 "the agent stopped" ⟨true, some .agent⟩ 0 now now]

/-- Two failed jobs of one project are due at the same tick. -/
theorem deadLetters_wedged :
    ¬∀ (actions : List Action) (trigger : RequeueTrigger) (now : Timestamp),
      RerunsOnce (indexedMachine.run .empty actions) trigger [] now := by
  intro reruns
  obtain ⟨after, done, -⟩ := reruns (failedRun 1 0 ++ failedRun 2 1) .interval 7200000000
  have refused : (rerunDeadLetters (indexedMachine.run .empty (failedRun 1 0 ++ failedRun 2 1)) .interval
      [] 7200000000).isOk = false := by
    decide +kernel
  rw [done] at refused
  cases refused

end Example

variable {j : Job}

/-- The job is completed, or a dead letter that is never run again. -/
def Job.Finished (j : Job) : Prop :=
  j.status = .completed ∨
    j.status = .deadLetter ∧ (maxDeadLetterRequeues ≤ j.requeues ∨ ¬j.Rerunnable)
  deriving Decidable

theorem mem_updateWhere_of_not {p : Job → Bool} {f : Job → Job} (frame : ∀ j, (f j).id = j.id)
    (member : j ∈ jobs.rows) (passed : ¬p j) : j ∈ (jobs.updateWhere p f frame).rows :=
  (Table.mem_updateWhere ..).mpr ⟨j, member, if_neg passed⟩

theorem finished_step (member : j ∈ jobs.rows) (finished : j.Finished) (a : Action) :
    j ∈ (step jobs a).rows := by
  have idle : j.status ≠ .pending ∧ j.status ≠ .claimed := by
    rcases finished with completed | ⟨dead, -⟩ <;> simp [*]
  cases a with
  | enqueue id projectID jobType columns availableAt now =>
    rw [step]
    cases inserted : jobs.insert? (Job.new id projectID jobType columns availableAt now) with
    | none => exact member
    | some after => exact (Table.mem_insert? inserted).mpr (Or.inr member)
  | claimJob workerID leaseDurationMs caps locked now =>
    rw [step, claimJob]
    cases chosen : candidate jobs caps locked now with
    | none => exact member
    | some c =>
      obtain ⟨present, pending⟩ := candidate_spec chosen
      refine mem_updateWhere_of_not (claim_id workerID leaseDurationMs now) member fun same => idle.1 ?_
      rw [jobs.inj member (Table.mem_of_find? present) (of_decide_eq_true same), pending]
  | heartbeat jobID workerID leaseGeneration leaseDurationMs now =>
    exact mem_updateWhere_of_not (by intro; rfl) member fun owned => idle.2 (of_decide_eq_true owned).2.2.2.1
  | rescheduleJob lease availableAt payload now =>
    rw [step]
    · unfold rescheduleJob
      dsimp only
      split
      · rename_i eq
        split at eq
        · cases eq
          exact mem_updateWhere_of_not (by intro; rfl) member fun owned => idle.2 (of_decide_eq_true owned).1.2.2.2.1
        · cases eq
      · exact member
  | completeJob jobID workerID leaseGeneration now =>
    exact mem_updateWhere_of_not (by intro; rfl) member fun owned => idle.2 (of_decide_eq_true owned).2.2.2.1
  | failJob jobID workerID leaseGeneration error options jitter now clock =>
    exact mem_updateWhere_of_not (fail_id error options jitter now) member fun owned => idle.2 (of_decide_eq_true owned).2.2.2.1
  | requeueStaleJobs candidateIDs jitter now =>
    exact mem_updateWhere_of_not (fun j => reap_id (jitter j.id) now j) member fun stale => idle.2 (of_decide_eq_true stale).2.1
  | requeueDeadLetters trigger locked now =>
    refine mem_updateWhere_of_not (by intro; rfl) member fun due => ?_
    simp only [Due, decide_eq_true_eq] at due
    rcases finished with completed | ⟨-, spent | other⟩
    · rw [completed] at due
      cases due.1.1
    · exact absurd due.1.2.2.2.1 (Nat.not_lt.mpr spent)
    · exact other due.1.2.1

/-- No transaction on the queue touches a finished job again. -/
theorem finished_forever (member : j ∈ jobs.rows) (finished : j.Finished) (actions : List Action) :
    j ∈ (machine.run jobs actions).rows :=
  machine.invariant_run (fun jobs => j ∈ jobs.rows)
    (fun _ a still => finished_step still finished a) member actions

theorem finished_forever_completed :
    let done : Job := { Job.new 1 1 .fix {} 0 0 with status := .completed }
    done ∈ (machine.run ⟨[done], by decide⟩ [.claimJob "w" 1000 {} [] 5]).rows :=
  finished_forever List.mem_cons_self (Or.inl rfl) _

end Opslane.Jobs
