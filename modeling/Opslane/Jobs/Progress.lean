import Opslane.Jobs.Indexes
import Opslane.Jobs.Lease

/-!
# Progress of queued jobs

Claims, heartbeats, completions, failures and the reaper move a job through its life. They
never change what a job is about, they add and drop no job, and none of them puts a job
that is done back on the queue.
-/

namespace Opslane.Jobs

/-- Everything but new jobs and re-runs of dead letters. -/
def Progress : Action → Prop
  | .enqueue .. | .requeueDeadLetters .. => False
  | _ => True

instance (a : Action) : Decidable (Progress a) := by
  rcases a with _ | _ <;> dsimp only [Progress] <;> infer_instance

/-- The two rows are about the same work. -/
structure Job.SameWork (j j' : Job) : Prop where
  id : j'.id = j.id
  projectID : j'.projectID = j.projectID
  jobType : j'.jobType = j.jobType
  errorGroupID : j'.errorGroupID = j.errorGroupID
  ticketID : j'.ticketID = j.ticketID
  publicationGeneration : j'.publicationGeneration = j.publicationGeneration
  fixAttemptID : j'.fixAttemptID = j.fixAttemptID

theorem Job.SameWork.refl (j : Job) : j.SameWork j := ⟨rfl, rfl, rfl, rfl, rfl, rfl, rfl⟩

/-- A job moves on: the same work, active only if it was. -/
def Job.Advances (j j' : Job) : Prop := j.SameWork j' ∧ (j'.Active → j.Active)

theorem Job.Advances.refl (j : Job) : j.Advances j := ⟨.refl j, fun active => active⟩

/-- The rows of one table are those of another, each moved on. -/
structure Advanced (before after : JobTable) : Prop where
  back : ∀ j' ∈ after.rows, ∃ j ∈ before.rows, j.Advances j'
  forth : ∀ j ∈ before.rows, ∃ j' ∈ after.rows, j.Advances j'

theorem Advanced.refl (jobs : JobTable) : Advanced jobs jobs :=
  ⟨fun j member => ⟨j, member, .refl j⟩, fun j member => ⟨j, member, .refl j⟩⟩

theorem advanced_updateWhere (jobs : JobTable) (p : Job → Bool) (f : Job → Job)
    (frame : ∀ j, (f j).id = j.id) (moves : ∀ j ∈ jobs.rows, p j → Job.Advances j (f j)) :
    Advanced jobs (jobs.updateWhere p f frame) := by
  have each : ∀ j ∈ jobs.rows, Job.Advances j (if p j then f j else j) := by
    intro j member
    split
    · rename_i selected
      exact moves j member selected
    · exact .refl j
  constructor
  · intro j' member
    obtain ⟨j, old, rfl⟩ := (Table.mem_updateWhere ..).mp member
    exact ⟨j, old, each j old⟩
  · intro j member
    exact ⟨_, (Table.mem_updateWhere ..).mpr ⟨j, member, rfl⟩, each j member⟩

variable {j : Job}

theorem fail_advances (error : String) (options : FailOptions) (jitter : Nat) (now : Timestamp)
    (claimed : j.status = .claimed) : j.Advances (fail error options jitter now j) := by
  refine ⟨?_, fun _ => Or.inr claimed⟩
  unfold fail
  split <;> exact ⟨rfl, rfl, rfl, rfl, rfl, rfl, rfl⟩

theorem reap_advances (jitter : Nat) (now : Timestamp) (claimed : j.status = .claimed) :
    j.Advances (reap jitter now j) := by
  refine ⟨?_, fun _ => Or.inr claimed⟩
  unfold reap
  split <;> exact ⟨rfl, rfl, rfl, rfl, rfl, rfl, rfl⟩

theorem advanced_step (jobs : JobTable) {a : Action} (progress : Progress a) :
    Advanced jobs (step jobs a) := by
  cases a with
  | enqueue => cases progress
  | requeueDeadLetters => cases progress
  | claimJob workerID leaseDurationMs caps locked now =>
    rw [step]
    unfold claimJob
    split
    · exact .refl jobs
    · rename_i c chosen
      obtain ⟨present, pending⟩ := candidate_spec chosen
      refine advanced_updateWhere jobs _ _ (claim_id workerID leaseDurationMs now) fun j member own => ?_
      obtain rfl : j = c := jobs.inj member (Table.mem_of_find? present)
        (of_decide_eq_true own)
      exact ⟨⟨rfl, rfl, rfl, rfl, rfl, rfl, rfl⟩, fun _ => Or.inl pending⟩
  | heartbeat jobID workerID leaseGeneration leaseDurationMs now =>
    exact advanced_updateWhere jobs _ (extendLease leaseDurationMs now) (fun _ => rfl)
      fun j _ _ => ⟨⟨rfl, rfl, rfl, rfl, rfl, rfl, rfl⟩, fun active => active⟩
  | rescheduleJob lease availableAt payload now =>
    rw [step]
    unfold rescheduleJob
    dsimp only
    split
    · rename_i rescheduled eq
      split at eq
      · cases eq
        refine advanced_updateWhere jobs _ (reschedule availableAt payload) (fun _ => rfl)
          fun j _ owned => ⟨⟨rfl, rfl, rfl, rfl, rfl, rfl, rfl⟩, fun _ => Or.inr ?_⟩
        exact (of_decide_eq_true owned).1.2.2.2.1
      · cases eq
    · exact .refl jobs
  | completeJob jobID workerID leaseGeneration now =>
    exact advanced_updateWhere jobs _ complete (fun _ => rfl)
      fun j _ owned => ⟨⟨rfl, rfl, rfl, rfl, rfl, rfl, rfl⟩,
        fun _ => Or.inr (of_decide_eq_true owned).2.2.2.1⟩
  | failJob jobID workerID leaseGeneration error options jitter now clock =>
    exact advanced_updateWhere jobs _ _ (fail_id error options jitter now)
      fun j _ owned => fail_advances error options jitter now (of_decide_eq_true owned).2.2.2.1
  | requeueStaleJobs candidateIDs jitter now =>
    exact advanced_updateWhere jobs _ _ (fun j => reap_id (jitter j.id) now j)
      fun j _ stale => reap_advances (jitter j.id) now (of_decide_eq_true stale).2.1

/-- The step takes the job out of the queue as a dead letter. -/
def FailsForGood : Action → Job → Prop
  | .failJob jobID workerID leaseGeneration _ options _ _ clock, j =>
    j.Owned jobID workerID leaseGeneration clock ∧ (options.exhaust ∨ j.maxAttempts ≤ j.attempts + 1)
  | .requeueStaleJobs candidateIDs _ now, j =>
    j.id ∈ candidateIDs ∧ Stale now j ∧ j.maxAttempts ≤ j.attempts + 1
  | _, _ => False

instance (a : Action) (j : Job) : Decidable (FailsForGood a j) := by
  rcases a with _ | _ <;> dsimp only [FailsForGood] <;> infer_instance

/-- A live job stays live: it waits, or is still under the lease it was under. -/
structure Job.Survives (j j' : Job) : Prop where
  jobType : j'.jobType = j.jobType
  sessionID : j'.sessionID = j.sessionID
  live : j'.status = .pending ∨
    (j.status = .claimed ∧ j'.status = .claimed ∧ j'.leaseGeneration = j.leaseGeneration)

theorem Job.Active.survives (active : j.Active) : j.Survives j where
  jobType := rfl
  sessionID := rfl
  live := active.imp_right fun claimed => ⟨claimed, claimed, rfl⟩

theorem survives_updateWhere (jobs : JobTable) (p : Job → Bool) (f : Job → Job)
    (frame : ∀ j, (f j).id = j.id) (found : jobs.find? j.id = some j) (active : j.Active)
    (survives : p j → j.Survives (f j)) :
    ∃ j', (jobs.updateWhere p f frame).find? j.id = some j' ∧ j.Survives j' := by
  refine ⟨_, jobs.find?_updateWhere_of p f frame found, ?_⟩
  split
  · rename_i selected
    exact survives selected
  · exact active.survives

theorem step_survives (jobs : JobTable) {a : Action} (found : jobs.find? j.id = some j)
    (active : j.Active) (kept : ¬FailsForGood a j)
    (unclaimed : ∀ workerID leaseDurationMs caps locked now,
      a ≠ .claimJob workerID leaseDurationMs caps locked now)
    (uncompleted : ∀ jobID workerID leaseGeneration now,
      a = .completeJob jobID workerID leaseGeneration now → jobID ≠ j.id) :
    ∃ j', (step jobs a).find? j.id = some j' ∧ j.Survives j' := by
  cases a with
  | enqueue id projectID jobType columns availableAt now =>
    refine ⟨j, ?_, active.survives⟩
    rw [step]
    cases inserted : jobs.insert? (Job.new id projectID jobType columns availableAt now) with
    | none => exact found
    | some after =>
      have other : j.id ≠ (Job.new id projectID jobType columns availableAt now).id := by
        intro taken
        rw [taken, (Table.insert?_spec inserted).1] at found
        cases found
      rw [Option.getD_some, Table.find?_insert? inserted, if_neg other, found]
  | claimJob workerID leaseDurationMs caps locked now =>
    exact absurd rfl (unclaimed workerID leaseDurationMs caps locked now)
  | heartbeat jobID workerID leaseGeneration leaseDurationMs now =>
    exact survives_updateWhere jobs _ (extendLease leaseDurationMs now) (fun _ => rfl) found active
      fun owned => ⟨rfl, rfl, Or.inr ⟨(of_decide_eq_true owned).2.2.2.1,
        (of_decide_eq_true owned).2.2.2.1, rfl⟩⟩
  | rescheduleJob lease availableAt payload now =>
    rw [step]
    unfold rescheduleJob
    dsimp only
    split
    · rename_i rescheduled eq
      split at eq
      · cases eq
        exact survives_updateWhere jobs _ (reschedule availableAt payload) (fun _ => rfl) found active
          fun _ => ⟨rfl, rfl, Or.inl rfl⟩
      · cases eq
    · exact ⟨j, found, active.survives⟩
  | completeJob jobID workerID leaseGeneration now =>
    refine survives_updateWhere jobs _ complete (fun _ => rfl) found active fun owned => ?_
    exact absurd (of_decide_eq_true owned).1.symm (uncompleted jobID workerID leaseGeneration now rfl)
  | failJob jobID workerID leaseGeneration error options jitter now clock =>
    refine survives_updateWhere jobs _ _ (fail_id error options jitter now) found active fun owned => ?_
    have again : ¬(options.exhaust = true ∨ j.maxAttempts ≤ j.attempts + 1) := fun last =>
      kept ⟨of_decide_eq_true owned, last⟩
    rw [fail, if_neg again]
    exact ⟨rfl, rfl, Or.inl rfl⟩
  | requeueStaleJobs candidateIDs jitter now =>
    refine survives_updateWhere jobs _ _ (fun j => reap_id (jitter j.id) now j) found active
      fun stale => ?_
    have again : ¬j.maxAttempts ≤ j.attempts + 1 := fun last =>
      kept ⟨(of_decide_eq_true stale).1, (of_decide_eq_true stale).2, last⟩
    rw [reap, if_neg again]
    exact ⟨rfl, rfl, Or.inl rfl⟩
  | requeueDeadLetters trigger locked now =>
    exact survives_updateWhere jobs _ (requeue now) (fun _ => rfl) found active
      fun _ => ⟨rfl, rfl, Or.inl rfl⟩

end Opslane.Jobs
