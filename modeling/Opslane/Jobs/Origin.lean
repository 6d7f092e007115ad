import Opslane.Jobs.Lease

/-!
# What a job was inserted as

A job keeps its project, its type and every column its insert filled in but the payload:
no operation of the queue rewrites them, and none removes a row. So every operation but
an insert is a map of the rows.
-/

namespace Opslane.Jobs

/-- What the insert of a job wrote, without the payload. -/
def Job.origin (j : Job) : UUID × JobType × JobColumns :=
  (j.projectID, j.jobType, { j.toJobColumns with payload := none })

/-- The row after a step is the row before it, of the same origin. -/
structure KeepsOrigin (f : Job → Job) : Prop where
  id : ∀ j, (f j).id = j.id
  origin : ∀ j, (f j).origin = j.origin

theorem KeepsOrigin.refl : KeepsOrigin fun j => j := ⟨fun _ => rfl, fun _ => rfl⟩

/-- The rows after are the rows before, each of the same origin. -/
def SameOrigins (before after : JobTable) : Prop :=
  ∃ f, KeepsOrigin f ∧ after.rows = before.rows.map f

theorem SameOrigins.refl (jobs : JobTable) : SameOrigins jobs jobs :=
  ⟨fun j => j, .refl, by simp⟩

theorem sameOrigins_updateWhere (jobs : JobTable) (p : Job → Bool) (f : Job → Job)
    (frame : ∀ j, (f j).id = j.id) (same : ∀ j, (f j).origin = j.origin) :
    SameOrigins jobs (jobs.updateWhere p f frame) := by
  refine ⟨fun j => if p j then f j else j, ⟨?_, ?_⟩, rfl⟩
  · intro j
    split
    · exact frame j
    · rfl
  · intro j
    split
    · exact same j
    · rfl

theorem fail_origin (error : String) (options : FailOptions) (jitter : Nat) (now : Timestamp)
    (j : Job) : (fail error options jitter now j).origin = j.origin := by
  unfold fail
  split <;> rfl

theorem reap_origin (jitter : Nat) (now : Timestamp) (j : Job) :
    (reap jitter now j).origin = j.origin := by
  unfold reap
  split <;> rfl

/-- The step inserts a job. -/
def Inserts : Action → Prop
  | .enqueue .. => True
  | _ => False

instance (a : Action) : Decidable (Inserts a) := by
  rcases a with _ | _ <;> dsimp only [Inserts] <;> infer_instance

theorem sameOrigins_step (jobs : JobTable) {a : Action} (moves : ¬Inserts a) :
    SameOrigins jobs (step jobs a) := by
  cases a with
  | enqueue => exact absurd trivial moves
  | claimJob workerID leaseDurationMs caps locked now =>
    rw [step]
    unfold claimJob
    split
    · exact .refl jobs
    · exact sameOrigins_updateWhere jobs _ _ (claim_id workerID leaseDurationMs now) fun _ => rfl
  | heartbeat jobID workerID leaseGeneration leaseDurationMs now =>
    exact sameOrigins_updateWhere jobs _ (extendLease leaseDurationMs now) (fun _ => rfl) fun _ => rfl
  | rescheduleJob lease availableAt payload now =>
    rw [step]
    unfold rescheduleJob
    dsimp only
    split
    · rename_i rescheduled eq
      split at eq
      · cases eq
        exact sameOrigins_updateWhere jobs _ (reschedule availableAt payload) (fun _ => rfl)
          fun _ => rfl
      · cases eq
    · exact .refl jobs
  | completeJob jobID workerID leaseGeneration now =>
    exact sameOrigins_updateWhere jobs _ complete (fun _ => rfl) fun _ => rfl
  | failJob jobID workerID leaseGeneration error options jitter now clock =>
    exact sameOrigins_updateWhere jobs _ _ (fail_id error options jitter now)
      (fail_origin error options jitter now)
  | requeueStaleJobs candidateIDs jitter now =>
    exact sameOrigins_updateWhere jobs _ _ (fun j => reap_id (jitter j.id) now j)
      fun j => reap_origin (jitter j.id) now j
  | requeueDeadLetters trigger locked now =>
    exact sameOrigins_updateWhere jobs _ (requeue now) (fun _ => rfl) fun _ => rfl

namespace SameOrigins

variable {before after : JobTable}

theorem forth (same : SameOrigins before after) {j : Job} (member : j ∈ before.rows) :
    ∃ j' ∈ after.rows, j'.id = j.id ∧ j'.origin = j.origin := by
  obtain ⟨f, keeps, rows⟩ := same
  exact ⟨f j, rows ▸ List.mem_map_of_mem member, keeps.id j, keeps.origin j⟩

theorem back (same : SameOrigins before after) {j' : Job} (member : j' ∈ after.rows) :
    ∃ j ∈ before.rows, j'.id = j.id ∧ j'.origin = j.origin := by
  obtain ⟨f, keeps, rows⟩ := same
  rw [rows] at member
  obtain ⟨j, old, rfl⟩ := List.mem_map.mp member
  exact ⟨j, old, keeps.id j, keeps.origin j⟩

end SameOrigins

theorem origin_eq {j j' : Job} (same : j'.origin = j.origin) :
    j'.projectID = j.projectID ∧ j'.jobType = j.jobType ∧ j'.errorGroupID = j.errorGroupID ∧
      j'.episodeID = j.episodeID ∧ j'.ticketID = j.ticketID ∧ j'.batchID = j.batchID ∧
      j'.publicationGeneration = j.publicationGeneration ∧ j'.inputVersion = j.inputVersion := by
  simp only [Job.origin, Prod.mk.injEq, JobColumns.mk.injEq] at same
  obtain ⟨project, jobType, group, episode, -, -, ticket, batch, generation, -, version, -⟩ := same
  exact ⟨project, jobType, group, episode, ticket, batch, generation, version⟩

end Opslane.Jobs
