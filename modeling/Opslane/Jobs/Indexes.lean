import Opslane.Jobs.Queue

/-!
# Unique indexes of the queue

The unique indexes over `error_group_jobs`, and `enqueueJobTx` of
`packages/worker/src/db.ts`, whose insert gives way to any of them. A null column is
never equal to another.
-/

namespace Opslane.Jobs

/-- The job is waiting or under a lease. -/
def Job.Active (j : Job) : Prop := j.status = .pending ∨ j.status = .claimed

instance (j : Job) : Decidable j.Active := inferInstanceAs (Decidable (_ ∨ _))

/-- Two columns hold the same value, which is not null. -/
def SameValue {α : Type} (a b : Option α) : Prop := a.isSome ∧ a = b

instance {α : Type} [DecidableEq α] (a b : Option α) : Decidable (SameValue a b) :=
  inferInstanceAs (Decidable (_ ∧ _))

theorem SameValue.symm {α : Type} {a b : Option α} (same : SameValue a b) : SameValue b a :=
  ⟨same.2 ▸ same.1, same.2.symm⟩

/-- The partial indexes over pending and claimed rows admit one of the two jobs. -/
def ActiveClash (j k : Job) : Prop :=
  j.jobType = k.jobType ∧
    -- `uq_one_active_job_per_episode_type`, `uq_one_active_write_job_per_run`,
    -- `uq_product_context_job_active` and `uq_route_map_job_active`
    ((j.projectID = k.projectID ∧ (SameValue j.episodeID k.episodeID ∨ SameValue j.runID k.runID ∨
        j.jobType = .productContext ∨ j.jobType = .routeMap)) ∨
      -- `idx_jobs_friction_confirm_pending`, `idx_jobs_friction_reconcile_pending`
      ((j.jobType = .frictionConfirm ∨ j.jobType = .frictionReconcile) ∧
        SameValue j.ticketID k.ticketID) ∨
      -- `idx_jobs_friction_match_pending`
      (j.jobType = .frictionMatch ∧ SameValue j.sessionID k.sessionID) ∨
      -- `idx_one_live_ci_watch_per_group`
      (j.jobType = .ciWatch ∧ SameValue j.errorGroupID k.errorGroupID))
  deriving Decidable

/-- `uq_one_job_per_episode_type_version`, which counts jobs of every status. -/
def VersionClash (j k : Job) : Prop :=
  j.projectID = k.projectID ∧ j.jobType = k.jobType ∧ SameValue j.episodeID k.episodeID ∧
    SameValue j.inputVersion k.inputVersion
  deriving Decidable

/-- No table holds both rows. -/
def Clash (j k : Job) : Prop :=
  VersionClash j k ∨ (j.Active ∧ k.Active ∧ ActiveClash j k)
  deriving Decidable

/-- A plain insert, refused by any of the indexes. -/
def insertJob? (jobs : JobTable) (j : Job) : Option JobTable :=
  if jobs.any fun k => Clash j k then none else jobs.insert? j

/-- `INSERT ... ON CONFLICT DO NOTHING`. -/
def enqueueJobTx (jobs : JobTable) (j : Job) : JobTable :=
  if jobs.any fun k => Clash j k then jobs else jobs.insertIgnore j

variable {j : Job}

theorem not_clash_fix (fix : j.jobType = .fix) (episode : j.episodeID = none) (run : j.runID = none)
    (k : Job) : ¬Clash j k := by
  simp [Clash, VersionClash, ActiveClash, SameValue, fix, episode, run]

theorem insertJob?_fix (fix : j.jobType = .fix) (episode : j.episodeID = none)
    (run : j.runID = none) (jobs : JobTable) : insertJob? jobs j = jobs.insert? j := by
  simp [insertJob?, Table.any, not_clash_fix fix episode run]

theorem insertJob?_prEvent (event : j.jobType = .frictionPREvent) (episode : j.episodeID = none)
    (run : j.runID = none) (jobs : JobTable) :
    insertJob? jobs j = jobs.insert? j := by
  simp [insertJob?, Table.any, Clash, VersionClash, ActiveClash, SameValue, event, episode, run]

theorem enqueueJobTx_fix (fix : j.jobType = .fix) (episode : j.episodeID = none)
    (run : j.runID = none) (jobs : JobTable) : enqueueJobTx jobs j = jobs.insertIgnore j := by
  simp [enqueueJobTx, Table.any, not_clash_fix fix episode run]

theorem mem_enqueueJobTx {jobs : JobTable} {j k : Job} (member : k ∈ (enqueueJobTx jobs j).rows) :
    k ∈ jobs.rows ∨ k = j := by
  unfold enqueueJobTx at member
  split at member
  · exact Or.inl member
  · exact Table.mem_insertIgnore member

theorem mem_enqueueJobTx_of_mem {jobs : JobTable} (j : Job) {k : Job} (member : k ∈ jobs.rows) :
    k ∈ (enqueueJobTx jobs j).rows := by
  unfold enqueueJobTx
  split
  · exact member
  · exact Table.mem_insertIgnore_of_mem j member

end Opslane.Jobs
