import Opslane.Delivery.GroupStatus
import Opslane.Jobs.Lease

/-!
# Crash recovery of a fix job

The commit of a delivery and the completion of its job are two transactions. A crash
between them leaves a claimed job; the reaper requeues it, and the execution that claims
it next adopts the delivery by the issue's `terminal_fix_job_id`. A reaper that finds
the job out of attempts dead-letters it instead and, after its own commit, writes the
issue without looking at that column.
-/

namespace Opslane.Delivery

open Jobs
open Transition (committed committed_eq)

/-- The queue, the issues of one project, and what the processes still remember: the
rows a reaper dead-lettered whose issue it has yet to write. `delivered` records the
deliveries that committed, as job and issue. -/
structure Recovery where
  projectID : UUID
  jobs : JobTable
  groups : Table ErrorGroup.id
  abandoned : List Job
  delivered : List (UUID × UUID)

def Recovery.start (projectID : UUID) (jobs : JobTable) (groups : Table ErrorGroup.id) :
    Recovery :=
  ⟨projectID, jobs, groups, [], []⟩

/-- A dead letter whose issue the reaper terminates: a fix job that names one. -/
def TerminatesIssue (j : Job) : Prop :=
  j.status = .deadLetter ∧ (j.jobType = .fix ∨ j.jobType = .errorFix) ∧ j.errorGroupID.isSome
  deriving Decidable

def leaseLostReason : NeedsHumanReason where
  reasonCode := "lease_lost"
  reasonMessage :=
    "The fix job exceeded its retry limit (repeated lease expiry) and was abandoned."
  remediation :=
    "Re-run the fix from the incident, or review manually — the worker could not hold a lease " ++
      "long enough to finish."

/-- What the reaper writes to the issue of an abandoned job. -/
def abandonedFields (j : Job) : StatusFields :=
  { StatusFields.none with reason := some leaseLostReason, terminalFixJobID := some j.id }

/-- The reaper's `updateGroupStatus`, run after its commit and without a lease. A job of
a ticket fails its attempt and leaves the issue to the ticket. -/
def terminateAbandoned (s : Recovery) (j : Job) (now : Timestamp) : Recovery :=
  if j ∈ s.abandoned then
    { s with
      abandoned := s.abandoned.erase j
      groups := if j.ticketID.isSome ∨ j.projectID ≠ s.projectID then s.groups
        else s.groups.updateWhere (fun g => j.errorGroupID = some g.id)
          (writeStatus .needsHuman (abandonedFields j) now)
          (writeStatus_id .needsHuman (abandonedFields j) now) }
  else s

/-- The execution owns the job, and the job works on this issue. -/
def OwnsFix (s : Recovery) (lease : JobLease) (groupID : UUID) (now : Timestamp) : Prop :=
  (s.jobs.find? lease.id).any fun j => j.Owned lease.id lease.workerID lease.leaseGeneration now ∧
    j.projectID = s.projectID ∧ j.errorGroupID = some groupID
  deriving Decidable

/-- The `ci_watch` row an insert would add: the uuid it draws and its JSON payload (the
pull request, its head and the start of the watch). -/
structure Watch where
  id : UUID
  payload : Json
  deriving DecidableEq

/-- A draft gets a watcher, unless one is live. -/
def watchDraft (jobs : JobTable) (projectID groupID : UUID) (draft : Bool) (watch : Watch)
    (now : Timestamp) : JobTable :=
  if draft ∧ ¬jobs.any (fun j => j.errorGroupID = some groupID ∧ j.projectID = projectID ∧
      j.jobType = .ciWatch ∧ (j.status = .pending ∨ j.status = .claimed)) then
    (jobs.insert? (Job.new watch.id projectID .ciWatch
      { errorGroupID := some groupID, payload := some watch.payload } now now)).getD jobs
  else jobs

/-- `finalizeDelivery` under its lease. -/
def finalizeDelivery (s : Recovery) (groupID : UUID) (input : DeliveryInput) (lease : JobLease)
    (watch : Watch) (now : Timestamp) : Except String Recovery :=
  if ¬OwnsFix s lease groupID now then .error ("Job lease lost for " ++ toString lease.id)
  else
    match s.groups.find? groupID with
    | none => .error ("Cannot finalize delivery for group " ++ toString groupID)
    | some g =>
      if ¬Deliverable g then .error ("Cannot finalize delivery for group " ++ toString groupID)
      else .ok { s with
        groups := s.groups.updateKey groupID (deliver input now) (deliver_id input now)
        jobs := watchDraft s.jobs s.projectID groupID input.draft watch now
        delivered := (lease.id, groupID) :: s.delivered }

/-- The job belongs to a ticket of the project, which `attemptFailed` then fails. -/
def FailsTicket (s : Recovery) (jobID : UUID) : Prop :=
  (s.jobs.find? jobID).any fun j => j.ticketID.isSome ∧ j.projectID = s.projectID
  deriving Decidable

/-- The failure handler of a fix job: `updateGroupStatus` to `needs_human` under the
lease. -/
def failFix (s : Recovery) (groupID : UUID) (fields : StatusFields) (lease : JobLease)
    (now clock : Timestamp) : Except String Recovery := do
  checkStatusFields groupID .needsHuman fields (some lease.id)
  if ¬s.jobs.any (fun j => j.Owned lease.id lease.workerID lease.leaseGeneration clock) then
    .error ("Job lease lost for " ++ toString lease.id)
  else if FailsTicket s lease.id then .ok s
  else if ¬OwnsFix s lease groupID clock then .error ("Job lease lost for " ++ toString lease.id)
  else .ok { s with
    groups := s.groups.updateKey groupID (writeStatus .needsHuman fields now)
      (writeStatus_id .needsHuman fields now) }

theorem finalizeDelivery_spec {s s' : Recovery} {groupID : UUID} {input : DeliveryInput}
    {lease : JobLease} {watch : Watch} {now : Timestamp}
    (success : finalizeDelivery s groupID input lease watch now = .ok s') :
    OwnsFix s lease groupID now ∧ (∃ g, s.groups.find? groupID = some g ∧ Deliverable g) ∧
      s' = { s with
        groups := s.groups.updateKey groupID (deliver input now) (deliver_id input now)
        jobs := watchDraft s.jobs s.projectID groupID input.draft watch now
        delivered := (lease.id, groupID) :: s.delivered } := by
  unfold finalizeDelivery at success
  obtain ⟨owns, success⟩ := Except.of_guard success
  split at success
  · cases success
  · rename_i g found
    obtain ⟨deliverable, success⟩ := Except.of_guard success
    cases success
    exact ⟨not_not.mp owns, ⟨g, found, not_not.mp deliverable⟩, rfl⟩

theorem failFix_spec {s s' : Recovery} {groupID : UUID} {fields : StatusFields} {lease : JobLease}
    {now clock : Timestamp} (success : failFix s groupID fields lease now clock = .ok s') :
    s' = s ∨ (OwnsFix s lease groupID clock ∧ ¬FailsTicket s lease.id ∧
      s' = { s with
        groups := s.groups.updateKey groupID (writeStatus .needsHuman fields now)
          (writeStatus_id .needsHuman fields now) }) := by
  obtain ⟨_, -, success⟩ := Except.of_bind success
  obtain ⟨-, success⟩ := Except.of_guard success
  split at success
  · cases success
    exact Or.inl rfl
  · rename_i own
    obtain ⟨owns, success⟩ := Except.of_guard success
    cases success
    exact Or.inr ⟨not_not.mp owns, own, rfl⟩

namespace Recovery

inductive Action where
  | queue (a : Jobs.Action)
  | terminateAbandoned (j : Job) (now : Timestamp)
  | finalizeDelivery (groupID : UUID) (input : DeliveryInput) (lease : JobLease) (watch : Watch)
      (now : Timestamp)
  | failFix (groupID : UUID) (fields : StatusFields) (lease : JobLease) (now clock : Timestamp)

/-- The rows a queue operation leaves the reaper to terminate after its commit. -/
def abandons (jobs : JobTable) : Jobs.Action → List Job
  | .requeueStaleJobs candidateIDs jitter now =>
    (requeueStaleJobs jobs candidateIDs jitter now).2.filter fun j => TerminatesIssue j
  | _ => []

def step (s : Recovery) : Action → Recovery
  | .queue a =>
    { s with jobs := Jobs.step s.jobs a, abandoned := s.abandoned ++ abandons s.jobs a }
  | .terminateAbandoned j now => Delivery.terminateAbandoned s j now
  | .finalizeDelivery groupID input lease watch now =>
    committed s (Delivery.finalizeDelivery s groupID input lease watch now)
  | .failFix groupID fields lease now clock =>
    committed s (Delivery.failFix s groupID fields lease now clock)

def machine : Transition.Machine Recovery Action := ⟨step⟩

/-- A sweep takes no delivered job on its last attempt, and a failure handler that runs
after its job's delivery committed has lost its lease. A ticket's job is free of both. -/
def LeavesDelivered (s : Recovery) : Action → Prop
  | .queue (.requeueStaleJobs candidateIDs _ now) => ∀ j ∈ s.jobs.rows, j.id ∈ candidateIDs →
    Stale now j → (j.jobType = .fix ∨ j.jobType = .errorFix) → j.ticketID = none →
      j.id ∈ s.delivered.map Prod.fst → j.attempts + 1 < j.maxAttempts
  | .failFix groupID _ lease _ clock => (lease.id, groupID) ∈ s.delivered →
    OwnsFix s lease groupID clock → FailsTicket s lease.id
  | _ => True

instance (s : Recovery) (a : Action) : Decidable (LeavesDelivered s a) :=
  match a with
  | .queue (.requeueStaleJobs ..) => inferInstanceAs (Decidable (∀ j ∈ s.jobs.rows, _))
  | .failFix .. => inferInstanceAs (Decidable (_ → _))
  | .queue (.enqueue ..) | .queue (.claimJob ..) | .queue (.heartbeat ..)
  | .queue (.rescheduleJob ..) | .queue (.completeJob ..) | .queue (.failJob ..)
  | .queue (.requeueDeadLetters ..) | .terminateAbandoned .. | .finalizeDelivery .. =>
    isTrue trivial

/-- A fix job that is dead is never replayed: no operation of the queue touches its row. -/
def DeadFix (j : Job) : Prop :=
  j.status = .deadLetter ∧ (j.jobType = .fix ∨ j.jobType = .errorFix)

theorem find?_insert?_getD {jobs : JobTable} {id : UUID} {j fresh : Job}
    (found : jobs.find? id = some j) : ((jobs.insert? fresh).getD jobs).find? id = some j := by
  cases inserted : jobs.insert? fresh with
  | none => exact found
  | some after =>
    rw [Option.getD_some, Table.find?_insert? inserted]
    split
    · rename_i same
      rw [same, (Table.insert?_spec inserted).1] at found
      cases found
    · exact found

theorem DeadFix.step {jobs : JobTable} {id : UUID} {j : Job} (dead : DeadFix j)
    (found : jobs.find? id = some j) (a : Jobs.Action) :
    (Jobs.step jobs a).find? id = some j := by
  obtain ⟨status, jobType⟩ := dead
  have skip : ∀ (p : Job → Bool) (f : Job → Job) (frame : ∀ j, (f j).id = j.id),
      p j = false → (jobs.updateWhere p f frame).find? id = some j := by
    intro p f frame unselected
    rw [Table.find?_updateWhere, found, Option.map_some, if_neg (by simp [unselected])]
  have unowned : ∀ id workerID generation now, ¬j.Owned id workerID generation now := by
    rintro _ _ _ _ ⟨-, -, -, claimed, -⟩
    rw [status] at claimed
    cases claimed
  cases a with
  | enqueue => exact find?_insert?_getD found
  | claimJob workerID leaseDurationMs caps locked now =>
    rw [Jobs.step]
    unfold claimJob
    split
    · exact found
    · rename_i c chosen
      obtain ⟨present, pending⟩ := candidate_spec chosen
      rw [Table.find?_updateKey, if_neg, found]
      rintro rfl
      rw [found, Option.some.injEq] at present
      rw [← present, status] at pending
      cases pending
  | heartbeat jobID workerID generation leaseDurationMs now =>
    exact skip _ (extendLease leaseDurationMs now) (fun _ => rfl) (decide_eq_false (unowned _ _ _ _))
  | rescheduleJob lease availableAt payload now =>
    rw [Jobs.step]
    unfold rescheduleJob
    dsimp only
    split
    · rename_i rescheduled eq
      split at eq
      · cases eq
        exact skip _ (reschedule availableAt payload) (fun _ => rfl)
          (decide_eq_false fun owns => unowned _ _ _ _ owns.1)
      · cases eq
    · exact found
  | completeJob jobID workerID generation now =>
    exact skip _ complete (fun _ => rfl) (decide_eq_false (unowned _ _ _ _))
  | failJob jobID workerID generation error options jitter now clock =>
    exact skip _ _ (fail_id error options jitter now) (decide_eq_false (unowned _ _ _ _))
  | requeueStaleJobs candidateIDs jitter now =>
    refine skip _ _ (fun j => reap_id (jitter j.id) now j) (decide_eq_false ?_)
    rintro ⟨-, claimed, -⟩
    rw [status] at claimed
    cases claimed
  | requeueDeadLetters trigger locked now =>
    refine skip _ (requeue now) (fun _ => rfl) (decide_eq_false ?_)
    rintro ⟨due, -⟩
    simp only [Due, decide_eq_true_eq] at due
    obtain ⟨-, replayed, -⟩ := due
    rcases jobType with fix | fix <;> rw [fix] at replayed <;> simp at replayed

/-- The rows the reapers remember are dead fix jobs, and none of them delivered unless
it belongs to a ticket. -/
def Undelivered (s : Recovery) : Prop :=
  ∀ j ∈ s.abandoned, (∃ row, s.jobs.find? j.id = some row ∧ DeadFix row) ∧
    (j.ticketID = none → j.id ∉ s.delivered.map Prod.fst)

variable {s : Recovery}

theorem undelivered_queue (inv : Undelivered s) (a : Jobs.Action)
    (guard : LeavesDelivered s (.queue a)) : Undelivered (step s (.queue a)) := by
  intro j member
  simp only [step, List.mem_append] at member ⊢
  rcases member with old | new
  · obtain ⟨⟨row, found, dead⟩, undelivered⟩ := inv j old
    exact ⟨⟨row, dead.step found a, dead⟩, undelivered⟩
  · cases a with
    | requeueStaleJobs candidateIDs jitter now =>
      obtain ⟨reaped, terminates⟩ := List.mem_filter.mp new
      obtain ⟨status, jobType, -⟩ := of_decide_eq_true terminates
      obtain ⟨old, selected, rfl⟩ := List.mem_map.mp reaped
      obtain ⟨found, stale⟩ := (s.jobs.mem_select _ old).mp selected
      obtain ⟨candidate, stale'⟩ := of_decide_eq_true stale
      have id : (reap (jitter old.id) now old).id = old.id := reap_id (jitter old.id) now old
      have type : (reap (jitter old.id) now old).jobType = old.jobType := by
        unfold reap
        split <;> rfl
      have ticket : (reap (jitter old.id) now old).ticketID = old.ticketID := by
        unfold reap
        split <;> rfl
      refine ⟨⟨reap (jitter old.id) now old, ?_, status, jobType⟩, fun own delivered => ?_⟩
      · rw [id]
        show (Jobs.requeueStaleJobs s.jobs candidateIDs jitter now).1.find? old.id = _
        rw [requeueStaleJobs, Table.find?_updateWhere, found, Option.map_some, if_pos stale]
      · -- on its last attempt the guard forbids the sweep; before it the job is pending
        rw [id] at delivered
        have attempts := guard old (Table.mem_of_find? found) candidate stale' (type ▸ jobType)
          (ticket ▸ own) delivered
        rw [reap, if_neg (by omega)] at status
        cases status
    | enqueue | claimJob | heartbeat | rescheduleJob | completeJob | failJob | requeueDeadLetters =>
      cases new

theorem undelivered_step (inv : Undelivered s) (a : Action) (guard : LeavesDelivered s a) :
    Undelivered (step s a) := by
  cases a with
  | queue a => exact undelivered_queue inv a guard
  | terminateAbandoned j now =>
    rw [step]
    unfold terminateAbandoned
    split
    · intro k member
      exact inv k (List.mem_of_mem_erase member)
    · exact inv
  | finalizeDelivery groupID input lease watch now =>
    rcases committed_eq s (Delivery.finalizeDelivery s groupID input lease watch now)
      with same | success
    · rw [step, same]
      exact inv
    · obtain ⟨owns, -, after⟩ := finalizeDelivery_spec success
      rw [step, after]
      intro j member
      obtain ⟨⟨row, found, dead⟩, undelivered⟩ := inv j member
      refine ⟨⟨row, ?_, dead⟩, ?_⟩
      · show (watchDraft s.jobs s.projectID groupID input.draft watch now).find? j.id = some row
        unfold watchDraft
        split
        · exact find?_insert?_getD found
        · exact found
      · -- the delivering job holds a lease, so it is not dead
        rw [List.map_cons, List.mem_cons, not_or]
        refine fun ticket => ⟨fun same => ?_, undelivered ticket⟩
        have own : lease.id = j.id := same.symm
        rw [OwnsFix, own, found, Option.any_some] at owns
        obtain ⟨⟨-, -, -, claimed, -⟩, -⟩ := of_decide_eq_true owns
        rw [dead.1] at claimed
        cases claimed
  | failFix groupID fields lease now clock =>
    rcases committed_eq s (Delivery.failFix s groupID fields lease now clock) with same | success
    · rw [step, same]
      exact inv
    · rw [step]
      rcases failFix_spec success with after | ⟨-, -, after⟩ <;> rw [after] <;> exact inv

theorem delivered_step (s : Recovery) (a : Action) {d : UUID × UUID} (member : d ∈ s.delivered) :
    d ∈ (step s a).delivered := by
  cases a with
  | queue a => exact member
  | terminateAbandoned j now =>
    rw [step]
    unfold terminateAbandoned
    split <;> exact member
  | finalizeDelivery groupID input lease watch now =>
    rcases committed_eq s (Delivery.finalizeDelivery s groupID input lease watch now)
      with same | success
    · rw [step, same]
      exact member
    · obtain ⟨-, -, after⟩ := finalizeDelivery_spec success
      rw [step, after]
      exact List.mem_cons_of_mem _ member
  | failFix groupID fields lease now clock =>
    rcases committed_eq s (Delivery.failFix s groupID fields lease now clock) with same | success
    · rw [step, same]
      exact member
    · rw [step]
      rcases failFix_spec success with after | ⟨-, -, after⟩ <;> rw [after] <;> exact member

theorem delivered_run (s : Recovery) (actions : List Action) {d : UUID × UUID}
    (member : d ∈ s.delivered) : d ∈ (machine.run s actions).delivered :=
  machine.invariant_run (fun s => d ∈ s.delivered) (fun s a => delivered_step s a) member actions

theorem undelivered_run (start : Undelivered s) {actions : List Action}
    (guarded : machine.Guarded LeavesDelivered s actions) : Undelivered (machine.run s actions) :=
  machine.invariant_guarded Undelivered (fun _ a inv guard => undelivered_step inv a guard) start
    guarded

/-- The reaper's write or the failure handler of one job, for one issue. -/
def Fails (jobID groupID : UUID) : Action → Prop
  | .terminateAbandoned j _ => j.id = jobID ∧ j.errorGroupID = some groupID
  | .failFix target _ lease _ _ => lease.id = jobID ∧ target = groupID
  | _ => False

/-- Once a job's delivery for an issue committed, no later failure of that job changes
the issue's row. -/
def DeliverySurvives (s : Recovery) (actions : List Action) : Prop :=
  ∀ before groupID input lease watch now mid a after,
    actions = before ++ Action.finalizeDelivery groupID input lease watch now :: mid ++ a :: after →
    (Delivery.finalizeDelivery (machine.run s before) groupID input lease watch now).isOk →
    Fails lease.id groupID a →
    (machine.run s (before ++ Action.finalizeDelivery groupID input lease watch now :: mid ++
        [a])).groups.find? groupID =
      (machine.run s (before ++ Action.finalizeDelivery groupID input lease watch now :: mid)).groups.find?
        groupID

theorem fails_step (inv : Undelivered s) {jobID groupID : UUID} {a : Action}
    (fails : Fails jobID groupID a) (guard : LeavesDelivered s a)
    (delivered : (jobID, groupID) ∈ s.delivered) : (step s a).groups = s.groups := by
  cases a with
  | queue a => exact fails.elim
  | finalizeDelivery groupID input lease watch now => exact fails.elim
  | terminateAbandoned j now =>
    obtain ⟨rfl, -⟩ := fails
    rw [step]
    unfold terminateAbandoned
    split
    · rename_i member
      apply if_pos
      left
      by_contra own
      exact (inv j member).2 (by simpa using own) (List.mem_map.mpr ⟨_, delivered, rfl⟩)
    · rfl
  | failFix target fields lease now clock =>
    obtain ⟨rfl, rfl⟩ := fails
    rcases committed_eq s (Delivery.failFix s target fields lease now clock) with same | success
    · rw [step, same]
    · rw [step]
      rcases failFix_spec success with after | ⟨owns, own, -⟩
      · rw [after]
      · exact absurd (guard delivered owns) own

theorem delivery_survives (projectID : UUID) (jobs : JobTable) (groups : Table ErrorGroup.id)
    (actions : List Action)
    (guarded : machine.Guarded LeavesDelivered (Recovery.start projectID jobs groups) actions) :
    DeliverySurvives (Recovery.start projectID jobs groups) actions := by
  rintro before groupID input lease watch now mid a after rfl committed fails
  obtain ⟨guardedBefore, guard, -⟩ := (machine.guarded_append _ _ _ _).mp guarded
  have inv : Undelivered (Recovery.start projectID jobs groups) := by
    intro j member
    cases member
  have undelivered := undelivered_run inv guardedBefore
  have delivered : (lease.id, groupID) ∈ (machine.run (Recovery.start projectID jobs groups)
      (before ++ Action.finalizeDelivery groupID input lease watch now :: mid)).delivered := by
    rw [machine.run_append, Transition.Machine.run_cons]
    refine delivered_run _ mid ?_
    generalize machine.run (Recovery.start projectID jobs groups) before = s at committed
    show _ ∈ (Transition.committed s
      (Delivery.finalizeDelivery s groupID input lease watch now)).delivered
    cases success : Delivery.finalizeDelivery s groupID input lease watch now with
    | error e => rw [success] at committed; cases committed
    | ok s' =>
      obtain ⟨-, -, rfl⟩ := finalizeDelivery_spec success
      exact List.mem_cons_self
  have same := fails_step undelivered fails guard delivered
  rw [machine.run_append]
  exact congrArg (fun groups => groups.find? groupID) same

def fixing : Recovery :=
  .start 1
    ⟨[Job.new 301 1 .fix { errorGroupID := some 101 } 0 0], by decide⟩
    ⟨[⟨101, 1, .error, "canonical:101", "TypeError: x is undefined", "javascript", .fixing, none,
      none, none, 0, 0, 1, 0, none, none, none, none, none, none, none, none, none, none, none,
      none, none, none⟩], by decide⟩

def pullRequest : DeliveryInput :=
  ⟨false, "https://github.com/acme/app/pull/7", 7, "c0ffee", "high", 301, none, none, none⟩

/-- One execution that dies: a claim with a lease of one second, and the sweep that
finds the lease expired. -/
def crash (now : Timestamp) : List Action :=
  [.queue (.claimJob "worker-1" 1000 {} [] now),
    .queue (.requeueStaleJobs [301] (fun _ => 0) (now + 2000000))]

/-- An execution that delivers and dies before it completes the job. -/
def deliverAndCrash (generation : Nat) (now : Timestamp) : List Action :=
  [.queue (.claimJob "worker-1" 1000 {} [] now),
    .finalizeDelivery 101 pullRequest ⟨301, "worker-1", generation, 1, some 101, none⟩
      ⟨401, .string "c0ffee"⟩ (now + 1),
    .queue (.requeueStaleJobs [301] (fun _ => 0) (now + 2000000))]

/-- Delivered on its second execution, the job is requeued, and its next execution adopts
the delivery. -/
def deliveredOnSecond : List Action :=
  crash 0 ++ deliverAndCrash 2 100000000 ++ [Action.queue (.claimJob "worker-2" 1000 {} [] 400000000),
    .queue (.completeJob 301 "worker-2" 3 400000001)]

theorem delivery_survives_retry :
    machine.Guarded LeavesDelivered fixing deliveredOnSecond ∧
      DeliverySurvives fixing deliveredOnSecond := by
  have guarded : machine.Guarded LeavesDelivered fixing deliveredOnSecond := by decide +kernel
  exact ⟨guarded, delivery_survives _ _ _ _ guarded⟩

def deliveredOnLast : List Action :=
  crash 0 ++ crash 100000000 ++ deliverAndCrash 3 200000000

/-- What the sweep hands to the reaper's write. -/
def abandonedRow : Job :=
  ((machine.run fixing deliveredOnLast).abandoned.head?).getD
    (Job.new 0 0 .fix {} 0 0)

/-- The reaper's write takes the pull request off the issue. -/
theorem delivery_erased :
    ¬DeliverySurvives fixing (deliveredOnLast ++ [Action.terminateAbandoned abandonedRow 300000000]) := by
  intro survives
  have same := survives
    (crash 0 ++ crash 100000000 ++ [Action.queue (.claimJob "worker-1" 1000 {} [] 200000000)]) 101
    pullRequest ⟨301, "worker-1", 3, 1, some 101, none⟩ ⟨401, .string "c0ffee"⟩ 200000001
    [.queue (.requeueStaleJobs [301] (fun _ => 0) 202000000)]
    (.terminateAbandoned abandonedRow 300000000) [] rfl (by decide +kernel)
    ⟨by decide +kernel, by decide +kernel⟩
  exact absurd same (by decide +kernel)

end Recovery

end Opslane.Delivery
