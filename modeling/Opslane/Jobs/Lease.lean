import Opslane.Jobs.Queue
import Opslane.Lib.Fence

/-!
# Fenced job leases

Read as a fencing token, a job's row is a generation and, while the job is claimed, the
worker that holds it. Only `claimJob` raises the generation, and only of a job nobody
holds; every other operation keeps the token or drops its holder. An execution whose
lease ended is therefore refused by every fence from then on, however late its worker
wakes up and whatever clock it reads.
-/

namespace Opslane.Jobs

/-- One transaction on the queue. -/
inductive Action where
  | enqueue (id projectID : UUID) (jobType : JobType) (columns : JobColumns)
      (availableAt now : Timestamp)
  | claimJob (workerID : String) (leaseDurationMs : Int) (caps : ClaimCaps) (locked : List UUID)
      (now : Timestamp)
  | heartbeat (jobID : UUID) (workerID : String) (leaseGeneration : Nat) (leaseDurationMs : Int)
      (now : Timestamp)
  | rescheduleJob (lease : JobLease) (availableAt : Timestamp) (payload : Option Json)
      (now : Timestamp)
  | completeJob (jobID : UUID) (workerID : String) (leaseGeneration : Nat) (now : Timestamp)
  | failJob (jobID : UUID) (workerID : String) (leaseGeneration : Nat) (error : String)
      (options : FailOptions) (jitter : Nat) (now clock : Timestamp)
  | requeueStaleJobs (candidateIDs : List UUID) (jitter : UUID → Nat) (now : Timestamp)
  | requeueDeadLetters (trigger : RequeueTrigger) (locked : List UUID) (now : Timestamp)

def step (jobs : JobTable) : Action → JobTable
  | .enqueue id projectID jobType columns availableAt now =>
    (jobs.insert? (Job.new id projectID jobType columns availableAt now)).getD jobs
  | .claimJob workerID leaseDurationMs caps locked now =>
    (Jobs.claimJob jobs workerID leaseDurationMs caps locked now).1
  | .heartbeat jobID workerID leaseGeneration leaseDurationMs now =>
    (Jobs.heartbeat jobs jobID workerID leaseGeneration leaseDurationMs now).1
  | .rescheduleJob lease availableAt payload now =>
    match Jobs.rescheduleJob jobs lease availableAt payload now with
    | .ok rescheduled => rescheduled
    | .error _ => jobs
  | .completeJob jobID workerID leaseGeneration now =>
    (Jobs.completeJob jobs jobID workerID leaseGeneration now).1
  | .failJob jobID workerID leaseGeneration error options jitter now clock =>
    (Jobs.failJob jobs jobID workerID leaseGeneration error options jitter now clock).1
  | .requeueStaleJobs candidateIDs jitter now =>
    (Jobs.requeueStaleJobs jobs candidateIDs jitter now).1
  | .requeueDeadLetters trigger locked now => Jobs.requeueDeadLetters jobs trigger locked now

def machine : Transition.Machine JobTable Action := ⟨step⟩

/-- The generation of a job, and its worker while the job is claimed. -/
def Job.token (j : Job) : Fence.Lease String :=
  ⟨j.leaseGeneration, if j.status = .claimed then j.workerID else none⟩

theorem token_release {j j' : Job} (generation : j'.leaseGeneration = j.leaseGeneration)
    (unclaimed : j'.status ≠ .claimed) : Fence.Step j.token j'.token := by
  have token : j'.token = ⟨j.token.generation, none⟩ := by
    simp [Job.token, generation, unclaimed]
  rw [token]
  exact .release j.token

/-- Every job is still there, one step of its token later. -/
def Steps (before after : JobTable) : Prop :=
  ∀ id j, before.find? id = some j → ∃ j', after.find? id = some j' ∧ Fence.Step j.token j'.token

theorem steps_refl (jobs : JobTable) : Steps jobs jobs :=
  fun _ j found => ⟨j, found, .keep j.token⟩

theorem steps_updateWhere (jobs : JobTable) (p : Job → Bool) (f : Job → Job)
    (frame : ∀ j, (f j).id = j.id) (moves : ∀ j, p j → Fence.Step j.token (f j).token) :
    Steps jobs (jobs.updateWhere p f frame) := by
  intro id j found
  refine ⟨_, by rw [Table.find?_updateWhere, found, Option.map_some], ?_⟩
  split
  · rename_i selected
    exact moves j selected
  · exact .keep j.token

variable {jobs : JobTable} {now : Timestamp}

theorem candidate_spec {caps : ClaimCaps} {locked : List UUID} {j : Job}
    (found : candidate jobs caps locked now = some j) :
    jobs.find? j.id = some j ∧ j.status = .pending := by
  have member := List.mem_of_find?_eq_some found
  obtain ⟨present, eligible⟩ := (jobs.mem_select _ j).mp member
  simp only [Eligible, decide_eq_true_eq] at eligible
  exact ⟨present, eligible.1.1⟩

theorem fail_token (error : String) (options : FailOptions) (jitter : Nat) (now : Timestamp)
    (j : Job) : Fence.Step j.token (fail error options jitter now j).token := by
  unfold fail
  split <;> exact token_release rfl (by simp [deadLetter, retry, release])

theorem reap_token (jitter : Nat) (now : Timestamp) (j : Job) :
    Fence.Step j.token (reap jitter now j).token := by
  unfold reap
  split <;> exact token_release rfl (by simp [deadLetter, retry, release])

theorem steps_step (jobs : JobTable) (a : Action) : Steps jobs (step jobs a) := by
  cases a with
  | enqueue id projectID jobType columns availableAt now =>
    intro k j found
    rw [step]
    cases inserted : jobs.insert? (Job.new id projectID jobType columns availableAt now) with
    | none => exact ⟨j, found, .keep j.token⟩
    | some after =>
      have other : k ≠ id := by
        rintro rfl
        have free : jobs.find? k = none := (Table.insert?_spec inserted).1
        rw [found] at free
        cases free
      refine ⟨j, ?_, .keep j.token⟩
      rw [Option.getD_some, Table.find?_insert? inserted, if_neg (by exact other), found]
  | claimJob workerID leaseDurationMs caps locked now =>
    rw [step]
    unfold claimJob
    split
    · exact steps_refl jobs
    · rename_i c chosen
      obtain ⟨present, pending⟩ := candidate_spec chosen
      intro id j found
      by_cases own : id = c.id
      · subst own
        rw [found, Option.some.injEq] at present
        subst present
        refine ⟨claim workerID leaseDurationMs now j, ?_, ?_⟩
        · rw [Table.find?_updateKey, if_pos rfl, found, Option.map_some]
        · have token : (claim workerID leaseDurationMs now j).token =
              ⟨j.token.generation + 1, some workerID⟩ := by simp [Job.token, claim]
          rw [token]
          exact .acquire j.token workerID (by simp [Job.token, pending])
      · exact ⟨j, by rw [Table.find?_updateKey, if_neg own, found], .keep j.token⟩
  | heartbeat jobID workerID leaseGeneration leaseDurationMs now =>
    exact steps_updateWhere jobs _ (extendLease leaseDurationMs now) (fun _ => rfl)
      fun j _ => .keep j.token
  | rescheduleJob lease availableAt payload now =>
    rw [step]
    unfold rescheduleJob
    dsimp only
    split
    · rename_i rescheduled eq
      split at eq
      · cases eq
        exact steps_updateWhere jobs _ (reschedule availableAt payload) (fun _ => rfl)
          fun j _ => token_release rfl (by simp [reschedule, release])
      · cases eq
    · exact steps_refl jobs
  | completeJob jobID workerID leaseGeneration now =>
    exact steps_updateWhere jobs _ complete (fun _ => rfl)
      fun j _ => token_release rfl (by simp [complete])
  | failJob jobID workerID leaseGeneration error options jitter now clock =>
    exact steps_updateWhere jobs _ _ (fail_id error options jitter now)
      fun j _ => fail_token error options jitter now j
  | requeueStaleJobs candidateIDs jitter now =>
    exact steps_updateWhere jobs _ _ (fun j => reap_id (jitter j.id) now j)
      fun j _ => reap_token (jitter j.id) now j
  | requeueDeadLetters trigger locked now =>
    exact steps_updateWhere jobs _ (requeue now) (fun _ => rfl)
      fun j _ => token_release rfl (by simp [requeue, release])

theorem steps_run (jobs : JobTable) (actions : List Action) {id : UUID} {j : Job}
    (found : jobs.find? id = some j) :
    ∃ j', (machine.run jobs actions).find? id = some j' ∧
      Relation.ReflTransGen Fence.Step j.token j'.token := by
  induction actions generalizing jobs j with
  | nil => exact ⟨j, found, .refl⟩
  | cons a rest ih =>
    obtain ⟨mid, foundMid, first⟩ := steps_step jobs a id j found
    obtain ⟨j', found', others⟩ := ih (step jobs a) foundMid
    exact ⟨j', found', .head first others⟩

/-- A write under this execution's fence goes through, at some reading of the clock. -/
inductive Succeeds (jobs : JobTable) (id : UUID) (workerID : String) (leaseGeneration : Nat) :
    Prop where
  | heartbeat (leaseDurationMs : Int) (now : Timestamp)
      (extended : (Jobs.heartbeat jobs id workerID leaseGeneration leaseDurationMs now).2 = true)
  | complete (now : Timestamp)
      (completed : (Jobs.completeJob jobs id workerID leaseGeneration now).2 = true)
  | fail (error : String) (options : FailOptions) (jitter : Nat) (now clock : Timestamp)
      (failed : (Jobs.failJob jobs id workerID leaseGeneration error options jitter now
        clock).2 = true)
  | reschedule (lease : JobLease) (availableAt : Timestamp) (payload : Option Json)
      (now : Timestamp) (own : lease.id = id ∧ lease.workerID = workerID ∧
        lease.leaseGeneration = leaseGeneration)
      (rescheduled : (Jobs.rescheduleJob jobs lease availableAt payload now).isOk)

variable {leaseGeneration : Nat} {workerID : String}

theorem holds_of_owned {id : UUID} {j : Job} (member : j ∈ jobs.rows)
    (owned : j.Owned id workerID leaseGeneration now) :
    ∃ j, jobs.find? id = some j ∧ Fence.Holds j.token workerID leaseGeneration := by
  obtain ⟨rfl, worker, generation, claimed, -⟩ := owned
  refine ⟨j, jobs.find?_key member, ?_, generation⟩
  simp [Job.token, claimed, worker]

theorem holds_of_any {id : UUID} {p : Job → Bool}
    (owns : ∀ j, p j → j.Owned id workerID leaseGeneration now) (changed : jobs.any p = true) :
    ∃ j, jobs.find? id = some j ∧ Fence.Holds j.token workerID leaseGeneration := by
  obtain ⟨j, member, selected⟩ := List.any_eq_true.mp changed
  exact holds_of_owned member (owns j selected)

theorem isOk_rescheduleJob {lease : JobLease} {availableAt : Timestamp} {payload : Option Json}
    (rescheduled : (rescheduleJob jobs lease availableAt payload now).isOk) :
    ∃ j, jobs.find? lease.id = some j ∧
      Fence.Holds j.token lease.workerID lease.leaseGeneration := by
  unfold rescheduleJob at rescheduled
  dsimp only at rescheduled
  split at rescheduled
  · rename_i changed
    exact holds_of_any (fun j selected => (of_decide_eq_true selected).1) changed
  · cases rescheduled

theorem Succeeds.holds {id : UUID} (succeeds : Succeeds jobs id workerID leaseGeneration) :
    ∃ j, jobs.find? id = some j ∧ Fence.Holds j.token workerID leaseGeneration := by
  cases succeeds with
  | heartbeat leaseDurationMs now extended =>
    exact holds_of_any (fun j selected => of_decide_eq_true selected) extended
  | complete now completed =>
    exact holds_of_any (fun j selected => of_decide_eq_true selected) completed
  | fail error options jitter now clock failed =>
    exact holds_of_any (fun j selected => of_decide_eq_true selected) failed
  | reschedule lease availableAt payload now own rescheduled =>
    obtain ⟨rfl, rfl, rfl⟩ := own
    exact isOk_rescheduleJob rescheduled

/-- The ways an execution's lease ends: the job is claimed again, the execution returns
it, finishes it or fails it, or the reaper takes it. -/
inductive Ended (jobs : JobTable) (id : UUID) (generation : Nat) : Action → Prop where
  | reclaimed (workerID : String) (leaseDurationMs : Int) (caps : ClaimCaps) (locked : List UUID)
      (now : Timestamp) (j claimed : Job) (found : jobs.find? id = some j)
      (later : generation ≤ j.leaseGeneration)
      (returned : (claimJob jobs workerID leaseDurationMs caps locked now).2 = some claimed)
      (own : claimed.id = id) : Ended jobs id generation
        (.claimJob workerID leaseDurationMs caps locked now)
  | rescheduled (lease : JobLease) (availableAt : Timestamp) (payload : Option Json)
      (now : Timestamp) (own : lease.id = id ∧ lease.leaseGeneration = generation)
      (returned : (rescheduleJob jobs lease availableAt payload now).isOk) :
      Ended jobs id generation (.rescheduleJob lease availableAt payload now)
  | completed (workerID : String) (now : Timestamp)
      (returned : (completeJob jobs id workerID generation now).2 = true) :
      Ended jobs id generation (.completeJob id workerID generation now)
  | failed (workerID : String) (error : String) (options : FailOptions) (jitter : Nat)
      (now clock : Timestamp)
      (returned : (failJob jobs id workerID generation error options jitter now clock).2 = true) :
      Ended jobs id generation (.failJob id workerID generation error options jitter now clock)
  | reaped (candidateIDs : List UUID) (jitter : UUID → Nat) (now : Timestamp) (j : Job)
      (returned : j ∈ (requeueStaleJobs jobs candidateIDs jitter now).2)
      (own : j.id = id ∧ j.leaseGeneration = generation) :
      Ended jobs id generation (.requeueStaleJobs candidateIDs jitter now)

theorem Ended.spends {id : UUID} {generation : Nat} {a : Action}
    (ended : Ended jobs id generation a) :
    ∃ j, (step jobs a).find? id = some j ∧ Fence.Spent j.token generation := by
  -- a fence that let the write through was held, and the write dropped the holder
  have dropped : ∀ (p : Job → Bool) (f : Job → Job) (frame : ∀ j, (f j).id = j.id),
      (∀ j, (f j).leaseGeneration = j.leaseGeneration ∧ (f j).status ≠ .claimed) →
      ∀ j ∈ jobs.rows, p j → j.id = id → j.leaseGeneration = generation →
      ∃ j', (jobs.updateWhere p f frame).find? id = some j' ∧ Fence.Spent j'.token generation := by
    intro p f frame drops j member selected own same
    have found := jobs.find?_key member
    rw [own] at found
    refine ⟨f j, ?_, Or.inr ⟨?_, ?_⟩⟩
    · rw [Table.find?_updateWhere, found, Option.map_some, if_pos selected]
    · exact same.symm.trans (drops j).1.symm
    · simp [Job.token, (drops j).2]
  cases ended with
  | reclaimed workerID leaseDurationMs caps locked now j claimed found later returned own =>
    rw [step]
    unfold claimJob at returned ⊢
    split at returned
    · cases returned
    · rename_i c chosen
      simp only [Option.some.injEq] at returned
      subst returned
      have same : c.id = id := own
      obtain ⟨present, -⟩ := candidate_spec chosen
      rw [same, found, Option.some.injEq] at present
      subst present
      refine ⟨claim workerID leaseDurationMs now j, ?_, Or.inl (Nat.lt_succ_of_le later)⟩
      rw [Table.find?_updateKey, if_pos same.symm, same, found, Option.map_some]
  | rescheduled lease availableAt payload now own returned =>
    rw [step]
    unfold rescheduleJob at returned ⊢
    dsimp only at returned ⊢
    split at returned
    · rename_i changed
      obtain ⟨j, member, selected⟩ := List.any_eq_true.mp changed
      obtain ⟨⟨key, -, generation', -⟩, -⟩ := of_decide_eq_true selected
      rw [if_pos changed]
      exact dropped _ (reschedule availableAt payload) (fun _ => rfl)
        (fun j => ⟨rfl, by simp [reschedule, release]⟩) j member selected (key.trans own.1)
        (generation'.trans own.2)
    · cases returned
  | completed workerID now returned =>
    obtain ⟨j, member, selected⟩ := List.any_eq_true.mp returned
    obtain ⟨key, -, generation', -⟩ := of_decide_eq_true selected
    exact dropped _ complete (fun _ => rfl) (fun j => ⟨rfl, by simp [complete]⟩) j member selected
      key generation'
  | failed workerID error options jitter now clock returned =>
    obtain ⟨j, member, selected⟩ := List.any_eq_true.mp returned
    obtain ⟨key, -, generation', -⟩ := of_decide_eq_true selected
    refine dropped _ (fail error options jitter now) (fail_id error options jitter now)
      (fun j => ?_) j member selected key generation'
    unfold fail
    split <;> exact ⟨rfl, by simp [deadLetter, retry, release]⟩
  | reaped candidateIDs jitter now j returned own =>
    obtain ⟨old, selected, rfl⟩ := List.mem_map.mp returned
    obtain ⟨found, stale⟩ := (jobs.mem_select _ old).mp selected
    have keeps : ∀ j : Job, (reap (jitter j.id) now j).leaseGeneration = j.leaseGeneration ∧
        (reap (jitter j.id) now j).status ≠ .claimed := by
      intro j
      unfold reap
      split <;> exact ⟨rfl, by simp [deadLetter, retry, release]⟩
    exact dropped _ (fun j => reap (jitter j.id) now j) (fun j => reap_id (jitter j.id) now j) keeps
      old (Table.mem_of_find? found) stale ((reap_id (jitter old.id) now old).symm.trans own.1)
      ((keeps old).1.symm.trans own.2)

/-- What the fence promises of every run that starts from these rows. -/
structure FencedLeases (jobs : JobTable) : Prop where
  /-- Generations never decrease. -/
  monotone : ∀ before after id j, (machine.run jobs before).find? id = some j →
    ∃ j', (machine.run jobs (before ++ after)).find? id = some j' ∧
      j.leaseGeneration ≤ j'.leaseGeneration
  /-- And increase at each claim. -/
  increases : ∀ before workerID leaseDurationMs caps locked now claimed,
    (claimJob (machine.run jobs before) workerID leaseDurationMs caps locked now).2 =
      some claimed →
    ∃ j, (machine.run jobs before).find? claimed.id = some j ∧
      (machine.run jobs (before ++
        [Action.claimJob workerID leaseDurationMs caps locked now])).find? claimed.id = some claimed ∧
      claimed.leaseGeneration = j.leaseGeneration + 1 ∧ claimed.workerID = some workerID
  /-- One execution at a time passes the fences. -/
  exclusive : ∀ before id w₁ g₁ w₂ g₂, Succeeds (machine.run jobs before) id w₁ g₁ →
    Succeeds (machine.run jobs before) id w₂ g₂ → w₁ = w₂ ∧ g₁ = g₂
  /-- An execution whose lease ended never passes one again. -/
  fenced : ∀ before a after id generation, Ended (machine.run jobs before) id generation a →
    ∀ workerID, ¬Succeeds (machine.run jobs (before ++ a :: after)) id workerID generation

theorem fenced_leases (jobs : JobTable) : FencedLeases jobs := by
  refine ⟨?_, ?_, ?_, ?_⟩
  · intro before after id j found
    rw [machine.run_append]
    obtain ⟨j', found', steps⟩ := steps_run (machine.run jobs before) after found
    exact ⟨j', found', Fence.generation_le_of_steps steps⟩
  · intro before workerID leaseDurationMs caps locked now claimed returned
    rw [machine.run_append]
    generalize machine.run jobs before = s at returned ⊢
    rw [Transition.Machine.run_cons, Transition.Machine.run_nil]
    show ∃ j, s.find? claimed.id = some j ∧
      (Jobs.claimJob s workerID leaseDurationMs caps locked now).1.find? claimed.id =
        some claimed ∧ _
    unfold claimJob at returned ⊢
    split at returned
    · cases returned
    · rename_i c chosen
      simp only [Option.some.injEq] at returned
      subst returned
      obtain ⟨present, -⟩ := candidate_spec chosen
      refine ⟨c, present, ?_, rfl, rfl⟩
      rw [Table.find?_updateKey, if_pos (claim_id workerID leaseDurationMs now c), present,
        Option.map_some]
  · intro before id w₁ g₁ w₂ g₂ first second
    obtain ⟨j, found, holds⟩ := first.holds
    obtain ⟨j', found', holds'⟩ := second.holds
    rw [found, Option.some.injEq] at found'
    subst found'
    exact holds.unique holds'
  · intro before a after id generation ended workerID succeeds
    obtain ⟨j, found, spent⟩ := ended.spends
    rw [machine.run_append, Transition.Machine.run_cons] at succeeds
    obtain ⟨j', found', steps⟩ := steps_run _ after found
    obtain ⟨held, foundHeld, holds⟩ := succeeds.holds
    have same : held = j' := Option.some.inj (foundHeld.symm.trans found')
    exact (spent.steps steps).not_holds workerID (same ▸ holds)

end Opslane.Jobs
