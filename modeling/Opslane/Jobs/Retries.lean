import Opslane.Jobs.DeadLetters

/-!
# Attempts and re-runs

Every failed execution of a job costs an attempt, `failJob` and the reaper alike, and a job
out of attempts is a dead letter. A re-run keeps the attempts, so that each of the few re-runs
adds one to their bound. A dead letter that was made before its attempts were used up, by an
`exhaust`, is left with more than one of them.
-/

namespace Opslane.Jobs

/-- What one transaction may do to a job's counts and status. -/
inductive Changes (j j' : Job) : Prop where
  /-- No attempt is spent. -/
  | keeps (attempts : j'.attempts = j.attempts) (requeues : j'.requeues = j.requeues)
      (status : j'.status = .deadLetter ↔ j.status = .deadLetter)
  /-- An execution failed. -/
  | fails (claimed : j.status = .claimed) (attempts : j'.attempts = j.attempts + 1)
      (requeues : j'.requeues = j.requeues)
      (status : j'.status = .deadLetter ∨ (j'.status = .pending ∧ j'.attempts < j.maxAttempts))
  /-- A dead letter runs again. -/
  | reruns (dead : j.status = .deadLetter) (attempts : j'.attempts = j.attempts)
      (requeues : j'.requeues = j.requeues + 1) (left : j.requeues < maxDeadLetterRequeues)
      (status : j'.status = .pending)

/-- A job before and after one transaction. -/
structure Moves (j j' : Job) : Prop where
  id : j'.id = j.id
  maxAttempts : j'.maxAttempts = j.maxAttempts
  changes : Changes j j'

theorem Moves.refl (j : Job) : Moves j j := ⟨rfl, rfl, .keeps rfl rfl Iff.rfl⟩

variable {j : Job}

theorem moves_fail (error : String) (options : FailOptions) (jitter : Nat) (now : Timestamp)
    (claimed : j.status = .claimed) : Moves j (fail error options jitter now j) := by
  unfold fail
  split
  · exact ⟨rfl, rfl, .fails claimed rfl rfl (Or.inl rfl)⟩
  · rename_i left
    refine ⟨rfl, rfl, .fails claimed rfl rfl (Or.inr ⟨rfl, ?_⟩)⟩
    have more : j.attempts + 1 < j.maxAttempts := by
      by_contra none_
      exact left (Or.inr (by omega))
    exact more

theorem moves_reap (jitter : Nat) (now : Timestamp) (claimed : j.status = .claimed) :
    Moves j (reap jitter now j) := by
  unfold reap
  split
  · exact ⟨rfl, rfl, .fails claimed rfl rfl (Or.inl rfl)⟩
  · rename_i left
    have more : j.attempts + 1 < j.maxAttempts := by omega
    exact ⟨rfl, rfl, .fails claimed rfl rfl (Or.inr ⟨rfl, more⟩)⟩

variable {now : Timestamp} {jobs : JobTable}

theorem moves_requeue {trigger : RequeueTrigger} (due : Due jobs trigger now j = true) :
    Moves j (requeue now j) := by
  simp only [Due, decide_eq_true_eq] at due
  obtain ⟨dead, -, -, left, -, -⟩ := due
  exact ⟨rfl, rfl, .reruns dead rfl rfl left rfl⟩

theorem moves_status {j j' : Job} (id : j'.id = j.id) (maxAttempts : j'.maxAttempts = j.maxAttempts)
    (attempts : j'.attempts = j.attempts) (requeues : j'.requeues = j.requeues)
    (before : j.status ≠ .deadLetter) (after : j'.status ≠ .deadLetter) : Moves j j' :=
  ⟨id, maxAttempts, .keeps attempts requeues ⟨fun dead => absurd dead after,
    fun dead => absurd dead before⟩⟩

/-- Every row of the queue after a transaction is new, or was there. -/
def QueueMoves (before after : JobTable) : Prop :=
  ∀ j' ∈ after.rows, (∃ j ∈ before.rows, Moves j j') ∨
    (before.find? j'.id = none ∧ j'.attempts = 0 ∧ j'.requeues = 0 ∧ 0 < j'.maxAttempts ∧
      j'.status = .pending)

theorem queueMoves_refl (jobs : JobTable) : QueueMoves jobs jobs :=
  fun j member => Or.inl ⟨j, member, .refl j⟩

theorem queueMoves_updateWhere (jobs : JobTable) (p : Job → Bool) (f : Job → Job)
    (frame : ∀ j, (f j).id = j.id) (moves : ∀ j ∈ jobs.rows, p j → Moves j (f j)) :
    QueueMoves jobs (jobs.updateWhere p f frame) := by
  intro j' member
  obtain ⟨j, old, rfl⟩ := (Table.mem_updateWhere jobs p f frame j').mp member
  refine Or.inl ⟨j, old, ?_⟩
  split
  · rename_i chosen
    exact moves j old chosen
  · exact .refl j

variable {leaseGeneration : Nat}

theorem Owned.claimed {id : UUID} {workerID : String}
    (owned : j.Owned id workerID leaseGeneration now) : j.status = .claimed :=
  owned.2.2.2.1

theorem Owned.alive {id : UUID} {workerID : String}
    (owned : j.Owned id workerID leaseGeneration now) : j.status ≠ .deadLetter := by
  rw [Owned.claimed owned]
  decide

theorem queueMoves_claimJob (jobs : JobTable) (workerID : String) (leaseDurationMs : Int)
    (caps : ClaimCaps) (locked : List UUID) (now : Timestamp) :
    QueueMoves jobs (claimJob jobs workerID leaseDurationMs caps locked now).1 := by
  unfold claimJob
  split
  · exact queueMoves_refl jobs
  · rename_i c chosen
    obtain ⟨present, pending⟩ := candidate_spec chosen
    refine queueMoves_updateWhere jobs _ (claim workerID leaseDurationMs now)
      (claim_id workerID leaseDurationMs now) fun j member own => ?_
    obtain rfl : j = c := jobs.inj member (Table.mem_of_find? present)
      (of_decide_eq_true own)
    exact moves_status rfl rfl rfl rfl (by rw [pending]; decide) (by simp [claim])

theorem queueMoves_step (jobs : JobTable) (a : Action) : QueueMoves jobs (step jobs a) := by
  cases a with
  | enqueue id projectID jobType columns availableAt now =>
    rw [step]
    cases inserted : jobs.insert? (Job.new id projectID jobType columns availableAt now) with
    | none => exact queueMoves_refl jobs
    | some after =>
      intro j' member
      rcases (Table.mem_insert? inserted).mp member with rfl | old
      · exact Or.inr ⟨(Table.insert?_spec inserted).1, rfl, rfl, Nat.succ_pos 2, rfl⟩
      · exact Or.inl ⟨j', old, .refl j'⟩
  | claimJob workerID leaseDurationMs caps locked now =>
    exact queueMoves_claimJob jobs workerID leaseDurationMs caps locked now
  | heartbeat jobID workerID leaseGeneration leaseDurationMs now =>
    refine queueMoves_updateWhere jobs _ (extendLease leaseDurationMs now) (fun _ => rfl) ?_
    exact fun j _ _ => ⟨rfl, rfl, .keeps rfl rfl Iff.rfl⟩
  | rescheduleJob lease availableAt payload now =>
    rw [step]
    unfold rescheduleJob
    dsimp only
    split
    · rename_i rescheduled eq
      split at eq
      · cases eq
        refine queueMoves_updateWhere jobs _ (reschedule availableAt payload) (fun _ => rfl) ?_
        exact fun j _ owns => moves_status rfl rfl rfl rfl (Owned.alive (of_decide_eq_true owns).1)
          (by simp [reschedule, release])
      · cases eq
    · exact queueMoves_refl jobs
  | completeJob jobID workerID leaseGeneration now =>
    refine queueMoves_updateWhere jobs _ complete (fun _ => rfl) fun j _ owned => ?_
    exact moves_status rfl rfl rfl rfl (Owned.alive (of_decide_eq_true owned)) (by simp [complete])
  | failJob jobID workerID leaseGeneration error options jitter now clock =>
    refine queueMoves_updateWhere jobs _ (fail error options jitter now)
      (fail_id error options jitter now) fun j _ owned => ?_
    exact moves_fail error options jitter now (Owned.claimed (of_decide_eq_true owned))
  | requeueStaleJobs candidateIDs jitter now =>
    refine queueMoves_updateWhere jobs _ (fun j => reap (jitter j.id) now j)
      (fun j => reap_id (jitter j.id) now j) fun j _ stale => ?_
    exact moves_reap (jitter j.id) now (of_decide_eq_true stale).2.1
  | requeueDeadLetters trigger locked now =>
    refine queueMoves_updateWhere jobs _ (requeue now) (fun _ => rfl) fun j _ due => ?_
    exact moves_requeue (of_decide_eq_true due).1

/-- The failures of a job are counted within its attempts and its re-runs. -/
structure WithinAttempts (j : Job) : Prop where
  attempts : j.attempts ≤ j.maxAttempts + j.requeues
  requeues : j.requeues ≤ maxDeadLetterRequeues
  /-- A job that may fail again has an attempt left. -/
  live : j.status ≠ .deadLetter → j.attempts < j.maxAttempts + j.requeues

theorem Moves.within {j j' : Job} (moves : Moves j j') (within : WithinAttempts j) :
    WithinAttempts j' := by
  obtain ⟨bound, reruns, live⟩ := within
  obtain ⟨-, max, changes⟩ := moves
  cases changes with
  | keeps attempts requeues status =>
    refine ⟨by omega, by omega, fun alive => ?_⟩
    have := live fun dead => alive (status.mpr dead)
    omega
  | fails claimed attempts requeues status =>
    have := live (by rw [claimed]; decide)
    refine ⟨by omega, by omega, fun alive => ?_⟩
    rcases status with dead | ⟨-, more⟩
    · exact absurd dead alive
    · omega
  | reruns dead attempts requeues left status => exact ⟨by omega, by omega, fun _ => by omega⟩

theorem within_step (jobs : JobTable) (a : Action) (within : ∀ j ∈ jobs.rows, WithinAttempts j) :
    ∀ j ∈ (step jobs a).rows, WithinAttempts j := by
  intro j' member
  rcases queueMoves_step jobs a j' member with ⟨j, old, moves⟩ | ⟨-, attempts, requeues, max, -⟩
  · exact moves.within (within j old)
  · exact ⟨by omega, by omega, fun _ => by omega⟩

theorem within_run (actions : List Action) :
    ∀ j ∈ (machine.run .empty actions).rows, WithinAttempts j :=
  machine.invariant_run (fun jobs => ∀ j ∈ jobs.rows, WithinAttempts j)
    (fun jobs a within => within_step jobs a within) (fun _ member => by cases member) actions

/-- Until it is re-run again the job fails once, and is a dead letter with that. -/
def FailsOnce (jobs : JobTable) (j : Job) : Prop :=
  ∀ mid, ∀ j' ∈ (machine.run jobs mid).rows, j'.id = j.id → j'.requeues = j.requeues →
    (j'.status ≠ .deadLetter ∧ j'.attempts = j.attempts) ∨
      (j'.status = .deadLetter ∧ j'.attempts = j.attempts + 1)

/-- What is kept of a job on its last attempt. -/
structure LastAttempt (j j' : Job) : Prop where
  maxAttempts : j'.maxAttempts = j.maxAttempts
  later : j.requeues ≤ j'.requeues
  once : j'.requeues = j.requeues → (j'.status ≠ .deadLetter ∧ j'.attempts = j.attempts) ∨
    (j'.status = .deadLetter ∧ j'.attempts = j.attempts + 1)

theorem LastAttempt.moves {j j' j'' : Job} (last : j.maxAttempts ≤ j.attempts + 1)
    (keeps : LastAttempt j j') (moves : Moves j' j'') : LastAttempt j j'' := by
  obtain ⟨max, later, once⟩ := keeps
  obtain ⟨-, max', changes⟩ := moves
  cases changes with
  | keeps attempts requeues status =>
    refine ⟨by omega, by omega, fun same => ?_⟩
    rw [attempts, status, Ne, status]
    exact once (by omega)
  | fails claimed attempts requeues status =>
    refine ⟨by omega, by omega, fun same => Or.inr ?_⟩
    rcases once (by omega) with ⟨-, before⟩ | ⟨dead, -⟩
    · refine ⟨?_, by omega⟩
      rcases status with dead | ⟨-, more⟩
      · exact dead
      · omega
    · rw [claimed] at dead
      cases dead
  | reruns dead attempts requeues left status => exact ⟨by omega, by omega, fun same => by omega⟩

theorem failsOnce_of_last (member : j ∈ jobs.rows) (alive : j.status ≠ .deadLetter)
    (last : j.maxAttempts ≤ j.attempts + 1) : FailsOnce jobs j := by
  intro mid
  have inv : (∃ j', (machine.run jobs mid).find? j.id = some j') ∧
      ∀ j' ∈ (machine.run jobs mid).rows, j'.id = j.id → LastAttempt j j' := by
    refine machine.invariant_run (fun jobs => (∃ j', jobs.find? j.id = some j') ∧
      ∀ j' ∈ jobs.rows, j'.id = j.id → LastAttempt j j') ?_ ?_ mid
    · rintro before a ⟨⟨k, found⟩, keeps⟩
      obtain ⟨k', found', -⟩ := steps_step before a j.id k found
      refine ⟨⟨k', found'⟩, fun j'' member own => ?_⟩
      rcases queueMoves_step before a j'' member with ⟨j', old, moves⟩ | ⟨absent, -⟩
      · exact (keeps j' old (moves.id.symm.trans own)).moves last moves
      · rw [own, found] at absent
        cases absent
    · refine ⟨⟨j, jobs.find?_key member⟩, fun j' present own => ?_⟩
      obtain rfl : j' = j := jobs.inj present member own
      exact ⟨rfl, Nat.le_refl _, fun _ => Or.inl ⟨alive, rfl⟩⟩
  exact fun j' present own => (inv.2 j' present own).once

theorem candidate_only {caps : ClaimCaps} {locked : List UUID} (member : j ∈ jobs.rows)
    (eligible : Eligible jobs caps now j = true) (free : j.id ∉ locked)
    (others : ∀ k ∈ jobs.rows, k.id ∉ locked → k = j) :
    candidate jobs caps locked now = some j := by
  have only : ∀ k ∈ jobs.select fun j => Eligible jobs caps now j ∧ j.id ∉ locked, k = j := by
    intro k chosen
    obtain ⟨present, open_⟩ := List.mem_filter.mp chosen
    exact others k present (of_decide_eq_true open_).2
  have chosen : j ∈ jobs.select fun j => Eligible jobs caps now j ∧ j.id ∉ locked :=
    List.mem_filter.mpr ⟨member, decide_eq_true ⟨eligible, free⟩⟩
  unfold candidate
  dsimp only
  cases found : List.find? _ _ with
  | some k => rw [only k (List.mem_of_find?_eq_some found)]
  | none =>
    refine absurd (List.all_eq_true.mpr fun k present => ?_) (List.find?_eq_none.mp found j chosen)
    rw [only k present]
    exact decide_eq_true (Or.inr ⟨rfl, Int.le_refl _⟩)

/-- One claim of the job and one failure of that execution. -/
def claimAndFail (jobs : JobTable) (j : Job) (now : Timestamp) : List Action :=
  [.claimJob "w" 1000 {} ((jobs.rows.map Job.id).filter fun id => id ≠ j.id) now,
    .failJob j.id "w" (j.leaseGeneration + 1) "the execution failed" {} 0 now now]

theorem waits_again (member : j ∈ jobs.rows) (pending : j.status = .pending)
    (available : j.availableAt ≤ now) (kind : j.Rerunnable)
    (more : j.attempts + 1 < j.maxAttempts) :
    ∃ j' ∈ (machine.run jobs (claimAndFail jobs j now)).rows, j'.id = j.id ∧
      j'.requeues = j.requeues ∧ j'.status = .pending ∧ j'.attempts = j.attempts + 1 := by
  have claimed : (claimJob jobs "w" 1000 {} ((jobs.rows.map Job.id).filter fun id => id ≠ j.id) now).1 =
      jobs.updateKey j.id (claim "w" 1000 now) (claim_id "w" 1000 now) := by
    have cap : withinCap jobs {} now j.jobType = true := by
      rcases kind with type | type | type <;> rw [type] <;> rfl
    have chosen : candidate jobs {} ((jobs.rows.map Job.id).filter fun id => id ≠ j.id) now = some j := by
      refine candidate_only member (decide_eq_true ⟨pending, available, cap⟩) ?_ fun k present free => ?_
      · intro locked
        exact of_decide_eq_true (List.mem_filter.mp locked).2 rfl
      · by_contra other
        refine free (List.mem_filter.mpr ⟨List.mem_map.mpr ⟨k, present, rfl⟩, decide_eq_true ?_⟩)
        exact fun same => other (jobs.inj present member same)
    rw [claimJob, chosen]
  have held : (claim "w" 1000 now j).Owned j.id "w" (j.leaseGeneration + 1) now := by
    refine ⟨rfl, rfl, rfl, rfl, decide_eq_true ?_⟩
    exact Int.lt_add_of_pos_right now (by decide)
  have failed : fail "the execution failed" {} 0 now (claim "w" 1000 now j) =
      retry "the execution failed" 0 now (claim "w" 1000 now j) := by
    refine if_neg ?_
    rintro (exhausts | last)
    · cases exhausts
    · change j.maxAttempts ≤ j.attempts + 1 at last
      omega
  refine ⟨retry "the execution failed" 0 now (claim "w" 1000 now j), ?_, rfl, rfl, rfl, rfl⟩
  change _ ∈ (failJob (claimJob jobs "w" 1000 {} _ now).1 j.id "w" (j.leaseGeneration + 1) _ {} 0 now now).1.rows
  rw [claimed]
  have present : claim "w" 1000 now j ∈
      (jobs.updateKey j.id (claim "w" 1000 now) (claim_id "w" 1000 now)).rows :=
    (Table.mem_updateWhere jobs _ (claim "w" 1000 now) (claim_id "w" 1000 now) _).mpr
      ⟨j, member, by simp⟩
  refine (Table.mem_updateWhere _ _ (fail "the execution failed" {} 0 now)
    (fail_id "the execution failed" {} 0 now) _).mpr ⟨claim "w" 1000 now j, present, ?_⟩
  rw [if_pos (decide_eq_true held), failed]

/-- The bounds of every job of the queue, and one failure for every dead letter that the statement
re-runs. -/
structure RetriesBounded (jobs : JobTable) (trigger : RequeueTrigger) (locked : List UUID)
    (now : Timestamp) : Prop where
  attempts : ∀ j ∈ jobs.rows, j.attempts ≤ j.maxAttempts + j.requeues
  requeues : ∀ j ∈ jobs.rows, j.requeues ≤ maxDeadLetterRequeues
  reruns : ∀ j ∈ jobs.rows, Taken jobs trigger locked now j →
    FailsOnce (requeueDeadLetters jobs trigger locked now) (requeue now j)

/-- After any run, the retries are bounded if and only if every dead letter that is re-run has
used its attempts up, to one. -/
theorem retriesBounded_run (actions : List Action) (trigger : RequeueTrigger) (locked : List UUID)
    (now : Timestamp) : RetriesBounded (machine.run .empty actions) trigger locked now ↔
      ∀ j ∈ (machine.run .empty actions).rows, Taken (machine.run .empty actions) trigger locked now j →
        j.maxAttempts ≤ j.attempts + 1 := by
  have within := within_run actions
  generalize machine.run .empty actions = jobs at within ⊢
  have rerun : ∀ j ∈ jobs.rows, Taken jobs trigger locked now j →
      requeue now j ∈ (requeueDeadLetters jobs trigger locked now).rows := by
    intro j member taken
    exact mem_requeueDeadLetters.mpr ⟨j, member, if_pos taken⟩
  constructor
  · intro bounded j member taken
    by_contra early
    have more : j.attempts + 1 < j.maxAttempts := by omega
    obtain ⟨j', present, own, requeues, waits, attempts⟩ := waits_again (rerun j member taken) rfl
      (Int.le_refl now) taken.alone.1 more
    rcases bounded.reruns j member taken _ j' present own requeues with ⟨-, none_⟩ | ⟨dead, -⟩
    · omega
    · rw [waits] at dead
      cases dead
  · intro last
    refine ⟨fun j member => (within j member).attempts, fun j member => (within j member).requeues, ?_⟩
    intro j member taken
    exact failsOnce_of_last (rerun j member taken) (by simp [requeue, release]) (last j member taken)

section Example

/-- A product-context job that an `exhaust` makes a dead letter after one execution of three. -/
theorem early_rerun_waits_again : ¬∀ (actions : List Action) (trigger : RequeueTrigger)
    (locked : List UUID) (now : Timestamp),
      RetriesBounded (machine.run .empty actions) trigger locked now := by
  intro bounded
  have once := (bounded (failedRun 1 0) .interval [] 7200000000).reruns
  have ends : ∀ j ∈ (machine.run .empty (failedRun 1 0)).rows,
      Taken (machine.run .empty (failedRun 1 0)) .interval [] 7200000000 j →
      ∀ j' ∈ (machine.run (requeueDeadLetters (machine.run .empty (failedRun 1 0)) .interval []
        7200000000) [.claimJob "w" 1000 {} [] 7200000000,
          .failJob 1 "w" 2 "the execution failed" {} 0 7200000000 7200000000]).rows,
      j'.id = j.id → j'.requeues = j.requeues + 1 →
      (j'.status ≠ .deadLetter ∧ j'.attempts = j.attempts) ∨
        (j'.status = .deadLetter ∧ j'.attempts = j.attempts + 1) :=
    fun j member taken j' present own requeues => once j member taken _ j' present own requeues
  revert ends
  decide +kernel

end Example

end Opslane.Jobs
