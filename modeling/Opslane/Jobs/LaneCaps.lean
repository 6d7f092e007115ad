import Opslane.Jobs.Lease

/-!
# Lane caps

Five job types are claimed only while fewer of them than their call allows hold a live lease.
The count is taken at the claim, and afterwards leases run out, are extended and are reaped by
themselves. With one clock that never goes back the count of a type only grows by a claim: an
extension needs a lease that is still live, so a lease that ran out stays out.
-/

namespace Opslane.Jobs

/-- The cap on jobs of one type. -/
def ClaimCaps.of (caps : ClaimCaps) : JobType → Option Int
  | .sessionAnalysis => some caps.sessionAnalysis
  | .sessionNarrate => some caps.narrative
  | .sessionVerifyFrames => some caps.frames
  | .frictionMatch => some caps.frictionMatch
  | .frictionConfirm => some caps.frictionConfirm
  | _ => none

/-- The queue under one clock. -/
structure Fleet where
  jobs : JobTable
  clock : Timestamp

/-- What the workers do, at the time the clock shows. -/
inductive LaneAction where
  | tick (duration : Nat)
  | enqueue (id projectID : UUID) (jobType : JobType) (columns : JobColumns) (availableAt : Timestamp)
  | claimJob (workerID : String) (leaseDurationMs : Int) (locked : List UUID)
  | heartbeat (jobID : UUID) (workerID : String) (leaseGeneration : Nat) (leaseDurationMs : Int)
  | rescheduleJob (lease : JobLease) (availableAt : Timestamp) (payload : Option Json)
  | completeJob (jobID : UUID) (workerID : String) (leaseGeneration : Nat)
  | failJob (jobID : UUID) (workerID : String) (leaseGeneration : Nat) (error : String)
      (options : FailOptions) (jitter : Nat)
  | requeueStaleJobs (candidateIDs : List UUID) (jitter : UUID → Nat)
  | requeueDeadLetters (trigger : RequeueTrigger) (locked : List UUID)

def fleetStep (caps : ClaimCaps) (s : Fleet) : LaneAction → Fleet
  | .tick duration => { s with clock := s.clock + duration }
  | .enqueue id projectID jobType columns availableAt =>
    { s with jobs := step s.jobs (.enqueue id projectID jobType columns availableAt s.clock) }
  | .claimJob workerID leaseDurationMs locked =>
    { s with jobs := step s.jobs (.claimJob workerID leaseDurationMs caps locked s.clock) }
  | .heartbeat jobID workerID leaseGeneration leaseDurationMs =>
    { s with jobs := step s.jobs (.heartbeat jobID workerID leaseGeneration leaseDurationMs s.clock) }
  | .rescheduleJob lease availableAt payload =>
    { s with jobs := step s.jobs (.rescheduleJob lease availableAt payload s.clock) }
  | .completeJob jobID workerID leaseGeneration =>
    { s with jobs := step s.jobs (.completeJob jobID workerID leaseGeneration s.clock) }
  | .failJob jobID workerID leaseGeneration error options jitter =>
    { s with
      jobs := step s.jobs (.failJob jobID workerID leaseGeneration error options jitter s.clock s.clock) }
  | .requeueStaleJobs candidateIDs jitter =>
    { s with jobs := step s.jobs (.requeueStaleJobs candidateIDs jitter s.clock) }
  | .requeueDeadLetters trigger locked =>
    { s with jobs := step s.jobs (.requeueDeadLetters trigger locked s.clock) }

def fleetMachine (caps : ClaimCaps) : Transition.Machine Fleet LaneAction := ⟨fleetStep caps⟩

/-- A job of this type under a live lease. -/
def Job.Running (t : JobType) (now : Timestamp) (j : Job) : Prop :=
  j.status = .claimed ∧ j.jobType = t ∧ j.leaseExpiresAt.any (now < ·)
  deriving Decidable

/-- No lane runs more jobs than its cap. -/
def LanesWithin (caps : ClaimCaps) (s : Fleet) : Prop :=
  ∀ t cap, caps.of t = some cap → runningJobs s.jobs t s.clock ≤ cap

theorem runningJobs_eq (jobs : JobTable) (t : JobType) (now : Timestamp) :
    runningJobs jobs t now = jobs.rows.countP fun j => j.Running t now := by
  rw [runningJobs, Table.select, List.countP_eq_length_filter]
  rfl

variable {now : Timestamp} {jobs : JobTable} {t : JobType}

theorem runningJobs_updateWhere_le (p : Job → Bool) (f : Job → Job) (frame : ∀ j, (f j).id = j.id)
    (ran : ∀ j ∈ jobs.rows, p j → (f j).Running t now → j.Running t now) :
    runningJobs (jobs.updateWhere p f frame) t now ≤ runningJobs jobs t now := by
  rw [runningJobs_eq, runningJobs_eq, Table.updateWhere, List.countP_map]
  apply Int.ofNat_le.mpr
  apply List.countP_mono_left
  intro j member running
  simp only [Function.comp, decide_eq_true_eq] at running ⊢
  split at running
  · rename_i selected
    exact ran j member selected running
  · exact running

theorem not_running {j : Job} (idle : j.status ≠ .claimed) :
    ¬j.Running t now := fun running => idle running.1

theorem runningJobs_enqueue (id projectID : UUID) (jobType : JobType) (columns : JobColumns)
    (availableAt : Timestamp) :
    runningJobs (step jobs (.enqueue id projectID jobType columns availableAt now)) t now ≤
      runningJobs jobs t now := by
  rw [step]
  cases inserted : jobs.insert? (Job.new id projectID jobType columns availableAt now) with
  | none => exact Int.le_refl _
  | some after =>
    have idle : ¬(Job.new id projectID jobType columns availableAt now).Running t now :=
      not_running (by simp [Job.new])
    apply Int.le_of_eq
    rw [Option.getD_some, runningJobs_eq, runningJobs_eq, (Table.insert?_spec inserted).2,
      List.countP_cons_of_neg (by simpa using idle)]

variable {caps : ClaimCaps}

theorem candidate_within {locked : List UUID} {j : Job}
    (found : candidate jobs caps locked now = some j) :
    withinCap jobs caps now j.jobType = true := by
  have member := List.mem_of_find?_eq_some found
  obtain ⟨-, eligible⟩ := (jobs.mem_select _ j).mp member
  simp only [Eligible, decide_eq_true_eq] at eligible
  exact eligible.1.2.2

theorem runningJobs_lt_of_within {cap : Int} (capped : caps.of t = some cap)
    (room : withinCap jobs caps now t = true) :
    runningJobs jobs t now < cap := by
  cases t with
  | sessionAnalysis | sessionNarrate | sessionVerifyFrames | frictionMatch =>
    obtain rfl := Option.some.inj capped
    simpa [withinCap] using room
  | frictionConfirm =>
    obtain rfl := Option.some.inj capped
    simp only [withinCap, decide_eq_true_eq] at room
    exact room.1
  | _ => cases capped

theorem runningJobs_claimJob {cap : Int} (capped : caps.of t = some cap)
    (within : runningJobs jobs t now ≤ cap) (workerID : String) (leaseDurationMs : Int)
    (locked : List UUID) :
    runningJobs (step jobs (.claimJob workerID leaseDurationMs caps locked now)) t now ≤ cap := by
  rw [step]
  unfold claimJob
  split
  · exact within
  · rename_i j chosen
    by_cases own : j.jobType = t
    · have room := runningJobs_lt_of_within capped (own ▸ candidate_within chosen)
      have one := jobs.countP_updateKey_le j.id (claim workerID leaseDurationMs now)
        (claim_id workerID leaseDurationMs now) fun k => k.Running t now
      rw [runningJobs_eq] at room ⊢
      exact Int.le_trans (Int.ofNat_le.mpr one) room
    · apply Int.le_trans _ within
      apply runningJobs_updateWhere_le
      · exact claim_id workerID leaseDurationMs now
      · intro k member selected running
        have same : k = j := by
          have found := (candidate_spec chosen).1
          rw [← of_decide_eq_true selected, jobs.find?_key member] at found
          exact Option.some.inj found
        exact absurd (same ▸ running.2.1) own

theorem fleetStep_within {s : Fleet} (within : LanesWithin caps s) (a : LaneAction) :
    LanesWithin caps (fleetStep caps s a) := by
  intro t cap capped
  have before := within t cap capped
  cases a with
  | tick duration =>
    apply Int.le_trans _ before
    rw [runningJobs_eq, runningJobs_eq]
    apply Int.ofNat_le.mpr
    apply List.countP_mono_left
    intro j _ running
    simp only [decide_eq_true_eq] at running ⊢
    obtain ⟨claimed, own, live⟩ := running
    cases lease : j.leaseExpiresAt with
    | none => simp [lease] at live
    | some expires =>
      have still : s.clock < expires := by
        simp only [lease, fleetStep, Option.any_some] at live
        have later : s.clock + (duration : Int) < expires := of_decide_eq_true live
        exact Int.lt_of_le_of_lt (Int.le_add_of_nonneg_right (Int.natCast_nonneg duration)) later
      exact ⟨claimed, own, by simpa [lease] using still⟩
  | enqueue id projectID jobType columns availableAt =>
    exact Int.le_trans (runningJobs_enqueue id projectID jobType columns availableAt) before
  | claimJob workerID leaseDurationMs locked =>
    exact runningJobs_claimJob capped before workerID leaseDurationMs locked
  | heartbeat jobID workerID leaseGeneration leaseDurationMs =>
    apply Int.le_trans _ before
    apply runningJobs_updateWhere_le
    · intro j
      rfl
    · intro j _ owned running
      -- The fence of an extension asks for a lease that is live now.
      obtain ⟨-, -, -, claimed, live⟩ := of_decide_eq_true owned
      exact ⟨claimed, running.2.1, live⟩
  | rescheduleJob lease availableAt payload =>
    apply Int.le_trans _ before
    simp only [fleetStep, step, rescheduleJob]
    split
    · rename_i rescheduled done
      split at done
      · cases done
        apply runningJobs_updateWhere_le
        · intro j
          rfl
        · intro j _ _ running
          exact absurd running (not_running (by simp [reschedule, release]))
      · cases done
    · exact Int.le_refl _
  | completeJob jobID workerID leaseGeneration =>
    apply Int.le_trans _ before
    apply runningJobs_updateWhere_le
    · intro j
      rfl
    · intro j _ _ running
      exact absurd running (not_running (by simp [complete]))
  | failJob jobID workerID leaseGeneration error options jitter =>
    apply Int.le_trans _ before
    apply runningJobs_updateWhere_le
    · intro j
      exact fail_id ..
    · intro j _ _ running
      refine absurd running (not_running ?_)
      unfold fail
      split <;> simp [deadLetter, retry, release]
  | requeueStaleJobs candidateIDs jitter =>
    apply Int.le_trans _ before
    apply runningJobs_updateWhere_le
    · intro j
      exact reap_id ..
    · intro j _ _ running
      refine absurd running (not_running ?_)
      unfold reap
      split <;> simp [deadLetter, retry, release]
  | requeueDeadLetters trigger locked =>
    apply Int.le_trans _ before
    apply runningJobs_updateWhere_le
    · intro j
      rfl
    · intro j _ _ running
      exact absurd running (not_running (by simp [requeue, release]))

theorem friction_closed (closed : caps.frictionMatch = 0 ∨ caps.frictionConfirm = 0)
    {workerID : String} {leaseDurationMs : Int} {locked : List UUID} {j : Job}
    (claimed : (claimJob jobs workerID leaseDurationMs caps locked now).2 = some j) :
    j.jobType ≠ .frictionConfirm ∧ j.jobType ≠ .frictionReconcile := by
  unfold claimJob at claimed
  split at claimed
  · cases claimed
  · rename_i c chosen
    obtain rfl := Option.some.inj claimed
    have room := candidate_within chosen
    show c.jobType ≠ .frictionConfirm ∧ c.jobType ≠ .frictionReconcile
    constructor
    · intro confirm
      rw [confirm] at room
      simp only [withinCap, decide_eq_true_eq] at room
      omega
    · intro reconcile
      rw [reconcile] at room
      simp only [withinCap, decide_eq_true_eq] at room
      omega

/-- **Lane caps.** On every run no lane ever holds more live leases than its cap, and a friction
cap of zero keeps every confirmation and reconciliation unclaimed. -/
theorem lanes_capped (caps : ClaimCaps) (s : Fleet) (start : LanesWithin caps s)
    (actions : List LaneAction) :
    LanesWithin caps ((fleetMachine caps).run s actions) ∧
      (caps.frictionMatch = 0 ∨ caps.frictionConfirm = 0 →
        ∀ workerID leaseDurationMs locked j,
          (claimJob ((fleetMachine caps).run s actions).jobs workerID leaseDurationMs caps locked
            ((fleetMachine caps).run s actions).clock).2 = some j →
          j.jobType ≠ .frictionConfirm ∧ j.jobType ≠ .frictionReconcile) :=
  ⟨(fleetMachine caps).invariant_run (LanesWithin caps) (fun _ a within => fleetStep_within within a)
    start actions, fun closed _ _ _ _ claimed => friction_closed closed claimed⟩

theorem lanesWithin_of_idle (nonneg : ∀ t cap, caps.of t = some cap → 0 ≤ cap) {s : Fleet}
    (idle : ∀ j ∈ s.jobs.rows, j.status ≠ .claimed) : LanesWithin caps s := by
  intro t cap capped
  have none : (s.jobs.rows.countP fun j => decide (j.Running t s.clock)) = 0 := by
    rw [List.countP_eq_zero]
    intro j member running
    exact idle j member (of_decide_eq_true running).1
  rw [runningJobs_eq, none]
  exact nonneg t cap capped

/-- With the caps as they ship, over a first run of an empty queue. -/
theorem lanes_capped_from_empty :
    LanesWithin {} ((fleetMachine {}).run ⟨Table.empty, 0⟩
      [.enqueue 1 1 .frictionConfirm {} 0, .enqueue 2 1 .frictionConfirm {} 0, .claimJob "a" 60000 [],
        .claimJob "b" 60000 []]) :=
  (lanes_capped {} ⟨Table.empty, 0⟩ (lanesWithin_of_idle
    (by intro t cap capped; cases t <;> cases capped <;> decide) (by intro j member; cases member)) _).1

end Opslane.Jobs
