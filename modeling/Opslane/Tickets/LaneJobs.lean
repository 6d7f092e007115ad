import Opslane.Tickets.ConfirmationRuns

/-!
# The jobs of the two lanes

What a transaction may do to the queue. Every job stays about the same work, keeps its batch, and its lease
generation only rises; an active job of the two lanes stays active unless the transaction ends
it; and the indexes leave a ticket with one active job of each lane.
-/

namespace Opslane.Tickets.Confirmations

open Jobs (Job JobTable)

/-- The job goes on, about the same work and with the same batch. -/
structure Goes (j j' : Job) : Prop where
  id : j'.id = j.id
  projectID : j'.projectID = j.projectID
  jobType : j'.jobType = j.jobType
  ticketID : j'.ticketID = j.ticketID
  batchID : j'.batchID = j.batchID
  generation : j.leaseGeneration ≤ j'.leaseGeneration
  was : j'.Active → j.Active

theorem Goes.refl (j : Job) : Goes j j := ⟨rfl, rfl, rfl, rfl, rfl, le_rfl, fun active => active⟩

theorem Goes.trans {j j' j'' : Job} (first : Goes j j') (second : Goes j' j'') : Goes j j'' where
  id := second.id.trans first.id
  projectID := second.projectID.trans first.projectID
  jobType := second.jobType.trans first.jobType
  ticketID := second.ticketID.trans first.ticketID
  batchID := second.batchID.trans first.batchID
  generation := first.generation.trans second.generation
  was := fun active => first.was (second.was active)

theorem Goes.lane {j j' : Job} (goes : Goes j j') : Lane j' ↔ Lane j := by
  rw [Lane, Lane, goes.jobType]

/-- An active job of a lane stays active, unless it is among `ended`. -/
def Stays (ended : Job → Prop) (j j' : Job) : Prop := Lane j → j.Active → j'.Active ∨ ended j

/-- Which jobs are ended does not depend on how far they went. -/
def Settled (ended : Job → Prop) : Prop := ∀ j j', Goes j j' → ended j' → ended j

/-- What a new job of a lane fits does not depend on how far it went. -/
def Lasting (new : Job → Prop) : Prop := ∀ j j', Goes j j' → new j → new j'

variable {ended : Job → Prop}

theorem Stays.trans (settled : Settled ended) {j j' j'' : Job} (goes : Goes j j')
    (first : Stays ended j j') (second : Stays ended j' j'') :
    Stays ended j j'' := by
  intro lane active
  rcases first lane active with still | over_
  · exact (second (goes.lane.mpr lane) still).imp_right (settled j j' goes)
  · exact Or.inr over_

/-- A ticket has one active job of each lane. -/
def OneActive (jobs : JobTable) : Prop :=
  ∀ j ∈ jobs.rows, ∀ k ∈ jobs.rows, Lane j → j.jobType = k.jobType → j.ticketID.isSome →
    j.ticketID = k.ticketID → j.Active → k.Active → j = k

theorem lasting_ofTicket (s : TicketStore) : Lasting (OfTicket s) :=
  fun _ _ goes ⟨t, member, own, project⟩ =>
    ⟨t, member, goes.ticketID.trans own, project.trans goes.projectID.symm⟩

/-- The queue goes on beside the two lanes. -/
structure JobsAside (ended new : Job → Prop) (before after : JobTable) : Prop where
  forth : ∀ j ∈ before.rows, ∃ j' ∈ after.rows, Goes j j' ∧ Stays ended j j'
  back : ∀ j' ∈ after.rows, (∃ j ∈ before.rows, Goes j j') ∨
    ((∀ j ∈ before.rows, j.id ≠ j'.id) ∧ (Lane j' → j'.batchID = none ∧ new j'))
  one : OneActive before → OneActive after

namespace JobsAside

variable {ended new : Job → Prop}

theorem refl (jobs : JobTable) : JobsAside ended new jobs jobs where
  forth j member := ⟨j, member, .refl j, fun _ active => Or.inl active⟩
  back j member := Or.inl ⟨j, member, .refl j⟩
  one := id

variable {before after : JobTable}

theorem of_eq (same : after = before) : JobsAside ended new before after := by
  rw [same]
  exact refl before

theorem mono {ended' new' : Job → Prop} (more : ∀ j, ended j → ended' j)
    (fits : ∀ j, new j → new' j) (aside : JobsAside ended new before after) :
    JobsAside ended' new' before after where
  forth j member := by
    obtain ⟨j', member', goes, stays⟩ := aside.forth j member
    exact ⟨j', member', goes, fun lane active => (stays lane active).imp_right (more j)⟩
  back j' member' := by
    rcases aside.back j' member' with old | ⟨fresh, fit⟩
    · exact Or.inl old
    · exact Or.inr ⟨fresh, fun lane => ⟨(fit lane).1, fits j' (fit lane).2⟩⟩
  one := aside.one

theorem trans (settled : Settled ended) (lasting : Lasting new) {a b c : JobTable} (first : JobsAside ended new a b)
    (second : JobsAside ended new b c) : JobsAside ended new a c where
  forth j member := by
    obtain ⟨j₁, member₁, goes₁, stays₁⟩ := first.forth j member
    obtain ⟨j₂, member₂, goes₂, stays₂⟩ := second.forth j₁ member₁
    exact ⟨j₂, member₂, goes₁.trans goes₂, .trans settled goes₁ stays₁ stays₂⟩
  back j₂ member₂ := by
    rcases second.back j₂ member₂ with ⟨j₁, member₁, goes₂⟩ | ⟨fresh, fit⟩
    · rcases first.back j₁ member₁ with ⟨j, member, goes₁⟩ | ⟨fresh, fit⟩
      · exact Or.inl ⟨j, member, goes₁.trans goes₂⟩
      · refine Or.inr ⟨fun j member => goes₂.id ▸ fresh j member, fun lane => ?_⟩
        obtain ⟨noBatch, fits⟩ := fit (goes₂.lane.mp lane)
        exact ⟨goes₂.batchID.trans noBatch, lasting j₁ j₂ goes₂ fits⟩
    · refine Or.inr ⟨fun j member => ?_, fit⟩
      obtain ⟨j₁, member₁, goes₁, -⟩ := first.forth j member
      exact goes₁.id ▸ fresh j₁ member₁
  one := fun unique => second.one (first.one unique)

theorem updateWhere (jobs : JobTable) (p : Job → Bool) (f : Job → Job)
    (frame : ∀ j, (f j).id = j.id) (moves : ∀ j ∈ jobs.rows, p j → Goes j (f j) ∧ Stays ended j (f j)) :
    JobsAside ended new jobs (jobs.updateWhere p f frame) := by
  have each : ∀ j ∈ jobs.rows, Goes j (if p j then f j else j) ∧
      Stays ended j (if p j then f j else j) := by
    intro j member
    split
    · rename_i chosen
      exact moves j member chosen
    · exact ⟨.refl j, fun _ active => Or.inl active⟩
  constructor
  · intro j member
    exact ⟨_, (Table.mem_updateWhere ..).mpr ⟨j, member, rfl⟩, each j member⟩
  · intro j' member
    obtain ⟨j, old, rfl⟩ := (Table.mem_updateWhere ..).mp member
    exact Or.inl ⟨j, old, (each j old).1⟩
  · intro unique j' member' k' memberK' lane type some_ ticket active activeK
    obtain ⟨j, member, rfl⟩ := (Table.mem_updateWhere ..).mp member'
    obtain ⟨k, memberK, rfl⟩ := (Table.mem_updateWhere ..).mp memberK'
    have goes := (each j member).1
    have goesK := (each k memberK).1
    rw [goes.jobType, goesK.jobType] at type
    rw [goes.ticketID, goesK.ticketID] at ticket
    rw [goes.ticketID] at some_
    rw [unique j member k memberK (goes.lane.mp lane) type some_ ticket (goes.was active)
      (goesK.was activeK)]

variable {j : Job}

theorem cons (rows : after.rows = j :: before.rows) (fresh : ∀ k ∈ before.rows, k.id ≠ j.id)
    (fit : Lane j → j.batchID = none ∧ new j)
    (apart : Lane j → ∀ k ∈ before.rows, j.jobType = k.jobType → j.ticketID.isSome →
      j.ticketID = k.ticketID → j.Active → ¬k.Active) : JobsAside ended new before after where
  forth k member := ⟨k, rows ▸ List.mem_cons_of_mem j member, .refl k, fun _ active => Or.inl active⟩
  back k member := by
    rw [rows, List.mem_cons] at member
    rcases member with rfl | old
    · exact Or.inr ⟨fresh, fit⟩
    · exact Or.inl ⟨k, old, .refl k⟩
  one := by
    intro unique a memberA b memberB lane type some_ ticket active activeB
    rw [rows, List.mem_cons] at memberA memberB
    rcases memberA with rfl | oldA <;> rcases memberB with rfl | oldB
    · rfl
    · exact absurd activeB (apart lane b oldB type some_ ticket active)
    · have laneB : Lane b := by rwa [Lane, ← type]
      exact absurd active (apart laneB a oldA type.symm (ticket ▸ some_) ticket.symm activeB)
    · exact unique a oldA b oldB lane type some_ ticket active activeB

theorem insert? (inserted : before.insert? j = some after) (other : ¬Lane j) :
    JobsAside ended new before after := by
  obtain ⟨free, rows⟩ := Table.insert?_spec inserted
  refine cons rows ((before.find?_eq_none_iff _).mp free) (fun lane => absurd lane other) ?_
  exact fun lane => absurd lane other

theorem insertIgnore (jobs : JobTable) (other : ¬Lane j) :
    JobsAside ended new jobs (jobs.insertIgnore j) := by
  unfold Table.insertIgnore
  cases inserted : jobs.insert? j with
  | none => exact refl jobs
  | some after => exact insert? inserted other

theorem insertJob? (inserted : Jobs.insertJob? before j = some after) (other : ¬Lane j) :
    JobsAside ended new before after := by
  unfold Jobs.insertJob? at inserted
  split at inserted
  · cases inserted
  · exact insert? inserted other

theorem enqueueJobTx (jobs : JobTable) (fit : Lane j → j.batchID = none ∧ new j) :
    JobsAside ended new jobs (Jobs.enqueueJobTx jobs j) := by
  unfold Jobs.enqueueJobTx
  split
  · exact refl jobs
  · rename_i clashes
    unfold Table.insertIgnore
    cases inserted : jobs.insert? j with
    | none => exact refl jobs
    | some after =>
      obtain ⟨free, rows⟩ := Table.insert?_spec inserted
      refine cons rows ((jobs.find?_eq_none_iff _).mp free) fit ?_
      intro lane k member type some_ ticket active activeK
      refine clashes ?_
      rw [Table.any, List.any_eq_true]
      refine ⟨k, member, decide_eq_true (Or.inr ⟨active, activeK, type, Or.inr (Or.inl ?_)⟩)⟩
      exact ⟨lane, some_, ticket⟩

end JobsAside

theorem claim_goes (workerID : String) (leaseDurationMs : Int) (now : Timestamp) {j : Job}
    (pending : j.status = .pending) : Goes j (Jobs.claim workerID leaseDurationMs now j) :=
  ⟨rfl, rfl, rfl, rfl, rfl, Nat.le_succ _, fun _ => Or.inl pending⟩

theorem jobsAside_queue {ended new : Job → Prop} (s : TicketStore) {a : Jobs.Action}
    (progress : Jobs.Progress a) (beside : QueueBeside s a) :
    JobsAside ended new s.jobs (Jobs.step s.jobs a) := by
  cases a with
  | enqueue | requeueDeadLetters => cases progress
  | failJob | requeueStaleJobs => cases beside
  | claimJob workerID leaseDurationMs caps locked now =>
    rw [Jobs.step]
    unfold Jobs.claimJob
    split
    · exact .refl s.jobs
    · rename_i c chosen
      obtain ⟨present, pending⟩ := Jobs.candidate_spec chosen
      refine .updateWhere s.jobs _ _ (Jobs.claim_id workerID leaseDurationMs now) ?_
      intro j member own
      obtain rfl : j = c := s.jobs.inj member
        (Table.mem_of_find? present) (of_decide_eq_true own)
      exact ⟨claim_goes workerID leaseDurationMs now pending, fun _ _ => Or.inl (Or.inr rfl)⟩
  | heartbeat jobID workerID leaseGeneration leaseDurationMs now =>
    refine .updateWhere s.jobs _ (Jobs.extendLease leaseDurationMs now) (fun _ => rfl) ?_
    exact fun j _ _ => ⟨⟨rfl, rfl, rfl, rfl, rfl, le_rfl, fun active => active⟩,
      fun _ active => Or.inl active⟩
  | rescheduleJob lease availableAt payload now =>
    rw [Jobs.step]
    unfold Jobs.rescheduleJob
    dsimp only
    split
    · rename_i rescheduled eq
      split at eq
      · cases eq
        refine .updateWhere s.jobs _ (Jobs.reschedule availableAt payload) (fun _ => rfl) ?_
        intro j _ owned
        refine ⟨⟨rfl, rfl, rfl, rfl, rfl, le_rfl, fun _ => Or.inr ?_⟩, fun _ _ => Or.inl (Or.inl rfl)⟩
        exact (of_decide_eq_true owned).1.2.2.2.1
      · cases eq
    · exact .refl s.jobs
  | completeJob jobID workerID leaseGeneration now =>
    refine .updateWhere s.jobs _ Jobs.complete (fun _ => rfl) ?_
    intro j member owned
    have own := of_decide_eq_true owned
    refine ⟨⟨rfl, rfl, rfl, rfl, rfl, le_rfl, fun _ => Or.inr own.2.2.2.1⟩, fun lane => ?_⟩
    have found : s.jobs.find? jobID = some j := own.1 ▸ s.jobs.find?_key member
    rw [QueueBeside, found, Option.all_some] at beside
    exact absurd lane (of_decide_eq_true beside)

theorem jobsAside_enqueue (s : TicketStore) {j : Job} (beside : Beside s (.enqueue j)) :
    JobsAside ended (OfTicket s) s.jobs (Tickets.step s (.enqueue j)).jobs := by
  rw [Tickets.step]
  split
  · exact .refl s.jobs
  · exact .enqueueJobTx s.jobs fun lane => (beside lane).2

theorem jobsAside_complete {new : Job → Prop} (jobs : JobTable) (jobID : UUID) :
    JobsAside (fun j => j.id = jobID) new jobs (jobs.updateKey jobID completed fun _ => rfl) := by
  refine .updateWhere jobs _ completed (fun _ => rfl) fun j _ own => ?_
  refine ⟨⟨rfl, rfl, rfl, rfl, rfl, le_rfl, fun active => ?_⟩, fun _ _ => Or.inr ?_⟩
  · rcases active with pending | claimed
    · cases pending
    · cases claimed
  · exact of_decide_eq_true own

/-- A failure ends the job. -/
def Exhausted (exhaust : Bool) (j : Job) : Prop := exhaust = true ∨ j.maxAttempts ≤ j.attempts + 1
  deriving Decidable

theorem deadLetter_goes (error : String) (deadLetterClass : Jobs.DeadLetterClass) (now : Timestamp)
    (j : Job) : Goes j (Jobs.deadLetter error deadLetterClass now j) := by
  refine ⟨rfl, rfl, rfl, rfl, rfl, le_rfl, fun active => ?_⟩
  rcases active with pending | claimed
  · cases pending
  · cases claimed

theorem retry_goes (error : String) (jitter : Nat) (now : Timestamp) {j : Job}
    (claimed : j.status = .claimed) : Goes j (Jobs.retry error jitter now j) :=
  ⟨rfl, rfl, rfl, rfl, rfl, le_rfl, fun _ => Or.inr claimed⟩

theorem fail_cases (error : String) (options : Jobs.FailOptions) (jitter : Nat) (now : Timestamp)
    {j : Job} (claimed : j.status = .claimed) : Goes j (Jobs.fail error options jitter now j) ∧
      ((Exhausted options.exhaust j ∧
          (Jobs.fail error options jitter now j).status = .deadLetter) ∨
        (¬Exhausted options.exhaust j ∧ (Jobs.fail error options jitter now j).status = .pending)) := by
  unfold Jobs.fail
  split
  · rename_i exhausted
    exact ⟨deadLetter_goes .., Or.inl ⟨exhausted, rfl⟩⟩
  · rename_i left
    exact ⟨retry_goes error jitter now claimed, Or.inr ⟨left, rfl⟩⟩

theorem reap_cases (jitter : Nat) (now : Timestamp) {j : Job} (claimed : j.status = .claimed) :
    Goes j (Jobs.reap jitter now j) ∧
      ((Exhausted false j ∧ (Jobs.reap jitter now j).status = .deadLetter) ∨
        (¬Exhausted false j ∧ (Jobs.reap jitter now j).status = .pending)) := by
  unfold Jobs.reap
  split
  · rename_i exhausted
    exact ⟨deadLetter_goes .., Or.inl ⟨Or.inr exhausted, rfl⟩⟩
  · rename_i left
    refine ⟨retry_goes _ jitter now claimed, Or.inr ⟨?_, rfl⟩⟩
    rintro (never | exhausted)
    · cases never
    · exact left exhausted

theorem jobsAside_failJob {new : Job → Prop} (jobs : JobTable) (jobID : UUID) (workerID : String)
    (leaseGeneration : Nat) (error : String) (options : Jobs.FailOptions) (jitter : Nat)
    (now clock : Timestamp) :
    JobsAside (fun j => j.Owned jobID workerID leaseGeneration clock ∧ Exhausted options.exhaust j)
      new jobs (Jobs.failJob jobs jobID workerID leaseGeneration error options jitter now clock).1 := by
  refine .updateWhere jobs _ (Jobs.fail error options jitter now)
    (Jobs.fail_id error options jitter now) fun j _ held => ?_
  have owned := of_decide_eq_true held
  obtain ⟨goes, ⟨exhausted, -⟩ | ⟨-, pending⟩⟩ := fail_cases error options jitter now owned.2.2.2.1
  · exact ⟨goes, fun _ _ => Or.inr ⟨owned, exhausted⟩⟩
  · exact ⟨goes, fun _ _ => Or.inl (Or.inl pending)⟩

/-- The reaper takes the job, and ends it. -/
def Reaped (candidateIDs : List UUID) (now : Timestamp) (j : Job) : Prop :=
  (j.id ∈ candidateIDs ∧ Jobs.Stale now j) ∧ Exhausted false j
  deriving Decidable

theorem jobsAside_requeueStaleJobs {new : Job → Prop} (jobs : JobTable) (candidateIDs : List UUID)
    (jitter : UUID → Nat) (now : Timestamp) :
    JobsAside (Reaped candidateIDs now) new jobs
      (Jobs.requeueStaleJobs jobs candidateIDs jitter now).1 := by
  refine .updateWhere jobs _ (fun j => Jobs.reap (jitter j.id) now j)
    (fun j => Jobs.reap_id (jitter j.id) now j) fun j _ stale => ?_
  have taken := of_decide_eq_true stale
  obtain ⟨goes, ⟨exhausted, -⟩ | ⟨-, pending⟩⟩ := reap_cases (jitter j.id) now taken.2.1
  · exact ⟨goes, fun _ _ => Or.inr ⟨taken, exhausted⟩⟩
  · exact ⟨goes, fun _ _ => Or.inl (Or.inl pending)⟩

end Opslane.Tickets.Confirmations
