import Opslane.Tickets.LaneFailures

/-!
# Executions, their jobs and their batches

What an execution remembers of its ticket and its batch agrees with the row of its job; a
confirmation has its batch to itself, and while it waits or works the batch is staging, as
long as its ticket lives.
-/

namespace Opslane.Tickets.Confirmations

open Jobs (Job)
open Transition (Machine committed)

/-- The ticket and the batch an execution works on. -/
def Memory.subject : Memory → Option (FrictionTicket × Option UUID)
  | .selected t batchID | .staging t batchID _ | .reading t batchID _ _ => some (t, some batchID)
  | .planning t batchID | .sawIncident t batchID _ | .previewed t batchID _ _ => some (t, batchID)
  | .judging plan batchID _ | .asking plan batchID _ _ | .planned plan batchID =>
    some (plan.ticket, batchID)
  | .unplanned | .ended => none

/-- What an execution remembers agrees with the row of its job. -/
structure Works (s : ConfirmStore) (job : FrictionJob) (t : FrictionTicket) (batchID : Option UUID) :
    Prop where
  ticket : t.id = job.ticketID
  batch : ∀ id, batchID = some id → jobBatch s.store job.id = some id

def TerminalIn (s : TicketStore) (ticketID : UUID) : Prop :=
  ∃ t ∈ s.tickets.rows, t.id = ticketID ∧ t.status.Terminal

/-- The batch of a job. -/
structure BatchOf (s : ConfirmStore) (j : Job) (id : UUID) : Prop where
  confirms : j.jobType = .frictionConfirm
  selected : (s.selection id).jobID = j.id
  row : ∃ b, s.store.evidence.batches.find? id = some b ∧ j.ticketID = some b.ticketID ∧
    (j.Active → b.status = .staging ∨ TerminalIn s.store b.ticketID)

structure Linked (s : ConfirmStore) : Prop where
  placed : ∀ j ∈ s.store.jobs.rows, Lane j → OfTicket s.store j
  batch : ∀ j ∈ s.store.jobs.rows, Lane j → ∀ id, j.batchID = some id → BatchOf s j id
  memory : ∀ job m t batchID, s.memory job = some m → Memory.subject m = some (t, batchID) →
    Works s job t batchID
  one : OneActive s.store.jobs

theorem linked_empty : Linked .empty where
  placed j member := by cases member
  batch j member := by cases member
  memory _ _ _ _ remembered := by cases remembered
  one j member := by cases member

variable {id : UUID}

theorem Linked.only {s : ConfirmStore} (linked : Linked s) {j k : Job}
    (member : j ∈ s.store.jobs.rows) (memberK : k ∈ s.store.jobs.rows) (lane : Lane j)
    (laneK : Lane k) (batch : j.batchID = some id) (batchK : k.batchID = some id) :
    j = k :=
  s.store.jobs.inj member memberK
    ((linked.batch j member lane id batch).selected.symm.trans
      (linked.batch k memberK laneK id batchK).selected)

/-- Tickets stay where they are, and stay terminal. -/
def TicketsStay (s s' : TicketStore) : Prop :=
  ∀ t ∈ s.tickets.rows, ∃ t' ∈ s'.tickets.rows, t.SamePlace t' ∧
    (t.status.Terminal → t'.status.Terminal)

variable {s s' : TicketStore} {j : Job}

theorem TicketsStay.ofTicket (stay : TicketsStay s s') (fits : OfTicket s j) : OfTicket s' j := by
  obtain ⟨t, member, own, project⟩ := fits
  obtain ⟨t', member', place, -⟩ := stay t member
  exact ⟨t', member', own.trans (congrArg some place.1.symm), place.2.1.trans project⟩

theorem TicketsStay.terminalIn (stay : TicketsStay s s') {ticketID : UUID}
    (terminal : TerminalIn s ticketID) : TerminalIn s' ticketID := by
  obtain ⟨t, member, own, ended⟩ := terminal
  obtain ⟨t', member', place, still⟩ := stay t member
  exact ⟨t', member', place.1.trans own, still ended⟩

theorem RowsAside.stay (aside : RowsAside s s') : TicketsStay s s' := by
  intro t member
  obtain ⟨t', member', row⟩ := aside.forth t member
  exact ⟨t', member', row.place, row.terminal⟩

theorem RowsMove.stay (moves : RowsMove s s') : TicketsStay s s' := by
  intro t member
  obtain ⟨t', member', aside | rfl⟩ := moves.forth member
  · exact ⟨t', member', aside.place, aside.terminal⟩
  · exact ⟨_, member', ⟨rfl, rfl, rfl⟩, fun terminal => terminal⟩

/-- A batch is as it was, unless its ticket is terminal or its job over. -/
def BatchesStay (s s' : ConfirmStore) : Prop :=
  ∀ id b, s.store.evidence.batches.find? id = some b →
    ∃ b', s'.store.evidence.batches.find? id = some b' ∧ b'.ticketID = b.ticketID ∧
      (b'.status = b.status ∨ TerminalIn s'.store b.ticketID ∨
        ∀ j ∈ s'.store.jobs.rows, Lane j → j.batchID = some id → ¬j.Active)

variable {s s' : ConfirmStore}

theorem BatchesStay.of_eq (batches : s'.store.evidence.batches = s.store.evidence.batches) :
    BatchesStay s s' :=
  fun id b found => ⟨b, by rw [batches, found], rfl, Or.inl rfl⟩

theorem JobsAside.batch {ended new : Job → Prop} {s s' : TicketStore}
    (aside : JobsAside ended new s.jobs s'.jobs) {jobID id : UUID}
    (batch : jobBatch s jobID = some id) : jobBatch s' jobID = some id := by
  obtain ⟨j, found, own⟩ := Option.bind_eq_some_iff.mp batch
  obtain ⟨j', member', goes, -⟩ := aside.forth j (Table.mem_of_find? found)
  have found' : s'.jobs.find? jobID = some j' := by
    rw [← Table.key_of_find? found, ← goes.id]
    exact s'.jobs.find?_key member'
  rw [jobBatch, found', Option.bind_some, goes.batchID, own]

/-- Every execution works on what it worked on, or on what its job says, or has stopped. -/
def SubjectsStay (s s' : ConfirmStore) : Prop :=
  ∀ job m' t batchID, s'.memory job = some m' → Memory.subject m' = some (t, batchID) →
    (∃ m, s.memory job = some m ∧ Memory.subject m = some (t, batchID)) ∨ Works s' job t batchID

theorem SubjectsStay.of_eq (memory : s'.memory = s.memory) : SubjectsStay s s' :=
  fun _ m' _ _ remembered known => Or.inl ⟨m', memory ▸ remembered, known⟩

variable {job : FrictionJob}

theorem SubjectsStay.remember {m' : Memory}
    (memory : s'.memory = Function.update s.memory job (some m'))
    (subject : ∀ t batchID, Memory.subject m' = some (t, batchID) →
      (∃ m, s.memory job = some m ∧ Memory.subject m = some (t, batchID)) ∨ Works s' job t batchID) :
    SubjectsStay s s' := by
  intro job' n t batchID remembered own
  rw [memory] at remembered
  by_cases same : job' = job
  · rw [same, Function.update_self, Option.some.injEq] at remembered
    rw [same]
    exact subject t batchID (remembered ▸ own)
  · rw [Function.update_of_ne same] at remembered
    exact Or.inl ⟨n, remembered, own⟩

theorem Linked.of_stay (linked : Linked s) {ended : Job → Prop}
    (tickets : TicketsStay s.store s'.store)
    (jobs : JobsAside ended (OfTicket s'.store) s.store.jobs s'.store.jobs)
    (selection : s'.selection = s.selection) (batches : BatchesStay s s')
    (memory : SubjectsStay s s') : Linked s' where
  placed j' member' lane := by
    rcases jobs.back j' member' with ⟨j, member, goes⟩ | ⟨-, fits⟩
    · exact lasting_ofTicket _ j j' goes
        (tickets.ofTicket (linked.placed j member (goes.lane.mp lane)))
    · exact (fits lane).2
  batch j' member' lane id own := by
    rcases jobs.back j' member' with ⟨j, member, goes⟩ | ⟨-, fits⟩
    · obtain ⟨confirms, selected, b, found, ticket, alive⟩ :=
        linked.batch j member (goes.lane.mp lane) id (goes.batchID.symm.trans own)
      obtain ⟨b', found', ticket', same⟩ := batches id b found
      refine ⟨goes.jobType.trans confirms, ?_, b', found', ?_, fun active => ?_⟩
      · rw [selection, goes.id, selected]
      · rw [goes.ticketID, ticket, ticket']
      · rw [ticket']
        rcases same with status | terminal | over_
        · rw [status]
          exact (alive (goes.was active)).imp_right tickets.terminalIn
        · exact Or.inr terminal
        · exact absurd active (over_ j' member' lane own)
    · rw [(fits lane).1] at own
      cases own
  memory job m' t batchID remembered subject := by
    rcases memory job m' t batchID remembered subject with ⟨m, before, own⟩ | works
    · obtain ⟨ticket, batch⟩ := linked.memory job m t batchID before own
      exact ⟨ticket, fun id same => jobs.batch (batch id same)⟩
    · exact works
  one := jobs.one linked.one

variable {ended new : Job → Prop}

theorem Linked.over_batch (linked : Linked s)
    (jobs : JobsAside ended new s.store.jobs s'.store.jobs) (member : j ∈ s'.store.jobs.rows)
    (lane : Lane j) (batch : j.batchID = some id) (over_ : ¬j.Active) :
    ∀ k ∈ s'.store.jobs.rows, Lane k → k.batchID = some id → ¬k.Active := by
  have origin : ∀ k ∈ s'.store.jobs.rows, Lane k → k.batchID = some id →
      ∃ k₀ ∈ s.store.jobs.rows, Goes k₀ k := by
    intro k present laneK batchK
    rcases jobs.back k present with old | ⟨-, fits⟩
    · exact old
    · rw [(fits laneK).1] at batchK
      cases batchK
  intro k present laneK batchK
  obtain ⟨j₀, member₀, goes⟩ := origin j member lane batch
  obtain ⟨k₀, present₀, goesK⟩ := origin k present laneK batchK
  have same := linked.only member₀ present₀ (goes.lane.mp lane) (goesK.lane.mp laneK)
    (goes.batchID.symm.trans batch) (goesK.batchID.symm.trans batchK)
  have own : j = k := s'.store.jobs.inj member present
    (goes.id.trans ((congrArg Job.id same).trans goesK.id.symm))
  exact own ▸ over_

variable {t : FrictionTicket}

theorem appliedTransition_terminal (c : ConfirmSettings) (s : TicketStore)
    (terminal : t.status.Terminal) (plan : TransitionPlan) :
    appliedTransition c s t plan = .unchanged := by
  have none_ : lockedTransition s t = .none := if_pos terminal
  rw [appliedTransition, none_]

variable {a : AppliedTransition}

theorem ownRows_place {t u : FrictionTicket} (row : u ∈ ownRows t a) :
    t.SamePlace u := by
  cases a with
  | deferred | folded | activated | unchanged =>
    rw [List.mem_singleton.mp row]
    exact ⟨rfl, rfl, rfl⟩
  | unpublished | refreshed => rcases List.mem_pair.mp row with rfl | rfl <;> exact ⟨rfl, rfl, rfl⟩

variable {c : ConfirmSettings} {plan : TransitionPlan} {m : Memory}

theorem RowsApply.stay {x : ConfirmStore} (applies : RowsApply c s s' job m plan x t) :
    TicketsStay s.store s'.store := by
  obtain ⟨current, f, frame, found, rfl, tickets, -, kind⟩ := applies.prepares.row
  have kept : ∀ u : FrictionTicket, u.SamePlace (f u) ∧ (f u).status = u.status := by
    rcases kind with ⟨rfl, -⟩ | ⟨⟨count, rfl⟩, -⟩ <;> exact fun _ => ⟨⟨rfl, rfl, rfl⟩, rfl⟩
  intro u member
  by_cases own : u.id = current.id
  · obtain rfl : u = current := ticket_of_id found member own
    obtain ⟨u', row, found'⟩ := applies.rows.own (f u) applies.known
    obtain ⟨id, project, environment⟩ := ownRows_place row
    obtain ⟨place, status⟩ := kept u
    refine ⟨u', Table.mem_of_find? found', ⟨id.trans place.1, project.trans place.2.1,
      environment.trans place.2.2⟩, fun terminal => ?_⟩
    have ended : (f u).status.Terminal := status ▸ terminal
    rw [appliedTransition_terminal c x.store ended plan] at row
    rw [List.mem_singleton.mp row]
    exact ended
  · have still : u ∈ x.store.tickets.rows := by
      rw [tickets]
      exact (Table.mem_updateWhere ..).mpr ⟨u, member, by simp [own]⟩
    obtain ⟨u', member', row⟩ := applies.rows.others u still ((frame current).symm ▸ own)
    exact ⟨u', member', row.place, row.terminal⟩

/-- The ticket of the job is terminal. -/
def Retired (s : TicketStore) (j : Job) : Prop :=
  ∃ ticketID, j.ticketID = some ticketID ∧ TerminalIn s ticketID

theorem settled_retired (s : TicketStore) : Settled (Retired s) :=
  fun _ _ goes ⟨ticketID, own, terminal⟩ => ⟨ticketID, goes.ticketID.symm.trans own, terminal⟩

theorem settled_id (jobID : UUID) : Settled fun j => j.id = jobID :=
  fun _ _ goes own => goes.id.symm.trans own

theorem settled_or {p q : Job → Prop} (first : Settled p) (second : Settled q) :
    Settled fun j => p j ∨ q j :=
  fun j j' goes ends => ends.imp (first j j' goes) (second j j' goes)

theorem settled_false : Settled fun _ => False := fun _ _ _ never => never

theorem jobsAside_ticket {s : TicketStore} {a : Tickets.Action} (beside : Beside s a) :
    JobsAside (Retired (Tickets.step s a)) (OfTicket (Tickets.step s a)) s.jobs
      (Tickets.step s a).jobs := by
  refine (besides_step beside).rows.jobs.mono ?_ fun _ fits => fits
  rintro j ⟨ticketID, own, t, member, same, archived⟩
  exact ⟨ticketID, own, t, member, same, Or.inr archived⟩

theorem jobsAside_schedule (s : TicketStore) (draw : UUID → UUID) (now : Timestamp) :
    JobsAside (fun _ => False) (OfTicket s) s.jobs
      (scheduleFrictionReconciliation s draw now).jobs := by
  have each : ∀ (ts : List FrictionTicket), (∀ t ∈ ts, t ∈ s.tickets.rows) → ∀ jobs,
      JobsAside (fun _ => False) (OfTicket s) jobs
        (ts.foldl (fun jobs t => Jobs.enqueueJobTx jobs (reconcileJob t (draw t.id) now)) jobs) := by
    intro ts
    induction ts with
    | nil => exact fun _ => .refl
    | cons t rest ih =>
      intro known jobs
      refine .trans settled_false (lasting_ofTicket s) (.enqueueJobTx jobs fun _ => ⟨rfl, ?_⟩)
        (ih (fun u member => known u (List.mem_cons_of_mem t member)) _)
      exact ⟨t, known t (List.mem_cons_self ..), rfl, rfl⟩
  exact each _ (fun t member => (List.mem_filter.mp member).1) s.jobs

theorem settleTerminal_jobs (s : TicketStore) (jobID ticketID : UUID) :
    (settleTerminal s jobID ticketID).jobs = s.jobs := by
  unfold settleTerminal
  cases jobBatch s jobID with
  | none => rfl
  | some id => exact discardBatch_jobs s id

theorem jobsAside_keep (kept : jobBatch s.store job.id = some id) :
    JobsAside ended new s.store.jobs (keep s job id).store.jobs := by
  refine .updateWhere s.store.jobs _ (keepBatch id) (fun _ => rfl) fun j member own => ?_
  obtain ⟨k, found, batch⟩ := Option.bind_eq_some_iff.mp kept
  obtain rfl : j = k := s.store.jobs.inj member (Table.mem_of_find? found)
    ((of_decide_eq_true own).trans (Table.key_of_find? found).symm)
  exact ⟨⟨rfl, rfl, rfl, rfl, batch.symm, le_rfl, fun active => active⟩,
    fun _ active => Or.inl active⟩

theorem abandonBatch_jobs (s : TicketStore) (t : FrictionTicket) (batchID : UUID) :
    (abandonBatch s t batchID).jobs = s.jobs := by
  unfold abandonBatch
  dsimp only
  split <;> exact discardBatch_jobs s batchID

theorem Prepares.jobs {s x : ConfirmStore} (prepares : Prepares s job m plan x t) :
    x.store.jobs = s.store.jobs := by
  cases prepares with
  | finalized _ _ _ finalizes => exact finalizes.jobs
  | counted => rfl

theorem Carried.retires {ticketID : UUID} {s s' : TicketStore} (carried : Carried ticketID a s s')
    (known : s.tickets.find? ticketID = some t) :
    JobsAside (Retired s') (OfTicket s') s.jobs s'.jobs := by
  refine carried.jobs.mono ?_ fun _ fits => fits
  rintro j ⟨folds, own⟩
  obtain ⟨u, row, found⟩ := carried.rows.own t known
  cases a with
  | folded target =>
    refine ⟨ticketID, own, u, Table.mem_of_find? found, Table.key_of_find? found, Or.inl ?_⟩
    rw [List.mem_singleton.mp row]
    rfl
  | deferred | activated | unpublished | refreshed | unchanged => cases folds

variable {d : FinalDraws}

theorem Concludes.jobs {s s₁ : ConfirmStore} {next : Bool}
    (concludes : Concludes c s job d m next s₁) :
    JobsAside (Retired s₁.store) (OfTicket s₁.store) s.store.jobs s₁.store.jobs := by
  cases concludes with
  | gone | again | unknown | terminal | outdated => exact .of_eq rfl
  | stale => exact .of_eq (abandonBatch_jobs ..)
  | applied prepares applied =>
    rw [← prepares.jobs]
    exact (carried_carryOut c prepares.known applied).retires prepares.known

variable {now : Timestamp}

theorem Queues.jobs {jobID : UUID} (queues : Queues s job jobID now s') :
    JobsAside ended (OfTicket s'.store) s.store.jobs s'.store.jobs := by
  cases queues with
  | gone | terminal | finished => exact .refl _
  | @queued t availableAt found free =>
    refine .enqueueJobTx s.store.jobs fun _ => ⟨rfl, t, ?_, rfl, rfl⟩
    exact Table.mem_of_find? (getTicket_eq_some_iff.mp found).1

theorem finish_jobs (final : Memory.Final m) (done : finish c s job d m = .ok s') :
    JobsAside (fun j => Retired s'.store j ∨ j.id = job.id) (OfTicket s'.store) s.store.jobs
      s'.store.jobs := by
  obtain ⟨-, next, s₁, concludes, -, last⟩ := finish_concludes final done
  have settled := settled_or (settled_retired s'.store) (settled_id job.id)
  have lasting := lasting_ofTicket s'.store
  have tickets : s'.store.tickets = s₁.store.tickets := by
    split at last
    · exact last.tickets
    · rw [last]
      rfl
  have first : JobsAside (fun j => Retired s'.store j ∨ j.id = job.id) (OfTicket s'.store)
      s.store.jobs s₁.store.jobs := by
    refine concludes.jobs.mono ?_ ?_
    · rintro j ⟨ticketID, own, t, member, rest⟩
      exact Or.inl ⟨ticketID, own, t, tickets ▸ member, rest⟩
    · rintro j ⟨t, member, rest⟩
      exact ⟨t, tickets ▸ member, rest⟩
  have second : JobsAside (fun j => Retired s'.store j ∨ j.id = job.id) (OfTicket s'.store)
      s₁.store.jobs (complete s₁ job).store.jobs :=
    (jobsAside_complete s₁.store.jobs job.id).mono (fun _ own => Or.inr own) fun _ fits => fits
  split at last
  · exact (first.trans settled lasting second).trans settled lasting last.jobs
  · rw [last] at first second settled lasting ⊢
    exact first.trans settled lasting second

variable {b : ConfirmBatch}

theorem EvidenceAside.batch {gone : String → Bool} {s s' : TicketStore}
    (aside : EvidenceAside gone s s') (found : s.evidence.batches.find? id = some b) :
    ∃ b', s'.evidence.batches.find? id = some b' ∧ b'.ticketID = b.ticketID ∧
      (b'.status = b.status ∨ TerminalIn s' b.ticketID) := by
  obtain ⟨q, chosen, rows⟩ := aside.batches
  have key : b.id = id := Table.key_of_find? found
  refine ⟨if q b then b.discard else b, ?_, ?_, ?_⟩
  · rw [Table.find?_eq_some_iff, rows]
    refine ⟨List.mem_map.mpr ⟨b, Table.mem_of_find? found, rfl⟩, ?_⟩
    split
    · exact key
    · exact key
  · split <;> rfl
  · by_cases discards : q b = true
    · obtain ⟨-, t, member, own, archived⟩ := chosen b discards
      exact Or.inr ⟨t, member, own, Or.inr archived⟩
    · rw [if_neg discards]
      exact Or.inl rfl

theorem discardBatch_batch (s : TicketStore) (batchID : UUID)
    (found : s.evidence.batches.find? id = some b) :
    ∃ b', (discardBatch s batchID).evidence.batches.find? id = some b' ∧ b'.ticketID = b.ticketID ∧
      (b'.status = b.status ∨ id = batchID) := by
  obtain ⟨batches, evidence, lookup⟩ := discardBatch_evidence s batchID
  refine ⟨_, by rw [evidence, lookup, found, Option.map_some], ?_, ?_⟩
  · split <;> rfl
  · by_cases discards : id = batchID ∧ b.status = .staging
    · exact Or.inr discards.1
    · rw [if_neg discards]
      exact Or.inl rfl

theorem settleTerminal_batch {s : TicketStore} (jobID ticketID : UUID)
    (found : s.evidence.batches.find? id = some b) :
    ∃ b', (settleTerminal s jobID ticketID).evidence.batches.find? id = some b' ∧
      b'.ticketID = b.ticketID ∧ (b'.status = b.status ∨ jobBatch s jobID = some id) := by
  unfold settleTerminal
  cases batch : jobBatch s jobID with
  | none => exact ⟨b, found, rfl, Or.inl rfl⟩
  | some batchID =>
    obtain ⟨b', found', ticket, same⟩ := discardBatch_batch s batchID found
    exact ⟨b', found', ticket, same.imp_right fun own => congrArg some own.symm⟩

theorem Concludes.batches {s s₁ : ConfirmStore} {next : Bool}
    (concludes : Concludes c s job d m next s₁)
    (found : s.store.evidence.batches.find? id = some b) :
    ∃ b', s₁.store.evidence.batches.find? id = some b' ∧ b'.ticketID = b.ticketID ∧
      (b'.status = b.status ∨ TerminalIn s₁.store b.ticketID ∨ ∃ plan, m = .planned plan (some id)) := by
  cases concludes with
  | gone | again | unknown | terminal | outdated => exact ⟨b, found, rfl, Or.inl rfl⟩
  | @stale plan batchID current =>
    have evidence : (abandonBatch s.store current batchID).evidence =
        (discardBatch s.store batchID).evidence := by
      unfold abandonBatch
      dsimp only
      split <;> rfl
    obtain ⟨b', found', ticket, same | rfl⟩ := discardBatch_batch s.store batchID found
    · exact ⟨b', by rw [evidence, found'], ticket, Or.inl same⟩
    · exact ⟨b', by rw [evidence, found'], ticket, Or.inr (Or.inr ⟨plan, rfl⟩)⟩
  | @applied m plan x t store prepares applied =>
    have prepared : ∃ b₁, x.store.evidence.batches.find? id = some b₁ ∧ b₁.ticketID = b.ticketID ∧
        (b₁.status = b.status ∨ ∃ plan, m = .planned plan (some id)) := by
      cases prepares with
      | counted => exact ⟨b, found, rfl, Or.inl rfl⟩
      | @finalized plan batchID current x _ _ _ finalizes =>
        rw [finalizes.evidence]
        have lookup := Table.find?_updateKey s.store.evidence.batches batchID ConfirmBatch.finalize
          (fun _ => rfl) id
        rw [found] at lookup
        by_cases own : id = batchID
        · subst own
          rw [if_pos rfl, found] at lookup
          exact ⟨b.finalize, lookup, rfl, Or.inr ⟨plan, rfl⟩⟩
        · rw [if_neg own] at lookup
          exact ⟨b, lookup, rfl, Or.inl rfl⟩
    obtain ⟨b₁, found₁, ticket₁, same₁⟩ := prepared
    obtain ⟨b', found', ticket', same'⟩ :=
      (carried_carryOut c prepares.known applied).evidence.batch found₁
    refine ⟨b', found', ticket'.trans ticket₁, ?_⟩
    rcases same' with same | terminal
    · rcases same₁ with same₁ | own
      · exact Or.inl (same.trans same₁)
      · exact Or.inr (Or.inr own)
    · exact Or.inr (Or.inl (ticket₁ ▸ terminal))

theorem linked_ticket (linked : Linked s) {a : Tickets.Action} (beside : Beside s.store a)
    (retries : Table UnavailableRetry.key) :
    Linked { s with store := Tickets.step s.store a, retries } := by
  refine linked.of_stay (besides_step beside).rows.rowsAside.stay (jobsAside_ticket beside) rfl ?_
    (.of_eq rfl)
  intro id b found
  obtain ⟨b', found', ticket, same⟩ := (besides_step beside).evidence.batch found
  exact ⟨b', found', ticket, same.imp_right Or.inl⟩

theorem complete_over (member : j ∈ (complete s job).store.jobs.rows) (own : j.id = job.id) :
    ¬j.Active := by
  obtain ⟨k, -, rfl⟩ := (Table.mem_updateWhere s.store.jobs _ completed (fun _ => rfl) j).mp member
  have named : k.id = job.id := by
    split at own
    · exact own
    · exact own
  rw [if_pos (decide_eq_true named)]
  rintro (pending | claimed)
  · cases pending
  · cases claimed

theorem JobsAside.held {s s' : TicketStore} {type : Jobs.JobType} {clock : Timestamp}
    (aside : JobsAside ended new s.jobs s'.jobs) (holds : HoldsJob s job type clock) :
    ∃ j ∈ s.jobs.rows, ∃ j' ∈ s'.jobs.rows, j.id = job.id ∧ Goes j j' ∧
      s.jobs.find? job.id = some j ∧ j.jobType = type := by
  obtain ⟨j, found, id, -, -, kind, -⟩ := holdsJob_row holds
  obtain ⟨j', member', goes, -⟩ := aside.forth j (Table.mem_of_find? found)
  exact ⟨j, Table.mem_of_find? found, j', member', id, goes, found, kind⟩

theorem Linked.over_held (linked : Linked s) (jobs : JobsAside ended new s.store.jobs s'.store.jobs)
    {clock : Timestamp} (holds : HoldsJob s.store job .frictionConfirm clock)
    (batch : jobBatch s.store job.id = some id)
    (over_ : ∀ j ∈ s'.store.jobs.rows, j.id = job.id → ¬j.Active) :
    ∀ k ∈ s'.store.jobs.rows, Lane k → k.batchID = some id → ¬k.Active := by
  obtain ⟨j, member, j', member', own, goes, found, kind⟩ := jobs.held holds
  rw [jobBatch, found, Option.bind_some] at batch
  refine linked.over_batch jobs member' (goes.lane.mpr (Or.inl kind)) (goes.batchID.trans batch) ?_
  exact over_ j' member' (goes.id.trans own)

theorem TicketsStay.refl (s : TicketStore) : TicketsStay s s :=
  fun t member => ⟨t, member, ⟨rfl, rfl, rfl⟩, fun terminal => terminal⟩

variable {batchID : UUID}

theorem Linked.unused (linked : Linked s) (free : s.store.evidence.batches.find? batchID = none)
    (member : j ∈ s.store.jobs.rows) (lane : Lane j) : j.batchID ≠ some batchID := by
  intro own
  obtain ⟨b, found, -⟩ := (linked.batch j member lane batchID own).row
  rw [free] at found
  cases found

variable {now clock : Timestamp}

theorem linked_selected {s s₁ : ConfirmStore} (linked : Linked s)
    (holds : HoldsJob s.store job .frictionConfirm clock)
    (found : s.store.getTicket job.projectID job.ticketID = some t)
    (unused : jobBatch s.store job.id = none) (selects : Selects s t job.id batchID now s₁)
    (stay : TicketsStay s.store s₁.store) :
    Linked ((keep s₁ job batchID).remember job (some (.selected t batchID))) := by
  obtain ⟨j, row, own, -, ofTicket, confirms, -⟩ := holdsJob_row holds
  obtain ⟨free, -⟩ := Table.insert?_spec selects.batches
  have old : ∀ k' ∈ (keep s₁ job batchID).store.jobs.rows, ∃ k ∈ s.store.jobs.rows,
      k' = if k.id = job.id then keepBatch batchID k else k := by
    intro k' member
    obtain ⟨k, present, rfl⟩ := (Table.mem_updateWhere s₁.store.jobs _ (keepBatch batchID)
      (fun _ => rfl) k').mp member
    exact ⟨k, selects.jobs ▸ present, by simp⟩
  have same : ∀ k, Lane (if k.id = job.id then keepBatch batchID k else k) → Lane k := by
    intro k lane
    split at lane
    · exact lane
    · exact lane
  have batches : ∀ id, id ≠ batchID → s₁.store.evidence.batches.find? id =
      s.store.evidence.batches.find? id := by
    intro id other
    rw [Table.find?_insert? selects.batches, if_neg other]
  constructor
  · intro k' member lane
    obtain ⟨k, present, rfl⟩ := old k' member
    obtain ⟨u, memberU, fits⟩ := stay.ofTicket (linked.placed k present (same k lane))
    refine ⟨u, memberU, ?_⟩
    split
    · exact fits
    · exact fits
  · intro k' member lane id batch
    obtain ⟨k, present, rfl⟩ := old k' member
    by_cases mine : k.id = job.id
    · obtain rfl : k = j := s.store.jobs.inj present
        (Table.mem_of_find? row) (mine.trans own.symm)
      rw [if_pos mine] at batch ⊢
      obtain rfl : batchID = id := Option.some.inj batch
      refine ⟨confirms, ?_, ⟨batchID, t.id, .staging⟩, ?_, ?_, fun _ => Or.inl rfl⟩
      · exact (congrArg Selection.jobID ((congrFun selects.selection batchID).trans
          (Function.update_self ..))).trans own.symm
      · exact (Table.find?_insert? selects.batches batchID).trans (if_pos rfl)
      · exact ofTicket.trans (congrArg some (id_of_getTicket found).symm)
    · rw [if_neg mine] at batch lane ⊢
      have other : id ≠ batchID := fun eq => linked.unused free present lane (eq ▸ batch)
      obtain ⟨confirmsK, selected, b, known, ticket, alive⟩ := linked.batch k present lane id batch
      refine ⟨confirmsK, ?_, b, (batches id other).trans known, ticket, fun active => ?_⟩
      · exact (congrArg Selection.jobID ((congrFun selects.selection id).trans
          (Function.update_of_ne other ..))).trans selected
      · exact (alive active).imp_right stay.terminalIn
  · intro job' m' t' batchID' remembered subject
    have update : ((keep s₁ job batchID).remember job (some (.selected t batchID))).memory =
        Function.update s.memory job (some (.selected t batchID)) :=
      congrArg (Function.update · job _) selects.memory
    rw [update] at remembered
    have lookup : ∀ id, id ≠ job.id → jobBatch (keep s₁ job batchID).store id = jobBatch s.store id := by
      intro id other
      refine congrArg (Option.bind · _) ((Table.find?_updateKey s₁.store.jobs job.id (keepBatch batchID)
        (fun _ => rfl) id).trans ?_)
      rw [if_neg other, selects.jobs]
    by_cases mine : job' = job
    · subst mine
      rw [Function.update_self, Option.some.injEq] at remembered
      subst remembered
      cases subject
      refine ⟨id_of_getTicket found, fun id same => ?_⟩
      obtain rfl : batchID = id := Option.some.inj same
      refine (congrArg (Option.bind · _) ((Table.find?_updateKey s₁.store.jobs job'.id
        (keepBatch batchID) (fun _ => rfl) job'.id).trans ?_)).trans (?_ : (some (keepBatch batchID j)).bind
          (fun j => j.batchID) = some batchID)
      · rw [if_pos rfl, selects.jobs, row, Option.map_some]
      · rfl
    · rw [Function.update_of_ne mine] at remembered
      obtain ⟨ticket, batch⟩ := linked.memory job' m' t' batchID' remembered subject
      refine ⟨ticket, fun id same => ?_⟩
      have other : job'.id ≠ job.id := by
        intro eq
        have before := batch id same
        rw [eq, unused] at before
        cases before
      exact (lookup job'.id other).trans (batch id same)
  · intro a' memberA b' memberB lane type some_ ticket active activeB
    obtain ⟨a, presentA, rfl⟩ := old a' memberA
    obtain ⟨b, presentB, rfl⟩ := old b' memberB
    have shape : ∀ k : Job, (if k.id = job.id then keepBatch batchID k else k).jobType = k.jobType ∧
        (if k.id = job.id then keepBatch batchID k else k).ticketID = k.ticketID ∧
        ((if k.id = job.id then keepBatch batchID k else k).Active → k.Active) := by
      intro k
      split <;> exact ⟨rfl, rfl, fun active => active⟩
    rw [(shape a).1, (shape b).1] at type
    rw [(shape a).2.1, (shape b).2.1] at ticket
    rw [(shape a).2.1] at some_
    rw [linked.one a presentA b presentB (same a lane) type some_ ticket ((shape a).2.2 active)
      ((shape b).2.2 activeB)]

theorem linked_begins (linked : Linked s) (holds : HoldsJob s.store job .frictionConfirm clock)
    (begins : Begins s job batchID now s') :
    Linked s' := by
  cases begins with
  | gone | lost | idle =>
    exact linked.of_stay (.refl _) (jobsAside_complete s.store.jobs job.id) rfl (.of_eq rfl)
      (.of_eq rfl)
  | @terminal t found ended =>
    have own := id_of_getTicket found
    have row := (getTicket_eq_some_iff.mp found).1
    have stay : TicketsStay s.store (settleTerminal s.store job.id t.id) :=
      (rowsAside_settleTerminal job.id (own ▸ row) ended).stay
    have same : (complete { s with store := settleTerminal s.store job.id t.id } job).store.jobs =
        s.store.jobs.updateKey job.id completed fun _ => rfl :=
      congrArg (fun jobs => Table.updateKey jobs job.id completed fun _ => rfl) (settleTerminal_jobs ..)
    have jobs : JobsAside (fun j => j.id = job.id) (OfTicket (settleTerminal s.store job.id t.id))
        s.store.jobs (complete { s with store := settleTerminal s.store job.id t.id } job).store.jobs := by
      rw [same]
      exact jobsAside_complete ..
    refine linked.of_stay stay jobs rfl ?_ (.of_eq rfl)
    intro id b known
    obtain ⟨b', known', ticket, kept⟩ := settleTerminal_batch job.id t.id known
    refine ⟨b', known', ticket, kept.imp_right fun batch => Or.inr ?_⟩
    exact linked.over_held jobs holds batch fun j member same => complete_over member same
  | @resumed t b found live kept own mine =>
    have jobs : JobsAside (fun _ => False) (OfTicket s.store) s.store.jobs (keep s job b.id).store.jobs :=
      jobsAside_keep kept
    refine linked.of_stay (.refl s.store) jobs rfl (.of_eq rfl) (.remember rfl fun t' batchID' same => ?_)
    cases same
    exact Or.inr ⟨id_of_getTicket found, fun id same => by cases same; exact jobs.batch kept⟩
  | @selected t s₁ found live unused selects =>
    exact linked_selected linked holds found unused selects
      (Begins.selected found live unused selects).rows.stay

theorem Linked.remember (linked : Linked s) {m' : Memory}
    (tickets : s'.store.tickets = s.store.tickets) (jobs : s'.store.jobs = s.store.jobs)
    (batches : s'.store.evidence.batches = s.store.evidence.batches)
    (selection : s'.selection = s.selection)
    (memory : s'.memory = Function.update s.memory job (some m'))
    (subject : ∀ t batchID, Memory.subject m' = some (t, batchID) →
      (∃ m, s.memory job = some m ∧ Memory.subject m = some (t, batchID)) ∨ Works s' job t batchID) :
    Linked s' := by
  have aside : JobsAside (fun _ => False) (OfTicket s'.store) s.store.jobs s'.store.jobs := .of_eq jobs
  have stay : TicketsStay s.store s'.store := (RowsAside.of_eq tickets).stay
  exact linked.of_stay stay aside selection (.of_eq batches) (.remember memory subject)

theorem linked_beginReconcile (linked : Linked s) (job : FrictionJob) (clock : Timestamp) :
    Linked (beginReconcile s job clock) := by
  unfold beginReconcile
  split
  · exact linked.remember rfl rfl rfl rfl rfl fun _ _ known => (nomatch known)
  · split
    · exact linked.remember rfl rfl rfl rfl rfl fun _ _ known => (nomatch known)
    · rename_i t chosen
      refine linked.remember rfl rfl rfl rfl rfl fun t' batchID known => ?_
      cases known
      refine Or.inr ⟨id_of_getTicket (Option.filter_eq_some_iff.mp chosen).1, fun id same => ?_⟩
      cases same

theorem subject_judge (plan : TransitionPlan) (batchID : Option UUID) (left : List Neighbor) :
    Memory.subject (judge plan batchID left) = some (plan.ticket, batchID) := by
  cases left <;> rfl

theorem subject_readNext (c : ConfirmSettings) (s : ConfirmStore) (m : Memory) :
    Memory.subject (readNext c s m) = Memory.subject m := by
  cases m with
  | staging t batchID left =>
    cases left with
    | nil => rfl
    | cons member left =>
      rw [readNext]
      split <;> rfl
  | previewed t batchID incident stats =>
    rw [readNext]
    unfold startJudging
    dsimp only
    split
    · rfl
    · split
      · rfl
      · exact subject_judge ..
  | selected | reading | planning | sawIncident | judging | asking | planned | unplanned | ended => rfl

theorem subject_answered (plan : TransitionPlan) (batchID : Option UUID) (n : Neighbor)
    (left : List Neighbor) (oneFix : Bool) :
    Memory.subject (answered plan batchID n left oneFix) = some (plan.ticket, batchID) := by
  cases oneFix with
  | true => rfl
  | false => exact subject_judge ..

theorem linked_stageMember (linked : Linked s) {member : BatchMember} {left : List BatchMember}
    {r : CheckResult} {attemptID : UUID}
    (remembered : s.memory job = some (.reading t batchID member left))
    (stages : StagesMember s job t batchID member left r attemptID now s') : Linked s' := by
  cases stages <;>
    exact linked.remember rfl rfl rfl rfl rfl fun _ _ known => Or.inl ⟨_, remembered, known⟩

variable {left : List Neighbor}

theorem linked_readGate (linked : Linked s) {batchID : Option UUID} {n : Neighbor}
    (clock : Timestamp) (remembered : s.memory job = some (.judging plan batchID (n :: left))) :
    Linked (s.remember job (some ((readGate s job plan batchID n left clock).getD .ended))) := by
  refine linked.remember rfl rfl rfl rfl rfl fun t batchID' known => ?_
  unfold readGate at known
  split at known
  · rw [Option.getD_some, subject_answered] at known
    exact Or.inl ⟨_, remembered, known⟩
  · split at known
    · exact Or.inl ⟨_, remembered, known⟩
    · cases known

theorem linked_answerGate (linked : Linked s) {batchID : Option UUID} {n : Neighbor}
    {decisionID : UUID} {answer : GateAnswer}
    (remembered : s.memory job = some (.asking plan batchID n left))
    (done : answerGate s job plan batchID n left decisionID now answer = .ok s') : Linked s' := by
  cases answer with
  | invalid =>
    cases done
    exact linked.remember rfl rfl rfl rfl rfl fun _ _ known => Or.inl ⟨_, remembered, known⟩
  | oneFix yes =>
    obtain ⟨s₁, recorded, done⟩ := Except.of_bind done
    obtain ⟨gateDecisions, -, recorded⟩ := Except.of_bind recorded
    cases recorded
    cases done
    refine linked.remember rfl rfl rfl rfl rfl fun t batchID' known => ?_
    rw [subject_answered] at known
    exact Or.inl ⟨_, remembered, known⟩

theorem Concludes.selection {next : Bool} (concludes : Concludes c s job d m next s') :
    s'.selection = s.selection := by
  cases concludes with
  | applied prepares =>
    cases prepares with
    | finalized _ _ _ finalizes => exact finalizes.selection
    | counted => rfl
  | gone | stale | again | unknown | terminal | outdated => rfl

theorem Queues.kept {jobID : UUID} (queues : Queues s job jobID now s') :
    s'.store.evidence = s.store.evidence ∧ s'.selection = s.selection ∧
      ∀ j ∈ s'.store.jobs.rows, j ∈ s.store.jobs.rows ∨ s.store.jobs.find? j.id = none := by
  cases queues with
  | gone | terminal | finished => exact ⟨rfl, rfl, fun _ member => Or.inl member⟩
  | @queued t availableAt found free =>
    refine ⟨rfl, rfl, fun j member => ?_⟩
    change j ∈ (Jobs.enqueueJobTx s.store.jobs (nextConfirmJob t jobID availableAt now)).rows at member
    unfold Jobs.enqueueJobTx at member
    split at member
    · exact Or.inl member
    · rcases Table.mem_insertIgnore member with old | rfl
      · exact Or.inl old
      · exact Or.inr free

theorem linked_finish (linked : Linked s) (remembered : s.memory job = some m)
    (final : Memory.Final m) (done : finish c s job d m = .ok s') : Linked s' := by
  have jobs := finish_jobs final done
  have stay : TicketsStay s.store s'.store := by
    rcases rows_finish remembered final done with aside | ⟨plan, x, t, applies⟩
    · exact aside.stay
    · exact applies.stay
  obtain ⟨holds, next, s₁, concludes, still, last⟩ := finish_concludes final done
  have kept : s'.store.evidence = s₁.store.evidence ∧ s'.selection = s₁.selection ∧
      s'.store.tickets = s₁.store.tickets ∧
      ∀ j ∈ s'.store.jobs.rows, j ∈ (complete s₁ job).store.jobs.rows ∨
        (complete s₁ job).store.jobs.find? j.id = none := by
    split at last
    · obtain ⟨evidence, selection, rows⟩ := last.kept
      exact ⟨evidence, selection, last.tickets, rows⟩
    · rw [last]
      exact ⟨rfl, rfl, rfl, fun _ member => Or.inl member⟩
  obtain ⟨evidence, selection, tickets, rows⟩ := kept
  refine linked.of_stay stay jobs (selection.trans concludes.selection) ?_
    (.of_eq (same_finish final done).2)
  intro id b found
  obtain ⟨b', found', ticket, same⟩ := concludes.batches found
  refine ⟨b', by rw [evidence, found'], ticket, ?_⟩
  rcases same with same | ⟨t, member, terminal⟩ | ⟨plan, rfl⟩
  · exact Or.inl same
  · exact Or.inr (Or.inl ⟨t, tickets ▸ member, terminal⟩)
  · -- the batch of the execution is the one its job has
    have batch := (linked.memory job _ plan.ticket (some id) remembered rfl).batch id rfl
    refine Or.inr (Or.inr (linked.over_held jobs holds batch fun j member own => ?_))
    rcases rows j member with old | fresh
    · exact complete_over old own
    · obtain ⟨k, row, -⟩ := holdsJob_row still
      have present := Table.find?_updateKey s₁.store.jobs job.id completed (fun _ => rfl) job.id
      rw [if_pos rfl, row, Option.map_some] at present
      rw [own] at fresh
      cases fresh.symm.trans present

variable {dies : Job → Prop}

theorem Linked.listed (linked : Linked s) {jobs : Jobs.JobTable} {ended : List Job}
    {s' : TicketStore} (fails : Fails dies s.store jobs ended s') :
    Listed { s.store with jobs } ended where
  found := fails.found
  placed j member lane := by
    rcases fails.aside.back j (Table.mem_of_find? (fails.found j member)) with ⟨k, old, goes⟩ | ⟨-, fits⟩
    · exact lasting_ofTicket s.store k j goes (linked.placed k old (goes.lane.mp lane))
    · exact (fits lane).2.elim
  confirms j member lane id batch := by
    rcases fails.aside.back j (Table.mem_of_find? (fails.found j member)) with ⟨k, old, goes⟩ | ⟨-, fits⟩
    · exact goes.jobType.trans
        (linked.batch k old (goes.lane.mp lane) id (goes.batchID.symm.trans batch)).confirms
    · exact (fits lane).2.elim

theorem Linked.cleansUp (linked : Linked s) {jobs : Jobs.JobTable} {ended : List Job}
    {s' : TicketStore} (fails : Fails dies s.store jobs ended s') :
    CleansUp ended { s.store with jobs } s' :=
  fails.cleaned ▸ cleansUp_foldl ended _ (linked.listed fails)

theorem linked_fails (linked : Linked s) {jobs : Jobs.JobTable} {ended : List Job}
    {s' : TicketStore} (fails : Fails dies s.store jobs ended s') :
    Linked { s with store := s' } := by
  have cleans := linked.cleansUp fails
  have aside : JobsAside dies (OfTicket s') s.store.jobs s'.jobs := by
    rw [cleans.jobs]
    exact fails.aside.mono (fun _ dies => dies) fun _ never => never.elim
  have stay : TicketsStay s.store s' := by
    intro t member
    obtain ⟨t', member', row⟩ := cleans.rows.forth t member
    exact ⟨t', member', row.place, row.terminal⟩
  refine linked.of_stay stay aside rfl ?_ (.of_eq rfl)
  intro id b found
  obtain ⟨batches, evidence, lookup⟩ := cleans.evidence
  refine ⟨givenUp ended id b, ?_, ?_, ?_⟩
  · exact (congrArg (fun e => Table.find? (Evidence.batches e) id) evidence).trans
      ((lookup id).trans (congrArg (Option.map _) found))
  · unfold givenUp
    split <;> rfl
  · by_cases gives : GivesUp ended id
    · obtain ⟨j, member, lane, dead, batch⟩ := gives
      refine Or.inr (Or.inr (linked.over_batch aside (j := j) ?_ lane batch ?_))
      · exact cleans.jobs ▸ Table.mem_of_find? (fails.found j member)
      · rintro (pending | claimed)
        · cases dead.symm.trans pending
        · cases dead.symm.trans claimed
    · exact Or.inl (congrArg ConfirmBatch.status (if_neg fun both => gives both.1))

theorem linked_step (c : ConfirmSettings) (linked : Linked s) (a : Action) :
    Linked (step c s a) := by
  have stops : ∀ job, Linked (s.remember job (some .ended)) := fun job =>
    linked.remember rfl rfl rfl rfl rfl fun _ _ known => (nomatch known)
  cases a with
  | ticket a =>
    rw [step]
    split
    · rename_i beside
      exact linked_ticket linked beside _
    · exact linked
  | scheduleFrictionReconciliation draw now =>
    exact linked.of_stay (.refl s.store) (jobsAside_schedule s.store draw now) rfl (.of_eq rfl)
      (.of_eq rfl)
  | beginConfirm job batchID now clock clock' =>
    rw [step]
    split
    · exact linked
    · cases begun : Tickets.beginConfirm s job batchID now clock clock' with
      | error => exact stops job
      | ok s' =>
        obtain ⟨holds, begins⟩ := beginConfirm_begins begun
        exact linked_begins linked holds begins
  | beginReconcile job clock =>
    rw [step]
    split
    · exact linked
    · exact linked_beginReconcile linked job clock
  | read job =>
    rw [step]
    split
    · rename_i m remembered
      refine linked.remember rfl rfl rfl rfl rfl fun t batchID known => Or.inl ⟨m, remembered, ?_⟩
      rwa [subject_readNext] at known
    · exact linked
  | stageMember job r attemptID now clock clock' =>
    rw [step]
    split
    · rename_i t batchID member left remembered
      cases staged : Tickets.stageMember s job t batchID member left r attemptID now clock clock' with
      | error => exact stops job
      | ok s' => exact linked_stageMember linked remembered (stageMember_stages staged).2
    · exact linked
  | readGate job clock =>
    rw [step]
    split
    · rename_i plan batchID n left remembered
      exact linked_readGate linked clock remembered
    · exact linked
  | answerGate job answer decisionID now =>
    rw [step]
    split
    · rename_i plan batchID n left remembered
      cases answers : Tickets.answerGate s job plan batchID n left decisionID now answer with
      | error => exact stops job
      | ok s' => exact linked_answerGate linked remembered answers
    · exact linked
  | finish job d =>
    rw [step]
    split
    · rename_i m chosen
      obtain ⟨remembered, final⟩ := Option.filter_eq_some_iff.mp chosen
      cases done : finish c s job d m with
      | error => exact stops job
      | ok s' =>
        have linked' := linked_finish linked remembered (of_decide_eq_true final) done
        exact linked'.remember rfl rfl rfl rfl rfl fun _ _ known => (nomatch known)
    · exact linked
  | failJob jobID workerID leaseGeneration error options jitter now clock =>
    obtain ⟨jobs, ended, fails⟩ := fails_failJob s.store jobID workerID leaseGeneration error options
      jitter now clock
    exact linked_fails linked fails
  | requeueStaleJobs candidateIDs jitter now =>
    obtain ⟨jobs, ended, fails⟩ := fails_requeueStaleJobs s.store candidateIDs jitter now
    exact linked_fails linked fails

/-- A ticket has one live job of each kind. A job's batch was selected for it and is no other job's;
while the job is live it is staging, unless its ticket is merged or archived. -/
structure BatchesOwned (s : ConfirmStore) : Prop where
  one : OneActive s.store.jobs
  owned : ∀ j ∈ s.store.jobs.rows, Lane j → ∀ id, j.batchID = some id → BatchOf s j id ∧
    ∀ k ∈ s.store.jobs.rows, Lane k → k.batchID = some id → k = j

theorem batchesOwned_run (c : ConfirmSettings) (actions : List Action) :
    BatchesOwned ((machine c).run .empty actions) := by
  have linked := (machine c).invariant_run Linked (fun _ a linked => linked_step c linked a)
    linked_empty actions
  exact ⟨linked.one, fun j member lane id batch => ⟨linked.batch j member lane id batch,
    fun k memberK laneK batchK => linked.only memberK member laneK lane batchK batch⟩⟩

end Opslane.Tickets.Confirmations
