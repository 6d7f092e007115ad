import Opslane.Tickets.CarriedOut
import Opslane.Tickets.ConfirmationSteps

/-!
# The rows of the tickets in one step

Outside an applied transition a step moves the rows of the tickets as the transactions beside
the two jobs do, save that a selected batch covers the arrivals of its ticket. An applied
transition starts from a prepared plan, and leaves its ticket as its branch says.
-/

namespace Opslane.Tickets.Confirmations

open Jobs (Job)

structure RowsAside (s s' : TicketStore) : Prop where
  forth : ∀ t ∈ s.tickets.rows, ∃ t' ∈ s'.tickets.rows, RowAside t t'
  back : ∀ t' ∈ s'.tickets.rows, (∃ t ∈ s.tickets.rows, RowAside t t') ∨
    ((∀ t ∈ s.tickets.rows, t.id ≠ t'.id) ∧ t'.foldRetries = 0 ∧ t'.arrivalBoundary = 0)

variable {s s' : TicketStore}

theorem TicketsAside.rowsAside (aside : TicketsAside s s') : RowsAside s s' :=
  ⟨aside.forth, aside.back⟩

namespace RowsAside

theorem of_eq (tickets : s'.tickets = s.tickets) : RowsAside s s' where
  forth t member := ⟨t, tickets ▸ member, .refl t⟩
  back t member := Or.inl ⟨t, tickets ▸ member, .refl t⟩

theorem refl (s : TicketStore) : RowsAside s s := of_eq rfl

theorem trans {a b c : TicketStore} (first : RowsAside a b) (second : RowsAside b c) :
    RowsAside a c where
  forth t member := by
    obtain ⟨t₁, member₁, row₁⟩ := first.forth t member
    obtain ⟨t₂, member₂, row₂⟩ := second.forth t₁ member₁
    exact ⟨t₂, member₂, row₁.trans row₂⟩
  back t₂ member₂ := by
    rcases second.back t₂ member₂ with ⟨t₁, member₁, row₂⟩ | ⟨fresh, retries, boundary⟩
    · rcases first.back t₁ member₁ with ⟨t, member, row₁⟩ | ⟨fresh, retries, boundary⟩
      · exact Or.inl ⟨t, member, row₁.trans row₂⟩
      · refine Or.inr ⟨fun t member => row₂.place.1 ▸ fresh t member, ?_, ?_⟩
        · exact row₂.retries.trans retries
        · exact row₂.boundary.trans boundary
    · refine Or.inr ⟨fun t member => ?_, retries, boundary⟩
      obtain ⟨t₁, member₁, row₁⟩ := first.forth t member
      exact row₁.place.1 ▸ fresh t₁ member₁

theorem of_update (id : UUID) (f : FrictionTicket → FrictionTicket) (frame : ∀ t, (f t).id = t.id)
    (tickets : s'.tickets = s.tickets.updateKey id f frame)
    (moves : ∀ t ∈ s.tickets.rows, t.id = id → RowAside t (f t)) : RowsAside s s' := by
  let s₁ : TicketStore := { s' with jobs := s.jobs }
  have aside : TicketsAside s s₁ := .of_update id f frame tickets moves (.refl s.jobs)
  exact ⟨aside.forth, aside.back⟩

theorem terminal {s s' : TicketStore} (aside : RowsAside s s') {t u : FrictionTicket}
    (found : s.tickets.find? t.id = some t) (terminal : t.status.Terminal)
    (member : u ∈ s'.tickets.rows) (own : u.id = t.id) : u.status.Terminal := by
  obtain ⟨u', member', row⟩ := aside.forth t (Table.mem_of_find? found)
  obtain rfl : u' = u := s'.tickets.inj member' member
    (row.place.1.trans own.symm)
  exact row.terminal terminal

end RowsAside

theorem needReconcile_aside (t : FrictionTicket) : RowAside t t.needReconcile :=
  ⟨⟨rfl, rfl, rfl⟩, le_rfl, rfl, rfl, rfl, le_rfl, Or.inl rfl, fun _ => Or.inl rfl, fun _ => rfl⟩

variable {t : FrictionTicket}

theorem reconciled_aside (terminal : t.status.Terminal) :
    RowAside t t.reconciled :=
  ⟨⟨rfl, rfl, rfl⟩, le_rfl, rfl, rfl, rfl, le_rfl, Or.inl rfl, fun _ => Or.inr terminal,
    fun _ => rfl⟩

theorem setMatchedCount_aside (count : Nat) (t : FrictionTicket) :
    RowAside t (t.setMatchedCount count) :=
  .of_flags ⟨rfl, rfl, rfl⟩ rfl rfl rfl rfl le_rfl rfl rfl fun _ => rfl

theorem rowsAside_discardBatch (s : TicketStore) (batchID : UUID) :
    RowsAside s (discardBatch s batchID) := by
  unfold discardBatch
  split
  · exact .refl s
  · rename_i b found
    split
    · exact .of_update b.ticketID FrictionTicket.needReconcile (fun _ => rfl) rfl
        fun t _ _ => needReconcile_aside t
    · exact .refl s

theorem rowsAside_attemptFailed (s : TicketStore) (jobID projectID : UUID) :
    RowsAside s (attemptFailed s jobID projectID).1 := by
  apply attemptFailed_keeps (.refl s)
  · exact fun _ batchID _ _ => rowsAside_discardBatch s batchID
  · exact fun _ job _ _ rows => rows.trans (ticketsAside_failFix _ job _ _).1.rowsAside
  · exact fun _ job _ rows => rows.trans (ticketsAside_failInvestigation _ job _).1.rowsAside

theorem rowsAside_cleanUp (s : TicketStore) (j : Job) : RowsAside s (cleanUp s j) := by
  unfold cleanUp
  split
  · exact rowsAside_attemptFailed s j.id j.projectID
  · exact .refl s

theorem rowsAside_failJob (s : TicketStore) (jobID : UUID) (workerID : String)
    (leaseGeneration : Nat) (error : String) (options : Jobs.FailOptions) (jitter : Nat)
    (now clock : Timestamp) :
    RowsAside s (failJob s jobID workerID leaseGeneration error options jitter now clock) := by
  unfold failJob
  dsimp only
  generalize Jobs.failJob s.jobs jobID workerID leaseGeneration error options jitter now clock = failed
  have first : RowsAside s { s with jobs := failed.1 } := .of_eq rfl
  split
  · cases failed.1.find? jobID with
    | none => exact first
    | some j => exact first.trans (rowsAside_cleanUp _ j)
  · exact first

theorem rowsAside_requeueStaleJobs (s : TicketStore) (candidateIDs : List UUID)
    (jitter : UUID → Nat) (now : Timestamp) :
    RowsAside s (requeueStaleJobs s candidateIDs jitter now) := by
  unfold requeueStaleJobs
  dsimp only
  generalize Jobs.requeueStaleJobs s.jobs candidateIDs jitter now = reaped
  have folded : ∀ (ended : List Job) (s : TicketStore), RowsAside s (ended.foldl cleanUp s) := by
    intro ended
    induction ended with
    | nil => exact .refl
    | cons j rest ih => exact fun s => (rowsAside_cleanUp s j).trans (ih (cleanUp s j))
  have first : RowsAside s { s with jobs := reaped.1 } := .of_eq rfl
  exact first.trans (folded reaped.2 _)

/-- The rows of the tickets where nothing is applied. -/
def RowsMove (s s' : TicketStore) : Prop :=
  RowsAside s s' ∨ ∃ t, s.tickets.find? t.id = some t ∧ ¬t.status.Terminal ∧
    s'.tickets = s.tickets.updateKey t.id FrictionTicket.cover fun _ => rfl

theorem RowsMove.of_eq (tickets : s'.tickets = s.tickets) : RowsMove s s' :=
  Or.inl (.of_eq tickets)

theorem RowsMove.forth (moves : RowsMove s s') (member : t ∈ s.tickets.rows) :
    ∃ t' ∈ s'.tickets.rows, RowAside t t' ∨ t' = t.cover := by
  rcases moves with aside | ⟨u, -, -, tickets⟩
  · obtain ⟨t', member', row⟩ := aside.forth t member
    exact ⟨t', member', Or.inl row⟩
  · rw [tickets]
    refine ⟨_, (Table.mem_updateWhere s.tickets _ FrictionTicket.cover (fun _ => rfl) _).mpr
      ⟨t, member, rfl⟩, ?_⟩
    split
    · exact Or.inr rfl
    · exact Or.inl (.refl t)

theorem rowsAside_settleTerminal (jobID : UUID) (found : s.tickets.find? t.id = some t)
    (terminal : t.status.Terminal) :
    RowsAside s (settleTerminal s jobID t.id) := by
  have discarded : RowsAside s ((jobBatch s jobID).elim s (discardBatch s)) := by
    cases jobBatch s jobID with
    | none => exact .refl s
    | some id => exact rowsAside_discardBatch s id
  unfold settleTerminal
  dsimp only
  generalize (jobBatch s jobID).elim s (discardBatch s) = s₁ at discarded
  refine discarded.trans (.of_update t.id FrictionTicket.reconciled (fun _ => rfl) rfl ?_)
  exact fun u member own => reconciled_aside (discarded.terminal found terminal member own)

variable {job : FrictionJob}

variable {now : Timestamp}

theorem Begins.rows {s s' : ConfirmStore} {batchID : UUID} (begins : Begins s job batchID now s') :
    RowsMove s.store s'.store := by
  cases begins with
  | gone | lost | idle | resumed => exact .of_eq rfl
  | terminal found ended =>
    have own := id_of_getTicket found
    have row := (getTicket_eq_some_iff.mp found).1
    exact Or.inl ((rowsAside_settleTerminal job.id (own ▸ row) ended).trans (.of_eq rfl))
  | selected found live unused selects =>
    have own := id_of_getTicket found
    have row := (getTicket_eq_some_iff.mp found).1
    exact Or.inr ⟨_, own ▸ row, live, selects.tickets⟩

theorem rowsAside_abandonBatch (batchID : UUID) (found : s.tickets.find? t.id = some t) :
    RowsAside s (abandonBatch s t batchID) := by
  have discarded := rowsAside_discardBatch s batchID
  unfold abandonBatch
  dsimp only
  generalize discardBatch s batchID = s₁ at discarded
  split
  · rename_i terminal
    refine discarded.trans (.of_update t.id FrictionTicket.reconciled (fun _ => rfl) rfl ?_)
    exact fun u member own => reconciled_aside (discarded.terminal found terminal member own)
  · exact discarded

theorem rowsAside_recountTicket (s : TicketStore) (ticketID : UUID) :
    RowsAside s (recountTicket s ticketID) :=
  .of_update ticketID (FrictionTicket.setMatchedCount _) (fun _ => rfl) rfl
    fun t _ _ => setMatchedCount_aside _ t

theorem Prepares.row {s x : ConfirmStore} {job : FrictionJob} {m : Memory} {plan : TransitionPlan}
    {t : FrictionTicket} (prepares : Prepares s job m plan x t) :
    ∃ current f, ∃ frame : ∀ u, FrictionTicket.id (f u) = u.id,
      s.store.tickets.find? current.id = some current ∧ t = f current ∧
      x.store.tickets = s.store.tickets.updateKey current.id f frame ∧
      x.store.incidents = s.store.incidents ∧
      ((f = FrictionTicket.finalize ∧ current.id = plan.ticket.id) ∨
        ((∃ count, f = FrictionTicket.setMatchedCount count) ∧ current.id = job.ticketID)) := by
  cases prepares with
  | finalized found fresh intact finalizes =>
    have own := id_of_getTicket found
    have row := (getTicket_eq_some_iff.mp found).1
    exact ⟨_, FrictionTicket.finalize, fun _ => rfl, own ▸ row, rfl, finalizes.tickets,
      finalizes.incidents, Or.inl ⟨rfl, own⟩⟩
  | counted found live counted same fresh =>
    rename_i current
    have own := id_of_getTicket found
    have row := (getTicket_eq_some_iff.mp found).1
    refine ⟨current, FrictionTicket.setMatchedCount _, fun _ => rfl, own ▸ row, ?_, rfl, rfl,
      Or.inr ⟨⟨_, rfl⟩, own⟩⟩
    obtain ⟨count, rfl⟩ := same
    have again := (recountTicket_find? (own ▸ row)).symm.trans counted
    rw [Option.some.injEq] at again
    exact again.symm

/-- The rows of the tickets where a plan is applied. -/
structure RowsApply (c : ConfirmSettings) (s s' : ConfirmStore) (job : FrictionJob) (m : Memory)
    (plan : TransitionPlan) (x : ConfirmStore) (t : FrictionTicket) : Prop where
  remembered : s.memory job = some m
  prepares : Prepares s job m plan x t
  known : x.store.tickets.find? t.id = some t
  gateDecisions : s'.gateDecisions = s.gateDecisions
  rows : RowsCarried t.id (appliedTransition c x.store t plan) x.store s'.store

variable {plan : TransitionPlan}

theorem Prepares.known {s x : ConfirmStore} {m : Memory} (prepares : Prepares s job m plan x t) :
    x.store.tickets.find? t.id = some t := by
  obtain ⟨current, f, frame, found, rfl, tickets, -⟩ := prepares.row
  rw [tickets, Table.find?_updateKey, frame, if_pos rfl, found, Option.map_some]

theorem Queues.tickets {s s' : ConfirmStore} {jobID : UUID} (queues : Queues s job jobID now s') :
    s'.store.tickets = s.store.tickets := by
  cases queues <;> rfl

theorem rows_finish {c : ConfirmSettings} {s s' : ConfirmStore} {d : FinalDraws} {m : Memory}
    (remembered : s.memory job = some m) (final : Memory.Final m)
    (done : finish c s job d m = .ok s') :
    RowsAside s.store s'.store ∨ ∃ plan x t, RowsApply c s s' job m plan x t := by
  obtain ⟨-, next, s₁, concludes, -, last⟩ := finish_concludes final done
  have tickets : s'.store.tickets = s₁.store.tickets := by
    split at last
    · exact last.tickets
    · rw [last]
      rfl
  cases concludes with
  | gone | again | unknown => exact Or.inl (.of_eq tickets)
  | stale found =>
    have own := id_of_getTicket found
    have row := (getTicket_eq_some_iff.mp found).1
    exact Or.inl ((rowsAside_abandonBatch _ (own ▸ row)).trans (.of_eq tickets))
  | @terminal _ current _ _ found ended =>
    have own := id_of_getTicket found
    have row := (getTicket_eq_some_iff.mp found).1
    refine Or.inl ((rowsAside_recountTicket s.store current.id).trans (.of_update current.id
      FrictionTicket.reconciled (fun _ => rfl) tickets ?_))
    intro u member same
    exact reconciled_aside ((rowsAside_recountTicket s.store current.id).terminal (own ▸ row) ended
      member same)
  | @outdated _ current _ _ found =>
    exact Or.inl ((rowsAside_recountTicket s.store current.id).trans (.of_update current.id
      FrictionTicket.needReconcile (fun _ => rfl) tickets fun t _ _ => needReconcile_aside t))
  | applied prepares applied =>
    have known := prepares.known
    obtain ⟨own, others, back⟩ := (carried_carryOut c known applied).rows
    refine Or.inr ⟨_, _, _, remembered, prepares, known, (same_finish final done).1, ?_, ?_, ?_⟩
    · exact tickets ▸ own
    · exact tickets ▸ others
    · exact tickets ▸ back

theorem store_beginReconcile (s : ConfirmStore) (job : FrictionJob) (clock : Timestamp) :
    (beginReconcile s job clock).store = s.store := by
  unfold beginReconcile
  split
  · rfl
  · split <;> rfl

theorem store_answerGate {s s' : ConfirmStore} {batchID : Option UUID} {n : Neighbor}
    {left : List Neighbor} {decisionID : UUID} {answer : GateAnswer}
    (done : answerGate s job plan batchID n left decisionID now answer = .ok s') :
    s'.store = s.store := by
  cases answer with
  | invalid =>
    cases done
    rfl
  | oneFix yes =>
    obtain ⟨s₁, recorded, done⟩ := Except.of_bind done
    obtain ⟨decisions, -, recorded⟩ := Except.of_bind recorded
    cases recorded
    cases done
    rfl

theorem rows_step (c : ConfirmSettings) (s : ConfirmStore) (a : Action) :
    RowsMove s.store (step c s a).store ∨
      ∃ job m plan x t, RowsApply c s (step c s a) job m plan x t := by
  cases a with
  | ticket a =>
    rw [step]
    split
    · rename_i beside
      exact Or.inl (Or.inl (besides_step beside).rows.rowsAside)
    · exact Or.inl (.of_eq rfl)
  | scheduleFrictionReconciliation => exact Or.inl (.of_eq rfl)
  | beginConfirm job batchID now clock clock' =>
    rw [step]
    split
    · exact Or.inl (.of_eq rfl)
    · cases begun : Tickets.beginConfirm s job batchID now clock clock' with
      | error => exact Or.inl (.of_eq rfl)
      | ok s' => exact Or.inl (beginConfirm_begins begun).2.rows
  | beginReconcile job clock =>
    rw [step]
    split
    · exact Or.inl (.of_eq rfl)
    · exact Or.inl (.of_eq (congrArg TicketStore.tickets (store_beginReconcile s job clock)))
  | read job =>
    rw [step]
    split <;> exact Or.inl (.of_eq rfl)
  | stageMember job r attemptID now clock clock' =>
    rw [step]
    split
    · rename_i t batchID member left remembered
      cases staged : Tickets.stageMember s job t batchID member left r attemptID now clock clock' with
      | error => exact Or.inl (.of_eq rfl)
      | ok s' => cases (stageMember_stages staged).2 <;> exact Or.inl (.of_eq rfl)
    · exact Or.inl (.of_eq rfl)
  | readGate job clock =>
    rw [step]
    split <;> exact Or.inl (.of_eq rfl)
  | answerGate job answer decisionID now =>
    rw [step]
    split
    · rename_i plan batchID n left remembered
      cases answers : Tickets.answerGate s job plan batchID n left decisionID now answer with
      | error => exact Or.inl (.of_eq rfl)
      | ok s' => exact Or.inl (.of_eq (congrArg TicketStore.tickets (store_answerGate answers)))
    · exact Or.inl (.of_eq rfl)
  | finish job d =>
    rw [step]
    split
    · rename_i m chosen
      obtain ⟨remembered, final⟩ := Option.filter_eq_some_iff.mp chosen
      cases done : finish c s job d m with
      | error => exact Or.inl (.of_eq rfl)
      | ok s' =>
        rcases rows_finish remembered (of_decide_eq_true final) done with aside | ⟨plan, x, t, applies⟩
        · exact Or.inl (Or.inl aside)
        · exact Or.inr ⟨job, m, plan, x, t, applies.remembered, applies.prepares, applies.known,
            applies.gateDecisions, applies.rows⟩
    · exact Or.inl (.of_eq rfl)
  | failJob => exact Or.inl (Or.inl (rowsAside_failJob ..))
  | requeueStaleJobs => exact Or.inl (Or.inl (rowsAside_requeueStaleJobs ..))

end Opslane.Tickets.Confirmations
