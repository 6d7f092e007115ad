import Opslane.Tickets.Gate
import Opslane.Tickets.Linked

/-!
# Recordings that wait to be confirmed

A selected batch raises the watermark of its ticket over the whole backlog, so that what was
not sampled, or was unavailable, waits for a wake-up: an active job of one of the two lanes,
or the flag of the ticket. A last transaction leaves one. Three ends of a job do not: a
confirmation that finds nothing to select yet, one that is a dead letter before it selects,
and a reconciliation that is a dead letter.
-/

namespace Opslane.Tickets.Confirmations

open Jobs (Job)
open Transition (Machine)

/-- A recording the watermark covers waits for a check, or for a retry of one. -/
def CoveredOpen (s : ConfirmStore) (t : FrictionTicket) : Prop :=
  ∃ m ∈ s.store.evidence.ticketMatches.rows, OpenRecording s t.id m ∧
    m.arrivalNumber ≤ t.arrivalBoundary
  deriving Decidable

/-- An active job of a lane works on the ticket, besides some. -/
def LaneActive (jobs : Jobs.JobTable) (dies : Job → Prop) (ticketID : UUID) : Prop :=
  ∃ j ∈ jobs.rows, Lane j ∧ j.ticketID = some ticketID ∧ j.Active ∧ ¬dies j

instance (jobs : Jobs.JobTable) (dies : Job → Prop) [DecidablePred dies] (ticketID : UUID) :
    Decidable (LaneActive jobs dies ticketID) :=
  inferInstanceAs (Decidable (∃ j ∈ jobs.rows, _))

/-- The ticket is flagged, or will be looked at. -/
def Woken (s : TicketStore) (t : FrictionTicket) : Prop :=
  t.reconcileNeeded = true ∨ LaneActive s.jobs (fun _ => False) t.id
  deriving Decidable

def NoneStranded (s : ConfirmStore) : Prop :=
  ∀ t ∈ s.store.tickets.rows, ¬t.status.Terminal → CoveredOpen s t → Woken s.store t
  deriving Decidable

/-- The ticket does not need the jobs that die. -/
def Sheltered (s : ConfirmStore) (dies : Job → Prop) (ticketID : UUID) : Prop :=
  ∀ t ∈ s.store.tickets.rows, t.id = ticketID → ¬t.status.Terminal → CoveredOpen s t →
    t.reconcileNeeded = true ∨ LaneActive s.store.jobs dies ticketID

instance (s : ConfirmStore) (dies : Job → Prop) [DecidablePred dies] (ticketID : UUID) :
    Decidable (Sheltered s dies ticketID) :=
  inferInstanceAs (Decidable (∀ t ∈ s.store.tickets.rows, _))

/-- The jobs of the lanes that an action ends without a batch to give up. -/
def Dies (s : ConfirmStore) : Action → Job → Prop
  | .beginConfirm job _ now clock _, j =>
    s.memory job = none ∧ HoldsJob s.store job .frictionConfirm clock ∧ j.id = job.id ∧
      j.batchID = none ∧ ∀ m ∈ s.store.evidence.ticketMatches.rows, ¬Selectable s job.ticketID now m
  | .failJob jobID workerID leaseGeneration _ options _ _ clock, j =>
    (j.Owned jobID workerID leaseGeneration clock ∧ Exhausted options.exhaust j) ∧ j.batchID = none
  | .requeueStaleJobs candidateIDs _ now, j => Reaped candidateIDs now j ∧ j.batchID = none
  | _, _ => False

instance (s : ConfirmStore) (a : Action) : DecidablePred (Dies s a) := by
  intro j
  cases a <;> unfold Dies <;> infer_instance

/-- A job of a lane ends without a batch only where its ticket does not need it. -/
def Spares (s : ConfirmStore) (a : Action) : Prop :=
  ∀ j ∈ s.store.jobs.rows, Lane j → Dies s a j → ∀ ticketID ∈ j.ticketID,
    Sheltered s (Dies s a) ticketID
  deriving Decidable

/-- An open recording of the ticket is new, or was open. -/
def OpensBack (s s' : ConfirmStore) (ticketID : UUID) : Prop :=
  ∀ m' ∈ s'.store.evidence.ticketMatches.rows, OpenRecording s' ticketID m' →
    Arrives s.store m' ∨ ∃ m ∈ s.store.evidence.ticketMatches.rows,
      OpenRecording s ticketID m ∧ m.arrivalNumber = m'.arrivalNumber

variable {s s' : ConfirmStore}

theorem OpensBack.of_batches {batches : Table ConfirmBatch.id}
    (evidence : s'.store.evidence = { s.store.evidence with batches })
    (retries : s'.retries = s.retries) (ticketID : UUID) : OpensBack s s' ticketID := by
  intro m' member opens
  rw [OpenRecording, evidence, retries] at opens
  rw [evidence] at member
  exact Or.inr ⟨m', member, opens, rfl⟩

theorem OpensBack.of_eq (evidence : s'.store.evidence = s.store.evidence)
    (retries : s'.retries = s.retries) (ticketID : UUID) : OpensBack s s' ticketID := by
  have same : s'.store.evidence = { s.store.evidence with batches := s.store.evidence.batches } :=
    evidence
  exact .of_batches same retries ticketID

theorem OpensBack.of_aside {gone : String → Bool} (aside : EvidenceAside gone s.store s'.store)
    (retries : ∀ k : UUID × String, gone k.2 = false → s'.retries.find? k = s.retries.find? k)
    (ticketID : UUID) : OpensBack s s' ticketID := by
  intro m' member opens
  have found' := s'.store.evidence.ticketMatches.find?_key member
  have stays : gone m'.key.2 = false := by
    by_contra lost
    rw [aside.lost m'.key (eq_true_of_ne_false lost)] at found'
    cases found'
  cases found : s.store.evidence.ticketMatches.find? m'.key with
  | none => exact Or.inl (aside.came m'.key m' found' found)
  | some m =>
    have key : m.key = m'.key := Table.key_of_find? found
    obtain ⟨m'', again, arrival, -⟩ := aside.kept m'.key m found stays
    rw [found', Option.some.injEq] at again
    subst again
    obtain ⟨own, unchecked, retriable⟩ := opens
    refine Or.inr ⟨m, Table.mem_of_find? found, ⟨?_, ?_, ?_⟩, arrival.symm⟩
    · exact (congrArg Prod.fst key).trans own
    · rw [key, Option.isNone_iff_eq_none, Table.find?_eq_none_iff]
      rw [Option.isNone_iff_eq_none, Table.find?_eq_none_iff] at unchecked
      intro k present same
      refine unchecked k ?_ same
      rw [aside.checks, List.mem_filter]
      have session : k.sessionID = m'.key.2 := congrArg Prod.snd same
      exact ⟨present, by rw [session, stays]; rfl⟩
    · rw [retries m'.key stays] at retriable
      rw [key]
      exact retriable

theorem OpensBack.trans {s x s' : ConfirmStore} {ticketID : UUID} (first : OpensBack s x ticketID)
    (second : OpensBack x s' ticketID)
    (arrivals : ∀ t ∈ s.store.tickets.rows, ∃ t₁ ∈ x.store.tickets.rows,
      t₁.id = t.id ∧ t.nextArrivalNumber ≤ t₁.nextArrivalNumber) : OpensBack s s' ticketID := by
  intro m' member' opens'
  rcases second m' member' opens' with ⟨positive, later⟩ | ⟨m₁, member₁, opens₁, arrival₁⟩
  · refine Or.inl ⟨positive, fun t member own => ?_⟩
    obtain ⟨t₁, present, same, more⟩ := arrivals t member
    exact more.trans_lt (later t₁ present (same.trans own))
  · rcases first m₁ member₁ opens₁ with ⟨positive, later⟩ | ⟨m, member, opens, arrival⟩
    · refine Or.inl ⟨arrival₁ ▸ positive, fun t present own => ?_⟩
      rw [← arrival₁]
      exact later t present (own.trans (opens'.1.trans opens₁.1.symm))
    · exact Or.inr ⟨m, member, opens, arrival.trans arrival₁⟩

/-- The watermark covers what has arrived. -/
def Bounded (s : TicketStore) : Prop :=
  ∀ t ∈ s.tickets.rows, t.arrivalBoundary ≤ t.nextArrivalNumber

variable {t t' : FrictionTicket}

theorem covered_back (bounded : Bounded s.store) (opens : OpensBack s s' t'.id)
    (member : t ∈ s.store.tickets.rows) (own : t'.id = t.id)
    (boundary : t'.arrivalBoundary = t.arrivalBoundary) (covered : CoveredOpen s' t') :
    CoveredOpen s t := by
  obtain ⟨m', present, waits, within⟩ := covered
  rcases opens m' present waits with ⟨-, later⟩ | ⟨m, old, still, arrival⟩
  · have beyond := later t member (own.symm.trans waits.1.symm)
    have := bounded t member
    omega
  · exact ⟨m, old, own ▸ still, by omega⟩

variable {t' : FrictionTicket}

theorem not_covered_fresh (opens : OpensBack s s' t'.id)
    (fresh : ∀ t ∈ s.store.tickets.rows, t.id ≠ t'.id) (boundary : t'.arrivalBoundary = 0) :
    ¬CoveredOpen s' t' := by
  rintro ⟨m', present, waits, within⟩
  rcases opens m' present waits with ⟨positive, -⟩ | ⟨m, old, still, -⟩
  · omega
  · obtain ⟨t, member, own, -⟩ := s.store.scope.matched m old
    exact fresh t member (own.trans still.1)

structure Awake (s : ConfirmStore) : Prop where
  linked : Linked s
  bounded : Bounded s.store
  awake : NoneStranded s

theorem awake_empty : Awake .empty where
  linked := linked_empty
  bounded t member := by cases member
  awake t member := by cases member

section OneStep

variable {s s' : ConfirmStore} {ended : Job → Prop}

theorem woken_aside (awake : Awake s)
    (jobs : JobsAside ended (fun _ => True) s.store.jobs s'.store.jobs)
    (member : t ∈ s.store.tickets.rows) (row : RowAside t t') (opens : OpensBack s s' t'.id)
    (wakes : CoveredOpen s t → ∀ j ∈ s.store.jobs.rows, Lane j → j.ticketID = some t.id →
      j.Active → ended j → Woken s'.store t') (lives : ¬t'.status.Terminal)
    (covered : CoveredOpen s' t') : Woken s'.store t' := by
  have before := covered_back awake.bounded opens member row.place.1 row.boundary covered
  have lived : ¬t.status.Terminal := fun terminal => lives (row.terminal terminal)
  rcases awake.awake t member lived before with flagged | ⟨j, present, lane, own, active, -⟩
  · exact Or.inl ((row.flag (Or.inl flagged)).resolve_right lives)
  · obtain ⟨j', present', goes, stays⟩ := jobs.forth j present
    rcases stays lane active with still | ends
    · refine Or.inr ⟨j', present', goes.lane.mpr lane, ?_, still, fun never => never⟩
      exact goes.ticketID.trans (own.trans (congrArg some row.place.1.symm))
    · exact wakes before j present lane own active ends

theorem noneStranded_aside (awake : Awake s)
    (jobs : JobsAside ended (fun _ => True) s.store.jobs s'.store.jobs) (rows : RowsAside s.store s'.store)
    (opens : ∀ ticketID, OpensBack s s' ticketID)
    (wakes : ∀ t ∈ s.store.tickets.rows, ∀ t' ∈ s'.store.tickets.rows, RowAside t t' →
      ¬t'.status.Terminal → CoveredOpen s t → ∀ j ∈ s.store.jobs.rows, Lane j →
      j.ticketID = some t.id → j.Active → ended j → Woken s'.store t') : NoneStranded s' := by
  intro t' member' lives covered
  rcases rows.back t' member' with ⟨t, member, row⟩ | ⟨fresh, -, boundary⟩
  · exact woken_aside awake jobs member row (opens t'.id) (wakes t member t' member' row lives) lives
      covered
  · exact absurd covered (not_covered_fresh (opens t'.id) fresh boundary)

theorem noneStranded_none (awake : Awake s)
    (jobs : JobsAside (fun _ => False) (fun _ => True) s.store.jobs s'.store.jobs)
    (rows : RowsAside s.store s'.store) (opens : ∀ ticketID, OpensBack s s' ticketID) :
    NoneStranded s' :=
  noneStranded_aside awake jobs rows opens fun _ _ _ _ _ _ _ _ _ _ _ _ never => never.elim

theorem noneStranded_spared {dies : Job → Prop} (awake : Awake s)
    (jobs : JobsAside ended (fun _ => True) s.store.jobs s'.store.jobs) (rows : RowsAside s.store s'.store)
    (opens : ∀ ticketID, OpensBack s s' ticketID)
    (spares : ∀ j ∈ s.store.jobs.rows, Lane j → dies j → ∀ ticketID, j.ticketID = some ticketID →
      Sheltered s dies ticketID)
    (wakes : ∀ t ∈ s.store.tickets.rows, ∀ t' ∈ s'.store.tickets.rows, RowAside t t' →
      ¬t'.status.Terminal → ∀ j ∈ s.store.jobs.rows, Lane j → j.ticketID = some t.id → j.Active →
      ended j → ¬dies j → Woken s'.store t') : NoneStranded s' := by
  refine noneStranded_aside awake jobs rows opens ?_
  intro t member t' member' row lives covered j present lane own active ends
  by_cases dying : dies j
  · have lived : ¬t.status.Terminal := fun terminal => lives (row.terminal terminal)
    rcases spares j present lane dying t.id own t member rfl lived covered with
      flagged | ⟨k, presentK, laneK, ownK, activeK, survives⟩
    · exact Or.inl ((row.flag (Or.inl flagged)).resolve_right lives)
    · obtain ⟨k', presentK', goes, stays⟩ := jobs.forth k presentK
      rcases stays laneK activeK with still | endsK
      · refine Or.inr ⟨k', presentK', goes.lane.mpr laneK, ?_, still, fun never => never⟩
        exact goes.ticketID.trans (ownK.trans (congrArg some row.place.1.symm))
      · exact wakes t member t' member' row lives k presentK laneK ownK activeK endsK survives
  · exact wakes t member t' member' row lives j present lane own active ends dying

theorem noneStranded_same (awake : Awake s) (store : s'.store = s.store)
    (retries : s'.retries = s.retries) : NoneStranded s' :=
  noneStranded_none awake (.of_eq (congrArg TicketStore.jobs store))
    (.of_eq (congrArg TicketStore.tickets store))
    (OpensBack.of_eq (congrArg TicketStore.evidence store) retries)

end OneStep

theorem bounded_aside {s s' : TicketStore} (bounded : Bounded s) (rows : RowsAside s s') :
    Bounded s' := by
  intro t' member'
  rcases rows.back t' member' with ⟨t, member, row⟩ | ⟨-, -, boundary⟩
  · rw [row.boundary]
    exact (bounded t member).trans row.arrivals
  · rw [boundary]
    exact Nat.zero_le _

theorem noneStranded_ticket (awake : Awake s) {a : Tickets.Action} (beside : Beside s.store a) :
    NoneStranded { s with
      store := Tickets.step s.store a
      retries := s.retries.deleteWhere fun r => purged s.store a r.sessionID } := by
  refine noneStranded_aside awake ((jobsAside_ticket beside).mono (fun _ ends => ends) fun _ _ => trivial)
    (besides_step beside).rows.rowsAside ?_ ?_
  · refine .of_aside (besides_step beside).evidence fun k stays => ?_
    rw [Table.find?_deleteWhere]
    cases kept : s.retries.find? k with
    | none => rfl
    | some r =>
      have session : r.sessionID = k.2 := congrArg Prod.snd (Table.key_of_find? kept)
      exact Option.filter_some_pos (by rw [session, stays]; rfl)
  · rintro t member t' member' row lives - j - - own - ⟨ticketID, same, u, present, named, terminal⟩
    rw [own, Option.some.injEq] at same
    obtain rfl : u = t' := List.inj_on_of_nodup_map (Tickets.step s.store a).tickets.unique present
      member' (named.trans (same.symm.trans row.place.1.symm))
    exact absurd terminal lives

variable {job : FrictionJob} {clock : Timestamp}

theorem Linked.getTicket (linked : Linked s) {type : Jobs.JobType}
    (holds : HoldsJob s.store job type clock)
    (lane : type = .frictionConfirm ∨ type = .frictionReconcile) :
    ∃ t, s.store.getTicket job.projectID job.ticketID = some t := by
  obtain ⟨j, row, -, project, own, kind, -⟩ := holdsJob_row holds
  obtain ⟨t, member, named, place⟩ := linked.placed j (Table.mem_of_find? row) (by rwa [Lane, kind])
  rw [own, Option.some.injEq] at named
  exact ⟨t, getTicket_eq_some_iff.mpr ⟨named ▸ s.store.tickets.find?_key member, place.trans project⟩⟩

theorem eq_nil_of_take_insertionSort {α : Type} (r : α → α → Prop) [DecidableRel r] {rows : List α}
    {n : Nat} (empty : (rows.insertionSort r).take (n + 1) = []) : rows = [] := by
  rw [List.take_eq_nil_iff] at empty
  rcases empty with never | none_
  · cases never
  · exact List.length_eq_zero_iff.mp ((List.length_insertionSort r rows).symm.trans
      (congrArg List.length none_))

variable {t : FrictionTicket}

theorem not_selectable {now : Timestamp} (nothing : selectedMembers s t now = []) :
    ∀ m ∈ s.store.evidence.ticketMatches.rows, ¬Selectable s t.id now m := by
  intro m member selectable
  have limit : ∃ n, batchLimit t = n + 1 := by
    unfold batchLimit
    split
    · exact ⟨29, rfl⟩
    · exact ⟨9, rfl⟩
  obtain ⟨n, limit⟩ := limit
  unfold selectedMembers at nothing
  rw [List.map_eq_nil_iff, limit] at nothing
  have none_ := eq_nil_of_take_insertionSort _ nothing
  have chosen : m ∈ s.store.evidence.ticketMatches.select fun m => Selectable s t.id now m :=
    List.mem_filter.mpr ⟨member, decide_eq_true selectable⟩
  rw [none_] at chosen
  cases chosen

theorem ticket_of_held {s : TicketStore} {type : Jobs.JobType} (holds : HoldsJob s job type clock)
    {j : Job} (member : j ∈ s.jobs.rows) (own : j.id = job.id) : j.ticketID = some job.ticketID := by
  obtain ⟨k, row, same, -, ticket, -⟩ := holdsJob_row holds
  obtain rfl : j = k := s.jobs.inj member (Table.mem_of_find? row)
    (own.trans same.symm)
  exact ticket

theorem settleTerminal_evidence (s : TicketStore) (jobID ticketID : UUID) :
    ∃ batches, (settleTerminal s jobID ticketID).evidence = { s.evidence with batches } := by
  unfold settleTerminal
  cases jobBatch s jobID with
  | none => exact ⟨s.evidence.batches, rfl⟩
  | some id =>
    obtain ⟨batches, evidence, -⟩ := discardBatch_evidence s id
    exact ⟨batches, evidence⟩

theorem noneStranded_terminal (awake : Awake s)
    (holds : HoldsJob s.store job .frictionConfirm clock)
    (found : s.store.getTicket job.projectID job.ticketID = some t) (ended : t.status.Terminal) :
    NoneStranded (complete { s with store := settleTerminal s.store job.id t.id } job) := by
  have own := id_of_getTicket found
  have row : s.store.tickets.find? t.id = some t := own ▸ (getTicket_eq_some_iff.mp found).1
  obtain ⟨batches, evidence⟩ := settleTerminal_evidence s.store job.id t.id
  have aside := rowsAside_settleTerminal job.id row ended
  have rows : RowsAside s.store
      (complete { s with store := settleTerminal s.store job.id t.id } job).store :=
    ⟨aside.forth, aside.back⟩
  have jobs : JobsAside (fun j => j.id = job.id) (fun _ => True) s.store.jobs
      (complete { s with store := settleTerminal s.store job.id t.id } job).store.jobs := by
    have same : (complete { s with store := settleTerminal s.store job.id t.id } job).store.jobs =
        s.store.jobs.updateKey job.id completed fun _ => rfl :=
      congrArg (fun jobs => Table.updateKey jobs job.id completed fun _ => rfl) (settleTerminal_jobs ..)
    rw [same]
    exact jobsAside_complete ..
  refine noneStranded_aside awake jobs rows (.of_batches evidence rfl) ?_
  rintro u member u' - rowU lives - j present - ticket - ends
  have same : u.id = t.id := by
    rw [ticket_of_held holds present ends, Option.some.injEq] at ticket
    exact ticket.symm.trans own.symm
  exact absurd (rowU.terminal (ticket_of_id row member same ▸ ended)) lives

variable {batchID : UUID}

variable {now clock clock' : Timestamp}

theorem noneStranded_idle (awake : Awake s) (begins : s.memory job = none)
    (holds : HoldsJob s.store job .frictionConfirm clock)
    (spares : Spares s (.beginConfirm job batchID now clock clock'))
    (found : s.store.getTicket job.projectID job.ticketID = some t)
    (unused : jobBatch s.store job.id = none) (nothing : selectedMembers s t now = []) :
    NoneStranded (complete s job) := by
  refine noneStranded_spared awake (jobsAside_complete s.store.jobs job.id) (.of_eq rfl) (.of_eq rfl rfl)
    spares ?_
  rintro - - - - - - j present - - - own survives
  obtain ⟨k, row, same, -⟩ := holdsJob_row holds
  obtain rfl : j = k := s.store.jobs.inj present (Table.mem_of_find? row)
    (own.trans same.symm)
  rw [jobBatch, row, Option.bind_some] at unused
  exact absurd ⟨begins, holds, own, unused, id_of_getTicket found ▸ not_selectable nothing⟩ survives

theorem woken_of_held {s : TicketStore} {type : Jobs.JobType} (holds : HoldsJob s job type clock)
    (lane : type = .frictionConfirm ∨ type = .frictionReconcile) {s' : TicketStore}
    (jobs : JobsAside (fun _ => False) (fun _ => True) s.jobs s'.jobs)
    (own : t'.id = job.ticketID) : Woken s' t' := by
  obtain ⟨j, row, -, -, ticket, kind, claimed, -⟩ := holdsJob_row holds
  obtain ⟨j', present', goes, stays⟩ := jobs.forth j (Table.mem_of_find? row)
  have laned : Lane j := by rwa [Lane, kind]
  refine Or.inr ⟨j', present', goes.lane.mpr laned, ?_, ?_, fun never => never⟩
  · rw [goes.ticketID, ticket, own]
  · exact (stays laned (Or.inr claimed)).resolve_right fun never => never

theorem noneStranded_selected {s s₁ : ConfirmStore} (awake : Awake s)
    (holds : HoldsJob s.store job .frictionConfirm clock)
    (found : s.store.getTicket job.projectID job.ticketID = some t)
    (selects : Selects s t job.id batchID now s₁) :
    NoneStranded ((keep s₁ job batchID).remember job (some (.selected t batchID))) := by
  have own := id_of_getTicket found
  have rows : ∀ k ∈ s.store.jobs.rows,
      ∃ k' ∈ (keep s₁ job batchID).store.jobs.rows, Lane k' = Lane k ∧ k'.ticketID = k.ticketID ∧
        (k.Active → k'.Active) := by
    intro k present
    refine ⟨_, (Table.mem_updateWhere s₁.store.jobs _ (keepBatch batchID) (fun _ => rfl) _).mpr
      ⟨k, selects.jobs ▸ present, rfl⟩, ?_⟩
    split <;> exact ⟨rfl, rfl, fun active => active⟩
  have looked : ∀ u : FrictionTicket, LaneActive s.store.jobs (fun _ => False) u.id →
      Woken (keep s₁ job batchID).store u := by
    rintro u ⟨k, present, lane, ticket, active, -⟩
    obtain ⟨k', present', same, ticket', still⟩ := rows k present
    exact Or.inr ⟨k', present', same ▸ lane, ticket'.trans ticket, still active, fun never => never⟩
  intro u' member' lives covered
  change u' ∈ s₁.store.tickets.rows at member'
  rw [selects.tickets] at member'
  obtain ⟨u, member, rfl⟩ := (Table.mem_updateWhere s.store.tickets _ FrictionTicket.cover
    (fun _ => rfl) u').mp member'
  by_cases mine : u.id = t.id
  · refine looked _ ?_
    obtain ⟨j, row, -, -, ticket, kind, claimed, -⟩ := holdsJob_row holds
    refine ⟨j, Table.mem_of_find? row, Or.inl kind, ?_, Or.inr claimed, fun never => never⟩
    rw [if_pos (decide_eq_true mine), ticket, ← own, ← mine]
    rfl
  · rw [if_neg (by simpa using mine)] at lives covered ⊢
    have opens : OpensBack s ((keep s₁ job batchID).remember job (some (.selected t batchID))) u.id :=
      .of_batches selects.evidence selects.retries u.id
    rcases awake.awake u member lives (covered_back awake.bounded opens member rfl rfl covered) with
      flagged | active
    · exact Or.inl flagged
    · exact looked u active

theorem noneStranded_begins (awake : Awake s) (starts : s.memory job = none)
    (holds : HoldsJob s.store job .frictionConfirm clock)
    (spares : Spares s (.beginConfirm job batchID now clock clock'))
    (begins : Begins s job batchID now s') : NoneStranded s' := by
  cases begins with
  | gone absent =>
    obtain ⟨t, found⟩ := awake.linked.getTicket holds (Or.inl rfl)
    rw [absent] at found
    cases found
  | terminal found ended => exact noneStranded_terminal awake holds found ended
  | @lost t id found live kept other =>
    -- the batch of a confirmation is of its ticket
    obtain ⟨j, row, batch⟩ := Option.bind_eq_some_iff.mp kept
    obtain ⟨k, rowK, -, -, ticket, kind, -⟩ := holdsJob_row holds
    rw [row, Option.some.injEq] at rowK
    subst rowK
    obtain ⟨b, known, ticketB, -⟩ :=
      (awake.linked.batch j (Table.mem_of_find? row) (Or.inl kind) id batch).row
    rw [ticket, Option.some.injEq] at ticketB
    have present : getBatch s t.id id = some b :=
      Option.filter_eq_some_iff.mpr ⟨known, decide_eq_true (ticketB.symm.trans (id_of_getTicket found).symm)⟩
    rw [other] at present
    cases present
  | idle found live unused nothing => exact noneStranded_idle awake starts holds spares found unused nothing
  | resumed found live kept own mine =>
    exact noneStranded_none awake (jobsAside_keep kept) (.of_eq rfl)
      (.of_eq rfl rfl)
  | selected found live unused selects => exact noneStranded_selected awake holds found selects

variable {m : Memory}

theorem Linked.batch_of_held (linked : Linked s)
    (holds : HoldsJob s.store job .frictionConfirm clock) (remembered : s.memory job = some m)
    (subject : Memory.subject m = some (t, some batchID)) :
    ∃ b, s.store.evidence.batches.find? batchID = some b ∧ b.ticketID = job.ticketID ∧
      (b.status = .staging ∨ TerminalIn s.store b.ticketID) := by
  have batch := (linked.memory job m t (some batchID) remembered subject).batch batchID rfl
  obtain ⟨j, row, kept⟩ := Option.bind_eq_some_iff.mp batch
  obtain ⟨k, rowK, -, -, ticket, kind, claimed, -⟩ := holdsJob_row holds
  rw [row, Option.some.injEq] at rowK
  subst rowK
  obtain ⟨b, known, ticketB, alive⟩ :=
    (linked.batch j (Table.mem_of_find? row) (Or.inl kind) batchID kept).row
  exact ⟨b, known, Option.some.inj (ticketB.symm.trans ticket), alive (Or.inr claimed)⟩

theorem noneStranded_stages (awake : Awake s) {member : BatchMember} {left : List BatchMember}
    {r : CheckResult} {attemptID : UUID} (holds : HoldsJob s.store job .frictionConfirm clock)
    (remembered : s.memory job = some (.reading t batchID member left))
    (stages : StagesMember s job t batchID member left r attemptID now s') : NoneStranded s' := by
  cases stages with
  | torn | kept => exact noneStranded_same awake rfl rfl
  | @staged b attempts intact found names inserted =>
    obtain ⟨b', known, own, -⟩ := awake.linked.batch_of_held holds remembered rfl
    rw [found, Option.some.injEq] at known
    subst known
    intro u member' lives covered
    by_cases mine : u.id = job.ticketID
    · exact woken_of_held holds (Or.inl rfl) (.of_eq rfl) mine
    · refine awake.awake u member' lives ?_
      obtain ⟨m, present, opens, within⟩ := covered
      refine ⟨m, present, ⟨opens.1, opens.2.1, ?_⟩, within⟩
      have retriable := opens.2.2
      dsimp only [ConfirmStore.remember] at retriable
      split at retriable
      · have lookup := Table.find?_upsert s.retries (.first b.ticketID member.sessionID now)
          (UnavailableRetry.again now) (fun _ => rfl) m.key
        have other : m.key ≠ (UnavailableRetry.first b.ticketID member.sessionID now).key := fun same =>
          mine (opens.1.symm.trans ((congrArg Prod.fst same).trans own))
        rw [if_neg other] at lookup
        rwa [lookup] at retriable
      · exact retriable

theorem Finalizes.opensBack {s x : ConfirmStore} (finalizes : Finalizes s t batchID x)
    (ticketID : UUID) : OpensBack s x ticketID := by
  intro m member opens
  rw [OpenRecording, finalizes.evidence, finalizes.retries, Option.isNone_iff_eq_none,
    Table.find?_foldl_insertIgnore, Option.or_eq_none_iff] at opens
  obtain ⟨own, ⟨unchecked, notChecked⟩, retriable⟩ := opens
  rw [finalizes.evidence] at member
  refine Or.inr ⟨m, member, ⟨own, Option.isNone_iff_eq_none.mpr unchecked, ?_⟩, rfl⟩
  rw [Table.find?_deleteWhere] at retriable
  cases kept : s.retries.find? m.key with
  | none => rfl
  | some r =>
    rw [kept] at retriable
    rw [Option.filter_some_pos] at retriable
    · exact retriable
    · rw [Bool.not_eq_true']
      refine List.any_eq_false.mpr fun a present conclusive => ?_
      obtain ⟨ends, key⟩ := of_decide_eq_true conclusive
      refine List.find?_eq_none.mp notChecked (a.check (s.outcome a.id)) ?_ ?_
      · exact List.mem_map.mpr ⟨a, List.mem_filter.mpr ⟨present, decide_eq_true ends⟩, rfl⟩
      · exact decide_eq_true (key.symm.trans (Table.key_of_find? kept))

theorem abandonBatch_evidence (s : TicketStore) (t : FrictionTicket) (batchID : UUID) :
    ∃ batches, (abandonBatch s t batchID).evidence = { s.evidence with batches } := by
  obtain ⟨batches, evidence, -⟩ := discardBatch_evidence s batchID
  refine ⟨batches, ?_⟩
  unfold abandonBatch
  dsimp only
  split <;> exact evidence

variable {plan : TransitionPlan}

theorem Prepares.opensBack {s x : ConfirmStore} (prepares : Prepares s job m plan x t)
    (ticketID : UUID) : OpensBack s x ticketID := by
  cases prepares with
  | finalized found fresh intact finalizes => exact finalizes.opensBack ticketID
  | counted => refine OpensBack.of_eq ?_ ?_ ticketID <;> rfl

theorem Prepares.arrivals {s x : ConfirmStore} (prepares : Prepares s job m plan x t) :
    ∀ u ∈ s.store.tickets.rows, ∃ u' ∈ x.store.tickets.rows,
      u'.id = u.id ∧ u.nextArrivalNumber ≤ u'.nextArrivalNumber := by
  obtain ⟨current, f, frame, -, -, tickets, -, kind⟩ := prepares.row
  have kept : ∀ u : FrictionTicket, (f u).nextArrivalNumber = u.nextArrivalNumber := by
    rcases kind with ⟨rfl, -⟩ | ⟨⟨count, rfl⟩, -⟩ <;> exact fun _ => rfl
  intro u member
  rw [tickets]
  refine ⟨_, (Table.mem_updateWhere s.store.tickets _ f frame _).mpr ⟨u, member, rfl⟩, ?_⟩
  split
  · exact ⟨frame u, (kept u).ge⟩
  · exact ⟨rfl, le_rfl⟩

variable {c : ConfirmSettings} {d : FinalDraws}

theorem Concludes.opensBack {s s₁ : ConfirmStore} {next : Bool}
    (concludes : Concludes c s job d m next s₁) (ticketID : UUID) : OpensBack s s₁ ticketID := by
  cases concludes with
  | gone | again | unknown | terminal | outdated => refine OpensBack.of_eq ?_ ?_ ticketID <;> rfl
  | @stale plan batchID current =>
    obtain ⟨batches, evidence⟩ := abandonBatch_evidence s.store current batchID
    refine OpensBack.of_batches evidence ?_ ticketID
    rfl
  | applied prepares applied =>
    refine .trans (prepares.opensBack ticketID) ?_ prepares.arrivals
    refine OpensBack.of_aside (carried_carryOut c prepares.known applied).evidence ?_ ticketID
    exact fun _ _ => rfl

theorem type_lane (m : Memory) :
    Memory.type m = .frictionConfirm ∨ Memory.type m = .frictionReconcile := by
  unfold Memory.type
  split
  · exact Or.inl rfl
  · exact Or.inr rfl

theorem not_open {ticketID : UUID} (nothing : nextConfirmationAt s ticketID now = none) :
    ∀ m ∈ s.store.evidence.ticketMatches.rows, ¬OpenRecording s ticketID m := by
  intro m member opens
  rw [nextConfirmationAt, List.min?_eq_none_iff, List.map_eq_nil_iff] at nothing
  have chosen : m ∈ s.store.evidence.ticketMatches.select fun m => OpenRecording s ticketID m :=
    List.mem_filter.mpr ⟨member, decide_eq_true opens⟩
  rw [nothing] at chosen
  cases chosen

theorem laneActive_next (jobs : Jobs.JobTable) (t : FrictionTicket) {jobID : UUID}
    (availableAt now : Timestamp) (free : jobs.find? jobID = none) :
    LaneActive (Jobs.enqueueJobTx jobs (nextConfirmJob t jobID availableAt now)) (fun _ => False)
      t.id := by
  unfold Jobs.enqueueJobTx
  split
  · rename_i clashes
    obtain ⟨k, present, clash⟩ := List.any_eq_true.mp clashes
    have same : k.jobType = .frictionConfirm ∧ k.ticketID = some t.id ∧ k.Active := by
      have either := of_decide_eq_true clash
      simp [Jobs.Clash, Jobs.VersionClash, Jobs.ActiveClash, Jobs.SameValue, nextConfirmJob, Job.new]
        at either
      exact ⟨either.2.2.1.symm, either.2.2.2.symm, either.2.1⟩
    exact ⟨k, present, Or.inl same.1, same.2.1, same.2.2, fun never => never⟩
  · obtain ⟨after, inserted⟩ := jobs.exists_insert? (r := nextConfirmJob t jobID availableAt now) free
    refine ⟨nextConfirmJob t jobID availableAt now, ?_, Or.inl rfl, rfl, Or.inl rfl, fun never => never⟩
    rw [Table.insertIgnore, inserted]
    exact (Table.mem_insert? inserted).mpr (Or.inl rfl)

theorem row_other (linked : Linked s) (remembered : s.memory job = some m) (final : Memory.Final m)
    (done : finish c s job d m = .ok s') (member' : t' ∈ s'.store.tickets.rows)
    (other : t'.id ≠ job.ticketID) :
    (∃ t ∈ s.store.tickets.rows, RowAside t t') ∨
      ((∀ t ∈ s.store.tickets.rows, t.id ≠ t'.id) ∧ t'.arrivalBoundary = 0) := by
  rcases rows_finish remembered final done with aside | ⟨plan, x, t, applies⟩
  · exact (aside.back t' member').imp_right fun fresh => ⟨fresh.1, fresh.2.2⟩
  · obtain ⟨current, f, frame, -, rfl, tickets, -, kind⟩ := applies.prepares.row
    have own : current.id = job.ticketID := by
      rcases kind with ⟨-, planned⟩ | ⟨-, own⟩
      · obtain ⟨batchID, rfl⟩ := applies.prepares.planned
        exact planned.trans (linked.memory job _ plan.ticket batchID remembered rfl).ticket
      · exact own
    obtain ⟨u, present, row⟩ := applies.rows.back t' member' (by rw [frame, own]; exact other)
    rw [tickets] at present
    obtain ⟨v, old, eq⟩ := (Table.mem_updateWhere s.store.tickets _ f frame u).mp present
    by_cases same : v.id = current.id
    · rw [if_pos (decide_eq_true same)] at eq
      exact absurd (row.place.1.trans ((congrArg FrictionTicket.id eq).symm.trans
        ((frame v).trans (same.trans own)))) other
    · rw [if_neg (by simpa using same)] at eq
      exact Or.inl ⟨v, old, eq ▸ row⟩

theorem woken_stale (linked : Linked s) (holds : HoldsJob s.store job .frictionConfirm clock)
    (remembered : s.memory job = some (.planned plan (some batchID))) {current : FrictionTicket}
    (found : s.store.getTicket job.projectID plan.ticket.id = some current)
    (member' : t' ∈ (abandonBatch s.store current batchID).tickets.rows)
    (own : t'.id = job.ticketID) (lives : ¬t'.status.Terminal) : t'.reconcileNeeded = true := by
  have place : plan.ticket.id = job.ticketID :=
    (linked.memory job _ plan.ticket (some batchID) remembered rfl).ticket
  have row : s.store.tickets.find? current.id = some current :=
    id_of_getTicket found ▸ (getTicket_eq_some_iff.mp found).1
  have same : t'.id = current.id := own.trans (place.symm.trans (id_of_getTicket found).symm)
  have live : ¬current.status.Terminal := fun ended =>
    lives ((rowsAside_abandonBatch batchID row).terminal row ended member' same)
  obtain ⟨b, known, ofTicket, staging | ⟨u, present, named, ended⟩⟩ :=
    linked.batch_of_held holds remembered rfl
  · rw [abandonBatch, if_neg live] at member'
    exact discardBatch_flags known staging member' (own.trans ofTicket.symm)
  · rw [ticket_of_id row present (named.trans (ofTicket.trans (own.symm.trans same)))] at ended
    exact absurd ended live

theorem woken_own (linked : Linked s) (remembered : s.memory job = some m) (final : Memory.Final m)
    (done : finish c s job d m = .ok s') (member' : t' ∈ s'.store.tickets.rows)
    (own : t'.id = job.ticketID) (lives : ¬t'.status.Terminal) (covered : CoveredOpen s' t') :
    Woken s'.store t' := by
  have stay : TicketsStay s.store s'.store := by
    rcases rows_finish remembered final done with aside | ⟨plan, x, t, applies⟩
    · exact aside.stay
    · exact applies.stay
  obtain ⟨holds, next, s₁, concludes, -, last⟩ := finish_concludes final done
  obtain ⟨t, found⟩ := linked.getTicket holds (type_lane m)
  obtain ⟨row, project⟩ := getTicket_eq_some_iff.mp found
  cases next with
  | false =>
    rw [if_neg (by decide)] at last
    subst last
    cases concludes with
    | @gone plan batchID absent =>
      have place := (linked.memory job _ plan.ticket (some batchID) remembered rfl).ticket
      rw [place, found] at absent
      cases absent
    | stale current stale => exact Or.inl (woken_stale linked holds remembered current member' own lives)
    | unknown _ _ absent =>
      rw [found] at absent
      cases absent
  | true =>
    rw [if_pos rfl] at last
    -- the ticket is still there when the next confirmation is looked for
    have named : (complete s₁ job).store.getTicket job.projectID job.ticketID = some t' := by
      obtain ⟨u, present, place, -⟩ := stay t (Table.mem_of_find? row)
      obtain rfl : u = t' := s'.store.tickets.inj present member'
        (place.1.trans ((id_of_getTicket found).trans own.symm))
      rw [last.tickets] at present
      refine getTicket_eq_some_iff.mpr ⟨?_, place.2.1.trans project⟩
      exact own ▸ (complete s₁ job).store.tickets.find?_key present
    cases last with
    | gone absent =>
      rw [named] at absent
      cases absent
    | terminal known ended =>
      rw [named, Option.some.injEq] at known
      exact absurd (known ▸ ended) lives
    | finished known nothing =>
      rw [named, Option.some.injEq] at known
      obtain ⟨w, present, opens, -⟩ := covered
      exact absurd (known ▸ opens) (not_open nothing w present)
    | queued known free =>
      rw [named, Option.some.injEq] at known
      rw [known]
      exact Or.inr (laneActive_next (complete s₁ job).store.jobs _ _ _ free)

theorem noneStranded_finish (awake : Awake s) (remembered : s.memory job = some m)
    (final : Memory.Final m) (done : finish c s job d m = .ok s') : NoneStranded s' := by
  have jobs := (finish_jobs final done).mono (fun _ ends => ends) fun _ _ => trivial
  obtain ⟨holds, next, s₁, concludes, -, last⟩ := finish_concludes final done
  have opens : ∀ ticketID, OpensBack s s' ticketID := by
    intro ticketID
    have before := concludes.opensBack ticketID
    split at last
    · cases last <;> exact before
    · rw [last]
      exact before
  intro t' member' lives covered
  by_cases own : t'.id = job.ticketID
  · exact woken_own awake.linked remembered final done member' own lives covered
  · rcases row_other awake.linked remembered final done member' own with
      ⟨t, member, row⟩ | ⟨fresh, boundary⟩
    · refine woken_aside awake jobs member row (opens t'.id) ?_ lives covered
      rintro - j present - ticket - (⟨ticketID, same, u, memberU, named, ended⟩ | ends)
      · rw [ticket, Option.some.injEq] at same
        obtain rfl : u = t' := s'.store.tickets.inj memberU member'
          (named.trans (same.symm.trans row.place.1.symm))
        exact absurd ended lives
      · rw [ticket_of_held holds present ends, Option.some.injEq] at ticket
        exact absurd (row.place.1.trans ticket.symm) own
    · exact absurd covered (not_covered_fresh (opens t'.id) fresh boundary)

theorem noneStranded_fails (awake : Awake s) {ended dies : Job → Prop} {jobs : Jobs.JobTable}
    {dead : List Job} {s' : TicketStore} (fails : Fails ended s.store jobs dead s')
    (loses : ∀ j, ended j → j.batchID = none → dies j)
    (spares : ∀ j ∈ s.store.jobs.rows, Lane j → dies j → ∀ ticketID, j.ticketID = some ticketID →
      Sheltered s dies ticketID) : NoneStranded { s with store := s' } := by
  have cleans := awake.linked.cleansUp fails
  have rows : RowsAside s.store s' := ⟨cleans.rows.forth, cleans.rows.back⟩
  have aside : JobsAside ended (fun _ => True) s.store.jobs s'.jobs := by
    rw [cleans.jobs]
    exact fails.aside.mono (fun _ ends => ends) fun _ _ => trivial
  obtain ⟨batches, evidence, -⟩ := cleans.evidence
  refine noneStranded_spared awake aside rows (.of_batches evidence rfl) spares ?_
  intro t member t' member' row lives j present lane own active ends survives
  cases batch : j.batchID with
  | none => exact absurd (loses j ends batch) survives
  | some id =>
    obtain ⟨-, -, b, found, ofTicket, alive⟩ := awake.linked.batch j present lane id batch
    have same : t.id = b.ticketID := Option.some.inj (own.symm.trans ofTicket)
    have only : ∀ u' ∈ s'.tickets.rows, u'.id = t.id → u' = t' := fun u' memberU sameU =>
      s'.tickets.inj memberU member' (sameU.trans row.place.1.symm)
    rcases alive active with staging | ⟨u, memberU, named, terminal⟩
    · obtain ⟨j', listed, goes, deadLetter⟩ := fails.dead j present ends
      have gives : GivesUp dead id :=
        ⟨j', listed, goes.lane.mpr lane, deadLetter, goes.batchID.trans batch⟩
      obtain ⟨u', memberU, sameU, woken⟩ := cleans.flags id b found staging gives t member same
      rw [only u' memberU sameU] at woken
      exact Or.inl (woken.resolve_right lives)
    · obtain rfl : u = t := s.store.tickets.inj memberU member
        (named.trans same.symm)
      exact absurd (row.terminal terminal) lives

theorem ownRows_arrivals {t u : FrictionTicket} {a : AppliedTransition} (row : u ∈ ownRows t a) :
    u.arrivalBoundary = t.arrivalBoundary ∧ u.nextArrivalNumber = t.nextArrivalNumber := by
  cases a with
  | deferred | folded | activated | unchanged =>
    rw [List.mem_singleton.mp row]
    exact ⟨rfl, rfl⟩
  | unpublished | refreshed => rcases List.mem_pair.mp row with rfl | rfl <;> exact ⟨rfl, rfl⟩

theorem bounded_step (c : ConfirmSettings) (bounded : Bounded s.store) (a : Action) :
    Bounded (step c s a).store := by
  rcases rows_step c s a with (aside | ⟨t, -, -, tickets⟩) | ⟨job, m, plan, x, t, applies⟩
  · exact bounded_aside bounded aside
  · intro t' member'
    rw [tickets] at member'
    obtain ⟨u, member, rfl⟩ := (Table.mem_updateWhere s.store.tickets _ FrictionTicket.cover
      (fun _ => rfl) t').mp member'
    split
    · exact Nat.le_refl u.nextArrivalNumber
    · exact bounded u member
  · obtain ⟨current, f, frame, found, rfl, tickets, -, kind⟩ := applies.prepares.row
    have kept : ∀ u : FrictionTicket, (f u).arrivalBoundary = u.arrivalBoundary ∧
        (f u).nextArrivalNumber = u.nextArrivalNumber := by
      rcases kind with ⟨rfl, -⟩ | ⟨⟨count, rfl⟩, -⟩ <;> exact fun _ => ⟨rfl, rfl⟩
    have before : Bounded x.store := by
      intro v member
      rw [tickets] at member
      obtain ⟨u, old, rfl⟩ := (Table.mem_updateWhere s.store.tickets _ f frame v).mp member
      split
      · rw [(kept u).1, (kept u).2]
        exact bounded u old
      · exact bounded u old
    intro t' member'
    by_cases own : t'.id = (f current).id
    · obtain ⟨u', row, found'⟩ := applies.rows.own (f current) applies.known
      obtain rfl : t' = u' := List.inj_on_of_nodup_map (step c s a).store.tickets.unique member'
        (Table.mem_of_find? found') (own.trans (Table.key_of_find? found').symm)
      obtain ⟨boundary, arrivals⟩ := ownRows_arrivals row
      rw [boundary, arrivals]
      exact before (f current) (Table.mem_of_find? applies.known)
    · obtain ⟨u, member, row⟩ := applies.rows.back t' member' own
      rw [row.boundary]
      exact (before u member).trans row.arrivals

theorem noneStranded_step (c : ConfirmSettings) {a : Action} (awake : Awake s)
    (spares : Spares s a) : NoneStranded (step c s a) := by
  cases a with
  | ticket a =>
    rw [step]
    split
    · rename_i beside
      exact noneStranded_ticket awake beside
    · exact awake.awake
  | scheduleFrictionReconciliation draw now =>
    refine noneStranded_none awake ?_ (.of_eq rfl) fun ticketID => ?_
    · exact (jobsAside_schedule s.store draw now).mono (fun _ never => never) fun _ _ => trivial
    · refine OpensBack.of_eq ?_ ?_ ticketID <;> rfl
  | beginConfirm job batchID now clock clock' =>
    rw [step]
    split
    · exact awake.awake
    · rename_i starts
      cases begun : Tickets.beginConfirm s job batchID now clock clock' with
      | error => exact noneStranded_same awake rfl rfl
      | ok s' =>
        obtain ⟨holds, begins⟩ := beginConfirm_begins begun
        exact noneStranded_begins awake (Option.not_isSome_iff_eq_none.mp starts) holds spares begins
  | beginReconcile job clock =>
    rw [step]
    split
    · exact awake.awake
    · refine noneStranded_same awake (store_beginReconcile s job clock) ?_
      unfold beginReconcile
      split
      · rfl
      · split <;> rfl
  | read job =>
    rw [step]
    split
    · exact noneStranded_same awake rfl rfl
    · exact awake.awake
  | stageMember job r attemptID now clock clock' =>
    rw [step]
    split
    · rename_i t batchID member left remembered
      cases staged : Tickets.stageMember s job t batchID member left r attemptID now clock clock' with
      | error => exact noneStranded_same awake rfl rfl
      | ok s' =>
        obtain ⟨holds, stages⟩ := stageMember_stages staged
        exact noneStranded_stages awake holds remembered stages
    · exact awake.awake
  | readGate job clock =>
    rw [step]
    split
    · exact noneStranded_same awake rfl rfl
    · exact awake.awake
  | answerGate job answer decisionID now =>
    rw [step]
    split
    · rename_i plan batchID n left remembered
      cases answers : Tickets.answerGate s job plan batchID n left decisionID now answer with
      | error => exact noneStranded_same awake rfl rfl
      | ok s' =>
        refine noneStranded_same awake (store_answerGate answers) ?_
        cases answer with
        | invalid =>
          cases answers
          rfl
        | oneFix yes =>
          obtain ⟨s₁, recorded, answers⟩ := Except.of_bind answers
          obtain ⟨decisions, -, recorded⟩ := Except.of_bind recorded
          cases recorded
          cases answers
          rfl
    · exact awake.awake
  | finish job d =>
    rw [step]
    split
    · rename_i m chosen
      obtain ⟨remembered, final⟩ := Option.filter_eq_some_iff.mp chosen
      cases done : finish c s job d m with
      | error => exact noneStranded_same awake rfl rfl
      | ok s' =>
        have still : NoneStranded s' :=
          noneStranded_finish awake remembered (of_decide_eq_true final) done
        exact still
    · exact awake.awake
  | failJob jobID workerID leaseGeneration error options jitter now clock =>
    obtain ⟨jobs, dead, fails⟩ := fails_failJob s.store jobID workerID leaseGeneration error options
      jitter now clock
    exact noneStranded_fails awake fails (fun _ ends batch => ⟨ends, batch⟩) spares
  | requeueStaleJobs candidateIDs jitter now =>
    obtain ⟨jobs, dead, fails⟩ := fails_requeueStaleJobs s.store candidateIDs jitter now
    exact noneStranded_fails awake fails (fun _ ends batch => ⟨ends, batch⟩) spares

/-- Where no needed job of a lane ends without a batch to give up, no recording is stranded. -/
theorem noneStranded_run (c : ConfirmSettings) {actions : List Action}
    (spares : (machine c).Guarded (fun s a => Spares s a) .empty actions) :
    NoneStranded ((machine c).run .empty actions) := by
  have awake : Awake ((machine c).run .empty actions) :=
    (machine c).invariant_guarded Awake (fun s a awake spares =>
      ⟨linked_step c awake.linked a, bounded_step c awake.bounded a, noneStranded_step c awake spares⟩)
      awake_empty spares
  exact awake.awake

section Example

def farSettings : ConfirmSettings := ⟨fun _ _ => none, 1, 5⟩

def firstConfirm : FrictionJob := ⟨200, 1, 10, "w", 1⟩

/-- The confirmation of ticket 10 reads two of its three recordings; the third is unavailable,
and its retry waits for an hour. -/
def oneUnavailable : List Action :=
  recorded 10 ["a", "b", "c"] ++
    ([.ticket (.enqueue (confirmJob (FrictionTicket.new 10 1 2 .defect) 200 0)),
    .ticket (.queue (.claimJob "w" 1000 {} [] 0)),
    .beginConfirm firstConfirm 30 0 0 0, .read firstConfirm, .read firstConfirm,
    .stageMember firstConfirm ⟨.confirmed, [], "", none⟩ 40 0 0 0, .read firstConfirm,
    .stageMember firstConfirm ⟨.confirmed, [], "", none⟩ 41 0 0 0, .read firstConfirm,
    .stageMember firstConfirm ⟨.unavailable, [], "", none⟩ 42 0 0 0, .read firstConfirm,
    .read firstConfirm, .read firstConfirm, .read firstConfirm,
    .finish firstConfirm ⟨⟨100, 201, 202, 203⟩, 204, 0, 0, 0⟩] : List Action)

/-- A worker claims the next confirmation and is lost. -/
def crash (now : Timestamp) : List Action :=
  [.ticket (.queue (.claimJob "v" 1000 {} [] now)),
    .requeueStaleJobs [204] (fun _ => 0) (now + 2 * second)]

theorem noneStranded_run_oneUnavailable :
    (machine farSettings).Guarded (fun s a => Spares s a) .empty
        (oneUnavailable ++ crash (hours 1) ++ crash (hours 2)) ∧
      NoneStranded ((machine farSettings).run .empty
        (oneUnavailable ++ crash (hours 1) ++ crash (hours 2))) :=
  have spares : (machine farSettings).Guarded (fun s a => Spares s a) .empty
      (oneUnavailable ++ crash (hours 1) ++ crash (hours 2)) := by
    decide +kernel
  ⟨spares, noneStranded_run farSettings spares⟩

/-- The next confirmation is a dead letter before it selects a batch. -/
theorem stranded_before_selection : ¬∀ (c : ConfirmSettings) (actions : List Action),
    NoneStranded ((machine c).run .empty actions) := by
  intro holds
  have ends := holds farSettings (oneUnavailable ++ crash (hours 1) ++ crash (hours 2) ++ crash (hours 3))
  revert ends
  decide +kernel

end Example

end Opslane.Tickets.Confirmations
