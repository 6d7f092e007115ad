import Opslane.Tickets.ConfirmationRuns

/-!
# What the transactions of the two jobs can do

The ways in which the first and the last transaction of an execution commit, each with the
checks it passed on its way. `Begins` and `Concludes` say once what a transaction writes;
what it keeps is read off their cases.
-/

namespace Opslane.Tickets.Confirmations

open Jobs (Job JobType)

def complete (s : ConfirmStore) (job : FrictionJob) : ConfirmStore :=
  { s with store := { s.store with jobs := s.store.jobs.updateKey job.id completed completed_id } }

def keep (s : ConfirmStore) (job : FrictionJob) (batchID : UUID) : ConfirmStore :=
  { s with
    store := { s.store with jobs := s.store.jobs.updateKey job.id (keepBatch batchID) (keepBatch_id batchID) } }

variable {job : FrictionJob}

variable {s : TicketStore}

theorem lockLease_eq_ok {type : JobType} {clock : Timestamp} {u : Unit}
    (locked : lockLease s job type clock = .ok u) : HoldsJob s job type clock := by
  unfold lockLease at locked
  split at locked
  · assumption
  · cases locked

theorem holdsJob_row {type : JobType} {clock : Timestamp} (holds : HoldsJob s job type clock) :
    ∃ j, s.jobs.find? job.id = some j ∧ j.id = job.id ∧
      j.projectID = job.projectID ∧ j.ticketID = some job.ticketID ∧ j.jobType = type ∧
      j.status = .claimed ∧ j.workerID = some job.workerID ∧
      j.leaseGeneration = job.leaseGeneration := by
  obtain ⟨j, member, held⟩ := List.any_eq_true.mp holds
  obtain ⟨project, ticket, kind, owned⟩ := of_decide_eq_true held
  refine ⟨j, ?_, owned.1, project, ticket, kind, owned.2.2.2.1, owned.2.1, owned.2.2.1⟩
  exact owned.1 ▸ s.jobs.find?_key member

theorem completeTx_eq_ok {s s' : TicketStore} {type : JobType} {clock : Timestamp}
    (done : completeTx s job type clock = .ok s') :
    HoldsJob s job type clock ∧
      s' = { s with jobs := s.jobs.updateKey job.id completed fun _ => rfl } := by
  obtain ⟨u, locked, done⟩ := Except.of_bind done
  cases done
  exact ⟨lockLease_eq_ok locked, rfl⟩

variable {t : FrictionTicket}

variable {projectID ticketID : UUID}

theorem getTicket_eq_some_iff :
    s.getTicket projectID ticketID = some t ↔
      s.tickets.find? ticketID = some t ∧ t.projectID = projectID := by
  rw [TicketStore.getTicket, Option.filter_eq_some_iff, decide_eq_true_eq]

theorem id_of_getTicket (found : s.getTicket projectID ticketID = some t) : t.id = ticketID :=
  Table.key_of_find? (getTicket_eq_some_iff.mp found).1

/-- A selected batch. -/
structure Selects (s : ConfirmStore) (t : FrictionTicket) (jobID batchID : UUID) (now : Timestamp)
    (s' : ConfirmStore) : Prop where
  members : selectedMembers s t now ≠ []
  batches : s.store.evidence.batches.insert? ⟨batchID, t.id, .staging⟩ =
    some s'.store.evidence.batches
  evidence : s'.store.evidence = { s.store.evidence with batches := s'.store.evidence.batches }
  tickets : s'.store.tickets = s.store.tickets.updateKey t.id FrictionTicket.cover fun _ => rfl
  incidents : s'.store.incidents = s.store.incidents
  jobs : s'.store.jobs = s.store.jobs
  selection : s'.selection = Function.update s.selection batchID
    ⟨jobID, selectedMembers s t now, t.arrivalBoundary, t.liveGeneration, t.status, t.evidenceVersion⟩
  outcome : s'.outcome = s.outcome
  retries : s'.retries = s.retries
  gateDecisions : s'.gateDecisions = s.gateDecisions
  memory : s'.memory = s.memory

variable {s s' : ConfirmStore} {now : Timestamp}

variable {jobID batchID : UUID}

theorem selectBatch_selects (done : selectBatch s t jobID batchID now = .ok (some s')) :
    Selects s t jobID batchID now s' := by
  unfold selectBatch at done
  dsimp only at done
  split at done
  · cases done
  · rename_i members
    obtain ⟨batches, inserted, done⟩ := Except.of_bind done
    rw [Option.orError_eq_ok_iff] at inserted
    cases done
    exact ⟨members, inserted, rfl, rfl, rfl, rfl, rfl, rfl, rfl, rfl, rfl⟩

inductive Begins (s : ConfirmStore) (job : FrictionJob) (batchID : UUID) (now : Timestamp) :
    ConfirmStore → Prop where
  | gone (absent : s.store.getTicket job.projectID job.ticketID = none) :
    Begins s job batchID now (complete s job)
  | terminal {t : FrictionTicket} (found : s.store.getTicket job.projectID job.ticketID = some t)
      (terminal : t.status.Terminal) :
    Begins s job batchID now (complete { s with store := settleTerminal s.store job.id t.id } job)
  | lost {t : FrictionTicket} {id : UUID}
      (found : s.store.getTicket job.projectID job.ticketID = some t) (live : ¬t.status.Terminal)
      (kept : jobBatch s.store job.id = some id) (other : getBatch s t.id id = none) :
    Begins s job batchID now (complete s job)
  | idle {t : FrictionTicket} (found : s.store.getTicket job.projectID job.ticketID = some t)
      (live : ¬t.status.Terminal) (unused : jobBatch s.store job.id = none)
      (nothing : selectedMembers s t now = []) :
    Begins s job batchID now (complete s job)
  | resumed {t : FrictionTicket} {b : ConfirmBatch}
      (found : s.store.getTicket job.projectID job.ticketID = some t) (live : ¬t.status.Terminal)
      (kept : jobBatch s.store job.id = some b.id) (own : getBatch s t.id b.id = some b)
      (mine : (s.selection b.id).jobID = job.id) :
    Begins s job batchID now ((keep s job b.id).remember job (some (.selected t b.id)))
  | selected {t : FrictionTicket} {s₁ : ConfirmStore}
      (found : s.store.getTicket job.projectID job.ticketID = some t) (live : ¬t.status.Terminal)
      (unused : jobBatch s.store job.id = none) (selects : Selects s t job.id batchID now s₁) :
    Begins s job batchID now ((keep s₁ job batchID).remember job (some (.selected t batchID)))

variable {batchID : UUID}

theorem takeBatch_eq_ok {taken : Option (ConfirmStore × UUID)}
    (done : takeBatch s job t batchID now = .ok taken) :
    (∃ id, jobBatch s.store job.id = some id ∧
      taken = (getBatch s t.id id).map fun b => (s, b.id)) ∨
    (jobBatch s.store job.id = none ∧ ∃ chosen, selectBatch s t job.id batchID now = .ok chosen ∧
      taken = chosen.map fun s => (s, batchID)) := by
  unfold takeBatch at done
  split at done
  · rename_i id kept
    cases done
    exact Or.inl ⟨id, kept, rfl⟩
  · rename_i unused
    obtain ⟨chosen, selected, rfl⟩ := Except.map_eq_ok_iff.mp done
    exact Or.inr ⟨unused, chosen, selected, rfl⟩

theorem selectBatch_none (done : selectBatch s t jobID batchID now = .ok none) :
    selectedMembers s t now = [] := by
  unfold selectBatch at done
  dsimp only at done
  split at done
  · assumption
  · obtain ⟨batches, -, done⟩ := Except.of_bind done
    cases done

variable {now clock clock' : Timestamp}

theorem beginConfirm_begins (done : beginConfirm s job batchID now clock clock' = .ok s') :
    HoldsJob s.store job .frictionConfirm clock ∧ Begins s job batchID now s' := by
  obtain ⟨u, locked, done⟩ := Except.of_bind done
  refine ⟨lockLease_eq_ok locked, ?_⟩
  split at done
  · rename_i absent
    obtain ⟨store, completed, done⟩ := Except.of_bind done
    cases done
    obtain ⟨-, rfl⟩ := completeTx_eq_ok completed
    exact .gone absent
  · rename_i t found
    split at done
    · rename_i ended
      obtain ⟨store, completed, done⟩ := Except.of_bind done
      cases done
      obtain ⟨-, rfl⟩ := completeTx_eq_ok completed
      exact .terminal found ended
    · rename_i live
      obtain ⟨taken, took, done⟩ := Except.of_bind done
      rcases takeBatch_eq_ok took with ⟨id, kept, rfl⟩ | ⟨unused, chosen, selected, rfl⟩
      · cases own : getBatch s t.id id with
        | none =>
          rw [own] at done
          obtain ⟨store, completed, done⟩ := Except.of_bind done
          cases done
          obtain ⟨-, rfl⟩ := completeTx_eq_ok completed
          exact .lost found live kept own
        | some b =>
          rw [own] at done
          obtain ⟨mine, done⟩ := Except.of_guard done
          cases done
          have key : b.id = id := by
            rw [getBatch, Option.filter_eq_some_iff] at own
            exact Table.key_of_find? own.1
          exact .resumed found live (key ▸ kept) (key ▸ own) (not_not.mp mine)
      · cases chosen with
        | none =>
          obtain ⟨store, completed, done⟩ := Except.of_bind done
          cases done
          obtain ⟨-, rfl⟩ := completeTx_eq_ok completed
          exact .idle found live unused (selectBatch_none selected)
        | some s₁ =>
          obtain ⟨-, done⟩ := Except.of_guard done
          cases done
          exact .selected found live unused (selectBatch_selects selected)

/-- A staged check writes the tables of checks alone. -/
inductive StagesMember (s : ConfirmStore) (job : FrictionJob) (t : FrictionTicket)
    (batchID : UUID) (member : BatchMember) (left : List BatchMember) (r : CheckResult)
    (attemptID : UUID) (now : Timestamp) : ConfirmStore → Prop where
  | torn (torn : ¬BatchIntact s batchID) :
    StagesMember s job t batchID member left r attemptID now
      (s.remember job (some (.planning t (some batchID))))
  | kept (intact : BatchIntact s batchID)
      (kept : ((s.store.evidence.batches.find? batchID).filter fun b =>
        Stages s batchID member.sessionID r b) = none) :
    StagesMember s job t batchID member left r attemptID now
      (s.remember job (some (.staging t batchID left)))
  | staged {b : ConfirmBatch} {attempts : Table CheckAttempt.id} (intact : BatchIntact s batchID)
      (found : s.store.evidence.batches.find? batchID = some b)
      (stages : Stages s batchID member.sessionID r b)
      (inserted : s.store.evidence.attempts.insert?
        (r.attempt attemptID batchID b.ticketID member.sessionID) = some attempts) :
    StagesMember s job t batchID member left r attemptID now
      (({ s with
        store := s.store.withChecks s.store.evidence.checks attempts s.store.evidence.batches
        outcome := Function.update s.outcome attemptID r.outcome
        retries := if r.outcome = .unavailable then
            s.retries.upsert (.first b.ticketID member.sessionID now) (UnavailableRetry.again now)
              fun _ => rfl
          else s.retries } : ConfirmStore).remember job (some (.staging t batchID left)))

theorem stageMember_stages {member : BatchMember} {left : List BatchMember} {r : CheckResult}
    {attemptID : UUID}
    (done : stageMember s job t batchID member left r attemptID now clock clock' = .ok s') :
    HoldsJob s.store job .frictionConfirm clock ∧
      StagesMember s job t batchID member left r attemptID now s' := by
  obtain ⟨u, locked, done⟩ := Except.of_bind done
  refine ⟨lockLease_eq_ok locked, ?_⟩
  split at done
  · rename_i torn
    cases done
    exact .torn torn
  · rename_i intact
    obtain ⟨s₁, staged, done⟩ := Except.of_bind done
    obtain ⟨u', -, done⟩ := Except.of_bind done
    cases done
    unfold stageCheck at staged
    split at staged
    · rename_i kept
      cases staged
      exact .kept (not_not.mp intact) kept
    · rename_i b chosen
      obtain ⟨found, stages⟩ := Option.filter_eq_some_iff.mp chosen
      obtain ⟨attempts, inserted, staged⟩ := Except.of_bind staged
      rw [Option.orError_eq_ok_iff] at inserted
      cases staged
      exact .staged (not_not.mp intact) found (of_decide_eq_true stages) inserted

/-- A finalized batch. -/
structure Finalizes (s : ConfirmStore) (t : FrictionTicket) (batchID : UUID) (s' : ConfirmStore) :
    Prop where
  batch : ∃ b, getBatch s t.id batchID = some b ∧ b.status = .staging
  complete : (s.store.evidence.attempts.select fun a => a.batchID = batchID).length =
    (s.selection batchID).manifest.length
  tickets : s'.store.tickets = s.store.tickets.updateKey t.id FrictionTicket.finalize fun _ => rfl
  incidents : s'.store.incidents = s.store.incidents
  jobs : s'.store.jobs = s.store.jobs
  evidence : s'.store.evidence = { s.store.evidence with
    checks := (batchChecks s batchID).foldl Table.insertIgnore s.store.evidence.checks
    batches := s.store.evidence.batches.updateKey batchID ConfirmBatch.finalize fun _ => rfl }
  retries : s'.retries = s.retries.deleteWhere fun r => s.store.evidence.attempts.any fun a =>
    Conclusive s batchID a ∧ r.key = (a.ticketID, a.sessionID)
  selection : s'.selection = s.selection
  outcome : s'.outcome = s.outcome
  gateDecisions : s'.gateDecisions = s.gateDecisions
  memory : s'.memory = s.memory

theorem finalizeBatch_finalizes (done : finalizeBatch s t batchID = .ok (s', true)) :
    Finalizes s t batchID s' := by
  unfold finalizeBatch at done
  split at done
  · cases done
  · rename_i b own
    split at done
    · cases done
    · rename_i staging
      obtain ⟨complete, done⟩ := Except.of_guard done
      cases done
      exact ⟨⟨b, own, not_not.mp staging⟩, not_not.mp complete, rfl, rfl, rfl, rfl, rfl, rfl, rfl,
        rfl, rfl⟩

/-- A plan is current, and its ticket locked: the state it is applied to, and its ticket there. -/
inductive Prepares (s : ConfirmStore) (job : FrictionJob) :
    Memory → TransitionPlan → ConfirmStore → FrictionTicket → Prop where
  | finalized {plan : TransitionPlan} {batchID : UUID} {current : FrictionTicket}
      {s₁ : ConfirmStore} (found : s.store.getTicket job.projectID plan.ticket.id = some current)
      (fresh : BatchCurrent s current batchID plan) (intact : BatchIntact s batchID)
      (finalizes : Finalizes s current batchID s₁) :
    Prepares s job (.planned plan (some batchID)) plan s₁ current.finalize
  | counted {plan : TransitionPlan} {current t : FrictionTicket}
      (found : s.store.getTicket job.projectID job.ticketID = some current)
      (live : ¬current.status.Terminal)
      (counted : (recountTicket s.store current.id).tickets.find? t.id = some t)
      (same : ∃ count, t = current.setMatchedCount count)
      (fresh : PlanCurrent (recountTicket s.store current.id) t plan) :
    Prepares s job (.planned plan none) plan
      { s with store := recountTicket s.store current.id } t

variable {m : Memory}

variable {plan : TransitionPlan}

theorem Prepares.planned {s x : ConfirmStore} (prepares : Prepares s job m plan x t) :
    ∃ batchID, m = .planned plan batchID := by
  cases prepares with
  | finalized => exact ⟨some _, rfl⟩
  | counted => exact ⟨none, rfl⟩

/-- What a last transaction writes before it completes its job, and whether it then looks for
the ticket's next confirmation. -/
inductive Concludes (c : ConfirmSettings) (s : ConfirmStore) (job : FrictionJob) (d : FinalDraws) :
    Memory → Bool → ConfirmStore → Prop where
  | gone {plan : TransitionPlan} {batchID : UUID}
      (absent : s.store.getTicket job.projectID plan.ticket.id = none) :
    Concludes c s job d (.planned plan (some batchID)) false s
  | stale {plan : TransitionPlan} {batchID : UUID} {current : FrictionTicket}
      (found : s.store.getTicket job.projectID plan.ticket.id = some current)
      (stale : ¬BatchCurrent s current batchID plan ∨ ¬BatchIntact s batchID) :
    Concludes c s job d (.planned plan (some batchID)) false
      { s with store := abandonBatch s.store current batchID }
  | again {plan : TransitionPlan} {batchID : UUID} {current : FrictionTicket} {b : ConfirmBatch}
      (found : s.store.getTicket job.projectID plan.ticket.id = some current)
      (own : getBatch s current.id batchID = some b) (done : b.status ≠ .staging) :
    Concludes c s job d (.planned plan (some batchID)) true s
  | unknown {m : Memory} (final : Memory.Final m)
      (alone : ∀ plan batchID, m ≠ .planned plan (some batchID))
      (absent : s.store.getTicket job.projectID job.ticketID = none) :
    Concludes c s job d m false s
  | terminal {m : Memory} {current : FrictionTicket} (final : Memory.Final m)
      (alone : ∀ plan batchID, m ≠ .planned plan (some batchID))
      (found : s.store.getTicket job.projectID job.ticketID = some current)
      (terminal : current.status.Terminal) :
    Concludes c s job d m true
      { s with store := reconciledTicket (recountTicket s.store current.id) current.id }
  | outdated {m : Memory} {current : FrictionTicket} (final : Memory.Final m)
      (alone : ∀ plan batchID, m ≠ .planned plan (some batchID))
      (found : s.store.getTicket job.projectID job.ticketID = some current) :
    Concludes c s job d m true
      { s with
        store := (recountTicket s.store current.id).updateTicket current.id
          FrictionTicket.needReconcile fun _ => ⟨rfl, rfl, rfl⟩ }
  | applied {m : Memory} {plan : TransitionPlan} {x : ConfirmStore} {t : FrictionTicket}
      {store : TicketStore} (prepares : Prepares s job m plan x t)
      (applied : carryOut c x.store t d.draws d.now (appliedTransition c x.store t plan) =
        .ok store) :
    Concludes c s job d m true { x with store }

/-- The next confirmation of the ticket is queued where there is something left to wait for. -/
inductive Queues (s : ConfirmStore) (job : FrictionJob) (jobID : UUID) (now : Timestamp) :
    ConfirmStore → Prop where
  | gone (absent : s.store.getTicket job.projectID job.ticketID = none) : Queues s job jobID now s
  | terminal {t : FrictionTicket} (found : s.store.getTicket job.projectID job.ticketID = some t)
      (terminal : t.status.Terminal) : Queues s job jobID now s
  | finished {t : FrictionTicket} (found : s.store.getTicket job.projectID job.ticketID = some t)
      (nothing : nextConfirmationAt s t.id now = none) : Queues s job jobID now s
  | queued {t : FrictionTicket} {availableAt : Timestamp}
      (found : s.store.getTicket job.projectID job.ticketID = some t)
      (free : s.store.jobs.find? jobID = none) :
    Queues s job jobID now
      { s with
        store := { s.store with
          jobs := Jobs.enqueueJobTx s.store.jobs (nextConfirmJob t jobID availableAt now) } }

theorem queueNext_queues (done : queueNext s job jobID now = .ok s') :
    Queues s job jobID now s' := by
  unfold queueNext at done
  split at done
  · rename_i absent
    cases done
    exact .gone absent
  · rename_i t found
    split at done
    · rename_i ended
      cases done
      exact .terminal found ended
    · split at done
      · rename_i nothing
        cases done
        exact .finished found nothing
      · rename_i availableAt waiting
        split at done
        · cases done
        · rename_i free
          cases done
          exact .queued found (Option.not_isSome_iff_eq_none.mp free)

/-- The type of the job whose last transaction this is. -/
def Memory.type : Memory → JobType
  | .planned _ (some _) => .frictionConfirm
  | _ => .frictionReconcile

variable {c : ConfirmSettings} {d : FinalDraws}

theorem finishConfirm_concludes (done : finishConfirm c s job plan batchID d = .ok s') :
    HoldsJob s.store job .frictionConfirm d.clock ∧
      ∃ next s₁, Concludes c s job d (.planned plan (some batchID)) next s₁ ∧
        HoldsJob s₁.store job .frictionConfirm d.clock' ∧
        (if next then Queues (complete s₁ job) job d.nextID d.now s' else s' = complete s₁ job) := by
  obtain ⟨u, locked, done⟩ := Except.of_bind done
  refine ⟨lockLease_eq_ok locked, ?_⟩
  split at done
  · rename_i absent
    obtain ⟨store, completed, done⟩ := Except.of_bind done
    cases done
    obtain ⟨holds, rfl⟩ := completeTx_eq_ok completed
    exact ⟨false, s, .gone absent, holds, rfl⟩
  · rename_i current found
    split at done
    · rename_i old
      obtain ⟨store, completed, done⟩ := Except.of_bind done
      cases done
      obtain ⟨holds, rfl⟩ := completeTx_eq_ok completed
      exact ⟨false, _, .stale found old, holds, rfl⟩
    · rename_i fresh
      obtain ⟨s₁, concluded, done⟩ := Except.of_bind done
      obtain ⟨store, completed, done⟩ := Except.of_bind done
      obtain ⟨holds, rfl⟩ := completeTx_eq_ok completed
      refine ⟨true, s₁, ?_, holds, queueNext_queues done⟩
      obtain ⟨⟨s₂, ok⟩, finalized, concluded⟩ := Except.of_bind concluded
      have batchCurrent : BatchCurrent s current batchID plan := by
        by_contra old
        exact fresh (Or.inl old)
      have intact : BatchIntact s batchID := by
        by_contra torn
        exact fresh (Or.inr torn)
      cases ok with
      | true =>
        obtain ⟨store', applied, concluded⟩ := Except.of_bind concluded
        cases concluded
        exact .applied (.finalized found batchCurrent intact (finalizeBatch_finalizes finalized)) applied
      | false =>
        cases concluded
        unfold finalizeBatch at finalized
        split at finalized
        · cases finalized
        · rename_i b own
          split at finalized
          · rename_i ended
            cases finalized
            exact .again found own ended
          · obtain ⟨-, finalized⟩ := Except.of_guard finalized
            cases finalized

theorem recountTicket_find? {s : TicketStore} (found : s.tickets.find? t.id = some t) :
    (recountTicket s t.id).tickets.find? t.id = some (t.setMatchedCount
      (s.evidence.ticketMatches.select fun m => m.ticketID = t.id).length) := by
  refine (Table.find?_updateKey s.tickets t.id (FrictionTicket.setMatchedCount _) (fun _ => rfl)
    t.id).trans ?_
  rw [if_pos rfl, found, Option.map_some]

theorem finishReconcile_concludes {plan : Option TransitionPlan} (final : Memory.Final m)
    (alone : ∀ plan batchID, m ≠ .planned plan (some batchID))
    (planned : ∀ p, plan = some p → m = .planned p none)
    (done : finishReconcile c s job plan d = .ok s') :
    HoldsJob s.store job .frictionReconcile d.clock ∧
      ∃ next s₁, Concludes c s job d m next s₁ ∧
        HoldsJob s₁.store job .frictionReconcile d.clock' ∧
        (if next then Queues (complete s₁ job) job d.nextID d.now s' else s' = complete s₁ job) := by
  obtain ⟨u, locked, done⟩ := Except.of_bind done
  refine ⟨lockLease_eq_ok locked, ?_⟩
  split at done
  · rename_i absent
    obtain ⟨store, completed, done⟩ := Except.of_bind done
    cases done
    obtain ⟨holds, rfl⟩ := completeTx_eq_ok completed
    exact ⟨false, s, .unknown final alone absent, holds, rfl⟩
  · rename_i current found
    obtain ⟨store, reconciled, done⟩ := Except.of_bind done
    obtain ⟨store', completed, done⟩ := Except.of_bind done
    obtain ⟨holds, rfl⟩ := completeTx_eq_ok completed
    refine ⟨true, { s with store }, ?_, holds, queueNext_queues done⟩
    unfold reconcileTicket at reconciled
    split at reconciled
    · rename_i ended
      cases reconciled
      exact .terminal final alone found ended
    · rename_i live
      split at reconciled
      · rename_i p chosen
        obtain ⟨rfl, fresh⟩ := Option.filter_eq_some_iff.mp chosen
        have row := (getTicket_eq_some_iff.mp found).1
        have own := id_of_getTicket found
        rw [planned p rfl]
        have prepares := Prepares.counted found live (recountTicket_find? (own ▸ row)) ⟨_, rfl⟩
          (of_decide_eq_true fresh)
        exact Concludes.applied (x := { s with store := recountTicket s.store current.id }) prepares
          reconciled
      · cases reconciled
        exact .outdated final alone found

theorem finish_concludes (final : Memory.Final m) (done : finish c s job d m = .ok s') :
    HoldsJob s.store job (Memory.type m) d.clock ∧
      ∃ next s₁, Concludes c s job d m next s₁ ∧ HoldsJob s₁.store job (Memory.type m) d.clock' ∧
        (if next then Queues (complete s₁ job) job d.nextID d.now s' else s' = complete s₁ job) := by
  cases m with
  | planned plan batchID =>
    cases batchID with
    | some batchID => exact finishConfirm_concludes done
    | none =>
      refine finishReconcile_concludes final (fun _ _ same => ?_) (fun p same => ?_) done
      · cases same
      · cases same
        rfl
  | unplanned =>
    refine finishReconcile_concludes final (fun _ _ same => ?_) (fun p same => ?_) done
    · cases same
    · cases same
  | selected | staging | reading | planning | sawIncident | previewed | judging | asking | ended =>
    cases final

theorem Queues.same (queues : Queues s job jobID now s') :
    s'.gateDecisions = s.gateDecisions ∧ s'.memory = s.memory := by
  cases queues <;> exact ⟨rfl, rfl⟩

theorem Prepares.same {s x : ConfirmStore} (prepares : Prepares s job m plan x t) :
    x.gateDecisions = s.gateDecisions ∧ x.memory = s.memory := by
  cases prepares with
  | finalized _ _ _ finalizes => exact ⟨finalizes.gateDecisions, finalizes.memory⟩
  | counted => exact ⟨rfl, rfl⟩

theorem Concludes.same {next : Bool} (concludes : Concludes c s job d m next s') :
    s'.gateDecisions = s.gateDecisions ∧ s'.memory = s.memory := by
  cases concludes with
  | applied prepares => exact prepares.same
  | gone | stale | again | unknown | terminal | outdated => exact ⟨rfl, rfl⟩

theorem same_finish (final : Memory.Final m) (done : finish c s job d m = .ok s') :
    s'.gateDecisions = s.gateDecisions ∧ s'.memory = s.memory := by
  obtain ⟨-, next, s₁, concludes, -, last⟩ := finish_concludes final done
  obtain ⟨decisions, memory⟩ := concludes.same
  split at last
  · exact ⟨last.same.1.trans decisions, last.same.2.trans memory⟩
  · rw [last]
    exact ⟨decisions, memory⟩

end Opslane.Tickets.Confirmations
