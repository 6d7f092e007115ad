import Opslane.Tickets.Causes

/-!
# Runs of investigations

The machine of the ticket tables with the investigations of `Investigation.lean` in place of
what stands for them, and what one of its steps can do: an investigation begins, a result is
applied, or every incident keeps its result.
-/

namespace Opslane.Tickets

open Jobs (Job JobTable)
open Transition (Machine committed)

namespace Investigations

/-- The handle an execution has of a ticket's investigate job. -/
def handle? (s : InvestigationStore) (jobID : UUID) (workerID : String) (leaseGeneration : Nat) :
    Option TicketInvestigateJob := do
  let j ← (s.store.jobs.find? jobID).filter fun j => j.jobType = .investigate
  let ticketID ← j.ticketID
  let errorGroupID ← j.errorGroupID
  let publicationGeneration ← j.publicationGeneration
  return { id := j.id, projectID := j.projectID, ticketID, errorGroupID, publicationGeneration,
           workerID, leaseGeneration }

/-- Transactions that the steps of an investigation replace. -/
def Replaced : Tickets.Action → Prop
  | .investigate .. | .snapshotJob .. | .reinvestigate .. | .attemptFailed .. => True
  | _ => False

instance (a : Tickets.Action) : Decidable (Replaced a) := by
  rcases a with _ | _ <;> dsimp only [Replaced] <;> infer_instance

/-- One transaction on the ticket tables, the results of investigations or the queue. -/
inductive Action where
  | ticket (a : Tickets.Action)
  | beginInvestigation (jobID : UUID) (workerID : String) (leaseGeneration : Nat)
      (now clock : Timestamp)
  | finishJob (snapshot : InvestigationSnapshot) (result : InvestigationOutcome)
      (insightUsers : Nat) (decisionID successorID : UUID) (now : Timestamp) (clocks : FinishClocks)
  | refreshTicket (ticketID : UUID) (insightUsers : Nat) (jobID firstJobID : UUID) (now : Timestamp)
  | investigationFailed (jobID projectID : UUID) (reason : String)
  | requeueDeadLetters (trigger : Jobs.RequeueTrigger) (locked : List UUID) (now : Timestamp)

def step (s : InvestigationStore) : Action → InvestigationStore
  | .ticket a => if Replaced a then s else { s with store := Tickets.step s.store a }
  | .beginInvestigation jobID workerID leaseGeneration now clock =>
    match handle? s jobID workerID leaseGeneration with
    | none => s
    | some job => committed s (Tickets.beginInvestigation s job now clock)
  | .finishJob snapshot result insightUsers decisionID successorID now clocks =>
    if snapshot ∈ s.begun then
      committed s
        (Tickets.finishJob s snapshot result insightUsers decisionID successorID now clocks)
    else s
  | .refreshTicket ticketID insightUsers jobID firstJobID now =>
    { s with store := Tickets.refreshTicket s.store ticketID insightUsers jobID firstJobID now }
  | .investigationFailed jobID projectID reason =>
    Tickets.investigationFailed s jobID projectID reason
  | .requeueDeadLetters trigger locked now =>
    { s with store := { s.store with
        jobs := Jobs.requeueDeadLetters s.store.jobs trigger locked now } }

def machine : Machine InvestigationStore Action := ⟨step⟩

/-- The two rows are one incident, and its investigation and fix are where they were. -/
def SameWork (g g' : Incident) : Prop :=
  g.SameKey g' ∧ g'.investigationExecution = g.investigationExecution ∧
    g'.fixSubstate = g.fixSubstate

/-- The row carries the result of an investigation, or waits for the next one. -/
structure Concluded (b : InvestigationSnapshot) (done : Option FrictionVerdict) (g g' : Incident) :
    Prop where
  same : SameWork g g'
  evidence : g'.evidenceVersionUsed = some b.evidenceVersion
  explained : g'.explainedSignalIDs = some (done.elim [] FrictionVerdict.explains)
  cause : g'.rootCause = done.map FrictionVerdict.reason
  status : g'.investigationStatus = some .done → done.isSome

/-- An investigation of the incident begins. -/
structure Begins (s s' : InvestigationStore) (b : InvestigationSnapshot) (g : Incident) : Prop where
  member : g ∈ s.store.incidents.table.rows
  accepts : Accepts b.job g
  fresh : ¬Adopted s b.job.id
  job : ∃ j ∈ s.store.jobs.rows, j.id = b.job.id ∧ j.errorGroupID = some b.job.errorGroupID
  execution : b.execution = g.investigationExecution + 1
  ticket : ∃ t now, s.store.getTicket b.job.projectID b.job.ticketID = some t ∧ Live b.job t ∧
    b.evidenceVersion = t.evidenceVersion ∧
    b.signalIDs = (verifiedEvidence s.store.evidence t (some 7) now).signalIDs
  incidents : s'.store.incidents = s.store.incidents.updateWhere (fun h => h.id = g.id)
    Incident.beginInvestigation fun _ => ⟨rfl, rfl, rfl⟩
  queue : QueueKept s.store.jobs s'.store.jobs
  begun : s'.begun = b :: s.begun
  results : s'.results = s.results
  resultExecution : s'.resultExecution = s.resultExecution

/-- The result of a snapshot is applied, by an execution that holds its lease at the last
time its transaction looks. -/
structure Applies (s s' : InvestigationStore) (b : InvestigationSnapshot)
    (result : InvestigationOutcome) (g : Incident) (clock : Timestamp) : Prop where
  begun : b ∈ s.begun
  member : g ∈ s.store.incidents.table.rows
  incident : g.id = b.job.errorGroupID
  newest : Newest s b g
  lease : LeaseHeld s.store b.job clock
  live : ∃ t, s.store.getTicket b.job.projectID b.job.ticketID = some t ∧ Live b.job t
  open_ : g.status ≠ .archived
  concluded : ∃ F : Incident → Incident,
    s'.store.incidents.table.rows = s.store.incidents.table.rows.map F ∧
      ∀ h, (h.id ≠ g.id → F h = h) ∧
        (h.id = g.id → Concluded b (doneVerdict b result) h (F h))
  queue : QueueKept s.store.jobs s'.store.jobs
  results : s'.results.rows = (b.fact result).apply :: s.results.rows
  resultExecution : s'.resultExecution = Function.update s.resultExecution g.id b.execution
  begun' : s'.begun = s.begun

/-- Every incident keeps its result; at most an unapplied fact is added. -/
structure Rests (s s' : InvestigationStore) : Prop where
  store : LeavesCauses (HasAttempt s.store) s.store s'.store
  results : ∀ r ∈ s'.results.rows, r ∈ s.results.rows ∨ r.applied = false
  kept : ∀ r ∈ s.results.rows, r ∈ s'.results.rows
  resultExecution : s'.resultExecution = s.resultExecution
  begun : s'.begun = s.begun

/-- The time a transaction that may apply a result last looks at its lease. -/
def Action.commitClock : Action → Option Timestamp
  | .finishJob _ _ _ _ _ _ clocks => some clocks.lock
  | _ => none

/-- The incident an execution begins on. -/
def beginsOn (s : InvestigationStore) : Action → Option Incident
  | .beginInvestigation jobID workerID leaseGeneration _ clock =>
    ((handle? s jobID workerID leaseGeneration).filter fun job => LeaseHeld s.store job clock).bind
      fun job => (toInvestigate s job).map Prod.snd
  | _ => none

inductive Effect (a : Action) (s s' : InvestigationStore) : Prop where
  | begins (b : InvestigationSnapshot) (g : Incident) (chosen : beginsOn s a = some g)
      (begins : Begins s s' b g)
  | applies (b : InvestigationSnapshot) (result : InvestigationOutcome) (g : Incident)
      (clock : Timestamp) (last : a.commitClock = some clock) (applies : Applies s s' b result g clock)
  | rests (rests : Rests s s')

variable {s s' : InvestigationStore}

theorem Rests.of_store (store : LeavesCauses (HasAttempt s.store) s.store s'.store)
    (results : s'.results = s.results) (resultExecution : s'.resultExecution = s.resultExecution)
    (begun : s'.begun = s.begun) :
    Rests s s' where
  store := store
  results _ member := Or.inl (results ▸ member)
  kept _ member := results ▸ member
  resultExecution
  begun

theorem Rests.refl (s : InvestigationStore) : Rests s s := .of_store (.refl s.store) rfl rfl rfl

variable {job : TicketInvestigateJob}

variable {leaseGeneration : Nat}

theorem handle?_spec {jobID : UUID} {workerID : String}
    (found : handle? s jobID workerID leaseGeneration = some job) :
    ∃ j ∈ s.store.jobs.rows, j.id = job.id ∧ j.errorGroupID = some job.errorGroupID := by
  obtain ⟨j, row, found⟩ := Option.bind_eq_some_iff.mp found
  obtain ⟨ticketID, -, found⟩ := Option.bind_eq_some_iff.mp found
  obtain ⟨errorGroupID, group, found⟩ := Option.bind_eq_some_iff.mp found
  obtain ⟨generation, -, found⟩ := Option.bind_eq_some_iff.mp found
  cases found
  exact ⟨j, Table.mem_of_find? (Option.filter_eq_some_iff.mp row).1, rfl, group⟩

variable {t : FrictionTicket}

theorem toInvestigate_spec {g : Incident} (found : toInvestigate s job = some (t, g)) :
    ¬Adopted s job.id ∧ s.store.getTicket job.projectID job.ticketID = some t ∧ Live job t ∧
      g ∈ s.store.incidents.table.rows ∧ Accepts job g := by
  unfold toInvestigate at found
  split at found
  · cases found
  · rename_i fresh
    obtain ⟨t', ticket, found⟩ := Option.bind_eq_some_iff.mp found
    obtain ⟨g', incident, found⟩ := Option.bind_eq_some_iff.mp found
    cases found
    obtain ⟨row, live⟩ := Option.filter_eq_some_iff.mp ticket
    have accepts := List.find?_some incident
    exact ⟨fresh, row, of_decide_eq_true live, List.mem_of_find?_eq_some incident,
      of_decide_eq_true accepts⟩

theorem snapshot_sameWork (execution evidenceVersion : Nat) (j : Job) :
    j.SameWork (snapshot execution evidenceVersion j) := ⟨rfl, rfl, rfl, rfl, rfl, rfl, rfl⟩

variable {now clock : Timestamp}

theorem effect_beginInvestigation {jobID : UUID} {workerID : String}
    (handle : handle? s jobID workerID leaseGeneration = some job)
    (done : beginInvestigation s job now clock = .ok s') :
    Effect (.beginInvestigation jobID workerID leaseGeneration now clock) s s' := by
  obtain ⟨held, done⟩ := Except.of_guard done
  rw [not_not] at held
  split at done
  · cases done
    exact .rests (.refl s)
  · rename_i t g found
    obtain ⟨fresh, ticket, live, member, accepts⟩ := toInvestigate_spec found
    have chosen : beginsOn s (.beginInvestigation jobID workerID leaseGeneration now clock) =
        some g := by
      have holds : (some job).filter (fun job => LeaseHeld s.store job clock) = some job :=
        Option.filter_eq_some_iff.mpr ⟨rfl, decide_eq_true held⟩
      simp only [beginsOn, handle]
      rw [holds, Option.bind_some, found, Option.map_some]
    cases done
    refine .begins _ g chosen ⟨member, accepts, fresh, handle?_spec handle, rfl,
      ⟨t, now, ticket, live, rfl, rfl⟩, rfl, ?_, rfl, rfl, rfl⟩
    exact .updateWhere _ _ (snapshot _ _) (fun _ => rfl) (snapshot_sameWork _ _)

theorem completed_sameWork (j : Job) : j.SameWork (completed j) := ⟨rfl, rfl, rfl, rfl, rfl, rfl, rfl⟩

variable {b : InvestigationSnapshot} {clocks : FinishClocks}

theorem appliesTo_spec {g : Incident} (found : appliesTo s b t clocks = some g) :
    g ∈ s.store.incidents.table.rows ∧ g.id = b.job.errorGroupID ∧ Live b.job t ∧
      g.status ≠ .archived ∧ Newest s b g := by
  obtain ⟨row, applies⟩ := Option.filter_eq_some_iff.mp found
  obtain ⟨⟨g', t'⟩, incident, rfl⟩ := Option.map_eq_some_iff.mp row
  obtain ⟨-, -, live, open_, -, newest⟩ := of_decide_eq_true applies
  have found := (TicketStore.getIncident_eq_some_iff.mp incident).1
  exact ⟨Table.mem_of_find? found, Table.key_of_find? found, live, open_, newest⟩

theorem leaseHeld_enqueueTicketInvestigation (s : TicketStore) (t : FrictionTicket)
    (generation : Nat) (groupID : UUID) (finishingJobID : Option UUID) (jobID : UUID)
    (now : Timestamp)
    (held : LeaseHeld (enqueueTicketInvestigation s t generation groupID finishingJobID jobID now).1
      job clock) : LeaseHeld s job clock := by
  obtain ⟨j, member, own⟩ := List.any_eq_true.mp held
  refine List.any_eq_true.mpr ⟨j, ?_, own⟩
  unfold enqueueTicketInvestigation at member
  dsimp only at member
  split at member
  · exact member
  · rcases Jobs.mem_enqueueJobTx member with old | rfl
    · exact old
    · obtain ⟨-, -, -, -, claimed, -⟩ := of_decide_eq_true own
      simp [investigateJob, Job.new] at claimed

theorem queueSuccessor_rows (s : TicketStore) (t : FrictionTicket) (b : InvestigationSnapshot)
    (successorID : UUID) (now : Timestamp) :
    ∃ F : Incident → Incident,
      (queueSuccessor s t b successorID now).incidents.table.rows = s.incidents.table.rows.map F ∧
        ∀ h, F h = h ∨ (h.id = b.job.errorGroupID ∧ F h = h.awaitInvestigation) := by
  unfold queueSuccessor enqueueTicketInvestigation
  dsimp only
  split
  · rename_i s' refused
    split at refused
    · cases refused
      exact ⟨id, (List.map_id _).symm, fun h => Or.inl rfl⟩
    · cases refused
  · rename_i s' queued
    split at queued
    · cases queued
    · cases queued
      refine ⟨_, List.map_map, fun h => ?_⟩
      by_cases own : h.id = b.job.errorGroupID
      · refine Or.inr ⟨own, ?_⟩
        by_cases first : h.investigationStatus = none
        · simp [own, first, Incident.awaitInvestigation]
        · simp [own, first]
      · refine Or.inl ?_
        simp [own]

theorem queueKept_queueSuccessor (s : TicketStore) (t : FrictionTicket) (b : InvestigationSnapshot)
    (successorID : UUID) (now : Timestamp) :
    QueueKept s.jobs (queueSuccessor s t b successorID now).jobs := by
  have queue := queueKept_enqueueTicketInvestigation s t t.liveGeneration b.job.errorGroupID
    (some b.job.id) successorID now
  unfold queueSuccessor
  split <;> rename_i eq <;> rw [eq] at queue <;> exact queue

theorem leaseHeld_queueSuccessor {s : TicketStore} {successorID : UUID}
    (held : LeaseHeld (queueSuccessor s t b successorID now) job clock) : LeaseHeld s job clock := by
  refine leaseHeld_enqueueTicketInvestigation s t t.liveGeneration b.job.errorGroupID
    (some b.job.id) successorID now ?_
  unfold queueSuccessor at held
  split at held <;> rename_i eq <;> rw [eq] <;> exact held

/-- The incident and its ticket as a result leaves them. -/
def concluded (s : TicketStore) (t : FrictionTicket) (g : Incident) (b : InvestigationSnapshot)
    (done : Option FrictionVerdict) (needed : Bool) : TicketStore :=
  (s.updateIncident g.id (Incident.conclude b done) fun _ => ⟨rfl, rfl, rfl⟩).updateTicket t.id
    (FrictionTicket.setReinvestigate needed) fun _ => ⟨rfl, rfl, rfl⟩

theorem applyResult_cases (s : TicketStore) (t : FrictionTicket) (g : Incident)
    (b : InvestigationSnapshot) (result : InvestigationOutcome) (insightUsers : Nat)
    (decisionID successorID : UUID) (now : Timestamp) :
    ∃ needed decisions,
      applyResult s t g b result insightUsers decisionID successorID now =
        { concluded s t g b (doneVerdict b result) needed with decisions } ∨
      applyResult s t g b result insightUsers decisionID successorID now =
        { queueSuccessor (concluded s t g b (doneVerdict b result) needed) t b successorID now with
          decisions } := by
  unfold applyResult
  dsimp only
  split
  · exact ⟨_, _, Or.inr rfl⟩
  · exact ⟨_, _, Or.inl rfl⟩

section Apply

variable {s : TicketStore} {t : FrictionTicket} {g : Incident} {b : InvestigationSnapshot}
  {result : InvestigationOutcome} {insightUsers : Nat} {decisionID successorID : UUID}
  {now : Timestamp}

theorem applyResult_rows (own : g.id = b.job.errorGroupID) :
    ∃ F : Incident → Incident,
      (applyResult s t g b result insightUsers decisionID successorID now).incidents.table.rows =
        s.incidents.table.rows.map F ∧
      ∀ h, (h.id ≠ g.id → F h = h) ∧ (h.id = g.id → Concluded b (doneVerdict b result) h (F h)) := by
  have first : ∀ h : Incident, Concluded b (doneVerdict b result) h
      (h.conclude b (doneVerdict b result)) := by
    intro h
    refine ⟨⟨⟨rfl, rfl, rfl⟩, rfl, rfl⟩, rfl, rfl, rfl, fun done => ?_⟩
    cases found : doneVerdict b result with
    | none => simp [Incident.conclude, found] at done
    | some v => rfl
  obtain ⟨needed, decisions, same | same⟩ :=
    applyResult_cases s t g b result insightUsers decisionID successorID now
  · rw [same]
    refine ⟨_, rfl, fun h => ⟨fun other => ?_, fun mine => ?_⟩⟩
    · simp only [other, decide_false]
      rfl
    · simp only [mine, decide_true, if_true]
      exact first h
  · obtain ⟨F, rows, waits⟩ := queueSuccessor_rows
      (concluded s t g b (doneVerdict b result) needed) t b successorID now
    rw [same]
    refine ⟨_, rows.trans List.map_map, fun h => ⟨fun other => ?_, fun mine => ?_⟩⟩
    · simp only [Function.comp_apply, other, decide_false]
      rcases waits h with kept | ⟨mine, -⟩
      · exact kept
      · exact absurd (mine.trans own.symm) other
    · simp only [Function.comp_apply, mine, decide_true, if_true]
      rcases waits (h.conclude b (doneVerdict b result)) with kept | ⟨-, awaits⟩
      · rw [kept]
        exact first h
      · rw [awaits]
        refine ⟨⟨⟨rfl, rfl, rfl⟩, rfl, rfl⟩, rfl, rfl, rfl, fun done => ?_⟩
        simp [Incident.awaitInvestigation] at done

theorem queueKept_applyResult :
    QueueKept s.jobs
      (applyResult s t g b result insightUsers decisionID successorID now).jobs := by
  obtain ⟨needed, decisions, same | same⟩ :=
    applyResult_cases s t g b result insightUsers decisionID successorID now
  · rw [same]
    exact .refl s.jobs
  · rw [same]
    exact queueKept_queueSuccessor (concluded s t g b (doneVerdict b result) needed) t b
      successorID now

theorem leaseHeld_applyResult
    (held : LeaseHeld (applyResult s t g b result insightUsers decisionID successorID now) job
      clock) : LeaseHeld s job clock := by
  obtain ⟨needed, decisions, same | same⟩ :=
    applyResult_cases s t g b result insightUsers decisionID successorID now
  · rw [same] at held
    exact held
  · rw [same] at held
    have before : LeaseHeld (concluded s t g b (doneVerdict b result) needed) job clock :=
      leaseHeld_queueSuccessor held
    exact before

end Apply

variable {r : InvestigationResult}

theorem rows_applied {results results' : Table InvestigationResult.key}
    (inserted : results.insert? r = some results') :
    (results'.updateKey r.key InvestigationResult.apply fun _ => rfl).rows =
      r.apply :: results.rows := by
  obtain ⟨fresh, rows⟩ := Table.insert?_spec inserted
  rw [Table.find?_eq_none_iff] at fresh
  simp only [Table.updateKey, Table.updateWhere, rows, List.map_cons, decide_true, if_true]
  rw [Table.map_updateKey_of_ne InvestigationResult.apply fresh]

variable {result : InvestigationOutcome} {decisionID successorID : UUID}

theorem effect_finishInvestigation {a : Action} {insightUsers : Nat} (begun : b ∈ s.begun)
    (last : a.commitClock = some clocks.lock)
    (done : finishInvestigation s b result insightUsers decisionID successorID now clocks =
      .ok s') : Effect a s s' := by
  unfold finishInvestigation at done
  split at done
  · cases done
    exact .rests (.refl s)
  · rename_i t ticket
    split at done
    · cases done
      exact .rests (.refl s)
    · rename_i results inserted
      split at done
      · cases done
        refine .rests ⟨.refl _, fun r member => ?_, fun r member => ?_, rfl, rfl⟩
        · rcases (Table.mem_insert? inserted).mp member with rfl | old
          · exact Or.inr rfl
          · exact Or.inl old
        · exact (Table.mem_insert? inserted).mpr (Or.inr member)
      · rename_i g found
        obtain ⟨member, own, live, open_, newest⟩ := appliesTo_spec found
        dsimp only at done
        split at done
        · rename_i held
          cases done
          exact .applies b result g clocks.lock last ⟨begun, member, own, newest,
            leaseHeld_applyResult held, ⟨t, ticket, live⟩, open_, applyResult_rows own,
            queueKept_applyResult, rows_applied inserted, rfl, rfl⟩
        · cases done

theorem Effect.jobs {a : Action} {s s' : InvestigationStore}
    (effect : Effect a s s') {jobs : JobTable} (queue : QueueKept s'.store.jobs jobs) :
    Effect a s { s' with store := { s'.store with jobs } } := by
  cases effect with
  | begins b g chosen begins =>
    exact .begins b g chosen { begins with queue := begins.queue.trans queue }
  | applies b result g clock last applies =>
    exact .applies b result g clock last { applies with queue := applies.queue.trans queue }
  | rests rests =>
    exact .rests { rests with store := rests.store.trans (.of_jobs rfl queue) }

theorem effect_finishJob {insightUsers : Nat} (begun : b ∈ s.begun)
    (done : Tickets.finishJob s b result insightUsers decisionID successorID now clocks = .ok s') :
    Effect (.finishJob b result insightUsers decisionID successorID now clocks) s s' := by
  obtain ⟨s₁, finished, done⟩ := Except.of_bind done
  cases done
  refine (effect_finishInvestigation begun rfl finished).jobs ?_
  exact .updateWhere _ _ completed (fun _ => rfl) completed_sameWork

section Refresh

variable {flies : UUID → Prop}

theorem leavesCauses_enqueueAgain (s : TicketStore) (t : FrictionTicket) (groupID jobID : UUID)
    (now : Timestamp) :
    LeavesCauses flies s
      (match enqueueTicketInvestigation s t t.liveGeneration groupID none jobID now with
      | (s, false) => s
      | (s, true) =>
        s.updateTicket t.id (FrictionTicket.setReinvestigate false) fun _ => ⟨rfl, rfl, rfl⟩) := by
  have queued : LeavesCauses flies s
      (enqueueTicketInvestigation s t t.liveGeneration groupID none jobID now).1 :=
    leavesCauses_enqueueTicketInvestigation ..
  split <;> rename_i eq <;> rw [eq] at queued
  · exact queued
  · exact queued.trans (.of_eq rfl rfl)

theorem leavesCauses_refresh (s : TicketStore) (t : FrictionTicket) (g : Incident)
    (insightUsers : Nat) (jobID firstJobID : UUID) (now : Timestamp) :
    LeavesCauses flies s (refresh s t g insightUsers jobID firstJobID now) := by
  have counted : LeavesCauses flies s (s.updateIncident g.id
      (Incident.count (verifiedEvidence s.evidence t none now)) fun _ => ⟨rfl, rfl, rfl⟩) :=
    .of_update (fun h => h.id = g.id) (Incident.count (verifiedEvidence s.evidence t none now))
      (fun _ => ⟨rfl, rfl, rfl⟩) rfl (.refl _) fun h _ _ =>
        ⟨⟨rfl, rfl, rfl⟩, rfl, rfl, rfl, Or.inl ⟨rfl, rfl⟩, Or.inl⟩
  have reconciled : ∀ s', LeavesCauses flies s s' →
      LeavesCauses flies s (s'.updateTicket t.id FrictionTicket.reconciled fun _ => ⟨rfl, rfl, rfl⟩) :=
    fun s' spared => spared.trans (.of_eq rfl rfl)
  unfold refresh
  dsimp only
  refine reconciled _ ?_
  split
  · refine LeavesCauses.trans ?_ (leavesCauses_enqueueTicketInvestigation ..)
    split
    · exact counted.trans (leavesCauses_enqueueAgain ..)
    · exact counted
  · split
    · exact counted.trans (leavesCauses_enqueueAgain ..)
    · exact counted

theorem leavesCauses_refreshTicket (s : TicketStore) (ticketID : UUID)
    (insightUsers : Nat) (jobID firstJobID : UUID) (now : Timestamp) :
    LeavesCauses flies s (Tickets.refreshTicket s ticketID insightUsers jobID firstJobID now) := by
  unfold Tickets.refreshTicket
  split
  · exact .refl s
  · split
    · exact .refl s
    · split
      · exact leavesCauses_refresh ..
      · exact .refl s

end Refresh

theorem failedFact_applied {j : Job} {ticketID : UUID} {reason : String}
    (left : failedFact j ticketID t reason = some r) : r.applied = false := by
  obtain ⟨_, -, left⟩ := Option.bind_eq_some_iff.mp left
  obtain ⟨_, -, left⟩ := Option.bind_eq_some_iff.mp left
  obtain ⟨_, -, left⟩ := Option.bind_eq_some_iff.mp left
  cases left
  rfl

theorem rests_investigationFailed (s : InvestigationStore) (jobID projectID : UUID)
    (reason : String) : Rests s (Tickets.investigationFailed s jobID projectID reason) := by
  have store : LeavesCauses (HasAttempt s.store) s.store (attemptFailed s.store jobID projectID).1 :=
    leavesCauses_attemptFailed ..
  cases fact : (do
      let j ← investigation? s.store jobID projectID
      let ticketID ← j.ticketID
      let t ← s.store.getTicket projectID ticketID
      failedFact j ticketID t reason) with
  | none =>
    refine .of_store store ?_ rfl rfl
    simp only [Tickets.investigationFailed, fact, Option.elim_none]
  | some left =>
    have unapplied : left.applied = false := by
      obtain ⟨j, -, rest⟩ := Option.bind_eq_some_iff.mp fact
      obtain ⟨ticketID, -, rest⟩ := Option.bind_eq_some_iff.mp rest
      obtain ⟨t, -, rest⟩ := Option.bind_eq_some_iff.mp rest
      exact failedFact_applied rest
    have results : (Tickets.investigationFailed s jobID projectID reason).results =
        s.results.insertIgnore left := by
      simp only [Tickets.investigationFailed, fact, Option.elim_some]
    refine ⟨store, fun r member => ?_, fun r member => ?_, rfl, rfl⟩
    · rw [results] at member
      rcases Table.mem_insertIgnore member with old | rfl
      · exact Or.inl old
      · exact Or.inr unapplied
    · rw [results]
      exact Table.mem_insertIgnore_of_mem left member

theorem effect_step (s : InvestigationStore) (a : Action) :
    Effect a s (step s a) := by
  cases a with
  | ticket a =>
    dsimp only [step]
    split
    · exact .rests (.refl s)
    · rename_i kept
      refine .rests (.of_store (leavesCauses_step s.store fun investigates => kept ?_) rfl rfl rfl)
      cases a <;> first | exact investigates | trivial
  | beginInvestigation jobID workerID leaseGeneration now clock =>
    dsimp only [step]
    split
    · exact .rests (.refl s)
    · rename_i job found
      cases done : Tickets.beginInvestigation s job now clock with
      | error => exact .rests (.refl s)
      | ok s' => exact effect_beginInvestigation found done
  | finishJob b result insightUsers decisionID successorID now clocks =>
    dsimp only [step]
    split
    · rename_i begun
      cases done : Tickets.finishJob s b result insightUsers decisionID successorID now clocks with
      | error => exact .rests (.refl s)
      | ok s' => exact effect_finishJob begun done
    · exact .rests (.refl s)
  | refreshTicket => exact .rests (.of_store (leavesCauses_refreshTicket ..) rfl rfl rfl)
  | investigationFailed => exact .rests (rests_investigationFailed ..)
  | requeueDeadLetters trigger locked now =>
    refine .rests (.of_store (.of_jobs rfl ?_) rfl rfl rfl)
    exact .step s.store.jobs (a := .requeueDeadLetters trigger locked now) id

end Investigations

end Opslane.Tickets
