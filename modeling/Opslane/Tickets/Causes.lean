import Opslane.Jobs.Origin
import Opslane.Tickets.Attempts
import Opslane.Tickets.Investigation
import Opslane.Tickets.Refinement

/-!
# Causes outside the investigation

What the other transactions on a ticket leave of the causes of its incidents, and of the
queue. None writes the result of an investigation: an incident's status becomes pending where
it had none, a new incident has no result, and a fix is admitted on a finished one.
-/

namespace Opslane.Tickets

open Jobs (Job JobTable)

/-- The investigate jobs of one publication. -/
def investigations (jobs : JobTable) (groupID : UUID) (generation : Nat) : List Job :=
  jobs.select fun j => j.errorGroupID = some groupID ∧ j.jobType = .investigate ∧
    j.publicationGeneration = some generation

/-- No job is lost, and a publication gets no more than its share of investigations. -/
structure QueueKept (before after : JobTable) : Prop where
  forth : ∀ j ∈ before.rows, ∃ j' ∈ after.rows, j.SameWork j'
  capped : ∀ groupID generation, (investigations after groupID generation).length ≤
    max (investigations before groupID generation).length maxInvestigationsPerGeneration

namespace QueueKept

theorem refl (jobs : JobTable) : QueueKept jobs jobs :=
  ⟨fun j member => ⟨j, member, .refl j⟩, fun _ _ => Nat.le_max_left _ _⟩

theorem trans {a b c : JobTable} (first : QueueKept a b) (second : QueueKept b c) :
    QueueKept a c := by
  refine ⟨fun j member => ?_, fun groupID generation => ?_⟩
  · obtain ⟨j', member', same⟩ := first.forth j member
    obtain ⟨j'', member'', same'⟩ := second.forth j' member'
    exact ⟨j'', member'', same'.id.trans same.id, same'.projectID.trans same.projectID,
      same'.jobType.trans same.jobType, same'.errorGroupID.trans same.errorGroupID,
      same'.ticketID.trans same.ticketID,
      same'.publicationGeneration.trans same.publicationGeneration,
      same'.fixAttemptID.trans same.fixAttemptID⟩
  · have one := first.capped groupID generation
    have two := second.capped groupID generation
    omega

variable {before after : JobTable}

theorem map (f : Job → Job) (rows : after.rows = before.rows.map f)
    (same : ∀ j : Job, j.SameWork (f j)) : QueueKept before after := by
  refine ⟨fun j member => ⟨f j, rows ▸ List.mem_map_of_mem member, same j⟩, ?_⟩
  intro groupID generation
  refine le_of_eq_of_le ?_ (Nat.le_max_left _ _)
  simp only [investigations, Table.select, rows, List.filter_map, List.length_map]
  congr 2
  funext j
  simp only [Function.comp_apply, (same j).errorGroupID, (same j).jobType,
    (same j).publicationGeneration]

theorem updateWhere (jobs : JobTable) (p : Job → Bool) (f : Job → Job)
    (frame : ∀ j, (f j).id = j.id) (same : ∀ j : Job, j.SameWork (f j)) :
    QueueKept jobs (jobs.updateWhere p f frame) := by
  refine map (fun j => if p j then f j else j) rfl fun j => ?_
  split
  · exact same j
  · exact .refl j

theorem step (jobs : JobTable) {a : Jobs.Action} (moves : ¬Jobs.Inserts a) :
    QueueKept jobs (Jobs.step jobs a) := by
  obtain ⟨f, keeps, rows⟩ := Jobs.sameOrigins_step jobs moves
  refine map f rows fun j => ?_
  have columns := keeps.origin j
  simp only [Job.origin, Prod.mk.injEq, Jobs.JobColumns.mk.injEq] at columns
  obtain ⟨project, jobType, group, -, -, -, ticket, -, generation, attempt, -⟩ := columns
  exact ⟨keeps.id j, project, jobType, group, ticket, generation, attempt⟩

variable {j : Job}

theorem cons (rows : after.rows = j :: before.rows) (other : j.jobType ≠ .investigate) :
    QueueKept before after := by
  refine ⟨fun k member => ⟨k, rows ▸ List.mem_cons_of_mem j member, .refl k⟩, ?_⟩
  intro groupID generation
  refine le_of_eq_of_le ?_ (Nat.le_max_left _ _)
  simp [investigations, Table.select, rows, other]

theorem insert? (inserted : before.insert? j = some after) (other : j.jobType ≠ .investigate) :
    QueueKept before after :=
  cons (Table.insert?_spec inserted).2 other

theorem insertJob? (inserted : Jobs.insertJob? before j = some after)
    (other : j.jobType ≠ .investigate) :
    QueueKept before after := by
  unfold Jobs.insertJob? at inserted
  split at inserted
  · cases inserted
  · exact insert? inserted other

theorem insertIgnore (jobs : JobTable) (other : j.jobType ≠ .investigate) :
    QueueKept jobs (jobs.insertIgnore j) := by
  unfold Table.insertIgnore
  cases inserted : jobs.insert? j with
  | none => exact refl jobs
  | some after => exact insert? inserted other

theorem enqueueJobTx (jobs : JobTable) (other : j.jobType ≠ .investigate) :
    QueueKept jobs (Jobs.enqueueJobTx jobs j) := by
  unfold Jobs.enqueueJobTx
  split
  · exact refl jobs
  · exact insertIgnore jobs other

end QueueKept

theorem queueKept_enqueueTicketInvestigation (s : TicketStore) (t : FrictionTicket)
    (generation : Nat) (groupID : UUID) (finishingJobID : Option UUID) (jobID : UUID)
    (now : Timestamp) :
    QueueKept s.jobs
      (enqueueTicketInvestigation s t generation groupID finishingJobID jobID now).1.jobs := by
  unfold enqueueTicketInvestigation
  dsimp only
  split
  · exact .refl s.jobs
  · rename_i below
    rw [not_or, Nat.not_le] at below
    have room := below.2
    unfold Jobs.enqueueJobTx
    split
    · exact .refl s.jobs
    · unfold Table.insertIgnore
      cases inserted : s.jobs.insert? (investigateJob t generation groupID jobID now) with
      | none => exact .refl s.jobs
      | some jobs =>
        obtain ⟨-, rows⟩ := Table.insert?_spec inserted
        refine ⟨fun j member => ⟨j, rows ▸ List.mem_cons_of_mem _ member, .refl j⟩, ?_⟩
        intro groupID' generation'
        simp only [Option.getD_some, investigations, Table.select, rows, List.filter_cons]
        simp only [Table.select] at room
        split
        · rename_i own
          simp only [investigateJob, Job.new, decide_eq_true_eq, Option.some.injEq] at own
          obtain ⟨rfl, -, rfl⟩ := own
          rw [List.length_cons]
          exact Nat.le_trans room (Nat.le_max_right _ _)
        · exact Nat.le_max_left _ _

/-- A fix of the incident is being made, or its pull request is open. -/
def InFlight (g : Incident) : Prop := g.fixSubstate = .fixing ∨ g.fixSubstate = .prOpen
  deriving Decidable

/-- The two rows carry one investigation; an unfinished one may come to wait or to fail. A fix
starts on a finished investigation, or by the rule `flies`. -/
structure Incident.Spared (flies : UUID → Prop) (g g' : Incident) : Prop where
  key : g.SameKey g'
  execution : g'.investigationExecution = g.investigationExecution
  explained : g'.explainedSignalIDs = g.explainedSignalIDs
  cause : g'.rootCause = g.rootCause
  status : (g'.investigationStatus = g.investigationStatus ∧
      g'.evidenceVersionUsed = g.evidenceVersionUsed) ∨
    (g.investigationStatus ≠ some .done ∧ g'.investigationStatus ≠ some .done)
  flight : InFlight g' → InFlight g ∨ g.investigationStatus = some .done ∨ flies g.id

variable {flies : UUID → Prop}

theorem Incident.Spared.refl (g : Incident) : g.Spared flies g :=
  ⟨⟨rfl, rfl, rfl⟩, rfl, rfl, rfl, Or.inl ⟨rfl, rfl⟩, Or.inl⟩

theorem Incident.Spared.done {g g' : Incident} (spared : g.Spared flies g')
    (done : g.investigationStatus = some .done) : g'.investigationStatus = some .done := by
  rcases spared.status with ⟨same, -⟩ | ⟨undone, -⟩
  · exact same.trans done
  · exact absurd done undone

theorem Incident.Spared.undone {g g' : Incident} (spared : g.Spared flies g')
    (undone : g.investigationStatus ≠ some .done) : g'.investigationStatus ≠ some .done := by
  rcases spared.status with ⟨same, -⟩ | ⟨-, undone'⟩
  · exact same ▸ undone
  · exact undone'

theorem Incident.Spared.trans {g g' g'' : Incident} (first : g.Spared flies g')
    (second : g'.Spared flies g'') : g.Spared flies g'' where
  key := ⟨second.key.1.trans first.key.1, second.key.2.1.trans first.key.2.1,
    second.key.2.2.trans first.key.2.2⟩
  execution := second.execution.trans first.execution
  explained := second.explained.trans first.explained
  cause := second.cause.trans first.cause
  status := by
    rcases first.status with ⟨same, evidence⟩ | ⟨undone, undone'⟩
    · rw [← same, ← evidence]
      exact second.status
    · exact Or.inr ⟨undone, second.undone undone'⟩
  flight := by
    intro flying
    rcases second.flight flying with before | done | own
    · exact first.flight before
    · by_cases finished : g.investigationStatus = some .done
      · exact Or.inr (Or.inl finished)
      · exact absurd done (first.undone finished)
    · exact Or.inr (Or.inr (first.key.1 ▸ own))

/-- What a transaction outside the investigation does to incidents and to the queue. -/
structure LeavesCauses (flies : UUID → Prop) (s s' : TicketStore) : Prop where
  kept : ∀ g ∈ s.incidents.table.rows, ∃ g' ∈ s'.incidents.table.rows, g.Spared flies g'
  origin : ∀ g' ∈ s'.incidents.table.rows,
    (∃ g ∈ s.incidents.table.rows, g.Spared flies g') ∨
      (g'.investigationStatus ≠ some .done ∧ (InFlight g' → flies g'.id))
  queue : QueueKept s.jobs s'.jobs

namespace LeavesCauses

variable {s s' : TicketStore}

theorem of_eq (incidents : s'.incidents = s.incidents) (jobs : s'.jobs = s.jobs) :
    LeavesCauses flies s s' where
  kept g member := ⟨g, incidents ▸ member, .refl g⟩
  origin g member := Or.inl ⟨g, incidents ▸ member, .refl g⟩
  queue := jobs ▸ .refl s.jobs

theorem refl (s : TicketStore) : LeavesCauses flies s s := of_eq rfl rfl

theorem of_jobs (incidents : s'.incidents = s.incidents) (queue : QueueKept s.jobs s'.jobs) :
    LeavesCauses flies s s' where
  kept g member := ⟨g, incidents ▸ member, .refl g⟩
  origin g member := Or.inl ⟨g, incidents ▸ member, .refl g⟩
  queue

theorem trans {s s' s'' : TicketStore} (first : LeavesCauses flies s s') (second : LeavesCauses flies s' s'') :
    LeavesCauses flies s s'' where
  kept g member := by
    obtain ⟨g', member', spared⟩ := first.kept g member
    obtain ⟨g'', member'', spared'⟩ := second.kept g' member'
    exact ⟨g'', member'', spared.trans spared'⟩
  origin g'' member'' := by
    rcases second.origin g'' member'' with ⟨g', member', spared'⟩ | new
    · rcases first.origin g' member' with ⟨g, member, spared⟩ | ⟨undone, grounded⟩
      · exact Or.inl ⟨g, member, spared.trans spared'⟩
      · refine Or.inr ⟨?_, fun flying => ?_⟩
        · exact spared'.undone undone
        · rcases spared'.flight flying with before | done | own
          · exact spared'.key.1 ▸ grounded before
          · exact absurd done undone
          · exact spared'.key.1 ▸ own
    · exact Or.inr new
  queue := first.queue.trans second.queue

theorem of_update (p : Incident → Bool) (f : Incident → Incident)
    (frame : ∀ g : Incident, g.SameKey (f g))
    (incidents : s'.incidents = s.incidents.updateWhere p f frame)
    (queue : QueueKept s.jobs s'.jobs)
    (spared : ∀ g ∈ s.incidents.table.rows, p g → g.Spared flies (f g)) :
    LeavesCauses flies s s' := by
  have each : ∀ g ∈ s.incidents.table.rows, g.Spared flies (if p g then f g else g) := by
    intro g member
    split
    · rename_i selected
      exact spared g member selected
    · exact .refl g
  refine ⟨fun g member => ?_, fun g' member => ?_, queue⟩
  · rw [incidents]
    exact ⟨_, (Table.mem_updateWhere s.incidents.table p f (fun g => (frame g).1) _).mpr
      ⟨g, member, rfl⟩, each g member⟩
  · rw [incidents] at member
    obtain ⟨g, old, rfl⟩ :=
      (Table.mem_updateWhere s.incidents.table p f (fun g => (frame g).1) _).mp member
    exact Or.inl ⟨g, old, each g old⟩

end LeavesCauses

theorem cancel_sameWork (reason : String) (j : Job) : j.SameWork (cancel reason j) :=
  ⟨rfl, rfl, rfl, rfl, rfl, rfl, rfl⟩

theorem Incident.spared_archive (now : Timestamp) (g : Incident) :
    g.Spared flies (g.archive now) :=
  ⟨⟨rfl, rfl, rfl⟩, rfl, rfl, rfl, Or.inl ⟨rfl, rfl⟩, Or.inl⟩

theorem leavesCauses_retireIncidents (s : TicketStore) (ids : List UUID) (now : Timestamp) :
    LeavesCauses flies s (retireIncidents s ids now) :=
  .of_update _ (Incident.archive now) (fun _ => ⟨rfl, rfl, rfl⟩) rfl
    (.updateWhere _ _ (cancel "unpublished") (fun _ => rfl) (cancel_sameWork "unpublished")) fun g _ _ => g.spared_archive now

theorem leavesCauses_enqueueTicketInvestigation (s : TicketStore) (t : FrictionTicket)
    (generation : Nat) (groupID : UUID) (finishingJobID : Option UUID) (jobID : UUID)
    (now : Timestamp) :
    LeavesCauses flies s (enqueueTicketInvestigation s t generation groupID finishingJobID jobID now).1 := by
  have queue := queueKept_enqueueTicketInvestigation s t generation groupID finishingJobID jobID now
  unfold enqueueTicketInvestigation at queue ⊢
  dsimp only at queue ⊢
  split
  · exact .refl s
  · rename_i below
    rw [if_neg below] at queue
    refine .of_update _ Incident.awaitInvestigation (fun _ => ⟨rfl, rfl, rfl⟩) rfl queue ?_
    intro g _ own
    refine ⟨⟨rfl, rfl, rfl⟩, rfl, rfl, rfl, Or.inr ⟨?_, by simp [Incident.awaitInvestigation]⟩, Or.inl⟩
    rw [(of_decide_eq_true own).2]
    simp

variable {now : Timestamp}

variable {ticket : FrictionTicket}

theorem leavesCauses_activateGeneration {s s' : TicketStore} {insightInvestigateUsers : Nat}
    {groupID jobID : UUID}
    (done : activateGeneration s ticket insightInvestigateUsers groupID jobID now = .ok s') :
    LeavesCauses flies s s' := by
  obtain ⟨t, -, done⟩ := Except.of_bind done
  obtain ⟨-, done⟩ := Except.of_guard done
  obtain ⟨-, done⟩ := Except.of_guard done
  obtain ⟨incidents, inserted, done⟩ := Except.of_bind done
  rw [Option.orError_eq_ok_iff] at inserted
  obtain ⟨rows, -⟩ := IncidentTable.insert?_spec inserted
  have published : LeavesCauses flies s ({ retireLiveGeneration s t now with incidents }.updateTicket t.id
      (FrictionTicket.publish (t.liveGeneration + 1)) fun _ => ⟨rfl, rfl, rfl⟩) := by
    refine (leavesCauses_retireIncidents s (liveIncidents s t.id) now).trans ⟨?_, ?_, .refl _⟩
    · intro g member
      exact ⟨g, rows ▸ List.mem_cons_of_mem _ member, .refl g⟩
    · intro g member
      rcases List.mem_cons.mp (rows ▸ member : g ∈ _ :: _) with rfl | old
      · refine Or.inr ⟨?_, fun flying => ?_⟩
        · simp only [Incident.publish]
          split <;> simp
        · simp [InFlight, Incident.publish] at flying
      · exact Or.inl ⟨g, old, .refl g⟩
  rw [Except.ok.injEq] at done
  rw [← done]
  split
  · exact published.trans (leavesCauses_enqueueTicketInvestigation ..)
  · exact published

theorem leavesCauses_unpublish {s s' : TicketStore} (done : unpublish s ticket now = .ok s') :
    LeavesCauses flies s s' := by
  obtain ⟨t, -, done⟩ := Except.of_bind done
  split at done
  · cases done
    exact .refl s
  · split at done
    · cases done
      exact .refl s
    · cases done
      exact (leavesCauses_retireIncidents s (liveIncidents s t.id) now).trans (.of_eq rfl rfl)

theorem leavesCauses_archiveTicketGroup {s s' : TicketStore} {projectID groupID : UUID}
    (done : archiveTicketGroup s projectID groupID now = .ok s') : LeavesCauses flies s s' := by
  unfold archiveTicketGroup at done
  split at done
  · cases done
    exact .refl s
  · split at done
    · cases done
      exact .refl s
    · split at done
      · cases done
      · cases done
        exact .of_update _ (Incident.archive now) (fun _ => ⟨rfl, rfl, rfl⟩) rfl
          (.updateWhere _ _ (cancel "Problem archived") (fun _ => rfl)
            (cancel_sameWork "Problem archived")) fun g _ _ =>
            g.spared_archive now

theorem leavesCauses_frictionReconcileAfterDelete (s : TicketStore) (ticketID : UUID) (now : Timestamp) :
    LeavesCauses flies s (frictionReconcileAfterDelete s ticketID now) := by
  unfold frictionReconcileAfterDelete
  split
  · exact .refl s
  · dsimp only
    split
    · exact .of_eq rfl rfl
    · split
      · exact .of_eq rfl rfl
      · split
        · exact .of_eq rfl rfl
        · split
          · exact (LeavesCauses.of_eq rfl rfl).trans ((leavesCauses_retireIncidents _ _ now).trans
              (.of_eq rfl rfl))
          · exact .of_eq rfl rfl

theorem leavesCauses_reconcileAll (ticketIDs : List UUID) (now : Timestamp) (s : TicketStore) :
    LeavesCauses flies s (reconcileAll s ticketIDs now) := by
  induction ticketIDs generalizing s with
  | nil => exact .refl s
  | cons ticketID rest ih =>
    exact (leavesCauses_frictionReconcileAfterDelete s ticketID now).trans (ih _)

theorem leavesCauses_deleteMarkedSession (s : TicketStore) (sessionID : String) (now : Timestamp) :
    LeavesCauses flies s (deleteMarkedSession s sessionID now) := by
  unfold deleteMarkedSession
  split
  · exact .refl s
  · refine LeavesCauses.trans ?_ (leavesCauses_reconcileAll (ticketsOf s.evidence sessionID) now _)
    exact .of_eq rfl rfl

theorem leavesCauses_frictionSetSessionIdentity (s : TicketStore) (sessionID : String)
    (user : Option UUID) (now : Timestamp) :
    LeavesCauses flies s (frictionSetSessionIdentity s sessionID user now) := by
  unfold frictionSetSessionIdentity
  split
  · exact .refl s
  · split
    · exact .refl s
    · refine LeavesCauses.trans ?_ (leavesCauses_reconcileAll (ticketsOf s.evidence sessionID) now _)
      exact .of_eq rfl rfl

theorem recordMatch_frame {s s' : TicketStore} {input : MatchInput} {new : Bool}
    (done : recordMatch s input = .ok (s', new)) :
    s'.incidents = s.incidents ∧ s'.jobs = s.jobs := by
  unfold recordMatch at done
  split at done
  · cases done
  · split at done
    · cases done
    · split at done
      · cases done
        exact ⟨rfl, rfl⟩
      · cases done

theorem foldMatches_frame {target : FrictionTicket} {source : Evidence} {matched : List TicketMatch}
    {s s' : TicketStore} (done : foldMatches target source s matched = .ok s') :
    s'.incidents = s.incidents ∧ s'.jobs = s.jobs := by
  induction matched generalizing s with
  | nil =>
    cases done
    exact ⟨rfl, rfl⟩
  | cons m rest ih =>
    obtain ⟨⟨s₁, new⟩, first, done⟩ := Except.of_bind done
    obtain ⟨incidents, jobs⟩ := recordMatch_frame first
    obtain ⟨incidents', jobs'⟩ := ih done
    exact ⟨incidents'.trans incidents, jobs'.trans jobs⟩

theorem leavesCauses_foldInto {s s' : TicketStore} {source target : FrictionTicket} {jobID : UUID}
    (done : foldInto s source target jobID now = .ok s') : LeavesCauses flies s s' := by
  obtain ⟨-, done⟩ := Except.of_guard done
  obtain ⟨f, -, done⟩ := Except.of_bind done
  obtain ⟨t, -, done⟩ := Except.of_bind done
  obtain ⟨-, done⟩ := Except.of_guard done
  obtain ⟨-, done⟩ := Except.of_guard done
  obtain ⟨s₁, folded, done⟩ := Except.of_bind done
  obtain ⟨updated, -, done⟩ := Except.of_bind done
  obtain ⟨incidents, jobs⟩ := foldMatches_frame folded
  have cancelled : QueueKept s.jobs (s₁.jobs.updateWhere (fun j => j.ticketID = some f.id ∧
      j.jobType = .frictionConfirm ∧ j.status = .pending) cancelMerged fun _ => rfl) := by
    rw [← jobs]
    exact .updateWhere _ _ cancelMerged (fun _ => rfl) fun _ => ⟨rfl, rfl, rfl, rfl, rfl, rfl, rfl⟩
  rw [Except.ok.injEq] at done
  rw [← done]
  split
  · exact .of_jobs incidents (cancelled.trans (.enqueueJobTx _ (by simp [confirmJob, Job.new])))
  · exact .of_jobs incidents cancelled

theorem createTicket_frame {s s' : TicketStore} {t : FrictionTicket}
    (done : createTicket s t = .ok s') : s'.incidents = s.incidents ∧ s'.jobs = s.jobs := by
  unfold createTicket at done
  split at done
  · cases done
  · cases done
    exact ⟨rfl, rfl⟩

theorem reserveDecision_frame (s : TicketStore) (signalID : String) (environmentID : UUID)
    (leaseMs : Int) (now : Timestamp) :
    (reserveDecision s signalID environmentID leaseMs now).1.incidents = s.incidents ∧
      (reserveDecision s signalID environmentID leaseMs now).1.jobs = s.jobs := by
  unfold reserveDecision
  split
  · exact ⟨rfl, rfl⟩
  · split
    · exact ⟨rfl, rfl⟩
    · split <;> exact ⟨rfl, rfl⟩

variable {projectID environmentID : UUID} {decision : MatchDecision}

theorem decideObservation_frame {s s' : TicketStore} {signalID : String}
    {ticket : Option (FrictionTicket × DecidedBy)}
    (done : decideObservation s projectID environmentID signalID decision now = .ok (s', ticket)) :
    s'.incidents = s.incidents ∧ s'.jobs = s.jobs := by
  obtain ⟨⟨s₁, chosen, outcome⟩, decided, done⟩ := Except.of_bind done
  have first : s₁.incidents = s.incidents ∧ s₁.jobs = s.jobs := by
    cases decision with
    | create ticketID kind =>
      obtain ⟨s₂, created, same⟩ := Except.of_bind decided
      cases same
      exact createTicket_frame created
    | known ticketID decidedBy =>
      obtain ⟨t, -, same⟩ := Except.of_bind decided
      cases same
      exact ⟨rfl, rfl⟩
    | notAProblem =>
      cases decided
      exact ⟨rfl, rfl⟩
  dsimp only [commitDecision] at done
  split at done
  · cases done
    exact first
  · cases done

theorem matchObservation_frame {s s' : TicketStore} {sessionID signalID : String}
    {startedAt : Timestamp} {backfill : Bool} {leaseMs : Int}
    (done : matchObservation s projectID environmentID sessionID signalID startedAt backfill decision
      leaseMs now = .ok s') : s'.incidents = s.incidents ∧ s'.jobs = s.jobs := by
  obtain ⟨⟨s₁, ticket⟩, observed, done⟩ := Except.of_bind done
  have first : s₁.incidents = s.incidents ∧ s₁.jobs = s.jobs := by
    unfold observationTicket at observed
    have reserved := reserveDecision_frame s signalID environmentID leaseMs now
    split at observed
    · rename_i s₂ eq
      rw [eq] at reserved
      obtain ⟨incidents, jobs⟩ := decideObservation_frame observed
      exact ⟨incidents.trans reserved.1, jobs.trans reserved.2⟩
    · rename_i s₂ eq
      rw [eq] at reserved
      obtain ⟨_, -, same⟩ := Except.map_eq_ok_iff.mp observed
      cases same
      exact reserved
  dsimp only at done
  split at done
  · cases done
    exact first
  · obtain ⟨⟨s₂, new⟩, matched, same⟩ := Except.of_bind done
    cases same
    obtain ⟨incidents, jobs⟩ := recordMatch_frame matched
    exact ⟨incidents.trans first.1, jobs.trans first.2⟩

theorem leavesCauses_startFix {s s' : TicketStore} {g : Incident}
    (found : s.incidents.table.find? g.id = some g) (done : g.investigationStatus = some .done)
    (incidents : s'.incidents = s.incidents.updateWhere (fun h => h.id = g.id) Incident.startFix
      fun _ => ⟨rfl, rfl, rfl⟩) (queue : QueueKept s.jobs s'.jobs) : LeavesCauses flies s s' := by
  refine .of_update _ Incident.startFix (fun _ => ⟨rfl, rfl, rfl⟩) incidents queue ?_
  intro h member own
  obtain rfl : h = g := s.incidents.table.inj member
    (Table.mem_of_find? found) (of_decide_eq_true own)
  exact ⟨⟨rfl, rfl, rfl⟩, rfl, rfl, rfl, Or.inl ⟨rfl, rfl⟩, fun _ => Or.inr (Or.inl done)⟩

variable {attemptID jobID : UUID}

theorem leavesCauses_requestTicketFix {s s' : TicketStore} {projectID groupID : UUID}
    {guidance : String} {expected : Option TicketFixExpectation} {now clock : Timestamp}
    (done : requestTicketFix s projectID groupID guidance expected attemptID jobID now clock =
      .ok s') : LeavesCauses flies s s' := by
  obtain ⟨g, t, attempts, jobs, found, checks, -, -, -, -, inserted, rfl⟩ :=
    requestTicketFix_effect done
  obtain ⟨row, -⟩ := TicketStore.getIncident_eq_some_iff.mp found
  obtain rfl : g.id = groupID := Table.key_of_find? row
  refine leavesCauses_startFix row checks.2.2.2.2.2.1 rfl ?_
  exact .insert? inserted (by simp [ticketFixJob, Job.new])

theorem leavesCauses_requestFix {s s' : TicketStore} {projectID ticketID : UUID} {generation : Nat}
    {requestedBy : Jobs.RequestedBy} {guidance : Option String} {maxOpenFixPrs : Nat}
    {r : FixRequest}
    (done : requestFix s projectID ticketID generation requestedBy guidance maxOpenFixPrs attemptID
      jobID now = .ok (s', r)) : LeavesCauses flies s s' := by
  rcases requestFix_cases done with ⟨rfl, -⟩ | ⟨-, g, t, attempts, found, -, -, checks, -, -, -, -, -,
    rfl⟩
  · exact .refl s'
  · obtain ⟨row, -⟩ := TicketStore.getIncident_eq_some_iff.mp found
    refine leavesCauses_startFix row checks.2.2.2.2.2.1 rfl ?_
    exact .insertIgnore s.jobs (by simp [fixJob, Job.new])

/-- An attempt on the incident is outstanding. -/
def HasAttempt (s : TicketStore) (groupID : UUID) : Prop :=
  ∃ a ∈ s.attempts.rows, a.errorGroupID = groupID ∧ a.Outstanding

variable {factID : UUID} {applied : Bool}

theorem applyPrEvent_jobs {s s' : TicketStore} {e : PrEvent}
    (done : applyPrEvent s projectID e factID now = .ok (s', applied)) :
    s'.jobs = s.jobs := by
  unfold applyPrEvent at done
  split at done
  · cases done
    rfl
  · obtain ⟨⟨prEvents, fact⟩, -, done⟩ := Except.of_bind done
    dsimp only at done
    split at done
    · cases done
      rfl
    · cases done
      split
      · unfold applyCurrent
        dsimp only
        split <;> rfl
      · split <;> rfl

theorem leavesCauses_applyPrEvent {s s' : TicketStore} {e : PrEvent}
    (done : applyPrEvent s projectID e factID now = .ok (s', applied)) :
    LeavesCauses (HasAttempt s) s s' := by
  have jobs := applyPrEvent_jobs done
  rcases applyPrEvent_effect done with ⟨rfl, -⟩ | ⟨t, prEvents, fact, -, -, -, -, current, incidents, -⟩
  · exact .refl s'
  · cases applied with
    | false => exact .of_eq incidents jobs
    | true =>
      refine .of_update _ (Incident.applyEvent e) (fun _ => ⟨rfl, rfl, rfl⟩) incidents (jobs ▸ .refl _) ?_
      obtain ⟨⟨g, a⟩, state, valid⟩ := Option.any_eq_true _ _ |>.mp current.symm
      obtain ⟨attempt, incident, -, group⟩ := eventState_spec state
      intro h _ own
      refine ⟨⟨rfl, rfl, rfl⟩, rfl, rfl, rfl, Or.inl ⟨rfl, rfl⟩, fun _ => Or.inr (Or.inr ?_)⟩
      refine ⟨a, Table.mem_of_find? attempt, ?_, (of_decide_eq_true valid).2.2.2.2.2.1⟩
      rw [group, Table.key_of_find? incident, of_decide_eq_true own]

variable {job : Job}

theorem leavesCauses_recordAttemptPr {s s' : TicketStore} {repo url : String} {number : Nat}
    {occurredAt now clock clock' : Timestamp}
    (done : recordAttemptPr s job repo url number factID occurredAt now clock clock' =
      .ok (s', applied)) : LeavesCauses (HasAttempt s) s s' := by
  unfold recordAttemptPr at done
  split at done
  · obtain ⟨⟨s₁, current⟩, event, done⟩ := Except.of_bind done
    have first := leavesCauses_applyPrEvent event
    dsimp only at done
    split at done
    · cases done
      refine first.trans (.of_update _ (Incident.recordPr job.id now) (fun _ => ⟨rfl, rfl, rfl⟩) rfl
        (.refl _) ?_)
      exact fun g _ _ => ⟨⟨rfl, rfl, rfl⟩, rfl, rfl, rfl, Or.inl ⟨rfl, rfl⟩, Or.inl⟩
    · cases done
      exact first
  · cases done

variable {now clock clock' : Timestamp}

theorem leavesCauses_assertFixAttemptCurrent {s s' : TicketStore} {delivery : Bool}
    {maxOpenFixPrs : Nat}
    (done : assertFixAttemptCurrent s job delivery maxOpenFixPrs now clock clock' = .ok s') :
    LeavesCauses flies s s' := by
  obtain ⟨a, -, -, -, -, ⟨rfl, -⟩ | ⟨-, rfl⟩⟩ := assertFixAttemptCurrent_effect done
  · exact .refl s'
  · exact .of_eq rfl rfl

theorem leavesCauses_processTicketPRWebhook {s s' : TicketStore} {w : TicketPRWebhook}
    {r : PRWebhookResult} (done : processTicketPRWebhook s w factID jobID now = .ok (s', r)) :
    LeavesCauses flies s s' := by
  unfold processTicketPRWebhook at done
  obtain ⟨-, done⟩ := Except.of_guard done
  split at done
  · cases done
    exact .refl s
  · split at done
    · cases done
      exact .refl s
    · obtain ⟨g, -, done⟩ := Except.of_bind done
      obtain ⟨t, -, done⟩ := Except.of_bind done
      obtain ⟨-, done⟩ := Except.of_guard done
      obtain ⟨-, done⟩ := Except.of_guard done
      obtain ⟨prEvents, -, done⟩ := Except.of_bind done
      obtain ⟨jobs, inserted, same⟩ := Except.of_bind done
      rw [Option.orError_eq_ok_iff] at inserted
      cases same
      exact .of_jobs rfl (.insertJob? inserted (by simp [prEventJob, Job.new]))

theorem leavesCauses_processPrEventJob {s s' : TicketStore}
    (done : processPrEventJob s job factID now clock clock' = .ok s') :
    LeavesCauses (HasAttempt s) s s' := by
  unfold processPrEventJob at done
  split at done
  · cases done
  · obtain ⟨-, done⟩ := Except.of_guard done
    obtain ⟨s₁, event, done⟩ := Except.of_bind done
    obtain ⟨-, same⟩ := Except.of_guard done
    cases same
    split at event
    · cases event
      exact .refl s
    · obtain ⟨⟨s₂, applied⟩, applies, rfl⟩ := Except.map_eq_ok_iff.mp event
      exact leavesCauses_applyPrEvent applies

theorem leavesCauses_failFix (s : TicketStore) (job : Job) (ticketID : UUID) (current : Bool) :
    LeavesCauses flies s (failFix s job ticketID current) := by
  unfold failFix
  dsimp only
  split
  · refine .of_update _ Incident.abandonFix (fun _ => ⟨rfl, rfl, rfl⟩) rfl (.refl _) fun g _ _ => ?_
    refine ⟨⟨rfl, rfl, rfl⟩, rfl, rfl, rfl, Or.inl ⟨rfl, rfl⟩, fun flying => ?_⟩
    simp [InFlight, Incident.abandonFix] at flying
  · exact .of_eq rfl rfl

theorem leavesCauses_failInvestigation (s : TicketStore) (job : Job) (ticketID : UUID) :
    LeavesCauses flies s (failInvestigation s job ticketID) := by
  unfold failInvestigation
  split
  · exact .refl s
  · split
    · exact .refl s
    · split
      · refine .of_update _ (Incident.failInvestigation job.investigationEvidenceVersion)
          (fun _ => ⟨rfl, rfl, rfl⟩) rfl (.refl _) fun g _ own => ?_
        have pending := (of_decide_eq_true own).2.2.2
        refine ⟨⟨rfl, rfl, rfl⟩, rfl, rfl, rfl, Or.inr ⟨?_, ?_⟩, Or.inl⟩
        · rw [pending]
          simp
        · simp [Incident.failInvestigation]
      · exact .refl s

theorem leavesCauses_attemptFailed (s : TicketStore) (jobID projectID : UUID) :
    LeavesCauses flies s (attemptFailed s jobID projectID).1 := by
  apply attemptFailed_keeps (.refl s)
  · intro _ batchID _ _
    unfold discardBatch
    split
    · exact .refl s
    · split
      · exact .of_eq rfl rfl
      · exact .refl s
  · exact fun _ _ _ _ kept => kept.trans (leavesCauses_failFix ..)
  · exact fun _ _ _ kept => kept.trans (leavesCauses_failInvestigation ..)

/-- What stands for the steps of an investigation. -/
def Action.Investigates : Action → Prop
  | .investigate .. | .snapshotJob .. | .reinvestigate .. => True
  | _ => False

theorem not_inserts_of_progress {a : Jobs.Action} (progress : Jobs.Progress a) : ¬Jobs.Inserts a := by
  cases a with
  | enqueue => exact absurd progress id
  | _ => exact id

theorem leavesCauses_committed {ε : Type} {s : TicketStore} {r : Except ε TicketStore}
    (leaves : ∀ s', r = .ok s' → LeavesCauses flies s s') :
    LeavesCauses flies s (Transition.committed s r) := by
  cases r with
  | ok s' => exact leaves s' rfl
  | error _ => exact .refl s

theorem leavesCauses_committed_fst {ε α : Type} {s : TicketStore} {r : Except ε (TicketStore × α)}
    (leaves : ∀ s' a, r = .ok (s', a) → LeavesCauses flies s s') :
    LeavesCauses flies s (Transition.committed s (r.map Prod.fst)) := by
  cases r with
  | ok result => exact leaves result.1 result.2 rfl
  | error _ => exact .refl s

theorem leavesCauses_step (s : TicketStore) {a : Action} (other : ¬a.Investigates) :
    LeavesCauses (HasAttempt s) s (step s a) := by
  cases a with
  | setAutonomy | endUser | session | signal | confirm | recountTicket => exact .of_eq rfl rfl
  | deleteMarkedSession sessionID now => exact leavesCauses_deleteMarkedSession s sessionID now
  | frictionSetSessionIdentity sessionID user now =>
    exact leavesCauses_frictionSetSessionIdentity s sessionID user now
  | matchObservation =>
    refine leavesCauses_committed fun s' done => ?_
    obtain ⟨incidents, jobs⟩ := matchObservation_frame done
    exact .of_eq incidents jobs
  | recordMatch =>
    refine leavesCauses_committed_fst fun s' new done => ?_
    obtain ⟨incidents, jobs⟩ := recordMatch_frame done
    exact .of_eq incidents jobs
  | foldInto => exact leavesCauses_committed fun _ done => leavesCauses_foldInto done
  | activateGeneration => exact leavesCauses_committed fun _ done => leavesCauses_activateGeneration done
  | unpublish => exact leavesCauses_committed fun _ done => leavesCauses_unpublish done
  | archiveTicketGroup => exact leavesCauses_committed fun _ done => leavesCauses_archiveTicketGroup done
  | frictionReconcileAfterDelete ticketID now =>
    exact leavesCauses_frictionReconcileAfterDelete s ticketID now
  | requestTicketFix => exact leavesCauses_committed fun _ done => leavesCauses_requestTicketFix done
  | requestFix => exact leavesCauses_committed_fst fun _ _ done => leavesCauses_requestFix done
  | applyPrEvent => exact leavesCauses_committed_fst fun _ _ done => leavesCauses_applyPrEvent done
  | assertFixAttemptCurrent =>
    exact leavesCauses_committed fun _ done => leavesCauses_assertFixAttemptCurrent done
  | recordAttemptPr => exact leavesCauses_committed_fst fun _ _ done => leavesCauses_recordAttemptPr done
  | processTicketPRWebhook =>
    exact leavesCauses_committed_fst fun _ _ done => leavesCauses_processTicketPRWebhook done
  | processPrEventJob => exact leavesCauses_committed fun _ done => leavesCauses_processPrEventJob done
  | enqueue j =>
    dsimp only [step]
    split
    · exact .refl s
    · rename_i other
      exact .of_jobs rfl (.enqueueJobTx s.jobs fun same => other (Or.inl same))
  | queue action =>
    dsimp only [step]
    split
    · rename_i progress
      exact .of_jobs rfl (.step s.jobs (not_inserts_of_progress progress))
    · exact .refl s
  | attemptFailed jobID projectID => exact leavesCauses_attemptFailed s jobID projectID
  | investigate | snapshotJob | reinvestigate => exact absurd trivial other

end Opslane.Tickets
