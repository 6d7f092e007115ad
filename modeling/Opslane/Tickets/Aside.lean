import Opslane.Tickets.Causes
import Opslane.Tickets.FoldRuns
import Opslane.Tickets.LaneJobs

/-!
# Tickets beside their confirmation

What every transaction beside the two jobs leaves of a ticket's row: only purges and changes
of identity raise its evidence version, and flag it; nothing publishes it; only a terminal
ticket loses its flag. One lemma a transaction shows that the rows of the tickets and the
queue go on so.
-/

namespace Opslane.Tickets.Confirmations

open Jobs (Job)

structure RowAside (t t' : FrictionTicket) : Prop where
  place : t.SamePlace t'
  version : t.evidenceVersion ≤ t'.evidenceVersion
  generation : t'.liveGeneration = t.liveGeneration
  boundary : t'.arrivalBoundary = t.arrivalBoundary
  retries : t'.foldRetries = t.foldRetries
  arrivals : t.nextArrivalNumber ≤ t'.nextArrivalNumber
  status : t'.status = t.status ∨ (t.status = .published ∧ t'.status = .unpublished) ∨
    t'.status = .archived
  flag : t.reconcileNeeded = true ∨ t.evidenceVersion < t'.evidenceVersion →
    t'.reconcileNeeded = true ∨ t'.status.Terminal
  cutoff : t.status ≠ .published → t'.cohortCutoff = t.cohortCutoff

theorem RowAside.of_flags {t t' : FrictionTicket} (place : t.SamePlace t')
    (version : t'.evidenceVersion = t.evidenceVersion)
    (generation : t'.liveGeneration = t.liveGeneration)
    (boundary : t'.arrivalBoundary = t.arrivalBoundary) (retries : t'.foldRetries = t.foldRetries)
    (arrivals : t.nextArrivalNumber ≤ t'.nextArrivalNumber) (status : t'.status = t.status)
    (flag : t'.reconcileNeeded = t.reconcileNeeded)
    (cutoff : t.status ≠ .published → t'.cohortCutoff = t.cohortCutoff) : RowAside t t' where
  place := place
  version := version.ge
  generation := generation
  boundary := boundary
  retries := retries
  arrivals := arrivals
  status := Or.inl status
  flag := by
    intro needed
    rcases needed with flagged | bumped
    · exact Or.inl (flag.trans flagged)
    · exact absurd version.le (Nat.not_le.mpr bumped)
  cutoff := cutoff

theorem RowAside.refl (t : FrictionTicket) : RowAside t t :=
  .of_flags ⟨rfl, rfl, rfl⟩ rfl rfl rfl rfl le_rfl rfl rfl fun _ => rfl

theorem RowAside.archived {t t' : FrictionTicket} (aside : RowAside t t')
    (archived : t.status = .archived) : t'.status = .archived := by
  rcases aside.status with same | ⟨published, -⟩ | ended
  · exact same.trans archived
  · rw [archived] at published
    cases published
  · exact ended

theorem RowAside.terminal {t t' : FrictionTicket} (aside : RowAside t t')
    (terminal : t.status.Terminal) : t'.status.Terminal := by
  rcases aside.status with same | ⟨published, -⟩ | ended
  · rwa [same]
  · rw [published] at terminal
    exact absurd terminal (by decide)
  · exact Or.inr ended

theorem RowAside.trans {t t' t'' : FrictionTicket} (first : RowAside t t')
    (second : RowAside t' t'') : RowAside t t'' where
  place := ⟨second.place.1.trans first.place.1, second.place.2.1.trans first.place.2.1,
    second.place.2.2.trans first.place.2.2⟩
  version := first.version.trans second.version
  generation := second.generation.trans first.generation
  boundary := second.boundary.trans first.boundary
  retries := second.retries.trans first.retries
  arrivals := first.arrivals.trans second.arrivals
  status := by
    rcases second.status with same | ⟨published, withdrawn⟩ | ended
    · rcases first.status with same' | ⟨published, withdrawn⟩ | ended
      · exact Or.inl (same.trans same')
      · exact Or.inr (Or.inl ⟨published, same.trans withdrawn⟩)
      · exact Or.inr (Or.inr (same.trans ended))
    · rcases first.status with same' | ⟨-, withdrawn'⟩ | ended
      · exact Or.inr (Or.inl ⟨same'.symm.trans published, withdrawn⟩)
      · rw [withdrawn'] at published
        cases published
      · rw [ended] at published
        cases published
    · exact Or.inr (Or.inr ended)
  flag := by
    intro needed
    by_cases early : t.reconcileNeeded = true ∨ t.evidenceVersion < t'.evidenceVersion
    · rcases first.flag early with flagged | ended
      · exact second.flag (Or.inl flagged)
      · exact Or.inr (second.terminal ended)
    · have same : t.evidenceVersion = t'.evidenceVersion :=
        le_antisymm first.version (Nat.not_lt.mp fun bumped => early (Or.inr bumped))
      refine second.flag (Or.inr ?_)
      rcases needed with flagged | bumped
      · exact absurd (Or.inl flagged) early
      · exact same ▸ bumped
  cutoff := by
    intro waiting
    have still : t'.status ≠ .published := by
      rcases first.status with same | ⟨published, -⟩ | ended
      · rwa [same]
      · exact absurd published waiting
      · rw [ended]
        decide
    rw [second.cutoff still, first.cutoff waiting]

/-- The ticket is archived. -/
def ArchivedIn (s : TicketStore) (ticketID : UUID) : Prop :=
  ∃ t ∈ s.tickets.rows, t.id = ticketID ∧ t.status = .archived

/-- The ticket of the job is archived. -/
def Shelved (s : TicketStore) (j : Job) : Prop :=
  ∃ ticketID, j.ticketID = some ticketID ∧ ArchivedIn s ticketID

theorem settled_shelved (s : TicketStore) : Settled (Shelved s) :=
  fun _ _ goes ⟨ticketID, own, archived⟩ => ⟨ticketID, goes.ticketID.symm.trans own, archived⟩

structure TicketsAside (s s' : TicketStore) : Prop where
  forth : ∀ t ∈ s.tickets.rows, ∃ t' ∈ s'.tickets.rows, RowAside t t'
  back : ∀ t' ∈ s'.tickets.rows, (∃ t ∈ s.tickets.rows, RowAside t t') ∨
    ((∀ t ∈ s.tickets.rows, t.id ≠ t'.id) ∧ t'.foldRetries = 0 ∧ t'.arrivalBoundary = 0)
  jobs : JobsAside (Shelved s') (OfTicket s') s.jobs s'.jobs

namespace TicketsAside

variable {s s' : TicketStore}

theorem of_jobs (tickets : s'.tickets = s.tickets)
    (jobs : JobsAside (Shelved s') (OfTicket s') s.jobs s'.jobs) : TicketsAside s s' where
  forth t member := ⟨t, tickets ▸ member, .refl t⟩
  back t member := Or.inl ⟨t, tickets ▸ member, .refl t⟩
  jobs := jobs

theorem of_eq (tickets : s'.tickets = s.tickets) (jobs : s'.jobs = s.jobs) :
    TicketsAside s s' := of_jobs tickets (.of_eq jobs)

theorem refl (s : TicketStore) : TicketsAside s s := of_eq rfl rfl

theorem archivedIn (aside : TicketsAside s s') {ticketID : UUID}
    (archived : ArchivedIn s ticketID) : ArchivedIn s' ticketID := by
  obtain ⟨t, member, own, ended⟩ := archived
  obtain ⟨t', member', row⟩ := aside.forth t member
  exact ⟨t', member', row.place.1.trans own, row.archived ended⟩

theorem ofTicket (aside : TicketsAside s s') {j : Job} (fits : OfTicket s j) : OfTicket s' j := by
  obtain ⟨t, member, own, project⟩ := fits
  obtain ⟨t', member', row⟩ := aside.forth t member
  exact ⟨t', member', own.trans (congrArg some row.place.1.symm), row.place.2.1.trans project⟩

theorem trans {s s' s'' : TicketStore} (first : TicketsAside s s') (second : TicketsAside s' s'') :
    TicketsAside s s'' where
  forth t member := by
    obtain ⟨t₁, member₁, row₁⟩ := first.forth t member
    obtain ⟨t₂, member₂, row₂⟩ := second.forth t₁ member₁
    exact ⟨t₂, member₂, row₁.trans row₂⟩
  back t₂ member₂ := by
    rcases second.back t₂ member₂ with ⟨t₁, member₁, row₂⟩ | ⟨fresh, zero⟩
    · rcases first.back t₁ member₁ with ⟨t, member, row₁⟩ | ⟨fresh, retries, boundary⟩
      · exact Or.inl ⟨t, member, row₁.trans row₂⟩
      · refine Or.inr ⟨fun t member => row₂.place.1 ▸ fresh t member, ?_, ?_⟩
        · exact row₂.retries.trans retries
        · exact row₂.boundary.trans boundary
    · refine Or.inr ⟨fun t member => ?_, zero⟩
      obtain ⟨t₁, member₁, row₁⟩ := first.forth t member
      exact row₁.place.1 ▸ fresh t₁ member₁
  jobs := .trans (settled_shelved s'') (lasting_ofTicket s'')
    (first.jobs.mono
      (fun _ ⟨ticketID, own, archived⟩ => ⟨ticketID, own, second.archivedIn archived⟩)
      fun _ fits => second.ofTicket fits) second.jobs

theorem of_update (id : UUID) (f : FrictionTicket → FrictionTicket) (frame : ∀ t, (f t).id = t.id)
    (tickets : s'.tickets = s.tickets.updateKey id f frame)
    (moves : ∀ t ∈ s.tickets.rows, t.id = id → RowAside t (f t))
    (jobs : JobsAside (Shelved s') (OfTicket s') s.jobs s'.jobs) : TicketsAside s s' where
  forth t member := by
    rw [tickets]
    refine ⟨_, (Table.mem_updateWhere ..).mpr ⟨t, member, rfl⟩, ?_⟩
    split
    · rename_i own
      exact moves t member (of_decide_eq_true own)
    · exact .refl t
  back t' member' := by
    rw [tickets] at member'
    obtain ⟨t, member, rfl⟩ := (Table.mem_updateWhere ..).mp member'
    refine Or.inl ⟨t, member, ?_⟩
    split
    · rename_i own
      exact moves t member (of_decide_eq_true own)
    · exact .refl t
  jobs := jobs

end TicketsAside

theorem cancel_goes (reason : String) {j : Job} (active : j.Active) : Goes j (cancel reason j) :=
  ⟨rfl, rfl, rfl, rfl, rfl, le_rfl, fun _ => active⟩

theorem jobsAside_cancelWork (ended new : Job → Prop) (jobs : Jobs.JobTable) (ids : List UUID) :
    JobsAside ended new jobs (jobs.updateWhere (fun j => j.errorGroupID.any (· ∈ ids) ∧ j.Active ∧
      (j.jobType = .investigate ∨ j.jobType = .fix)) (cancel "unpublished") fun _ => rfl) := by
  refine .updateWhere jobs _ (cancel "unpublished") (fun _ => rfl) fun j _ chosen => ?_
  obtain ⟨-, active, type⟩ := of_decide_eq_true chosen
  refine ⟨cancel_goes _ active, fun lane => ?_⟩
  rcases type with type | type <;> rcases lane with lane | lane <;>
    · rw [type] at lane
      cases lane

theorem ticketsAside_retireIncidents (s : TicketStore) (ids : List UUID) (now : Timestamp) :
    TicketsAside s (retireIncidents s ids now) :=
  .of_jobs rfl (jobsAside_cancelWork _ _ s.jobs ids)

theorem investigateJob_not_lane (t : FrictionTicket) (generation : Nat) (groupID jobID : UUID)
    (now : Timestamp) : ¬Lane (investigateJob t generation groupID jobID now) := by
  simp [Lane, investigateJob, Job.new]

theorem ticketsAside_enqueueTicketInvestigation (s : TicketStore) (t : FrictionTicket)
    (generation : Nat) (groupID : UUID) (finishingJobID : Option UUID) (jobID : UUID)
    (now : Timestamp) :
    TicketsAside s (enqueueTicketInvestigation s t generation groupID finishingJobID jobID now).1 := by
  unfold enqueueTicketInvestigation
  dsimp only
  split
  · exact .refl s
  · exact .of_jobs rfl (.enqueueJobTx s.jobs fun lane => absurd lane (investigateJob_not_lane _ _ _ _ _))

variable {now : Timestamp}

variable {s s' : TicketStore}

theorem ticketsAside_archiveTicketGroup {projectID groupID : UUID}
    (done : archiveTicketGroup s projectID groupID now = .ok s') :
    TicketsAside s s' := by
  unfold archiveTicketGroup at done
  split at done
  · cases done
    exact .refl s
  · rename_i g t found
    split at done
    · cases done
      exact .refl s
    · split at done
      · cases done
      · cases done
        obtain ⟨-, row, -⟩ := TicketStore.getIncident_eq_some_iff.mp found
        have ended : ∀ u ∈ s.tickets.rows, u.id = t.id → RowAside u (FrictionTicket.archive u) :=
          fun u _ _ => ⟨⟨rfl, rfl, rfl⟩, le_rfl, rfl, rfl, rfl, le_rfl, Or.inr (Or.inr rfl),
            fun _ => Or.inr (Or.inr rfl), fun _ => rfl⟩
        refine .of_update t.id FrictionTicket.archive (fun _ => rfl) rfl ended ?_
        refine .updateWhere s.jobs _ (cancel "Problem archived") (fun _ => rfl) fun j _ chosen => ?_
        obtain ⟨own, active⟩ := of_decide_eq_true chosen
        refine ⟨cancel_goes _ active, fun _ _ => Or.inr ⟨t.id, own, ?_⟩⟩
        refine ⟨FrictionTicket.archive t, ?_, rfl, rfl⟩
        exact (Table.mem_updateWhere s.tickets _ FrictionTicket.archive (fun _ => rfl) _).mpr
          ⟨t, Table.mem_of_find? row, by simp⟩

theorem recount_aside (matchedCount : Nat) (t : FrictionTicket) :
    RowAside t (FrictionTicket.recount matchedCount t) where
  place := ⟨rfl, rfl, rfl⟩
  version := Nat.le_succ _
  generation := rfl
  boundary := rfl
  retries := rfl
  arrivals := le_rfl
  status := Or.inl rfl
  flag := fun _ => Or.inl rfl
  cutoff := fun _ => rfl

theorem unpublish_aside {t : FrictionTicket} (published : t.status = .published) :
    RowAside t (FrictionTicket.unpublish t) where
  place := ⟨rfl, rfl, rfl⟩
  version := le_rfl
  generation := rfl
  boundary := rfl
  retries := rfl
  arrivals := le_rfl
  status := Or.inr (Or.inl ⟨published, rfl⟩)
  flag := by
    intro needed
    rcases needed with flagged | bumped
    · exact Or.inl flagged
    · exact absurd bumped (Nat.lt_irrefl _)
  cutoff := fun waiting => absurd published waiting

theorem frictionReconcileAfterDelete_rows (ticketID : UUID) (now : Timestamp) :
    TicketsAside s (frictionReconcileAfterDelete s ticketID now) ∧
      ∀ t ∈ s.tickets.rows, t.id = ticketID →
        ∃ t' ∈ (frictionReconcileAfterDelete s ticketID now).tickets.rows, t'.id = ticketID ∧
          t.evidenceVersion < t'.evidenceVersion := by
  unfold frictionReconcileAfterDelete
  split
  · rename_i absent
    exact ⟨.refl s, fun t member own => absurd own ((s.tickets.find?_eq_none_iff _).mp absent t member)⟩
  · rename_i t found
    dsimp only
    generalize (s.evidence.ticketMatches.select fun m => m.ticketID = ticketID).length = matchedCount
    have counted : TicketsAside s (s.updateTicket ticketID (FrictionTicket.recount matchedCount)
        fun _ => ⟨rfl, rfl, rfl⟩) :=
      .of_update ticketID (FrictionTicket.recount matchedCount) (fun _ => rfl) rfl
        (fun t _ _ => recount_aside matchedCount t) (.refl _)
    have bumped : ∀ s', TicketsAside (s.updateTicket ticketID (FrictionTicket.recount matchedCount)
        fun _ => ⟨rfl, rfl, rfl⟩) s' → TicketsAside s s' ∧ ∀ t ∈ s.tickets.rows, t.id = ticketID →
          ∃ t' ∈ s'.tickets.rows, t'.id = ticketID ∧ t.evidenceVersion < t'.evidenceVersion := by
      intro s' rest
      refine ⟨counted.trans rest, fun u member own => ?_⟩
      have row : FrictionTicket.recount matchedCount u ∈ (s.updateTicket ticketID
          (FrictionTicket.recount matchedCount) fun _ => ⟨rfl, rfl, rfl⟩).tickets.rows :=
        (Table.mem_updateWhere s.tickets _ (FrictionTicket.recount matchedCount) (fun _ => rfl) _).mpr
          ⟨u, member, by simp [own]⟩
      obtain ⟨u', member', aside⟩ := rest.forth _ row
      exact ⟨u', member', aside.place.1.trans own, Nat.lt_of_lt_of_le (Nat.lt_succ_self _) aside.version⟩
    split
    · exact bumped _ (.refl _)
    · rename_i published
      rw [not_not] at published
      split
      · exact bumped _ (.refl _)
      · rename_i g _
        split
        · exact bumped _ (.refl _)
        · split
          · refine bumped _ ((ticketsAside_retireIncidents _ [g.id] now).trans ?_)
            refine .of_update ticketID FrictionTicket.unpublish (fun _ => rfl) rfl ?_ (.refl _)
            intro u member own
            obtain ⟨t', old, rfl⟩ := (Table.mem_updateWhere s.tickets (fun t => t.id = ticketID)
              (FrictionTicket.recount matchedCount) (fun _ => rfl) u).mp member
            split at own
            · rename_i same
              obtain rfl : t' = t := s.tickets.inj old
                (Table.mem_of_find? found)
                ((of_decide_eq_true same).trans (Table.key_of_find? found).symm)
              rw [if_pos same]
              exact unpublish_aside published
            · rename_i other
              exact absurd (decide_eq_true own) other
          · exact bumped _ (.refl _)

theorem reconcileAll_rows (ticketIDs : List UUID) (now : Timestamp) (s : TicketStore) :
    TicketsAside s (reconcileAll s ticketIDs now) ∧
      ∀ t ∈ s.tickets.rows, t.id ∈ ticketIDs →
        ∃ t' ∈ (reconcileAll s ticketIDs now).tickets.rows, t'.id = t.id ∧
          t.evidenceVersion < t'.evidenceVersion := by
  induction ticketIDs generalizing s with
  | nil => exact ⟨.refl s, fun t _ named => absurd named (by simp)⟩
  | cons id rest ih =>
    obtain ⟨first, bumps⟩ := frictionReconcileAfterDelete_rows (s := s) id now
    obtain ⟨later, bumps'⟩ := ih (frictionReconcileAfterDelete s id now)
    refine ⟨first.trans later, fun t member named => ?_⟩
    rcases List.mem_cons.mp named with own | other
    · obtain ⟨t₁, member₁, own₁, bumped⟩ := bumps t member own
      obtain ⟨t₂, member₂, row⟩ := later.forth t₁ member₁
      exact ⟨t₂, member₂, (row.place.1.trans own₁).trans own.symm, bumped.trans_le row.version⟩
    · obtain ⟨t₁, member₁, row⟩ := first.forth t member
      obtain ⟨t₂, member₂, own₂, bumped⟩ := bumps' t₁ member₁ (row.place.1 ▸ other)
      exact ⟨t₂, member₂, own₂.trans row.place.1, row.version.trans_lt bumped⟩

theorem count_aside (newRecordings : Nat) (t : FrictionTicket) :
    RowAside t (FrictionTicket.count newRecordings t) :=
  .of_flags ⟨rfl, rfl, rfl⟩ rfl rfl rfl rfl (Nat.le_add_right ..) rfl rfl fun _ => rfl

theorem ticketsAside_recordMatch {input : MatchInput} {new : Bool}
    (done : recordMatch s input = .ok (s', new)) : TicketsAside s s' := by
  obtain ⟨t, -, -, tickets, -⟩ := recordMatch_effect done
  obtain ⟨-, jobs⟩ := recordMatch_frame done
  exact .of_update t.id (FrictionTicket.count (if new then 1 else 0)) (fun _ => rfl) tickets
    (fun u _ _ => count_aside _ u) (.of_eq jobs)

theorem ticketsAside_createTicket {id projectID environmentID : UUID} {kind : TicketKind}
    (done : createTicket s (.new id projectID environmentID kind) = .ok s') : TicketsAside s s' := by
  obtain ⟨-, jobs⟩ := createTicket_frame done
  unfold createTicket at done
  split at done
  · cases done
  · rename_i tickets inserted
    cases done
    constructor
    · exact fun t member => ⟨t, (Table.mem_insert? inserted).mpr (Or.inr member), .refl t⟩
    · intro t member
      rcases (Table.mem_insert? inserted).mp member with rfl | old
      · refine Or.inr ⟨?_, rfl, rfl⟩
        exact (s.tickets.find?_eq_none_iff _).mp (Table.insert?_spec inserted).1
      · exact Or.inl ⟨t, old, .refl t⟩
    · exact .of_eq jobs

variable {projectID environmentID : UUID} {decision : MatchDecision}

theorem ticketsAside_observationTicket {signalID : String} {leaseMs : Int}
    {ticket : Option (FrictionTicket × DecidedBy)}
    (done : observationTicket s projectID environmentID signalID decision leaseMs now =
      .ok (s', ticket)) : TicketsAside s s' ∧ s'.evidence = s.evidence := by
  have reserved : ∀ s₁ b, reserveDecision s signalID environmentID leaseMs now = (s₁, b) →
      s₁.tickets = s.tickets ∧ s₁.jobs = s.jobs ∧ s₁.evidence = s.evidence := by
    intro s₁ b eq
    unfold reserveDecision at eq
    split at eq
    · cases eq
      exact ⟨rfl, rfl, rfl⟩
    · split at eq
      · cases eq
        exact ⟨rfl, rfl, rfl⟩
      · split at eq <;> cases eq <;> exact ⟨rfl, rfl, rfl⟩
  unfold observationTicket at done
  split at done
  · rename_i s₁ eq
    obtain ⟨tickets, jobs, evidence⟩ := reserved s₁ true eq
    have first : TicketsAside s s₁ := .of_eq tickets jobs
    obtain ⟨⟨s₂, chosen, outcome⟩, decided, done⟩ := Except.of_bind done
    have second : TicketsAside s₁ s₂ ∧ s₂.evidence = s₁.evidence := by
      cases decision with
      | create ticketID kind =>
        obtain ⟨s₃, created, same⟩ := Except.of_bind decided
        cases same
        refine ⟨ticketsAside_createTicket created, ?_⟩
        unfold createTicket at created
        split at created <;> cases created
        rfl
      | known ticketID decidedBy =>
        obtain ⟨t, -, same⟩ := Except.of_bind decided
        cases same
        exact ⟨.refl _, rfl⟩
      | notAProblem =>
        cases decided
        exact ⟨.refl _, rfl⟩
    dsimp only [commitDecision] at done
    split at done
    · cases done
      exact ⟨first.trans (second.1.trans (.of_eq rfl rfl)), second.2.trans evidence⟩
    · cases done
  · rename_i s₁ eq
    obtain ⟨tickets, jobs, evidence⟩ := reserved s₁ false eq
    obtain ⟨_, -, same⟩ := Except.map_eq_ok_iff.mp done
    cases same
    exact ⟨.of_eq tickets jobs, evidence⟩

theorem matchObservation_steps {sessionID signalID : String} {startedAt : Timestamp}
    {backfill : Bool} {leaseMs : Int}
    (done : matchObservation s projectID environmentID sessionID signalID startedAt backfill decision
      leaseMs now = .ok s') :
    ∃ s₁, TicketsAside s s₁ ∧ s₁.evidence = s.evidence ∧
      (s' = s₁ ∨ ∃ input new, recordMatch s₁ input = .ok (s', new)) := by
  obtain ⟨⟨s₁, ticket⟩, observed, done⟩ := Except.of_bind done
  obtain ⟨first, evidence⟩ := ticketsAside_observationTicket observed
  refine ⟨s₁, first, evidence, ?_⟩
  dsimp only at done
  split at done
  · cases done
    exact Or.inl rfl
  · obtain ⟨⟨s₂, new⟩, matched, same⟩ := Except.of_bind done
    cases same
    exact Or.inr ⟨_, new, matched⟩

variable {factID : UUID}

theorem ticketsAside_applyPrEvent {e : PrEvent} {applied : Bool}
    (done : applyPrEvent s projectID e factID now = .ok (s', applied)) :
    TicketsAside s s' ∧ s'.evidence = s.evidence := by
  have jobs := applyPrEvent_jobs done
  unfold applyPrEvent at done
  split at done
  · cases done
    exact ⟨.refl s, rfl⟩
  · rename_i t ticket
    obtain ⟨⟨prEvents, fact⟩, -, done⟩ := Except.of_bind done
    dsimp only at done
    split at done
    · cases done
      exact ⟨.of_eq rfl rfl, rfl⟩
    · cases done
      split
      · rename_i current
        obtain ⟨⟨g, a⟩, -, valid⟩ := (Option.any_eq_true ..).mp current
        unfold applyCurrent
        dsimp only
        split
        · refine ⟨.of_update e.ticketID (FrictionTicket.fix e.occurredAt) (fun _ => rfl) rfl ?_
            (.refl _), rfl⟩
          intro u member own
          obtain ⟨found, -⟩ := TicketStore.getTicket_eq_some_iff.mp ticket
          obtain rfl : u = t := s.tickets.inj member
            (Table.mem_of_find? found) (own.trans (Table.key_of_find? found).symm)
          refine .of_flags ⟨rfl, rfl, rfl⟩ rfl rfl rfl rfl le_rfl rfl rfl fun waiting => ?_
          exact absurd (of_decide_eq_true valid).1 waiting
        · exact ⟨.of_eq rfl rfl, rfl⟩
      · split
        · exact ⟨.of_eq rfl rfl, rfl⟩
        · exact ⟨.of_eq rfl rfl, rfl⟩

theorem ticketsAside_recordAttemptPr {job : Job} {repo url : String} {number : Nat}
    {occurredAt now clock clock' : Timestamp} {applied : Bool}
    (done : recordAttemptPr s job repo url number factID occurredAt now clock clock' =
      .ok (s', applied)) : TicketsAside s s' ∧ s'.evidence = s.evidence := by
  unfold recordAttemptPr at done
  split at done
  · obtain ⟨⟨s₁, current⟩, event, done⟩ := Except.of_bind done
    obtain ⟨first, evidence⟩ := ticketsAside_applyPrEvent event
    dsimp only at done
    split at done
    · cases done
      exact ⟨first.trans (.of_eq rfl rfl), evidence⟩
    · cases done
      exact ⟨first, evidence⟩
  · cases done

theorem ticketsAside_processPrEventJob {job : Job} {now clock clock' : Timestamp}
    (done : processPrEventJob s job factID now clock clock' = .ok s') :
    TicketsAside s s' ∧ s'.evidence = s.evidence := by
  unfold processPrEventJob at done
  split at done
  · cases done
  · obtain ⟨-, done⟩ := Except.of_guard done
    obtain ⟨s₁, event, done⟩ := Except.of_bind done
    obtain ⟨-, same⟩ := Except.of_guard done
    cases same
    split at event
    · cases event
      exact ⟨.refl s, rfl⟩
    · obtain ⟨⟨s₂, applied⟩, applies, rfl⟩ := Except.map_eq_ok_iff.mp event
      exact ticketsAside_applyPrEvent applies

variable {attemptID jobID : UUID}

theorem ticketsAside_requestTicketFix {projectID groupID : UUID} {guidance : String}
    {expected : Option TicketFixExpectation} {now clock : Timestamp}
    (done : requestTicketFix s projectID groupID guidance expected attemptID jobID now clock =
      .ok s') : TicketsAside s s' ∧ s'.evidence = s.evidence := by
  obtain ⟨g, t, attempts, jobs, -, -, -, -, -, -, inserted, rfl⟩ := requestTicketFix_effect done
  exact ⟨.of_jobs rfl (.insert? inserted (by simp [Lane, ticketFixJob, Job.new])), rfl⟩

theorem ticketsAside_requestFix {projectID ticketID : UUID} {generation : Nat}
    {requestedBy : Jobs.RequestedBy} {guidance : Option String} {maxOpenFixPrs : Nat}
    {r : FixRequest}
    (done : requestFix s projectID ticketID generation requestedBy guidance maxOpenFixPrs attemptID
      jobID now = .ok (s', r)) : TicketsAside s s' ∧ s'.evidence = s.evidence := by
  rcases requestFix_cases done with ⟨rfl, -⟩ | ⟨-, g, t, attempts, -, -, -, -, -, -, -, -, -, rfl⟩
  · exact ⟨.refl s', rfl⟩
  · exact ⟨.of_jobs rfl (.insertIgnore s.jobs (by simp [Lane, fixJob, Job.new])), rfl⟩

theorem ticketsAside_processTicketPRWebhook {w : TicketPRWebhook} {r : PRWebhookResult}
    (done : processTicketPRWebhook s w factID jobID now = .ok (s', r)) :
    TicketsAside s s' ∧ s'.evidence = s.evidence := by
  unfold processTicketPRWebhook at done
  obtain ⟨-, done⟩ := Except.of_guard done
  split at done
  · cases done
    exact ⟨.refl s, rfl⟩
  · split at done
    · cases done
      exact ⟨.refl s, rfl⟩
    · obtain ⟨g, -, done⟩ := Except.of_bind done
      obtain ⟨t, -, done⟩ := Except.of_bind done
      obtain ⟨-, done⟩ := Except.of_guard done
      obtain ⟨-, done⟩ := Except.of_guard done
      obtain ⟨prEvents, -, done⟩ := Except.of_bind done
      obtain ⟨jobs, inserted, same⟩ := Except.of_bind done
      rw [Option.orError_eq_ok_iff] at inserted
      cases same
      exact ⟨.of_jobs rfl (.insertJob? inserted (by simp [Lane, prEventJob, Job.new])), rfl⟩

theorem ticketsAside_failFix (s : TicketStore) (job : Job) (ticketID : UUID) (current : Bool) :
    TicketsAside s (failFix s job ticketID current) ∧
      (failFix s job ticketID current).evidence = s.evidence := by
  unfold failFix
  dsimp only
  split <;> exact ⟨.of_eq rfl rfl, rfl⟩

theorem ticketsAside_failInvestigation (s : TicketStore) (job : Job) (ticketID : UUID) :
    TicketsAside s (failInvestigation s job ticketID) ∧
      (failInvestigation s job ticketID).evidence = s.evidence := by
  unfold failInvestigation
  split
  · exact ⟨.refl s, rfl⟩
  · split
    · exact ⟨.refl s, rfl⟩
    · split
      · refine ⟨.of_update ticketID FrictionTicket.needReinvestigate (fun _ => rfl) rfl ?_ (.refl _),
          rfl⟩
        exact fun t _ _ => .of_flags ⟨rfl, rfl, rfl⟩ rfl rfl rfl rfl le_rfl rfl rfl fun _ => rfl
      · exact ⟨.refl s, rfl⟩

theorem ticketsAside_attemptFailed (s : TicketStore) (projectID : UUID)
    (other : (s.jobs.find? jobID).all fun j => ¬Lane j) :
    TicketsAside s (attemptFailed s jobID projectID).1 ∧
      (attemptFailed s jobID projectID).1.evidence = s.evidence := by
  refine attemptFailed_keeps (P := fun s' => TicketsAside s s' ∧ s'.evidence = s.evidence)
    ⟨.refl s, rfl⟩ ?_ ?_ ?_
  · intro job batchID row type
    rw [row, Option.all_some, decide_eq_true_eq] at other
    exact absurd (Or.inl type) other
  · intro s₁ job ticketID current kept
    obtain ⟨rows, evidence⟩ := ticketsAside_failFix s₁ job ticketID current
    exact ⟨kept.1.trans rows, evidence.trans kept.2⟩
  · intro s₁ job ticketID kept
    obtain ⟨rows, evidence⟩ := ticketsAside_failInvestigation s₁ job ticketID
    exact ⟨kept.1.trans rows, evidence.trans kept.2⟩

theorem ticketsAside_reinvestigate {ticket : FrictionTicket} {finishingJobID : Option UUID}
    (done : reinvestigate s ticket finishingJobID jobID now = .ok s') :
    TicketsAside s s' ∧ s'.evidence = s.evidence := by
  obtain ⟨t, -, done⟩ := Except.of_bind done
  split at done
  · cases done
    exact ⟨.refl s, rfl⟩
  · split at done
    · cases done
      exact ⟨.refl s, rfl⟩
    · cases done
      refine ⟨ticketsAside_enqueueTicketInvestigation .., ?_⟩
      unfold enqueueTicketInvestigation
      dsimp only
      split <;> rfl

theorem ticketsAside_snapshotJob (s : TicketStore) (jobID : UUID) (execution evidenceVersion : Nat) :
    TicketsAside s (snapshotJob s jobID execution evidenceVersion) := by
  refine .of_jobs rfl (.updateWhere s.jobs _ (snapshot execution evidenceVersion) (fun _ => rfl) ?_)
  exact fun j _ _ => ⟨⟨rfl, rfl, rfl, rfl, rfl, le_rfl, fun active => active⟩,
    fun _ active => Or.inl active⟩

end Opslane.Tickets.Confirmations
