import Opslane.Tickets.Machine

/-!
# What transactions do to attempts

Most transactions on tickets only end attempts: whatever else they do, an attempt is left
as it is or leaves the statuses in which it is outstanding. Only a request for a fix, the
reservation of a slot and the events of pull requests do more. Pull-request facts are added
by the latter alone, and a ticket never leaves its project.
-/

namespace Opslane.Tickets

open Jobs (Job)

/-- The attempt is as it was, or has ended. -/
def FixAttempt.Ends (a a' : FixAttempt) : Prop :=
  a' = a ∨ ∃ status : AttemptStatus, (status ≠ .active ∧ status ≠ .prOpen) ∧ a' = { a with status }

theorem FixAttempt.Ends.trans {a a' a'' : FixAttempt} (first : a.Ends a') (second : a'.Ends a'') :
    a.Ends a'' := by
  rcases second with rfl | ⟨status, past, rfl⟩
  · exact first
  · rcases first with rfl | ⟨status', -, rfl⟩
    · exact Or.inr ⟨status, past, rfl⟩
    · exact Or.inr ⟨status, past, rfl⟩

/-- Tickets stay, each in its project. -/
def Placed (s s' : TicketStore) : Prop :=
  ∀ t ∈ s.tickets.rows, ∃ t' ∈ s'.tickets.rows, t.SamePlace t'

theorem FrictionTicket.SamePlace.refl (t : FrictionTicket) : t.SamePlace t := ⟨rfl, rfl, rfl⟩

theorem FrictionTicket.SamePlace.trans {t t' t'' : FrictionTicket} (first : t.SamePlace t')
    (second : t'.SamePlace t'') : t.SamePlace t'' :=
  ⟨second.1.trans first.1, second.2.1.trans first.2.1, second.2.2.trans first.2.2⟩

variable {s s' : TicketStore}

theorem Placed.of_eq (tickets : s'.tickets = s.tickets) : Placed s s' :=
  fun t row => ⟨t, tickets ▸ row, .refl t⟩

variable {s s' s'' : TicketStore}

theorem Placed.trans (first : Placed s s') (second : Placed s' s'') :
    Placed s s'' := by
  intro t row
  obtain ⟨t', row', place⟩ := first t row
  obtain ⟨t'', row'', place'⟩ := second t' row'
  exact ⟨t'', row'', place.trans place'⟩

theorem Placed.of_update (id : UUID) (f : FrictionTicket → FrictionTicket)
    (frame : ∀ t : FrictionTicket, t.SamePlace (f t))
    (tickets : s'.tickets = s.tickets.updateKey id f fun t => (frame t).1) : Placed s s' := by
  intro t row
  have updated := (Table.mem_updateWhere s.tickets (fun t => t.id = id) f (fun t => (frame t).1) _).mpr
    ⟨t, row, rfl⟩
  refine ⟨_, by rw [tickets]; exact updated, ?_⟩
  split
  · exact frame t
  · exact .refl t

theorem Placed.getTicket_isSome (placed : Placed s s') {t : FrictionTicket}
    (row : t ∈ s.tickets.rows) (projectID : UUID) :
    (s'.getTicket projectID t.id).isSome = (s.getTicket projectID t.id).isSome := by
  obtain ⟨t', row', id, project, -⟩ := placed t row
  have found' : s'.tickets.find? t.id = some t' := id ▸ s'.tickets.find?_key row'
  simp [TicketStore.getTicket, found', s.tickets.find?_key row, Option.filter, project]
  split <;> simp

/-- A transaction that at most ends attempts. -/
structure Rests (s s' : TicketStore) : Prop where
  ended : ∃ f : FixAttempt → FixAttempt, s'.attempts.rows = s.attempts.rows.map f ∧
    ∀ a ∈ s.attempts.rows, a.Ends (f a)
  facts : s'.prEvents = s.prEvents
  placed : Placed s s'

theorem Rests.trans (first : Rests s s') (second : Rests s' s'') :
    Rests s s'' := by
  obtain ⟨f, rows, ends_⟩ := first.ended
  obtain ⟨f', rows', ends'⟩ := second.ended
  refine ⟨⟨f' ∘ f, ?_, ?_⟩, second.facts.trans first.facts, first.placed.trans second.placed⟩
  · rw [rows', rows, List.map_map]
  · intro a row
    exact (ends_ a row).trans (ends' (f a) (rows ▸ List.mem_map_of_mem row))

theorem Rests.of_placed (attempts : s'.attempts = s.attempts) (facts : s'.prEvents = s.prEvents)
    (placed : Placed s s') : Rests s s' :=
  ⟨⟨id, by rw [attempts, List.map_id], fun _ _ => Or.inl rfl⟩, facts, placed⟩

theorem Rests.of_eq (attempts : s'.attempts = s.attempts) (facts : s'.prEvents = s.prEvents)
    (tickets : s'.tickets = s.tickets) : Rests s s' :=
  .of_placed attempts facts (.of_eq tickets)

theorem Rests.refl (s : TicketStore) : Rests s s := .of_eq rfl rfl rfl

theorem Rests.of_ended (p : FixAttempt → Bool) (f : FixAttempt → FixAttempt)
    (frame : ∀ a, (f a).id = a.id) (ends_ : ∀ a : FixAttempt, a.Ends (f a))
    (attempts : s'.attempts = s.attempts.updateWhere p f frame) (facts : s'.prEvents = s.prEvents)
    (placed : Placed s s') : Rests s s' := by
  refine ⟨⟨fun a => if p a then f a else a, by rw [attempts]; rfl, fun a _ => ?_⟩, facts, placed⟩
  dsimp only
  split
  · exact ends_ a
  · exact Or.inl rfl

theorem FixAttempt.ends_supersede (a : FixAttempt) : a.Ends a.supersede :=
  Or.inr ⟨.superseded, by decide, rfl⟩

theorem FixAttempt.ends_fail (current : Bool) (a : FixAttempt) : a.Ends (a.fail current) :=
  Or.inr ⟨_, by cases current <;> decide, rfl⟩

theorem rests_retireIncidents (s : TicketStore) (ids : List UUID) (now : Timestamp) :
    Rests s (retireIncidents s ids now) :=
  .of_ended (fun a => a.errorGroupID ∈ ids ∧ a.Outstanding) FixAttempt.supersede (fun _ => rfl)
    FixAttempt.ends_supersede rfl rfl (.of_eq rfl)

theorem rests_updateTicket (s : TicketStore) (id : UUID) {f : FrictionTicket → FrictionTicket}
    (frame : ∀ t : FrictionTicket, t.SamePlace (f t)) : Rests s (s.updateTicket id f frame) :=
  .of_placed rfl rfl (.of_update id f frame rfl)

variable {now : Timestamp} {ticket : FrictionTicket}

theorem rests_unpublish (done : unpublish s ticket now = .ok s') : Rests s s' := by
  obtain ⟨t, -, done⟩ := Except.of_bind done
  split at done
  · cases done
    exact .refl s
  · split at done
    · cases done
      exact .refl s
    · cases done
      exact (rests_retireIncidents s _ now).trans (rests_updateTicket _ t.id _)

theorem rests_enqueueTicketInvestigation (s : TicketStore) (t : FrictionTicket) (generation : Nat)
    (groupID : UUID) (finishingJobID : Option UUID) (jobID : UUID) (now : Timestamp) :
    Rests s (enqueueTicketInvestigation s t generation groupID finishingJobID jobID now).1 := by
  unfold enqueueTicketInvestigation
  dsimp only
  split <;> exact .of_eq rfl rfl rfl

theorem rests_activateGeneration {insightInvestigateUsers : Nat} {groupID jobID : UUID}
    (done : activateGeneration s ticket insightInvestigateUsers groupID jobID now = .ok s') :
    Rests s s' := by
  obtain ⟨t, -, done⟩ := Except.of_bind done
  obtain ⟨-, done⟩ := Except.of_guard done
  obtain ⟨-, done⟩ := Except.of_guard done
  obtain ⟨incidents, -, done⟩ := Except.of_bind done
  have retired : Rests s { retireLiveGeneration s t now with incidents } :=
    (rests_retireIncidents s _ now).trans (.of_eq rfl rfl rfl)
  have published := retired.trans (rests_updateTicket _ t.id
    (f := FrictionTicket.publish (t.liveGeneration + 1)) fun _ => ⟨rfl, rfl, rfl⟩)
  rw [Except.ok.injEq] at done
  rw [← done]
  split
  · exact published.trans (rests_enqueueTicketInvestigation ..)
  · exact published

theorem rests_archiveTicketGroup {projectID groupID : UUID}
    (done : archiveTicketGroup s projectID groupID now = .ok s') : Rests s s' := by
  unfold archiveTicketGroup at done
  split at done
  · cases done
    exact .refl s
  · rename_i g t _
    split at done
    · cases done
      exact .refl s
    · split at done
      · cases done
      · cases done
        exact .of_ended (fun a => a.ticketID = t.id ∧ a.Outstanding) FixAttempt.supersede
          (fun _ => rfl) FixAttempt.ends_supersede rfl rfl
          (.of_update t.id FrictionTicket.archive (fun _ => ⟨rfl, rfl, rfl⟩) rfl)

theorem rests_frictionReconcileAfterDelete (s : TicketStore) (ticketID : UUID) (now : Timestamp) :
    Rests s (frictionReconcileAfterDelete s ticketID now) := by
  unfold frictionReconcileAfterDelete
  split
  · exact .refl s
  · have recount := rests_updateTicket s ticketID (f := FrictionTicket.recount
      (s.evidence.ticketMatches.select fun m => m.ticketID = ticketID).length) fun _ => ⟨rfl, rfl, rfl⟩
    dsimp only
    split
    · exact recount
    · split
      · exact recount
      · rename_i g _
        split
        · exact recount
        · split
          · exact (recount.trans (rests_retireIncidents _ [g.id] now)).trans
              (rests_updateTicket _ ticketID _)
          · exact recount

theorem rests_reconcileAll (s : TicketStore) (ticketIDs : List UUID) (now : Timestamp) :
    Rests s (reconcileAll s ticketIDs now) := by
  induction ticketIDs generalizing s with
  | nil => exact .refl s
  | cons ticketID rest ih =>
    exact (rests_frictionReconcileAfterDelete s ticketID now).trans (ih _)

theorem rests_deleteMarkedSession (s : TicketStore) (sessionID : String) (now : Timestamp) :
    Rests s (deleteMarkedSession s sessionID now) := by
  unfold deleteMarkedSession
  split
  · exact .refl s
  · refine Rests.trans ?_ (rests_reconcileAll _ (ticketsOf s.evidence sessionID) now)
    exact .of_eq rfl rfl rfl

theorem rests_frictionSetSessionIdentity (s : TicketStore) (sessionID : String) (user : Option UUID)
    (now : Timestamp) : Rests s (frictionSetSessionIdentity s sessionID user now) := by
  unfold frictionSetSessionIdentity
  split
  · exact .refl s
  · split
    · exact .refl s
    · refine Rests.trans ?_ (rests_reconcileAll _ (ticketsOf s.evidence sessionID) now)
      exact .of_eq rfl rfl rfl

theorem rests_recordMatch {input : MatchInput} {new : Bool}
    (done : recordMatch s input = .ok (s', new)) : Rests s s' := by
  unfold recordMatch at done
  split at done
  · cases done
  · rename_i t _
    split at done
    · cases done
    · split at done
      · cases done
        exact .of_placed rfl rfl (.of_update t.id (FrictionTicket.count _) (fun _ => ⟨rfl, rfl, rfl⟩) rfl)
      · cases done

theorem rests_foldMatches {target : FrictionTicket} {source : Evidence} {matched : List TicketMatch}
    (done : foldMatches target source s matched = .ok s') : Rests s s' := by
  induction matched generalizing s with
  | nil =>
    cases done
    exact .refl _
  | cons m rest ih =>
    obtain ⟨⟨s₁, new⟩, first, done⟩ := Except.of_bind done
    exact (rests_recordMatch first).trans (ih done)

theorem rests_foldInto {source target : FrictionTicket} {jobID : UUID}
    (done : foldInto s source target jobID now = .ok s') : Rests s s' := by
  obtain ⟨-, done⟩ := Except.of_guard done
  obtain ⟨f, -, done⟩ := Except.of_bind done
  obtain ⟨t, -, done⟩ := Except.of_bind done
  obtain ⟨-, done⟩ := Except.of_guard done
  obtain ⟨-, done⟩ := Except.of_guard done
  obtain ⟨s₁, folded, done⟩ := Except.of_bind done
  obtain ⟨updated, -, done⟩ := Except.of_bind done
  have absorbed := (rests_foldMatches folded).trans (rests_updateTicket s₁ t.id
    (f := FrictionTicket.absorb) fun _ => ⟨rfl, rfl, rfl⟩)
  have merged := absorbed.trans (rests_updateTicket _ f.id
    (f := FrictionTicket.mergeInto t.id) fun _ => ⟨rfl, rfl, rfl⟩)
  rw [Except.ok.injEq] at done
  rw [← done]
  split <;> exact merged.trans (.of_eq rfl rfl rfl)

theorem rests_createTicket {t : FrictionTicket} (done : createTicket s t = .ok s') : Rests s s' := by
  unfold createTicket at done
  split at done
  · cases done
  · rename_i tickets inserted
    cases done
    exact .of_placed rfl rfl fun u row => ⟨u, (Table.mem_insert? inserted).mpr (Or.inr row), .refl u⟩

theorem rests_reserveDecision (s : TicketStore) (signalID : String) (environmentID : UUID)
    (leaseMs : Int) (now : Timestamp) :
    Rests s (reserveDecision s signalID environmentID leaseMs now).1 := by
  unfold reserveDecision
  split
  · exact .refl s
  · split
    · exact .of_eq rfl rfl rfl
    · split <;> exact .of_eq rfl rfl rfl

variable {projectID environmentID : UUID} {decision : MatchDecision}

theorem rests_decideObservation {signalID : String} {ticket : Option (FrictionTicket × DecidedBy)}
    (done : decideObservation s projectID environmentID signalID decision now = .ok (s', ticket)) :
    Rests s s' := by
  obtain ⟨⟨s₁, chosen, outcome⟩, decided, done⟩ := Except.of_bind done
  have first : Rests s s₁ := by
    cases decision with
    | create ticketID kind =>
      obtain ⟨s₂, created, same⟩ := Except.of_bind decided
      cases same
      exact rests_createTicket created
    | known ticketID decidedBy =>
      obtain ⟨t, -, same⟩ := Except.of_bind decided
      cases same
      exact .refl s
    | notAProblem =>
      cases decided
      exact .refl s
  dsimp only [commitDecision] at done
  split at done
  · cases done
    exact first.trans (.of_eq rfl rfl rfl)
  · cases done

theorem rests_matchObservation {sessionID signalID : String} {startedAt : Timestamp}
    {backfill : Bool} {leaseMs : Int}
    (done : matchObservation s projectID environmentID sessionID signalID startedAt backfill decision
      leaseMs now = .ok s') : Rests s s' := by
  obtain ⟨⟨s₁, ticket⟩, observed, done⟩ := Except.of_bind done
  have first : Rests s s₁ := by
    unfold observationTicket at observed
    have reserved := rests_reserveDecision s signalID environmentID leaseMs now
    split at observed
    · rename_i s₂ eq
      rw [eq] at reserved
      exact reserved.trans (rests_decideObservation observed)
    · rename_i s₂ eq
      rw [eq] at reserved
      obtain ⟨_, -, same⟩ := Except.map_eq_ok_iff.mp observed
      cases same
      exact reserved
  dsimp only at done
  split at done
  · cases done
    exact first
  · obtain ⟨⟨s₂, new⟩, matched, same⟩ := Except.of_bind done
    cases same
    exact first.trans (rests_recordMatch matched)

theorem rests_reinvestigate {finishingJobID : Option UUID} {jobID : UUID}
    (done : reinvestigate s ticket finishingJobID jobID now = .ok s') : Rests s s' := by
  obtain ⟨t, -, done⟩ := Except.of_bind done
  split at done
  · cases done
    exact .refl s
  · split at done
    · cases done
      exact .refl s
    · cases done
      exact rests_enqueueTicketInvestigation ..

theorem rests_attemptFailed (s : TicketStore) (jobID projectID : UUID) :
    Rests s (attemptFailed s jobID projectID).1 := by
  have discarded : ∀ batchID, Rests s (discardBatch s batchID) := by
    intro batchID
    unfold discardBatch
    split
    · exact .refl s
    · rename_i b _
      split
      · exact .of_placed rfl rfl (.of_update b.ticketID FrictionTicket.needReconcile
          (fun _ => ⟨rfl, rfl, rfl⟩) rfl)
      · exact .refl s
  have fixed : ∀ s job ticketID current, Rests s (failFix s job ticketID current) := by
    intro s job ticketID current
    unfold failFix
    dsimp only
    split <;> exact .of_ended (Failing job ticketID) (FixAttempt.fail current) (fun _ => rfl)
      (FixAttempt.ends_fail current) rfl rfl (.of_eq rfl)
  have investigated : ∀ s job ticketID, Rests s (failInvestigation s job ticketID) := by
    intro s job ticketID
    unfold failInvestigation
    split
    · exact .refl s
    · split
      · exact .refl s
      · split
        · exact .of_placed rfl rfl (.of_update ticketID FrictionTicket.needReinvestigate
            (fun _ => ⟨rfl, rfl, rfl⟩) rfl)
        · exact .refl s
  apply attemptFailed_keeps (.refl s)
  · exact fun _ batchID _ _ => discarded batchID
  · exact fun _ _ _ _ kept => kept.trans (fixed ..)
  · exact fun _ _ _ kept => kept.trans (investigated ..)

/-- Requests for fixes, reservations and pull-request events. -/
def Action.Fixes : Action → Prop
  | .requestTicketFix .. | .requestFix .. | .applyPrEvent .. | .assertFixAttemptCurrent ..
  | .recordAttemptPr .. | .processTicketPRWebhook .. | .processPrEventJob .. => True
  | _ => False

theorem rests_committed {ε : Type} {r : Except ε TicketStore}
    (rests : ∀ s', r = .ok s' → Rests s s') : Rests s (Transition.committed s r) := by
  cases r with
  | ok s' => exact rests s' rfl
  | error _ => exact .refl s

theorem rests_step (s : TicketStore) {a : Action} (other : ¬a.Fixes) : Rests s (step s a) := by
  cases a with
  | setAutonomy | endUser | session | signal | investigate | snapshotJob => exact .of_eq rfl rfl rfl
  | deleteMarkedSession sessionID now => exact rests_deleteMarkedSession s sessionID now
  | frictionSetSessionIdentity sessionID user now =>
    exact rests_frictionSetSessionIdentity s sessionID user now
  | confirm ticketID note checks attempts batches =>
    exact .of_placed rfl rfl (.of_update ticketID (FrictionTicket.note note) (fun _ => ⟨rfl, rfl, rfl⟩)
      rfl)
  | recountTicket ticketID =>
    exact rests_updateTicket s ticketID (f := FrictionTicket.setMatchedCount _)
      fun _ => ⟨rfl, rfl, rfl⟩
  | reinvestigate => exact rests_committed fun _ done => rests_reinvestigate done
  | matchObservation => exact rests_committed fun _ done => rests_matchObservation done
  | recordMatch input =>
    refine rests_committed fun s' done => ?_
    obtain ⟨⟨s₁, new⟩, matched, rfl⟩ := Except.map_eq_ok_iff.mp done
    exact rests_recordMatch matched
  | foldInto => exact rests_committed fun _ done => rests_foldInto done
  | activateGeneration => exact rests_committed fun _ done => rests_activateGeneration done
  | unpublish => exact rests_committed fun _ done => rests_unpublish done
  | archiveTicketGroup => exact rests_committed fun _ done => rests_archiveTicketGroup done
  | frictionReconcileAfterDelete ticketID now => exact rests_frictionReconcileAfterDelete s ticketID now
  | attemptFailed jobID projectID => exact rests_attemptFailed s jobID projectID
  | enqueue j =>
    dsimp only [step]
    split
    · exact .refl s
    · exact .of_eq rfl rfl rfl
  | queue action =>
    dsimp only [step]
    split
    · exact .of_eq rfl rfl rfl
    · exact .refl s
  | requestTicketFix | requestFix | applyPrEvent | assertFixAttemptCurrent | recordAttemptPr
  | processTicketPRWebhook | processPrEventJob => exact absurd trivial other

/-- A request that was admitted adds an attempt. -/
structure Admits (s s' : TicketStore) (a : FixAttempt) : Prop where
  inserted : s.attempts.insert? a = some s'.attempts
  ticket : ∃ t ∈ s.tickets.rows, t.id = a.ticketID
  active : a.status = .active
  unreserved : a.deliveryReservedAt = none
  unnumbered : a.prNumber = none
  facts : s'.prEvents = s.prEvents
  tickets : s'.tickets = s.tickets

variable {attemptID jobID : UUID}

theorem requestTicketFix_admits {projectID groupID : UUID} {guidance : String}
    {expected : Option TicketFixExpectation} {now clock : Timestamp}
    (done : requestTicketFix s projectID groupID guidance expected attemptID jobID now clock = .ok s') :
    ∃ a, Admits s s' a := by
  obtain ⟨g, t, attempts, jobs, found, -, -, -, -, inserted, -, rfl⟩ := requestTicketFix_effect done
  obtain ⟨-, ticket, -⟩ := TicketStore.getIncident_eq_some_iff.mp found
  exact ⟨_, inserted, ⟨t, Table.mem_of_find? ticket, rfl⟩, rfl, rfl, rfl, rfl, rfl⟩

theorem requestFix_admits {projectID ticketID : UUID} {generation : Nat}
    {requestedBy : Jobs.RequestedBy} {guidance : Option String} {maxOpenFixPrs : Nat}
    {r : FixRequest}
    (done : requestFix s projectID ticketID generation requestedBy guidance maxOpenFixPrs attemptID jobID
      now = .ok (s', r)) : s' = s ∨ ∃ a, Admits s s' a := by
  rcases requestFix_cases done with ⟨same, -⟩ | ⟨-, g, t, attempts, found, ticket, -, -, -, -, -, -,
    inserted, rfl⟩
  · exact Or.inl same
  · obtain ⟨-, row, -⟩ := TicketStore.getIncident_eq_some_iff.mp found
    have own : t.id = ticketID := (Table.key_of_find? row).trans ticket
    exact Or.inr ⟨_, inserted, ⟨t, Table.mem_of_find? row, own⟩, rfl, rfl, rfl, rfl, rfl⟩

variable {job : Job}

theorem jobAttempt_spec {a : FixAttempt} (found : jobAttempt s job = some a) :
    job.fixAttemptID = some a.id ∧ a ∈ s.attempts.rows ∧ job.ticketID = some a.ticketID := by
  obtain ⟨attemptID, own, found⟩ := Option.bind_eq_some_iff.mp found
  obtain ⟨b, row, found⟩ := Option.bind_eq_some_iff.mp found
  obtain ⟨groupID, -, found⟩ := Option.bind_eq_some_iff.mp found
  obtain ⟨⟨g, t⟩, -, found⟩ := Option.bind_eq_some_iff.mp found
  obtain ⟨⟨ticket, -⟩, same⟩ := Option.ite_none_right_eq_some.mp found
  cases same
  refine ⟨?_, Table.mem_of_find? row, ticket.symm⟩
  rw [own, Table.key_of_find? row]

variable {now clock clock' : Timestamp}

theorem assertFixAttemptCurrent_effect {delivery : Bool} {maxOpenFixPrs : Nat}
    (done : assertFixAttemptCurrent s job delivery maxOpenFixPrs now clock clock' = .ok s') :
    ∃ a ∈ s.attempts.rows, job.fixAttemptID = some a.id ∧ a.status = .active ∧
      (s.getTicket job.projectID a.ticketID).isSome ∧
      ((s' = s ∧ (delivery = true → a.requestedBy = .auto → a.deliveryReservedAt.isSome)) ∨
        (countAttempts s job.projectID (fun a => TakesSlot a) < maxOpenFixPrs ∧
          s' = s.updateAttempt a.id (FixAttempt.reserve now) fun _ => rfl)) := by
  unfold assertFixAttemptCurrent at done
  split at done
  · cases done
  · split at done
    · rename_i t a ticket attempt
      obtain ⟨current, done⟩ := Except.of_guard done
      obtain ⟨s₁, reserved, done⟩ := Except.of_bind done
      obtain ⟨-, same⟩ := Except.of_guard done
      cases same
      simp only [not_or, not_not] at current
      obtain ⟨own, row, ticketID⟩ := jobAttempt_spec attempt
      refine ⟨a, row, own, current.2.2.2, ?_, ?_⟩
      · rw [ticketID, Option.bind_some] at ticket
        simp [ticket]
      · split at reserved
        · unfold reserveSlot at reserved
          obtain ⟨-, reserved⟩ := Except.of_guard reserved
          split at reserved
          · rename_i taken
            cases reserved
            exact Or.inl ⟨rfl, fun _ _ => taken⟩
          · obtain ⟨room, same⟩ := Except.of_guard reserved
            cases same
            exact Or.inr ⟨Nat.lt_of_not_le room, rfl⟩
        · rename_i other
          cases reserved
          exact Or.inl ⟨rfl, fun delivers auto => absurd ⟨delivers, auto⟩ other⟩
    · cases done

variable {factID : UUID}

variable {e : PrEvent}

theorem recordFact_cases {prEvents : Table PrEventFact.key} {fact : PrEventFact}
    (recorded : recordFact s e factID = .ok (prEvents, fact)) :
    (s.prEvents.find? e.deliveryID = some fact ∧ prEvents = s.prEvents) ∨
      (s.prEvents.find? e.deliveryID = none ∧ fact = ⟨e, factID, false, none⟩ ∧
        s.prEvents.insert? fact = some prEvents ∧ ∀ f ∈ s.prEvents.rows, f.id ≠ factID) := by
  unfold recordFact at recorded
  split at recorded
  · rename_i known found
    cases recorded
    exact Or.inl ⟨found, rfl⟩
  · rename_i absent
    obtain ⟨-, recorded⟩ := Except.of_guard recorded
    obtain ⟨free, recorded⟩ := Except.of_guard recorded
    obtain ⟨inserted, added, same⟩ := Except.of_bind recorded
    rw [Option.orError_eq_ok_iff] at added
    cases same
    refine Or.inr ⟨absent, rfl, added, ?_⟩
    simpa [Table.any] using free

variable {applied : Bool}

theorem applyPrEvent_effect (done : applyPrEvent s projectID e factID now = .ok (s', applied)) :
    (s' = s ∧ applied = false ∧ (s.getTicket projectID e.ticketID = none ∨
        ∃ fact, s.prEvents.find? e.deliveryID = some fact ∧ fact.processedAt.isSome)) ∨
      ∃ t prEvents fact, s.getTicket projectID e.ticketID = some t ∧
        recordFact s e factID = .ok (prEvents, fact) ∧ fact.processedAt = none ∧
        s'.prEvents = prEvents.updateWhere (fun f => f.id = fact.id) (PrEventFact.process applied now)
          (fun _ => rfl) ∧
        applied = (eventState s projectID e).any (fun (g, a) => fixEventCurrent t g a e) ∧
        s'.incidents = (if applied then s.incidents.updateWhere (fun g => g.id = e.errorGroupID)
          (Incident.applyEvent e) (fun _ => ⟨rfl, rfl, rfl⟩) else s.incidents) ∧
        s'.attempts = (if applied then
            s.attempts.updateKey e.attemptID (FixAttempt.applyEvent e) (fun _ => rfl)
          else if e.event = .orphan ∧ (eventState s projectID e).any (fun (g, a) => lineageRetired t g a)
          then s.attempts.updateKey e.attemptID (FixAttempt.orphan e) (fun _ => rfl)
          else s.attempts) ∧ Placed s s' := by
  unfold applyPrEvent at done
  split at done
  · rename_i absent
    cases done
    exact Or.inl ⟨rfl, rfl, Or.inl absent⟩
  · rename_i t ticket
    obtain ⟨⟨prEvents, fact⟩, recorded, done⟩ := Except.of_bind done
    dsimp only at done
    split at done
    · rename_i processed
      cases done
      rcases recordFact_cases recorded with ⟨known, rfl⟩ | ⟨-, rfl, -⟩
      · exact Or.inl ⟨rfl, rfl, Or.inr ⟨fact, known, processed⟩⟩
      · cases processed
    · rename_i fresh
      cases done
      refine Or.inr ⟨t, prEvents, fact, ticket, recorded, by simpa using fresh, ?_⟩
      have placed : Placed s (applyCurrent { s with prEvents } e) := by
        unfold applyCurrent
        dsimp only
        split
        · exact .of_update e.ticketID (FrictionTicket.fix e.occurredAt) (fun _ => ⟨rfl, rfl, rfl⟩) rfl
        · exact .of_eq rfl
      have written : (applyCurrent { s with prEvents } e).prEvents = prEvents ∧
          (applyCurrent { s with prEvents } e).incidents = s.incidents.updateWhere
            (fun g => g.id = e.errorGroupID) (Incident.applyEvent e) (fun _ => ⟨rfl, rfl, rfl⟩) ∧
          (applyCurrent { s with prEvents } e).attempts =
            s.attempts.updateKey e.attemptID (FixAttempt.applyEvent e) (fun _ => rfl) := by
        unfold applyCurrent
        dsimp only
        split <;> exact ⟨rfl, rfl, rfl⟩
      have state : eventState { s with prEvents } projectID e = eventState s projectID e := rfl
      rw [state]
      split
      · rename_i current
        simp only [current, written, true_and]
        exact placed
      · rename_i stale
        simp only [Bool.not_eq_true] at stale
        simp only [stale]
        split
        · exact ⟨rfl, trivial, rfl, rfl, .of_eq rfl⟩
        · exact ⟨rfl, trivial, rfl, rfl, .of_eq rfl⟩

theorem applyPrEvent_unprocessed (done : applyPrEvent s projectID e factID now = .ok (s', applied))
    {f : PrEventFact} (member : f ∈ s'.prEvents.rows) (waiting : f.processedAt = none) :
    f ∈ s.prEvents.rows := by
  rcases applyPrEvent_effect done with ⟨rfl, -⟩ | ⟨t, prEvents, fact, -, recorded, -, written, -⟩
  · exact member
  · rw [written] at member
    obtain ⟨old, row, rfl⟩ := (Table.mem_updateWhere prEvents (fun f => f.id = fact.id)
      (PrEventFact.process applied now) (fun _ => rfl) f).mp member
    by_cases own : old.id = fact.id
    · rw [if_pos (decide_eq_true own)] at waiting
      cases waiting
    · rw [if_neg (by simpa using own)]
      rcases recordFact_cases recorded with ⟨-, rfl⟩ | ⟨-, -, inserted, -⟩
      · exact row
      · rcases (Table.mem_insert? inserted).mp row with rfl | known
        · exact absurd rfl own
        · exact known

theorem processTicketPRWebhook_effect {w : TicketPRWebhook} {factID jobID : UUID}
    {r : PRWebhookResult} (done : processTicketPRWebhook s w factID jobID now = .ok (s', r)) :
    s' = s ∨ ∃ a, attemptOf s w.repository w.number = some a ∧
      s.prEvents.insert? ⟨webhookFact w a, factID, false, none⟩ = some s'.prEvents ∧
      (∀ f ∈ s.prEvents.rows, f.id ≠ factID) ∧ s'.attempts = s.attempts ∧ s'.tickets = s.tickets := by
  unfold processTicketPRWebhook at done
  obtain ⟨-, done⟩ := Except.of_guard done
  split at done
  · cases done
    exact Or.inl rfl
  · split at done
    · cases done
      exact Or.inl rfl
    · rename_i a found
      obtain ⟨g, -, done⟩ := Except.of_bind done
      obtain ⟨t, -, done⟩ := Except.of_bind done
      obtain ⟨-, done⟩ := Except.of_guard done
      obtain ⟨free, done⟩ := Except.of_guard done
      obtain ⟨prEvents, inserted, done⟩ := Except.of_bind done
      obtain ⟨jobs, -, same⟩ := Except.of_bind done
      rw [Option.orError_eq_ok_iff] at inserted
      cases same
      exact Or.inr ⟨a, found, inserted, by simpa [Table.any] using free, rfl, rfl⟩

theorem attemptOf_spec {repository : String} {number : Nat} {a : FixAttempt}
    (found : attemptOf s repository number = some a) :
    a ∈ s.attempts.rows ∧ a.githubRepo = some repository ∧ a.prNumber = some number := by
  have member := (Latest.latest_spec found).1
  simp only [Table.select, List.mem_filter, decide_eq_true_eq] at member
  exact ⟨member.1, member.2.1, member.2.2.1⟩

theorem processPrEventJob_effect (done : processPrEventJob s job factID now clock clock' = .ok s') :
    s' = s ∨ ∃ f ∈ s.prEvents.rows, ∃ applied,
      applyPrEvent s job.projectID f.toPrEvent factID now = .ok (s', applied) := by
  unfold processPrEventJob at done
  split at done
  · cases done
  · rename_i id _
    obtain ⟨-, done⟩ := Except.of_guard done
    obtain ⟨s₁, applied, done⟩ := Except.of_bind done
    obtain ⟨-, same⟩ := Except.of_guard done
    cases same
    split at applied
    · cases applied
      exact Or.inl rfl
    · rename_i f found
      obtain ⟨⟨s₂, r⟩, event, rfl⟩ := Except.map_eq_ok_iff.mp applied
      exact Or.inr ⟨f, List.mem_of_find?_eq_some found, r, event⟩

theorem recordAttemptPr_effect {repo url : String} {number : Nat}
    {occurredAt now clock clock' : Timestamp}
    (done : recordAttemptPr s job repo url number factID occurredAt now clock clock' =
      .ok (s', applied)) :
    ∃ ticketID generation attemptID groupID s₁, job.ticketID = some ticketID ∧
      job.publicationGeneration = some generation ∧ job.fixAttemptID = some attemptID ∧
      job.errorGroupID = some groupID ∧
      applyPrEvent s job.projectID (recordedEvent job ticketID groupID attemptID generation
        (if Owned s job clock ∧ attemptCurrent s job ∧ Owned s job clock' then .opened else .orphan)
        repo url number occurredAt) factID now = .ok (s₁, applied) ∧
      s'.attempts = s₁.attempts ∧ s'.prEvents = s₁.prEvents ∧ s'.tickets = s₁.tickets := by
  unfold recordAttemptPr at done
  split at done
  · rename_i ticketID generation attemptID groupID ticket generation' attempt group
    obtain ⟨⟨s₁, applied₁⟩, event, done⟩ := Except.of_bind done
    refine ⟨ticketID, generation, attemptID, groupID, s₁, ticket, generation', attempt, group, ?_⟩
    dsimp only at done
    split at done
    · rename_i yes
      cases done
      rw [yes] at event
      exact ⟨event, rfl, rfl, rfl⟩
    · rename_i no
      cases done
      simp only [Bool.not_eq_true] at no
      rw [no] at event
      exact ⟨event, rfl, rfl, rfl⟩
  · cases done

end Opslane.Tickets
