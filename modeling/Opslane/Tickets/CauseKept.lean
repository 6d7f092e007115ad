import Opslane.Tickets.InvestigationResults

/-!
# Causes under a fix

A fix is admitted on a finished investigation, and no result is applied while its pull request
is awaited: whatever was begun before has finished. What rewrites the cause of a fix is an
execution that begins after it: neither the refresh that queues an investigation nor its
beginning looks at the fix.
-/

namespace Opslane.Tickets.Investigations

open Jobs (Job JobTable)
open Transition (Machine)

variable {g : Incident}

variable {s : TicketStore}

theorem state_of_found (member : g ∈ s.incidents.table.rows) :
    s.lineage.incidents g.id = some g.state := by
  simp [TicketStore.lineage, s.incidents.table.find?_key member]

theorem sound_congr {s s' : TicketStore} (sound : Sound s) (same : s'.lineage = s.lineage)
    (follows : Follows s s') : Sound s' :=
  (sound.same same follows).sound

/-- The incident of every execution that began is on the ticket of its job. -/
def Placed (s : InvestigationStore) : Prop :=
  ∀ b ∈ s.begun, ∃ g ∈ s.store.incidents.table.rows,
    g.id = b.job.errorGroupID ∧ g.ticketID = b.job.ticketID

theorem sound_beginInvestigation {s s' : InvestigationStore} {job : TicketInvestigateJob}
    {now clock : Timestamp} (sound : Sound s.store)
    (done : beginInvestigation s job now clock = .ok s') : Sound s'.store := by
  obtain ⟨-, done⟩ := Except.of_guard done
  split at done
  · cases done
    exact sound
  · rename_i t g found
    obtain ⟨-, -, -, member, accepts⟩ := toInvestigate_spec found
    cases done
    refine (sound.same ?_ (.of_advanced (Jobs.advanced_updateWhere s.store.jobs (fun j => j.id = job.id)
      (snapshot _ _) (fun _ => rfl) fun j _ _ => ⟨snapshot_sameWork _ _ j, fun active => active⟩))).sound
    refine lineage_updateIncidents s.store (fun h => h.id = g.id) (f := Incident.beginInvestigation)
      (fun _ => ⟨rfl, rfl, rfl⟩) fun h row own => ?_
    obtain rfl : h = g := incident_inj row member (of_decide_eq_true own)
    have open_ := accepts.2.2.2.1
    simp only [Incident.beginInvestigation, Incident.state, IncidentState.mk.injEq, true_and, and_true]
    split <;> simp_all

variable {t : FrictionTicket} {b : InvestigationSnapshot}

theorem lineage_concluded {done : Option FrictionVerdict} {needed : Bool}
    (member : g ∈ s.incidents.table.rows) (open_ : g.status ≠ .archived) :
    (concluded s t g b done needed).lineage = s.lineage := by
  refine (lineage_updateTicket _ t.id (f := FrictionTicket.setReinvestigate needed)
    (fun _ => ⟨rfl, rfl, rfl⟩) fun _ => rfl).trans ?_
  refine lineage_updateIncidents s (fun h => h.id = g.id) (f := Incident.conclude b done)
    (fun _ => ⟨rfl, rfl, rfl⟩) fun h row own => ?_
  obtain rfl : h = g := incident_inj row member (of_decide_eq_true own)
  simp only [Incident.conclude, Incident.state, IncidentState.mk.injEq, true_and, and_true]
  split <;> simp_all

variable {i : IncidentState}

theorem reaches_queueSuccessor (sound : Sound s)
    (found : s.lineage.incidents b.job.errorGroupID = some i) (own : i.ticketID = t.id)
    (live : i.archived = false) (successorID : UUID) (now : Timestamp) :
    Reaches s (queueSuccessor s t b successorID now) := by
  have queued := reaches_enqueueTicketInvestigation sound t.liveGeneration found own live
    (some b.job.id) successorID now
  unfold queueSuccessor
  split <;> rename_i eq <;> rw [eq] at queued
  · exact queued
  · refine queued.trans (queued.sound.same ?_ (.of_eq rfl))
    refine (lineage_updateIncidents _ (fun g => g.id = b.job.errorGroupID)
      (f := Incident.awaitInvestigation) (fun _ => ⟨rfl, rfl, rfl⟩) fun _ _ _ => rfl).trans ?_
    exact lineage_updateTicket _ t.id (f := FrictionTicket.setReinvestigate false)
      (fun _ => ⟨rfl, rfl, rfl⟩) fun _ => rfl

theorem sound_applyResult (sound : Sound s) (member : g ∈ s.incidents.table.rows)
    (own : g.id = b.job.errorGroupID) (ticket : g.ticketID = t.id) (open_ : g.status ≠ .archived)
    (result : InvestigationOutcome) (insightUsers : Nat) (decisionID successorID : UUID)
    (now : Timestamp) :
    Sound (applyResult s t g b result insightUsers decisionID successorID now) := by
  have before : ∀ needed, Reaches s (concluded s t g b (doneVerdict b result) needed) :=
    fun needed => sound.same (lineage_concluded member open_) (.of_eq rfl)
  obtain ⟨needed, decisions, same | same⟩ :=
    applyResult_cases s t g b result insightUsers decisionID successorID now
  · rw [same]
    exact sound_congr (before needed).sound rfl (.of_eq rfl)
  · rw [same]
    have found : (concluded s t g b (doneVerdict b result) needed).lineage.incidents
        b.job.errorGroupID = some g.state := by
      rw [lineage_concluded member open_, ← own]
      exact state_of_found member
    have after := reaches_queueSuccessor (before needed).sound found ticket (decide_eq_false open_)
      successorID now
    exact sound_congr after.sound rfl (.of_eq rfl)

variable {result : InvestigationOutcome} {now : Timestamp}

theorem sound_finishJob {s s' : InvestigationStore} {insightUsers : Nat}
    {decisionID successorID : UUID} {clocks : FinishClocks} (sound : Sound s.store)
    (placed : Placed s) (begun : b ∈ s.begun)
    (done : Tickets.finishJob s b result insightUsers decisionID successorID now clocks = .ok s') :
    Sound s'.store := by
  obtain ⟨s₁, finished, done⟩ := Except.of_bind done
  have sound₁ : Sound s₁.store := by
    unfold finishInvestigation at finished
    split at finished
    · cases finished
      exact sound
    · rename_i t ticket
      split at finished
      · cases finished
        exact sound
      · split at finished
        · cases finished
          exact sound
        · rename_i g found
          obtain ⟨member, own, -, open_, -⟩ := appliesTo_spec found
          obtain ⟨h, row, id, onTicket⟩ := placed b begun
          obtain rfl : h = g := incident_inj row member (id.trans own.symm)
          have same : t.id = b.job.ticketID :=
            Table.key_of_find? (TicketStore.getTicket_eq_some_iff.mp ticket).1
          dsimp only at finished
          split at finished
          · cases finished
            exact sound_applyResult sound member own (onTicket.trans same.symm) open_ ..
          · cases finished
  cases done
  have advanced := Jobs.advanced_updateWhere s₁.store.jobs (fun j => j.Owned b.job.id b.job.workerID
    b.job.leaseGeneration clocks.complete) completed (fun _ => rfl) fun j _ owned =>
      ⟨completed_sameWork j, fun _ => Or.inr (of_decide_eq_true owned).2.2.2.1⟩
  exact sound_congr sound₁ rfl (.of_advanced advanced)

/-- The store is sound and its lineages are these. -/
structure Still (l : Lineage) (s : TicketStore) : Prop where
  sound : Sound s
  lineage : s.lineage = l

namespace Still

variable {l : Lineage} {s : TicketStore}

theorem updateTicket (still : Still l s) (id : UUID) {f : FrictionTicket → FrictionTicket}
    (frame : ∀ t : FrictionTicket, t.SamePlace (f t)) (same : ∀ t, (f t).state = t.state) :
    Still l (s.updateTicket id f frame) where
  sound := sound_congr still.sound (lineage_updateTicket s id frame same) (.of_eq rfl)
  lineage := (lineage_updateTicket s id frame same).trans still.lineage

theorem enqueue (still : Still l s) {groupID : UUID} (found : l.incidents groupID = some i)
    (own : i.ticketID = t.id) (live : i.archived = false) (finishingJobID : Option UUID)
    (jobID : UUID) (now : Timestamp) :
    Still l (enqueueTicketInvestigation s t t.liveGeneration groupID finishingJobID jobID now).1 where
  sound := (reaches_enqueueTicketInvestigation still.sound t.liveGeneration (still.lineage ▸ found) own
    live finishingJobID jobID now).sound
  lineage := (lineage_enqueueTicketInvestigation ..).trans still.lineage

theorem enqueueAgain (still : Still l s) {groupID : UUID} (found : l.incidents groupID = some i)
    (own : i.ticketID = t.id) (live : i.archived = false) (jobID : UUID) (now : Timestamp) :
    Still l
      (match enqueueTicketInvestigation s t t.liveGeneration groupID none jobID now with
      | (s, false) => s
      | (s, true) =>
        s.updateTicket t.id (FrictionTicket.setReinvestigate false) fun _ => ⟨rfl, rfl, rfl⟩) := by
  have queued := still.enqueue found own live none jobID now
  split <;> rename_i eq <;> rw [eq] at queued
  · exact queued
  · exact queued.updateTicket t.id (f := FrictionTicket.setReinvestigate false) _ fun _ => rfl

end Still

theorem sound_refresh (sound : Sound s) (live : liveIncident s t = some g) (insightUsers : Nat)
    (jobID firstJobID : UUID) (now : Timestamp) :
    Sound (refresh s t g insightUsers jobID firstJobID now) := by
  have selected := List.find?_some live
  obtain ⟨own, -, open_⟩ := of_decide_eq_true selected
  have found := state_of_found (List.mem_of_find?_eq_some live)
  have shown : g.state.archived = false := decide_eq_false open_
  have same : TicketStore.lineage (s.updateIncident g.id
      (Incident.count (verifiedEvidence s.evidence t none now)) fun _ => ⟨rfl, rfl, rfl⟩) =
      s.lineage :=
    lineage_updateIncidents s (fun h => h.id = g.id)
      (f := Incident.count (verifiedEvidence s.evidence t none now)) (fun _ => ⟨rfl, rfl, rfl⟩)
      fun _ _ _ => rfl
  have counted : Still s.lineage (s.updateIncident g.id
      (Incident.count (verifiedEvidence s.evidence t none now)) fun _ => ⟨rfl, rfl, rfl⟩) :=
    ⟨sound_congr sound same (.of_eq rfl), same⟩
  have reconciled : ∀ s', Still s.lineage s' → Sound (s'.updateTicket t.id FrictionTicket.reconciled
      fun _ => ⟨rfl, rfl, rfl⟩) :=
    fun s' still =>
      (still.updateTicket t.id (f := FrictionTicket.reconciled) _ fun _ => rfl).sound
  unfold refresh
  dsimp only
  refine reconciled _ ?_
  split
  · refine Still.enqueue ?_ found own shown none firstJobID now
    split
    · exact counted.enqueueAgain found own shown jobID now
    · exact counted
  · split
    · exact counted.enqueueAgain found own shown jobID now
    · exact counted

theorem sound_refreshTicket (sound : Sound s) (ticketID : UUID) (insightUsers : Nat)
    (jobID firstJobID : UUID) (now : Timestamp) :
    Sound (Tickets.refreshTicket s ticketID insightUsers jobID firstJobID now) := by
  unfold Tickets.refreshTicket
  split
  · exact sound
  · split
    · exact sound
    · rename_i g live
      split
      · exact sound_refresh sound live insightUsers jobID firstJobID now
      · exact sound

/-- Re-runs of dead letters are no operation on a ticket. -/
def Named : Action → Prop
  | .requeueDeadLetters .. => False
  | _ => True

instance (a : Action) : Decidable (Named a) := by
  cases a <;> unfold Named <;> infer_instance

theorem sound_step {s : InvestigationStore} (sound : Sound s.store) (placed : Placed s) {a : Action}
    (named : Named a) : Sound (step s a).store := by
  cases a with
  | ticket a =>
    dsimp only [step]
    split
    · exact sound
    · exact (reaches_step sound a).sound
  | beginInvestigation jobID workerID leaseGeneration now clock =>
    dsimp only [step]
    split
    · exact sound
    · rename_i job _
      cases done : Tickets.beginInvestigation s job now clock with
      | error => exact sound
      | ok s' => exact sound_beginInvestigation sound done
  | finishJob b result insightUsers decisionID successorID now clocks =>
    dsimp only [step]
    split
    · rename_i begun
      cases done : Tickets.finishJob s b result insightUsers decisionID successorID now clocks with
      | error => exact sound
      | ok s' => exact sound_finishJob sound placed begun done
    · exact sound
  | refreshTicket => exact sound_refreshTicket sound ..
  | investigationFailed jobID projectID reason => exact (reaches_attemptFailed sound ..).sound
  | requeueDeadLetters => exact absurd named id

/-- What a run keeps while nothing begins under a fix: a fix in flight stands on a finished
investigation. -/
structure Grounded (s : InvestigationStore) : Prop where
  ordered : Ordered s
  sound : Sound s.store
  placed : Placed s
  finished : ∀ g ∈ s.store.incidents.table.rows, InFlight g → g.investigationStatus = some .done

theorem grounded_empty : Grounded .empty where
  ordered := ordered_empty
  sound := sound_empty
  placed := by simp [Placed, InvestigationStore.empty]
  finished := by simp [InvestigationStore.empty, TicketStore.empty, IncidentTable.empty, Table.empty]

theorem placed_step {s : InvestigationStore} (placed : Placed s) (a : Action) :
    Placed (step s a) := by
  cases effect_step s a with
  | begins b g _ begins =>
    have kept : ∀ h ∈ s.store.incidents.table.rows, ∃ h' ∈ (step s a).store.incidents.table.rows,
        h'.id = h.id ∧ h'.ticketID = h.ticketID := by
      intro h row
      rw [begins.incidents]
      refine ⟨_, (Table.mem_updateWhere s.store.incidents.table (fun h => h.id = g.id)
        Incident.beginInvestigation (fun _ => rfl) _).mpr ⟨h, row, rfl⟩, ?_⟩
      split <;> exact ⟨rfl, rfl⟩
    intro c member
    rcases List.mem_cons.mp (begins.begun ▸ member : c ∈ b :: s.begun) with rfl | old
    · obtain ⟨g', row, id, ticket⟩ := kept g begins.member
      exact ⟨g', row, id.trans begins.accepts.1, ticket.trans begins.accepts.2.1⟩
    · obtain ⟨h, row, id, ticket⟩ := placed c old
      obtain ⟨h', row', id', ticket'⟩ := kept h row
      exact ⟨h', row', id'.trans id, ticket'.trans ticket⟩
  | applies b result g clock _ applies =>
    intro c member
    obtain ⟨h, row, id, ticket⟩ := placed c (applies.begun' ▸ member)
    obtain ⟨F, rows, shape⟩ := applies.concluded
    have same : (h.SameKey (F h)) := by
      by_cases own : h.id = g.id
      · exact ((shape h).2 own).same.1
      · rw [(shape h).1 own]
        exact ⟨rfl, rfl, rfl⟩
    exact ⟨F h, rows ▸ List.mem_map_of_mem row, same.1.trans id, same.2.1.trans ticket⟩
  | rests rests =>
    intro c member
    obtain ⟨h, row, id, ticket⟩ := placed c (rests.begun ▸ member)
    obtain ⟨h', row', spared⟩ := rests.store.kept h row
    exact ⟨h', row', spared.key.1.trans id, spared.key.2.1.trans ticket⟩

/-- No execution begins on an incident while its fix is made or its pull request is open. -/
def KeepsCauses (s : InvestigationStore) (a : Action) : Prop :=
  Named a ∧ ∀ g ∈ beginsOn s a, ¬InFlight g
  deriving Decidable

/-- The cause a fix is made for, and that it is there. -/
def SameCause (g g' : Incident) : Prop :=
  g'.rootCause = g.rootCause ∧ g'.explainedSignalIDs = g.explainedSignalIDs ∧
    g'.investigationStatus = g.investigationStatus

theorem SameCause.trans {g g' g'' : Incident} (first : SameCause g g') (second : SameCause g' g'') :
    SameCause g g'' :=
  ⟨second.1.trans first.1, second.2.1.trans first.2.1, second.2.2.trans first.2.2⟩

theorem flies_of_attempt (sound : Sound s) (attempt : HasAttempt s g.id) :
    ∃ h ∈ s.incidents.table.rows, h.id = g.id ∧ InFlight h := by
  obtain ⟨a, row, own, outstanding⟩ := attempt
  obtain ⟨h, member, id, -, -, -, substate⟩ := outstanding_incident sound row outstanding
  refine ⟨h, member, id.trans own, ?_⟩
  rcases outstanding with active | opened
  · exact Or.inl (by rw [substate, active]; rfl)
  · exact Or.inr (by rw [substate, opened]; rfl)

theorem not_applies_inFlight {s s' : InvestigationStore} (grounded : Grounded s) {clock : Timestamp}
    (applies : Applies s s' b result g clock) :
    ¬InFlight g := by
  intro flying
  obtain ⟨r, -, -, -, newest, current, -⟩ :=
    grounded.ordered.done g applies.member (grounded.finished g applies.member flying)
  obtain ⟨-, h, row, id, past⟩ := grounded.ordered.begun b applies.begun
  obtain rfl : h = g := incident_inj row applies.member (id.trans applies.incident.symm)
  have above := applies.newest.2
  omega

theorem Grounded.origin {s : InvestigationStore} (grounded : Grounded s) {a : Action}
    (keeps : KeepsCauses s a) {g' : Incident}
    (member : g' ∈ (step s a).store.incidents.table.rows) (flying : InFlight g') :
    ∃ g ∈ s.store.incidents.table.rows, g'.id = g.id ∧ g.investigationStatus = some .done ∧
      SameCause g g' := by
  cases effect_step s a with
  | begins b g chosen begins =>
    rw [begins.incidents] at member
    obtain ⟨h, row, rfl⟩ := (Table.mem_updateWhere s.store.incidents.table (fun h => h.id = g.id)
      Incident.beginInvestigation (fun _ => rfl) _).mp member
    split at flying
    · rename_i own
      obtain rfl : h = g := incident_inj row begins.member (of_decide_eq_true own)
      exact absurd flying (keeps.2 h chosen)
    · rename_i other
      rw [if_neg other]
      exact ⟨h, row, rfl, grounded.finished h row flying, rfl, rfl, rfl⟩
  | applies b result g clock _ applies =>
    obtain ⟨F, rows, shape⟩ := applies.concluded
    rw [rows] at member
    obtain ⟨h, row, rfl⟩ := List.mem_map.mp member
    by_cases own : h.id = g.id
    · obtain rfl : h = g := incident_inj row applies.member own
      have before : InFlight h := by
        rw [InFlight, ← ((shape h).2 own).same.2.2]
        exact flying
      exact absurd before (not_applies_inFlight grounded applies)
    · rw [(shape h).1 own] at flying ⊢
      exact ⟨h, row, rfl, grounded.finished h row flying, rfl, rfl, rfl⟩
  | rests rests =>
    have spared : ∀ g ∈ s.store.incidents.table.rows, g.Spared (HasAttempt s.store) g' →
        ∃ g ∈ s.store.incidents.table.rows, g'.id = g.id ∧ g.investigationStatus = some .done ∧
          SameCause g g' := by
      intro g row spared
      have done : g.investigationStatus = some .done := by
        rcases spared.flight flying with before | done | attempt
        · exact grounded.finished g row before
        · exact done
        · obtain ⟨h, row', id, before⟩ := flies_of_attempt grounded.sound attempt
          obtain rfl : h = g := incident_inj row' row id
          exact grounded.finished h row' before
      exact ⟨g, row, spared.key.1, done, spared.cause, spared.explained,
        (spared.done done).trans done.symm⟩
    rcases rests.store.origin g' member with ⟨g, row, same⟩ | ⟨-, attempt⟩
    · exact spared g row same
    · obtain ⟨h, row, id, -⟩ := flies_of_attempt grounded.sound (attempt flying)
      obtain ⟨h', row', same⟩ := rests.store.kept h row
      obtain rfl : h' = g' := incident_inj row' member (same.key.1.trans id)
      exact spared h row same

theorem Grounded.step {s : InvestigationStore} (grounded : Grounded s) {a : Action}
    (keeps : KeepsCauses s a) : Grounded (step s a) where
  ordered := grounded.ordered.step a
  sound := sound_step grounded.sound grounded.placed keeps.1
  placed := placed_step grounded.placed a
  finished g' member flying := by
    obtain ⟨g, -, -, done, -, -, same⟩ := grounded.origin keeps member flying
    exact same.trans done

theorem grounded_run {actions : List Action} (keeps : machine.Guarded KeepsCauses .empty actions) :
    Grounded (machine.run .empty actions) :=
  machine.invariant_guarded Grounded (fun _ _ grounded keeps => grounded.step keeps) grounded_empty
    keeps

/-- The incident's fix is in flight after the step. -/
def FliesAfter (groupID : UUID) (s : InvestigationStore) (a : Action) : Prop :=
  ∃ g ∈ (step s a).store.incidents.table.rows, g.id = groupID ∧ InFlight g
  deriving Decidable

theorem Grounded.cause_kept {s : InvestigationStore} (grounded : Grounded s) {later : List Action}
    {groupID : UUID} (keeps : machine.Guarded KeepsCauses s later)
    (flying : machine.Guarded (FliesAfter groupID) s later)
    (member : g ∈ s.store.incidents.table.rows) (own : g.id = groupID) :
    ∃ g' ∈ (machine.run s later).store.incidents.table.rows, g'.id = groupID ∧ SameCause g g' := by
  induction later generalizing s g with
  | nil => exact ⟨g, member, own, rfl, rfl, rfl⟩
  | cons a rest ih =>
    obtain ⟨g', member', own', flies⟩ := flying.1
    obtain ⟨h, row, id, -, same⟩ := grounded.origin keeps.1 member' flies
    obtain rfl : h = g := incident_inj row member (id.symm.trans (own'.trans own.symm))
    obtain ⟨g'', member'', own'', same'⟩ :=
      ih (grounded.step keeps.1) keeps.2 flying.2 member' own'
    exact ⟨g'', member'', own'', same.trans same'⟩

/-- In a run where nothing begins under a fix, an incident whose fix is in flight keeps the
cause it had when the fix was admitted. -/
theorem cause_kept_under_fix (before later : List Action) (groupID : UUID)
    (keeps : machine.Guarded KeepsCauses .empty (before ++ later))
    (flying : machine.Guarded (FliesAfter groupID) (machine.run .empty before) later)
    {g : Incident} (member : g ∈ (machine.run .empty before).store.incidents.table.rows)
    (own : g.id = groupID) :
    ∃ g' ∈ (machine.run .empty (before ++ later)).store.incidents.table.rows,
      g'.id = groupID ∧ SameCause g g' := by
  rw [Machine.guarded_append] at keeps
  rw [Machine.run_append]
  exact (grounded_run keeps.1).cause_kept keeps.2 flying member own

theorem Incident.sameKey_count (s : TicketStore) (t : FrictionTicket) (now : Timestamp)
    (g : Incident) : g.SameKey (g.count (verifiedEvidence s.evidence t none now)) :=
  ⟨rfl, rfl, rfl⟩

/-- The store after a refresh that queues an investigation of a defect. -/
def requeued (s : TicketStore) (t : FrictionTicket) (g : Incident) (jobID : UUID) (now : Timestamp) :
    TicketStore :=
  let counted := s.updateIncident g.id (Incident.count (verifiedEvidence s.evidence t none now))
    (Incident.sameKey_count s t now)
  let queued :=
    match enqueueTicketInvestigation counted t t.liveGeneration g.id none jobID now with
    | (s, false) => s
    | (s, true) =>
      s.updateTicket t.id (FrictionTicket.setReinvestigate false)
        (FrictionTicket.samePlace_setReinvestigate false)
  queued.updateTicket t.id FrictionTicket.reconciled FrictionTicket.samePlace_reconciled

/-- The recent evidence dilutes a finished cause, by the signals the API counts. -/
def DilutedBy (s : TicketStore) (t : FrictionTicket) (g : Incident) (now : Timestamp) : Prop :=
  g.fixSubstate = .none ∧ g.investigationStatus = some .done ∧
    confirmedSignals s.evidence t now ≠ [] ∧
    coverageValue g.explainedSignalIDs (confirmedSignals s.evidence t now) < 1 / 2
  deriving Decidable

theorem diluted_of_by (known : t ∈ s.tickets.rows) (diluted : DilutedBy s t g now) :
    Diluted g (verifiedEvidence s.evidence t (some 7) now) := by
  obtain ⟨fix, done, some_, uncovered⟩ := diluted
  refine ⟨fix, done, fun none_ => some_ ?_, ?_⟩
  · refine List.eq_nil_iff_forall_not_mem.mpr fun id member => ?_
    rw [mem_confirmedSignals s.scope known now id, none_] at member
    cases member
  · rw [← coverage_agree s.scope known g.explainedSignalIDs now]
    exact uncovered

theorem refreshTicket_of_diluted (ticket : s.tickets.find? t.id = some t)
    (live : liveIncident s t = some g) (locked : lockedTransition s t = .refresh)
    (defect : t.kind = .defect) (diluted : DilutedBy s t g now) (outdated : Outdates t g)
    (insightUsers : Nat) (jobID firstJobID : UUID) :
    Tickets.refreshTicket s t.id insightUsers jobID firstJobID now = requeued s t g jobID now := by
  have again : Diluted g (verifiedEvidence s.evidence t (some 7) now) :=
    diluted_of_by (Table.mem_of_find? ticket) diluted
  have allowed : ∀ users, investigationAllowed t users insightUsers = true := by
    intro users
    simp [investigationAllowed, defect]
  have other : ¬(investigationAllowed t (verifiedEvidence s.evidence t none now).users insightUsers ∧
      t.kind = .uxInsight ∧ g.investigationStatus = none) := by
    rw [defect]
    simp
  unfold Tickets.refreshTicket
  simp only [ticket, live, if_pos locked]
  unfold refresh requeued
  dsimp only
  rw [if_neg other, if_pos ⟨allowed _, Or.inr again, outdated⟩] <;> rfl

section Example

def day : Timestamp := 86400000000

def recordings : List (String × Timestamp) :=
  [("a", 5 * day), ("b", 0), ("c", 0), ("d", -10 * day), ("e", -10 * day)]

def attemptsOf (batchID id : UUID) : List String → List CheckAttempt
  | [] => []
  | r :: rest => ⟨id, batchID, 10, r, [r], "", none⟩ :: attemptsOf batchID (id + 1) rest

theorem unique_finalized :
    (([⟨30, 10, .finalized⟩] : List ConfirmBatch).map ConfirmBatch.id).Nodup := by decide

/-- The confirmation of three recordings, and a later one of the other two. -/
def confirmed : Bool → Tickets.Action
  | false => .confirm 10 ⟨0, 1, 0, false, false⟩
    ⟨[⟨10, "a", 20, .confirmed⟩, ⟨10, "d", 21, .confirmed⟩, ⟨10, "e", 22, .confirmed⟩], by decide⟩
    ⟨attemptsOf 30 20 ["a", "d", "e"], by decide⟩ ⟨[⟨30, 10, .finalized⟩], unique_finalized⟩
  | true => .confirm 10 ⟨0, 2, 0, false, false⟩
    ⟨[⟨10, "a", 20, .confirmed⟩, ⟨10, "d", 21, .confirmed⟩, ⟨10, "e", 22, .confirmed⟩,
      ⟨10, "b", 23, .confirmed⟩, ⟨10, "c", 24, .confirmed⟩], by decide⟩
    ⟨attemptsOf 30 20 ["a", "d", "e"] ++ attemptsOf 31 23 ["b", "c"], by decide⟩
    ⟨[⟨30, 10, .finalized⟩, ⟨31, 10, .finalized⟩], by decide⟩

/-- The ticket is published as issue 100, its investigation on day five explains the one
recording of that week, and on day six two more recordings are confirmed. -/
def explainedRun : List Action :=
  recordings.map (fun (r, t) => Action.ticket (.session ⟨r, 2, none, t⟩)) ++
    recordings.map (fun (r, _) => Action.ticket (.signal ⟨r, r, 2⟩)) ++
    recordings.map (fun (r, t) => Action.ticket (.matchObservation 1 2 r r t false
      (if r = "a" then .create 10 .defect else .known 10 .strong) 0 (5 * day))) ++
    ([.ticket (confirmed false),
    .ticket (.activateGeneration (FrictionTicket.new 10 1 2 .defect) 5 100 200 (5 * day)),
    .ticket (.queue (.claimJob "w" 1000 {} [] (5 * day))),
    .beginInvestigation 200 "w" 1 (5 * day) (5 * day),
    .finishJob ⟨⟨200, 1, 10, 100, 1, "w", 1⟩, 1, 1, ["a"]⟩
      (.verdict ⟨true, ["a"], [], "the total is unset", .array [], some "set the total first"⟩) 5
      601 299 (5 * day) ⟨5 * day, 5 * day, 5 * day, 5 * day⟩,
    .ticket (confirmed true)] : List Action)

def refreshOfDaySix : Action := .refreshTicket 10 5 201 202 (6 * day)

def requestOfDayEight : Action :=
  .ticket (.requestTicketFix 1 100 "" none 701 801 (8 * day) (8 * day))

def rewritingRun : List Action :=
  [.ticket (.queue (.claimJob "w" 1000 {} [801] (8 * day))),
    .beginInvestigation 201 "w" 1 (8 * day) (8 * day),
    .finishJob ⟨⟨201, 1, 10, 100, 1, "w", 1⟩, 2, 2, ["a"]⟩
      (.verdict ⟨true, ["a"], [], "the total is rounded", .array [], some "round it once"⟩) 5 602 298
      (8 * day) ⟨8 * day, 8 * day, 8 * day, 8 * day⟩]

/-- What the refresh of day six finds. -/
def Diluting (s : TicketStore) (t : FrictionTicket) (g : Incident) : Prop :=
  t.id = 10 ∧ lockedTransition s t = .refresh ∧ t.kind = .defect ∧ DilutedBy s t g (6 * day) ∧
    Outdates t g
  deriving Decidable

/-- The store after the refresh of day six. -/
def queuedStore (s : InvestigationStore) : InvestigationStore :=
  match s.store.tickets.find? 10 with
  | none => s
  | some t =>
    match liveIncident s.store t with
    | none => s
    | some g => { s with store := requeued s.store t g 201 (6 * day) }

theorem step_refreshOfDaySix :
    step (machine.run .empty explainedRun) refreshOfDaySix =
      queuedStore (machine.run .empty explainedRun) := by
  have finds : ((machine.run .empty explainedRun).store.tickets.find? 10).any (fun t =>
      (liveIncident (machine.run .empty explainedRun).store t).any fun g =>
        Diluting (machine.run .empty explainedRun).store t g) = true := by
    decide +kernel
  obtain ⟨t, ticket, finds⟩ := Option.any_eq_true _ _ |>.mp finds
  obtain ⟨g, live, finds⟩ := Option.any_eq_true _ _ |>.mp finds
  obtain ⟨id, locked, defect, diluted, outdated⟩ := of_decide_eq_true finds
  have refreshed := refreshTicket_of_diluted (id.symm ▸ ticket) live locked defect diluted outdated 5
    201 202
  rw [id] at refreshed
  simp only [step, refreshOfDaySix, queuedStore, ticket, live, refreshed]

/-- What an incident says of its cause. -/
def causeOf (s : InvestigationStore) (groupID : UUID) :
    Option (Option String × Option (List String) × Option InvestigationStatus) :=
  (s.store.incidents.table.find? groupID).map fun g =>
    (g.rootCause, g.explainedSignalIDs, g.investigationStatus)

theorem cause_kept_under_requested_fix :
    machine.Guarded KeepsCauses .empty (explainedRun ++ [requestOfDayEight]) ∧
      ∀ g ∈ (machine.run .empty explainedRun).store.incidents.table.rows, g.id = 100 →
        ∃ g' ∈ (machine.run .empty (explainedRun ++ [requestOfDayEight])).store.incidents.table.rows,
          g'.id = 100 ∧ SameCause g g' := by
  have keeps : machine.Guarded KeepsCauses .empty (explainedRun ++ [requestOfDayEight]) := by
    decide +kernel
  refine ⟨keeps, fun g member own => ?_⟩
  exact cause_kept_under_fix explainedRun [requestOfDayEight] 100 keeps (by decide +kernel) member own

/-- The fix is in flight all the while, and its cause is rewritten. -/
theorem cause_rewritten_under_fix :
    let s := machine.run .empty (explainedRun ++ [refreshOfDaySix])
    machine.Guarded (FliesAfter 100) s (requestOfDayEight :: rewritingRun) ∧
      causeOf (machine.run s [requestOfDayEight]) 100 =
        some (some "the total is unset", some ["a"], some .done) ∧
      causeOf (machine.run s (requestOfDayEight :: rewritingRun.take 2)) 100 =
        some (some "the total is unset", some ["a"], some .pending) ∧
      causeOf (machine.run s (requestOfDayEight :: rewritingRun)) 100 =
        some (some "the total is rounded", some ["a"], some .done) := by
  have start : machine.run .empty (explainedRun ++ [refreshOfDaySix]) =
      queuedStore (machine.run .empty explainedRun) := by
    rw [Machine.run_append]
    exact step_refreshOfDaySix
  rw [start]
  refine ⟨?_, ?_, ?_, ?_⟩ <;> decide +kernel

end Example

end Opslane.Tickets.Investigations
