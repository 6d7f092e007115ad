import Opslane.Tickets.Lineage
import Opslane.Tickets.Machine

/-!
# The ticket store refines lineages

`lineage` forgets everything of a store but its lineages. Every transaction moves them as
`Move` allows or leaves them alone, so what holds of a coherent lineage holds in every
store that is reached. The queue follows: a fix or investigation job belongs to an incident
of its ticket, and is active only while that incident is not archived.
-/

namespace Opslane.Tickets

open Jobs (Job JobTable)
open Relation (ReflTransGen)

def FrictionTicket.state (t : FrictionTicket) : TicketState := ⟨t.status = .published, t.liveGeneration⟩

def Incident.state (g : Incident) : IncidentState :=
  ⟨g.ticketID, g.publicationGeneration, g.status = .archived, g.fixSubstate⟩

def FixAttempt.state (a : FixAttempt) : AttemptState :=
  ⟨a.ticketID, a.errorGroupID, a.generation, a.status⟩

def TicketStore.lineage (s : TicketStore) : Lineage where
  tickets t := (s.tickets.find? t).map FrictionTicket.state
  incidents g := (s.incidents.table.find? g).map Incident.state
  attempts a := (s.attempts.find? a).map FixAttempt.state

/-- The job is an investigation or a fix. -/
def Work (j : Job) : Prop := j.jobType = .investigate ∨ j.jobType = .fix
  deriving Decidable

/-- The job is on an incident of its ticket, and on an attempt on that incident; it is
active only while the incident is not archived. -/
structure Attached (l : Lineage) (j : Job) : Prop where
  incident : ∀ g, j.errorGroupID = some g → ∃ i, l.incidents g = some i ∧
    j.ticketID = some i.ticketID ∧ (j.Active → i.archived = false)
  attempt : ∀ a, j.fixAttemptID = some a → ∃ x, l.attempts a = some x ∧
    j.errorGroupID = some x.groupID

/-- The store's lineages are coherent, and its jobs follow them. -/
structure Sound (s : TicketStore) : Prop where
  coherent : s.lineage.Coherent
  attached : ∀ j ∈ s.jobs.rows, Work j → Attached s.lineage j

/-- A sound store is reached by moves of its lineages. -/
structure Reaches (s s' : TicketStore) : Prop where
  moves : ReflTransGen Lineage.Move s.lineage s'.lineage
  sound : Sound s'

theorem Reaches.refl {s : TicketStore} (sound : Sound s) : Reaches s s := ⟨.refl, sound⟩

theorem Reaches.trans {s s' s'' : TicketStore} (first : Reaches s s') (second : Reaches s' s'') :
    Reaches s s'' := ⟨first.moves.trans second.moves, second.sound⟩

theorem Lineage.Coherent.moves {l l' : Lineage} (coherent : l.Coherent)
    (moves : ReflTransGen Lineage.Move l l') : l'.Coherent := by
  induction moves with
  | refl => exact coherent
  | tail _ move ih => exact ih.move move

theorem Attached.advances {l : Lineage} {j j' : Job} (attached : Attached l j)
    (advances : j.Advances j') : Attached l j' := by
  obtain ⟨same, active⟩ := advances
  constructor
  · intro g own
    obtain ⟨i, found, ticket, live⟩ := attached.incident g (same.errorGroupID ▸ own)
    exact ⟨i, found, same.ticketID.trans ticket, fun running => live (active running)⟩
  · intro a own
    obtain ⟨x, found, group⟩ := attached.attempt a (same.fixAttemptID ▸ own)
    exact ⟨x, found, same.errorGroupID.trans group⟩

/-- Nothing is lost, and no incident is archived. -/
structure Lineage.Extends (l l' : Lineage) : Prop where
  incidents : ∀ g i, l.incidents g = some i →
    ∃ i', l'.incidents g = some i' ∧ i'.ticketID = i.ticketID ∧ i'.archived = i.archived
  attempts : ∀ a x, l.attempts a = some x → ∃ x', l'.attempts a = some x' ∧ x'.groupID = x.groupID

theorem Attached.extend {l l' : Lineage} {j : Job} (attached : Attached l j)
    (extends_ : l.Extends l') : Attached l' j := by
  constructor
  · intro g own
    obtain ⟨i, found, ticket, live⟩ := attached.incident g own
    obtain ⟨i', found', ticket', archived⟩ := extends_.incidents g i found
    exact ⟨i', found', ticket.trans (congrArg some ticket'.symm), fun running =>
      archived.trans (live running)⟩
  · intro a own
    obtain ⟨x, found, group⟩ := attached.attempt a own
    obtain ⟨x', found', group'⟩ := extends_.attempts a x found
    exact ⟨x', found', group.trans (congrArg some group'.symm)⟩

theorem Lineage.Extends.refl (l : Lineage) : l.Extends l :=
  ⟨fun _ i found => ⟨i, found, rfl, rfl⟩, fun _ x found => ⟨x, found, rfl⟩⟩

/-- Every job of investigations and fixes moved on from an older one or is attached. -/
def Follows (s s' : TicketStore) : Prop :=
  ∀ j' ∈ s'.jobs.rows, Work j' → (∃ j ∈ s.jobs.rows, j.Advances j') ∨ Attached s'.lineage j'

variable {s s' : TicketStore}

theorem Follows.of_advanced (advanced : Jobs.Advanced s.jobs s'.jobs) :
    Follows s s' := fun j' member _ => Or.inl (advanced.back j' member)

theorem Follows.of_eq (same : s'.jobs = s.jobs) : Follows s s' :=
  .of_advanced (same ▸ .refl s.jobs)

theorem Sound.reaches (sound : Sound s) (moves : ReflTransGen Lineage.Move s.lineage s'.lineage)
    (extends_ : s.lineage.Extends s'.lineage) (follows : Follows s s') : Reaches s s' := by
  refine ⟨moves, sound.coherent.moves moves, fun j' member work => ?_⟩
  rcases follows j' member work with ⟨j, old, advances⟩ | attached
  · have before : Work j := by rwa [Work, advances.1.jobType] at work
    exact ((sound.attached j old before).extend extends_).advances advances
  · exact attached

theorem Sound.same {s s' : TicketStore} (sound : Sound s) (same : s'.lineage = s.lineage)
    (follows : Follows s s') : Reaches s s' := by
  refine sound.reaches ?_ ?_ follows
  · rw [same]
  · rw [same]
    exact .refl _

theorem Sound.retire (sound : Sound s) {t : UUID} (retired : s'.lineage = s.lineage.retire t)
    (follows : ∀ j' ∈ s'.jobs.rows, ∃ j ∈ s.jobs.rows, j.Advances j' ∧
      (Work j → j'.Active → ∀ g i, j.errorGroupID = some g → s.lineage.incidents g = some i →
        j.ticketID = some i.ticketID → i.archived = false → i.ticketID ≠ t)) :
    Reaches s s' := by
  have move : Lineage.Move s.lineage s'.lineage := retired ▸ .retire t
  refine ⟨.single move, sound.coherent.move move, fun j' member work => ?_⟩
  obtain ⟨j, old, advances, elsewhere⟩ := follows j' member
  have before : Work j := by rwa [Work, advances.1.jobType] at work
  have attached := sound.attached j old before
  rw [retired]
  constructor
  · intro g own
    rw [advances.1.errorGroupID] at own
    obtain ⟨i, found, ticket, live⟩ := attached.incident g own
    refine ⟨Lineage.archive t i, by simp [Lineage.retire, found], advances.1.ticketID.trans ticket,
      fun running => ?_⟩
    have open_ := live (advances.2 running)
    have other := elsewhere before running g i own found ticket open_
    simp [Lineage.archive, open_, other]
  · intro a own
    rw [advances.1.fixAttemptID] at own
    obtain ⟨x, found, group⟩ := attached.attempt a own
    exact ⟨Lineage.supersede t x, by simp [Lineage.retire, found],
      advances.1.errorGroupID.trans group⟩

variable {f : FrictionTicket → FrictionTicket}

theorem lineage_updateTicket_of {id : UUID} {frame : ∀ t : FrictionTicket, t.SamePlace (f t)}
    (same : ∀ t ∈ s.tickets.rows, t.id = id → (f t).state = t.state) :
    (s.updateTicket id f frame).lineage = s.lineage := by
  refine Lineage.ext ?_ rfl rfl
  funext t
  exact s.tickets.map_find?_updateWhere (fun t => (frame t).1)
    (fun t member selected => same t member (of_decide_eq_true selected)) t

theorem lineage_updateTicket (s : TicketStore) (id : UUID)
    (frame : ∀ t : FrictionTicket, t.SamePlace (f t)) (same : ∀ t, (f t).state = t.state) :
    (s.updateTicket id f frame).lineage = s.lineage :=
  lineage_updateTicket_of fun t _ _ => same t

theorem lineage_updateIncidents (s : TicketStore) (p : Incident → Bool) {f : Incident → Incident}
    (frame : ∀ g : Incident, g.SameKey (f g))
    (same : ∀ g ∈ s.incidents.table.rows, p g → (f g).state = g.state) :
    TicketStore.lineage { s with incidents := s.incidents.updateWhere p f frame } = s.lineage := by
  refine Lineage.ext rfl ?_ rfl
  funext g
  exact s.incidents.table.map_find?_updateWhere (fun g => (frame g).1) same g

theorem lineage_updateAttempt (s : TicketStore) (id : UUID) {f : FixAttempt → FixAttempt}
    (frame : ∀ a, (f a).id = a.id) (same : ∀ a ∈ s.attempts.rows, a.id = id → (f a).state = a.state) :
    (s.updateAttempt id f frame).lineage = s.lineage := by
  refine Lineage.ext rfl rfl ?_
  funext a
  exact s.attempts.map_find?_updateWhere frame
    (fun a member selected => same a member (of_decide_eq_true selected)) a

section Retire

variable {s : TicketStore} {t : UUID} {f : FrictionTicket → FrictionTicket}
  {frame : ∀ t : FrictionTicket, t.SamePlace (f t)} {now : Timestamp}

theorem outstanding_incident (sound : Sound s) {a : FixAttempt} (member : a ∈ s.attempts.rows)
    (outstanding : a.Outstanding) :
    ∃ g ∈ s.incidents.table.rows, g.id = a.errorGroupID ∧ g.ticketID = a.ticketID ∧
      g.publicationGeneration = a.generation ∧ g.status ≠ .archived ∧
      g.fixSubstate = a.status.substate := by
  have found : s.lineage.attempts a.id = some a.state := by
    simp [TicketStore.lineage, s.attempts.find?_key member]
  obtain ⟨i, incident, ticket, generation⟩ := sound.coherent.linked a.id a.state found
  obtain ⟨live, substate⟩ := sound.coherent.outstanding a.id a.state i found outstanding incident
  obtain ⟨g, row, rfl⟩ := Option.map_eq_some_iff.mp incident
  exact ⟨g, Table.mem_of_find? row, Table.key_of_find? row, ticket, generation,
    of_decide_eq_false live, substate⟩

theorem Incident.sameKey_archive (now : Timestamp) (g : Incident) : g.SameKey (g.archive now) :=
  ⟨rfl, rfl, rfl⟩

theorem FixAttempt.supersede_id (a : FixAttempt) : a.supersede.id = a.id := rfl

theorem lineage_retire {p : Incident → Bool} {q : FixAttempt → Bool}
    (frame : ∀ t : FrictionTicket, t.SamePlace (f t))
    (withdraw : ∀ t, (f t).state = Lineage.withdraw t.state)
    (incidents : ∀ g ∈ s.incidents.table.rows, p g = true ↔ g.ticketID = t ∧ g.status ≠ .archived)
    (attempts : ∀ a ∈ s.attempts.rows, a.Outstanding → (q a = true ↔ a.ticketID = t))
    (outstanding : ∀ a, q a = true → a.Outstanding)
    (tickets' : s'.tickets = s.tickets.updateKey t f fun t => (frame t).1)
    (incidents' : s'.incidents = s.incidents.updateWhere p (Incident.archive now)
      (Incident.sameKey_archive now))
    (attempts' : s'.attempts = s.attempts.updateWhere q FixAttempt.supersede FixAttempt.supersede_id) :
    s'.lineage = s.lineage.retire t := by
  refine Lineage.ext ?_ ?_ ?_
  · funext u
    simp only [TicketStore.lineage, tickets', Table.find?_updateKey, Lineage.retire]
    by_cases same : u = t
    · subst same
      simp only [if_pos, Option.map_map]
      congr 1
      funext t
      exact withdraw t
    · simp only [if_neg same]
  · funext g
    simp only [TicketStore.lineage, incidents', IncidentTable.updateWhere, Table.find?_updateWhere,
      Lineage.retire, Option.map_map]
    refine Option.map_congr fun g row => ?_
    have selected := incidents g (Table.mem_of_find? row)
    by_cases archived : p g = true
    · simp [archived, selected.mp archived, Incident.archive, Incident.state, Lineage.archive]
    · have kept := mt selected.mpr archived
      by_cases own : g.ticketID = t
      · have already : g.status = .archived := by simpa [own] using kept
        simp [archived, Incident.state, Lineage.archive, already]
      · simp [archived, Incident.state, Lineage.archive, own]
  · funext a
    simp only [TicketStore.lineage, attempts', Table.find?_updateWhere, Lineage.retire,
      Option.map_map]
    refine Option.map_congr fun a row => ?_
    by_cases past : a.Outstanding
    · have selected := attempts a (Table.mem_of_find? row) past
      have past' : a.status.Outstanding := past
      by_cases own : a.ticketID = t
      · simp [selected.mpr own, FixAttempt.supersede, FixAttempt.state, Lineage.supersede, own, past']
      · simp [mt selected.mp own, FixAttempt.state, Lineage.supersede, own]
    · have skipped : ¬q a = true := mt (outstanding a) past
      have past' : ¬a.status.Outstanding := past
      simp [skipped, FixAttempt.state, Lineage.supersede, past']

theorem cancel_id (reason : String) (j : Job) : (cancel reason j).id = j.id := rfl

theorem cancel_follows (jobs : JobTable) (reason : String) (p : Job → Bool) :
    ∀ j' ∈ (jobs.updateWhere p (cancel reason) (cancel_id reason)).rows,
      ∃ j ∈ jobs.rows, j.Advances j' ∧ (j'.Active → ¬p j) := by
  intro j' member
  obtain ⟨j, old, rfl⟩ := (Table.mem_updateWhere jobs p (cancel reason) (cancel_id reason) j').mp
    member
  refine ⟨j, old, ?_⟩
  split
  · rename_i selected
    have stopped : ¬(cancel reason j).Active := by simp [Job.Active, cancel]
    exact ⟨⟨⟨rfl, rfl, rfl, rfl, rfl, rfl, rfl⟩, fun active => absurd active stopped⟩,
      fun active => absurd active stopped⟩
  · rename_i selected
    exact ⟨.refl j, fun _ => selected⟩

theorem single_live (sound : Sound s) {g h : Incident} (memG : g ∈ s.incidents.table.rows)
    (memH : h ∈ s.incidents.table.rows) (liveG : g.status ≠ .archived) (liveH : h.status ≠ .archived)
    (own : g.ticketID = h.ticketID) : g.id = h.id := by
  have foundG : s.lineage.incidents g.id = some g.state := by
    simp [TicketStore.lineage, s.incidents.table.find?_key memG]
  have foundH : s.lineage.incidents h.id = some h.state := by
    simp [TicketStore.lineage, s.incidents.table.find?_key memH]
  obtain ⟨p, ticket, -, generation⟩ := sound.coherent.live _ _ foundG (decide_eq_false liveG)
  obtain ⟨p', ticket', -, generation'⟩ := sound.coherent.live _ _ foundH (decide_eq_false liveH)
  obtain rfl : p = p' := by
    rw [show h.state.ticketID = g.state.ticketID from own.symm, ticket, Option.some.injEq] at ticket'
    exact ticket'
  exact sound.coherent.single _ _ _ _ foundG foundH own (generation.trans generation'.symm)

theorem lineage_retireIncidents (sound : Sound s) {ids : List UUID}
    (withdraw : ∀ t, (f t).state = Lineage.withdraw t.state)
    (live : ∀ g ∈ s.incidents.table.rows, g.id ∈ ids ↔ g.ticketID = t ∧ g.status ≠ .archived) :
    ((retireIncidents s ids now).updateTicket t f frame).lineage = s.lineage.retire t := by
  refine lineage_retire (p := fun g => g.id ∈ ids)
    (q := fun a => a.errorGroupID ∈ ids ∧ a.Outstanding) frame withdraw ?_ ?_ ?_ rfl rfl rfl
  · intro g member
    rw [decide_eq_true_eq]
    exact live g member
  · intro a member outstanding
    obtain ⟨g, row, id, ticket, -, open_, -⟩ := outstanding_incident sound member outstanding
    have selected := live g row
    rw [id, ticket] at selected
    simp [outstanding, selected, open_]
  · intro a selected
    exact (of_decide_eq_true selected).2

theorem reaches_retireIncidents (sound : Sound s) {ids : List UUID}
    (withdraw : ∀ t, (f t).state = Lineage.withdraw t.state)
    (live : ∀ g ∈ s.incidents.table.rows, g.id ∈ ids ↔ g.ticketID = t ∧ g.status ≠ .archived) :
    Reaches s ((retireIncidents s ids now).updateTicket t f frame) := by
  refine sound.retire (lineage_retireIncidents sound withdraw live) fun j' member => ?_
  obtain ⟨j, old, advances, kept⟩ := cancel_follows s.jobs "unpublished" _ j' member
  refine ⟨j, old, advances, fun work running g i own found ticket open_ same => kept running ?_⟩
  obtain ⟨h, row, rfl⟩ := Option.map_eq_some_iff.mp found
  have chosen : g ∈ ids := by
    rw [← Table.key_of_find? row]
    exact (live h (Table.mem_of_find? row)).mpr ⟨same, of_decide_eq_false open_⟩
  have active := advances.2 running
  simp [own, chosen, active, work.elim Or.inl Or.inr]

theorem mem_liveIncidents {ticketID : UUID} {g : Incident} (member : g ∈ s.incidents.table.rows) :
    g.id ∈ liveIncidents s ticketID ↔ g.ticketID = ticketID ∧ g.status ≠ .archived := by
  simp only [liveIncidents, List.mem_map, Table.select, List.mem_filter, decide_eq_true_eq]
  constructor
  · rintro ⟨h, ⟨row, selected⟩, id⟩
    rwa [s.incidents.table.inj row member id] at selected
  · exact fun selected => ⟨g, ⟨member, selected⟩, rfl⟩

end Retire

variable {ticket : FrictionTicket}

variable {now : Timestamp}

theorem reaches_unpublish (sound : Sound s) (done : unpublish s ticket now = .ok s') :
    Reaches s s' := by
  obtain ⟨t, locked, done⟩ := Except.of_bind done
  split at done
  · cases done
    exact .refl sound
  · split at done
    · cases done
      exact .refl sound
    · cases done
      exact reaches_retireIncidents sound (fun _ => rfl) fun g member => mem_liveIncidents member

theorem reaches_frictionReconcileAfterDelete (sound : Sound s) (ticketID : UUID) (now : Timestamp) :
    Reaches s (frictionReconcileAfterDelete s ticketID now) := by
  unfold frictionReconcileAfterDelete
  split
  · exact .refl sound
  · rename_i t found
    have recount : Reaches s (s.updateTicket ticketID (FrictionTicket.recount
        (s.evidence.ticketMatches.select fun m => m.ticketID = ticketID).length)
        fun _ => ⟨rfl, rfl, rfl⟩) :=
      sound.same (lineage_updateTicket s ticketID _ fun _ => rfl) (.of_eq rfl)
    dsimp only
    split
    · exact recount
    · split
      · exact recount
      · rename_i g live
        split
        · exact recount
        · split
          · refine recount.trans (reaches_retireIncidents recount.sound (fun _ => rfl) ?_)
            intro h member
            rw [List.mem_singleton]
            have selected := List.find?_some live
            simp only [decide_eq_true_eq] at selected
            constructor
            · intro id
              obtain rfl : h = g := s.incidents.table.inj member
                (List.mem_of_find?_eq_some live) id
              exact selected
            · rintro ⟨own, open_⟩
              exact single_live sound member (List.mem_of_find?_eq_some live) open_ selected.2
                (own.trans selected.1.symm)
          · exact recount

theorem reaches_archiveTicketGroup {projectID groupID : UUID} (sound : Sound s)
    (done : archiveTicketGroup s projectID groupID now = .ok s') : Reaches s s' := by
  unfold archiveTicketGroup at done
  split at done
  · cases done
    exact .refl sound
  · rename_i g t found
    split at done
    · cases done
      exact .refl sound
    · split at done
      · cases done
      · cases done
        refine sound.retire (t := t.id) (lineage_retire
          (p := fun h => h.ticketID = t.id ∧ h.status ≠ .archived)
          (q := fun a => a.ticketID = t.id ∧ a.Outstanding) (f := FrictionTicket.archive)
          (fun _ => ⟨rfl, rfl, rfl⟩)
          ?_ ?_ ?_ ?_ rfl rfl rfl) ?_
        · exact fun _ => rfl
        · intro h member
          rw [decide_eq_true_eq]
        · intro a member outstanding
          simp [outstanding]
        · intro a selected
          exact (of_decide_eq_true selected).2
        · intro j' member
          obtain ⟨j, old, advances, kept⟩ := cancel_follows s.jobs "Problem archived" _ j' member
          refine ⟨j, old, advances, fun work running g i own found ticket open_ same => kept running ?_⟩
          have active := advances.2 running
          simp [ticket, same, active]

theorem lineage_enqueueTicketInvestigation (s : TicketStore) (t : FrictionTicket) (generation : Nat)
    (groupID : UUID) (finishingJobID : Option UUID) (jobID : UUID) (now : Timestamp) :
    (enqueueTicketInvestigation s t generation groupID finishingJobID jobID now).1.lineage =
      s.lineage := by
  unfold enqueueTicketInvestigation
  dsimp only
  split
  · rfl
  · exact lineage_updateIncidents s (fun g => g.id = groupID ∧ g.investigationStatus = none)
      (f := Incident.awaitInvestigation) (fun _ => ⟨rfl, rfl, rfl⟩) fun _ _ _ => rfl

variable {t : FrictionTicket}

theorem reaches_enqueueTicketInvestigation (sound : Sound s) (generation : Nat) {groupID : UUID}
    {i : IncidentState} (found : s.lineage.incidents groupID = some i) (own : i.ticketID = t.id)
    (live : i.archived = false) (finishingJobID : Option UUID) (jobID : UUID) (now : Timestamp) :
    Reaches s (enqueueTicketInvestigation s t generation groupID finishingJobID jobID now).1 := by
  have same := lineage_enqueueTicketInvestigation s t generation groupID finishingJobID jobID now
  refine sound.same same fun j' member work => ?_
  have origin : j' ∈ s.jobs.rows ∨ j' = investigateJob t generation groupID jobID now := by
    unfold enqueueTicketInvestigation at member
    dsimp only at member
    split at member
    · exact Or.inl member
    · exact Jobs.mem_enqueueJobTx member
  rcases origin with old | rfl
  · exact Or.inl ⟨j', old, .refl j'⟩
  · refine Or.inr ⟨?_, ?_⟩
    · rintro g ⟨⟩
      exact ⟨i, same ▸ found, congrArg some own.symm, fun _ => live⟩
    · rintro a ⟨⟩

variable {l : Lineage}

theorem Lineage.extends_publish {t g : UUID} {live : Nat} (fresh : l.incidents g = none) :
    l.Extends (l.publish t g live) := by
  refine ⟨fun h i found => ⟨i, ?_, rfl, rfl⟩, fun a x found => ⟨x, found, rfl⟩⟩
  have differ : h ≠ g := fun same => by rw [same, fresh] at found; cases found
  simp [Lineage.publish, differ, found]

theorem Incident.publish_id (t : FrictionTicket) (evidence : VerifiedEvidence) (allowed : Bool)
    (groupID : UUID) : (Incident.publish t evidence allowed groupID).id = groupID := rfl

theorem Incident.publish_state (t : FrictionTicket) (evidence : VerifiedEvidence) (allowed : Bool)
    (groupID : UUID) :
    (Incident.publish t evidence allowed groupID).state = ⟨t.id, t.liveGeneration + 1, false, .none⟩ :=
  rfl

theorem reaches_publish {g : Incident} {incidents : IncidentTable} (sound : Sound s)
    (found : s.tickets.find? t.id = some t)
    (inserted : (retireLiveGeneration s t now).incidents.insert? g = some incidents)
    (state : g.state = ⟨t.id, t.liveGeneration + 1, false, .none⟩) (frame) :
    let s' := { retireLiveGeneration s t now with incidents }.updateTicket t.id
      (FrictionTicket.publish (t.liveGeneration + 1)) frame
    s.incidents.table.find? g.id = none ∧
      s'.lineage = (s.lineage.retire t.id).publish t.id g.id t.liveGeneration ∧ Reaches s s' := by
  intro s'
  let unpublished := (retireLiveGeneration s t now).updateTicket t.id FrictionTicket.unpublish
    fun _ => ⟨rfl, rfl, rfl⟩
  have retired : Reaches s unpublished :=
    reaches_retireIncidents sound (fun _ => rfl) fun g member => mem_liveIncidents member
  have lineage : unpublished.lineage = s.lineage.retire t.id :=
    lineage_retireIncidents sound (fun _ => rfl) fun g member => mem_liveIncidents member
  have absent := (IncidentTable.insert?_spec inserted).2
  have free : s.incidents.table.find? g.id = none := by
    simpa [retireLiveGeneration, retireIncidents, IncidentTable.updateWhere, Table.find?_updateWhere]
      using absent
  have next : s'.lineage = unpublished.lineage.publish t.id g.id t.liveGeneration := by
    refine Lineage.ext ?_ ?_ rfl
    · funext u
      simp only [s', unpublished, TicketStore.lineage, TicketStore.updateTicket, Lineage.publish,
        retireLiveGeneration, retireIncidents, Table.find?_updateKey]
      by_cases same : u = t.id
      · simp [same, found, FrictionTicket.publish, FrictionTicket.state]
      · simp [same]
    · funext h
      simp only [s', unpublished, TicketStore.lineage, TicketStore.updateTicket, Lineage.publish,
        IncidentTable.find?_insert? inserted]
      by_cases same : h = g.id
      · simp [same, state]
      · simp [same]
  have fresh : unpublished.lineage.incidents g.id = none := by
    simp only [TicketStore.lineage, Option.map_eq_none_iff]
    exact absent
  have ticket : unpublished.lineage.tickets t.id = some ⟨false, t.liveGeneration⟩ := by
    rw [lineage]
    simp [Lineage.retire, TicketStore.lineage, found, FrictionTicket.state, Lineage.withdraw]
  refine ⟨free, lineage ▸ next, retired.trans ?_⟩
  refine retired.sound.reaches ?_ ?_ (.of_eq rfl)
  · rw [next]
    exact .single (.publish t.id g.id t.liveGeneration ticket fresh)
  · rw [next]
    exact Lineage.extends_publish fresh

theorem activateGeneration_spec {insightInvestigateUsers : Nat} {groupID jobID : UUID}
    (sound : Sound s)
    (done : activateGeneration s ticket insightInvestigateUsers groupID jobID now = .ok s') :
    ∃ t, lockTicket s ticket = .ok t ∧ t.status ≠ .merged ∧ t.status ≠ .archived ∧
      s'.lineage = (s.lineage.retire t.id).publish t.id groupID t.liveGeneration ∧ Reaches s s' := by
  obtain ⟨t, locked, done⟩ := Except.of_bind done
  obtain ⟨open_, done⟩ := Except.of_guard done
  obtain ⟨-, done⟩ := Except.of_guard done
  obtain ⟨incidents, inserted, done⟩ := Except.of_bind done
  rw [Option.orError_eq_ok_iff] at inserted
  obtain ⟨found, -⟩ := find?_of_lockTicket locked
  obtain ⟨-, lineage, reached⟩ := reaches_publish sound found inserted (Incident.publish_state ..)
    fun _ => ⟨rfl, rfl, rfl⟩
  refine ⟨t, locked, fun h => open_ (Or.inl h), fun h => open_ (Or.inr h), ?_⟩
  rw [Except.ok.injEq] at done
  rw [← done]
  split
  · have shown := congrFun (congrArg Lineage.incidents lineage) groupID
    rw [Incident.publish_id] at shown
    simp only [Lineage.publish, if_pos] at shown
    have queued := reaches_enqueueTicketInvestigation reached.sound (t := t)
      (t.liveGeneration + 1) shown rfl rfl none jobID now
    exact ⟨(lineage_enqueueTicketInvestigation ..).trans lineage, reached.trans queued⟩
  · exact ⟨lineage, reached⟩

theorem Lineage.extends_settle {a : UUID} {x : AttemptState} {i : IncidentState}
    (incident : l.incidents x.groupID = some i)
    (same : ∀ y, l.attempts a = some y → y.groupID = x.groupID) : l.Extends (l.settle a x i) := by
  constructor
  · intro g j found
    by_cases here : g = x.groupID
    · rw [here, incident, Option.some.injEq] at found
      exact ⟨{ i with substate := x.status.substate }, by simp [Lineage.settle, here],
        found ▸ rfl, found ▸ rfl⟩
    · exact ⟨j, by simp [Lineage.settle, here, found], rfl, rfl⟩
  · intro b y found
    by_cases here : b = a
    · subst here
      exact ⟨x, by simp [Lineage.settle], (same y found).symm⟩
    · exact ⟨y, by simp [Lineage.settle, here, found], rfl⟩

variable {projectID : UUID}

theorem reaches_admit {g : Incident} {a : FixAttempt} {attempts : Table FixAttempt.id}
    {jobs : JobTable} {j : Job} (sound : Sound s)
    (found : s.getIncident projectID g.id = some (g, t)) (live : g.status ≠ .archived)
    (unresolved : g.fixSubstate ≠ .resolved)
    (free : ¬OutstandingAttempt s t.id g.publicationGeneration)
    (state : a.state = ⟨t.id, g.id, g.publicationGeneration, .active⟩)
    (inserted : s.attempts.insert? a = some attempts)
    (queued : ∀ k ∈ jobs.rows, k ∈ s.jobs.rows ∨ k = j) (group : j.errorGroupID = some g.id)
    (ticket : j.ticketID = some t.id) (attempt : j.fixAttemptID = some a.id) {frame} :
    Reaches s ({ s with attempts, jobs }.updateIncident g.id Incident.startFix frame) := by
  obtain ⟨row, ticketRow, -⟩ := TicketStore.getIncident_eq_some_iff.mp found
  have own : t.id = g.ticketID := Table.key_of_find? ticketRow
  have incident : s.lineage.incidents g.id = some g.state := by simp [TicketStore.lineage, row]
  have fresh : s.lineage.attempts a.id = none := by
    simp [TicketStore.lineage, (Table.insert?_spec inserted).1]
  have next : ({ s with attempts, jobs }.updateIncident g.id Incident.startFix frame).lineage =
      s.lineage.settle a.id ⟨g.state.ticketID, g.id, g.state.generation, .active⟩ g.state := by
    refine Lineage.ext rfl ?_ ?_
    · funext h
      simp only [TicketStore.lineage, TicketStore.updateIncident, IncidentTable.updateWhere,
        Table.find?_updateWhere, Lineage.settle, Option.map_map]
      by_cases here : h = g.id
      · simp [here, row, Incident.startFix, Incident.state, AttemptStatus.substate, live]
      · rw [if_neg here]
        refine Option.map_congr fun i other => ?_
        have differ : i.id ≠ g.id := fun same => here ((Table.key_of_find? other).symm.trans same)
        simp [differ]
    · funext b
      simp only [TicketStore.lineage, TicketStore.updateIncident, Table.find?_insert? inserted,
        Lineage.settle]
      by_cases here : b = a.id
      · simp [here, state, own, Incident.state]
      · simp [here]
  have alone : ∀ b y, s.lineage.attempts b = some y → y.groupID = g.id → ¬y.status.Outstanding := by
    intro b y found here outstanding
    obtain ⟨c, row', rfl⟩ := Option.map_eq_some_iff.mp found
    obtain ⟨h, member, id, ticket', generation, -⟩ :=
      outstanding_incident sound (Table.mem_of_find? row') outstanding
    obtain rfl : h = g := s.incidents.table.inj member
      (Table.mem_of_find? row) (id.trans here)
    exact free ⟨c, Table.mem_of_find? row', ticket'.symm.trans own.symm, generation.symm, outstanding⟩
  refine sound.reaches ?_ ?_ ?_
  · rw [next]
    exact .single (.startFix g.id a.id g.state incident (decide_eq_false live) unresolved alone fresh)
  · rw [next]
    refine Lineage.extends_settle incident fun y old => ?_
    rw [fresh] at old
    cases old
  · intro k member work
    rcases queued k member with old | rfl
    · exact Or.inl ⟨k, old, .refl k⟩
    · rw [next]
      refine Or.inr ⟨fun h here => ?_, fun b here => ?_⟩
      · rw [group, Option.some.injEq] at here
        subst here
        exact ⟨{ g.state with substate := .fixing }, by simp [Lineage.settle, AttemptStatus.substate],
          ticket.trans (congrArg some own), fun _ => decide_eq_false live⟩
      · rw [attempt, Option.some.injEq] at here
        subst here
        exact ⟨⟨g.state.ticketID, g.id, g.state.generation, .active⟩, by simp [Lineage.settle], group⟩

variable {attemptID jobID : UUID}

theorem reaches_requestTicketFix {projectID groupID : UUID} {guidance : String}
    {expected : Option TicketFixExpectation} {now clock : Timestamp} (sound : Sound s)
    (done : requestTicketFix s projectID groupID guidance expected attemptID jobID now
      clock = .ok s') : Reaches s s' := by
  obtain ⟨g, t, attempts, jobs, found, checks, -, free, -, inserted, queued, rfl⟩ :=
    requestTicketFix_effect done
  obtain rfl : g.id = groupID := Table.key_of_find? (TicketStore.getIncident_eq_some_iff.mp found).1
  exact reaches_admit sound found checks.2.2.2.1 checks.2.2.2.2.1 free rfl inserted
    (fun k member => ((Table.mem_insert? queued).mp member).symm) rfl rfl rfl

theorem reaches_requestFix {projectID ticketID : UUID} {generation : Nat}
    {requestedBy : Jobs.RequestedBy} {guidance : Option String} {maxOpenFixPrs : Nat}
    {r : FixRequest} (sound : Sound s)
    (done : requestFix s projectID ticketID generation requestedBy guidance maxOpenFixPrs attemptID jobID
      now = .ok (s', r)) : Reaches s s' := by
  rcases requestFix_cases done with ⟨rfl, -⟩ | ⟨-, g, t, attempts, found, ticket, generation', checks, -,
    free, -, -, inserted, rfl⟩
  · exact .refl sound
  · have own : t.id = ticketID :=
      (Table.key_of_find? (TicketStore.getIncident_eq_some_iff.mp found).2.1).trans ticket
    subst own generation'
    exact reaches_admit sound found checks.2.2.2.1 checks.2.2.2.2.1 free rfl inserted
      (fun k member => Table.mem_insertIgnore member) rfl rfl rfl

theorem reaches_advance {a : FixAttempt} {status : AttemptStatus} {p : Incident → Bool}
    {q : FixAttempt → Bool} {f : Incident → Incident} {k : FixAttempt → FixAttempt}
    (frame : ∀ g : Incident, g.SameKey (f g)) (frame' : ∀ a, (k a).id = a.id) (sound : Sound s)
    (member : a ∈ s.attempts.rows) (outstanding : a.Outstanding) (left : status ≠ .active)
    (incident : ∀ g ∈ s.incidents.table.rows, g.id = a.errorGroupID →
      p g = true ∧ (f g).state = { g.state with substate := status.substate })
    (others : ∀ g ∈ s.incidents.table.rows, p g = true → g.id = a.errorGroupID)
    (attempt : ∀ b ∈ s.attempts.rows, q b = true ↔ b.id = a.id)
    (state : (k a).state = { a.state with status })
    (tickets : s'.lineage.tickets = s.lineage.tickets)
    (incidents : s'.incidents = s.incidents.updateWhere p f frame)
    (attempts : s'.attempts = s.attempts.updateWhere q k frame') (follows : Follows s s') :
    Reaches s s' := by
  obtain ⟨g, row, id, -⟩ := outstanding_incident sound member outstanding
  have found : s.lineage.attempts a.id = some a.state := by
    simp [TicketStore.lineage, s.attempts.find?_key member]
  have group : s.lineage.incidents a.state.groupID = some g.state := by
    rw [show a.state.groupID = g.id from id.symm]
    simp [TicketStore.lineage, s.incidents.table.find?_key row]
  have next : s'.lineage = s.lineage.settle a.id { a.state with status } g.state := by
    refine Lineage.ext tickets ?_ ?_
    · funext h
      simp only [TicketStore.lineage, incidents, IncidentTable.updateWhere, Table.find?_updateWhere,
        Lineage.settle, Option.map_map]
      by_cases here : h = a.errorGroupID
      · obtain ⟨selected, updated⟩ := incident g row id
        have present : s.incidents.table.find? h = some g := by
          rw [here, ← id]
          exact s.incidents.table.find?_key row
        rw [if_pos (show h = a.state.groupID from here), present]
        simp [selected, updated]
      · rw [if_neg (show h ≠ a.state.groupID from here)]
        refine Option.map_congr fun i other => ?_
        have skipped : ¬p i = true := fun selected =>
          here ((Table.key_of_find? other).symm.trans (others i (Table.mem_of_find? other) selected))
        simp [skipped]
    · funext b
      simp only [TicketStore.lineage, attempts, Table.find?_updateWhere, Lineage.settle,
        Option.map_map]
      by_cases here : b = a.id
      · subst here
        simp [s.attempts.find?_key member, (attempt a member).mpr rfl, state]
      · rw [if_neg here]
        refine Option.map_congr fun c other => ?_
        have skipped : ¬q c = true := fun selected =>
          here ((Table.key_of_find? other).symm.trans
            ((attempt c (Table.mem_of_find? other)).mp selected))
        simp [skipped]
  refine sound.reaches ?_ ?_ follows
  · rw [next]
    exact .single (.advance a.id a.state g.state status found group outstanding left)
  · rw [next]
    refine Lineage.extends_settle group fun y old => ?_
    rw [found, Option.some.injEq] at old
    rw [← old]

theorem substate_attemptStatus (kind : PREventKind) : kind.substate = kind.attemptStatus.substate := by
  cases kind <;> rfl

variable {e : PrEvent}

theorem eventState_spec {g : Incident} {a : FixAttempt}
    (found : eventState s projectID e = some (g, a)) :
    s.attempts.find? e.attemptID = some a ∧ s.incidents.table.find? e.errorGroupID = some g ∧
      a.ticketID = e.ticketID ∧ a.errorGroupID = g.id := by
  obtain ⟨b, attempt, found⟩ := Option.bind_eq_some_iff.mp found
  obtain ⟨⟨h, t⟩, incident, found⟩ := Option.bind_eq_some_iff.mp found
  obtain ⟨own, same⟩ := Option.ite_none_right_eq_some.mp found
  cases same
  exact ⟨attempt, (TicketStore.getIncident_eq_some_iff.mp incident).1, own⟩

theorem reaches_applyCurrent {g : Incident} {a : FixAttempt} (sound : Sound s)
    (found : eventState s projectID e = some (g, a)) (current : fixEventCurrent t g a e) :
    Reaches s (applyCurrent s e) := by
  obtain ⟨attempt, incident, -, group⟩ := eventState_spec found
  have id : a.id = e.attemptID := Table.key_of_find? attempt
  have id' : g.id = e.errorGroupID := Table.key_of_find? incident
  have left : e.event.attemptStatus ≠ .active := by cases e.event <;> decide
  have shown : e.event.groupStatus ≠ .archived := by cases e.event <;> decide
  refine reaches_advance (p := fun h => h.id = e.errorGroupID) (q := fun b => b.id = e.attemptID)
    (f := Incident.applyEvent e) (k := FixAttempt.applyEvent e) (fun _ => ⟨rfl, rfl, rfl⟩)
    (fun _ => rfl) sound (Table.mem_of_find? attempt) current.2.2.2.2.2.1 left
    ?_ ?_ ?_ rfl ?_ ?_ ?_ ?_
  · intro h member here
    obtain rfl : h = g := s.incidents.table.inj member
      (Table.mem_of_find? incident) (here.trans group)
    refine ⟨decide_eq_true id', ?_⟩
    simp [Incident.applyEvent, Incident.state, shown, current.2.2.2.1, substate_attemptStatus]
  · intro h member selected
    exact (of_decide_eq_true selected).trans (id'.symm.trans group.symm)
  · intro b member
    rw [decide_eq_true_eq, id]
  · funext u
    unfold applyCurrent
    dsimp only
    split
    · exact congrFun (congrArg Lineage.tickets (lineage_updateTicket _ e.ticketID
        (f := FrictionTicket.fix e.occurredAt) (fun _ => ⟨rfl, rfl, rfl⟩) fun _ => rfl)) u
    · rfl
  all_goals
    unfold applyCurrent
    dsimp only
    split
  · rfl
  · rfl
  · rfl
  · rfl
  · exact .of_eq rfl
  · exact .of_eq rfl

theorem not_outstanding_of_retired {g : Incident} {a : FixAttempt} (sound : Sound s)
    (ticket : s.getTicket projectID e.ticketID = some t)
    (found : eventState s projectID e = some (g, a)) (retired : lineageRetired t g a) :
    ¬a.Outstanding := by
  intro outstanding
  obtain ⟨attempt, incident, own, group⟩ := eventState_spec found
  obtain ⟨h, member, id, ticketID, generation, live, -⟩ :=
    outstanding_incident sound (Table.mem_of_find? attempt) outstanding
  obtain rfl : h = g := s.incidents.table.inj member
    (Table.mem_of_find? incident) (id.trans group)
  have shown : s.lineage.incidents h.id = some h.state := by
    simp [TicketStore.lineage, s.incidents.table.find?_key member]
  obtain ⟨p, row, published, current⟩ := sound.coherent.live h.id h.state shown (decide_eq_false live)
  have found' := (TicketStore.getTicket_eq_some_iff.mp ticket).1
  rw [show h.state.ticketID = e.ticketID from ticketID.trans own] at row
  simp only [TicketStore.lineage, found', Option.map_some, Option.some.injEq] at row
  subst row
  rcases retired with withdrawn | older | archived
  · exact withdrawn (of_decide_eq_true published)
  · exact older (generation.symm.trans current)
  · exact live archived

variable {factID : UUID}

theorem reaches_applyPrEvent {applied : Bool} (sound : Sound s)
    (done : applyPrEvent s projectID e factID now = .ok (s', applied)) : Reaches s s' := by
  unfold applyPrEvent at done
  split at done
  · cases done
    exact .refl sound
  · rename_i t ticket
    obtain ⟨⟨prEvents, fact⟩, recorded, done⟩ := Except.of_bind done
    dsimp only at done
    have noted : Reaches s { s with prEvents } := sound.same rfl (.of_eq rfl)
    split at done
    · cases done
      exact noted
    · cases done
      refine noted.trans ?_
      have event : Reaches { s with prEvents }
          (if (eventState { s with prEvents } projectID e).any fun p => fixEventCurrent t p.1 p.2 e then
            applyCurrent { s with prEvents } e
          else if e.event = .orphan ∧ (eventState { s with prEvents } projectID e).any
              (fun p => lineageRetired t p.1 p.2) then
            { s with prEvents }.updateAttempt e.attemptID (FixAttempt.orphan e) fun _ => rfl
          else { s with prEvents }) := by
        split
        · rename_i current
          obtain ⟨⟨g, a⟩, found, current⟩ := (Option.any_eq_true ..).mp current
          exact reaches_applyCurrent noted.sound found (of_decide_eq_true current)
        · split
          · rename_i orphaned
            obtain ⟨⟨g, a⟩, found, retired⟩ := (Option.any_eq_true ..).mp orphaned.2
            have past := not_outstanding_of_retired noted.sound ticket found (of_decide_eq_true retired)
            refine noted.sound.same (lineage_updateAttempt _ _ _ ?_) (.of_eq rfl)
            intro b member id
            obtain rfl : b = a := s.attempts.inj member
              (Table.mem_of_find? (eventState_spec found).1)
              (id.trans (Table.key_of_find? (eventState_spec found).1).symm)
            simp [FixAttempt.orphan, FixAttempt.notePr, FixAttempt.state, past]
          · exact .refl noted.sound
      exact event.trans (event.sound.same rfl (.of_eq rfl))

variable {job : Job}

theorem reaches_recordAttemptPr {repo url : String} {number : Nat}
    {occurredAt now clock clock' : Timestamp} {applied : Bool} (sound : Sound s)
    (done : recordAttemptPr s job repo url number factID occurredAt now clock clock' =
      .ok (s', applied)) : Reaches s s' := by
  unfold recordAttemptPr at done
  split at done
  · rename_i ticketID generation attemptID groupID _ _ _ _
    obtain ⟨⟨s₁, applied₁⟩, event, done⟩ := Except.of_bind done
    have reached := reaches_applyPrEvent sound event
    dsimp only at done
    split at done
    · cases done
      exact reached.trans (reached.sound.same (lineage_updateIncidents s₁ (fun g => g.id = groupID)
        (f := Incident.recordPr job.id now) (fun _ => ⟨rfl, rfl, rfl⟩) fun _ _ _ => rfl) (.of_eq rfl))
    · cases done
      exact reached
  · cases done

theorem reaches_failFix {projectID ticketID : UUID} (sound : Sound s) (member : job ∈ s.jobs.rows)
    (fix : job.jobType = .fix) (found : s.getTicket projectID ticketID = some t) :
    Reaches s (failFix s job ticketID
      (t.status = .published ∧ some t.liveGeneration = job.publicationGeneration)) := by
  obtain ⟨row, -⟩ := TicketStore.getTicket_eq_some_iff.mp found
  by_cases failing : s.attempts.any (Failing job ticketID) = true
  · obtain ⟨a, present, selected⟩ := List.any_eq_true.mp failing
    have selected' := selected
    simp only [Failing, decide_eq_true_eq] at selected'
    obtain ⟨id, ticket, generation, active⟩ := selected'
    obtain ⟨g, rowG, idG, ticketG, generationG, live, substate⟩ :=
      outstanding_incident sound present (Or.inl active)
    -- the attempt is active, so its ticket is published at its generation
    have shown : s.lineage.incidents g.id = some g.state := by
      simp [TicketStore.lineage, s.incidents.table.find?_key rowG]
    obtain ⟨p, published, live', current⟩ :=
      sound.coherent.live g.id g.state shown (decide_eq_false live)
    rw [show g.state.ticketID = ticketID from ticketG.trans ticket] at published
    simp only [TicketStore.lineage, row, Option.map_some, Option.some.injEq] at published
    subst published
    have now_ : t.status = .published ∧ some t.liveGeneration = job.publicationGeneration :=
      ⟨of_decide_eq_true live', generation ▸ congrArg some (generationG.symm.trans current).symm⟩
    obtain ⟨x, attempt, group⟩ := (sound.attached job member (Or.inr fix)).attempt a.id id.symm
    simp only [TicketStore.lineage, s.attempts.find?_key present, Option.map_some,
      Option.some.injEq] at attempt
    subst attempt
    have only : ∀ b ∈ s.attempts.rows, Failing job ticketID b = true ↔ b.id = a.id := by
      intro b memB
      constructor
      · intro other
        simp only [Failing, decide_eq_true_eq] at other
        exact Option.some.inj (other.1.trans id.symm)
      · intro same
        rwa [s.attempts.inj memB present same]
    unfold failFix
    dsimp only
    rw [if_pos ⟨decide_eq_true now_, failing⟩, decide_eq_true now_]
    refine reaches_advance (p := fun g => some g.id = job.errorGroupID ∧
        some g.publicationGeneration = job.publicationGeneration ∧ g.status ≠ .archived ∧
        g.fixSubstate = .fixing) (q := Failing job ticketID) (f := Incident.abandonFix)
      (k := FixAttempt.fail true) (fun _ => ⟨rfl, rfl, rfl⟩) (fun _ => rfl) sound present
      (Or.inl active) (show AttemptStatus.failed ≠ .active by decide) ?_ ?_ only rfl rfl rfl rfl (.of_eq rfl)
    · intro h memH here
      obtain rfl : h = g := s.incidents.table.inj memH rowG
        (here.trans idG.symm)
      refine ⟨?_, ?_⟩
      · rw [active] at substate
        simp only [group, decide_eq_true_eq]
        exact ⟨congrArg some here, generation ▸ congrArg some generationG, live, substate⟩
      · simp [Incident.abandonFix, Incident.state, AttemptStatus.substate, live]
    · intro h _ chosen
      simp only [group, decide_eq_true_eq, Option.some.injEq] at chosen
      exact chosen.1
  · have none : ∀ b ∈ s.attempts.rows, ¬Failing job ticketID b = true := fun b memB chosen =>
      failing (List.any_eq_true.mpr ⟨b, memB, chosen⟩)
    unfold failFix
    dsimp only
    rw [if_neg fun h => failing h.2]
    refine sound.same (Lineage.ext rfl rfl ?_) (.of_eq rfl)
    funext b
    change Option.map FixAttempt.state _ = Option.map FixAttempt.state _
    exact s.attempts.map_find?_updateWhere (f := FixAttempt.fail _) (fun _ => rfl)
      (fun c memC chosen => absurd chosen (none c memC)) b

theorem reaches_failInvestigation (sound : Sound s) (job : Job) (ticketID : UUID) :
    Reaches s (failInvestigation s job ticketID) := by
  unfold failInvestigation
  split
  · exact .refl sound
  · split
    · exact .refl sound
    · rename_i g _
      split
      · refine sound.same ?_ (.of_eq rfl)
        refine (lineage_updateTicket _ ticketID (f := FrictionTicket.needReinvestigate)
          (fun _ => ⟨rfl, rfl, rfl⟩) fun _ => rfl).trans ?_
        refine lineage_updateIncidents s _ (f := Incident.failInvestigation _)
          (fun _ => ⟨rfl, rfl, rfl⟩) fun _ _ _ => rfl
      · exact .refl sound

theorem reaches_discardBatch (sound : Sound s) (batchID : UUID) :
    Reaches s (discardBatch s batchID) := by
  unfold discardBatch
  split
  · exact .refl sound
  · split
    · exact sound.same (lineage_updateTicket _ _ (f := FrictionTicket.needReconcile)
        (fun _ => ⟨rfl, rfl, rfl⟩) fun _ => rfl) (.of_eq rfl)
    · exact .refl sound

theorem reaches_attemptFailed (sound : Sound s) (jobID projectID : UUID) :
    Reaches s (attemptFailed s jobID projectID).1 := by
  unfold attemptFailed
  split
  · exact .refl sound
  · rename_i job found
    have member := Table.mem_of_find? (Option.filter_eq_some_iff.mp found).1
    split
    · exact .refl sound
    · split
      · exact .refl sound
      · rename_i t ticket
        by_cases fix : job.jobType = .fix
        · simp only [fix]
          exact reaches_failFix sound member fix ticket
        · dsimp only
          rw [if_neg fix]
          split
          · split
            · rename_i batchID _ _
              have discarded := reaches_discardBatch sound batchID
              exact discarded.trans (reaches_failInvestigation discarded.sound job _)
            · exact reaches_failInvestigation sound job _
          · split
            · exact reaches_discardBatch sound _
            · exact .refl sound

theorem Lineage.extends_create (t : UUID) : l.Extends (l.create t) :=
  ⟨fun _ i found => ⟨i, found, rfl, rfl⟩, fun _ x found => ⟨x, found, rfl⟩⟩

theorem reaches_createTicket (sound : Sound s) (state : t.state = ⟨false, 0⟩)
    (done : createTicket s t = .ok s') : Reaches s s' := by
  unfold createTicket at done
  split at done
  · cases done
  · rename_i tickets inserted
    cases done
    have fresh : s.lineage.tickets t.id = none := by
      simp [TicketStore.lineage, (Table.insert?_spec inserted).1]
    have next : TicketStore.lineage { s with
        tickets
        scope := s.scope.grow fun _ known => (Table.mem_insert? inserted).mpr (Or.inr known) } =
        s.lineage.create t.id := by
      refine Lineage.ext ?_ rfl rfl
      funext u
      simp only [TicketStore.lineage, Table.find?_insert? inserted, Lineage.create]
      by_cases here : u = t.id
      · simp [here, state]
      · simp [here]
    refine sound.reaches ?_ ?_ (.of_eq rfl)
    · rw [next]
      exact .single (.create t.id fresh)
    · rw [next]
      exact Lineage.extends_create t.id

theorem recordMatch_quiet {input : MatchInput} {new : Bool}
    (done : recordMatch s input = .ok (s', new)) : s'.lineage = s.lineage ∧ s'.jobs = s.jobs := by
  unfold recordMatch at done
  split at done
  · cases done
  · split at done
    · cases done
    · split at done
      · cases done
        exact ⟨lineage_updateTicket _ _ (f := FrictionTicket.count _) (fun _ => ⟨rfl, rfl, rfl⟩)
          fun _ => rfl, rfl⟩
      · cases done

theorem foldMatches_quiet {target : FrictionTicket} {source : Evidence} {matched : List TicketMatch}
    (done : foldMatches target source s matched = .ok s') :
    s'.lineage = s.lineage ∧ s'.jobs = s.jobs := by
  induction matched generalizing s with
  | nil =>
    cases done
    exact ⟨rfl, rfl⟩
  | cons m rest ih =>
    obtain ⟨⟨s₁, new⟩, first, done⟩ := Except.of_bind done
    obtain ⟨lineage, jobs⟩ := recordMatch_quiet first
    obtain ⟨lineage', jobs'⟩ := ih done
    exact ⟨lineage'.trans lineage, jobs'.trans jobs⟩

theorem cancelMerged_id (j : Job) : (cancelMerged j).id = j.id := rfl

theorem cancelMerged_advanced (jobs : JobTable) (p : Job → Bool) :
    Jobs.Advanced jobs (jobs.updateWhere p cancelMerged cancelMerged_id) := by
  refine Jobs.advanced_updateWhere jobs p cancelMerged cancelMerged_id fun j _ _ =>
    ⟨⟨rfl, rfl, rfl, rfl, rfl, rfl, rfl⟩, fun active => ?_⟩
  rcases active with stopped | stopped <;> cases stopped

theorem follows_enqueue {j : Job} (other : ¬Work j) :
    Follows s { s with jobs := Jobs.enqueueJobTx s.jobs j } := by
  intro j' member work
  rcases Jobs.mem_enqueueJobTx member with old | rfl
  · exact Or.inl ⟨j', old, .refl j'⟩
  · exact absurd work other

theorem reaches_foldInto {source target : FrictionTicket} (sound : Sound s)
    (done : foldInto s source target jobID now = .ok s') :
    Reaches s s' := by
  obtain ⟨-, done⟩ := Except.of_guard done
  obtain ⟨f, lockedF, done⟩ := Except.of_bind done
  obtain ⟨t, lockedT, done⟩ := Except.of_bind done
  obtain ⟨lifecycle, done⟩ := Except.of_guard done
  obtain ⟨-, done⟩ := Except.of_guard done
  obtain ⟨s₁, folded, done⟩ := Except.of_bind done
  obtain ⟨updated, -, done⟩ := Except.of_bind done
  obtain ⟨found, -⟩ := find?_of_lockTicket lockedF
  have hidden : f.status ≠ .published := by
    intro published
    simp [published] at lifecycle
  obtain ⟨lineage, jobs⟩ := foldMatches_quiet folded
  have matched : Reaches s s₁ := sound.same lineage (.of_eq jobs)
  let absorbed : TicketStore := { s₁.updateTicket t.id FrictionTicket.absorb
    fun _ => ⟨rfl, rfl, rfl⟩ with
    observationDecisions := s₁.observationDecisions.updateWhere (fun d => d.ticketID = some f.id)
      (ObservationDecision.fold t.id now) fun _ => rfl }
  have same : absorbed.lineage = s.lineage :=
    (lineage_updateTicket s₁ t.id (f := FrictionTicket.absorb) (fun _ => ⟨rfl, rfl, rfl⟩)
      fun _ => rfl).trans lineage
  -- the folded ticket was not published, and is not now
  have merged : (absorbed.updateTicket f.id (FrictionTicket.mergeInto t.id)
      fun _ => ⟨rfl, rfl, rfl⟩).lineage = absorbed.lineage := by
    refine lineage_updateTicket_of fun u member id => ?_
    have row : absorbed.lineage.tickets f.id = some u.state := by
      simp [TicketStore.lineage, ← id, absorbed.tickets.find?_key member]
    rw [same] at row
    simp only [TicketStore.lineage, found, Option.map_some, Option.some.injEq] at row
    have state : u.state = ⟨false, u.liveGeneration⟩ := by
      rw [← row]
      simp only [FrictionTicket.state, hidden, TicketState.mk.injEq, decide_false, true_and]
      exact congrArg TicketState.live row
    rw [state]
    rfl
  let after : TicketStore := { absorbed.updateTicket f.id (FrictionTicket.mergeInto t.id)
    fun _ => ⟨rfl, rfl, rfl⟩ with
    jobs := s₁.jobs.updateWhere (fun j => j.ticketID = some f.id ∧ j.jobType = .frictionConfirm ∧
      j.status = .pending) cancelMerged fun _ => rfl }
  have cancelled : Reaches s after := by
    refine matched.trans (matched.sound.same ?_ (.of_advanced (cancelMerged_advanced s₁.jobs _)))
    exact merged.trans (same.trans lineage.symm)
  rw [Except.ok.injEq] at done
  rw [← done]
  split
  · exact cancelled.trans (cancelled.sound.same rfl (follows_enqueue (j := confirmJob updated jobID now)
      (by rintro (h | h) <;> cases h)))
  · exact cancelled

theorem reserveDecision_quiet (s : TicketStore) (signalID : String) (environmentID : UUID)
    (leaseMs : Int) (now : Timestamp) :
    (reserveDecision s signalID environmentID leaseMs now).1.lineage = s.lineage ∧
      (reserveDecision s signalID environmentID leaseMs now).1.jobs = s.jobs := by
  unfold reserveDecision
  split
  · exact ⟨rfl, rfl⟩
  · split
    · exact ⟨rfl, rfl⟩
    · split <;> exact ⟨rfl, rfl⟩

variable {projectID environmentID : UUID} {decision : MatchDecision}

theorem reaches_decisionTicket {r : Option (FrictionTicket × DecidedBy) × ObservationOutcome}
    (sound : Sound s) (done : decisionTicket s projectID environmentID decision = .ok (s', r)) :
    Reaches s s' := by
  cases decision with
  | create ticketID kind =>
    obtain ⟨s₁, created, same⟩ := Except.of_bind done
    cases same
    exact reaches_createTicket sound rfl created
  | known ticketID decidedBy =>
    obtain ⟨t, -, same⟩ := Except.of_bind done
    cases same
    exact .refl sound
  | notAProblem =>
    cases done
    exact .refl sound

variable {r : Option (FrictionTicket × DecidedBy)}

theorem reaches_decideObservation {signalID : String} (sound : Sound s)
    (done : decideObservation s projectID environmentID signalID decision now = .ok (s', r)) :
    Reaches s s' := by
  obtain ⟨⟨s₁, ticket, outcome⟩, decided, done⟩ := Except.of_bind done
  have first := reaches_decisionTicket sound decided
  dsimp only [commitDecision] at done
  split at done
  · cases done
    exact first.trans (first.sound.same rfl (.of_eq rfl))
  · cases done

theorem reaches_observationTicket {signalID : String} {leaseMs : Int} (sound : Sound s)
    (done : observationTicket s projectID environmentID signalID decision leaseMs now = .ok (s', r)) :
    Reaches s s' := by
  unfold observationTicket at done
  obtain ⟨lineage, jobs⟩ := reserveDecision_quiet s signalID environmentID leaseMs now
  split at done
  · rename_i s₁ reserved
    rw [reserved] at lineage jobs
    have first : Reaches s s₁ := sound.same lineage (.of_eq jobs)
    exact first.trans (reaches_decideObservation first.sound done)
  · rename_i s₁ reserved
    rw [reserved] at lineage jobs
    obtain ⟨ticket, -, same⟩ := Except.map_eq_ok_iff.mp done
    cases same
    exact sound.same lineage (.of_eq jobs)

theorem reaches_matchObservation {sessionID signalID : String} {startedAt : Timestamp}
    {backfill : Bool} {leaseMs : Int} (sound : Sound s)
    (done : matchObservation s projectID environmentID sessionID signalID startedAt backfill decision
      leaseMs now = .ok s') : Reaches s s' := by
  obtain ⟨⟨s₁, ticket⟩, decided, done⟩ := Except.of_bind done
  have first := reaches_observationTicket sound decided
  dsimp only at done
  split at done
  · cases done
    exact first
  · obtain ⟨⟨s₂, new⟩, matched, same⟩ := Except.of_bind done
    cases same
    obtain ⟨lineage, jobs⟩ := recordMatch_quiet matched
    exact first.trans (first.sound.same lineage (.of_eq jobs))

theorem reaches_assertFixAttemptCurrent {delivery : Bool} {maxOpenFixPrs : Nat}
    {now clock clock' : Timestamp} (sound : Sound s)
    (done : assertFixAttemptCurrent s job delivery maxOpenFixPrs now clock clock' = .ok s') :
    Reaches s s' := by
  unfold assertFixAttemptCurrent at done
  split at done
  · cases done
  · split at done
    · obtain ⟨-, done⟩ := Except.of_guard done
      obtain ⟨s₁, reserved, done⟩ := Except.of_bind done
      obtain ⟨-, same⟩ := Except.of_guard done
      cases same
      split at reserved
      · unfold reserveSlot at reserved
        obtain ⟨-, reserved⟩ := Except.of_guard reserved
        split at reserved
        · cases reserved
          exact .refl sound
        · obtain ⟨-, same⟩ := Except.of_guard reserved
          cases same
          exact sound.same (lineage_updateAttempt s _ (f := FixAttempt.reserve now) (fun _ => rfl)
            fun _ _ _ => rfl) (.of_eq rfl)
      · cases reserved
        exact .refl sound
    · cases done

theorem reaches_processTicketPRWebhook {w : TicketPRWebhook} {r : PRWebhookResult} (sound : Sound s)
    (done : processTicketPRWebhook s w factID jobID now = .ok (s', r)) : Reaches s s' := by
  unfold processTicketPRWebhook at done
  obtain ⟨-, done⟩ := Except.of_guard done
  split at done
  · cases done
    exact .refl sound
  · split at done
    · cases done
      exact .refl sound
    · obtain ⟨g, -, done⟩ := Except.of_bind done
      obtain ⟨t, -, done⟩ := Except.of_bind done
      obtain ⟨-, done⟩ := Except.of_guard done
      obtain ⟨-, done⟩ := Except.of_guard done
      obtain ⟨prEvents, -, done⟩ := Except.of_bind done
      obtain ⟨jobs, queued, same⟩ := Except.of_bind done
      cases same
      rw [Option.orError_eq_ok_iff, Jobs.insertJob?] at queued
      split at queued
      · cases queued
      · refine sound.same rfl fun j' member work => ?_
        rcases (Table.mem_insert? queued).mp member with rfl | old
        · rcases work with h | h <;> cases h
        · exact Or.inl ⟨j', old, .refl j'⟩

theorem reaches_processPrEventJob {now clock clock' : Timestamp} (sound : Sound s)
    (done : processPrEventJob s job factID now clock clock' = .ok s') : Reaches s s' := by
  unfold processPrEventJob at done
  split at done
  · cases done
  · obtain ⟨-, done⟩ := Except.of_guard done
    obtain ⟨s₁, applied, done⟩ := Except.of_bind done
    obtain ⟨-, same⟩ := Except.of_guard done
    cases same
    split at applied
    · cases applied
      exact .refl sound
    · obtain ⟨⟨s₂, r⟩, event, rfl⟩ := Except.map_eq_ok_iff.mp applied
      exact reaches_applyPrEvent sound event

theorem reaches_reinvestigate {finishingJobID : Option UUID} (sound : Sound s)
    (done : reinvestigate s ticket finishingJobID jobID now = .ok s') : Reaches s s' := by
  unfold reinvestigate at done
  obtain ⟨t, -, done⟩ := Except.of_bind done
  split at done
  · cases done
    exact .refl sound
  · split at done
    · cases done
      exact .refl sound
    · rename_i g live
      cases done
      have selected := List.find?_some live
      simp only [decide_eq_true_eq] at selected
      have shown : s.lineage.incidents g.id = some g.state := by
        simp [TicketStore.lineage, s.incidents.table.find?_key (List.mem_of_find?_eq_some live)]
      exact reaches_enqueueTicketInvestigation sound _ shown selected.1 (decide_eq_false selected.2)
        finishingJobID jobID now

theorem reaches_investigate (sound : Sound s) (groupID : UUID) (note : InvestigationNote)
    (decision : Option DiagnosisDecision) :
    Reaches s (investigate s groupID note decision) := by
  refine sound.same ?_ (.of_eq rfl)
  refine lineage_updateIncidents s (fun g => g.id = groupID ∧ g.status ≠ .archived)
    (f := Incident.note note) (fun _ => ⟨rfl, rfl, rfl⟩) fun g _ selected => ?_
  have open_ := (of_decide_eq_true selected).2
  simp only [Incident.note, Incident.state, IncidentState.mk.injEq, true_and, and_true]
  split <;> simp_all

theorem reaches_reconcileAll (ticketIDs : List UUID) (now : Timestamp) (sound : Sound s) :
    Reaches s (reconcileAll s ticketIDs now) := by
  induction ticketIDs generalizing s with
  | nil => exact .refl sound
  | cons t rest ih =>
    have first := reaches_frictionReconcileAfterDelete sound t now
    exact first.trans (ih first.sound)

theorem reaches_deleteMarkedSession (sound : Sound s) (sessionID : String) (now : Timestamp) :
    Reaches s (deleteMarkedSession s sessionID now) := by
  unfold deleteMarkedSession
  split
  · exact .refl sound
  · dsimp only
    refine Reaches.trans ?_ (reaches_reconcileAll _ now ?_)
    · exact sound.same rfl (.of_eq rfl)
    · have purged : Reaches s { s with
          evidence := s.evidence.purge sessionID
          scope := s.scope.purge sessionID
          observationDecisions := s.observationDecisions.deleteWhere fun d =>
            (s.evidence.signals.find? d.signalID).any fun f => f.sessionID = sessionID } :=
        sound.same rfl (.of_eq rfl)
      exact purged.sound

theorem reaches_frictionSetSessionIdentity (sound : Sound s) (sessionID : String)
    (user : Option UUID) (now : Timestamp) :
    Reaches s (frictionSetSessionIdentity s sessionID user now) := by
  unfold frictionSetSessionIdentity
  split
  · exact .refl sound
  · split
    · exact .refl sound
    · dsimp only
      refine Reaches.trans ?_ (reaches_reconcileAll _ now ?_)
      · exact sound.same rfl (.of_eq rfl)
      · have identified : Reaches s { s with
            evidence := s.evidence.identify sessionID user
            scope := s.scope.identify sessionID user } :=
          sound.same rfl (.of_eq rfl)
        exact identified.sound

theorem reaches_committed {ε : Type} {r : Except ε TicketStore} (sound : Sound s)
    (reaches : ∀ s', r = .ok s' → Reaches s s') : Reaches s (Transition.committed s r) := by
  cases r with
  | ok s' => exact reaches s' rfl
  | error e => exact .refl sound

theorem reaches_committed_fst {ε α : Type} {r : Except ε (TicketStore × α)} (sound : Sound s)
    (reaches : ∀ s' a, r = .ok (s', a) → Reaches s s') :
    Reaches s (Transition.committed s (r.map Prod.fst)) := by
  cases r with
  | ok result => exact reaches result.1 result.2 rfl
  | error e => exact .refl sound

theorem reaches_step (sound : Sound s) (a : Action) : Reaches s (step s a) := by
  cases a with
  | setAutonomy | endUser | session | signal => exact sound.same rfl (.of_eq rfl)
  | deleteMarkedSession sessionID now => exact reaches_deleteMarkedSession sound sessionID now
  | frictionSetSessionIdentity sessionID user now =>
    exact reaches_frictionSetSessionIdentity sound sessionID user now
  | confirm ticketID note checks attempts batches =>
    exact sound.same (lineage_updateTicket _ ticketID (f := FrictionTicket.note note)
      (fun _ => ⟨rfl, rfl, rfl⟩) fun _ => rfl) (.of_eq rfl)
  | recountTicket ticketID =>
    exact sound.same (lineage_updateTicket s ticketID (f := FrictionTicket.setMatchedCount _)
      (fun _ => ⟨rfl, rfl, rfl⟩) fun _ => rfl) (.of_eq rfl)
  | investigate groupID note decision => exact reaches_investigate sound groupID note decision
  | snapshotJob jobID execution evidenceVersion =>
    refine sound.same rfl (.of_advanced (Jobs.advanced_updateWhere s.jobs (fun j => j.id = jobID)
      (snapshot execution evidenceVersion) (fun _ => rfl) fun j _ _ => ⟨⟨rfl, rfl, rfl, rfl, rfl, rfl, rfl⟩, fun active => active⟩))
  | reinvestigate => exact reaches_committed sound fun _ => reaches_reinvestigate sound
  | matchObservation => exact reaches_committed sound fun _ => reaches_matchObservation sound
  | recordMatch input =>
    refine reaches_committed_fst sound fun s' new done => ?_
    obtain ⟨lineage, jobs⟩ := recordMatch_quiet done
    exact sound.same lineage (.of_eq jobs)
  | foldInto => exact reaches_committed sound fun _ => reaches_foldInto sound
  | activateGeneration =>
    refine reaches_committed sound fun s' done => ?_
    obtain ⟨t, -, -, -, -, reached⟩ := activateGeneration_spec sound done
    exact reached
  | unpublish => exact reaches_committed sound fun _ => reaches_unpublish sound
  | archiveTicketGroup => exact reaches_committed sound fun _ => reaches_archiveTicketGroup sound
  | frictionReconcileAfterDelete ticketID now =>
    exact reaches_frictionReconcileAfterDelete sound ticketID now
  | requestTicketFix => exact reaches_committed sound fun _ => reaches_requestTicketFix sound
  | requestFix => exact reaches_committed_fst sound fun _ _ => reaches_requestFix sound
  | applyPrEvent => exact reaches_committed_fst sound fun _ _ => reaches_applyPrEvent sound
  | assertFixAttemptCurrent =>
    exact reaches_committed sound fun _ => reaches_assertFixAttemptCurrent sound
  | recordAttemptPr => exact reaches_committed_fst sound fun _ _ => reaches_recordAttemptPr sound
  | attemptFailed jobID projectID => exact reaches_attemptFailed sound jobID projectID
  | processTicketPRWebhook =>
    exact reaches_committed_fst sound fun _ _ => reaches_processTicketPRWebhook sound
  | processPrEventJob => exact reaches_committed sound fun _ => reaches_processPrEventJob sound
  | enqueue j =>
    dsimp only [step]
    split
    · exact .refl sound
    · rename_i other
      exact sound.same rfl (follows_enqueue other)
  | queue a =>
    dsimp only [step]
    split
    · rename_i progress
      exact sound.same rfl (.of_advanced (Jobs.advanced_step s.jobs progress))
    · exact .refl sound

theorem sound_empty : Sound TicketStore.empty where
  coherent := Lineage.coherent_empty
  attached := by simp [TicketStore.empty, Table.empty]

theorem sound_run (actions : List Action) : Sound (machine.run TicketStore.empty actions) :=
  machine.invariant_run Sound (fun _ a sound => (reaches_step sound a).sound) sound_empty actions

theorem moves_run (sound : Sound s) (actions : List Action) :
    ReflTransGen Lineage.Move s.lineage (machine.run s actions).lineage := by
  induction actions generalizing s with
  | nil => exact .refl
  | cons a rest ih =>
    have first := reaches_step sound a
    exact first.moves.trans (ih first.sound)

/-- What a run of transactions makes of the lineages, moves do. -/
theorem lineage_refined (actions : List Action) :
    ReflTransGen Lineage.Move .empty (machine.run TicketStore.empty actions).lineage := by
  have moves := moves_run sound_empty actions
  have none : TicketStore.empty.lineage = .empty := rfl
  rwa [none] at moves

end Opslane.Tickets
