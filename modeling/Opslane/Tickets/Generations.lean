import Opslane.Tickets.Refinement

/-!
# Publication generations and fix substates

What every store a run reaches says of its publications and of the attempts to fix them,
read off the coherence of its lineages.
-/

namespace Opslane.Tickets

open Jobs (Job)
open Relation (ReflTransGen)

section Rows

variable {s : TicketStore}

theorem ticket_state {t : FrictionTicket} (member : t ∈ s.tickets.rows) :
    s.lineage.tickets t.id = some t.state := by
  simp [TicketStore.lineage, s.tickets.find?_key member]

theorem incident_state {g : Incident} (member : g ∈ s.incidents.table.rows) :
    s.lineage.incidents g.id = some g.state := by
  simp [TicketStore.lineage, s.incidents.table.find?_key member]

theorem attempt_state {a : FixAttempt} (member : a ∈ s.attempts.rows) :
    s.lineage.attempts a.id = some a.state := by
  simp [TicketStore.lineage, s.attempts.find?_key member]

theorem exists_ticket {id : UUID} {p : TicketState} (found : s.lineage.tickets id = some p) :
    ∃ t ∈ s.tickets.rows, t.id = id ∧ t.state = p := by
  obtain ⟨t, row, rfl⟩ := Option.map_eq_some_iff.mp found
  exact ⟨t, Table.mem_of_find? row, Table.key_of_find? row, rfl⟩

theorem exists_incident {id : UUID} {i : IncidentState} (found : s.lineage.incidents id = some i) :
    ∃ g ∈ s.incidents.table.rows, g.id = id ∧ g.state = i := by
  obtain ⟨g, row, rfl⟩ := Option.map_eq_some_iff.mp found
  exact ⟨g, Table.mem_of_find? row, Table.key_of_find? row, rfl⟩

theorem exists_attempt {id : UUID} {x : AttemptState} (found : s.lineage.attempts id = some x) :
    ∃ a ∈ s.attempts.rows, a.id = id ∧ a.state = x := by
  obtain ⟨a, row, rfl⟩ := Option.map_eq_some_iff.mp found
  exact ⟨a, Table.mem_of_find? row, Table.key_of_find? row, rfl⟩

theorem incident_unique {g h : Incident} (memG : g ∈ s.incidents.table.rows)
    (memH : h ∈ s.incidents.table.rows) (same : g.id = h.id) : g = h :=
  s.incidents.table.inj memG memH same

theorem ticket_unique {t u : FrictionTicket} (memT : t ∈ s.tickets.rows) (memU : u ∈ s.tickets.rows)
    (same : t.id = u.id) : t = u :=
  s.tickets.inj memT memU same

theorem Sound.live_ticket (sound : Sound s) {g : Incident} (member : g ∈ s.incidents.table.rows)
    (live : g.status ≠ .archived) :
    ∃ t ∈ s.tickets.rows, t.id = g.ticketID ∧ t.status = .published ∧
      t.liveGeneration = g.publicationGeneration := by
  obtain ⟨p, found, published, generation⟩ :=
    sound.coherent.live g.id g.state (incident_state member) (decide_eq_false live)
  obtain ⟨t, row, id, rfl⟩ := exists_ticket found
  exact ⟨t, row, id, of_decide_eq_true published, generation.symm⟩

theorem Sound.live_incident (sound : Sound s) {t : FrictionTicket} (member : t ∈ s.tickets.rows)
    (published : t.status = .published) :
    ∃ g ∈ s.incidents.table.rows, g.ticketID = t.id ∧ g.publicationGeneration = t.liveGeneration ∧
      g.status ≠ .archived := by
  obtain ⟨id, i, found, own, generation, live⟩ :=
    sound.coherent.shown t.id t.state (ticket_state member) (decide_eq_true published)
  obtain ⟨g, row, -, rfl⟩ := exists_incident found
  exact ⟨g, row, own, generation, of_decide_eq_false live⟩

end Rows

/-- The incident of a published ticket's live generation. -/
def LiveIncident (s : TicketStore) (t : FrictionTicket) (g : Incident) : Prop :=
  t ∈ s.tickets.rows ∧ t.status = .published ∧ g ∈ s.incidents.table.rows ∧ g.ticketID = t.id ∧
    g.publicationGeneration = t.liveGeneration ∧ g.status ≠ .archived

/-- An attempt of the ticket's live generation, in a status. -/
def LiveAttempt (s : TicketStore) (t : FrictionTicket) (status : AttemptStatus) : Prop :=
  ∃ a ∈ s.attempts.rows, a.ticketID = t.id ∧ a.generation = t.liveGeneration ∧ a.status = status

/-- The substates of the live incidents are those of their attempts. -/
structure SubstatesAgree (s : TicketStore) : Prop where
  single : ∀ t g, LiveIncident s t g → ∀ a ∈ s.attempts.rows, ∀ b ∈ s.attempts.rows,
    a.ticketID = t.id → a.generation = t.liveGeneration → b.ticketID = t.id →
    b.generation = t.liveGeneration → a.Outstanding → b.Outstanding → a = b
  fixing : ∀ t g, LiveIncident s t g → (g.fixSubstate = .fixing ↔ LiveAttempt s t .active)
  prOpen : ∀ t g, LiveIncident s t g → (g.fixSubstate = .prOpen ↔ LiveAttempt s t .prOpen)
  resolved : ∀ t g, LiveIncident s t g → g.fixSubstate = .resolved → LiveAttempt s t .merged
  retired : ∀ a ∈ s.attempts.rows, a.Outstanding →
    ∃ t g, LiveIncident s t g ∧ a.ticketID = t.id ∧ a.generation = t.liveGeneration

theorem AttemptStatus.substate_inj {status : AttemptStatus} {other : AttemptStatus}
    (same : status.substate = other.substate) (some_ : other.substate ≠ .none) : status = other := by
  cases status <;> cases other <;> simp_all [AttemptStatus.substate]

theorem Sound.outstanding (sound : Sound s) {a : FixAttempt} (member : a ∈ s.attempts.rows)
    (outstanding : a.Outstanding) : ∃ t g, LiveIncident s t g ∧ g.id = a.errorGroupID ∧
      a.ticketID = t.id ∧ a.generation = t.liveGeneration ∧ g.fixSubstate = a.status.substate := by
  obtain ⟨g, row, id, ticket, generation, live, substate⟩ :=
    outstanding_incident sound member outstanding
  obtain ⟨t, rowT, own, published, current⟩ := sound.live_ticket row live
  exact ⟨t, g, ⟨rowT, published, row, own.symm, current.symm, live⟩, id,
    ticket.symm.trans own.symm, generation.symm.trans current.symm, substate⟩

theorem Sound.substate_iff (sound : Sound s) {t : FrictionTicket} {g : Incident}
    (live : LiveIncident s t g) {status : AttemptStatus} (outstanding : status.Outstanding) :
    g.fixSubstate = status.substate ↔ LiveAttempt s t status := by
  obtain ⟨rowT, published, row, own, generation, open_⟩ := live
  constructor
  · intro shown
    have some_ : status.substate ≠ .none := by rcases outstanding with rfl | rfl <;> decide
    obtain ⟨id, x, found, group, substate⟩ := sound.coherent.witnessed g.id g.state
      (incident_state row) (Or.inl (decide_eq_false open_))
      fun absent => some_ (shown.symm.trans absent)
    obtain ⟨a, rowA, -, rfl⟩ := exists_attempt found
    have same : a.status = status :=
      AttemptStatus.substate_inj (substate.trans shown) some_
    obtain ⟨i, incident, ticket, generation'⟩ := sound.coherent.linked id a.state found
    rw [group, incident_state row, Option.some.injEq] at incident
    subst incident
    exact ⟨a, rowA, ticket.symm.trans own, generation'.symm.trans generation, same⟩
  · rintro ⟨a, rowA, ticket, generation', rfl⟩
    obtain ⟨u, h, ⟨rowU, -, rowH, ownH, generationH, openH⟩, -, ticketU, -, substate⟩ :=
      sound.outstanding rowA outstanding
    have sameTicket : h.ticketID = g.ticketID := ownH.trans (ticketU.symm.trans (ticket.trans own.symm))
    rw [incident_unique row rowH (single_live sound row rowH open_ openH sameTicket.symm)]
    exact substate

variable {s : TicketStore}

theorem Sound.substates (sound : Sound s) : SubstatesAgree s where
  single := by
    intro t g live a memA b memB ticketA generationA ticketB generationB outA outB
    obtain ⟨u, h, liveH, idH, ticketU, -⟩ := sound.outstanding memA outA
    obtain ⟨v, k, liveK, idK, ticketV, -⟩ := sound.outstanding memB outB
    have sameTicket : h.ticketID = k.ticketID := by
      rw [liveH.2.2.2.1, liveK.2.2.2.1, ← ticketU, ← ticketV, ticketA, ticketB]
    have sameGroup : a.errorGroupID = b.errorGroupID := by
      rw [← idH, ← idK]
      exact single_live sound liveH.2.2.1 liveK.2.2.1 liveH.2.2.2.2.2 liveK.2.2.2.2.2 sameTicket
    have same : a.id = b.id := sound.coherent.alone a.id b.id a.state b.state (attempt_state memA)
      (attempt_state memB) sameGroup outA outB
    exact s.attempts.inj memA memB same
  fixing := fun t g live => sound.substate_iff live (Or.inl rfl)
  prOpen := fun t g live => sound.substate_iff live (Or.inr rfl)
  resolved := by
    rintro t g ⟨rowT, published, row, own, generation, open_⟩ resolved
    obtain ⟨id, x, found, group, substate⟩ := sound.coherent.witnessed g.id g.state
      (incident_state row) (Or.inl (decide_eq_false open_)) (by simp [Incident.state, resolved])
    obtain ⟨a, rowA, -, rfl⟩ := exists_attempt found
    have same : a.status = .merged :=
      AttemptStatus.substate_inj
        (substate.trans (show _ = AttemptStatus.merged.substate from resolved)) (by decide)
    obtain ⟨i, incident, ticket, generation'⟩ := sound.coherent.linked id a.state found
    rw [group, incident_state row, Option.some.injEq] at incident
    subst incident
    exact ⟨a, rowA, ticket.symm.trans own, generation'.symm.trans generation, same⟩
  retired := by
    intro a memA outstanding
    obtain ⟨t, g, live, -, ticket, generation, -⟩ := sound.outstanding memA outstanding
    exact ⟨t, g, live, ticket, generation⟩

theorem resolved_moves {l l' : Lineage} (coherent : l.Coherent)
    (moves : ReflTransGen Lineage.Move l l') {g : UUID} {i : IncidentState}
    (found : l.incidents g = some i) (resolved : i.substate = .resolved) :
    ∃ i', l'.incidents g = some i' ∧ i'.substate = .resolved := by
  induction moves with
  | refl => exact ⟨i, found, resolved⟩
  | tail earlier move ih =>
    obtain ⟨i', found', still⟩ := ih
    exact move.resolved (coherent.moves earlier) found' still

theorem resolved_run (sound : Sound s) (actions : List Action) {g : Incident}
    (member : g ∈ s.incidents.table.rows) (resolved : g.fixSubstate = .resolved) :
    ∃ g' ∈ (machine.run s actions).incidents.table.rows, g'.id = g.id ∧ g'.fixSubstate = .resolved := by
  obtain ⟨i, found, still⟩ :=
    resolved_moves sound.coherent (moves_run sound actions) (incident_state member) resolved
  obtain ⟨g', row, id, rfl⟩ := exists_incident found
  exact ⟨g', row, id, still⟩

/-- In every store a run reaches the substates agree with the attempts, and whatever the run
does next, a resolved incident stays resolved. -/
theorem substates_agree (before after : List Action) :
    SubstatesAgree (machine.run TicketStore.empty before) ∧
      ∀ g ∈ (machine.run TicketStore.empty before).incidents.table.rows, g.fixSubstate = .resolved →
        ∃ g' ∈ (machine.run TicketStore.empty (before ++ after)).incidents.table.rows,
          g'.id = g.id ∧ g'.fixSubstate = .resolved := by
  have sound := sound_run before
  refine ⟨sound.substates, fun g member resolved => ?_⟩
  rw [Transition.Machine.run_append]
  exact resolved_run sound after member resolved

/-- Publication is one incident that is not archived, of the live generation, and only such
an incident has work. -/
structure GenerationsHold (s : TicketStore) : Prop where
  published : ∀ t ∈ s.tickets.rows, t.status = .published ↔
    ∃! g, g ∈ s.incidents.table.rows ∧ g.ticketID = t.id ∧ g.status ≠ .archived
  live : ∀ t ∈ s.tickets.rows, ∀ g ∈ s.incidents.table.rows, g.ticketID = t.id →
    g.status ≠ .archived → g.publicationGeneration = t.liveGeneration
  work : ∀ j ∈ s.jobs.rows, j.jobType = .investigate ∨ j.jobType = .fix → j.Active →
    ∀ g ∈ s.incidents.table.rows, j.errorGroupID = some g.id → g.status ≠ .archived

theorem Sound.generations (sound : Sound s) : GenerationsHold s where
  published := by
    intro t member
    constructor
    · intro published
      obtain ⟨g, row, own, -, open_⟩ := sound.live_incident member published
      refine ⟨g, ⟨row, own, open_⟩, ?_⟩
      rintro h ⟨rowH, ownH, openH⟩
      exact incident_unique rowH row (single_live sound rowH row openH open_ (ownH.trans own.symm))
    · rintro ⟨g, ⟨row, own, open_⟩, -⟩
      obtain ⟨u, rowU, id, published, -⟩ := sound.live_ticket row open_
      rwa [← ticket_unique rowU member (id.trans own)]
  live := by
    intro t member g row own open_
    obtain ⟨u, rowU, id, -, generation⟩ := sound.live_ticket row open_
    rw [← generation, ticket_unique rowU member (id.trans own)]
  work := by
    intro j member work active g row own
    obtain ⟨i, found, -, live⟩ := (sound.attached j member work).incident g.id own
    rw [incident_state row, Option.some.injEq] at found
    subst found
    exact of_decide_eq_false (live active)

theorem generation_moves {l l' : Lineage} (moves : ReflTransGen Lineage.Move l l') {t : UUID}
    {p : TicketState} (found : l.tickets t = some p) :
    ∃ p', l'.tickets t = some p' ∧ p.live ≤ p'.live := by
  induction moves with
  | refl => exact ⟨p, found, le_refl _⟩
  | tail _ move ih =>
    obtain ⟨q, found', grown⟩ := ih
    obtain ⟨p', found'', step⟩ := move.generation found'
    refine ⟨p', found'', ?_⟩
    omega

theorem activateGeneration_generation {s s' : TicketStore} {ticket : FrictionTicket}
    {insightInvestigateUsers : Nat} {groupID jobID : UUID} {now : Timestamp} (sound : Sound s)
    (done : activateGeneration s ticket insightInvestigateUsers groupID jobID now = .ok s') :
    ∀ t ∈ s.tickets.rows, ∃ t' ∈ s'.tickets.rows, t'.id = t.id ∧
      t'.liveGeneration = t.liveGeneration + if t.id = ticket.id then 1 else 0 := by
  intro t member
  obtain ⟨u, locked, -, -, lineage, -⟩ := activateGeneration_spec sound done
  have own : u.id = ticket.id := by
    rw [lockTicket, Option.orError_eq_ok_iff, Option.filter_eq_some_iff] at locked
    exact Table.key_of_find? locked.1
  have row := mem_of_lockTicket locked
  by_cases here : t.id = ticket.id
  · obtain rfl := ticket_unique member row (here.trans own.symm)
    obtain ⟨t', row', id', state⟩ := exists_ticket
      (show s'.lineage.tickets t.id = some ⟨true, t.liveGeneration + 1⟩ by simp [lineage, Lineage.publish])
    exact ⟨t', row', id', by rw [if_pos here]; exact congrArg TicketState.live state⟩
  · have differ : t.id ≠ u.id := fun same => here (same.trans own)
    obtain ⟨t', row', id', state⟩ := exists_ticket (show s'.lineage.tickets t.id = some t.state by
      simp [lineage, Lineage.publish, Lineage.retire, differ, ticket_state member])
    exact ⟨t', row', id', by rw [if_neg here]; exact congrArg TicketState.live state⟩

/-- In every store a run reaches, publication is as `GenerationsHold` says; whatever the run
does next no generation decreases, and an activation raises its ticket's by one. -/
theorem generations_hold (before after : List Action) :
    GenerationsHold (machine.run TicketStore.empty before) ∧
      (∀ t ∈ (machine.run TicketStore.empty before).tickets.rows,
        ∃ t' ∈ (machine.run TicketStore.empty (before ++ after)).tickets.rows,
          t'.id = t.id ∧ t.liveGeneration ≤ t'.liveGeneration) ∧
      ∀ ticket insightInvestigateUsers groupID jobID now s',
        activateGeneration (machine.run TicketStore.empty before) ticket insightInvestigateUsers groupID
          jobID now = .ok s' →
        ∀ t ∈ (machine.run TicketStore.empty before).tickets.rows, ∃ t' ∈ s'.tickets.rows,
          t'.id = t.id ∧ t'.liveGeneration = t.liveGeneration + if t.id = ticket.id then 1 else 0 := by
  have sound := sound_run before
  refine ⟨sound.generations, ?_, ?_⟩
  · intro t member
    obtain ⟨p, found, grown⟩ := generation_moves (moves_run sound after) (ticket_state member)
    rw [Transition.Machine.run_append]
    obtain ⟨t', row, id, rfl⟩ := exists_ticket found
    exact ⟨t', row, id, grown⟩
  · intro ticket insightInvestigateUsers groupID jobID now s' done
    exact activateGeneration_generation sound done

/-- The same attempt, and if it had ended of the same status. -/
def AttemptState.Precedes (x x' : AttemptState) : Prop :=
  x'.ticketID = x.ticketID ∧ x'.groupID = x.groupID ∧ x'.generation = x.generation ∧
    (¬x.status.Outstanding → x'.status = x.status)

/-- The same incident, still archived if it was. -/
def IncidentState.Precedes (i i' : IncidentState) : Prop :=
  i'.ticketID = i.ticketID ∧ i'.generation = i.generation ∧ (i.archived → i'.archived)

structure Lineage.Precedes (l l' : Lineage) : Prop where
  attempts : ∀ a x, l.attempts a = some x → ∃ x', l'.attempts a = some x' ∧ x.Precedes x'
  incidents : ∀ g i, l.incidents g = some i → ∃ i', l'.incidents g = some i' ∧ i.Precedes i'

theorem AttemptState.Precedes.refl (x : AttemptState) : x.Precedes x := ⟨rfl, rfl, rfl, fun _ => rfl⟩

theorem IncidentState.Precedes.refl (i : IncidentState) : i.Precedes i := ⟨rfl, rfl, fun still => still⟩

theorem Lineage.Precedes.refl (l : Lineage) : l.Precedes l :=
  ⟨fun _ x found => ⟨x, found, .refl x⟩, fun _ i found => ⟨i, found, .refl i⟩⟩

theorem Lineage.Precedes.trans {l l' l'' : Lineage} (first : l.Precedes l') (second : l'.Precedes l'') :
    l.Precedes l'' := by
  refine ⟨fun a x found => ?_, fun g i found => ?_⟩
  · obtain ⟨y, known, ticket, group, generation, ended⟩ := first.attempts a x found
    obtain ⟨z, last, ticket', group', generation', ended'⟩ := second.attempts a y known
    refine ⟨z, last, ticket'.trans ticket, group'.trans group, generation'.trans generation, fun past => ?_⟩
    have same := ended past
    exact (ended' (same ▸ past)).trans same
  · obtain ⟨j, known, ticket, generation, archived⟩ := first.incidents g i found
    obtain ⟨k, last, ticket', generation', archived'⟩ := second.incidents g j known
    exact ⟨k, last, ticket'.trans ticket, generation'.trans generation, fun still => archived' (archived still)⟩

theorem Lineage.Move.precedes {l l' : Lineage} (move : l.Move l') : l.Precedes l' := by
  cases move with
  | create t fresh => exact ⟨(Lineage.Precedes.refl l).attempts, (Lineage.Precedes.refl l).incidents⟩
  | retire t =>
    refine ⟨fun a x found => ?_, fun g i found => ?_⟩
    · refine ⟨supersede t x, by simp [Lineage.retire, found], rfl, rfl, rfl, fun ended => ?_⟩
      exact if_neg fun both => ended both.2
    · exact ⟨archive t i, by simp [Lineage.retire, found], rfl, rfl, fun still => by
        simp [archive, still]⟩
  | publish t g live found fresh =>
    refine ⟨fun a x found => ⟨x, found, .refl x⟩, fun h i known => ⟨i, ?_, .refl i⟩⟩
    have other : h ≠ g := fun same => by rw [same, fresh] at known; cases known
    exact (if_neg other).trans known
  | startFix g a i found live unresolved alone fresh =>
    refine ⟨fun b x known => ⟨x, ?_, .refl x⟩, fun h j known => ?_⟩
    · have other : b ≠ a := fun same => by rw [same, fresh] at known; cases known
      exact (if_neg other).trans known
    · by_cases own : h = g
      · rw [own, found, Option.some.injEq] at known
        exact ⟨_, if_pos own, known ▸ .refl i⟩
      · exact ⟨j, (if_neg own).trans known, .refl j⟩
  | advance a x i status found incident outstanding left =>
    refine ⟨fun b y known => ?_, fun h j known => ?_⟩
    · by_cases own : b = a
      · rw [own, found, Option.some.injEq] at known
        subst known
        exact ⟨_, if_pos own, rfl, rfl, rfl, fun ended => absurd outstanding ended⟩
      · exact ⟨y, (if_neg own).trans known, .refl y⟩
    · by_cases own : h = x.groupID
      · rw [own, incident, Option.some.injEq] at known
        exact ⟨_, if_pos own, known ▸ .refl i⟩
      · exact ⟨j, (if_neg own).trans known, .refl j⟩

theorem Lineage.precedes_moves {l l' : Lineage} (moves : ReflTransGen Lineage.Move l l') :
    l.Precedes l' := by
  induction moves with
  | refl => exact .refl l
  | tail _ move ih => exact ih.trans move.precedes

/-- Whatever a run does later, what it has attempted and published stands. -/
theorem history_kept (before after : List Action) :
    (machine.run TicketStore.empty before).lineage.Precedes
      (machine.run TicketStore.empty (before ++ after)).lineage := by
  rw [Transition.Machine.run_append]
  exact Lineage.precedes_moves (moves_run (sound_run before) after)

/-- An investigation or a fix is of an incident of its ticket, the live one while the job is active,
and a fix of an attempt on that incident. -/
def WorkAttached (s : TicketStore) : Prop :=
  ∀ j ∈ s.jobs.rows, Work j → ∀ groupID, j.errorGroupID = some groupID →
    ∃ g ∈ s.incidents.table.rows, g.id = groupID ∧ j.ticketID = some g.ticketID ∧
      (j.Active → ∃ t, LiveIncident s t g) ∧
      ∀ attemptID, j.fixAttemptID = some attemptID → ∃ a ∈ s.attempts.rows, a.id = attemptID ∧
        a.errorGroupID = groupID ∧ a.ticketID = g.ticketID ∧ a.generation = g.publicationGeneration

end Opslane.Tickets
