import Opslane.Lib.Forest
import Opslane.Tickets.Machine

/-!
# The fold graph

A ticket is folded once, into a published ticket that is not folded itself, so the fold
edges form a forest. Every recording of a folded ticket is on its target, and no decision
is left on a folded ticket. A human may archive a folded ticket through an incident of its
last publication; the fold is then forgotten by the ticket's status, and everything here is
about runs in which nobody does.
-/

namespace Opslane.Tickets

open Jobs (Job)
open Relation (ReflTransGen)

/-- The ticket was folded into another. -/
def MergedInto (s : TicketStore) (a b : UUID) : Prop :=
  ∃ t, s.tickets.find? a = some t ∧ t.mergedInto = some b

/-- The recordings on a ticket. -/
def countMatches (s : TicketStore) (ticketID : UUID) : Nat :=
  (s.evidence.ticketMatches.select fun m => m.ticketID = ticketID).length

/-- What holds of folds throughout. -/
structure FoldShape (s : TicketStore) : Prop where
  acyclic : Acyclic (MergedInto s)
  folded : ∀ t ∈ s.tickets.rows, t.status = .merged ↔ t.mergedInto.isSome
  scope : ∀ t ∈ s.tickets.rows, ∀ u, t.mergedInto = some u → ∃ t' ∈ s.tickets.rows, t'.id = u ∧
    t'.projectID = t.projectID ∧ t'.environmentID = t.environmentID
  recordings : ∀ t ∈ s.tickets.rows, ∀ u, t.mergedInto = some u → ∀ m ∈ s.evidence.ticketMatches.rows,
    m.ticketID = t.id → ∃ m' ∈ s.evidence.ticketMatches.rows, m'.key = (u, m.sessionID)
  decisions : ∀ d ∈ s.observationDecisions.rows, ∀ t ∈ s.tickets.rows, d.ticketID = some t.id →
    t.mergedInto = none

/-- Every ticket counts its recordings, but those of a list of tickets may be off. -/
def CountedBut (s : TicketStore) (ids : List UUID) : Prop :=
  ∀ t ∈ s.tickets.rows, t.id ∉ ids → t.matchedCount = countMatches s t.id

variable {s : TicketStore} {t : FrictionTicket}

theorem FoldShape.next (shape : FoldShape s) {u : UUID} (found : s.tickets.find? t.id = some t)
    (merged : t.mergedInto = some u) :
    ∃ t', s.tickets.find? u = some t' ∧ t'.environmentID = t.environmentID := by
  obtain ⟨t', row, rfl, -, environment⟩ := shape.scope t (Table.mem_of_find? found) u merged
  exact ⟨t', s.tickets.find?_key row, environment⟩

theorem FoldShape.resolveFrom (shape : FoldShape s) {environmentID : UUID} (fuel : Nat)
    {seen : List UUID} (trail : Trail (MergedInto s) seen t.id)
    (within : ∀ id ∈ seen, id ∈ s.tickets.rows.map FrictionTicket.id)
    (turns : s.tickets.rows.length < seen.length + fuel) (found : s.tickets.find? t.id = some t)
    (place : t.environmentID = environmentID) :
    ∃ r ∈ s.tickets.rows, ReflTransGen (MergedInto s) t.id r.id ∧ r.mergedInto = none ∧
      Tickets.resolveFrom s environmentID fuel seen t.id =
        if r.status = .archived then .error missingTarget else .ok r := by
  induction fuel generalizing seen t with
  | zero =>
    have bound := trail.length_le within
    simp only [List.length_map] at bound
    omega
  | succ fuel ih =>
    have row := Table.mem_of_find? found
    have here : (s.tickets.find? t.id).filter (fun t => t.environmentID = environmentID) = some t := by
      simp [found, Option.filter_eq_some_iff, place]
    rw [Tickets.resolveFrom, if_neg (trail.fresh shape.acyclic), here]
    cases merged : t.mergedInto with
    | none =>
      have open_ : t.status ≠ .merged := by simp [shape.folded t row, merged]
      exact ⟨t, row, .refl, merged, by simp [open_]⟩
    | some u =>
      have folded : t.status = .merged := by simp [shape.folded t row, merged]
      obtain ⟨t', found', environment⟩ := shape.next found merged
      have id : t'.id = u := Table.key_of_find? found'
      subst id
      have edge : MergedInto s t.id t'.id := ⟨t, found, merged⟩
      obtain ⟨r, rowR, path, root, resolved⟩ := ih (trail.step shape.acyclic edge)
        (by
          intro id member
          rcases List.mem_cons.mp member with rfl | passed
          · exact List.mem_map_of_mem row
          · exact within id passed)
        (by simp only [List.length_cons]; omega) found' (environment.trans place)
      exact ⟨r, rowR, .head edge path, root, by simp [folded, merged, resolved]⟩

theorem FoldShape.resolves (shape : FoldShape s) (member : t ∈ s.tickets.rows) :
    ∃ r ∈ s.tickets.rows, ReflTransGen (MergedInto s) t.id r.id ∧ r.mergedInto = none ∧
      resolveMatchTicket s t.environmentID t.id =
        if r.status = .archived then .error missingTarget else .ok r :=
  shape.resolveFrom _ (Trail.start _ _) (by simp) (by simp) (s.tickets.find?_key member) rfl

theorem resolveMatchTicket_outside {environmentID id : UUID}
    (outside : ∀ t ∈ s.tickets.rows, t.id = id → t.environmentID ≠ environmentID) :
    resolveMatchTicket s environmentID id = .error missingTarget := by
  have absent : (s.tickets.find? id).filter (fun t => t.environmentID = environmentID) = none := by
    rw [Option.filter_eq_none_iff]
    intro t found here
    exact outside t (Table.mem_of_find? found) (Table.key_of_find? found) (of_decide_eq_true here)
  simp [resolveMatchTicket, resolveFrom, absent]

/-- The same ticket, folded or not as before. -/
structure FrictionTicket.Kept (t t' : FrictionTicket) : Prop where
  place : t.SamePlace t'
  merged : t'.mergedInto = t.mergedInto
  status : t'.status = .merged ↔ t.status = .merged

theorem FrictionTicket.Kept.refl (t : FrictionTicket) : t.Kept t := ⟨⟨rfl, rfl, rfl⟩, rfl, Iff.rfl⟩

theorem FrictionTicket.Kept.trans {t t' t'' : FrictionTicket} (first : t.Kept t') (second : t'.Kept t'') :
    t.Kept t'' where
  place := ⟨second.place.1.trans first.place.1, second.place.2.1.trans first.place.2.1,
    second.place.2.2.trans first.place.2.2⟩
  merged := second.merged.trans first.merged
  status := second.status.trans first.status

/-- Tickets are kept, and the recordings and the decisions on them are the same. -/
structure Calm (s s' : TicketStore) : Prop where
  forth : ∀ t ∈ s.tickets.rows, ∃ t' ∈ s'.tickets.rows, t.Kept t'
  back : ∀ t' ∈ s'.tickets.rows, ∃ t ∈ s.tickets.rows, t.Kept t'
  matched : s'.evidence.ticketMatches.rows.map TicketMatch.key =
    s.evidence.ticketMatches.rows.map TicketMatch.key
  decided : s'.observationDecisions = s.observationDecisions

/-- Besides, no ticket's count changes. -/
structure Quiet (s s' : TicketStore) : Prop extends Calm s s' where
  counts : ∀ t' ∈ s'.tickets.rows, ∃ t ∈ s.tickets.rows, t'.id = t.id ∧
    t'.matchedCount = t.matchedCount

theorem Calm.trans {s s' s'' : TicketStore} (first : Calm s s') (second : Calm s' s'') : Calm s s'' where
  forth := by
    intro t member
    obtain ⟨t', row', kept⟩ := first.forth t member
    obtain ⟨t'', row'', kept'⟩ := second.forth t' row'
    exact ⟨t'', row'', kept.trans kept'⟩
  back := by
    intro t'' member
    obtain ⟨t', row', kept'⟩ := second.back t'' member
    obtain ⟨t, row, kept⟩ := first.back t' row'
    exact ⟨t, row, kept.trans kept'⟩
  matched := second.matched.trans first.matched
  decided := second.decided.trans first.decided

theorem Quiet.trans {s s' s'' : TicketStore} (first : Quiet s s') (second : Quiet s' s'') :
    Quiet s s'' where
  toCalm := first.toCalm.trans second.toCalm
  counts := by
    intro t'' member
    obtain ⟨t', row', id', count'⟩ := second.counts t'' member
    obtain ⟨t, row, id, count⟩ := first.counts t' row'
    exact ⟨t, row, id'.trans id, count'.trans count⟩

variable {s s' : TicketStore}

theorem Quiet.of_eq (tickets : s'.tickets = s.tickets)
    (matched : s'.evidence.ticketMatches = s.evidence.ticketMatches)
    (decided : s'.observationDecisions = s.observationDecisions) : Quiet s s' where
  forth t member := ⟨t, tickets ▸ member, .refl t⟩
  back t member := ⟨t, tickets ▸ member, .refl t⟩
  matched := by rw [matched]
  decided := decided
  counts t member := ⟨t, tickets ▸ member, rfl, rfl⟩

theorem Quiet.refl (s : TicketStore) : Quiet s s := .of_eq rfl rfl rfl

theorem calm_updateTicket (s : TicketStore) (id : UUID) {f : FrictionTicket → FrictionTicket}
    (frame : ∀ t : FrictionTicket, t.SamePlace (f t))
    (kept : ∀ t ∈ s.tickets.rows, t.id = id → t.Kept (f t)) : Calm s (s.updateTicket id f frame) := by
  have each : ∀ t ∈ s.tickets.rows, t.Kept (if t.id = id then f t else t) := by
    intro t member
    split
    · rename_i here
      exact kept t member here
    · exact .refl t
  have mem := Table.mem_updateWhere s.tickets (fun t => t.id = id) f (fun t => (frame t).1)
  refine ⟨?_, ?_, rfl, rfl⟩
  · intro t member
    refine ⟨_, (mem _).mpr ⟨t, member, rfl⟩, ?_⟩
    simpa only [decide_eq_true_eq] using each t member
  · intro t' member
    obtain ⟨t, row, rfl⟩ := (mem t').mp member
    refine ⟨t, row, ?_⟩
    simpa only [decide_eq_true_eq] using each t row

theorem Quiet.of_update {id : UUID} (f : FrictionTicket → FrictionTicket)
    (frame : ∀ t : FrictionTicket, t.SamePlace (f t))
    (kept : ∀ t ∈ s.tickets.rows, t.id = id → t.Kept (f t))
    (count : ∀ t, (f t).matchedCount = t.matchedCount)
    (tickets : s'.tickets = s.tickets.updateKey id f fun t => (frame t).1)
    (matched : s'.evidence.ticketMatches = s.evidence.ticketMatches)
    (decided : s'.observationDecisions = s.observationDecisions) : Quiet s s' := by
  have calm := calm_updateTicket s id frame kept
  refine ⟨⟨?_, ?_, by rw [matched], decided⟩, ?_⟩
  · rw [tickets]
    exact calm.forth
  · rw [tickets]
    exact calm.back
  · rw [tickets]
    intro t' member
    obtain ⟨t, row, rfl⟩ := (Table.mem_updateWhere s.tickets (fun t => t.id = id) f
      (fun t => (frame t).1) t').mp member
    refine ⟨t, row, ?_⟩
    split
    · exact ⟨(frame t).1, count t⟩
    · exact ⟨rfl, rfl⟩

theorem Quiet.of_flag {id : UUID} (f : FrictionTicket → FrictionTicket)
    (frame : ∀ t : FrictionTicket, t.SamePlace (f t))
    (merged : ∀ t, (f t).mergedInto = t.mergedInto) (status : ∀ t, (f t).status = t.status)
    (count : ∀ t, (f t).matchedCount = t.matchedCount)
    (tickets : s'.tickets = s.tickets.updateKey id f fun t => (frame t).1)
    (matched : s'.evidence.ticketMatches = s.evidence.ticketMatches)
    (decided : s'.observationDecisions = s.observationDecisions) : Quiet s s' :=
  .of_update f frame (fun t _ _ => ⟨frame t, merged t, by rw [status]⟩) count tickets matched decided

theorem countMatches_eq (s : TicketStore) (ticketID : UUID) :
    countMatches s ticketID =
      (s.evidence.ticketMatches.rows.map TicketMatch.key).countP fun k => k.1 = ticketID := by
  rw [countMatches, Table.select, List.countP_map, List.countP_eq_length_filter]
  rfl

theorem mem_keys {k : UUID × String} :
    k ∈ s.evidence.ticketMatches.rows.map TicketMatch.key ↔
      ∃ m ∈ s.evidence.ticketMatches.rows, m.key = k := List.mem_map

theorem FoldShape.change (shape : FoldShape s)
    (forth : ∀ t ∈ s.tickets.rows, ∃ t' ∈ s'.tickets.rows, t.Kept t')
    (back : ∀ t' ∈ s'.tickets.rows, (∃ t ∈ s.tickets.rows, t.Kept t') ∨
      (t'.mergedInto = none ∧ t'.status ≠ .merged))
    (more : ∀ m ∈ s.evidence.ticketMatches.rows, ∃ m' ∈ s'.evidence.ticketMatches.rows, m'.key = m.key)
    (fewer : ∀ m' ∈ s'.evidence.ticketMatches.rows,
      (∃ m ∈ s.evidence.ticketMatches.rows, m.key = m'.key) ∨
        ∀ t' ∈ s'.tickets.rows, m'.ticketID = t'.id → t'.mergedInto = none)
    (decisions : ∀ d' ∈ s'.observationDecisions.rows, ∀ t' ∈ s'.tickets.rows,
      d'.ticketID = some t'.id → t'.mergedInto = none) : FoldShape s' := by
  have origin : ∀ t' ∈ s'.tickets.rows, ∀ u, t'.mergedInto = some u →
      ∃ t ∈ s.tickets.rows, t.Kept t' ∧ t.mergedInto = some u := by
    intro t' member u merged
    rcases back t' member with ⟨t, row, kept⟩ | ⟨free, -⟩
    · exact ⟨t, row, kept, kept.merged.symm.trans merged⟩
    · rw [free] at merged
      cases merged
  refine ⟨?_, ?_, ?_, ?_, decisions⟩
  · refine shape.acyclic.mono ?_
    rintro a b ⟨t', found, merged⟩
    obtain ⟨t, row, kept, merged'⟩ := origin t' (Table.mem_of_find? found) b merged
    have id : t.id = a := kept.place.1.symm.trans (Table.key_of_find? found)
    exact ⟨t, id ▸ s.tickets.find?_key row, merged'⟩
  · intro t' member
    rcases back t' member with ⟨t, row, kept⟩ | ⟨free, open_⟩
    · rw [kept.status, kept.merged]
      exact shape.folded t row
    · simp [free, open_]
  · intro t' member u merged
    obtain ⟨t, row, kept, merged'⟩ := origin t' member u merged
    obtain ⟨v, rowV, id, project, environment⟩ := shape.scope t row u merged'
    obtain ⟨v', rowV', keptV⟩ := forth v rowV
    refine ⟨v', rowV', keptV.place.1.trans id, ?_, ?_⟩
    · rw [keptV.place.2.1, project, kept.place.2.1]
    · rw [keptV.place.2.2, environment, kept.place.2.2]
  · intro t' member u merged m row' own
    obtain ⟨t, row, kept, merged'⟩ := origin t' member u merged
    rcases fewer m row' with ⟨n, rowN, key⟩ | free
    · have ticket : n.ticketID = t.id := (congrArg Prod.fst key).trans (own.trans kept.place.1)
      have session : n.sessionID = m.sessionID := congrArg Prod.snd key
      obtain ⟨n', rowN', key'⟩ := shape.recordings t row u merged' n rowN ticket
      obtain ⟨m', rowM', key''⟩ := more n' rowN'
      exact ⟨m', rowM', key''.trans (session ▸ key')⟩
    · rw [free t' member own] at merged
      cases merged

theorem FoldShape.calm {s s' : TicketStore} (shape : FoldShape s) (calm : Calm s s') : FoldShape s' := by
  refine shape.change calm.forth (fun t' member => Or.inl (calm.back t' member)) ?_ ?_ ?_
  · intro m member
    rw [← mem_keys, calm.matched]
    exact mem_keys.mpr ⟨m, member, rfl⟩
  · intro m' member
    refine Or.inl ?_
    rw [← mem_keys, ← calm.matched]
    exact mem_keys.mpr ⟨m', member, rfl⟩
  · intro d decided t' member own
    obtain ⟨t, row, kept⟩ := calm.back t' member
    rw [calm.decided] at decided
    rw [kept.merged]
    exact shape.decisions d decided t row (kept.place.1 ▸ own)

theorem CountedBut.of_rows {ids : List UUID} (counted : CountedBut s ids)
    (counts : ∀ t' ∈ s'.tickets.rows, ∃ t ∈ s.tickets.rows, t'.id = t.id ∧
      t'.matchedCount = t.matchedCount)
    (matched : s'.evidence.ticketMatches.rows.map TicketMatch.key =
      s.evidence.ticketMatches.rows.map TicketMatch.key) : CountedBut s' ids := by
  intro t' member elsewhere
  obtain ⟨t, row, id, count⟩ := counts t' member
  rw [countMatches_eq, matched, ← countMatches_eq, count, id]
  exact counted t row (id ▸ elsewhere)

theorem CountedBut.quiet {s s' : TicketStore} {ids : List UUID} (counted : CountedBut s ids)
    (quiet : Quiet s s') : CountedBut s' ids := counted.of_rows quiet.counts quiet.matched

theorem FrictionTicket.Kept.of_status {t t' : FrictionTicket} (place : t.SamePlace t')
    (merged : t'.mergedInto = t.mergedInto) (before : t.status ≠ .merged) (after : t'.status ≠ .merged) :
    t.Kept t' := ⟨place, merged, fun h => absurd h after, fun h => absurd h before⟩

theorem ticket_of_id {t u : FrictionTicket} (found : s.tickets.find? t.id = some t)
    (member : u ∈ s.tickets.rows) (same : u.id = t.id) : u = t :=
  s.tickets.inj member (Table.mem_of_find? found) same

variable {now : Timestamp} {ticket : FrictionTicket}

theorem quiet_unpublish (done : unpublish s ticket now = .ok s') : Quiet s s' := by
  obtain ⟨t, locked, done⟩ := Except.of_bind done
  split at done
  · cases done
    exact .refl s
  · rename_i published
    split at done
    · cases done
      exact .refl s
    · cases done
      refine .of_update FrictionTicket.unpublish (fun _ => ⟨rfl, rfl, rfl⟩) ?_ (fun _ => rfl) rfl rfl rfl
      intro u member same
      rw [ticket_of_id (find?_of_lockTicket locked).1 member same]
      refine .of_status ⟨rfl, rfl, rfl⟩ rfl ?_ (show TicketStatus.unpublished ≠ .merged by decide)
      intro merged
      exact published (by simp [merged])

theorem quiet_enqueueTicketInvestigation (s : TicketStore) (t : FrictionTicket) (generation : Nat)
    (groupID : UUID) (finishingJobID : Option UUID) (jobID : UUID) (now : Timestamp) :
    Quiet s (enqueueTicketInvestigation s t generation groupID finishingJobID jobID now).1 := by
  unfold enqueueTicketInvestigation
  dsimp only
  split <;> exact .of_eq rfl rfl rfl

theorem quiet_activateGeneration {insightInvestigateUsers : Nat} {groupID jobID : UUID}
    (done : activateGeneration s ticket insightInvestigateUsers groupID jobID now = .ok s') :
    Quiet s s' := by
  obtain ⟨t, locked, done⟩ := Except.of_bind done
  obtain ⟨open_, done⟩ := Except.of_guard done
  obtain ⟨-, done⟩ := Except.of_guard done
  obtain ⟨incidents, -, done⟩ := Except.of_bind done
  have published : Quiet s ({ retireLiveGeneration s t now with incidents }.updateTicket t.id
      (FrictionTicket.publish (t.liveGeneration + 1)) fun _ => ⟨rfl, rfl, rfl⟩) := by
    refine .of_update (FrictionTicket.publish (t.liveGeneration + 1)) (fun _ => ⟨rfl, rfl, rfl⟩) ?_
      (fun _ => rfl) rfl rfl rfl
    intro u member same
    rw [ticket_of_id (find?_of_lockTicket locked).1 member same]
    exact .of_status ⟨rfl, rfl, rfl⟩ rfl (fun merged => open_ (Or.inl merged))
      (show TicketStatus.published ≠ .merged by decide)
  rw [Except.ok.injEq] at done
  rw [← done]
  split
  · exact published.trans (quiet_enqueueTicketInvestigation ..)
  · exact published

/-- The human archives a ticket that is not folded. -/
def Spares (s : TicketStore) : Action → Prop
  | .archiveTicketGroup projectID groupID _ => (s.getIncident projectID groupID).all fun (g, t) =>
    ¬(t.status = .merged ∧ t.liveGeneration = g.publicationGeneration)
  | _ => True

instance (s : TicketStore) (a : Action) : Decidable (Spares s a) := by
  rcases a with _ | _ <;> dsimp only [Spares] <;> infer_instance

theorem quiet_archiveTicketGroup {projectID groupID : UUID}
    (spares : Spares s (.archiveTicketGroup projectID groupID now))
    (done : archiveTicketGroup s projectID groupID now = .ok s') : Quiet s s' := by
  unfold archiveTicketGroup at done
  split at done
  · cases done
    exact .refl s
  · rename_i g t found
    split at done
    · cases done
      exact .refl s
    · split at done
      · cases done
      · rename_i live
        cases done
        have row := (TicketStore.getIncident_eq_some_iff.mp found).2.1
        simp only [Spares, found, Option.all_some, decide_eq_true_eq] at spares
        refine .of_update FrictionTicket.archive (fun _ => ⟨rfl, rfl, rfl⟩) ?_ (fun _ => rfl) rfl rfl rfl
        intro u member same
        rw [ticket_of_id (Table.key_of_find? row ▸ row) member same]
        refine .of_status ⟨rfl, rfl, rfl⟩ rfl (fun merged => spares ⟨merged, ?_⟩)
          (show TicketStatus.archived ≠ .merged by decide)
        simpa using live

theorem quiet_requestFix {projectID ticketID : UUID} {generation : Nat}
    {requestedBy : Jobs.RequestedBy} {guidance : Option String} {maxOpenFixPrs : Nat}
    {attemptID jobID : UUID} {r : FixRequest}
    (done : requestFix s projectID ticketID generation requestedBy guidance maxOpenFixPrs attemptID jobID
      now = .ok (s', r)) : Quiet s s' := by
  rcases requestFix_cases done with ⟨rfl, -⟩ | ⟨-, g, t, attempts, -, -, -, -, -, -, -, -, -, rfl⟩
  · exact .refl _
  · exact .of_eq rfl rfl rfl

variable {factID : UUID}

theorem quiet_applyPrEvent {projectID : UUID} {e : PrEvent} {applied : Bool}
    (done : applyPrEvent s projectID e factID now = .ok (s', applied)) : Quiet s s' := by
  unfold applyPrEvent at done
  split at done
  · cases done
    exact .refl s
  · obtain ⟨⟨prEvents, fact⟩, -, done⟩ := Except.of_bind done
    dsimp only at done
    split at done
    · cases done
      exact .of_eq rfl rfl rfl
    · cases done
      split
      · have current : Quiet { s with prEvents } (applyCurrent { s with prEvents } e) := by
          unfold applyCurrent
          dsimp only
          split
          · exact .of_flag (FrictionTicket.fix e.occurredAt) (fun _ => ⟨rfl, rfl, rfl⟩) (fun _ => rfl)
              (fun _ => rfl) (fun _ => rfl) rfl rfl rfl
          · exact .of_eq rfl rfl rfl
        have noted : Quiet s { s with prEvents } := .of_eq rfl rfl rfl
        exact (noted.trans current).trans (.of_eq rfl rfl rfl)
      · split
        · exact .of_eq rfl rfl rfl
        · exact .of_eq rfl rfl rfl

variable {job : Job}

theorem quiet_recordAttemptPr {repo url : String} {number : Nat}
    {occurredAt now clock clock' : Timestamp} {applied : Bool}
    (done : recordAttemptPr s job repo url number factID occurredAt now clock clock' =
      .ok (s', applied)) : Quiet s s' := by
  unfold recordAttemptPr at done
  split at done
  · obtain ⟨⟨s₁, applied₁⟩, event, done⟩ := Except.of_bind done
    have quiet := quiet_applyPrEvent event
    dsimp only at done
    split at done
    · cases done
      exact quiet.trans (.of_eq rfl rfl rfl)
    · cases done
      exact quiet
  · cases done

theorem quiet_attemptFailed (s : TicketStore) (jobID projectID : UUID) :
    Quiet s (attemptFailed s jobID projectID).1 := by
  have discarded : ∀ batchID, Quiet s (discardBatch s batchID) := by
    intro batchID
    unfold discardBatch
    split
    · exact .refl s
    · split
      · exact .of_flag FrictionTicket.needReconcile (fun _ => ⟨rfl, rfl, rfl⟩) (fun _ => rfl)
          (fun _ => rfl) (fun _ => rfl) rfl rfl rfl
      · exact .refl s
  have fixed : ∀ s job ticketID current, Quiet s (failFix s job ticketID current) := by
    intro s job ticketID current
    unfold failFix
    dsimp only
    split <;> exact .of_eq rfl rfl rfl
  have investigated : ∀ s job ticketID, Quiet s (failInvestigation s job ticketID) := by
    intro s job ticketID
    unfold failInvestigation
    split
    · exact .refl s
    · split
      · exact .refl s
      · split
        · exact .of_flag FrictionTicket.needReinvestigate (fun _ => ⟨rfl, rfl, rfl⟩) (fun _ => rfl)
            (fun _ => rfl) (fun _ => rfl) rfl rfl rfl
        · exact .refl s
  apply attemptFailed_keeps (.refl s)
  · exact fun _ batchID _ _ => discarded batchID
  · exact fun _ _ _ _ kept => kept.trans (fixed ..)
  · exact fun _ _ _ kept => kept.trans (investigated ..)

variable {now clock clock' : Timestamp}

theorem quiet_assertFixAttemptCurrent {delivery : Bool} {maxOpenFixPrs : Nat}
    (done : assertFixAttemptCurrent s job delivery maxOpenFixPrs now clock clock' = .ok s') :
    Quiet s s' := by
  unfold assertFixAttemptCurrent at done
  split at done
  · cases done
  · split at done
    · obtain ⟨-, done⟩ := Except.of_guard done
      obtain ⟨s₁, reserved, done⟩ := Except.of_bind done
      obtain ⟨-, same⟩ := Except.of_guard done
      cases same
      split at reserved
      · unfold reserveSlot at reserved
        obtain ⟨-, reserved⟩ := Except.of_guard reserved
        split at reserved
        · cases reserved
          exact .refl s
        · obtain ⟨-, same⟩ := Except.of_guard reserved
          cases same
          exact .of_eq rfl rfl rfl
      · cases reserved
        exact .refl s
    · cases done

theorem quiet_processTicketPRWebhook {w : TicketPRWebhook} {factID jobID : UUID}
    {r : PRWebhookResult} (done : processTicketPRWebhook s w factID jobID now = .ok (s', r)) :
    Quiet s s' := by
  unfold processTicketPRWebhook at done
  obtain ⟨-, done⟩ := Except.of_guard done
  split at done
  · cases done
    exact .refl s
  · split at done
    · cases done
      exact .refl s
    · obtain ⟨g, -, done⟩ := Except.of_bind done
      obtain ⟨t, -, done⟩ := Except.of_bind done
      obtain ⟨-, done⟩ := Except.of_guard done
      obtain ⟨-, done⟩ := Except.of_guard done
      obtain ⟨prEvents, -, done⟩ := Except.of_bind done
      obtain ⟨jobs, -, same⟩ := Except.of_bind done
      cases same
      exact .of_eq rfl rfl rfl

theorem quiet_processPrEventJob (done : processPrEventJob s job factID now clock clock' = .ok s') :
    Quiet s s' := by
  unfold processPrEventJob at done
  split at done
  · cases done
  · obtain ⟨-, done⟩ := Except.of_guard done
    obtain ⟨s₁, applied, done⟩ := Except.of_bind done
    obtain ⟨-, same⟩ := Except.of_guard done
    cases same
    split at applied
    · cases applied
      exact .refl s
    · obtain ⟨⟨s₂, r⟩, event, rfl⟩ := Except.map_eq_ok_iff.mp applied
      exact quiet_applyPrEvent event

theorem quiet_reinvestigate {finishingJobID : Option UUID} {jobID : UUID}
    (done : reinvestigate s ticket finishingJobID jobID now = .ok s') : Quiet s s' := by
  obtain ⟨t, -, done⟩ := Except.of_bind done
  split at done
  · cases done
    exact .refl s
  · split at done
    · cases done
      exact .refl s
    · cases done
      exact quiet_enqueueTicketInvestigation ..

end Opslane.Tickets
