import Opslane.Tickets.FoldGraph

/-!
# Runs over the fold graph

What every run keeps of the fold graph, as long as nobody archives a folded ticket: a fold
is never forgotten, and a ticket counts each of its recordings once.
-/

namespace Opslane.Tickets

open Jobs (Job)
open Relation (ReflTransGen)

/-- What holds of folds and counts throughout. -/
structure FoldSound (s : TicketStore) : Prop where
  shape : FoldShape s
  counted : CountedBut s []

/-- A folded ticket stays folded. -/
def StaysMerged (s s' : TicketStore) : Prop :=
  ∀ t ∈ s.tickets.rows, t.status = .merged → ∃ t' ∈ s'.tickets.rows, t'.id = t.id ∧ t'.status = .merged

theorem StaysMerged.trans {s s' s'' : TicketStore} (first : StaysMerged s s')
    (second : StaysMerged s' s'') : StaysMerged s s'' := by
  intro t row merged
  obtain ⟨t', row', id, merged'⟩ := first t row merged
  obtain ⟨t'', row'', id', merged''⟩ := second t' row' merged'
  exact ⟨t'', row'', id'.trans id, merged''⟩

variable {s s' : TicketStore}

theorem StaysMerged.of_kept (forth : ∀ t ∈ s.tickets.rows, ∃ t' ∈ s'.tickets.rows, t.Kept t') :
    StaysMerged s s' := by
  intro t row merged
  obtain ⟨t', row', kept⟩ := forth t row
  exact ⟨t', row', kept.place.1, kept.status.mpr merged⟩

theorem StaysMerged.of_eq (tickets : s'.tickets = s.tickets) : StaysMerged s s' :=
  .of_kept fun t row => ⟨t, tickets ▸ row, .refl t⟩

/-- A step that keeps folds sound forgets none. -/
structure FoldStep (s s' : TicketStore) : Prop where
  sound : FoldSound s'
  stays : StaysMerged s s'

theorem FoldStep.trans {s s' s'' : TicketStore} (first : FoldStep s s') (second : FoldStep s' s'') :
    FoldStep s s'' := ⟨second.sound, first.stays.trans second.stays⟩

variable {s : TicketStore}

theorem FoldSound.refl (sound : FoldSound s) : FoldStep s s := ⟨sound, .of_eq rfl⟩

theorem FoldSound.quiet {s s' : TicketStore} (sound : FoldSound s) (quiet : Quiet s s') :
    FoldStep s s' :=
  ⟨⟨sound.shape.calm quiet.toCalm, sound.counted.quiet quiet⟩, .of_kept quiet.forth⟩

variable {ids : List UUID} {ticketID : UUID}

theorem CountedBut.recount {f : FrictionTicket → FrictionTicket}
    (frame : ∀ t : FrictionTicket, t.SamePlace (f t)) (counted : CountedBut s (ticketID :: ids))
    (count : ∀ t, (f t).matchedCount = countMatches s ticketID) :
    CountedBut (s.updateTicket ticketID f frame) ids := by
  intro t' member elsewhere
  obtain ⟨t, row, rfl⟩ := (Table.mem_updateWhere s.tickets (fun t => t.id = ticketID) f
    (fun t => (frame t).1) t').mp member
  by_cases here : t.id = ticketID
  · rw [if_pos (decide_eq_true here), count, (frame t).1, here]
    rfl
  · rw [if_neg (by simpa using here)] at elsewhere ⊢
    exact counted t row (by simpa [here] using elsewhere)

theorem CountedBut.weaken (counted : CountedBut s ids) (ticketID : UUID) :
    CountedBut s (ticketID :: ids) :=
  fun t member elsewhere => counted t member fun listed => elsewhere (.tail _ listed)

theorem CountedBut.frictionReconcileAfterDelete (counted : CountedBut s (ticketID :: ids))
    (now : Timestamp) :
    CountedBut (Tickets.frictionReconcileAfterDelete s ticketID now) ids := by
  unfold Tickets.frictionReconcileAfterDelete
  split
  · rename_i absent
    refine fun t member elsewhere => counted t member ?_
    have differ : t.id ≠ ticketID := (s.tickets.find?_eq_none_iff ticketID).mp absent t member
    simpa [differ] using elsewhere
  · dsimp only
    have recounted : CountedBut (s.updateTicket ticketID
        (FrictionTicket.recount (countMatches s ticketID)) fun _ => ⟨rfl, rfl, rfl⟩) ids :=
      counted.recount _ fun _ => rfl
    split
    · exact recounted
    · split
      · exact recounted
      · split
        · exact recounted
        · split
          · refine recounted.of_rows ?_ rfl
            intro t' member
            obtain ⟨t, row, rfl⟩ := (Table.mem_updateWhere _ _ FrictionTicket.unpublish (fun _ => rfl)
              t').mp member
            refine ⟨t, row, ?_⟩
            split <;> exact ⟨rfl, rfl⟩
          · exact recounted

theorem CountedBut.reconcileAll (ids : List UUID) (counted : CountedBut s ids) (now : Timestamp) :
    CountedBut (Tickets.reconcileAll s ids now) [] := by
  induction ids generalizing s with
  | nil => exact counted
  | cons ticketID rest ih => exact ih (counted.frictionReconcileAfterDelete now)

theorem frictionReconcileAfterDelete_shape (shape : FoldShape s) (ticketID : UUID)
    (now : Timestamp) :
    FoldShape (frictionReconcileAfterDelete s ticketID now) ∧
      StaysMerged s (frictionReconcileAfterDelete s ticketID now) := by
  unfold frictionReconcileAfterDelete
  split
  · exact ⟨shape, .of_eq rfl⟩
  · rename_i t found
    have id : t.id = ticketID := Table.key_of_find? found
    subst id
    let counts := s.updateTicket t.id (FrictionTicket.recount (countMatches s t.id))
      fun _ => ⟨rfl, rfl, rfl⟩
    have calm : Calm s counts := calm_updateTicket s t.id _ fun _ _ _ => ⟨⟨rfl, rfl, rfl⟩, rfl, Iff.rfl⟩
    have shape' : FoldShape counts := shape.calm calm
    have stays : StaysMerged s counts := .of_kept calm.forth
    dsimp only
    split
    · exact ⟨shape', stays⟩
    · rename_i published
      split
      · exact ⟨shape', stays⟩
      · split
        · exact ⟨shape', stays⟩
        · split
          · rename_i g _ _ _
            have quiet : Quiet counts ((retireIncidents counts [g.id] now).updateTicket t.id
                FrictionTicket.unpublish fun _ => ⟨rfl, rfl, rfl⟩) := by
              refine .of_update FrictionTicket.unpublish (fun _ => ⟨rfl, rfl, rfl⟩) ?_ (fun _ => rfl)
                rfl rfl rfl
              intro u member same
              obtain ⟨v, row, rfl⟩ := (Table.mem_updateWhere s.tickets (fun u => u.id = t.id)
                (FrictionTicket.recount (countMatches s t.id)) (fun _ => rfl) u).mp member
              have own : v.id = t.id := by
                by_cases here : v.id = t.id
                · exact here
                · simp [here] at same
              rw [ticket_of_id found row own, if_pos (by simp)]
              refine .of_status ⟨rfl, rfl, rfl⟩ rfl ?_ (show TicketStatus.unpublished ≠ .merged by decide)
              intro merged
              have merged' : t.status = .merged := merged
              simp [merged'] at published
            exact ⟨shape'.calm quiet.toCalm, stays.trans (.of_kept quiet.forth)⟩
          · exact ⟨shape', stays⟩

theorem FoldSound.frictionReconcileAfterDelete (sound : FoldSound s) (ticketID : UUID)
    (now : Timestamp) : FoldStep s (Tickets.frictionReconcileAfterDelete s ticketID now) := by
  obtain ⟨shape, stays⟩ := frictionReconcileAfterDelete_shape sound.shape ticketID now
  exact ⟨⟨shape, (sound.counted.weaken ticketID).frictionReconcileAfterDelete now⟩, stays⟩

theorem reconcileAll_counts (ids : List UUID) (shape : FoldShape s) (counted : CountedBut s ids)
    (now : Timestamp) : FoldStep s (reconcileAll s ids now) := by
  induction ids generalizing s with
  | nil => exact FoldSound.refl ⟨shape, counted⟩
  | cons ticketID rest ih =>
    obtain ⟨shape', stays⟩ := frictionReconcileAfterDelete_shape shape ticketID now
    have then_ := ih shape' (counted.frictionReconcileAfterDelete now)
    exact ⟨then_.sound, stays.trans then_.stays⟩

theorem mem_ticketsOf {e : Evidence} {sessionID : String} :
    ticketID ∈ ticketsOf e sessionID ↔
      ∃ m ∈ e.ticketMatches.rows, m.ticketID = ticketID ∧ m.sessionID = sessionID := by
  simp only [ticketsOf, List.mem_insertionSort, List.mem_map, Table.select, List.mem_filter,
    decide_eq_true_eq]
  constructor
  · rintro ⟨m, ⟨row, session⟩, ticket⟩
    exact ⟨m, row, ticket, session⟩
  · rintro ⟨m, row, ticket, session⟩
    exact ⟨m, ⟨row, session⟩, ticket⟩

theorem CountedBut.purge (counted : CountedBut s []) (sessionID : String)
    {decisions : Table ObservationDecision.signalID}
    {scope : (s.evidence.purge sessionID).Scoped s.tickets} :
    CountedBut { s with
      evidence := s.evidence.purge sessionID
      scope := scope
      observationDecisions := decisions } (ticketsOf s.evidence sessionID) := by
  intro t member elsewhere
  rw [counted t member (by simp)]
  have apart : ∀ m ∈ s.evidence.ticketMatches.rows, m.ticketID = t.id → m.sessionID ≠ sessionID :=
    fun m row own same => elsewhere (mem_ticketsOf.mpr ⟨m, row, own, same⟩)
  simp only [countMatches, Evidence.purge, Table.select, Table.deleteWhere, List.filter_filter]
  congr 1
  refine List.filter_congr fun m row => ?_
  by_cases own : m.ticketID = t.id
  · simp [own, apart m row own]
  · simp [own]

theorem FoldSound.deleteMarkedSession (sound : FoldSound s) (sessionID : String) (now : Timestamp) :
    FoldStep s (Tickets.deleteMarkedSession s sessionID now) := by
  unfold Tickets.deleteMarkedSession
  split
  · exact sound.refl
  · have rest := reconcileAll_counts (s := { s with
      evidence := s.evidence.purge sessionID
      scope := s.scope.purge sessionID
      observationDecisions := s.observationDecisions.deleteWhere fun d =>
        (s.evidence.signals.find? d.signalID).any fun f => f.sessionID = sessionID })
      (ticketsOf s.evidence sessionID) ?_ ?_ now
    · exact ⟨rest.sound, rest.stays⟩
    · refine ⟨sound.shape.acyclic, sound.shape.folded, sound.shape.scope, ?_, ?_⟩
      · intro t member u merged m row own
        obtain ⟨old, kept⟩ := List.mem_filter.mp row
        obtain ⟨m', row', key⟩ := sound.shape.recordings t member u merged m old own
        have session : m'.sessionID = m.sessionID := congrArg Prod.snd key
        exact ⟨m', List.mem_filter.mpr ⟨row', by simpa [session] using kept⟩, key⟩
      · intro d decided
        exact sound.shape.decisions d (List.mem_filter.mp decided).1
    · exact sound.counted.purge sessionID

theorem identify_keys (e : Evidence) (sessionID : String) (user : Option UUID) :
    (e.identify sessionID user).ticketMatches.rows.map TicketMatch.key =
      e.ticketMatches.rows.map TicketMatch.key := by
  simp only [Evidence.identify, Table.updateWhere, List.map_map]
  refine List.map_congr_left fun m _ => ?_
  simp only [Function.comp]
  split <;> rfl

theorem FoldSound.frictionSetSessionIdentity (sound : FoldSound s) (sessionID : String)
    (user : Option UUID) (now : Timestamp) :
    FoldStep s (Tickets.frictionSetSessionIdentity s sessionID user now) := by
  unfold Tickets.frictionSetSessionIdentity
  split
  · exact sound.refl
  · split
    · exact sound.refl
    · have quiet : Quiet s { s with
          evidence := s.evidence.identify sessionID user
          scope := s.scope.identify sessionID user } :=
        { toCalm :=
            { forth := fun t member => ⟨t, member, .refl t⟩
              back := fun t member => ⟨t, member, .refl t⟩
              matched := identify_keys s.evidence sessionID user
              decided := rfl }
          counts := fun t member => ⟨t, member, rfl, rfl⟩ }
      have identified := sound.quiet quiet
      refine identified.trans (reconcileAll_counts _ identified.sound.shape ?_ now)
      exact fun t member _ => identified.sound.counted t member (by simp)

variable {input : MatchInput}

theorem recordMatch_effect {new : Bool} (done : recordMatch s input = .ok (s', new)) :
    ∃ t, lockTicket s input.ticket = .ok t ∧ t.status ≠ .merged ∧
      s'.tickets = s.tickets.updateKey t.id (FrictionTicket.count (if new then 1 else 0))
        (fun _ => rfl) ∧
      s'.evidence.ticketMatches = s.evidence.ticketMatches.insertIgnore (input.row s.evidence t) ∧
      new = (s.evidence.ticketMatches.find? (t.id, input.sessionID)).isNone ∧
      s'.observationDecisions = s.observationDecisions := by
  unfold recordMatch at done
  split at done
  · cases done
  · rename_i t locked
    split at done
    · cases done
    · rename_i open_
      split at done
      · cases done
        exact ⟨t, locked, fun merged => open_ (Or.inl merged), rfl, rfl, rfl, rfl⟩
      · cases done

theorem recordMatch_kept {new : Bool} (done : recordMatch s input = .ok (s', new)) :
    (∀ t ∈ s.tickets.rows, ∃ t' ∈ s'.tickets.rows, t.Kept t') ∧
      ∀ t' ∈ s'.tickets.rows, ∃ t ∈ s.tickets.rows, t.Kept t' ∧
        t'.matchedCount = t.matchedCount + if t.id = input.ticket.id ∧ new then 1 else 0 := by
  obtain ⟨t, locked, -, tickets, -⟩ := recordMatch_effect done
  have id := id_of_lockTicket locked
  have mem := Table.mem_updateWhere s.tickets (fun u => u.id = t.id)
    (FrictionTicket.count (if new then 1 else 0)) (fun _ => rfl)
  constructor
  · intro u member
    have updated := (mem _).mpr ⟨u, member, rfl⟩
    refine ⟨_, by rw [tickets]; exact updated, ?_⟩
    split
    · exact ⟨⟨rfl, rfl, rfl⟩, rfl, Iff.rfl⟩
    · exact .refl u
  · intro t' member
    rw [tickets] at member
    obtain ⟨u, rowU, rfl⟩ := (mem t').mp member
    refine ⟨u, rowU, ?_⟩
    by_cases here : u.id = t.id
    · rw [if_pos (decide_eq_true here)]
      refine ⟨⟨⟨rfl, rfl, rfl⟩, rfl, Iff.rfl⟩, ?_⟩
      simp [FrictionTicket.count, here, id]
    · rw [if_neg (by simpa using here)]
      exact ⟨.refl u, by simp [here, ← id]⟩

theorem CountedBut.recordMatch {new : Bool} (counted : CountedBut s ids)
    (done : Tickets.recordMatch s input = .ok (s', new)) : CountedBut s' ids := by
  obtain ⟨t, locked, -, tickets, matched, isNew, -⟩ := recordMatch_effect done
  obtain ⟨-, back⟩ := recordMatch_kept done
  have id := id_of_lockTicket locked
  intro t' member elsewhere
  obtain ⟨u, rowU, kept, count⟩ := back t' member
  have before := counted u rowU (kept.place.1 ▸ elsewhere)
  rw [count, kept.place.1, before]
  simp only [countMatches, matched, Table.select]
  cases found : s.evidence.ticketMatches.find? (t.id, input.sessionID) with
  | some old =>
    have taken : s.evidence.ticketMatches.find? (input.row s.evidence t).key = some old := found
    rw [found] at isNew
    rw [Table.insertIgnore_taken _ taken]
    simp [isNew]
  | none =>
    obtain ⟨grown, inserted⟩ := s.evidence.ticketMatches.exists_insert?
      (r := input.row s.evidence t) found
    rw [found] at isNew
    rw [Table.insertIgnore, inserted, Option.getD_some, (Table.insert?_spec inserted).2,
      List.filter_cons]
    by_cases here : u.id = t.id
    · simp [here, isNew, MatchInput.row, ← id]
    · simp [here, isNew, MatchInput.row, Ne.symm here, ← id]

theorem FoldSound.recordMatch {new : Bool} (sound : FoldSound s)
    (done : Tickets.recordMatch s input = .ok (s', new)) : FoldStep s s' := by
  obtain ⟨t, locked, open_, tickets, matched, -, decided⟩ := recordMatch_effect done
  obtain ⟨forth, back⟩ := recordMatch_kept done
  have row := mem_of_lockTicket locked
  have free : t.mergedInto = none := by
    simpa [sound.shape.folded t row] using open_
  refine ⟨⟨?_, ?_⟩, .of_kept forth⟩
  · refine sound.shape.change forth ?_ ?_ ?_ ?_
    · intro t' member
      obtain ⟨u, rowU, kept, -⟩ := back t' member
      exact Or.inl ⟨u, rowU, kept⟩
    · intro m member
      exact ⟨m, matched ▸ Table.mem_insertIgnore_of_mem _ member, rfl⟩
    · intro m' member
      rw [matched] at member
      rcases Table.mem_insertIgnore member with old | rfl
      · exact Or.inl ⟨m', old, rfl⟩
      · refine Or.inr fun t' member' own => ?_
        obtain ⟨u, rowU, kept, -⟩ := back t' member'
        have same : u.id = t.id := kept.place.1.symm.trans own.symm
        rw [kept.merged, s.tickets.inj rowU row same, free]
    · intro d member t' member' own
      obtain ⟨u, rowU, kept, -⟩ := back t' member'
      rw [kept.merged]
      exact sound.shape.decisions d (decided ▸ member) u rowU (kept.place.1 ▸ own)
  · exact sound.counted.recordMatch done

variable {t : FrictionTicket}

theorem CountedBut.createTicket {tickets : Table FrictionTicket.id}
    {scope : s.evidence.Scoped tickets} (counted : CountedBut s ids) (none_ : t.matchedCount = 0)
    (inserted : s.tickets.insert? t = some tickets) :
    CountedBut { s with tickets, scope } ids := by
  have absent := (s.tickets.find?_eq_none_iff t.id).mp (Table.insert?_spec inserted).1
  intro u member elsewhere
  rcases (Table.mem_insert? inserted).mp member with rfl | old
  · -- nothing was recorded under an id no ticket had
    rw [none_, eq_comm, countMatches, List.length_eq_zero_iff, Table.select, List.filter_eq_nil_iff]
    intro m row own
    obtain ⟨v, known, id, -⟩ := s.scope.matched m row
    exact absent v known (id.trans (of_decide_eq_true own))
  · exact counted u old elsewhere

theorem FoldSound.createTicket (sound : FoldSound s)
    (new : t.mergedInto = none ∧ t.status ≠ .merged ∧ t.matchedCount = 0)
    (done : Tickets.createTicket s t = .ok s') : FoldStep s s' ∧ t ∈ s'.tickets.rows := by
  unfold Tickets.createTicket at done
  split at done
  · cases done
  · rename_i tickets inserted
    cases done
    have mem : ∀ u, u ∈ tickets.rows ↔ u = t ∨ u ∈ s.tickets.rows := fun u => Table.mem_insert? inserted
    have forth : ∀ u ∈ s.tickets.rows, ∃ u' ∈ tickets.rows, u.Kept u' :=
      fun u member => ⟨u, (mem u).mpr (Or.inr member), .refl u⟩
    refine ⟨⟨⟨?_, ?_⟩, .of_kept forth⟩, (mem t).mpr (Or.inl rfl)⟩
    · refine sound.shape.change forth ?_ ?_ ?_ ?_
      · intro u member
        rcases (mem u).mp member with rfl | old
        · exact Or.inr ⟨new.1, new.2.1⟩
        · exact Or.inl ⟨u, old, .refl u⟩
      · exact fun m member => ⟨m, member, rfl⟩
      · exact fun m member => Or.inl ⟨m, member, rfl⟩
      · intro d member u memU own
        rcases (mem u).mp memU with rfl | old
        · exact new.1
        · exact sound.shape.decisions d member u old own
    · exact sound.counted.createTicket new.2.2 inserted

theorem resolveFrom_ok {environmentID : UUID} {fuel : Nat} {seen : List UUID} {id : UUID}
    (done : resolveFrom s environmentID fuel seen id = .ok t) :
    t ∈ s.tickets.rows ∧ t.status ≠ .merged := by
  induction fuel generalizing seen id with
  | zero => cases done
  | succ fuel ih =>
    unfold resolveFrom at done
    split at done
    · cases done
    · split at done
      · cases done
      · rename_i u found
        split at done
        · cases done
        · split at done
          · rename_i open_
            cases done
            exact ⟨Table.mem_of_find? (Option.filter_eq_some_iff.mp found).1, open_⟩
          · split at done
            · cases done
            · exact ih done

theorem FoldSound.decide (sound : FoldSound s) (tickets : s'.tickets = s.tickets)
    (matched : s'.evidence.ticketMatches = s.evidence.ticketMatches)
    (decisions : ∀ d' ∈ s'.observationDecisions.rows, d'.ticketID = none ∨
      (∃ d ∈ s.observationDecisions.rows, d'.ticketID = d.ticketID) ∨
      ∃ t ∈ s.tickets.rows, d'.ticketID = some t.id ∧ t.mergedInto = none) : FoldStep s s' := by
  refine ⟨⟨?_, ?_⟩, .of_eq tickets⟩
  · refine sound.shape.change ?_ ?_ ?_ ?_ ?_
    · exact fun t member => ⟨t, tickets ▸ member, .refl t⟩
    · exact fun t member => Or.inl ⟨t, tickets ▸ member, .refl t⟩
    · exact fun m member => ⟨m, matched ▸ member, rfl⟩
    · exact fun m member => Or.inl ⟨m, matched ▸ member, rfl⟩
    · intro d' member t row own
      rw [tickets] at row
      rcases decisions d' member with none | ⟨d, old, same⟩ | ⟨u, rowU, named, free⟩
      · rw [none] at own
        cases own
      · exact sound.shape.decisions d old t row (same ▸ own)
      · rw [named, Option.some.injEq] at own
        rwa [s.tickets.inj row rowU own.symm]
  · intro t member _
    rw [tickets] at member
    rw [countMatches, matched]
    exact sound.counted t member (by simp)

theorem FoldSound.reserveDecision (sound : FoldSound s) (signalID : String) (environmentID : UUID)
    (leaseMs : Int) (now : Timestamp) :
    FoldStep s (Tickets.reserveDecision s signalID environmentID leaseMs now).1 := by
  unfold Tickets.reserveDecision
  split
  · exact sound.refl
  · split
    · refine sound.decide rfl rfl fun d member => ?_
      rcases Table.mem_insertIgnore member with old | rfl
      · exact Or.inr (Or.inl ⟨d, old, rfl⟩)
      · exact Or.inl rfl
    · split
      · refine sound.decide rfl rfl fun d' member => ?_
        obtain ⟨d, old, rfl⟩ := (Table.mem_updateWhere s.observationDecisions
          (fun d => d.signalID = signalID) (ObservationDecision.renew now) (fun _ => rfl) d').mp member
        refine Or.inr (Or.inl ⟨d, old, ?_⟩)
        split <;> rfl
      · exact sound.refl

theorem FoldSound.commitDecision (sound : FoldSound s) (signalID : String)
    (decision : ObservationOutcome) (ticketID : Option UUID) (decidedBy : DecidedBy)
    (now : Timestamp)
    (open_ : ∀ id, ticketID = some id → ∃ t ∈ s.tickets.rows, t.id = id ∧ t.mergedInto = none) :
    FoldStep s (Tickets.commitDecision s signalID decision ticketID decidedBy now).1 := by
  refine sound.decide rfl rfl fun d' member => ?_
  obtain ⟨d, old, rfl⟩ := (Table.mem_updateWhere s.observationDecisions
    (Commits s signalID decision ticketID) (ObservationDecision.commit decision ticketID decidedBy now)
    (fun _ => rfl) d').mp member
  split
  · cases named : ticketID with
    | none => exact Or.inl rfl
    | some id =>
      obtain ⟨t, row, rfl, free⟩ := open_ id named
      exact Or.inr (Or.inr ⟨t, row, rfl, free⟩)
  · exact Or.inr (Or.inl ⟨d, old, rfl⟩)

variable {projectID environmentID : UUID} {decision : MatchDecision}

variable {ticket : Option (FrictionTicket × DecidedBy)}

theorem FoldSound.decisionTicket {outcome : ObservationOutcome} (sound : FoldSound s)
    (done : Tickets.decisionTicket s projectID environmentID decision = .ok (s', ticket, outcome)) :
    FoldStep s s' ∧ ∀ t by_, ticket = some (t, by_) → t ∈ s'.tickets.rows ∧ t.mergedInto = none := by
  cases decision with
  | create ticketID kind =>
    obtain ⟨s₁, created, same⟩ := Except.of_bind done
    cases same
    obtain ⟨sound', row⟩ := sound.createTicket ⟨rfl, (by decide : TicketStatus.tracking ≠ .merged), rfl⟩
      created
    refine ⟨sound', ?_⟩
    rintro t by_ ⟨⟩
    exact ⟨row, rfl⟩
  | known ticketID decidedBy =>
    obtain ⟨u, resolved, same⟩ := Except.of_bind done
    cases same
    obtain ⟨row, open_⟩ := resolveFrom_ok resolved
    refine ⟨sound.refl, ?_⟩
    rintro t by_ ⟨⟩
    exact ⟨row, by simpa [sound.shape.folded u row] using open_⟩
  | notAProblem =>
    cases done
    exact ⟨sound.refl, by rintro t by_ ⟨⟩⟩

variable {now : Timestamp}

theorem FoldSound.observationTicket {signalID : String} {leaseMs : Int} (sound : FoldSound s)
    (done : Tickets.observationTicket s projectID environmentID signalID decision leaseMs now =
      .ok (s', ticket)) : FoldStep s s' := by
  unfold Tickets.observationTicket at done
  have reserved := sound.reserveDecision signalID environmentID leaseMs now
  split at done
  · rename_i s₁ eq
    rw [eq] at reserved
    obtain ⟨⟨s₂, chosen, outcome⟩, decided, done⟩ := Except.of_bind done
    obtain ⟨chose, open_⟩ := FoldSound.decisionTicket reserved.sound decided
    have committed := chose.sound.commitDecision signalID outcome (chosen.map fun t => t.1.id)
      ((chosen.map Prod.snd).getD .strong) now ?_
    · dsimp only [Tickets.commitDecision] at done committed
      split at done
      · cases done
        exact (reserved.trans chose).trans committed
      · cases done
    · intro id named
      obtain ⟨⟨t, by_⟩, same, rfl⟩ := Option.map_eq_some_iff.mp named
      obtain ⟨row, free⟩ := open_ t by_ same
      exact ⟨t, row, rfl, free⟩
  · rename_i s₁ eq
    rw [eq] at reserved
    obtain ⟨_, -, same⟩ := Except.map_eq_ok_iff.mp done
    cases same
    exact reserved

theorem FoldSound.matchObservation {sessionID signalID : String} {startedAt : Timestamp}
    {backfill : Bool} {leaseMs : Int} (sound : FoldSound s)
    (done : Tickets.matchObservation s projectID environmentID sessionID signalID startedAt backfill
      decision leaseMs now = .ok s') : FoldStep s s' := by
  obtain ⟨⟨s₁, ticket⟩, decided, done⟩ := Except.of_bind done
  have first := sound.observationTicket decided
  dsimp only at done
  split at done
  · cases done
    exact first
  · obtain ⟨⟨s₂, new⟩, matched, same⟩ := Except.of_bind done
    cases same
    exact first.trans (first.sound.recordMatch matched)

/-- After the recordings of a list were matched to a ticket, each is on it. -/
structure Matched (target : UUID) (matched : List TicketMatch) (s s' : TicketStore) : Prop where
  sound : FoldSound s'
  forth : ∀ t ∈ s.tickets.rows, ∃ t' ∈ s'.tickets.rows, t.Kept t'
  back : ∀ t' ∈ s'.tickets.rows, ∃ t ∈ s.tickets.rows, t.Kept t'
  more : ∀ m ∈ s.evidence.ticketMatches.rows, m ∈ s'.evidence.ticketMatches.rows
  fewer : ∀ m ∈ s'.evidence.ticketMatches.rows,
    m ∈ s.evidence.ticketMatches.rows ∨ m.ticketID = target
  present : ∀ m ∈ matched, ∃ m' ∈ s'.evidence.ticketMatches.rows, m'.key = (target, m.sessionID)
  decided : s'.observationDecisions = s.observationDecisions

theorem FoldSound.foldMatches {target : FrictionTicket} {source : Evidence}
    {matched : List TicketMatch} (sound : FoldSound s)
    (done : Tickets.foldMatches target source s matched = .ok s') :
    Matched target.id matched s s' := by
  induction matched generalizing s with
  | nil =>
    cases done
    exact ⟨sound, fun t member => ⟨t, member, .refl t⟩, fun t member => ⟨t, member, .refl t⟩,
      fun _ member => member, fun _ member => Or.inl member, by simp, rfl⟩
  | cons m rest ih =>
    obtain ⟨⟨s₁, new⟩, first, done⟩ := Except.of_bind done
    obtain ⟨t, locked, -, -, grown, -, decided⟩ := recordMatch_effect first
    obtain ⟨forth, back⟩ := recordMatch_kept first
    have id : t.id = target.id := id_of_lockTicket locked
    have then_ := ih (sound.recordMatch first).sound done
    refine ⟨then_.sound, ?_, ?_, ?_, ?_, ?_, then_.decided.trans decided⟩
    · intro u member
      obtain ⟨u', row, kept⟩ := forth u member
      obtain ⟨u'', row', kept'⟩ := then_.forth u' row
      exact ⟨u'', row', kept.trans kept'⟩
    · intro u'' member
      obtain ⟨u', row, kept'⟩ := then_.back u'' member
      obtain ⟨u, row', kept, -⟩ := back u' row
      exact ⟨u, row', kept.trans kept'⟩
    · intro n member
      exact then_.more n (grown ▸ Table.mem_insertIgnore_of_mem _ member)
    · intro n member
      rcases then_.fewer n member with old | new
      · rw [grown] at old
        rcases Table.mem_insertIgnore old with before | rfl
        · exact Or.inl before
        · exact Or.inr id
      · exact Or.inr new
    · intro n listed
      rcases List.mem_cons.mp listed with rfl | later
      · obtain ⟨m', row, key⟩ := s.evidence.addMatch_find? t (foldMatch source target n)
        refine ⟨m', then_.more m' (grown ▸ row), key.trans ?_⟩
        rw [id]
        rfl
      · exact then_.present n later

theorem mem_recordings {e : Evidence} {m : TicketMatch} :
    m ∈ recordings e ticketID ↔ m ∈ e.ticketMatches.rows ∧ m.ticketID = ticketID := by
  simp [recordings, Table.select]

theorem FoldSound.merge {f t : FrictionTicket} (now : Timestamp) (sound : FoldSound s)
    (rowF : f ∈ s.tickets.rows) (rowT : t ∈ s.tickets.rows) (free : t.mergedInto = none)
    (apart : f.id ≠ t.id) (place : f.projectID = t.projectID ∧ f.environmentID = t.environmentID)
    (present : ∀ m ∈ s.evidence.ticketMatches.rows, m.ticketID = f.id →
      ∃ m' ∈ s.evidence.ticketMatches.rows, m'.key = (t.id, m.sessionID)) (tickets : s'.tickets =
      s.tickets.updateKey f.id (FrictionTicket.mergeInto t.id) fun _ => rfl)
    (matched : s'.evidence.ticketMatches = s.evidence.ticketMatches)
    (decided : s'.observationDecisions = s.observationDecisions.updateWhere
      (fun d => d.ticketID = some f.id) (ObservationDecision.fold t.id now) fun _ => rfl) :
    FoldSound s' := by
  have mem : ∀ u', u' ∈ s'.tickets.rows ↔ ∃ u ∈ s.tickets.rows,
      (if u.id = f.id then FrictionTicket.mergeInto t.id u else u) = u' := by
    intro u'
    have updated := Table.mem_updateWhere s.tickets (fun u => u.id = f.id)
      (FrictionTicket.mergeInto t.id) (fun _ => rfl) u'
    simp only [decide_eq_true_eq] at updated
    rw [tickets]
    exact updated
  have same : ∀ u : FrictionTicket,
      u.SamePlace (if u.id = f.id then FrictionTicket.mergeInto t.id u else u) := by
    intro u
    split <;> exact ⟨rfl, rfl, rfl⟩
  have keeps : ∀ u ∈ s.tickets.rows, ∃ u' ∈ s'.tickets.rows, u.SamePlace u' :=
    fun u row => ⟨_, (mem _).mpr ⟨u, row, rfl⟩, same u⟩
  have ticketF : ∀ u ∈ s.tickets.rows, u.id = f.id → u = f :=
    fun u row own => s.tickets.inj row rowF own
  have ticketT : ∀ u ∈ s.tickets.rows, u.id = t.id → u = t :=
    fun u row own => s.tickets.inj row rowT own
  -- a row's fold edge is an old one, or the new one
  have edge : ∀ u' ∈ s'.tickets.rows, ∀ v, u'.mergedInto = some v → ∃ u ∈ s.tickets.rows,
      u.SamePlace u' ∧ (u.mergedInto = some v ∨ (u = f ∧ v = t.id)) := by
    intro u' member v merged
    obtain ⟨u, row, rfl⟩ := (mem u').mp member
    refine ⟨u, row, same u, ?_⟩
    by_cases here : u.id = f.id
    · rw [if_pos here] at merged
      exact Or.inr ⟨ticketF u row here, (Option.some.inj merged).symm⟩
    · rw [if_neg here] at merged
      exact Or.inl merged
  constructor
  · refine ⟨?_, ?_, ?_, ?_, ?_⟩
    · refine sound.shape.acyclic.into_sink (w := t.id) ?_ ?_
      · rintro b ⟨t', found, merged⟩
        obtain ⟨u, row, kept, old | ⟨rfl, -⟩⟩ := edge t' (Table.mem_of_find? found) b merged
        · have id : u.id = t.id := kept.1.symm.trans (Table.key_of_find? found)
          rw [ticketT u row id, free] at old
          cases old
        · exact apart (kept.1.symm.trans (Table.key_of_find? found))
      · rintro a b ⟨u', found, merged⟩
        obtain ⟨u, row, kept, old | ⟨-, rfl⟩⟩ := edge u' (Table.mem_of_find? found) b merged
        · have id : u.id = a := kept.1.symm.trans (Table.key_of_find? found)
          exact Or.inl ⟨u, id ▸ s.tickets.find?_key row, old⟩
        · exact Or.inr rfl
    · intro u' member
      obtain ⟨u, row, rfl⟩ := (mem u').mp member
      split
      · simp [FrictionTicket.mergeInto]
      · exact sound.shape.folded u row
    · intro u' member v merged
      obtain ⟨u, row, kept, old | ⟨rfl, rfl⟩⟩ := edge u' member v merged
      · obtain ⟨w, rowW, id, project, environment⟩ := sound.shape.scope u row v old
        obtain ⟨w', rowW', keptW⟩ := keeps w rowW
        exact ⟨w', rowW', keptW.1.trans id, by rw [keptW.2.1, project, kept.2.1],
          by rw [keptW.2.2, environment, kept.2.2]⟩
      · obtain ⟨t', rowT', keptT⟩ := keeps t rowT
        exact ⟨t', rowT', keptT.1, by rw [keptT.2.1, ← place.1, kept.2.1],
          by rw [keptT.2.2, ← place.2, kept.2.2]⟩
    · intro u' member v merged m row' own
      rw [matched] at row' ⊢
      obtain ⟨u, row, kept, old | ⟨rfl, rfl⟩⟩ := edge u' member v merged
      · exact sound.shape.recordings u row v old m row' (own.trans kept.1)
      · exact present m row' (own.trans kept.1)
    · intro d' member u' memU own
      rw [decided] at member
      obtain ⟨d, old, rfl⟩ := (Table.mem_updateWhere s.observationDecisions
        (fun d => d.ticketID = some f.id) (ObservationDecision.fold t.id now) (fun _ => rfl) d').mp
          member
      obtain ⟨u, row, rfl⟩ := (mem u').mp memU
      by_cases named : d.ticketID = some f.id
      · -- the decisions of `f` are on `t` now
        rw [if_pos (decide_eq_true named)] at own
        have id : u.id = t.id := (same u).1.symm.trans (Option.some.inj own).symm
        rw [if_neg fun here => apart (here.symm.trans id), ticketT u row id]
        exact free
      · rw [if_neg (by simpa using named)] at own
        have id : d.ticketID = some u.id := own.trans (congrArg some (same u).1)
        have here : u.id ≠ f.id := fun here => named (here ▸ id)
        rw [if_neg here]
        exact sound.shape.decisions d old u row id
  · intro u' member _
    obtain ⟨u, row, rfl⟩ := (mem u').mp member
    have counted := sound.counted u row (by simp)
    rw [countMatches, matched, (same u).1, ← countMatches, ← counted]
    split <;> rfl

theorem FoldSound.foldInto {source target : FrictionTicket} {jobID : UUID} (sound : FoldSound s)
    (done : Tickets.foldInto s source target jobID now = .ok s') :
    FoldStep s s' ∧ ∀ d ∈ s.observationDecisions.rows, d.ticketID = some source.id →
      ∃ d' ∈ s'.observationDecisions.rows, d'.signalID = d.signalID ∧ d'.ticketID = some target.id := by
  obtain ⟨place, done⟩ := Except.of_guard done
  obtain ⟨f, lockedF, done⟩ := Except.of_bind done
  obtain ⟨t, lockedT, done⟩ := Except.of_bind done
  obtain ⟨lifecycle, done⟩ := Except.of_guard done
  obtain ⟨-, done⟩ := Except.of_guard done
  obtain ⟨s₁, folded, done⟩ := Except.of_bind done
  obtain ⟨updated, -, done⟩ := Except.of_bind done
  simp only [not_or, not_not, not_and] at place lifecycle
  let s₂ := s₁.updateTicket t.id FrictionTicket.absorb fun _ => ⟨rfl, rfl, rfl⟩
  have result : s'.tickets = s₂.tickets.updateKey f.id (FrictionTicket.mergeInto t.id) (fun _ => rfl) ∧
      s'.evidence.ticketMatches = s₂.evidence.ticketMatches ∧
      s'.observationDecisions = s₂.observationDecisions.updateWhere (fun d => d.ticketID = some f.id)
        (ObservationDecision.fold t.id now) (fun _ => rfl) := by
    rw [Except.ok.injEq] at done
    rw [← done]
    split <;> exact ⟨rfl, rfl, rfl⟩
  obtain ⟨tickets, matched, decided⟩ := result
  have moved := sound.foldMatches folded
  have absorbed : Quiet s₁ s₂ := .of_flag FrictionTicket.absorb (fun _ => ⟨rfl, rfl, rfl⟩)
    (fun _ => rfl) (fun _ => rfl) (fun _ => rfl) rfl rfl rfl
  have forth : ∀ u ∈ s.tickets.rows, ∃ u' ∈ s₂.tickets.rows, u.Kept u' := by
    intro u row
    obtain ⟨u', row', kept⟩ := moved.forth u row
    obtain ⟨u'', row'', kept'⟩ := absorbed.forth u' row'
    exact ⟨u'', row'', kept.trans kept'⟩
  obtain ⟨foundF, projectF, environmentF⟩ := find?_of_lockTicket lockedF
  obtain ⟨foundT, projectT, environmentT⟩ := find?_of_lockTicket lockedT
  have idF := id_of_lockTicket lockedF
  have idT := id_of_lockTicket lockedT
  have memT := Table.mem_of_find? foundT
  obtain ⟨f', rowF, keptF⟩ := forth f (Table.mem_of_find? foundF)
  obtain ⟨t', rowT, keptT⟩ := forth t memT
  have free : t.mergedInto = none := by
    have := sound.shape.folded t memT
    simpa [lifecycle.2] using this
  refine ⟨⟨(moved.sound.quiet absorbed).sound.merge (f := f') (t := t') now rowF rowT
    (keptT.merged.trans free) ?_ ?_ ?_ ?_ matched ?_, ?_⟩, ?_⟩
  · rw [keptF.place.1, keptT.place.1, idF, idT]
    exact place.1
  · rw [keptF.place.2.1, keptT.place.2.1, projectF, projectT, keptF.place.2.2, keptT.place.2.2,
      environmentF, environmentT]
    exact place.2
  · intro m row own
    rw [keptT.place.1]
    rw [keptF.place.1] at own
    rcases moved.fewer m row with old | new
    · exact moved.present m (mem_recordings.mpr ⟨old, own⟩)
    · exact ⟨m, row, Prod.ext new rfl⟩
  · rw [keptF.place.1, keptT.place.1]
    exact tickets
  · rw [keptF.place.1, keptT.place.1]
    exact decided
  · intro u row merged
    obtain ⟨u', row', kept⟩ := forth u row
    have mem := (Table.mem_updateWhere s₂.tickets (fun u => u.id = f.id)
      (FrictionTicket.mergeInto t.id) (fun _ => rfl) _).mpr ⟨u', row', rfl⟩
    refine ⟨_, by rw [tickets]; exact mem, ?_⟩
    split
    · exact ⟨kept.place.1, rfl⟩
    · exact ⟨kept.place.1, kept.status.mpr merged⟩
  · intro d row own
    have old : d ∈ s₂.observationDecisions.rows := moved.decided ▸ row
    have mem := (Table.mem_updateWhere s₂.observationDecisions (fun d => d.ticketID = some f.id)
      (ObservationDecision.fold t.id now) (fun _ => rfl) _).mpr ⟨d, old, rfl⟩
    rw [if_pos (by simpa [idF] using own)] at mem
    exact ⟨ObservationDecision.fold t.id now d, decided ▸ mem, rfl, congrArg some idT⟩

theorem foldSound_empty : FoldSound .empty where
  shape :=
    { acyclic := acyclic_of_empty fun a b => by
        rintro ⟨t, found, -⟩
        cases found
      folded := by simp [TicketStore.empty, Table.empty]
      scope := by simp [TicketStore.empty, Table.empty]
      recordings := by simp [TicketStore.empty, Table.empty]
      decisions := by simp [TicketStore.empty, Table.empty] }
  counted := by simp [CountedBut, TicketStore.empty, Table.empty]

theorem FoldSound.recountTicket (sound : FoldSound s) (ticketID : UUID) :
    FoldStep s (Tickets.recountTicket s ticketID) := by
  have calm : Calm s (Tickets.recountTicket s ticketID) :=
    calm_updateTicket s ticketID _ fun _ _ _ => ⟨⟨rfl, rfl, rfl⟩, rfl, Iff.rfl⟩
  exact ⟨⟨sound.shape.calm calm, (sound.counted.weaken ticketID).recount _ fun _ => rfl⟩,
    .of_kept calm.forth⟩

theorem FoldSound.committed {ε : Type} (sound : FoldSound s) {r : Except ε TicketStore}
    (kept : ∀ s', r = .ok s' → FoldStep s s') :
    FoldStep s (Transition.committed s r) := by
  cases r with
  | ok s' => exact kept s' rfl
  | error _ => exact sound.refl

theorem FoldSound.committed_fst {ε α : Type} (sound : FoldSound s) {r : Except ε (TicketStore × α)}
    (kept : ∀ s' x, r = .ok (s', x) → FoldStep s s') :
    FoldStep s (Transition.committed s (r.map Prod.fst)) := by
  refine sound.committed fun s' done => ?_
  obtain ⟨⟨s₁, x⟩, result, rfl⟩ := Except.map_eq_ok_iff.mp done
  exact kept s₁ x result

theorem FoldSound.step {s : TicketStore} (sound : FoldSound s) {a : Action} (spares : Spares s a) :
    FoldStep s (step s a) := by
  cases a with
  | setAutonomy | endUser | session | signal | investigate | snapshotJob =>
    exact sound.quiet (.of_eq rfl rfl rfl)
  | deleteMarkedSession sessionID now => exact sound.deleteMarkedSession sessionID now
  | frictionSetSessionIdentity sessionID user now =>
    exact sound.frictionSetSessionIdentity sessionID user now
  | confirm ticketID note checks attempts batches =>
    exact sound.quiet (.of_flag (FrictionTicket.note note) (fun _ => ⟨rfl, rfl, rfl⟩) (fun _ => rfl)
      (fun _ => rfl) (fun _ => rfl) rfl rfl rfl)
  | recountTicket ticketID => exact sound.recountTicket ticketID
  | reinvestigate => exact sound.committed fun _ done => sound.quiet (quiet_reinvestigate done)
  | matchObservation => exact sound.committed fun _ done => sound.matchObservation done
  | recordMatch => exact sound.committed_fst fun _ _ done => sound.recordMatch done
  | foldInto => exact sound.committed fun _ done => (sound.foldInto done).1
  | activateGeneration =>
    exact sound.committed fun _ done => sound.quiet (quiet_activateGeneration done)
  | unpublish => exact sound.committed fun _ done => sound.quiet (quiet_unpublish done)
  | archiveTicketGroup =>
    exact sound.committed fun _ done => sound.quiet (quiet_archiveTicketGroup spares done)
  | frictionReconcileAfterDelete ticketID now => exact sound.frictionReconcileAfterDelete ticketID now
  | requestTicketFix =>
    refine sound.committed fun s' done => sound.quiet ?_
    obtain ⟨g, t, attempts, jobs, -, -, -, -, -, -, -, rfl⟩ := requestTicketFix_effect done
    exact .of_eq rfl rfl rfl
  | requestFix => exact sound.committed_fst fun _ _ done => sound.quiet (quiet_requestFix done)
  | applyPrEvent => exact sound.committed_fst fun _ _ done => sound.quiet (quiet_applyPrEvent done)
  | assertFixAttemptCurrent =>
    exact sound.committed fun _ done => sound.quiet (quiet_assertFixAttemptCurrent done)
  | recordAttemptPr =>
    exact sound.committed_fst fun _ _ done => sound.quiet (quiet_recordAttemptPr done)
  | attemptFailed jobID projectID => exact sound.quiet (quiet_attemptFailed s jobID projectID)
  | processTicketPRWebhook =>
    exact sound.committed_fst fun _ _ done => sound.quiet (quiet_processTicketPRWebhook done)
  | processPrEventJob =>
    exact sound.committed fun _ done => sound.quiet (quiet_processPrEventJob done)
  | enqueue j =>
    dsimp only [Tickets.step]
    split
    · exact sound.refl
    · exact sound.quiet (.of_eq rfl rfl rfl)
  | queue action =>
    dsimp only [Tickets.step]
    split
    · exact sound.quiet (.of_eq rfl rfl rfl)
    · exact sound.refl

theorem FoldSound.run (sound : FoldSound s) {actions : List Action}
    (spared : machine.Guarded Spares s actions) : FoldStep s (machine.run s actions) := by
  induction actions generalizing s with
  | nil => exact sound.refl
  | cons a rest ih =>
    have first := sound.step spared.1
    exact first.trans (ih first.sound spared.2)

/-- The fold graph of a store: a forest inside each environment, on which every walk of
`resolveMatchTicket` ends, with everything of a folded ticket on its target. -/
structure FoldsHold (s : TicketStore) : Prop where
  acyclic : Acyclic (MergedInto s)
  scope : ∀ t ∈ s.tickets.rows, ∀ u, t.mergedInto = some u → ∃ t' ∈ s.tickets.rows, t'.id = u ∧
    t'.projectID = t.projectID ∧ t'.environmentID = t.environmentID
  /-- The walk from a ticket ends at the end of its chain. -/
  resolves : ∀ t ∈ s.tickets.rows, ∃ r ∈ s.tickets.rows, ReflTransGen (MergedInto s) t.id r.id ∧
    r.status ≠ .merged ∧ resolveMatchTicket s t.environmentID t.id =
      if r.status = .archived then .error missingTarget else .ok r
  /-- No other id resolves. -/
  outside : ∀ environmentID id, (∀ t ∈ s.tickets.rows, t.id = id → t.environmentID ≠ environmentID) →
    resolveMatchTicket s environmentID id = .error missingTarget
  recordings : ∀ t ∈ s.tickets.rows, t.status = .merged → ∃ u, t.mergedInto = some u ∧
    ∀ m ∈ s.evidence.ticketMatches.rows, m.ticketID = t.id →
      ∃ m' ∈ s.evidence.ticketMatches.rows, m'.key = (u, m.sessionID)
  decisions : ∀ t ∈ s.tickets.rows, t.status = .merged →
    ∀ d ∈ s.observationDecisions.rows, d.ticketID ≠ some t.id
  /-- A ticket's count is that of its recordings, each of which it has once. -/
  counted : ∀ t ∈ s.tickets.rows, t.matchedCount = countMatches s t.id

theorem FoldSound.folds_hold (sound : FoldSound s) : FoldsHold s where
  acyclic := sound.shape.acyclic
  scope := sound.shape.scope
  resolves := by
    intro t row
    obtain ⟨r, rowR, path, root, resolved⟩ := sound.shape.resolves row
    exact ⟨r, rowR, path, by simp [sound.shape.folded r rowR, root], resolved⟩
  outside := fun _ _ outside => resolveMatchTicket_outside outside
  recordings := by
    intro t row merged
    obtain ⟨u, into⟩ := Option.isSome_iff_exists.mp ((sound.shape.folded t row).mp merged)
    exact ⟨u, into, sound.shape.recordings t row u into⟩
  decisions := by
    intro t row merged d decided own
    have folded := (sound.shape.folded t row).mp merged
    simp [sound.shape.decisions d decided t row own] at folded
  counted := fun t row => sound.counted t row (by simp)

/-- In a run in which nobody archives a folded ticket, the folds hold in every store, none is
forgotten, and a fold's target has the decisions of the ticket folded into it. -/
theorem folds_kept (before after : List Action)
    (spared : machine.Guarded Spares .empty (before ++ after)) :
    FoldsHold (machine.run .empty before) ∧
      StaysMerged (machine.run .empty before) (machine.run .empty (before ++ after)) ∧
      ∀ source target jobID now s',
        foldInto (machine.run .empty before) source target jobID now = .ok s' →
          ∀ d ∈ (machine.run .empty before).observationDecisions.rows, d.ticketID = some source.id →
            ∃ d' ∈ s'.observationDecisions.rows, d'.signalID = d.signalID ∧
              d'.ticketID = some target.id := by
  obtain ⟨first, then_⟩ := (Transition.Machine.guarded_append ..).mp spared
  have sound := (foldSound_empty.run first).sound
  refine ⟨sound.folds_hold, ?_, ?_⟩
  · rw [Transition.Machine.run_append]
    exact (sound.run then_).stays
  · intro source target jobID now s' done
    exact (sound.foldInto done).2

section Example

/-- Two tickets of three recordings each; the first is published, unpublished again and folded
into the second, which is published. -/
def foldedRun : List Action :=
  let ticket (id : UUID) := FrictionTicket.new id 1 2 .defect
  let sessions := ["a", "b", "c"]
  let tickets : List UUID := [10, 11]
  let matched (id : UUID) : List Action := sessions.map fun r =>
    .matchObservation 1 2 r (r ++ toString id) 0 false
      (if r = "a" then .create id .defect else .known id .strong) 0 0
  sessions.map (fun r => .session ⟨r, 2, none, 0⟩) ++
    tickets.flatMap (fun id => sessions.map fun r => .signal ⟨r ++ toString id, r, 2⟩) ++
    tickets.flatMap matched ++
    [.confirm 10 ⟨0, 0, 0, false, false⟩
      ⟨[⟨10, "a", 20, .confirmed⟩, ⟨10, "b", 20, .confirmed⟩, ⟨10, "c", 20, .confirmed⟩,
        ⟨11, "a", 21, .confirmed⟩, ⟨11, "b", 21, .confirmed⟩, ⟨11, "c", 21, .confirmed⟩], by decide⟩
      ⟨[⟨20, 30, 10, "a", [], "", none⟩, ⟨21, 31, 11, "a", [], "", none⟩], by decide⟩
      ⟨[⟨30, 10, .finalized⟩, ⟨31, 11, .finalized⟩], by decide⟩,
    .activateGeneration (ticket 10) 5 100 200 0,
    .unpublish (ticket 10) 0,
    .activateGeneration (ticket 11) 5 101 201 0,
    .foldInto (ticket 10) (ticket 11) 202 0]

theorem folds_kept_folded :
    machine.Guarded Spares .empty (foldedRun ++ []) ∧ FoldsHold (machine.run .empty foldedRun) :=
  have spared : machine.Guarded Spares .empty (foldedRun ++ []) := by decide +kernel
  ⟨spared, (folds_kept foldedRun [] spared).1⟩

/-- A human who archives the first ticket's old problem forgets the fold. -/
theorem fold_forgotten : ¬∀ before after : List Action,
    StaysMerged (machine.run .empty before) (machine.run .empty (before ++ after)) := by
  intro stays
  have folded := stays foldedRun [.archiveTicketGroup 1 100 0]
  revert folded
  unfold StaysMerged
  decide +kernel

end Example

end Opslane.Tickets
