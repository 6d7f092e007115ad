import Opslane.Tickets.Aside

/-!
# Checks beside their confirmation

What every transaction beside the two jobs leaves of the checks of a ticket: a purge takes
everything of its recording, an archive discards the staging batches of its ticket, and
nothing adds a check. A match that stays keeps its arrival number, one that comes arrives
after all others, and a ticket whose matches change otherwise has its evidence version
raised.
-/

namespace Opslane.Tickets.Confirmations

open Jobs (Job)

/-- The ticket's evidence version rises. -/
def Bumped (s s' : TicketStore) (ticketID : UUID) : Prop :=
  ∃ t ∈ s.tickets.rows, ∃ t' ∈ s'.tickets.rows, t.id = ticketID ∧ t'.id = ticketID ∧
    t.evidenceVersion < t'.evidenceVersion

/-- A match is new, after every earlier arrival. -/
structure Arrives (s : TicketStore) (m : TicketMatch) : Prop where
  positive : 0 < m.arrivalNumber
  later : ∀ t ∈ s.tickets.rows, t.id = m.ticketID → t.nextArrivalNumber < m.arrivalNumber

structure EvidenceAside (gone : String → Bool) (s s' : TicketStore) : Prop where
  checks : s'.evidence.checks.rows = s.evidence.checks.rows.filter fun c => !gone c.sessionID
  attempts : s'.evidence.attempts.rows = s.evidence.attempts.rows.filter fun a => !gone a.sessionID
  lost : ∀ k, gone k.2 = true → s'.evidence.ticketMatches.find? k = none
  kept : ∀ k m, s.evidence.ticketMatches.find? k = some m → gone k.2 = false →
    ∃ m', s'.evidence.ticketMatches.find? k = some m' ∧ m'.arrivalNumber = m.arrivalNumber ∧
      (m' = m ∨ Bumped s s' k.1)
  bumps : ∀ k m, s.evidence.ticketMatches.find? k = some m → gone k.2 = true → Bumped s s' k.1
  came : ∀ k m', s'.evidence.ticketMatches.find? k = some m' →
    s.evidence.ticketMatches.find? k = none → Arrives s m'
  batches : ∃ q : ConfirmBatch → Bool,
    (∀ b, q b = true → b.status = .staging ∧ ArchivedIn s' b.ticketID) ∧
    s'.evidence.batches.rows = s.evidence.batches.rows.map fun b => if q b then b.discard else b

namespace EvidenceAside

theorem of_eq {s s' : TicketStore} (checks : s'.evidence.checks = s.evidence.checks)
    (attempts : s'.evidence.attempts = s.evidence.attempts)
    (ticketMatches : s'.evidence.ticketMatches = s.evidence.ticketMatches)
    (batches : s'.evidence.batches = s.evidence.batches) : EvidenceAside (fun _ => false) s s' where
  checks := by simp [checks]
  attempts := by simp [attempts]
  lost _ gone := by cases gone
  kept k m found _ := ⟨m, ticketMatches ▸ found, rfl, Or.inl rfl⟩
  bumps _ _ _ gone := by cases gone
  came k m found absent := by
    rw [ticketMatches, absent] at found
    cases found
  batches := ⟨fun _ => false, fun _ chosen => (nomatch chosen), by simp [batches]⟩

theorem of_evidence {s s' : TicketStore} (same : s'.evidence = s.evidence) :
    EvidenceAside (fun _ => false) s s' :=
  of_eq (by rw [same]) (by rw [same]) (by rw [same]) (by rw [same])

end EvidenceAside

theorem evidenceAside_archiveTicketGroup {s s' : TicketStore} {projectID groupID : UUID}
    {now : Timestamp} (done : archiveTicketGroup s projectID groupID now = .ok s') :
    EvidenceAside (fun _ => false) s s' := by
  unfold archiveTicketGroup at done
  split at done
  · cases done
    exact .of_evidence rfl
  · rename_i g t found
    split at done
    · cases done
      exact .of_evidence rfl
    · split at done
      · cases done
      · cases done
        obtain ⟨-, row, -⟩ := TicketStore.getIncident_eq_some_iff.mp found
        have same : EvidenceAside (fun _ => false) s s := .of_evidence rfl
        refine ⟨same.checks, same.attempts, same.lost, ?_, fun _ _ _ gone => (nomatch gone),
          same.came, ?_⟩
        · exact fun k m found _ => ⟨m, found, rfl, Or.inl rfl⟩
        · refine ⟨fun b => b.ticketID = t.id ∧ b.status = .staging, fun b chosen => ?_, rfl⟩
          obtain ⟨own, staging⟩ := of_decide_eq_true chosen
          refine ⟨staging, FrictionTicket.archive t, ?_, own.symm, rfl⟩
          exact (Table.mem_updateWhere s.tickets _ FrictionTicket.archive (fun _ => rfl) _).mpr
            ⟨t, Table.mem_of_find? row, by simp⟩

theorem evidenceAside_recordMatch {s s' : TicketStore} {input : MatchInput} {new : Bool}
    (done : recordMatch s input = .ok (s', new)) : EvidenceAside (fun _ => false) s s' := by
  have others : s'.evidence.checks = s.evidence.checks ∧ s'.evidence.attempts = s.evidence.attempts ∧
      s'.evidence.batches = s.evidence.batches := by
    unfold recordMatch at done
    split at done
    · cases done
    · split at done
      · cases done
      · split at done <;> cases done
        exact ⟨rfl, rfl, rfl⟩
  obtain ⟨t, locked, -, tickets, inserted, -, -⟩ := recordMatch_effect done
  refine ⟨by simp [others.1], by simp [others.2.1], fun _ gone => (nomatch gone), ?_,
    fun _ _ _ gone => (nomatch gone), ?_, fun _ => false, fun _ chosen => (nomatch chosen),
    by simp [others.2.2]⟩
  · intro k m found _
    refine ⟨m, ?_, rfl, Or.inl rfl⟩
    rw [inserted, Table.find?_insertIgnore, found, Option.some_or]
  · intro k m found absent
    rw [inserted, Table.find?_insertIgnore, absent, Option.none_or] at found
    split at found
    · cases found
      obtain ⟨known, -⟩ := find?_of_lockTicket locked
      refine ⟨Nat.succ_pos _, fun u member own => ?_⟩
      rw [ticket_of_id known member own]
      exact Nat.lt_succ_self _
    · cases found

theorem EvidenceAside.after {gone : String → Bool} {s s₁ s' : TicketStore} (rows : TicketsAside s s₁)
    (evidence : s₁.evidence = s.evidence) (aside : EvidenceAside gone s₁ s') :
    EvidenceAside gone s s' := by
  have bumped : ∀ t ticket', Bumped s₁ s' t → ticket' ∈ s.tickets.rows → ticket'.id = t →
      Bumped s s' t := by
    rintro t u ⟨a, memA, b, memB, own, own', less⟩ memU ownU
    obtain ⟨u', memU', row⟩ := rows.forth u memU
    obtain rfl : u' = a := s₁.tickets.inj memU' memA
      ((row.place.1.trans ownU).trans own.symm)
    exact ⟨u, memU, b, memB, ownU, own', row.version.trans_lt less⟩
  refine ⟨evidence ▸ aside.checks, evidence ▸ aside.attempts, aside.lost, ?_, ?_, ?_, ?_⟩
  · intro k m found stays
    obtain ⟨m', found', arrival, same⟩ := aside.kept k m (evidence ▸ found) stays
    obtain ⟨u, memU, ownU, -⟩ := s.scope.matched m (Table.mem_of_find? found)
    refine ⟨m', found', arrival, same.imp_right fun rise => bumped k.1 u rise memU ?_⟩
    exact ownU.trans (congrArg Prod.fst (Table.key_of_find? found))
  · intro k m found lost
    obtain ⟨u, memU, ownU, -⟩ := s.scope.matched m (Table.mem_of_find? found)
    exact bumped k.1 u (aside.bumps k m (evidence ▸ found) lost) memU
      (ownU.trans (congrArg Prod.fst (Table.key_of_find? found)))
  · intro k m found absent
    obtain ⟨positive, later⟩ := aside.came k m found (evidence ▸ absent)
    refine ⟨positive, fun u memU own => ?_⟩
    obtain ⟨u', memU', row⟩ := rows.forth u memU
    exact row.arrivals.trans_lt (later u' memU' (row.place.1.trans own))
  · obtain ⟨q, chosen, rows'⟩ := aside.batches
    exact ⟨q, chosen, evidence ▸ rows'⟩

theorem evidenceAside_matchObservation {s s' : TicketStore} {projectID environmentID : UUID}
    {sessionID signalID : String} {startedAt : Timestamp} {backfill : Bool} {decision : MatchDecision}
    {leaseMs : Int} {now : Timestamp}
    (done : matchObservation s projectID environmentID sessionID signalID startedAt backfill decision
      leaseMs now = .ok s') : EvidenceAside (fun _ => false) s s' := by
  obtain ⟨s₁, rows, evidence, rfl | ⟨input, new, matched⟩⟩ := matchObservation_steps done
  · exact .of_evidence evidence
  · exact .after rows evidence (evidenceAside_recordMatch matched)

theorem frictionReconcileAfterDelete_evidence (s : TicketStore) (ticketID : UUID) (now : Timestamp) :
    (frictionReconcileAfterDelete s ticketID now).evidence = s.evidence := by
  unfold frictionReconcileAfterDelete
  split
  · rfl
  · dsimp only
    split
    · rfl
    · split
      · rfl
      · split
        · rfl
        · split <;> rfl

theorem reconcileAll_evidence (ticketIDs : List UUID) (now : Timestamp) (s : TicketStore) :
    (reconcileAll s ticketIDs now).evidence = s.evidence := by
  induction ticketIDs generalizing s with
  | nil => rfl
  | cons id rest ih =>
    exact (ih (frictionReconcileAfterDelete s id now)).trans
      (frictionReconcileAfterDelete_evidence s id now)

theorem reconcileAll_bumps {s s₁ : TicketStore} {sessionID : String} (now : Timestamp)
    (tickets : s₁.tickets = s.tickets) {k : UUID × String} {m : TicketMatch}
    (found : s.evidence.ticketMatches.find? k = some m) (session : k.2 = sessionID) :
    Bumped s (reconcileAll s₁ (ticketsOf s.evidence sessionID) now) k.1 := by
  have key := Table.key_of_find? found
  obtain ⟨t, member, own, -⟩ := s.scope.matched m (Table.mem_of_find? found)
  have owner : t.id = k.1 := own.trans (congrArg Prod.fst key)
  obtain ⟨-, bumps⟩ := reconcileAll_rows (ticketsOf s.evidence sessionID) now s₁
  have named : t.id ∈ ticketsOf s.evidence sessionID := by
    rw [own]
    exact mem_ticketsOf.mpr ⟨m, Table.mem_of_find? found, rfl,
      (congrArg Prod.snd key).trans session⟩
  obtain ⟨t', member', own', rises⟩ := bumps t (tickets ▸ member) named
  exact ⟨t, member, t', member', owner, own'.trans owner, rises⟩

theorem beside_deleteMarkedSession (s : TicketStore) (sessionID : String) (now : Timestamp) :
    TicketsAside s (deleteMarkedSession s sessionID now) ∧
      EvidenceAside (purged s (.deleteMarkedSession sessionID now)) s
        (deleteMarkedSession s sessionID now) := by
  unfold deleteMarkedSession
  split
  · rename_i absent
    have none_ : purged s (.deleteMarkedSession sessionID now) = fun _ => false := by
      funext id
      rw [Option.isNone_iff_eq_none] at absent
      simp [purged, absent]
    rw [none_]
    exact ⟨.refl s, .of_evidence rfl⟩
  · rename_i present
    have gone : purged s (.deleteMarkedSession sessionID now) = fun id => decide (id = sessionID) := by
      funext id
      rw [← Option.not_isSome, Bool.not_eq_true', Bool.not_eq_false] at present
      simp [purged, present]
    rw [gone]
    dsimp only
    generalize eq : ({ s with
      evidence := s.evidence.purge sessionID
      scope := s.scope.purge sessionID
      observationDecisions := s.observationDecisions.deleteWhere fun d =>
        (s.evidence.signals.find? d.signalID).any fun f => f.sessionID = sessionID } : TicketStore) = s₁
    have tickets : s₁.tickets = s.tickets := eq ▸ rfl
    have jobs : s₁.jobs = s.jobs := eq ▸ rfl
    have evidence : (reconcileAll s₁ (ticketsOf s.evidence sessionID) now).evidence =
        s.evidence.purge sessionID := (reconcileAll_evidence ..).trans (eq ▸ rfl)
    obtain ⟨rows, -⟩ := reconcileAll_rows (ticketsOf s.evidence sessionID) now s₁
    refine ⟨(TicketsAside.of_eq tickets jobs).trans rows, ?_⟩
    constructor
    · rw [evidence]
      rfl
    · rw [evidence]
      rfl
    · intro k own
      rw [evidence, Evidence.purge, Table.find?_deleteWhere]
      cases found : s.evidence.ticketMatches.find? k with
      | none => rfl
      | some m =>
        have session : m.sessionID = k.2 := congrArg Prod.snd (Table.key_of_find? found)
        simp [session, of_decide_eq_true own]
    · intro k m found other
      refine ⟨m, ?_, rfl, Or.inl rfl⟩
      have session : m.sessionID = k.2 := congrArg Prod.snd (Table.key_of_find? found)
      rw [evidence, Evidence.purge, Table.find?_deleteWhere, found]
      simp [Option.filter, session, of_decide_eq_false other]
    · exact fun k m found own => reconcileAll_bumps now tickets found (of_decide_eq_true own)
    · intro k m found absent
      rw [evidence, Evidence.purge, Table.find?_deleteWhere, absent] at found
      cases found
    · refine ⟨fun _ => false, fun _ chosen => absurd chosen Bool.false_ne_true, ?_⟩
      rw [evidence]
      simp [Evidence.purge]

theorem beside_frictionSetSessionIdentity (s : TicketStore) (sessionID : String)
    (user : Option UUID) (now : Timestamp) :
    TicketsAside s (frictionSetSessionIdentity s sessionID user now) ∧
      EvidenceAside (fun _ => false) s (frictionSetSessionIdentity s sessionID user now) := by
  unfold frictionSetSessionIdentity
  split
  · exact ⟨.refl s, .of_evidence rfl⟩
  · split
    · exact ⟨.refl s, .of_evidence rfl⟩
    · dsimp only
      generalize eq : ({ s with
        evidence := s.evidence.identify sessionID user
        scope := s.scope.identify sessionID user } : TicketStore) = s₁
      have tickets : s₁.tickets = s.tickets := eq ▸ rfl
      have jobs : s₁.jobs = s.jobs := eq ▸ rfl
      have evidence : (reconcileAll s₁ (ticketsOf s.evidence sessionID) now).evidence =
          s.evidence.identify sessionID user := (reconcileAll_evidence ..).trans (eq ▸ rfl)
      obtain ⟨rows, -⟩ := reconcileAll_rows (ticketsOf s.evidence sessionID) now s₁
      have lookup : ∀ k, (reconcileAll s₁ (ticketsOf s.evidence sessionID) now).evidence.ticketMatches.find? k =
          (s.evidence.ticketMatches.find? k).map fun m =>
            if m.sessionID = sessionID then m.identify user else m := by
        intro k
        rw [evidence, Evidence.identify]
        refine (Table.find?_updateWhere s.evidence.ticketMatches (fun m => m.sessionID = sessionID)
          (TicketMatch.identify user) (fun _ => rfl) k).trans ?_
        simp only [decide_eq_true_eq]
      refine ⟨(TicketsAside.of_eq tickets jobs).trans rows, ?_⟩
      constructor
      · rw [evidence]
        simp [Evidence.identify]
      · rw [evidence]
        simp [Evidence.identify]
      · exact fun _ gone => absurd gone Bool.false_ne_true
      · intro k m found _
        rw [lookup, found, Option.map_some]
        refine ⟨_, rfl, ?_, ?_⟩
        · split <;> rfl
        · split
          · rename_i own
            refine Or.inr (reconcileAll_bumps now tickets found ?_)
            exact (congrArg Prod.snd (Table.key_of_find? found)).symm.trans own
          · exact Or.inl rfl
      · exact fun _ _ _ gone => absurd gone Bool.false_ne_true
      · intro k m found absent
        rw [lookup, absent] at found
        cases found
      · refine ⟨fun _ => false, fun _ chosen => absurd chosen Bool.false_ne_true, ?_⟩
        rw [evidence]
        simp [Evidence.identify]

/-- What a transaction beside the two jobs does to their tables. -/
structure Besides (gone : String → Bool) (s s' : TicketStore) : Prop where
  rows : TicketsAside s s'
  evidence : EvidenceAside gone s s'

theorem Besides.of_evidence {s s' : TicketStore}
    (aside : TicketsAside s s' ∧ s'.evidence = s.evidence) : Besides (fun _ => false) s s' :=
  ⟨aside.1, .of_evidence aside.2⟩

theorem Besides.refl (s : TicketStore) : Besides (fun _ => false) s s := .of_evidence ⟨.refl s, rfl⟩

variable {s : TicketStore}

theorem besides_committed {ε : Type} {r : Except ε TicketStore}
    (besides : ∀ s', r = .ok s' → Besides (fun _ => false) s s') :
    Besides (fun _ => false) s (Transition.committed s r) := by
  cases r with
  | ok s' => exact besides s' rfl
  | error _ => exact .refl s

theorem besides_committed_fst {ε α : Type} {r : Except ε (TicketStore × α)}
    (besides : ∀ s' a, r = .ok (s', a) → Besides (fun _ => false) s s') :
    Besides (fun _ => false) s (Transition.committed s (r.map Prod.fst)) := by
  cases r with
  | ok result => exact besides result.1 result.2 rfl
  | error _ => exact .refl s

theorem besides_step {a : Tickets.Action} (beside : Beside s a) :
    Besides (purged s a) s (Tickets.step s a) := by
  cases a with
  | confirm | recountTicket | foldInto | activateGeneration | unpublish => cases beside
  | setAutonomy => exact .of_evidence ⟨.of_eq rfl rfl, rfl⟩
  | endUser | session | signal => exact ⟨.of_eq rfl rfl, .of_eq rfl rfl rfl rfl⟩
  | deleteMarkedSession sessionID now =>
    obtain ⟨rows, evidence⟩ := beside_deleteMarkedSession s sessionID now
    exact ⟨rows, evidence⟩
  | frictionSetSessionIdentity sessionID user now =>
    obtain ⟨rows, evidence⟩ := beside_frictionSetSessionIdentity s sessionID user now
    exact ⟨rows, evidence⟩
  | investigate => exact .of_evidence ⟨.of_eq rfl rfl, rfl⟩
  | snapshotJob => exact .of_evidence ⟨ticketsAside_snapshotJob .., rfl⟩
  | reinvestigate =>
    exact besides_committed fun s' done => .of_evidence (ticketsAside_reinvestigate done)
  | matchObservation =>
    refine besides_committed fun s' done => ⟨?_, evidenceAside_matchObservation done⟩
    obtain ⟨s₁, rows, -, rfl | ⟨input, new, matched⟩⟩ := matchObservation_steps done
    · exact rows
    · exact rows.trans (ticketsAside_recordMatch matched)
  | recordMatch =>
    exact besides_committed_fst fun s' _ done =>
      ⟨ticketsAside_recordMatch done, evidenceAside_recordMatch done⟩
  | archiveTicketGroup =>
    exact besides_committed fun s' done =>
      ⟨ticketsAside_archiveTicketGroup done, evidenceAside_archiveTicketGroup done⟩
  | frictionReconcileAfterDelete ticketID now =>
    exact .of_evidence ⟨(frictionReconcileAfterDelete_rows ticketID now).1,
      frictionReconcileAfterDelete_evidence s ticketID now⟩
  | requestTicketFix =>
    exact besides_committed fun s' done => .of_evidence (ticketsAside_requestTicketFix done)
  | requestFix =>
    exact besides_committed_fst fun s' _ done => .of_evidence (ticketsAside_requestFix done)
  | applyPrEvent =>
    exact besides_committed_fst fun s' _ done => .of_evidence (ticketsAside_applyPrEvent done)
  | assertFixAttemptCurrent =>
    refine besides_committed fun s' done => .of_evidence ?_
    obtain ⟨a, -, -, -, -, ⟨rfl, -⟩ | ⟨-, rfl⟩⟩ := assertFixAttemptCurrent_effect done
    · exact ⟨.refl _, rfl⟩
    · exact ⟨.of_eq rfl rfl, rfl⟩
  | recordAttemptPr =>
    exact besides_committed_fst fun s' _ done => .of_evidence (ticketsAside_recordAttemptPr done)
  | attemptFailed jobID projectID =>
    exact .of_evidence (ticketsAside_attemptFailed s projectID beside)
  | processTicketPRWebhook =>
    exact besides_committed_fst fun s' _ done =>
      .of_evidence (ticketsAside_processTicketPRWebhook done)
  | processPrEventJob =>
    exact besides_committed fun s' done => .of_evidence (ticketsAside_processPrEventJob done)
  | enqueue j =>
    have same : (Tickets.step s (.enqueue j)).tickets = s.tickets ∧
        (Tickets.step s (.enqueue j)).evidence = s.evidence := by
      dsimp only [Tickets.step]
      split <;> exact ⟨rfl, rfl⟩
    refine .of_evidence ⟨.of_jobs same.1 ((jobsAside_enqueue s beside).mono (fun _ ends => ends) ?_),
      same.2⟩
    rintro k ⟨t, member, fits⟩
    exact ⟨t, same.1 ▸ member, fits⟩
  | queue a =>
    dsimp only [Tickets.step]
    split
    · rename_i progress
      exact .of_evidence ⟨.of_jobs rfl (jobsAside_queue s progress beside), rfl⟩
    · exact .refl s

end Opslane.Tickets.Confirmations
