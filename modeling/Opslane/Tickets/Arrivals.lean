import Opslane.Tickets.Cohorts

/-!
# Counting arrivals

A ticket counts its recordings and numbers their arrivals. `recordMatch` counts one recording,
`foldInto` those of the folded ticket one by one, and the reconciliation after a purge counts
what is left; the numbers go on past those of purged recordings. `selectBatch` moves the
boundary up to which arrivals are covered (`packages/worker/src/friction/tickets-db.ts`,
migration 078).
-/

namespace Opslane.Tickets.Arrivals

open Transition (Machine committed)
open Confirmations (RowAside RowsAside TicketsAside EvidenceAside Bounded)

/-- Selects a batch of a ticket that may still be checked. -/
def selectLocked (s : ConfirmStore) (ticket : FrictionTicket) (jobID batchID : UUID)
    (now : Timestamp) : Except String (Option ConfirmStore) := do
  let t ← lockTicket s.store ticket
  if t.status.Terminal then .ok none else selectBatch s t jobID batchID now

/-- One transaction on the tickets; what else confirmations write of checks and retries is any
content of their tables. -/
inductive Action where
  | ticket (a : Tickets.Action)
  | selectBatch (ticket : FrictionTicket) (jobID batchID : UUID) (now : Timestamp)
  | check (checks : Table Check.key) (attempts : Table CheckAttempt.id)
      (batches : Table ConfirmBatch.id) (retries : Table UnavailableRetry.key)

/-- The stand-in for what confirmations write, which `check` replaces. -/
def StandIn : Tickets.Action → Prop
  | .confirm .. => True
  | _ => False

instance (a : Tickets.Action) : Decidable (StandIn a) := by
  rcases a with _ | _ <;> dsimp only [StandIn] <;> infer_instance

def step (s : ConfirmStore) : Action → ConfirmStore
  | .ticket a =>
    if StandIn a then s
    else
      { s with
        store := Tickets.step s.store a
        retries := s.retries.deleteWhere fun r => Confirmations.purged s.store a r.sessionID }
  | .selectBatch ticket jobID batchID now =>
    match selectLocked s ticket jobID batchID now with
    | .ok (some s') => s'
    | _ => s
  | .check checks attempts batches retries =>
    { s with store := s.store.withChecks checks attempts batches, retries }

def machine : Machine ConfirmStore Action := ⟨step⟩

/-- Every ticket counts its recordings, whose numbers are distinct and at most its next one,
as is its boundary. -/
structure ArrivalsHold (s : TicketStore) : Prop where
  counted : ∀ t ∈ s.tickets.rows, t.matchedCount = countMatches s t.id
  numbered : ∀ t ∈ s.tickets.rows, ∀ m ∈ s.evidence.ticketMatches.rows, m.ticketID = t.id →
    m.arrivalNumber ≤ t.nextArrivalNumber
  distinct : ∀ m ∈ s.evidence.ticketMatches.rows, ∀ m' ∈ s.evidence.ticketMatches.rows,
    m.ticketID = m'.ticketID → m.arrivalNumber = m'.arrivalNumber → m = m'
  bounded : ∀ t ∈ s.tickets.rows, t.arrivalBoundary ≤ t.nextArrivalNumber

/-- No ticket is numbered or covered backwards. -/
def Grows (s s' : TicketStore) : Prop :=
  ∀ t ∈ s.tickets.rows, ∃ t' ∈ s'.tickets.rows, t'.id = t.id ∧
    t.nextArrivalNumber ≤ t'.nextArrivalNumber ∧ t.arrivalBoundary ≤ t'.arrivalBoundary

/-- What a transaction keeps of the accounts. -/
structure Accounted (s s' : TicketStore) : Prop where
  holds : ArrivalsHold s'
  grows : Grows s s'

theorem Grows.refl (s : TicketStore) : Grows s s := fun t member => ⟨t, member, rfl, le_rfl, le_rfl⟩

variable {s s' s'' : TicketStore}

theorem Grows.trans (first : Grows s s') (second : Grows s' s'') :
    Grows s s'' := by
  intro t member
  obtain ⟨t', member', own, next, boundary⟩ := first t member
  obtain ⟨t'', member'', own', next', boundary'⟩ := second t' member'
  exact ⟨t'', member'', own'.trans own, next.trans next', boundary.trans boundary'⟩

theorem ArrivalsHold.refl (holds : ArrivalsHold s) : Accounted s s := ⟨holds, .refl s⟩

theorem Accounted.trans (first : Accounted s s') (second : Accounted s' s'') :
    Accounted s s'' := ⟨second.holds, first.grows.trans second.grows⟩

/-- The tickets keep their boundaries, and a new one starts at zero. -/
structure RowsAhead (s s' : TicketStore) : Prop where
  forth : ∀ t ∈ s.tickets.rows, ∃ t' ∈ s'.tickets.rows, t'.id = t.id ∧
    t.nextArrivalNumber ≤ t'.nextArrivalNumber ∧ t'.arrivalBoundary = t.arrivalBoundary
  back : ∀ t' ∈ s'.tickets.rows, (∃ t ∈ s.tickets.rows, t'.id = t.id ∧
    t.nextArrivalNumber ≤ t'.nextArrivalNumber ∧ t'.arrivalBoundary = t.arrivalBoundary) ∨
    ((∀ t ∈ s.tickets.rows, t.id ≠ t'.id) ∧ t'.arrivalBoundary = 0)

variable {s s' : TicketStore}

theorem RowsAhead.of_aside (aside : RowsAside s s') : RowsAhead s s' where
  forth t member := by
    obtain ⟨t', member', row⟩ := aside.forth t member
    exact ⟨t', member', row.place.1, row.arrivals, row.boundary⟩
  back t' member' := by
    rcases aside.back t' member' with ⟨t, member, row⟩ | ⟨fresh, -, zero⟩
    · exact Or.inl ⟨t, member, row.place.1, row.arrivals, row.boundary⟩
    · exact Or.inr ⟨fresh, zero⟩

theorem RowsAhead.of_update (id : UUID) (f : FrictionTicket → FrictionTicket)
    (frame : ∀ t, (f t).id = t.id) (tickets : s'.tickets = s.tickets.updateKey id f frame)
    (next : ∀ t, (f t).nextArrivalNumber = t.nextArrivalNumber)
    (boundary : ∀ t, (f t).arrivalBoundary = t.arrivalBoundary) : RowsAhead s s' where
  forth t member := by
    rw [tickets]
    refine ⟨_, (Table.mem_updateWhere s.tickets _ f frame _).mpr ⟨t, member, rfl⟩, ?_⟩
    split
    · exact ⟨frame t, (next t).ge, boundary t⟩
    · exact ⟨rfl, le_rfl, rfl⟩
  back t' member' := by
    rw [tickets] at member'
    obtain ⟨t, member, rfl⟩ := (Table.mem_updateWhere s.tickets _ f frame t').mp member'
    refine Or.inl ⟨t, member, ?_⟩
    split
    · exact ⟨frame t, (next t).ge, boundary t⟩
    · exact ⟨rfl, le_rfl, rfl⟩

/-- Every recording there is was there with its number. -/
def NumbersKept (s s' : TicketStore) : Prop :=
  ∀ m' ∈ s'.evidence.ticketMatches.rows, ∃ m ∈ s.evidence.ticketMatches.rows,
    m.key = m'.key ∧ m.arrivalNumber = m'.arrivalNumber

theorem NumbersKept.of_eq (same : s'.evidence.ticketMatches = s.evidence.ticketMatches) :
    NumbersKept s s' :=
  fun m member => ⟨m, same ▸ member, rfl, rfl⟩

theorem ArrivalsHold.rest (holds : ArrivalsHold s) (rows : RowsAhead s s')
    (numbers : NumbersKept s s') (counted : CountedBut s' []) : Accounted s s' := by
  refine ⟨⟨fun t member => counted t member (by simp), ?_, ?_, ?_⟩, ?_⟩
  · intro t' member' m' present' own'
    obtain ⟨m, present, key, number⟩ := numbers m' present'
    have ticketID : m.ticketID = m'.ticketID := congrArg Prod.fst key
    rcases rows.back t' member' with ⟨t, member, own, next, -⟩ | ⟨fresh, -⟩
    · rw [← number]
      exact (holds.numbered t member m present (ticketID.trans (own'.trans own))).trans next
    · obtain ⟨u, known, owner, -⟩ := s.scope.matched m present
      exact absurd (owner.trans (ticketID.trans own')) (fresh u known)
  · intro m₁' present₁' m₂' present₂' ticket number
    obtain ⟨m₁, present₁, key₁, number₁⟩ := numbers m₁' present₁'
    obtain ⟨m₂, present₂, key₂, number₂⟩ := numbers m₂' present₂'
    have same : m₁ = m₂ := by
      refine holds.distinct m₁ present₁ m₂ present₂ ?_ ?_
      · exact (congrArg Prod.fst key₁).trans (ticket.trans (congrArg Prod.fst key₂).symm)
      · exact number₁.trans (number.trans number₂.symm)
    exact s'.evidence.ticketMatches.inj present₁' present₂'
      (key₁.symm.trans ((congrArg TicketMatch.key same).trans key₂))
  · intro t' member'
    rcases rows.back t' member' with ⟨t, member, -, next, boundary⟩ | ⟨-, zero⟩
    · exact boundary.le.trans ((holds.bounded t member).trans next)
    · exact zero.le.trans (Nat.zero_le _)
  · intro t member
    obtain ⟨t', member', own, next, boundary⟩ := rows.forth t member
    exact ⟨t', member', own, next, boundary.ge⟩

theorem ArrivalsHold.counts (holds : ArrivalsHold s) : CountedBut s [] :=
  fun t member _ => holds.counted t member

theorem ArrivalsHold.quiet (holds : ArrivalsHold s) (rows : RowsAhead s s')
    (matched : s'.evidence.ticketMatches = s.evidence.ticketMatches)
    (counts : ∀ t' ∈ s'.tickets.rows, ∃ t ∈ s.tickets.rows, t'.id = t.id ∧
      t'.matchedCount = t.matchedCount) : Accounted s s' :=
  holds.rest rows (.of_eq matched) (holds.counts.of_rows counts (by rw [matched]))

theorem accounted_recordMatch {input : MatchInput} {new : Bool} (holds : ArrivalsHold s)
    (done : recordMatch s input = .ok (s', new)) : Accounted s s' := by
  have rows := RowsAhead.of_aside (Confirmations.ticketsAside_recordMatch done).rowsAside
  have counted := holds.counts.recordMatch done
  obtain ⟨t, locked, -, tickets, matched, isNew, -⟩ := recordMatch_effect done
  have known := (find?_of_lockTicket locked).1
  cases found : s.evidence.ticketMatches.find? (t.id, input.sessionID) with
  | some old =>
    have taken : s.evidence.ticketMatches.find? (input.row s.evidence t).key = some old := found
    rw [Table.insertIgnore_taken _ taken] at matched
    exact holds.rest rows (.of_eq matched) counted
  | none =>
    rw [found, Option.isNone_none] at isNew
    subst isNew
    have own : ∀ t' ∈ s'.tickets.rows, t'.id = t.id → t'.nextArrivalNumber = t.nextArrivalNumber + 1 := by
      intro t' member' same
      rw [tickets] at member'
      obtain ⟨u, member, rfl⟩ := (Table.mem_updateWhere s.tickets _ (FrictionTicket.count 1)
        (fun _ => rfl) t').mp member'
      have at_ : u.id = t.id := by
        split at same <;> exact same
      rw [if_pos (decide_eq_true at_), ticket_of_id known member at_]
      rfl
    have later : ∀ m ∈ s.evidence.ticketMatches.rows, m.ticketID = t.id →
        m.arrivalNumber < t.nextArrivalNumber + 1 := fun m present at_ =>
      Nat.lt_succ_of_le (holds.numbered t (Table.mem_of_find? known) m present at_)
    have old : ∀ m ∈ s'.evidence.ticketMatches.rows,
        m ∈ s.evidence.ticketMatches.rows ∨ m = input.row s.evidence t := by
      intro m present
      exact Table.mem_insertIgnore (matched ▸ present)
    refine ⟨⟨fun t member => counted t member (by simp), ?_, ?_, ?_⟩, ?_⟩
    · intro t' member' m present at_
      rcases old m present with before | rfl
      · rcases rows.back t' member' with ⟨u, member, same, next, -⟩ | ⟨fresh, -⟩
        · exact (holds.numbered u member m before (at_.trans same)).trans next
        · obtain ⟨u, row, owner, -⟩ := s.scope.matched m before
          exact absurd (owner.trans at_) (fresh u row)
      · exact (own t' member' at_.symm).ge
    · intro m present m' present' at_ number
      rcases old m present with before | rfl <;> rcases old m' present' with before' | rfl
      · exact holds.distinct m before m' before' at_ number
      · exact absurd number (later m before at_).ne
      · exact absurd number.symm (later m' before' at_.symm).ne
      · rfl
    · intro t' member'
      rcases rows.back t' member' with ⟨u, member, -, next, boundary⟩ | ⟨-, zero⟩
      · exact boundary.le.trans ((holds.bounded u member).trans next)
      · exact zero.le.trans (Nat.zero_le _)
    · intro u member
      obtain ⟨u', member', same, next, boundary⟩ := rows.forth u member
      exact ⟨u', member', same, next, boundary.ge⟩

theorem accounted_foldMatches {target : FrictionTicket} {source : Evidence}
    {matched : List TicketMatch} (holds : ArrivalsHold s)
    (done : foldMatches target source s matched = .ok s') : Accounted s s' := by
  induction matched generalizing s with
  | nil =>
    cases done
    exact holds.refl
  | cons m rest ih =>
    obtain ⟨⟨s₁, new⟩, first, done⟩ := Except.of_bind done
    have one := accounted_recordMatch holds first
    exact one.trans (ih one.holds done)

theorem ArrivalsHold.update (holds : ArrivalsHold s) (id : UUID)
    (f : FrictionTicket → FrictionTicket) (frame : ∀ t, (f t).id = t.id)
    (tickets : s'.tickets = s.tickets.updateKey id f frame)
    (matched : s'.evidence.ticketMatches = s.evidence.ticketMatches)
    (next : ∀ t, (f t).nextArrivalNumber = t.nextArrivalNumber)
    (boundary : ∀ t, (f t).arrivalBoundary = t.arrivalBoundary)
    (count : ∀ t, (f t).matchedCount = t.matchedCount) : Accounted s s' := by
  refine holds.quiet (.of_update id f frame tickets next boundary) matched fun t' member' => ?_
  rw [tickets] at member'
  obtain ⟨t, member, rfl⟩ := (Table.mem_updateWhere s.tickets _ f frame t').mp member'
  refine ⟨t, member, ?_⟩
  split
  · exact ⟨frame t, count t⟩
  · exact ⟨rfl, rfl⟩

theorem ArrivalsHold.same (holds : ArrivalsHold s) (tickets : s'.tickets = s.tickets)
    (matched : s'.evidence.ticketMatches = s.evidence.ticketMatches) : Accounted s s' := by
  refine holds.quiet ?_ matched fun t member => ⟨t, tickets ▸ member, rfl, rfl⟩
  exact .of_aside (.of_eq tickets)

variable {now : Timestamp}

theorem accounted_foldInto {source target : FrictionTicket} {jobID : UUID} (holds : ArrivalsHold s)
    (done : foldInto s source target jobID now = .ok s') :
    Accounted s s' := by
  obtain ⟨-, done⟩ := Except.of_guard done
  obtain ⟨f, -, done⟩ := Except.of_bind done
  obtain ⟨t, -, done⟩ := Except.of_bind done
  obtain ⟨-, done⟩ := Except.of_guard done
  obtain ⟨-, done⟩ := Except.of_guard done
  obtain ⟨s₁, folded, done⟩ := Except.of_bind done
  obtain ⟨updated, -, done⟩ := Except.of_bind done
  have first := accounted_foldMatches holds folded
  let s₂ := s₁.updateTicket t.id FrictionTicket.absorb fun _ => ⟨rfl, rfl, rfl⟩
  have absorbed : Accounted s₁ s₂ := first.holds.update t.id FrictionTicket.absorb (fun _ => rfl) rfl rfl
    (fun _ => rfl) (fun _ => rfl) fun _ => rfl
  have result : s'.tickets = s₂.tickets.updateKey f.id (FrictionTicket.mergeInto t.id) (fun _ => rfl) ∧
      s'.evidence.ticketMatches = s₂.evidence.ticketMatches := by
    rw [Except.ok.injEq] at done
    rw [← done]
    split <;> exact ⟨rfl, rfl⟩
  have merged : Accounted s₂ s' := absorbed.holds.update f.id (FrictionTicket.mergeInto t.id)
    (fun _ => rfl) result.1 result.2 (fun _ => rfl) (fun _ => rfl) fun _ => rfl
  exact first.trans (absorbed.trans merged)

variable {projectID environmentID : UUID} {decision : MatchDecision}

theorem counted_observationTicket {signalID : String} {leaseMs : Int}
    {ticket : Option (FrictionTicket × DecidedBy)} (counted : CountedBut s [])
    (done : observationTicket s projectID environmentID signalID decision leaseMs now =
      .ok (s', ticket)) : CountedBut s' [] := by
  have same : ∀ {s₁ s₂ : TicketStore}, CountedBut s₁ [] → s₂.tickets = s₁.tickets →
      s₂.evidence = s₁.evidence → CountedBut s₂ [] := fun counted tickets evidence =>
    counted.of_rows (fun t member => ⟨t, tickets ▸ member, rfl, rfl⟩) (by rw [evidence])
  have reserved : CountedBut (reserveDecision s signalID environmentID leaseMs now).1 [] := by
    unfold reserveDecision
    split
    · exact counted
    · split
      · exact same counted rfl rfl
      · split
        · exact same counted rfl rfl
        · exact counted
  unfold observationTicket at done
  split at done
  · rename_i s₁ eq
    rw [eq] at reserved
    obtain ⟨⟨s₂, chosen, outcome⟩, decided, done⟩ := Except.of_bind done
    have second : CountedBut s₂ [] := by
      cases decision with
      | create ticketID kind =>
        obtain ⟨s₃, created, made⟩ := Except.of_bind decided
        cases made
        unfold createTicket at created
        split at created
        · cases created
        · rename_i tickets inserted
          cases created
          exact reserved.createTicket rfl inserted
      | known ticketID decidedBy =>
        obtain ⟨t, -, made⟩ := Except.of_bind decided
        cases made
        exact reserved
      | notAProblem =>
        cases decided
        exact reserved
    dsimp only [commitDecision] at done
    split at done
    · cases done
      exact same second rfl rfl
    · cases done
  · rename_i s₁ eq
    rw [eq] at reserved
    obtain ⟨_, -, made⟩ := Except.map_eq_ok_iff.mp done
    cases made
    exact reserved

theorem accounted_matchObservation {sessionID signalID : String} {startedAt : Timestamp}
    {backfill : Bool} {leaseMs : Int} (holds : ArrivalsHold s)
    (done : matchObservation s projectID environmentID sessionID signalID startedAt backfill decision
      leaseMs now = .ok s') : Accounted s s' := by
  obtain ⟨⟨s₁, ticket⟩, observed, done⟩ := Except.of_bind done
  obtain ⟨rows, evidence⟩ := Confirmations.ticketsAside_observationTicket observed
  have first : Accounted s s₁ := holds.rest (.of_aside rows.rowsAside) (.of_eq (by rw [evidence]))
    (counted_observationTicket holds.counts observed)
  dsimp only at done
  split at done
  · cases done
    exact first
  · obtain ⟨⟨s₂, new⟩, matched, same⟩ := Except.of_bind done
    cases same
    exact first.trans (accounted_recordMatch first.holds matched)

theorem accounted_reconcile (holds : ArrivalsHold s) (ticketID : UUID) (now : Timestamp) :
    Accounted s (frictionReconcileAfterDelete s ticketID now) := by
  refine holds.rest (.of_aside (Confirmations.frictionReconcileAfterDelete_rows ticketID now).1.rowsAside)
    (.of_eq ?_) ((holds.counts.weaken ticketID).frictionReconcileAfterDelete now)
  rw [Confirmations.frictionReconcileAfterDelete_evidence]

theorem accounted_deleteMarkedSession (holds : ArrivalsHold s) (sessionID : String)
    (now : Timestamp) : Accounted s (deleteMarkedSession s sessionID now) := by
  have rows := (Confirmations.beside_deleteMarkedSession s sessionID now).1
  have numbers : NumbersKept s (deleteMarkedSession s sessionID now) ∧
      CountedBut (deleteMarkedSession s sessionID now) [] := by
    unfold deleteMarkedSession
    split
    · exact ⟨.of_eq rfl, holds.counts⟩
    · refine ⟨fun m member => ⟨m, ?_, rfl, rfl⟩, (holds.counts.purge sessionID).reconcileAll _ now⟩
      rw [Confirmations.reconcileAll_evidence] at member
      exact (List.mem_filter.mp member).1
  exact holds.rest (.of_aside rows.rowsAside) numbers.1 numbers.2

theorem accounted_frictionSetSessionIdentity (holds : ArrivalsHold s) (sessionID : String)
    (user : Option UUID) (now : Timestamp) :
    Accounted s (frictionSetSessionIdentity s sessionID user now) := by
  have rows := (Confirmations.beside_frictionSetSessionIdentity s sessionID user now).1
  have numbers : NumbersKept s (frictionSetSessionIdentity s sessionID user now) ∧
      CountedBut (frictionSetSessionIdentity s sessionID user now) [] := by
    unfold frictionSetSessionIdentity
    split
    · exact ⟨.of_eq rfl, holds.counts⟩
    · split
      · exact ⟨.of_eq rfl, holds.counts⟩
      · constructor
        · intro m' member
          rw [Confirmations.reconcileAll_evidence] at member
          obtain ⟨m, old, rfl⟩ := (Table.mem_updateWhere s.evidence.ticketMatches _
            (TicketMatch.identify user) (fun _ => rfl) m').mp member
          refine ⟨m, old, ?_⟩
          split <;> exact ⟨rfl, rfl⟩
        · have identified : CountedBut { s with
              evidence := s.evidence.identify sessionID user
              scope := s.scope.identify sessionID user } [] :=
            holds.counts.of_rows (fun t member => ⟨t, member, rfl, rfl⟩)
              (identify_keys s.evidence sessionID user)
          exact .reconcileAll _ (fun t member _ => identified t member (by simp)) now
  exact holds.rest (.of_aside rows.rowsAside) numbers.1 numbers.2

theorem accounted_recountTicket (holds : ArrivalsHold s) (ticketID : UUID) :
    Accounted s (recountTicket s ticketID) :=
  holds.rest (.of_aside (Confirmations.rowsAside_recountTicket s ticketID)) (.of_eq rfl)
    ((holds.counts.weaken ticketID).recount _ fun _ => rfl)

variable {ticket : FrictionTicket}

theorem accounted_unpublish (holds : ArrivalsHold s) (done : unpublish s ticket now = .ok s') :
    Accounted s s' := by
  obtain ⟨t, -, done⟩ := Except.of_bind done
  split at done
  · cases done
    exact holds.refl
  · split at done
    · cases done
      exact holds.refl
    · cases done
      exact holds.update t.id FrictionTicket.unpublish (fun _ => rfl) rfl rfl (fun _ => rfl)
        (fun _ => rfl) fun _ => rfl

theorem accounted_activateGeneration {insightInvestigateUsers : Nat} {groupID jobID : UUID}
    (holds : ArrivalsHold s)
    (done : activateGeneration s ticket insightInvestigateUsers groupID jobID now = .ok s') :
    Accounted s s' := by
  have quiet := quiet_activateGeneration done
  obtain ⟨t, -, done⟩ := Except.of_bind done
  obtain ⟨-, done⟩ := Except.of_guard done
  obtain ⟨-, done⟩ := Except.of_guard done
  obtain ⟨incidents, -, done⟩ := Except.of_bind done
  have enqueued : ∀ (s : TicketStore) t generation groupID finishing jobID now,
      (enqueueTicketInvestigation s t generation groupID finishing jobID now).1.tickets = s.tickets ∧
        (enqueueTicketInvestigation s t generation groupID finishing jobID now).1.evidence =
          s.evidence := by
    intros
    unfold enqueueTicketInvestigation
    dsimp only
    split <;> exact ⟨rfl, rfl⟩
  have result : s'.tickets = s.tickets.updateKey t.id (FrictionTicket.publish (t.liveGeneration + 1))
      (fun _ => rfl) ∧ s'.evidence = s.evidence := by
    rw [Except.ok.injEq] at done
    rw [← done]
    split
    · exact enqueued ..
    · exact ⟨rfl, rfl⟩
  exact holds.update t.id (FrictionTicket.publish (t.liveGeneration + 1)) (fun _ => rfl) result.1
    (by rw [result.2]) (fun _ => rfl) (fun _ => rfl) fun _ => rfl

theorem accounted_archiveTicketGroup {projectID groupID : UUID} (holds : ArrivalsHold s)
    (done : archiveTicketGroup s projectID groupID now = .ok s') :
    Accounted s s' := by
  unfold archiveTicketGroup at done
  split at done
  · cases done
    exact holds.refl
  · rename_i g t found
    split at done
    · cases done
      exact holds.refl
    · split at done
      · cases done
      · cases done
        exact holds.update t.id FrictionTicket.archive (fun _ => rfl) rfl rfl (fun _ => rfl)
          (fun _ => rfl) fun _ => rfl

theorem ArrivalsHold.published (holds : ArrivalsHold s)
    (aside : TicketsAside s s' ∧ s'.evidence = s.evidence) (quiet : Quiet s s') : Accounted s s' :=
  holds.quiet (.of_aside aside.1.rowsAside) (by rw [aside.2]) quiet.counts

theorem accounted_attemptFailed (holds : ArrivalsHold s) (jobID projectID : UUID) :
    Accounted s (attemptFailed s jobID projectID).1 := by
  refine holds.quiet (.of_aside (Confirmations.rowsAside_attemptFailed s jobID projectID)) ?_
    (quiet_attemptFailed s jobID projectID).counts
  rcases Confirmations.attemptFailed_evidence s jobID projectID with same | ⟨batchID, discards⟩
  · rw [same]
  · obtain ⟨batches, evidence, -⟩ := Confirmations.discardBatch_evidence s batchID
    rw [discards, evidence]

theorem accounted_committed {ε : Type} (holds : ArrivalsHold s) {r : Except ε TicketStore}
    (kept : ∀ s', r = .ok s' → Accounted s s') :
    Accounted s (committed s r) := by
  cases r with
  | ok s' => exact kept s' rfl
  | error _ => exact holds.refl

theorem accounted_committed_fst {ε α : Type} (holds : ArrivalsHold s)
    {r : Except ε (TicketStore × α)} (kept : ∀ s' x, r = .ok (s', x) → Accounted s s') :
    Accounted s (committed s (r.map Prod.fst)) := by
  refine accounted_committed holds fun s' done => ?_
  obtain ⟨⟨s₁, x⟩, result, rfl⟩ := Except.map_eq_ok_iff.mp done
  exact kept s₁ x result

theorem accounted_ticket (holds : ArrivalsHold s) {a : Tickets.Action} (real : ¬StandIn a) :
    Accounted s (Tickets.step s a) := by
  cases a with
  | confirm => exact absurd trivial real
  | setAutonomy | endUser | session | signal | investigate | snapshotJob => exact holds.same rfl rfl
  | deleteMarkedSession sessionID now => exact accounted_deleteMarkedSession holds sessionID now
  | frictionSetSessionIdentity sessionID user now =>
    exact accounted_frictionSetSessionIdentity holds sessionID user now
  | recountTicket ticketID => exact accounted_recountTicket holds ticketID
  | matchObservation =>
    exact accounted_committed holds fun s' done => accounted_matchObservation holds done
  | recordMatch => exact accounted_committed_fst holds fun s' _ done => accounted_recordMatch holds done
  | foldInto => exact accounted_committed holds fun s' done => accounted_foldInto holds done
  | activateGeneration =>
    exact accounted_committed holds fun s' done => accounted_activateGeneration holds done
  | unpublish => exact accounted_committed holds fun s' done => accounted_unpublish holds done
  | archiveTicketGroup =>
    exact accounted_committed holds fun s' done => accounted_archiveTicketGroup holds done
  | frictionReconcileAfterDelete ticketID now => exact accounted_reconcile holds ticketID now
  | reinvestigate =>
    exact accounted_committed holds fun s' done =>
      holds.published (Confirmations.ticketsAside_reinvestigate done) (quiet_reinvestigate done)
  | requestTicketFix =>
    refine accounted_committed holds fun s' done => ?_
    obtain ⟨g, t, attempts, jobs, -, -, -, -, -, -, -, rfl⟩ := requestTicketFix_effect done
    exact holds.same rfl rfl
  | requestFix =>
    exact accounted_committed_fst holds fun s' _ done =>
      holds.published (Confirmations.ticketsAside_requestFix done) (quiet_requestFix done)
  | applyPrEvent =>
    exact accounted_committed_fst holds fun s' _ done =>
      holds.published (Confirmations.ticketsAside_applyPrEvent done) (quiet_applyPrEvent done)
  | assertFixAttemptCurrent =>
    refine accounted_committed holds fun s' done => ?_
    obtain ⟨a, -, -, -, -, ⟨rfl, -⟩ | ⟨-, rfl⟩⟩ := assertFixAttemptCurrent_effect done
    · exact holds.refl
    · exact holds.same rfl rfl
  | recordAttemptPr =>
    exact accounted_committed_fst holds fun s' _ done =>
      holds.published (Confirmations.ticketsAside_recordAttemptPr done) (quiet_recordAttemptPr done)
  | attemptFailed jobID projectID => exact accounted_attemptFailed holds jobID projectID
  | processTicketPRWebhook =>
    exact accounted_committed_fst holds fun s' _ done =>
      holds.published (Confirmations.ticketsAside_processTicketPRWebhook done)
        (quiet_processTicketPRWebhook done)
  | processPrEventJob =>
    exact accounted_committed holds fun s' done =>
      holds.published (Confirmations.ticketsAside_processPrEventJob done) (quiet_processPrEventJob done)
  | enqueue j =>
    dsimp only [Tickets.step]
    split <;> exact holds.same rfl rfl
  | queue a =>
    dsimp only [Tickets.step]
    split <;> exact holds.same rfl rfl

theorem accounted_selectLocked {s s' : ConfirmStore} {jobID batchID : UUID}
    (holds : ArrivalsHold s.store)
    (done : selectLocked s ticket jobID batchID now = .ok (some s')) :
    Accounted s.store s'.store := by
  obtain ⟨t, locked, done⟩ := Except.of_bind done
  split at done
  · cases done
  · have selects := Confirmations.selectBatch_selects done
    have matched : s'.store.evidence.ticketMatches = s.store.evidence.ticketMatches := by
      rw [selects.evidence]
    have rows : ∀ t' ∈ s'.store.tickets.rows, ∃ u ∈ s.store.tickets.rows, t'.id = u.id ∧
        t'.matchedCount = u.matchedCount ∧ t'.nextArrivalNumber = u.nextArrivalNumber ∧
        t'.arrivalBoundary ≤ t'.nextArrivalNumber := by
      intro t' member'
      rw [selects.tickets] at member'
      obtain ⟨u, member, rfl⟩ := (Table.mem_updateWhere s.store.tickets _ FrictionTicket.cover
        (fun _ => rfl) t').mp member'
      refine ⟨u, member, ?_⟩
      split
      · exact ⟨rfl, rfl, rfl, le_rfl⟩
      · exact ⟨rfl, rfl, rfl, holds.bounded u member⟩
    refine ⟨⟨fun t' member' => ?_, fun t' member' m present own => ?_, ?_, ?_⟩, fun u member => ?_⟩
    · obtain ⟨u, member, own, count, -⟩ := rows t' member'
      rw [count, holds.counted u member, own, countMatches, countMatches, matched]
    · obtain ⟨u, member, same, -, next, -⟩ := rows t' member'
      rw [next]
      exact holds.numbered u member m (matched ▸ present) (own.trans same)
    · rw [matched]
      exact holds.distinct
    · intro t' member'
      obtain ⟨u, -, -, -, -, bounded⟩ := rows t' member'
      exact bounded
    · rw [selects.tickets]
      refine ⟨_, (Table.mem_updateWhere s.store.tickets _ FrictionTicket.cover (fun _ => rfl) _).mpr
        ⟨u, member, rfl⟩, ?_⟩
      split
      · exact ⟨rfl, le_rfl, holds.bounded u member⟩
      · exact ⟨rfl, le_rfl, le_rfl⟩

theorem accounted_step {s : ConfirmStore} (holds : ArrivalsHold s.store) (a : Action) :
    Accounted s.store (step s a).store := by
  cases a with
  | ticket a =>
    rw [step]
    split
    · exact holds.refl
    · rename_i real
      exact accounted_ticket holds real
  | selectBatch ticket jobID batchID now =>
    rw [step]
    split
    · rename_i s' done
      exact accounted_selectLocked holds done
    · exact holds.refl
  | check checks attempts batches retries => exact holds.same rfl rfl

theorem arrivalsHold_empty : ArrivalsHold ConfirmStore.empty.store where
  counted t member := by cases member
  numbered t member := by cases member
  distinct m member := by cases member
  bounded t member := by cases member

theorem accounted_run {s : ConfirmStore} (holds : ArrivalsHold s.store) (actions : List Action) :
    Accounted s.store (machine.run s actions).store := by
  induction actions generalizing s with
  | nil => exact holds.refl
  | cons a rest ih =>
    have first := accounted_step holds a
    exact first.trans (ih first.holds)

/-- A recording that is matched again changes no count and no number. -/
def RematchKeeps (s : TicketStore) : Prop :=
  ∀ input s' new, recordMatch s input = .ok (s', new) →
    (s.evidence.ticketMatches.find? (input.ticket.id, input.sessionID)).isSome →
    new = false ∧ s'.tickets = s.tickets ∧ s'.evidence.ticketMatches = s.evidence.ticketMatches

theorem rematchKeeps (s : TicketStore) : RematchKeeps s := by
  intro input s' new done matched_
  obtain ⟨t, locked, -, tickets, matched, isNew, -⟩ := recordMatch_effect done
  obtain ⟨old, found⟩ := Option.isSome_iff_exists.mp matched_
  rw [← id_of_lockTicket locked] at found
  rw [found] at isNew
  subst isNew
  have taken : s.evidence.ticketMatches.find? (input.row s.evidence t).key = some old := found
  rw [Table.insertIgnore_taken _ taken] at matched
  refine ⟨rfl, ?_, matched⟩
  have same : (s.tickets.rows.map fun u => if u.id = t.id then FrictionTicket.count 0 u else u) =
      s.tickets.rows := by
    refine (List.map_congr_left fun u _ => ?_).trans (List.map_id' s.tickets.rows)
    split <;> rfl
  rw [tickets]
  cases rows : s.tickets
  rw [rows] at same
  simp only [Table.updateKey, Table.updateWhere, Table.mk.injEq, decide_eq_true_eq]
  exact same

/-- In every run the accounts hold, no ticket is numbered or covered backwards, and matching a
recording again changes none of them. -/
theorem arrivals_run (before after : List Action) :
    let s := (machine.run .empty before).store
    let s' := (machine.run .empty (before ++ after)).store
    ArrivalsHold s' ∧ Grows s s' ∧ RematchKeeps s' := by
  have start := accounted_run arrivalsHold_empty before
  have rest := accounted_run start.holds after
  rw [Machine.run_append]
  exact ⟨rest.holds, rest.grows, rematchKeeps _⟩

section Example

/-- A run of transactions, whose confirmations write checks. -/
def checked (actions : List Tickets.Action) : List Action :=
  actions.map fun
    | .confirm _ _ checks attempts batches => .check checks attempts batches Table.empty
    | a => .ticket a

/-- After a fold, another recording of its target is matched, a batch of the target selected,
and one of the recordings purged. -/
def purgedRun : List Action :=
  [.ticket (.session ⟨"d", 2, none, 0⟩), .ticket (.signal ⟨"d11", "d", 2⟩),
    .ticket (.recordMatch ⟨FrictionTicket.new 11 1 2 .defect, "d", .strong, 0, ["d11"]⟩),
    .selectBatch (FrictionTicket.new 11 1 2 .defect) 300 40 0, .ticket (.deleteMarkedSession "b" 0)]

def rematch : MatchInput := ⟨FrictionTicket.new 11 1 2 .defect, "a", .strong, 0, []⟩

theorem arrivals_run_purged :
    let s := (machine.run .empty (checked foldedRun)).store
    let s' := (machine.run .empty (checked foldedRun ++ purgedRun)).store
    (ArrivalsHold s' ∧ Grows s s') ∧
      (∃ t ∈ s'.tickets.rows, t.id = 11 ∧ t.matchedCount = 3 ∧ t.nextArrivalNumber = 4 ∧
        t.arrivalBoundary = 4) ∧
      ∃ s'' new, recordMatch s' rematch = .ok (s'', new) ∧ s''.tickets = s'.tickets := by
  obtain ⟨holds, grows, keeps⟩ := arrivals_run (checked foldedRun) purgedRun
  refine ⟨⟨holds, grows⟩, by decide +kernel, ?_⟩
  have done : (recordMatch (machine.run .empty (checked foldedRun ++ purgedRun)).store
      rematch).toOption.isSome := by
    decide +kernel
  have matched : ((machine.run .empty
      (checked foldedRun ++ purgedRun)).store.evidence.ticketMatches.find? (11, "a")).isSome := by
    decide +kernel
  cases result : recordMatch (machine.run .empty (checked foldedRun ++ purgedRun)).store rematch with
  | error e =>
    rw [result] at done
    cases done
  | ok pair => exact ⟨pair.1, pair.2, rfl, (keeps rematch pair.1 pair.2 result matched).2.1⟩

end Example

end Opslane.Tickets.Arrivals
