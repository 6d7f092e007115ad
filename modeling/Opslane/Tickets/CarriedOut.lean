import Opslane.Tickets.EvidenceAside

/-!
# What an applied transition leaves

The writes of `applyConfirmationTransition`, one lemma a branch: the row of its ticket is one
of a few, every other ticket goes on as it does beside the two jobs, no check or batch is
touched, and of the two lanes only the jobs of a folded ticket may end.
-/

namespace Opslane.Tickets.Confirmations

open Jobs (Job)

/-- The row a transition may leave of its ticket. -/
def ownRows (u : FrictionTicket) : AppliedTransition → List FrictionTicket
  | .deferred spent => [u.defer spent]
  | .folded targetID => [(u.mergeInto targetID).reconciled]
  | .activated => [(u.publish (u.liveGeneration + 1)).reconciled]
  | .unpublished => [u.reconciled, u.unpublish.reconciled]
  | .refreshed => [u.reconciled, (u.setReinvestigate false).reconciled]
  | .unchanged => [u.reconciled]

/-- The transition folds the ticket away. -/
def Folds : AppliedTransition → Prop
  | .folded _ => True
  | _ => False

/-- The rows of the tickets after a transition of one of them. -/
structure RowsCarried (ticketID : UUID) (a : AppliedTransition) (s s' : TicketStore) : Prop where
  own : ∀ u, s.tickets.find? ticketID = some u →
    ∃ u' ∈ ownRows u a, s'.tickets.find? ticketID = some u'
  others : ∀ u ∈ s.tickets.rows, u.id ≠ ticketID → ∃ u' ∈ s'.tickets.rows, RowAside u u'
  back : ∀ u' ∈ s'.tickets.rows, u'.id ≠ ticketID → ∃ u ∈ s.tickets.rows, RowAside u u'

structure Carried (ticketID : UUID) (a : AppliedTransition) (s s' : TicketStore) : Prop where
  rows : RowsCarried ticketID a s s'
  evidence : EvidenceAside (fun _ => false) s s'
  jobs : JobsAside (fun j => Folds a ∧ j.ticketID = some ticketID) (OfTicket s') s.jobs s'.jobs

theorem settled_ticket (p : Prop) (ticketID : UUID) :
    Settled fun j => p ∧ j.ticketID = some ticketID :=
  fun _ _ goes ⟨holds, own⟩ => ⟨holds, goes.ticketID.symm.trans own⟩

theorem lasting_false : Lasting fun _ => False := fun _ _ _ none_ => none_

variable {s s' : TicketStore}

variable {a : AppliedTransition}

theorem RowsCarried.of_update {ticketID : UUID} (f : FrictionTicket → FrictionTicket)
    (frame : ∀ t, (f t).id = t.id) (tickets : s'.tickets = s.tickets.updateKey ticketID f frame)
    (leaves : ∀ u, s.tickets.find? ticketID = some u → f u ∈ ownRows u a) :
    RowsCarried ticketID a s s' where
  own u found := by
    refine ⟨f u, leaves u found, ?_⟩
    rw [tickets, Table.find?_updateKey, if_pos rfl, found, Option.map_some]
  others u member other := by
    refine ⟨u, ?_, .refl u⟩
    rw [tickets]
    exact (Table.mem_updateWhere ..).mpr ⟨u, member, by simp [other]⟩
  back u' member other := by
    rw [tickets] at member
    obtain ⟨u, old, rfl⟩ := (Table.mem_updateWhere ..).mp member
    refine ⟨u, old, ?_⟩
    split
    · rename_i own
      rw [if_pos own] at other
      exact absurd ((frame u).trans (of_decide_eq_true own)) other
    · exact .refl u

theorem Carried.of_update {ticketID : UUID} (f : FrictionTicket → FrictionTicket)
    (frame : ∀ t, (f t).id = t.id) (tickets : s'.tickets = s.tickets.updateKey ticketID f frame)
    (leaves : ∀ u, s.tickets.find? ticketID = some u → f u ∈ ownRows u a)
    (evidence : s'.evidence = s.evidence)
    (jobs : JobsAside (fun j => Folds a ∧ j.ticketID = some ticketID) (fun _ => False) s.jobs
      s'.jobs) :
    Carried ticketID a s s' :=
  ⟨.of_update f frame tickets leaves, .of_evidence evidence,
    jobs.mono (fun _ ends => ends) fun _ none_ => none_.elim⟩

variable {s s₁ : TicketStore}

theorem reconciledTicket_tickets (id : UUID) (f : FrictionTicket → FrictionTicket)
    (frame : ∀ t, (f t).id = t.id) (tickets : s₁.tickets = s.tickets.updateKey id f frame) :
    (reconciledTicket s₁ id).tickets = s.tickets.updateKey id (fun u => (f u).reconciled) frame := by
  refine (congrArg (fun table => Table.updateKey table id FrictionTicket.reconciled fun _ => rfl)
    tickets).trans ?_
  exact Table.updateKey_updateKey ..

theorem enqueueTicketInvestigation_frame (s : TicketStore) (t : FrictionTicket) (generation : Nat)
    (groupID : UUID) (finishingJobID : Option UUID) (jobID : UUID) (now : Timestamp) :
    (enqueueTicketInvestigation s t generation groupID finishingJobID jobID now).1.tickets =
        s.tickets ∧
      (enqueueTicketInvestigation s t generation groupID finishingJobID jobID now).1.evidence =
        s.evidence := by
  unfold enqueueTicketInvestigation
  dsimp only
  split <;> exact ⟨rfl, rfl⟩

theorem jobsAside_investigation (ended new : Job → Prop) (s : TicketStore) (t : FrictionTicket)
    (generation : Nat) (groupID : UUID) (finishingJobID : Option UUID) (jobID : UUID)
    (now : Timestamp) :
    JobsAside ended new s.jobs
      (enqueueTicketInvestigation s t generation groupID finishingJobID jobID now).1.jobs := by
  unfold enqueueTicketInvestigation
  dsimp only
  split
  · exact .refl s.jobs
  · exact .enqueueJobTx s.jobs fun lane => absurd lane (investigateJob_not_lane _ _ _ _ _)

variable {now : Timestamp}

variable {t : FrictionTicket}

theorem carried_activated {insightUsers : Nat} {groupID jobID : UUID}
    (known : s.tickets.find? t.id = some t)
    (done : activateGeneration s t insightUsers groupID jobID now = .ok s₁) :
    Carried t.id .activated s (reconciledTicket s₁ t.id) := by
  obtain ⟨u, locked, done⟩ := Except.of_bind done
  obtain ⟨found, -⟩ := find?_of_lockTicket locked
  have own : u.id = t.id := id_of_lockTicket locked
  rw [own, known, Option.some.injEq] at found
  subst found
  obtain ⟨-, done⟩ := Except.of_guard done
  obtain ⟨-, done⟩ := Except.of_guard done
  obtain ⟨incidents, -, done⟩ := Except.of_bind done
  have final : s₁.tickets = s.tickets.updateKey t.id (FrictionTicket.publish (t.liveGeneration + 1))
      (fun _ => rfl) ∧ s₁.evidence = s.evidence ∧
      JobsAside (fun j => Folds .activated ∧ j.ticketID = some t.id) (fun _ => False) s.jobs
        s₁.jobs := by
    rw [Except.ok.injEq] at done
    rw [← done]
    have retired := jobsAside_cancelWork
      (fun j => Folds .activated ∧ j.ticketID = some t.id) (fun _ => False) s.jobs
      (liveIncidents s t.id)
    split
    · obtain ⟨tickets, evidence⟩ := enqueueTicketInvestigation_frame
        (({ retireLiveGeneration s t now with incidents } : TicketStore).updateTicket t.id
          (FrictionTicket.publish (t.liveGeneration + 1)) fun _ => ⟨rfl, rfl, rfl⟩) t
        (t.liveGeneration + 1) groupID none jobID now
      refine ⟨tickets, evidence, .trans (settled_ticket _ _) lasting_false retired ?_⟩
      exact jobsAside_investigation _ _ (({ retireLiveGeneration s t now with incidents } :
        TicketStore).updateTicket t.id (FrictionTicket.publish (t.liveGeneration + 1))
          fun _ => ⟨rfl, rfl, rfl⟩) t (t.liveGeneration + 1) groupID none jobID now
    · exact ⟨rfl, rfl, retired⟩
  obtain ⟨tickets, evidence, jobs⟩ := final
  refine .of_update (fun u => (u.publish (t.liveGeneration + 1)).reconciled) (fun _ => rfl)
    (reconciledTicket_tickets t.id _ _ tickets) ?_ evidence jobs
  · intro u found
    rw [known, Option.some.injEq] at found
    rw [← found]
    exact List.mem_singleton_self _

theorem carried_unpublished (known : s.tickets.find? t.id = some t)
    (done : unpublish s t now = .ok s₁) :
    Carried t.id .unpublished s (reconciledTicket s₁ t.id) := by
  obtain ⟨u, locked, done⟩ := Except.of_bind done
  obtain ⟨found, -⟩ := find?_of_lockTicket locked
  have own : u.id = t.id := id_of_lockTicket locked
  rw [own, known, Option.some.injEq] at found
  subst found
  have unchanged : Carried t.id .unpublished s (reconciledTicket s t.id) :=
    .of_update FrictionTicket.reconciled (fun _ => rfl) rfl (fun u _ => by simp [ownRows]) rfl (.refl _)
  split at done
  · cases done
    exact unchanged
  · split at done
    · cases done
      exact unchanged
    · cases done
      refine .of_update (fun u => u.unpublish.reconciled) (fun _ => rfl)
        (reconciledTicket_tickets t.id FrictionTicket.unpublish (fun _ => rfl) rfl)
        (fun u _ => by simp [ownRows]) rfl ?_
      exact jobsAside_cancelWork _ _ s.jobs (liveIncidents s t.id)

theorem carried_refreshed (s : TicketStore) (t : FrictionTicket) (g : Incident) (insightUsers : Nat)
    (jobID firstJobID : UUID) (now : Timestamp) :
    Carried t.id .refreshed s (refresh s t g insightUsers jobID firstJobID now) := by
  let Kept (s' : TicketStore) := s'.evidence = s.evidence ∧
    (s'.tickets = s.tickets ∨ s'.tickets = s.tickets.updateKey t.id
      (FrictionTicket.setReinvestigate false) fun _ => rfl) ∧
    JobsAside (fun j => Folds .refreshed ∧ j.ticketID = some t.id) (fun _ => False) s.jobs s'.jobs
  have queued : ∀ s', Kept s' → ∀ finishing id, Kept (enqueueTicketInvestigation s' t
      t.liveGeneration g.id finishing id now).1 := by
    rintro s' ⟨evidence, tickets, jobs⟩ finishing id
    obtain ⟨sameTickets, sameEvidence⟩ := enqueueTicketInvestigation_frame s' t t.liveGeneration g.id
      finishing id now
    refine ⟨sameEvidence.trans evidence, sameTickets ▸ tickets, .trans (settled_ticket _ _) lasting_false jobs ?_⟩
    exact jobsAside_investigation ..
  have last : ∀ s', Kept s' → Carried t.id .refreshed s (reconciledTicket s' t.id) := by
    rintro s' ⟨evidence, tickets | tickets, jobs⟩
    · exact .of_update FrictionTicket.reconciled (fun _ => rfl)
        (congrArg (fun table => Table.updateKey table t.id FrictionTicket.reconciled fun _ => rfl) tickets)
        (fun u _ => by simp [ownRows]) evidence jobs
    · exact .of_update (fun u => (u.setReinvestigate false).reconciled) (fun _ => rfl)
        (reconciledTicket_tickets t.id _ _ tickets) (fun u _ => by simp [ownRows]) evidence jobs
  unfold refresh
  dsimp only
  generalize counted : s.updateIncident g.id (Incident.count (verifiedEvidence s.evidence t none now))
    (fun _ => ⟨rfl, rfl, rfl⟩) = s₁
  have first : Kept s₁ := by
    rw [← counted]
    exact ⟨rfl, Or.inl rfl, .refl _⟩
  refine last _ ?_
  split
  on_goal 1 => refine queued _ ?_ none firstJobID
  all_goals
    split
    · have queuedFirst := queued s₁ first none jobID
      split
      · rename_i s₂ eq
        rw [eq] at queuedFirst
        exact queuedFirst
      · rename_i s₂ eq
        have tickets := (enqueueTicketInvestigation_frame s₁ t t.liveGeneration g.id none jobID now).1
        rw [eq] at queuedFirst tickets
        refine ⟨queuedFirst.1, Or.inr ?_, queuedFirst.2.2⟩
        refine (congrArg (fun table => Table.updateKey table t.id (FrictionTicket.setReinvestigate false)
          fun _ => rfl) tickets).trans ?_
        rw [← counted]
        rfl
    · exact first

theorem EvidenceAside.trans {s s₁ s' : TicketStore} (rows : TicketsAside s s₁)
    (rows' : TicketsAside s₁ s') (first : EvidenceAside (fun _ => false) s s₁)
    (second : EvidenceAside (fun _ => false) s₁ s') : EvidenceAside (fun _ => false) s s' where
  checks := by
    rw [second.checks, first.checks]
    simp
  attempts := by
    rw [second.attempts, first.attempts]
    simp
  lost _ gone := by cases gone
  kept k m found _ := by
    obtain ⟨m₁, found₁, arrival₁, same₁⟩ := first.kept k m found rfl
    obtain ⟨m', found', arrival', same'⟩ := second.kept k m₁ found₁ rfl
    refine ⟨m', found', arrival'.trans arrival₁, ?_⟩
    rcases same₁ with rfl | ⟨t, member, t₁, member₁, own, own₁, less⟩
    · rcases same' with rfl | ⟨t₁, member₁, t', member', own₁, own', less⟩
      · exact Or.inl rfl
      · obtain ⟨t, member, own, -⟩ := s.scope.matched m₁ (Table.mem_of_find? found)
        have key : m₁.ticketID = k.1 := congrArg Prod.fst (Table.key_of_find? found)
        obtain ⟨u, memberU, row⟩ := rows.forth t member
        obtain rfl : u = t₁ := s₁.tickets.inj memberU member₁
          ((row.place.1.trans (own.trans key)).trans own₁.symm)
        exact Or.inr ⟨t, member, t', member', own.trans key, own', row.version.trans_lt less⟩
    · obtain ⟨t', member', row⟩ := rows'.forth t₁ member₁
      exact Or.inr ⟨t, member, t', member', own, row.place.1.trans own₁, less.trans_le row.version⟩
  bumps _ _ _ gone := by cases gone
  came k m' found absent := by
    cases found₁ : s₁.evidence.ticketMatches.find? k with
    | none =>
      obtain ⟨positive, later⟩ := second.came k m' found found₁
      refine ⟨positive, fun t member own => ?_⟩
      obtain ⟨t₁, member₁, row⟩ := rows.forth t member
      exact row.arrivals.trans_lt (later t₁ member₁ (row.place.1.trans own))
    | some m₁ =>
      obtain ⟨positive, later⟩ := first.came k m₁ found₁ absent
      obtain ⟨m₂, found₂, arrival, -⟩ := second.kept k m₁ found₁ rfl
      rw [found, Option.some.injEq] at found₂
      subst found₂
      have owner : m'.ticketID = m₁.ticketID :=
        (congrArg Prod.fst (Table.key_of_find? found)).trans
          (congrArg Prod.fst (Table.key_of_find? found₁)).symm
      exact ⟨arrival ▸ positive, fun t member own => arrival ▸ later t member (own.trans owner)⟩
  batches := by
    obtain ⟨q, chosen, rows₁⟩ := first.batches
    obtain ⟨q', chosen', rows₂⟩ := second.batches
    refine ⟨fun b => q b || q' (if q b then b.discard else b), fun b discards => ?_, ?_⟩
    · by_cases early : q b = true
      · obtain ⟨staging, t, member, own, archived⟩ := chosen b early
        obtain ⟨t', member', row⟩ := rows'.forth t member
        exact ⟨staging, t', member', row.place.1.trans own, row.archived archived⟩
      · simp only [early, Bool.false_eq_true, if_false, Bool.false_or] at discards
        exact chosen' b discards
    · rw [rows₂, rows₁, List.map_map]
      refine List.map_congr_left fun b _ => ?_
      simp only [Function.comp]
      by_cases early : q b = true
      · simp [early, ConfirmBatch.discard]
      · simp [early]

theorem EvidenceAside.before {gone : String → Bool} {s s₁ s' : TicketStore}
    (aside : EvidenceAside gone s s₁) (evidence : s'.evidence = s₁.evidence)
    (rows : ∀ t ∈ s₁.tickets.rows, ∃ t' ∈ s'.tickets.rows, t'.id = t.id ∧
      t.evidenceVersion ≤ t'.evidenceVersion ∧ (t.status = .archived → t'.status = .archived)) :
    EvidenceAside gone s s' := by
  have bumped : ∀ id, Bumped s s₁ id → Bumped s s' id := by
    rintro id ⟨t, member, t₁, member₁, own, own₁, less⟩
    obtain ⟨t', member', own', version, -⟩ := rows t₁ member₁
    exact ⟨t, member, t', member', own, own'.trans own₁, less.trans_le version⟩
  refine ⟨evidence ▸ aside.checks, evidence ▸ aside.attempts, evidence ▸ aside.lost, ?_,
    fun k m found lost => bumped k.1 (aside.bumps k m found lost), evidence ▸ aside.came, ?_⟩
  · intro k m found stays
    obtain ⟨m', found', arrival, same⟩ := aside.kept k m found stays
    exact ⟨m', evidence ▸ found', arrival, same.imp_right (bumped k.1)⟩
  · obtain ⟨q, chosen, rows₁⟩ := aside.batches
    refine ⟨q, fun b discards => ?_, evidence ▸ rows₁⟩
    obtain ⟨staging, t, member, own, archived⟩ := chosen b discards
    obtain ⟨t', member', own', -, still⟩ := rows t member
    exact ⟨staging, t', member', own'.trans own, still archived⟩

theorem foldMatches_aside {target : FrictionTicket} {source : Evidence} {matched : List TicketMatch}
    (done : foldMatches target source s matched = .ok s') :
    TicketsAside s s' ∧ EvidenceAside (fun _ => false) s s' ∧
      (∀ t' ∈ s'.tickets.rows, ∃ t ∈ s.tickets.rows, RowAside t t') ∧
      ∀ id, id ≠ target.id → s'.tickets.find? id = s.tickets.find? id := by
  induction matched generalizing s with
  | nil =>
    cases done
    exact ⟨.refl _, .of_evidence rfl, fun t member => ⟨t, member, .refl t⟩, fun _ _ => rfl⟩
  | cons m rest ih =>
    obtain ⟨⟨s₁, new⟩, first, done⟩ := Except.of_bind done
    have rows := ticketsAside_recordMatch first
    obtain ⟨rows', evidence', back', others'⟩ := ih done
    obtain ⟨t, locked, -, tickets, -⟩ := recordMatch_effect first
    have own : t.id = target.id := id_of_lockTicket locked
    refine ⟨rows.trans rows', .trans rows rows' (evidenceAside_recordMatch first) evidence', ?_, ?_⟩
    · intro u' member'
      obtain ⟨u₁, member₁, row'⟩ := back' u' member'
      rcases rows.back u₁ member₁ with ⟨u, member, row⟩ | ⟨fresh, -⟩
      · exact ⟨u, member, row.trans row'⟩
      · rw [tickets] at member₁
        obtain ⟨u, old, eq⟩ := (Table.mem_updateWhere ..).mp member₁
        refine absurd ?_ (fresh u old)
        rw [← eq]
        split <;> rfl
    · intro id other
      refine (others' id other).trans ((congrArg (Table.find? · id) tickets).trans ?_)
      exact (Table.find?_updateKey ..).trans (if_neg (own ▸ other))

theorem absorb_aside (t : FrictionTicket) : RowAside t t.absorb where
  place := ⟨rfl, rfl, rfl⟩
  version := Nat.le_succ _
  generation := rfl
  boundary := rfl
  retries := rfl
  arrivals := le_rfl
  status := Or.inl rfl
  flag := fun _ => Or.inl rfl
  cutoff := fun _ => rfl

theorem carried_folded {t target : FrictionTicket} {jobID : UUID}
    (known : s.tickets.find? t.id = some t) (done : foldInto s t target jobID now = .ok s₁) :
    Carried t.id (.folded target.id) s (reconciledTicket s₁ t.id) := by
  obtain ⟨scope, done⟩ := Except.of_guard done
  have apart : t.id ≠ target.id := fun same => scope (Or.inl same)
  obtain ⟨f, lockedF, done⟩ := Except.of_bind done
  obtain ⟨foundF, -⟩ := find?_of_lockTicket lockedF
  have ownF : f.id = t.id := id_of_lockTicket lockedF
  rw [ownF, known, Option.some.injEq] at foundF
  subst foundF
  obtain ⟨g, lockedG, done⟩ := Except.of_bind done
  have ownG : g.id = target.id := id_of_lockTicket lockedG
  obtain ⟨waiting, done⟩ := Except.of_guard done
  obtain ⟨-, done⟩ := Except.of_guard done
  obtain ⟨s₂, folded, done⟩ := Except.of_bind done
  obtain ⟨updated, lockedU, done⟩ := Except.of_bind done
  have ownU : updated.id = g.id := id_of_lockTicket lockedU
  obtain ⟨-, projectU, -⟩ := find?_of_lockTicket lockedU
  obtain ⟨rows, evidence, back, others⟩ := foldMatches_aside folded
  let s₃ := s₂.updateTicket g.id FrictionTicket.absorb fun _ => ⟨rfl, rfl, rfl⟩
  have absorbs : TicketsAside s₂ s₃ :=
    .of_update g.id FrictionTicket.absorb (fun _ => rfl) rfl (fun u _ _ => absorb_aside u) (.refl _)
  have cancelled : JobsAside (fun j => Folds (.folded target.id) ∧ j.ticketID = some t.id)
      (fun j => j.ticketID = some g.id ∧ j.projectID = g.projectID) s₂.jobs (s₂.jobs.updateWhere (fun j => j.ticketID = some t.id ∧ j.jobType = .frictionConfirm ∧
        j.status = .pending) cancelMerged fun _ => rfl) := by
    refine .updateWhere s₂.jobs _ cancelMerged (fun _ => rfl) fun j _ chosen => ?_
    obtain ⟨own, -, pending⟩ := of_decide_eq_true chosen
    exact ⟨⟨rfl, rfl, rfl, rfl, rfl, le_rfl, fun _ => Or.inl pending⟩,
      fun _ _ => Or.inr ⟨trivial, own⟩⟩
  have sameJobs := (foldMatches_frame folded).2
  have final : s₁.tickets = s₃.tickets.updateKey t.id (FrictionTicket.mergeInto g.id)
        (fun _ => rfl) ∧ s₁.evidence = s₃.evidence ∧
      JobsAside (fun j => Folds (.folded target.id) ∧ j.ticketID = some t.id)
        (fun j => j.ticketID = some g.id ∧ j.projectID = g.projectID) s.jobs s₁.jobs := by
    rw [Except.ok.injEq] at done
    rw [← done, ← sameJobs]
    split
    · refine ⟨rfl, rfl, .trans (settled_ticket _ _) ?_ cancelled (.enqueueJobTx _ fun _ => ?_)⟩
      · exact fun _ _ goes place =>
          ⟨goes.ticketID.trans place.1, goes.projectID.trans place.2⟩
      · exact ⟨rfl, congrArg some ownU, projectU⟩
    · exact ⟨rfl, rfl, cancelled⟩
  obtain ⟨tickets, sameEvidence, jobs⟩ := final
  have tickets' : (reconciledTicket s₁ t.id).tickets = s₃.tickets.updateKey t.id
      (fun u => (u.mergeInto g.id).reconciled) fun _ => rfl :=
    reconciledTicket_tickets t.id (FrictionTicket.mergeInto g.id) (fun _ => rfl) tickets
  have last : RowsCarried t.id (.folded target.id) s₃ (reconciledTicket s₁ t.id) :=
    .of_update (fun u => (u.mergeInto g.id).reconciled) (fun _ => rfl) tickets'
      fun u _ => by simp [ownRows, ownG]
  have same : s₃.tickets.find? t.id = some t := by
    refine (Table.find?_updateKey s₂.tickets g.id FrictionTicket.absorb (fun _ => rfl) t.id).trans ?_
    rw [if_neg (ownG ▸ apart), others t.id (ownG ▸ apart), known]
  have forth : ∀ u ∈ s.tickets.rows, u.id ≠ t.id →
      ∃ u' ∈ (reconciledTicket s₁ t.id).tickets.rows, RowAside u u' := by
    intro u member other
    obtain ⟨u₁, member₁, row₁⟩ := (rows.trans absorbs).forth u member
    obtain ⟨u₂, member₂, row₂⟩ := last.others u₁ member₁ (row₁.place.1 ▸ other)
    exact ⟨u₂, member₂, row₁.trans row₂⟩
  refine ⟨⟨?_, forth, ?_⟩, ?_, jobs.mono (fun _ ends => ends) ?_⟩
  · intro u found
    rw [known, Option.some.injEq] at found
    exact last.own u (found ▸ same)
  · intro u' member other
    obtain ⟨u₁, member₁, row₁⟩ := last.back u' member other
    obtain ⟨u₂, member₂, rfl⟩ := (Table.mem_updateWhere s₂.tickets _ FrictionTicket.absorb
      (fun _ => rfl) u₁).mp member₁
    obtain ⟨u, old, row⟩ := back u₂ member₂
    refine ⟨u, old, row.trans (.trans ?_ row₁)⟩
    split
    · exact absorb_aside u₂
    · exact .refl u₂
  · refine .before (.trans rows absorbs evidence (.of_evidence rfl)) sameEvidence ?_
    intro u member
    rw [tickets']
    refine ⟨_, (Table.mem_updateWhere ..).mpr ⟨u, member, rfl⟩, ?_⟩
    split
    · rename_i own
      refine ⟨rfl, le_rfl, fun archived => ?_⟩
      rw [ticket_of_id same member (of_decide_eq_true own)] at archived
      exact absurd (Or.inl (by rw [archived]; decide)) waiting
    · exact ⟨rfl, le_rfl, fun archived => archived⟩
  · rintro j ⟨own, project⟩
    obtain ⟨u, member, row⟩ := forth g (Table.mem_of_find? (find?_of_lockTicket lockedG).1)
      (ownG ▸ apart.symm)
    exact ⟨u, member, own.trans (congrArg some row.place.1.symm), row.place.2.1.trans project.symm⟩

theorem carried_carryOut (c : ConfirmSettings) {draws : TransitionDraws}
    (known : s.tickets.find? t.id = some t) (done : carryOut c s t draws now a = .ok s') :
    Carried t.id a s s' := by
  cases a with
  | deferred spent =>
    cases done
    exact .of_update (FrictionTicket.defer spent) (fun _ => rfl) rfl
      (fun u _ => List.mem_singleton_self _) rfl (.refl _)
  | folded targetID =>
    obtain ⟨target, found, done⟩ := Except.of_bind done
    obtain ⟨s₁, folded, done⟩ := Except.of_bind done
    cases done
    have key : target.id = targetID := Table.key_of_find? (Option.orError_eq_ok_iff.mp found)
    exact key ▸ carried_folded known folded
  | activated =>
    obtain ⟨s₁, activated, done⟩ := Except.of_bind done
    cases done
    exact carried_activated known activated
  | unpublished =>
    obtain ⟨s₁, withdrawn, done⟩ := Except.of_bind done
    cases done
    exact carried_unpublished known withdrawn
  | refreshed =>
    rw [carryOut] at done
    split at done
    · cases done
      exact .of_update FrictionTicket.reconciled (fun _ => rfl) rfl
        (fun u _ => by simp [ownRows]) rfl (.refl _)
    · cases done
      exact carried_refreshed ..
  | unchanged =>
    cases done
    exact .of_update FrictionTicket.reconciled (fun _ => rfl) rfl
      (fun u _ => by simp [ownRows]) rfl (.refl _)

end Opslane.Tickets.Confirmations
