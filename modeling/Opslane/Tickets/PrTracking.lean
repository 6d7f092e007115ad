import Opslane.Tickets.PrCap
import Opslane.Tickets.Refinement

/-!
# Pull requests and their attempts

A webhook finds the attempt of a pull request by the repository and the number stored on
it. `recordAttemptPr` stores them when the execution still holds its lease and the attempt
is current, and when the attempt's publication is over; an execution that lost its lease
while the publication is live leaves no trace of its pull request on any attempt.
-/

namespace Opslane.Tickets

open Jobs (Job)

/-- The pull request is stored on the attempt. -/
def FixAttempt.Has (repo : String) (number : Nat) (a : FixAttempt) : Prop :=
  a.githubRepo = some repo ∧ a.prNumber = some number
  deriving Decidable

/-- The publication of the job's attempt is over. -/
def Retired (s : TicketStore) (job : Job) : Prop :=
  (job.ticketID.bind (s.getTicket job.projectID)).any fun t =>
    (job.errorGroupID.bind s.incidents.table.find?).any fun g =>
      (job.fixAttemptID.bind s.attempts.find?).any fun a =>
        a.ticketID = t.id ∧ a.errorGroupID = g.id ∧ lineageRetired t g a
  deriving Decidable

/-- The attempt keeps the pull request: it has it already, or it has none, its execution is
in charge or its publication over, and the delivery is new. No other attempt has it. -/
def Keepable (s : TicketStore) (job : Job) (repo : String) (number : Nat)
    (clock clock' : Timestamp) : Prop :=
  ∃ a ∈ s.attempts.rows, job.fixAttemptID = some a.id ∧
    (∀ b ∈ s.attempts.rows, b.Has repo number → b.id = a.id) ∧
    (a.Has repo number ∨
      a.prNumber = none ∧ (s.prEvents.find? (workerDelivery job number)).isNone ∧
        ((Owned s job clock ∧ attemptCurrent s job ∧ Owned s job clock') ∨ Retired s job))
  deriving Decidable

/-- Every recorded pull request is kept, and no other event names another pull request than
its attempt's. -/
def Records (s : TicketStore) : Action → Prop
  | .recordAttemptPr job repo _ number _ _ _ clock clock' => Keepable s job repo number clock clock'
  | .applyPrEvent _ e _ _ => ∀ a ∈ s.attempts.rows, a.id = e.attemptID →
    a.githubRepo = e.githubRepo ∧ a.prNumber = e.prNumber
  | _ => True

instance (s : TicketStore) (a : Action) : Decidable (Records s a) := by
  rcases a with _ | _ <;> dsimp only [Records] <;> infer_instance

/-- A fact is known by its id. -/
def FactIDs (facts : Table PrEventFact.key) : Prop :=
  ∀ f ∈ facts.rows, ∀ g ∈ facts.rows, f.id = g.id → f = g

theorem FactIDs.insert {facts facts' : Table PrEventFact.key} {fact : PrEventFact} (ids : FactIDs facts)
    (inserted : facts.insert? fact = some facts') (fresh : ∀ f ∈ facts.rows, f.id ≠ fact.id) :
    FactIDs facts' := by
  intro f memF g memG same
  rcases (Table.mem_insert? inserted).mp memF with rfl | oldF <;>
    rcases (Table.mem_insert? inserted).mp memG with rfl | oldG
  · rfl
  · exact absurd same.symm (fresh g oldG)
  · exact absurd same (fresh f oldF)
  · exact ids f oldF g oldG same

theorem FactIDs.process {facts : Table PrEventFact.key} (ids : FactIDs facts) (p : PrEventFact → Bool)
    (applied : Bool) (now : Timestamp) {frame} :
    FactIDs (facts.updateWhere p (PrEventFact.process applied now) frame) := by
  intro f' memF g' memG same
  obtain ⟨f, oldF, rfl⟩ := (Table.mem_updateWhere facts p (PrEventFact.process applied now) frame f').mp
    memF
  obtain ⟨g, oldG, rfl⟩ := (Table.mem_updateWhere facts p (PrEventFact.process applied now) frame g').mp
    memG
  have id : ∀ h : PrEventFact, (if p h then PrEventFact.process applied now h else h).id = h.id := by
    intro h
    split <;> rfl
  rw [id, id] at same
  rw [ids f oldF g oldG same]

variable {factID : UUID} {now : Timestamp} {e : PrEvent} {projectID : UUID} {applied : Bool}

theorem FactIDs.applyPrEvent {s s' : TicketStore} (ids : FactIDs s.prEvents)
    (done : Tickets.applyPrEvent s projectID e factID now = .ok (s', applied)) :
    FactIDs s'.prEvents := by
  rcases applyPrEvent_effect done with ⟨rfl, -⟩ | ⟨t, prEvents, fact, -, recorded, -, written, -⟩
  · exact ids
  · rw [written]
    refine FactIDs.process ?_ _ applied now
    rcases recordFact_cases recorded with ⟨-, rfl⟩ | ⟨-, rfl, inserted, fresh⟩
    · exact ids
    · exact ids.insert inserted fresh

/-- A pull request is one attempt's, and a fact that waits is about the pull request of its
attempt. -/
structure Tracked (s : TicketStore) : Prop where
  sound : Sound s
  ids : FactIDs s.prEvents
  single : ∀ a ∈ s.attempts.rows, ∀ b ∈ s.attempts.rows, ∀ repo number, a.Has repo number →
    b.Has repo number → a = b
  waiting : ∀ f ∈ s.prEvents.rows, f.processedAt = none → f.prNumber.isSome ∧
    ∃ a ∈ s.attempts.rows, a.id = f.attemptID ∧ a.githubRepo = f.githubRepo ∧ a.prNumber = f.prNumber

/-- The two rows are of one attempt, with the same pull request. -/
structure FixAttempt.SamePr (a a' : FixAttempt) : Prop where
  id : a'.id = a.id
  ticketID : a'.ticketID = a.ticketID
  errorGroupID : a'.errorGroupID = a.errorGroupID
  generation : a'.generation = a.generation
  githubRepo : a'.githubRepo = a.githubRepo
  prNumber : a'.prNumber = a.prNumber

theorem FixAttempt.SamePr.refl (a : FixAttempt) : a.SamePr a := ⟨rfl, rfl, rfl, rfl, rfl, rfl⟩

theorem FixAttempt.SamePr.trans {a a' a'' : FixAttempt} (first : a.SamePr a') (second : a'.SamePr a'') :
    a.SamePr a'' where
  id := second.id.trans first.id
  ticketID := second.ticketID.trans first.ticketID
  errorGroupID := second.errorGroupID.trans first.errorGroupID
  generation := second.generation.trans first.generation
  githubRepo := second.githubRepo.trans first.githubRepo
  prNumber := second.prNumber.trans first.prNumber

theorem FixAttempt.SamePr.has {a a' : FixAttempt} (same : a.SamePr a') {repo : String} {number : Nat} :
    a'.Has repo number ↔ a.Has repo number := by
  rw [Has, Has, same.githubRepo, same.prNumber]

/-- Stored pull requests stay, and so do tickets. -/
structure KeepsPrs (s s' : TicketStore) : Prop where
  kept : ∀ a ∈ s.attempts.rows, a.prNumber.isSome → ∃ a' ∈ s'.attempts.rows, a.SamePr a'
  placed : Placed s s'

theorem KeepsPrs.refl (s : TicketStore) : KeepsPrs s s := ⟨fun a row _ => ⟨a, row, .refl a⟩, .of_eq rfl⟩

variable {s s' s'' : TicketStore}

theorem KeepsPrs.trans (first : KeepsPrs s s') (second : KeepsPrs s' s'') :
    KeepsPrs s s'' := by
  refine ⟨fun a row numbered => ?_, first.placed.trans second.placed⟩
  obtain ⟨a', row', same⟩ := first.kept a row numbered
  obtain ⟨a'', row'', same'⟩ := second.kept a' row' (same.prNumber ▸ numbered)
  exact ⟨a'', row'', same.trans same'⟩

/-- A step that keeps pull requests tracked loses none. -/
structure TrackStep (s s' : TicketStore) : Prop where
  tracked : Tracked s'
  keeps : KeepsPrs s s'

theorem TrackStep.trans (first : TrackStep s s') (second : TrackStep s' s'') :
    TrackStep s s'' := ⟨second.tracked, first.keeps.trans second.keeps⟩

section Steps

variable {s s' : TicketStore}

theorem Tracked.refl (tracked : Tracked s) : TrackStep s s := ⟨tracked, .refl s⟩

variable {f : FixAttempt → FixAttempt}

theorem Tracked.change (tracked : Tracked s) (sound : Sound s')
    (rows : s'.attempts.rows = s.attempts.rows.map f) (same : ∀ a ∈ s.attempts.rows, a.SamePr (f a))
    (ids : FactIDs s'.prEvents)
    (facts : ∀ e ∈ s'.prEvents.rows, e.processedAt = none → e ∈ s.prEvents.rows)
    (placed : Placed s s') : TrackStep s s' := by
  have image : ∀ a ∈ s.attempts.rows, f a ∈ s'.attempts.rows :=
    fun a row => rows ▸ List.mem_map_of_mem row
  refine ⟨⟨sound, ids, ?_, ?_⟩, fun a row _ => ⟨f a, image a row, same a row⟩, placed⟩
  · intro a' memA b' memB repo number has has'
    rw [rows] at memA memB
    obtain ⟨a, rowA, rfl⟩ := List.mem_map.mp memA
    obtain ⟨b, rowB, rfl⟩ := List.mem_map.mp memB
    rw [tracked.single a rowA b rowB repo number ((same a rowA).has.mp has) ((same b rowB).has.mp has')]
  · intro e member waits
    obtain ⟨numbered, a, row, own, repo, number⟩ := tracked.waiting e (facts e member waits) waits
    have kept := same a row
    exact ⟨numbered, f a, image a row, kept.id.trans own, kept.githubRepo.trans repo,
      kept.prNumber.trans number⟩

theorem Tracked.rests (tracked : Tracked s) (sound : Sound s') (rests : Rests s s') : TrackStep s s' := by
  obtain ⟨f, rows, ends_⟩ := rests.ended
  refine tracked.change sound rows ?_ (rests.facts ▸ tracked.ids) ?_ rests.placed
  · intro a row
    rcases ends_ a row with same | ⟨status, -, ended⟩
    · rw [same]
      exact .refl a
    · rw [ended]
      exact ⟨rfl, rfl, rfl, rfl, rfl, rfl⟩
  · intro e member _
    exact rests.facts ▸ member

theorem Tracked.admits (tracked : Tracked s) (sound : Sound s') {a : FixAttempt}
    (admits : Admits s s' a) : TrackStep s s' := by
  have mem : ∀ b, b ∈ s'.attempts.rows ↔ b = a ∨ b ∈ s.attempts.rows :=
    fun b => Table.mem_insert? admits.inserted
  have free : ∀ repo number, ¬a.Has repo number := by
    rintro repo number ⟨-, numbered⟩
    rw [admits.unnumbered] at numbered
    cases numbered
  refine ⟨⟨sound, admits.facts ▸ tracked.ids, ?_, ?_⟩,
    fun b row _ => ⟨b, (mem b).mpr (Or.inr row), .refl b⟩, .of_eq admits.tickets⟩
  · intro b memB c memC repo number has has'
    rcases (mem b).mp memB with rfl | oldB
    · exact absurd has (free repo number)
    · rcases (mem c).mp memC with rfl | oldC
      · exact absurd has' (free repo number)
      · exact tracked.single b oldB c oldC repo number has has'
  · intro e member waits
    rw [admits.facts] at member
    obtain ⟨numbered, b, row, rest⟩ := tracked.waiting e member waits
    exact ⟨numbered, b, (mem b).mpr (Or.inr row), rest⟩

theorem applyPrEvent_attempts (done : applyPrEvent s projectID e factID now = .ok (s', applied)) :
    ∃ f : FixAttempt → FixAttempt, s'.attempts.rows = s.attempts.rows.map f ∧ ∀ a ∈ s.attempts.rows,
      f a = a ∨ (a.id = e.attemptID ∧ ∃ status : AttemptStatus, f a = { a.notePr e with status }) := by
  rcases applyPrEvent_effect done with ⟨rfl, -⟩ | ⟨t, prEvents, fact, -, -, -, -, -, -, written, -⟩
  · exact ⟨id, by simp, fun a _ => Or.inl rfl⟩
  · split at written
    · refine ⟨fun b => if b.id = e.attemptID then b.applyEvent e else b, ?_, fun a _ => ?_⟩
      · rw [written]
        simp [Table.updateKey, Table.updateWhere]
      · by_cases here : a.id = e.attemptID
        · exact Or.inr ⟨here, e.event.attemptStatus, if_pos here⟩
        · exact Or.inl (if_neg here)
    · split at written
      · refine ⟨fun b => if b.id = e.attemptID then b.orphan e else b, ?_, fun a _ => ?_⟩
        · rw [written]
          simp [Table.updateKey, Table.updateWhere]
        · by_cases here : a.id = e.attemptID
          · exact Or.inr ⟨here, if a.Outstanding then .superseded else a.status, if_pos here⟩
          · exact Or.inl (if_neg here)
      · exact ⟨id, by rw [written, List.map_id], fun a _ => Or.inl rfl⟩

theorem applyPrEvent_placed (done : applyPrEvent s projectID e factID now = .ok (s', applied)) :
    Placed s s' := by
  rcases applyPrEvent_effect done with ⟨rfl, -⟩ | ⟨t, prEvents, fact, -, -, -, -, -, -, -, placed⟩
  · exact .of_eq rfl
  · exact placed

theorem Tracked.applyPrEvent (tracked : Tracked s)
    (done : Tickets.applyPrEvent s projectID e factID now = .ok (s', applied))
    (own : ∀ a ∈ s.attempts.rows, a.id = e.attemptID →
      a.githubRepo = e.githubRepo ∧ a.prNumber = e.prNumber) : TrackStep s s' := by
  obtain ⟨f, rows, writes⟩ := applyPrEvent_attempts done
  refine tracked.change (reaches_applyPrEvent tracked.sound done).sound rows ?_
    (tracked.ids.applyPrEvent done) (fun _ => applyPrEvent_unprocessed done) (applyPrEvent_placed done)
  intro a row
  rcases writes a row with same | ⟨here, status, written⟩
  · rw [same]
    exact .refl a
  · obtain ⟨repo, number⟩ := own a row here
    rw [written]
    refine ⟨rfl, rfl, rfl, rfl, ?_, ?_⟩
    · simp [FixAttempt.notePr, ← repo]
    · simp [FixAttempt.notePr, ← number]

theorem Tracked.processTicketPRWebhook (tracked : Tracked s) {w : TicketPRWebhook}
    {factID jobID : UUID} {r : PRWebhookResult}
    (done : Tickets.processTicketPRWebhook s w factID jobID now = .ok (s', r)) : TrackStep s s' := by
  have sound := (reaches_processTicketPRWebhook tracked.sound done).sound
  rcases processTicketPRWebhook_effect done with rfl | ⟨a, found, inserted, fresh, attempts, tickets⟩
  · exact tracked.refl
  · obtain ⟨row, repo, number⟩ := attemptOf_spec found
    refine ⟨⟨sound, tracked.ids.insert inserted fresh, ?_, ?_⟩, fun b row _ => ⟨b, ?_, .refl b⟩,
      .of_eq tickets⟩
    · rw [attempts]
      exact tracked.single
    · intro f member waits
      rw [attempts]
      rcases (Table.mem_insert? inserted).mp member with rfl | old
      · exact ⟨rfl, a, row, rfl, repo, number⟩
      · exact tracked.waiting f old waits
    · rw [attempts]
      exact row

variable {job : Job}

variable {now clock clock' : Timestamp}

theorem Tracked.processPrEventJob (tracked : Tracked s)
    (done : Tickets.processPrEventJob s job factID now clock clock' = .ok s') : TrackStep s s' := by
  rcases processPrEventJob_effect done with rfl | ⟨f, member, applied, event⟩
  · exact tracked.refl
  · cases processed : f.processedAt with
    | none =>
      obtain ⟨-, a, row, own, repo, number⟩ := tracked.waiting f member processed
      refine tracked.applyPrEvent event fun b rowB own' => ?_
      rw [s.attempts.inj rowB row (own'.trans own.symm)]
      exact ⟨repo, number⟩
    | some at_ =>
      rcases applyPrEvent_effect event with ⟨rfl, -⟩ | ⟨t, prEvents, fact, -, recorded, waits, -⟩
      · exact tracked.refl
      · have known : s.prEvents.find? f.toPrEvent.deliveryID = some f := s.prEvents.find?_key member
        rcases recordFact_cases recorded with ⟨found, -⟩ | ⟨absent, -⟩
        · rw [known, Option.some.injEq] at found
          rw [← found, processed] at waits
          cases waits
        · rw [known] at absent
          cases absent

theorem attemptCurrent_spec (current : attemptCurrent s job) :
    ∃ t g a, job.ticketID.bind (s.getTicket job.projectID) = some t ∧
      job.errorGroupID.bind s.incidents.table.find? = some g ∧
      job.fixAttemptID.bind s.attempts.find? = some a ∧ t.status = .published ∧
      some t.liveGeneration = job.publicationGeneration ∧ g.ticketID = t.id ∧
      g.publicationGeneration = t.liveGeneration ∧ g.status ≠ .archived ∧ g.fixSubstate ≠ .resolved ∧
      a.errorGroupID = g.id ∧ a.Outstanding := by
  obtain ⟨t, ticket, current⟩ := (Option.any_eq_true ..).mp current
  simp only [decide_eq_true_eq] at current
  obtain ⟨published, live, current⟩ := current
  obtain ⟨g, incident, current⟩ := (Option.any_eq_true ..).mp current
  simp only [decide_eq_true_eq] at current
  obtain ⟨own, generation, shown, substate, current⟩ := current
  obtain ⟨a, attempt, current⟩ := (Option.any_eq_true ..).mp current
  simp only [decide_eq_true_eq] at current
  refine ⟨t, g, a, ticket, incident, attempt, published, live, own, generation, shown, ?_, current⟩
  rcases substate with h | h <;> rw [h] <;> decide

variable {ticketID groupID attemptID : UUID} {repo url : String} {occurredAt : Timestamp}

theorem opens_current (sound : Sound s) {generation : Nat} {number : Nat}
    (ticket : job.ticketID = some ticketID) (gen : job.publicationGeneration = some generation)
    (attempt : job.fixAttemptID = some attemptID) (group : job.errorGroupID = some groupID)
    (current : attemptCurrent s job)
    (same : e = recordedEvent job ticketID groupID attemptID generation .opened repo url number
      occurredAt) :
    ∃ t, s.getTicket job.projectID ticketID = some t ∧
      (eventState s job.projectID e).any (fun (g, a) => fixEventCurrent t g a e) := by
  obtain ⟨t, g, a, foundT, foundG, foundA, published, live, own, generation', shown, unresolved, its,
    outstanding⟩ := attemptCurrent_spec current
  rw [ticket, Option.bind_some] at foundT
  rw [group, Option.bind_some] at foundG
  rw [attempt, Option.bind_some] at foundA
  rw [gen, Option.some.injEq] at live
  have idT : t.id = ticketID := Table.key_of_find? (TicketStore.getTicket_eq_some_iff.mp foundT).1
  have rowA := Table.mem_of_find? foundA
  obtain ⟨h, rowH, idH, ticketH, generationH, -⟩ := outstanding_incident sound rowA outstanding
  obtain rfl : h = g := s.incidents.table.inj rowH
    (Table.mem_of_find? foundG) (idH.trans its)
  have incident : s.getIncident job.projectID groupID = some (h, t) := by
    refine TicketStore.getIncident_eq_some_iff.mpr ⟨foundG, ?_⟩
    rw [own, idT]
    exact TicketStore.getTicket_eq_some_iff.mp foundT
  have state : eventState s job.projectID e = some (h, a) := by
    subst same
    simp only [eventState, recordedEvent, foundA, incident]
    simp [← ticketH, own, idT, its]
  refine ⟨t, foundT, ?_⟩
  rw [state]
  subst same
  simp only [Option.any_some, decide_eq_true_eq]
  exact ⟨published, live, generationH.symm.trans (generation'.trans live), shown, unresolved, outstanding,
    (show PREventKind.opened ≠ .orphan by decide)⟩

theorem retired_spec (sound : Sound s) {generation : Nat} {number : Nat}
    (ticket : job.ticketID = some ticketID) (attempt : job.fixAttemptID = some attemptID)
    (group : job.errorGroupID = some groupID) (retired : Retired s job)
    (same : e = recordedEvent job ticketID groupID attemptID generation .orphan repo url number
      occurredAt) :
    ¬attemptCurrent s job ∧ ∃ t, s.getTicket job.projectID ticketID = some t ∧
      (eventState s job.projectID e).any (fun (g, a) => lineageRetired t g a) := by
  obtain ⟨t, foundT, retired⟩ := (Option.any_eq_true ..).mp retired
  obtain ⟨g, foundG, retired⟩ := (Option.any_eq_true ..).mp retired
  obtain ⟨a, foundA, retired⟩ := (Option.any_eq_true ..).mp retired
  simp only [decide_eq_true_eq] at retired
  obtain ⟨own, its, past⟩ := retired
  have current : attemptCurrent s job → a.Outstanding := by
    intro current
    obtain ⟨-, -, b, -, -, foundB, -, -, -, -, -, -, -, outstanding⟩ := attemptCurrent_spec current
    rw [foundA, Option.some.injEq] at foundB
    exact foundB ▸ outstanding
  rw [ticket, Option.bind_some] at foundT
  rw [group, Option.bind_some] at foundG
  rw [attempt, Option.bind_some] at foundA
  have idT : t.id = ticketID := Table.key_of_find? (TicketStore.getTicket_eq_some_iff.mp foundT).1
  have rowA := Table.mem_of_find? foundA
  have linked : g.ticketID = a.ticketID := by
    obtain ⟨i, found, ticketI, -⟩ := sound.coherent.linked a.id a.state (by
      simp [TicketStore.lineage, s.attempts.find?_key rowA])
    have shown : s.lineage.incidents a.state.groupID = some g.state := by
      rw [show a.state.groupID = groupID from its.trans (Table.key_of_find? foundG)]
      simp [TicketStore.lineage, foundG]
    rw [shown, Option.some.injEq] at found
    exact (congrArg IncidentState.ticketID found).trans ticketI
  have incident : s.getIncident job.projectID groupID = some (g, t) := by
    refine TicketStore.getIncident_eq_some_iff.mpr ⟨foundG, ?_⟩
    rw [linked, own, idT]
    exact TicketStore.getTicket_eq_some_iff.mp foundT
  have state : eventState s job.projectID e = some (g, a) := by
    subst same
    simp only [eventState, recordedEvent, foundA, incident]
    simp [own, idT, its]
  refine ⟨fun now_ => ?_, t, foundT, by rw [state]; simpa using past⟩
  subst same
  exact not_outstanding_of_retired sound foundT state past (current now_)

theorem FixAttempt.Has.unique {a : FixAttempt} {repo repo' : String} {number number' : Nat}
    (has : a.Has repo number) (has' : a.Has repo' number') : repo' = repo ∧ number' = number := by
  have repos := has.1.symm.trans has'.1
  have numbers := has.2.symm.trans has'.2
  simp only [Option.some.injEq] at repos numbers
  exact ⟨repos.symm, numbers.symm⟩

theorem Tracked.store (tracked : Tracked s) (sound : Sound s') {a : FixAttempt}
    (row : a ∈ s.attempts.rows) {number : Nat} (unnumbered : a.prNumber = none)
    (alone : ∀ b ∈ s.attempts.rows, b.Has repo number → b.id = a.id)
    (rows : s'.attempts.rows = s.attempts.rows.map f)
    (others : ∀ b ∈ s.attempts.rows, b.id ≠ a.id → f b = b) (has : (f a).Has repo number)
    (ids : FactIDs s'.prEvents)
    (facts : ∀ e ∈ s'.prEvents.rows, e.processedAt = none → e ∈ s.prEvents.rows)
    (placed : Placed s s') : TrackStep s s' := by
  have image : ∀ b ∈ s.attempts.rows, f b ∈ s'.attempts.rows :=
    fun b row => rows ▸ List.mem_map_of_mem row
  have only : ∀ b ∈ s.attempts.rows, b.id = a.id → b = a :=
    fun b rowB same => s.attempts.inj rowB row same
  have kept : ∀ b ∈ s.attempts.rows, b.prNumber.isSome → f b = b := by
    intro b rowB numbered
    refine others b rowB fun same => ?_
    rw [only b rowB same, unnumbered] at numbered
    cases numbered
  -- whoever else has the pull request afterwards had it before
  have clash : ∀ b ∈ s.attempts.rows, (f b).Has repo number → b = a := by
    intro b rowB has'
    by_contra other
    have differ : b.id ≠ a.id := fun same => other (only b rowB same)
    rw [others b rowB differ] at has'
    exact differ (alone b rowB has')
  refine ⟨⟨sound, ids, ?_, ?_⟩, fun b rowB numbered => ⟨f b, image b rowB, ?_⟩, placed⟩
  · intro b' memB c' memC r n hasB hasC
    rw [rows] at memB memC
    obtain ⟨b, rowB, rfl⟩ := List.mem_map.mp memB
    obtain ⟨c, rowC, rfl⟩ := List.mem_map.mp memC
    by_cases hereB : b = a
    · subst hereB
      obtain ⟨rfl, rfl⟩ := has.unique hasB
      rw [clash c rowC hasC]
    · by_cases hereC : c = a
      · subst hereC
        obtain ⟨rfl, rfl⟩ := has.unique hasC
        rw [clash b rowB hasB]
      · have sameB := others b rowB fun same => hereB (only b rowB same)
        have sameC := others c rowC fun same => hereC (only c rowC same)
        rw [sameB] at hasB ⊢
        rw [sameC] at hasC ⊢
        exact tracked.single b rowB c rowC r n hasB hasC
  · intro e member waits
    obtain ⟨numbered, b, rowB, own, repo', number'⟩ := tracked.waiting e (facts e member waits) waits
    have same := kept b rowB (number' ▸ numbered)
    exact ⟨numbered, b, same ▸ image b rowB, own, repo', number'⟩
  · rw [kept b rowB numbered]
    exact .refl b

theorem Tracked.recordAttemptPr (tracked : Tracked s) {number : Nat}
    (keepable : Keepable s job repo number clock clock')
    (done : Tickets.recordAttemptPr s job repo url number factID occurredAt now clock clock' =
      .ok (s', applied)) :
    TrackStep s s' ∧ ∃ a ∈ s'.attempts.rows, job.fixAttemptID = some a.id ∧ a.Has repo number := by
  have sound := (reaches_recordAttemptPr tracked.sound done).sound
  obtain ⟨ticketID, generation, attemptID, groupID, s₁, ticket, gen, attempt, group, event, attempts,
    facts, tickets⟩ := recordAttemptPr_effect done
  obtain ⟨a, row, own, alone, keeps⟩ := keepable
  rw [attempt, Option.some.injEq] at own
  subst own
  have after : TrackStep s s₁ → TrackStep s s' := fun first =>
    first.trans (first.tracked.rests sound (.of_eq attempts facts tickets))
  rcases keeps with has | ⟨unnumbered, fresh, reason⟩
  · -- the attempt has it already
    have first := tracked.applyPrEvent event fun b rowB same => by
      rw [s.attempts.inj rowB row same]
      exact has
    obtain ⟨a', row', same⟩ := first.keeps.kept a row (by simp [has.2])
    exact ⟨after first, a', attempts ▸ row', by rw [attempt, same.id], same.has.mpr has⟩
  · obtain ⟨f, rows, writes⟩ := applyPrEvent_attempts event
    -- the event is current, or its attempt orphaned
    have written : ∃ a' ∈ s₁.attempts.rows, a'.id = a.id ∧ a'.Has repo number := by
      have store : ∀ F : FixAttempt → FixAttempt, (∀ b, (F b).id = b.id ∧ (F b).Has repo number) →
          ∀ frame, s₁.attempts = s.attempts.updateKey a.id F frame →
            ∃ a' ∈ s₁.attempts.rows, a'.id = a.id ∧ a'.Has repo number := by
        intro F has frame eq
        have mem := (Table.mem_updateWhere s.attempts (fun b => b.id = a.id) F frame _).mpr ⟨a, row, rfl⟩
        rw [if_pos (by simp)] at mem
        exact ⟨F a, by rw [eq]; exact mem, has a⟩
      rcases reason with ⟨owned, current, owned'⟩ | past
      · rw [if_pos ⟨owned, current, owned'⟩] at event
        obtain ⟨t, found, applies⟩ := opens_current tracked.sound ticket gen attempt group current rfl
        rcases applyPrEvent_effect event with ⟨-, -, absent | ⟨fact, known, -⟩⟩ | ⟨t', prEvents, fact,
          found', -, -, -, outcome, -, stored, -⟩
        · exact absurd (found.symm.trans absent) (by simp)
        · rw [show s.prEvents.find? (workerDelivery job number) = some fact from known] at fresh
          cases fresh
        · obtain rfl : t = t' := Option.some.inj (found.symm.trans found')
          rw [applies] at outcome
          subst outcome
          exact store (FixAttempt.applyEvent _) (fun _ => ⟨rfl, rfl, rfl⟩) _ stored
      · obtain ⟨stale, t, found, retired⟩ := retired_spec tracked.sound ticket attempt group past
          (e := recordedEvent job ticketID groupID a.id generation .orphan repo url number occurredAt) rfl
        rw [if_neg fun now_ => stale now_.2.1] at event
        rcases applyPrEvent_effect event with ⟨-, -, absent | ⟨fact, known, -⟩⟩ | ⟨t', prEvents, fact,
          found', -, -, -, outcome, -, stored, -⟩
        · exact absurd (found.symm.trans absent) (by simp)
        · rw [show s.prEvents.find? (workerDelivery job number) = some fact from known] at fresh
          cases fresh
        · obtain rfl : t = t' := Option.some.inj (found.symm.trans found')
          have refused : applied = false := by
            rw [outcome, Option.any_eq_false]
            rintro ⟨g, b⟩ -
            simp [fixEventCurrent, recordedEvent]
          rw [refused, if_neg (by simp), if_pos ⟨rfl, retired⟩] at stored
          exact store (FixAttempt.orphan _) (fun _ => ⟨rfl, rfl, rfl⟩) _ stored
    obtain ⟨a', row', id, has⟩ := written
    have image : f a = a' := by
      rw [rows] at row'
      obtain ⟨b, rowB, rfl⟩ := List.mem_map.mp row'
      have same : b.id = a.id := by
        rcases writes b rowB with same | ⟨here, -⟩
        · rw [same] at id
          exact id
        · exact here
      rw [s.attempts.inj rowB row same]
    have others : ∀ b ∈ s.attempts.rows, b.id ≠ a.id → f b = b := by
      intro b rowB other
      rcases writes b rowB with same | ⟨here, -⟩
      · exact same
      · exact absurd here other
    have first := tracked.store (reaches_applyPrEvent tracked.sound event).sound row unnumbered alone rows
      others (image ▸ has) (tracked.ids.applyPrEvent event) (fun _ => applyPrEvent_unprocessed event)
      (applyPrEvent_placed event)
    exact ⟨after first, a', attempts ▸ row', by rw [attempt, id], has⟩

theorem Tracked.assertFixAttemptCurrent (tracked : Tracked s) {delivery : Bool}
    {maxOpenFixPrs : Nat}
    (done : Tickets.assertFixAttemptCurrent s job delivery maxOpenFixPrs now clock clock' = .ok s') :
    TrackStep s s' := by
  have sound := (reaches_assertFixAttemptCurrent tracked.sound done).sound
  obtain ⟨a, -, -, -, -, ⟨rfl, -⟩ | ⟨-, rfl⟩⟩ := assertFixAttemptCurrent_effect done
  · exact tracked.refl
  · refine tracked.change sound (f := fun b => if b.id = a.id then b.reserve now else b) ?_ ?_ tracked.ids
      (fun _ member _ => member) (.of_eq rfl)
    · simp [TicketStore.updateAttempt, Table.updateKey, Table.updateWhere]
    · intro b _
      split <;> exact ⟨rfl, rfl, rfl, rfl, rfl, rfl⟩

theorem Tracked.committed {ε : Type} (tracked : Tracked s) {r : Except ε TicketStore}
    (kept : ∀ s', r = .ok s' → TrackStep s s') : TrackStep s (Transition.committed s r) := by
  cases r with
  | ok s' => exact kept s' rfl
  | error _ => exact tracked.refl

theorem Tracked.committed_fst {ε α : Type} (tracked : Tracked s) {r : Except ε (TicketStore × α)}
    (kept : ∀ s' x, r = .ok (s', x) → TrackStep s s') :
    TrackStep s (Transition.committed s (r.map Prod.fst)) := by
  refine tracked.committed fun s' done => ?_
  obtain ⟨⟨s₁, x⟩, result, rfl⟩ := Except.map_eq_ok_iff.mp done
  exact kept s₁ x result

theorem Tracked.step (tracked : Tracked s) {a : Action} (records : Records s a) :
    TrackStep s (step s a) := by
  by_cases fixes : a.Fixes
  · cases a with
    | requestTicketFix =>
      refine tracked.committed fun s' done => ?_
      obtain ⟨a, admits⟩ := requestTicketFix_admits done
      exact tracked.admits (reaches_requestTicketFix tracked.sound done).sound admits
    | requestFix =>
      refine tracked.committed_fst fun s' r done => ?_
      rcases requestFix_admits done with rfl | ⟨a, admits⟩
      · exact tracked.refl
      · exact tracked.admits (reaches_requestFix tracked.sound done).sound admits
    | applyPrEvent => exact tracked.committed_fst fun s' r done => tracked.applyPrEvent done records
    | assertFixAttemptCurrent =>
      exact tracked.committed fun s' done => tracked.assertFixAttemptCurrent done
    | recordAttemptPr =>
      exact tracked.committed_fst fun s' r done => (tracked.recordAttemptPr records done).1
    | processTicketPRWebhook =>
      exact tracked.committed_fst fun s' r done => tracked.processTicketPRWebhook done
    | processPrEventJob => exact tracked.committed fun s' done => tracked.processPrEventJob done
    | _ => cases fixes
  · exact tracked.rests (reaches_step tracked.sound a).sound (rests_step s fixes)

theorem Tracked.run (tracked : Tracked s) {actions : List Action}
    (recorded : machine.Guarded Records s actions) : TrackStep s (machine.run s actions) := by
  induction actions generalizing s with
  | nil => exact tracked.refl
  | cons a rest ih =>
    have first := tracked.step recorded.1
    exact first.trans (ih first.tracked recorded.2)

end Steps

theorem tracked_empty : Tracked .empty where
  sound := sound_empty
  ids := by simp [FactIDs, TicketStore.empty, Table.empty]
  single := by simp [TicketStore.empty, Table.empty]
  waiting := by simp [TicketStore.empty, Table.empty]

section Webhook

variable {s : TicketStore} {a : FixAttempt} {repo : String} {number : Nat}

theorem Tracked.attemptOf (tracked : Tracked s) (row : a ∈ s.attempts.rows) (has : a.Has repo number) :
    Tickets.attemptOf s repo number = some a := by
  obtain ⟨i, found, ticket, -⟩ := tracked.sound.coherent.linked a.id a.state (by
    simp [TicketStore.lineage, s.attempts.find?_key row])
  obtain ⟨p, foundT, -⟩ := tracked.sound.coherent.placed a.errorGroupID i found
  rw [ticket] at foundT
  obtain ⟨g, incident, -⟩ := Option.map_eq_some_iff.mp found
  obtain ⟨t, ticket', -⟩ := Option.map_eq_some_iff.mp foundT
  have listed : a ∈ s.attempts.select fun a => a.githubRepo = some repo ∧ a.prNumber = some number ∧
      (s.incidents.table.find? a.errorGroupID).isSome ∧ (s.tickets.find? a.ticketID).isSome := by
    simp only [Table.select, List.mem_filter, decide_eq_true_eq]
    refine ⟨row, has.1, has.2, ?_, ?_⟩
    · rw [show s.incidents.table.find? a.errorGroupID = some g from incident]
      rfl
    · rw [show s.tickets.find? a.ticketID = some t from ticket']
      rfl
  have only : ∀ b ∈ s.attempts.select fun a => a.githubRepo = some repo ∧ a.prNumber = some number ∧
      (s.incidents.table.find? a.errorGroupID).isSome ∧ (s.tickets.find? a.ticketID).isSome, b = a := by
    intro b member
    simp only [Table.select, List.mem_filter, decide_eq_true_eq] at member
    exact tracked.single b member.1 a row repo number ⟨member.2.1, member.2.2.1⟩ has
  refine Latest.latest_eq_some listed ?_ ?_
  · intro b member
    rw [only b member]
  · intro b member _
    exact only b member

theorem Tracked.webhook_found (tracked : Tracked s) (row : a ∈ s.attempts.rows) {w : TicketPRWebhook}
    (has : a.Has w.repository w.number) (kind : w.event ≠ .orphan) {factID jobID : UUID} (now : Timestamp)
    (newDelivery : s.prEvents.find? w.deliveryID = none) (newFact : ∀ f ∈ s.prEvents.rows, f.id ≠ factID)
    (newJob : s.jobs.find? jobID = none) :
    ∃ t s₁, s.tickets.find? a.ticketID = some t ∧
      s.jobs.insert? (prEventJob factID jobID t.projectID a now) = some s₁.jobs ∧
      Tickets.processTicketPRWebhook s w factID jobID now = .ok (s₁, ⟨some a.errorGroupID, false⟩) := by
  obtain ⟨i, found, ticket, -⟩ := tracked.sound.coherent.linked a.id a.state (by
    simp [TicketStore.lineage, s.attempts.find?_key row])
  obtain ⟨p, foundT, -⟩ := tracked.sound.coherent.placed a.errorGroupID i found
  obtain ⟨g, incident, state⟩ := Option.map_eq_some_iff.mp found
  obtain ⟨t, ticket', -⟩ := Option.map_eq_some_iff.mp foundT
  have own : i.ticketID = a.ticketID := ticket
  have ownG : g.ticketID = a.ticketID := (congrArg IncidentState.ticketID state).trans own
  rw [own] at ticket'
  obtain ⟨prEvents, inserted⟩ := s.prEvents.exists_insert?
    (r := (⟨webhookFact w a, factID, false, none⟩ : PrEventFact)) newDelivery
  obtain ⟨jobs, queued⟩ := s.jobs.exists_insert? (r := prEventJob factID jobID t.projectID a now) newJob
  refine ⟨t, { s with prEvents, jobs }, ticket', queued, ?_⟩
  have free : ¬s.prEvents.any (fun f => f.id = factID) = true := by
    simpa [Table.any] using newFact
  have incident' : s.incidents.table.find? a.errorGroupID = some g := incident
  simp [Tickets.processTicketPRWebhook, kind, newDelivery, tracked.attemptOf row has, incident', ownG, ticket',
    free, inserted, Jobs.insertJob?_prEvent (j := prEventJob factID jobID t.projectID a now) rfl rfl rfl,
    queued, Option.orError, bind, Except.bind]

theorem applyPrEvent_current {fact : PrEventFact} {t : FrictionTicket} {g : Incident}
    (ticket : s.getTicket projectID e.ticketID = some t)
    (known : s.prEvents.find? e.deliveryID = some fact) (waits : fact.processedAt = none)
    (state : eventState s projectID e = some (g, a)) (current : fixEventCurrent t g a e) :
    applyPrEvent s projectID e factID now = .ok ({ applyCurrent s e with
      prEvents := s.prEvents.updateWhere (fun f => f.id = fact.id) (PrEventFact.process true now)
        fun _ => rfl }, true) := by
  have same : (applyCurrent s e).prEvents = s.prEvents := by
    unfold applyCurrent
    dsimp only
    split <;> rfl
  simp [applyPrEvent, ticket, recordFact, known, waits, state, current, same, bind, Except.bind]

theorem Tracked.merge_resolves (tracked : Tracked s) {fact : PrEventFact}
    (member : fact ∈ s.prEvents.rows) (waits : fact.processedAt = none) (merged : fact.event = .merged)
    (row : a ∈ s.attempts.rows) (own : a.id = fact.attemptID) (its : a.ticketID = fact.ticketID)
    (group : a.errorGroupID = fact.errorGroupID) (generation : a.generation = fact.generation)
    (outstanding : a.Outstanding) {job : Job} (payload : eventID job = some (toString fact.id))
    (project : (s.getTicket job.projectID fact.ticketID).isSome) (ticket : job.ticketID = some fact.ticketID)
    (attempt : job.fixAttemptID = some fact.attemptID)
    (publication : job.publicationGeneration = some fact.generation) (factID : UUID)
    (now : Timestamp) {clock clock' : Timestamp} (locked : LocksJob s job clock)
    (locked' : LocksJob s job clock') :
    ∃ s', Tickets.processPrEventJob s job factID now clock clock' = .ok s' ∧
      ∃ g ∈ s'.incidents.table.rows, g.id = fact.errorGroupID ∧ g.fixSubstate = .resolved := by
  obtain ⟨t, foundT⟩ := Option.isSome_iff_exists.mp project
  obtain ⟨rowT, -⟩ := TicketStore.getTicket_eq_some_iff.mp foundT
  obtain ⟨g, rowG, idG, ticketG, generationG, live, substate⟩ :=
    outstanding_incident tracked.sound row outstanding
  -- the publication of an outstanding attempt is live
  have shown : s.lineage.incidents g.id = some g.state := by
    simp [TicketStore.lineage, s.incidents.table.find?_key rowG]
  obtain ⟨p, foundP, published, current⟩ :=
    tracked.sound.coherent.live g.id g.state shown (decide_eq_false live)
  have onTicket : g.ticketID = fact.ticketID := ticketG.trans its
  rw [show g.state.ticketID = fact.ticketID from onTicket] at foundP
  simp only [TicketStore.lineage, rowT, Option.map_some, Option.some.injEq] at foundP
  subst foundP
  have foundG : s.incidents.table.find? fact.errorGroupID = some g := by
    rw [← group, ← idG]
    exact s.incidents.table.find?_key rowG
  have foundA : s.attempts.find? fact.attemptID = some a := own ▸ s.attempts.find?_key row
  have incident : s.getIncident job.projectID fact.errorGroupID = some (g, t) := by
    refine TicketStore.getIncident_eq_some_iff.mpr ⟨foundG, ?_⟩
    rw [onTicket]
    exact TicketStore.getTicket_eq_some_iff.mp foundT
  have state : eventState s job.projectID fact.toPrEvent = some (g, a) := by
    simp only [eventState, foundA, incident]
    simp [its, idG]
  have unresolved : g.fixSubstate ≠ .resolved := by
    rw [substate]
    exact AttemptStatus.Outstanding.substate_ne outstanding
  have applies : fixEventCurrent t g a fact.toPrEvent :=
    ⟨of_decide_eq_true published, (current.symm.trans generationG).trans generation, generation, live,
      unresolved, outstanding, by rw [merged]; decide⟩
  have found : jobFact s job (toString fact.id) = some fact := by
    cases result : jobFact s job (toString fact.id) with
    | none =>
      have absent := List.find?_eq_none.mp result fact member
      simp [project, ticket, attempt, publication] at absent
    | some f =>
      have named := List.find?_some result
      simp only [decide_eq_true_eq] at named
      rw [tracked.ids f (List.mem_of_find?_eq_some result) fact member
        (Text.toString_nat_inj.mp named.1)]
  have known : s.prEvents.find? fact.toPrEvent.deliveryID = some fact := s.prEvents.find?_key member
  have jobs : (applyCurrent s fact.toPrEvent).jobs = s.jobs := by
    unfold applyCurrent
    dsimp only
    split <;> rfl
  let s' : TicketStore := { applyCurrent s fact.toPrEvent with
    prEvents := s.prEvents.updateWhere (fun f => f.id = fact.id) (PrEventFact.process true now)
      fun _ => rfl }
  have event : Tickets.applyPrEvent s job.projectID fact.toPrEvent factID now = .ok (s', true) :=
    applyPrEvent_current foundT known waits state applies
  have locked'' : LocksJob s' job clock' := by
    unfold LocksJob
    rw [show s'.jobs = s.jobs from jobs]
    exact locked'
  refine ⟨s', ?_, Incident.applyEvent fact.toPrEvent g, ?_, idG.trans group, by
    simp [Incident.applyEvent, merged, PREventKind.substate]⟩
  · unfold Tickets.processPrEventJob
    rw [payload]
    dsimp only
    rw [found]
    simp [locked, event, locked'', Except.map, bind, Except.bind]
  · have incidents : (applyCurrent s fact.toPrEvent).incidents = s.incidents.updateWhere
        (fun g => g.id = fact.errorGroupID) (Incident.applyEvent fact.toPrEvent)
        (fun _ => ⟨rfl, rfl, rfl⟩) := by
      unfold applyCurrent
      dsimp only
      split <;> rfl
    have mem := (Table.mem_updateWhere s.incidents.table (fun h => h.id = fact.errorGroupID)
      (Incident.applyEvent fact.toPrEvent) (fun _ => rfl) _).mpr ⟨g, rowG, rfl⟩
    rw [if_pos (by simp [idG, group])] at mem
    rw [show s'.incidents = (applyCurrent s fact.toPrEvent).incidents from rfl, incidents]
    exact mem

/-- A webhook that reports the merge of the attempt's pull request finds the attempt, and the
job it queues resolves the incident if the attempt is outstanding when a worker runs it. -/
def MergeResolves (s : TicketStore) (a : FixAttempt) (repo : String) (number : Nat) : Prop :=
  ∀ (w : TicketPRWebhook) (factID jobID : UUID) (now : Timestamp), w.repository = repo →
    w.number = number → w.event = .merged → s.prEvents.find? w.deliveryID = none →
    (∀ f ∈ s.prEvents.rows, f.id ≠ factID) → s.jobs.find? jobID = none →
    ∃ s₁ queued, processTicketPRWebhook s w factID jobID now = .ok (s₁, ⟨some a.errorGroupID, false⟩) ∧
      s₁.jobs.find? jobID = some queued ∧
      ∀ later, machine.Guarded Records s₁ later →
        ⟨webhookFact w a, factID, false, none⟩ ∈ (machine.run s₁ later).prEvents.rows →
        (∃ b ∈ (machine.run s₁ later).attempts.rows, b.id = a.id ∧ b.Outstanding) →
        ∀ (job : Job) (factID' : UUID) (now' clock clock' : Timestamp),
          job.toJobColumns = queued.toJobColumns → job.projectID = queued.projectID →
          LocksJob (machine.run s₁ later) job clock → LocksJob (machine.run s₁ later) job clock' →
          ∃ s₂, processPrEventJob (machine.run s₁ later) job factID' now' clock clock' = .ok s₂ ∧
            ∃ g ∈ s₂.incidents.table.rows, g.id = a.errorGroupID ∧ g.fixSubstate = .resolved

theorem Tracked.mergeResolves (tracked : Tracked s) (row : a ∈ s.attempts.rows)
    (has : a.Has repo number) : MergeResolves s a repo number := by
  rintro w factID jobID now rfl rfl merged newDelivery newFact newJob
  obtain ⟨t, s₁, foundT, queued, done⟩ := tracked.webhook_found row has
    (by rw [merged]; decide) now newDelivery newFact newJob
  have first := tracked.processTicketPRWebhook done
  refine ⟨s₁, prEventJob factID jobID t.projectID a now, done, ?_, ?_⟩
  · rw [Table.find?_insert? queued, if_pos (by rfl)]
  · rintro later recorded waits ⟨b, rowB, own, outstanding⟩ job factID' now' clock clock' columns project
      locked locked'
    have after := first.trans (first.tracked.run recorded)
    obtain ⟨a', rowA', same⟩ := after.keeps.kept a row (by simp [has.2])
    obtain rfl : b = a' :=
      List.inj_on_of_nodup_map (machine.run s₁ later).attempts.unique rowB rowA' (own.trans same.id.symm)
    obtain ⟨t', rowT', place⟩ := after.keeps.placed t (Table.mem_of_find? foundT)
    have idT : t.id = a.ticketID := Table.key_of_find? foundT
    have payload : eventID job = some (toString factID) := by
      unfold eventID
      rw [columns]
      rfl
    refine after.tracked.merge_resolves waits rfl merged rowB own same.ticketID same.errorGroupID
      same.generation outstanding payload ?_ (by rw [columns]; rfl) (by rw [columns]; rfl)
      (by rw [columns]; rfl) factID' now' locked locked'
    have found : (machine.run s₁ later).tickets.find? a.ticketID = some t' := by
      rw [← idT, ← place.1]
      exact (machine.run s₁ later).tickets.find?_key rowT'
    have its : (machine.run s₁ later).getTicket job.projectID a.ticketID = some t' :=
      TicketStore.getTicket_eq_some_iff.mpr ⟨found, place.2.1.trans project.symm⟩
    exact Option.isSome_iff_exists.mpr ⟨t', its⟩

end Webhook

/-- In a run in which every recorded pull request is kept, a webhook finds the attempt of each,
and a merge resolves its incident. -/
theorem prs_tracked (before after : List Action) (job : Job) (repo url : String) (number : Nat)
    (factID : UUID) (occurredAt now clock clock' : Timestamp)
    (recorded : machine.Guarded Records .empty
      (before ++ .recordAttemptPr job repo url number factID occurredAt now clock clock' :: after))
    (committed : (recordAttemptPr (machine.run .empty before) job repo url number factID occurredAt now
      clock clock').isOk) :
    let s := machine.run .empty
      (before ++ .recordAttemptPr job repo url number factID occurredAt now clock clock' :: after)
    ∃ a, attemptOf s repo number = some a ∧ job.fixAttemptID = some a.id ∧
      MergeResolves s a repo number := by
  obtain ⟨first, keepable, then_⟩ := (Transition.Machine.guarded_append ..).mp recorded
  have start := (tracked_empty.run first).tracked
  rw [Transition.Machine.run_append, Transition.Machine.run_cons]
  have stepped : machine.step (machine.run .empty before)
      (.recordAttemptPr job repo url number factID occurredAt now clock clock') =
      Transition.committed (machine.run .empty before) ((recordAttemptPr (machine.run .empty before) job
        repo url number factID occurredAt now clock clock').map Prod.fst) := rfl
  cases result : recordAttemptPr (machine.run .empty before) job repo url number factID occurredAt now
      clock clock' with
  | error e =>
    rw [result] at committed
    cases committed
  | ok outcome =>
    obtain ⟨s₁, applied⟩ := outcome
    rw [result] at stepped
    rw [stepped] at then_ ⊢
    obtain ⟨kept, a, row, own, has⟩ := start.recordAttemptPr keepable result
    have rest := kept.tracked.run then_
    obtain ⟨a', row', same⟩ := rest.keeps.kept a row (by simp [has.2])
    have has' := same.has.mpr has
    exact ⟨a', rest.tracked.attemptOf row' has', by rw [own, same.id],
      rest.tracked.mergeResolves row' has'⟩

section Example

/-- The job is cleared for delivery. -/
def clearedRun : List Action :=
  requestedRun ++ [Action.assertFixAttemptCurrent requestedJob true 1 0 0 0]

theorem prs_tracked_recorded :
    ∃ a, attemptOf (machine.run .empty (clearedRun ++
        [Action.recordAttemptPr requestedJob "o/r" "pull/7" 7 901 0 0 0 0])) "o/r" 7 = some a ∧
      requestedJob.fixAttemptID = some a.id ∧
      MergeResolves (machine.run .empty (clearedRun ++
        [Action.recordAttemptPr requestedJob "o/r" "pull/7" 7 901 0 0 0 0])) a "o/r" 7 := by
  have recorded : machine.Guarded Records .empty (clearedRun ++
      [Action.recordAttemptPr requestedJob "o/r" "pull/7" 7 901 0 0 0 0]) := by
    decide +kernel
  have committed : (recordAttemptPr (machine.run .empty clearedRun) requestedJob "o/r" "pull/7" 7 901 0 0
      0 0).isOk := by
    decide +kernel
  exact prs_tracked clearedRun [] requestedJob "o/r" "pull/7" 7 901 0 0 0 0 recorded committed

/-- The execution opens pull request 7 and loses its lease before it records it. -/
theorem pr_orphaned :
    ¬∀ (before : List Action) (job : Job) (repo url : String) (number : Nat) (factID : UUID)
        (occurredAt now clock clock' : Timestamp) (s' : TicketStore) (applied : Bool),
      recordAttemptPr (machine.run .empty before) job repo url number factID occurredAt now clock clock' =
          .ok (s', applied) →
        (attemptOf s' repo number).isSome := by
  intro tracked
  have run : (recordAttemptPr (machine.run .empty clearedRun) requestedJob "o/r" "pull/7" 7
      901 0 0 2000000 2000000).toOption.any
      (fun r => (attemptOf r.1 "o/r" 7).isNone) = true := by
    decide +kernel
  cases result : recordAttemptPr (machine.run .empty clearedRun) requestedJob "o/r" "pull/7" 7 901 0 0
      2000000 2000000 with
  | error e =>
    rw [result] at run
    cases run
  | ok r =>
    obtain ⟨s', applied⟩ := r
    have found := tracked _ _ _ _ _ _ _ _ _ _ s' applied result
    rw [result] at run
    simp_all [Except.toOption]

end Example

end Opslane.Tickets
