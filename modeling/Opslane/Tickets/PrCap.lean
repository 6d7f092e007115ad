import Opslane.Tickets.Attempts

/-!
# The cap on automatic pull requests

An automatic attempt takes one of its project's pull-request slots when an execution of it
is cleared for delivery, and keeps the slot until it ends. The pipeline records a pull
request only for an attempt that was cleared (`assertLeaseOwned` before the branch is pushed
and before the pull request is created, `packages/worker/src/pipeline.ts`).
-/

namespace Opslane.Tickets

open Jobs (Job)

/-- The automatic attempt has its pull request open, or a slot reserved for it. -/
def AutoSlot (a : FixAttempt) : Prop := a.requestedBy = .auto ∧ TakesSlot a
  deriving Decidable

/-- The slots the project's automatic attempts take. -/
def autoSlots (s : TicketStore) (projectID : UUID) : Nat :=
  countAttempts s projectID fun a => AutoSlot a

/-- The store, and the attempts an execution of which was cleared for delivery. -/
structure Deliveries where
  store : TicketStore
  cleared : List UUID

/-- The attempt an action clears. -/
def clears (s : TicketStore) : Action → Option UUID
  | .assertFixAttemptCurrent job true maxOpenFixPrs now clock clock' =>
    match assertFixAttemptCurrent s job true maxOpenFixPrs now clock clock' with
    | .ok _ => job.fixAttemptID
    | .error _ => none
  | _ => none

def deliveries : Transition.Machine Deliveries Action :=
  ⟨fun d a => ⟨step d.store a, (clears d.store a).toList ++ d.cleared⟩⟩

/-- The project's cap does not change, and pull requests are opened by attempts that were
cleared. -/
def Delivers (projectID : UUID) (cap : Nat) (d : Deliveries) : Action → Prop
  | .assertFixAttemptCurrent job _ maxOpenFixPrs _ _ _ =>
    job.projectID = projectID → maxOpenFixPrs = cap
  | .recordAttemptPr job _ _ _ _ _ _ _ _ => job.fixAttemptID.all (· ∈ d.cleared)
  | .applyPrEvent _ e _ _ => e.event = .opened → e.attemptID ∈ d.cleared
  | _ => True

instance (projectID : UUID) (cap : Nat) (d : Deliveries) (a : Action) :
    Decidable (Delivers projectID cap d a) := by
  rcases a with _ | _ <;> dsimp only [Delivers] <;> infer_instance

theorem autoSlots_eq (s : TicketStore) (projectID : UUID) :
    autoSlots s projectID = s.attempts.rows.countP fun a =>
      AutoSlot a ∧ (s.getTicket projectID a.ticketID).isSome := by
  rw [List.countP_eq_length_filter]
  simp only [autoSlots, countAttempts, Table.select, decide_eq_true_eq]

/-- What keeps the automatic attempts of a project within their cap. -/
structure Capped (projectID : UUID) (cap : Nat) (s : TicketStore) (cleared : List UUID) : Prop where
  tickets : ∀ a ∈ s.attempts.rows, ∃ t ∈ s.tickets.rows, t.id = a.ticketID
  known : ∀ id ∈ cleared, ∃ a ∈ s.attempts.rows, a.id = id
  /-- A cleared automatic attempt has its slot. -/
  reserved : ∀ a ∈ s.attempts.rows, a.requestedBy = .auto → a.id ∈ cleared → a.deliveryReservedAt.isSome
  /-- A pull request is known of no attempt that is still active. -/
  numbered : ∀ a ∈ s.attempts.rows, a.prNumber.isSome → a.status ≠ .active
  pending : ∀ f ∈ s.prEvents.rows, f.processedAt = none →
    ∃ a ∈ s.attempts.rows, a.id = f.attemptID ∧ a.status ≠ .active
  capped : autoSlots s projectID ≤ cap

section Steps

variable {projectID : UUID} {cap : Nat} {s s' : TicketStore} {cleared : List UUID}

theorem Capped.change (capped : Capped projectID cap s cleared) {f : FixAttempt → FixAttempt}
    (rows : s'.attempts.rows = s.attempts.rows.map f)
    (same : ∀ a ∈ s.attempts.rows, (f a).id = a.id ∧ (f a).ticketID = a.ticketID ∧
      (f a).requestedBy = a.requestedBy ∧ (f a).deliveryReservedAt = a.deliveryReservedAt)
    (still : ∀ a ∈ s.attempts.rows, (f a).status = .active → f a = a)
    (slot : ∀ a ∈ s.attempts.rows, AutoSlot (f a) → AutoSlot a)
    (facts : ∀ e ∈ s'.prEvents.rows, e.processedAt = none → e ∈ s.prEvents.rows)
    (placed : Placed s s') : Capped projectID cap s' cleared := by
  have origin : ∀ a' ∈ s'.attempts.rows, ∃ a ∈ s.attempts.rows, f a = a' := by
    intro a' member
    rw [rows] at member
    exact List.mem_map.mp member
  have image : ∀ a ∈ s.attempts.rows, f a ∈ s'.attempts.rows :=
    fun a row => rows ▸ List.mem_map_of_mem row
  refine ⟨?_, ?_, ?_, ?_, ?_, ?_⟩
  · intro a' member
    obtain ⟨a, row, rfl⟩ := origin a' member
    obtain ⟨t, rowT, own⟩ := capped.tickets a row
    obtain ⟨t', rowT', place⟩ := placed t rowT
    exact ⟨t', rowT', place.1.trans (own.trans (same a row).2.1.symm)⟩
  · intro id member
    obtain ⟨a, row, rfl⟩ := capped.known id member
    exact ⟨f a, image a row, (same a row).1⟩
  · intro a' member auto listed
    obtain ⟨a, row, rfl⟩ := origin a' member
    obtain ⟨id, -, requested, kept⟩ := same a row
    rw [kept]
    exact capped.reserved a row (requested ▸ auto) (id ▸ listed)
  · intro a' member numbered active
    obtain ⟨a, row, rfl⟩ := origin a' member
    rw [still a row active] at numbered active
    exact capped.numbered a row numbered active
  · intro e member waiting
    obtain ⟨a, row, own, past⟩ := capped.pending e (facts e member waiting) waiting
    refine ⟨f a, image a row, (same a row).1.trans own, fun active => past ?_⟩
    rw [← still a row active]
    exact active
  · refine Nat.le_trans ?_ capped.capped
    rw [autoSlots_eq, autoSlots_eq, rows, List.countP_map]
    refine List.countP_mono_left fun a row taken => ?_
    simp only [Function.comp, decide_eq_true_eq] at taken ⊢
    obtain ⟨t, rowT, own⟩ := capped.tickets a row
    refine ⟨slot a row taken.1, ?_⟩
    rw [← own, ← placed.getTicket_isSome rowT, own, ← (same a row).2.1]
    exact taken.2

theorem Capped.rests (capped : Capped projectID cap s cleared) (rests : Rests s s') :
    Capped projectID cap s' cleared := by
  obtain ⟨f, rows, ends_⟩ := rests.ended
  refine capped.change rows ?_ ?_ ?_ ?_ rests.placed
  · intro a row
    rcases ends_ a row with same | ⟨status, -, ended⟩
    · rw [same]
      exact ⟨rfl, rfl, rfl, rfl⟩
    · rw [ended]
      exact ⟨rfl, rfl, rfl, rfl⟩
  · intro a row active
    rcases ends_ a row with same | ⟨status, past, ended⟩
    · exact same
    · rw [ended] at active
      exact absurd active past.1
  · intro a row taken
    rcases ends_ a row with same | ⟨status, past, ended⟩
    · rwa [same] at taken
    · rw [ended] at taken
      rcases taken.2 with opened | ⟨active, -⟩
      · exact absurd opened past.2
      · exact absurd active past.1
  · intro e member _
    exact rests.facts ▸ member

theorem Capped.admits (capped : Capped projectID cap s cleared) {a : FixAttempt}
    (admits : Admits s s' a) : Capped projectID cap s' cleared := by
  have mem : ∀ b, b ∈ s'.attempts.rows ↔ b = a ∨ b ∈ s.attempts.rows :=
    fun b => Table.mem_insert? admits.inserted
  obtain ⟨fresh, rows⟩ := Table.insert?_spec admits.inserted
  refine ⟨?_, ?_, ?_, ?_, ?_, ?_⟩
  · intro b member
    rw [admits.tickets]
    rcases (mem b).mp member with rfl | old
    · exact admits.ticket
    · exact capped.tickets b old
  · intro id listed
    obtain ⟨b, row, own⟩ := capped.known id listed
    exact ⟨b, (mem b).mpr (Or.inr row), own⟩
  · intro b member auto listed
    rcases (mem b).mp member with rfl | old
    · -- a new attempt was cleared by nobody
      obtain ⟨c, row, own⟩ := capped.known b.id listed
      exact absurd own ((s.attempts.find?_eq_none_iff b.id).mp fresh c row)
    · exact capped.reserved b old auto listed
  · intro b member numbered
    rcases (mem b).mp member with rfl | old
    · rw [admits.unnumbered] at numbered
      cases numbered
    · exact capped.numbered b old numbered
  · intro e member waiting
    rw [admits.facts] at member
    obtain ⟨b, row, own, past⟩ := capped.pending e member waiting
    exact ⟨b, (mem b).mpr (Or.inr row), own, past⟩
  · have free : ¬AutoSlot a := by simp [AutoSlot, TakesSlot, admits.active, admits.unreserved]
    have same : ∀ id, s'.getTicket projectID id = s.getTicket projectID id := by
      simp [TicketStore.getTicket, admits.tickets]
    rw [autoSlots_eq, rows, List.countP_cons]
    simp only [same, free, false_and, decide_false, Bool.false_eq_true, if_false, Nat.add_zero]
    rw [← autoSlots_eq]
    exact capped.capped

variable {now clock clock' : Timestamp} {job : Job}

theorem Capped.assertFixAttemptCurrent (capped : Capped projectID cap s cleared) {delivery : Bool}
    {maxOpenFixPrs : Nat} (constant : job.projectID = projectID → maxOpenFixPrs = cap)
    (done : Tickets.assertFixAttemptCurrent s job delivery maxOpenFixPrs now clock clock' = .ok s') :
    Capped projectID cap s' cleared ∧
      (delivery = true → ∀ id, job.fixAttemptID = some id → Capped projectID cap s' (id :: cleared)) := by
  obtain ⟨a, row, own, active, project, outcome⟩ := assertFixAttemptCurrent_effect done
  -- clearing an attempt that has its slot
  have clear : ∀ {s₁ : TicketStore}, Capped projectID cap s₁ cleared → ∀ b ∈ s₁.attempts.rows,
      b.id = a.id → (b.requestedBy = .auto → b.deliveryReservedAt.isSome) →
      Capped projectID cap s₁ (a.id :: cleared) := by
    intro s₁ kept b member id reserved
    refine ⟨kept.tickets, ?_, ?_, kept.numbered, kept.pending, kept.capped⟩
    · intro id' listed
      rcases List.mem_cons.mp listed with rfl | old
      · exact ⟨b, member, id⟩
      · exact kept.known id' old
    · intro c rowC auto listed
      rcases List.mem_cons.mp listed with same | old
      · obtain rfl := s₁.attempts.inj rowC member (same.trans id.symm)
        exact reserved auto
      · exact kept.reserved c rowC auto old
  have named : ∀ id, job.fixAttemptID = some id → id = a.id := by
    intro id same
    rw [own, Option.some.injEq] at same
    exact same.symm
  rcases outcome with ⟨rfl, reserved⟩ | ⟨room, rfl⟩
  · refine ⟨capped, fun delivers id same => ?_⟩
    rw [named id same]
    exact clear capped a row rfl (reserved delivers)
  · have mem := Table.mem_updateWhere s.attempts (fun b => b.id = a.id) (FixAttempt.reserve now)
      (fun _ => rfl)
    have kept : Capped projectID cap (s.updateAttempt a.id (FixAttempt.reserve now) fun _ => rfl)
        cleared := by
      refine ⟨?_, ?_, ?_, ?_, ?_, ?_⟩
      · intro b' member
        obtain ⟨b, rowB, rfl⟩ := (mem b').mp member
        obtain ⟨t, rowT, ticket⟩ := capped.tickets b rowB
        refine ⟨t, rowT, ticket.trans ?_⟩
        split <;> rfl
      · intro id listed
        obtain ⟨b, rowB, id'⟩ := capped.known id listed
        refine ⟨_, (mem _).mpr ⟨b, rowB, rfl⟩, ?_⟩
        split <;> exact id'
      · intro b' member
        obtain ⟨b, rowB, rfl⟩ := (mem b').mp member
        split
        · exact fun _ _ => rfl
        · exact capped.reserved b rowB
      · intro b' member
        obtain ⟨b, rowB, rfl⟩ := (mem b').mp member
        split <;> exact capped.numbered b rowB
      · intro e member waiting
        obtain ⟨b, rowB, id', past⟩ := capped.pending e member waiting
        refine ⟨_, (mem _).mpr ⟨b, rowB, rfl⟩, ?_⟩
        split <;> exact ⟨id', past⟩
      · by_cases here : job.projectID = projectID
        · obtain rfl := constant here
          rw [here] at room
          have fewer : autoSlots s projectID ≤ countAttempts s projectID (fun a => TakesSlot a) := by
            rw [autoSlots_eq, countAttempts, Table.select, ← List.countP_eq_length_filter]
            refine List.countP_mono_left fun b _ taken => ?_
            simp only [decide_eq_true_eq] at taken ⊢
            exact ⟨taken.1.2, taken.2⟩
          have more := s.attempts.countP_updateKey_le a.id (FixAttempt.reserve now) (fun _ => rfl)
            (fun b => AutoSlot b ∧ (s.getTicket projectID b.ticketID).isSome)
          rw [← autoSlots_eq] at more
          rw [autoSlots_eq]
          exact Nat.le_trans more (Nat.lt_of_le_of_lt fewer room)
        · -- the attempt is another project's
          refine Nat.le_trans ?_ capped.capped
          rw [autoSlots_eq, autoSlots_eq]
          simp only [TicketStore.updateAttempt, Table.updateKey, Table.updateWhere, List.countP_map]
          refine List.countP_mono_left fun b rowB taken => ?_
          simp only [Function.comp, decide_eq_true_eq] at taken ⊢
          by_cases same : b.id = a.id
          · obtain rfl := s.attempts.inj rowB row same
            rw [if_pos rfl] at taken
            obtain ⟨t, found⟩ := Option.isSome_iff_exists.mp project
            obtain ⟨t', found'⟩ := Option.isSome_iff_exists.mp taken.2
            obtain ⟨rowT, its⟩ := TicketStore.getTicket_eq_some_iff.mp found
            obtain ⟨rowT', its'⟩ := TicketStore.getTicket_eq_some_iff.mp found'
            have same' : some t = some t' := rowT.symm.trans rowT'
            cases same'
            exact absurd (its.symm.trans its') here
          · rw [if_neg same] at taken
            exact taken
    refine ⟨kept, fun _ id same => ?_⟩
    rw [named id same]
    refine clear kept (FixAttempt.reserve now a) ?_ rfl fun _ => rfl
    exact (mem _).mpr ⟨a, row, by simp⟩

variable {factID : UUID}

theorem Capped.applyPrEvent (capped : Capped projectID cap s cleared) {project : UUID} {e : PrEvent}
    {applied : Bool} (done : Tickets.applyPrEvent s project e factID now = .ok (s', applied))
    (ready : ∀ a ∈ s.attempts.rows, a.id = e.attemptID → e.event = .opened → a.requestedBy = .auto →
      a.status = .active → a.deliveryReservedAt.isSome) : Capped projectID cap s' cleared := by
  have facts := fun f => applyPrEvent_unprocessed done (f := f)
  rcases applyPrEvent_effect done with ⟨rfl, -⟩ | ⟨t, prEvents, fact, -, -, -, -, current, -, written,
    placed⟩
  · exact capped
  · split at written
    · rename_i yes
      subst yes
      obtain ⟨⟨g, a⟩, found, applies⟩ := (Option.any_eq_true ..).mp current.symm
      obtain ⟨row, own⟩ : a ∈ s.attempts.rows ∧ a.id = e.attemptID := by
        obtain ⟨b, attempt, found⟩ := Option.bind_eq_some_iff.mp found
        obtain ⟨⟨h, u⟩, -, found⟩ := Option.bind_eq_some_iff.mp found
        obtain ⟨-, same⟩ := Option.ite_none_right_eq_some.mp found
        cases same
        exact ⟨Table.mem_of_find? attempt, Table.key_of_find? attempt⟩
      have outstanding := (of_decide_eq_true applies).2.2.2.2.2.1
      refine capped.change (f := fun b => if b.id = e.attemptID then b.applyEvent e else b) ?_ ?_ ?_ ?_
        facts placed
      · rw [written]
        simp [Table.updateKey, Table.updateWhere]
      · intro b _
        split <;> exact ⟨rfl, rfl, rfl, rfl⟩
      · intro b _ active
        split at active
        · cases kind : e.event <;> simp [FixAttempt.applyEvent, PREventKind.attemptStatus, kind] at active
        · rename_i other
          rw [if_neg other]
      · intro b rowB taken
        split at taken
        · rename_i here
          obtain rfl := s.attempts.inj rowB row (here.trans own.symm)
          have opened : e.event = .opened := by
            cases kind : e.event <;>
              simp [AutoSlot, TakesSlot, FixAttempt.applyEvent, PREventKind.attemptStatus, kind] at taken ⊢
          refine ⟨taken.1, ?_⟩
          rcases outstanding with active | already
          · exact Or.inr ⟨active, ready b row own opened taken.1 active⟩
          · exact Or.inl already
        · exact taken
    · split at written
      · refine capped.change (f := fun b => if b.id = e.attemptID then b.orphan e else b) ?_ ?_ ?_ ?_
          facts placed
        · rw [written]
          simp [Table.updateKey, Table.updateWhere]
        · intro b _
          split <;> exact ⟨rfl, rfl, rfl, rfl⟩
        · intro b _ active
          split at active
          · by_cases outstanding : b.Outstanding
            · simp [FixAttempt.orphan, outstanding] at active
            · exact absurd (Or.inl (by simpa [FixAttempt.orphan, outstanding] using active)) outstanding
          · rename_i other
            rw [if_neg other]
        · intro b _ taken
          split at taken
          · by_cases outstanding : b.Outstanding
            · simp [AutoSlot, TakesSlot, FixAttempt.orphan, outstanding] at taken
            · have past := outstanding
              simp only [FixAttempt.Outstanding, not_or] at past
              simp [AutoSlot, TakesSlot, FixAttempt.orphan, outstanding, past] at taken
          · exact taken
      · exact capped.change (f := id) (by rw [written, List.map_id]) (fun _ _ => ⟨rfl, rfl, rfl, rfl⟩)
          (fun _ _ _ => rfl) (fun _ _ taken => taken) facts placed

theorem Capped.recordAttemptPr (capped : Capped projectID cap s cleared) {repo url : String}
    {number : Nat} {occurredAt now clock clock' : Timestamp} {applied : Bool}
    (cleared' : job.fixAttemptID.all (· ∈ cleared))
    (done : Tickets.recordAttemptPr s job repo url number factID occurredAt now clock clock' =
      .ok (s', applied)) : Capped projectID cap s' cleared := by
  obtain ⟨ticketID, generation, attemptID, groupID, s₁, -, -, attempt, -, event, attempts, facts,
    tickets⟩ := recordAttemptPr_effect done
  have listed : attemptID ∈ cleared := by simpa [attempt] using cleared'
  have recorded := capped.applyPrEvent event fun a row own _ auto _ =>
    capped.reserved a row auto (own ▸ listed)
  exact recorded.rests (.of_eq attempts facts tickets)

theorem Capped.processTicketPRWebhook (capped : Capped projectID cap s cleared)
    {w : TicketPRWebhook} {factID jobID : UUID} {r : PRWebhookResult}
    (done : Tickets.processTicketPRWebhook s w factID jobID now = .ok (s', r)) :
    Capped projectID cap s' cleared := by
  rcases processTicketPRWebhook_effect done with rfl | ⟨a, found, inserted, -, attempts, tickets⟩
  · exact capped
  · obtain ⟨row, -, number⟩ := attemptOf_spec found
    have slots : autoSlots s' projectID = autoSlots s projectID := by
      simp [autoSlots_eq, TicketStore.getTicket, attempts, tickets]
    refine ⟨?_, ?_, ?_, ?_, ?_, slots ▸ capped.capped⟩
    · rw [attempts, tickets]
      exact capped.tickets
    · rw [attempts]
      exact capped.known
    · rw [attempts]
      exact capped.reserved
    · rw [attempts]
      exact capped.numbered
    · intro f member waiting
      rw [attempts]
      rcases (Table.mem_insert? inserted).mp member with rfl | old
      · exact ⟨a, row, rfl, capped.numbered a row (by simp [number])⟩
      · exact capped.pending f old waiting

theorem Capped.processPrEventJob (capped : Capped projectID cap s cleared)
    (done : Tickets.processPrEventJob s job factID now clock clock' = .ok s') :
    Capped projectID cap s' cleared := by
  rcases processPrEventJob_effect done with rfl | ⟨f, member, applied, event⟩
  · exact capped
  · cases processed : f.processedAt with
    | none =>
      -- a pull request is known of the attempt, so it is not active
      obtain ⟨a, row, own, past⟩ := capped.pending f member processed
      refine capped.applyPrEvent event fun b rowB own' _ _ active => absurd active ?_
      rwa [s.attempts.inj rowB row (own'.trans own.symm)]
    | some at_ =>
      rcases applyPrEvent_effect event with ⟨rfl, -⟩ | ⟨t, prEvents, fact, -, recorded, waiting, -⟩
      · exact capped
      · have known : s.prEvents.find? f.toPrEvent.deliveryID = some f := s.prEvents.find?_key member
        rcases recordFact_cases recorded with ⟨found, -⟩ | ⟨absent, -⟩
        · rw [known, Option.some.injEq] at found
          rw [← found, processed] at waiting
          cases waiting
        · rw [known] at absent
          cases absent

theorem Capped.committed {ε : Type} (capped : Capped projectID cap s cleared)
    {r : Except ε TicketStore} (kept : ∀ s', r = .ok s' → Capped projectID cap s' cleared) :
    Capped projectID cap (Transition.committed s r) cleared := by
  cases r with
  | ok s' => exact kept s' rfl
  | error _ => exact capped

theorem Capped.committed_fst {ε α : Type} (capped : Capped projectID cap s cleared)
    {r : Except ε (TicketStore × α)}
    (kept : ∀ s' x, r = .ok (s', x) → Capped projectID cap s' cleared) :
    Capped projectID cap (Transition.committed s (r.map Prod.fst)) cleared := by
  refine capped.committed fun s' done => ?_
  obtain ⟨⟨s₁, x⟩, result, rfl⟩ := Except.map_eq_ok_iff.mp done
  exact kept s₁ x result

end Steps

theorem Capped.step {projectID : UUID} {cap : Nat} {d : Deliveries}
    (capped : Capped projectID cap d.store d.cleared) {a : Action} (delivers : Delivers projectID cap d a) :
    Capped projectID cap (deliveries.step d a).store (deliveries.step d a).cleared := by
  obtain ⟨s, cleared⟩ := d
  by_cases fixes : a.Fixes
  · cases a with
    | requestTicketFix =>
      refine capped.committed fun s' done => ?_
      obtain ⟨a, admits⟩ := requestTicketFix_admits done
      exact capped.admits admits
    | requestFix =>
      refine capped.committed_fst fun s' r done => ?_
      rcases requestFix_admits done with rfl | ⟨a, admits⟩
      · exact capped
      · exact capped.admits admits
    | applyPrEvent =>
      exact capped.committed_fst fun s' r done => capped.applyPrEvent done fun a row own opened auto _ =>
        capped.reserved a row auto (own ▸ delivers opened)
    | assertFixAttemptCurrent job delivery maxOpenFixPrs now clock clock' =>
      dsimp only [deliveries, Tickets.step]
      cases done : Tickets.assertFixAttemptCurrent s job delivery maxOpenFixPrs now clock clock' with
      | error _ => cases delivery <;> simpa [clears, done, Transition.committed] using capped
      | ok s' =>
        obtain ⟨kept, cleared'⟩ := capped.assertFixAttemptCurrent delivers done
        cases delivery with
        | false => simpa [clears, Transition.committed] using kept
        | true =>
          cases own : job.fixAttemptID with
          | none => simpa [clears, done, own, Transition.committed] using kept
          | some id => simpa [clears, done, own, Transition.committed] using cleared' rfl id own
    | recordAttemptPr =>
      exact capped.committed_fst fun s' r done => capped.recordAttemptPr delivers done
    | processTicketPRWebhook =>
      exact capped.committed_fst fun s' r done => capped.processTicketPRWebhook done
    | processPrEventJob => exact capped.committed fun s' done => capped.processPrEventJob done
    | _ => cases fixes
  · have none : clears s a = none := by
      cases a <;> first | rfl | exact absurd trivial fixes
    simpa [deliveries, none] using capped.rests (rests_step s fixes)

section Example

theorem unique_requestedChecks :
    (([⟨10, "a", 20, .confirmed⟩, ⟨10, "b", 20, .confirmed⟩, ⟨10, "c", 20, .confirmed⟩] :
      List Check).map Check.key).Nodup := by decide

theorem unique_requestedBatch :
    (([⟨30, 10, .finalized⟩] : List ConfirmBatch).map ConfirmBatch.id).Nodup := by decide

/-- A ticket of three recordings is published as issue 100 and diagnosed, and its fix is
requested automatically; a worker claims the job. -/
def requestedRun : List Action :=
  let sessions := ["a", "b", "c"]
  sessions.map (fun r => Action.session ⟨r, 2, none, 0⟩) ++
    sessions.map (fun r => Action.signal ⟨r, r, 2⟩) ++
    sessions.map (fun r => Action.matchObservation 1 2 r r 0 false
      (if r = "a" then .create 10 .defect else .known 10 .strong) 0 0) ++
    ([.confirm 10 ⟨0, 0, 0, false, false⟩
      ⟨[⟨10, "a", 20, .confirmed⟩, ⟨10, "b", 20, .confirmed⟩, ⟨10, "c", 20, .confirmed⟩],
        unique_requestedChecks⟩
      ⟨[⟨20, 30, 10, "a", ["a"], "", none⟩], by decide⟩ ⟨[⟨30, 10, .finalized⟩], unique_requestedBatch⟩,
    .setAutonomy 1 .autoFix,
    .activateGeneration (FrictionTicket.new 10 1 2 .defect) 5 100 200 0,
    .investigate 100 ⟨some .done, 1, some 0, some ["a"], some "the total is unset", 1, 0⟩
      (some ⟨601, 100, none, .codeFix,
        some (.object [("agentTaskBrief", .string "set the total first")]), 0⟩),
    .requestFix 1 10 1 .auto none 1 701 801 0,
    .queue (.claimJob "w" 1000 {} [200] 0)] : List Action)

def requestedJob : Job :=
  Jobs.claim "w" 1000 0 (Job.new 801 1 .fix
    { errorGroupID := some 100
      ticketID := some 10
      publicationGeneration := some 1
      fixAttemptID := some 701 } 0 0)

def deliveredRun : List Action :=
  requestedRun ++ ([.assertFixAttemptCurrent requestedJob true 1 0 0 0,
    .recordAttemptPr requestedJob "o/r" "pull/7" 7 901 0 0 0 0] : List Action)

end Example

end Opslane.Tickets
