import Opslane.Delivery.CrashRecovery
import Opslane.Delivery.PRWebhook

/-!
# Delivery reservations

`reserveDelivery`, `recordDeliveryPushed` and `finalizeDelivery` of
`packages/worker/src/db.ts` and the webhooks that close a reservation, over the queue and
the issues of one project. A reservation is the row of an issue: it outlives the pull
request it was made for, and the next delivery of the issue finds it.

`reserveDelivery` counts the open drafts and inserts its row under the lock of the
project's row, which no other statement here takes. So it is two steps: up to the count
(`admitDelivery`), and the insert with its commit (`insertReservation`).
-/

namespace Opslane.Delivery

open Jobs
open Transition (committed committed_eq)

/-- The columns of `delivery_reservations` that no webhook reads. -/
structure DeliveryIntent where
  errorGroupID : UUID
  operationKey : String
  candidateDiff : String
  deriving DecidableEq

structure ReserveInput where
  operationKey : String
  branchName : String
  posture : Posture
  candidateDiff : String
  deriving DecidableEq

/-- A transaction between its count and its insert; it holds the project's lock. `ticket`
says that its job belongs to a ticket. -/
structure Admission where
  lease : JobLease
  groupID : UUID
  input : ReserveInput
  ticket : Bool
  deriving DecidableEq

structure Reserving extends Recovery where
  draftPRCap : Nat
  pr : PRTables
  intents : Table DeliveryIntent.errorGroupID
  admitting : Option Admission

/-- A project that has delivered nothing. -/
def Reserving.start (projectID : UUID) (jobs : JobTable) (groups : Table ErrorGroup.id)
    (draftPRCap : Nat) (githubRepo : String) (installationID : Option Nat) : Reserving where
  toRecovery := .start projectID jobs groups
  draftPRCap
  pr := ⟨githubRepo, installationID, Table.empty, Table.empty, [], []⟩
  intents := Table.empty
  admitting := none

/-- The issue exists and carries no ticket. -/
def NonTicket (groups : Table ErrorGroup.id) (groupID : UUID) : Prop :=
  (groups.find? groupID).map ErrorGroup.ticketID = some none
  deriving Decidable

/-- The issue carries a ticket. -/
def OfTicket (groups : Table ErrorGroup.id) (groupID : UUID) : Prop :=
  ((groups.find? groupID).bind ErrorGroup.ticketID).isSome

variable {groupID : UUID}

theorem OfTicket.not_nonTicket {groups : Table ErrorGroup.id} (ticket : OfTicket groups groupID) :
    ¬NonTicket groups groupID := by
  intro non
  obtain ⟨g, found, none⟩ := Option.map_eq_some_iff.mp non
  rw [OfTicket, found, Option.bind_some, none] at ticket
  cases ticket

/-- A draft that counts toward the cap. -/
def OpenDraft (groups : Table ErrorGroup.id) (r : DeliveryReservation) : Prop :=
  r.posture = .draft ∧ NonTicket groups r.errorGroupID ∧
    (r.state = .reserved ∨ r.state = .pushed ∨ r.state = .opened)
  deriving Decidable

/-- `SELECT COUNT(*)` of the cap check. -/
def openDrafts (groups : Table ErrorGroup.id)
    (reservations : Table DeliveryReservation.errorGroupID) : Nat :=
  reservations.rows.countP fun r => OpenDraft groups r

/-- The operation key of a ticket's attempt, or of an issue. -/
def operationKey (id : UUID) : String := "fix:" ++ toString id

/-- The job under this lease, when it belongs to a ticket. -/
def ticketJob (s : Recovery) (lease : JobLease) : Option Job :=
  (s.jobs.find? lease.id).filter fun j => j.ticketID.isSome

/-- The job no longer speaks for its ticket: the issue is not its ticket's, or the key is not its
attempt's. `current` is what the ticket tables say of its publication and its attempt. -/
def StaleTicketJob (s : Recovery) (groupID : UUID) (input : ReserveInput) (current : Bool) (j : Job) :
    Prop :=
  ¬(current ∧ (s.groups.find? groupID).map ErrorGroup.ticketID = some j.ticketID ∧
    j.fixAttemptID.map operationKey = some input.operationKey)
  deriving Decidable

namespace Reserving

/-- The issue's row, both halves of it. -/
def reservation? (s : Reserving) (groupID : UUID) : Option (DeliveryReservation × DeliveryIntent) :=
  (s.pr.reservations.find? groupID).bind fun r => (s.intents.find? groupID).map (r, ·)

/-- `DELETE ... WHERE error_group_id = groupID AND operation_key <> key`. -/
def deleteOthers (s : Reserving) (groupID : UUID) (key : String) : Reserving :=
  if (s.intents.find? groupID).any fun i => i.operationKey ≠ key then
    { s with
      pr := { s.pr with
        reservations := s.pr.reservations.deleteWhere fun r => r.errorGroupID = groupID }
      intents := s.intents.deleteWhere fun i => i.errorGroupID = groupID }
  else s

/-- `UPDATE delivery_reservations ... WHERE error_group_id = groupID`. -/
def updateReservation (s : Reserving) (groupID : UUID) (f : DeliveryReservation → DeliveryReservation)
    (frame : ∀ r, (f r).errorGroupID = r.errorGroupID) : Reserving :=
  { s with pr := { s.pr with reservations := s.pr.reservations.updateKey groupID f frame } }

end Reserving

inductive ReserveResult where
  | capReached
  | existing (row : DeliveryReservation) (intent : DeliveryIntent)
  /-- The row may be inserted. -/
  | admitted
  /-- Another transaction holds the project's lock. -/
  | waits
  deriving DecidableEq

/-- `reserveDelivery` up to its count. -/
def admitDelivery (s : Reserving) (groupID : UUID) (input : ReserveInput) (lease : JobLease)
    (current : Bool) (clock : Timestamp) : Except String (Reserving × ReserveResult) :=
  if ¬OwnsFix s.toRecovery lease groupID clock then
    .error ("Job lease lost for " ++ toString lease.id)
  else if (ticketJob s.toRecovery lease).any fun j =>
      StaleTicketJob s.toRecovery groupID input current j then
    .error "Stale ticket delivery reservation"
  else
    let ticket := (ticketJob s.toRecovery lease).isSome
    -- a ticket's job locks the project first, any other only to insert
    if ticket ∧ s.admitting.isSome then .ok (s, .waits)
    else
      let cleared := if ticket then s.deleteOthers groupID input.operationKey else s
      match cleared.reservation? groupID with
      | some (row, intent) => .ok (cleared, .existing row intent)
      | none =>
        if s.admitting.isSome then .ok (s, .waits)
        else if input.posture = .draft ∧ ¬ticket ∧
            s.draftPRCap ≤ openDrafts s.groups s.pr.reservations then .ok (s, .capReached)
        else .ok ({ s with admitting := some ⟨lease, groupID, input, ticket⟩ }, .admitted)

/-- The row an admission inserts. -/
def Admission.reservation (a : Admission) : DeliveryReservation where
  errorGroupID := a.groupID
  branchName := a.input.branchName
  posture := a.input.posture
  state := .reserved
  headSha := none
  prURL := none
  prNumber := none

def Admission.intent (a : Admission) : DeliveryIntent :=
  ⟨a.groupID, a.input.operationKey, a.input.candidateDiff⟩

/-- The insert of `reserveDelivery`, under the foreign key and the unique indexes on a
project's operation keys and branches. -/
def insertReservation (s : Reserving) (a : Admission) : Except String Reserving := do
  let cleared := if a.ticket then s.deleteOthers a.groupID a.input.operationKey else s
  let _ ← (s.groups.find? a.groupID).orError "insert violates foreign key constraint"
  if cleared.intents.any (fun i => i.operationKey = a.input.operationKey) ∨
      cleared.pr.reservations.any (fun r => r.branchName = a.input.branchName) then
    .error "duplicate key value violates unique constraint"
  else do
    let reservations ← (cleared.pr.reservations.insert? a.reservation).orError
      "duplicate key value violates unique constraint"
    let intents ← (cleared.intents.insert? a.intent).orError
      "duplicate key value violates unique constraint"
    .ok { cleared with pr := { cleared.pr with reservations }, intents, admitting := none }

def pushed (headSha : String) (r : DeliveryReservation) : DeliveryReservation :=
  { r with state := .pushed, headSha := some headSha }

theorem pushed_errorGroupID (headSha : String) (r : DeliveryReservation) :
    (pushed headSha r).errorGroupID = r.errorGroupID := rfl

def recordDeliveryPushed (s : Reserving) (groupID : UUID) (headSha : String) (lease : JobLease)
    (now : Timestamp) : Except String Reserving :=
  if OwnsFix s.toRecovery lease groupID now ∧ (s.pr.reservations.find? groupID).isSome then
    .ok (s.updateReservation groupID (pushed headSha) (pushed_errorGroupID headSha))
  else .error ("Job lease lost for " ++ toString lease.id)

def opened (input : DeliveryInput) (r : DeliveryReservation) : DeliveryReservation :=
  { r with
    state := .opened
    headSha := some input.headSha
    prURL := some input.prURL
    prNumber := some input.prNumber }

theorem opened_errorGroupID (input : DeliveryInput) (r : DeliveryReservation) :
    (opened input r).errorGroupID = r.errorGroupID := rfl

namespace Reserving

/-- Records the pull request of the issue and of its reservation. -/
def finalizeDelivery (s : Reserving) (groupID : UUID) (input : DeliveryInput) (lease : JobLease)
    (watch : Watch) (now : Timestamp) : Except String Reserving := do
  let after ← Delivery.finalizeDelivery s.toRecovery groupID input lease watch now
  .ok ({ s with toRecovery := after }.updateReservation groupID (opened input)
    (opened_errorGroupID input))

/-- The issue whose draft this webhook ends. -/
def endsDraft (s : Reserving) (w : PRWebhook) : Option UUID :=
  if (seenReceipt s.pr w.deliveryID).isSome then none
  else ((matchPR s.groups w.prNumber).filter fun g => g.status = .prDraft).map ErrorGroup.id

/-- `UPDATE error_group_jobs SET status = 'completed'` of a draft's live watcher. -/
def cancelWatcher (s : Reserving) (groupID : UUID) : JobTable :=
  s.jobs.updateWhere
    (fun j => j.errorGroupID = some groupID ∧ j.projectID = s.projectID ∧ j.jobType = .ciWatch ∧
      (j.status = .pending ∨ j.status = .claimed)) complete Jobs.complete_id

/-- The part of `ProcessPRWebhook` under the lock of the issue's row. The `score_sync`
jobs it enqueues stay in `pr`. -/
def applyPRWebhook (s : Reserving) (w : PRWebhook) (now : Timestamp) : Reserving :=
  let result := Delivery.applyPRWebhook s.groups s.pr w now
  { s with
    groups := result.1
    pr := result.2.1
    jobs := (s.endsDraft w).elim s.jobs s.cancelWatcher }

inductive Action where
  | queue (a : Jobs.Action)
  | terminateAbandoned (j : Job) (now : Timestamp)
  | failFix (groupID : UUID) (fields : StatusFields) (lease : JobLease) (now clock : Timestamp)
  | admitDelivery (groupID : UUID) (input : ReserveInput) (lease : JobLease) (current : Bool)
      (clock : Timestamp)
  | insertReservation
  | abortReservation
  | recordDeliveryPushed (groupID : UUID) (headSha : String) (lease : JobLease) (now : Timestamp)
  | finalizeDelivery (groupID : UUID) (input : DeliveryInput) (lease : JobLease) (watch : Watch)
      (now : Timestamp)
  | applyPRWebhook (w : PRWebhook) (now : Timestamp)
  /-- Another statement opens an issue, or writes the row of one. -/
  | openIssue (g : ErrorGroup)
  | writeIssue (groupID : UUID) (row : ErrorGroup)

/-- Any write of an issue's row; its id and its ticket are never written. -/
def overwrite (row g : ErrorGroup) : ErrorGroup := { row with id := g.id, ticketID := g.ticketID }

theorem overwrite_id (row g : ErrorGroup) : (overwrite row g).id = g.id := rfl

/-- The insert commits or rolls back; either way the project's lock is free. -/
def endReservation (s : Reserving) : Reserving :=
  match s.admitting with
  | none => s
  | some a =>
    match insertReservation s a with
    | .ok s' => s'
    | .error _ => { s with admitting := none }

def step (s : Reserving) : Action → Reserving
  | .queue a => { s with toRecovery := Recovery.step s.toRecovery (.queue a) }
  | .terminateAbandoned j now =>
    { s with toRecovery := Recovery.step s.toRecovery (.terminateAbandoned j now) }
  | .failFix groupID fields lease now clock =>
    { s with toRecovery := Recovery.step s.toRecovery (.failFix groupID fields lease now clock) }
  | .admitDelivery groupID input lease current clock =>
    committed s ((Delivery.admitDelivery s groupID input lease current clock).map Prod.fst)
  | .insertReservation => s.endReservation
  | .abortReservation => { s with admitting := none }
  | .recordDeliveryPushed groupID headSha lease now =>
    committed s (Delivery.recordDeliveryPushed s groupID headSha lease now)
  | .finalizeDelivery groupID input lease watch now =>
    committed s (finalizeDelivery s groupID input lease watch now)
  | .applyPRWebhook w now => s.applyPRWebhook w now
  | .openIssue g => { s with groups := s.groups.insertIgnore g }
  | .writeIssue groupID row =>
    { s with groups := s.groups.updateKey groupID (overwrite row) (overwrite_id row) }

def machine : Transition.Machine Reserving Action := ⟨step⟩

/-- Issues stay, under their tickets. -/
def KeepsTickets (groups groups' : Table ErrorGroup.id) : Prop :=
  ∀ id g, groups.find? id = some g → ∃ g', groups'.find? id = some g' ∧ g'.ticketID = g.ticketID

theorem KeepsTickets.refl (groups : Table ErrorGroup.id) : KeepsTickets groups groups :=
  fun _ g found => ⟨g, found, rfl⟩

theorem keepsTickets_updateWhere (groups : Table ErrorGroup.id) (p : ErrorGroup → Bool)
    {f : ErrorGroup → ErrorGroup} (frame : ∀ g, (f g).id = g.id)
    (same : ∀ g, (f g).ticketID = g.ticketID) :
    KeepsTickets groups (groups.updateWhere p f frame) := by
  intro id g found
  refine ⟨_, by rw [Table.find?_updateWhere, found, Option.map_some], ?_⟩
  split
  · exact same g
  · rfl

theorem KeepsTickets.ofTicket {groups groups' : Table ErrorGroup.id}
    (keeps : KeepsTickets groups groups') (ticket : OfTicket groups groupID) :
    OfTicket groups' groupID := by
  obtain ⟨t, own⟩ := Option.isSome_iff_exists.mp ticket
  obtain ⟨g, found, ticketID⟩ := Option.bind_eq_some_iff.mp own
  obtain ⟨g', found', same⟩ := keeps groupID g found
  rw [OfTicket, found', Option.bind_some, same, ticketID]
  rfl

theorem KeepsTickets.nonTicket_iff {groups groups' : Table ErrorGroup.id}
    (keeps : KeepsTickets groups groups') (present : (groups.find? groupID).isSome) :
    NonTicket groups' groupID ↔ NonTicket groups groupID := by
  obtain ⟨g, found⟩ := Option.isSome_iff_exists.mp present
  obtain ⟨g', found', same⟩ := keeps groupID g found
  simp only [NonTicket, found, found', Option.map_some, same]

/-- The action takes effect on the reservation of this issue as a delivery under way. -/
def Delivers (s : Reserving) (groupID : UUID) : Action → Prop
  | .recordDeliveryPushed target _ lease now =>
    groupID = target ∧ OwnsFix s.toRecovery lease target now
  | .finalizeDelivery target _ lease _ now =>
    groupID = target ∧ OwnsFix s.toRecovery lease target now ∧
      (s.groups.find? target).any fun g => Deliverable g
  | _ => False

instance (s : Reserving) (groupID : UUID) (a : Action) : Decidable (Delivers s groupID a) := by
  cases a <;> unfold Delivers <;> infer_instance

/-- What a step does to the reservations, their intents and the transaction that inserts. -/
inductive Moves (s : Reserving) (a : Action) (s' : Reserving) : Prop where
  | keeps (reservations : s'.pr.reservations = s.pr.reservations) (intents : s'.intents = s.intents)
      (admitting : s'.admitting = s.admitting ∨ s'.admitting = none)
  | clears (groupID : UUID) (key : String) (ticket : OfTicket s.groups groupID)
      (after : s' = s.deleteOthers groupID key)
  | admits (admission : Admission) (idle : s.admitting = none)
      (ticket : admission.ticket → OfTicket s.groups admission.groupID)
      (room : admission.ticket = false → admission.input.posture = .draft →
        openDrafts s.groups s.pr.reservations < s.draftPRCap)
      (after : s' = { s with admitting := some admission })
  | inserts (admission : Admission) (admitted : s.admitting = some admission)
      (inserted : Delivery.insertReservation s admission = .ok s')
  | closes (groupID : UUID)
      (reservations : s'.pr.reservations =
        s.pr.reservations.updateKey groupID (fun r => { r with state := .closed }) fun _ => rfl)
      (intents : s'.intents = s.intents) (admitting : s'.admitting = s.admitting)
  | delivers (groupID : UUID) (f : DeliveryReservation → DeliveryReservation)
      (frame : ∀ r, (f r).errorGroupID = r.errorGroupID) (delivers : Delivers s groupID a)
      (posture : ∀ r, (f r).posture = r.posture)
      (reservations : s'.pr.reservations = s.pr.reservations.updateKey groupID f frame)
      (intents : s'.intents = s.intents) (admitting : s'.admitting = s.admitting)

theorem deleteOthers_frame (s : Reserving) (groupID : UUID) (key : String) :
    (s.deleteOthers groupID key).toRecovery = s.toRecovery ∧
      (s.deleteOthers groupID key).draftPRCap = s.draftPRCap ∧
      (s.deleteOthers groupID key).admitting = s.admitting := by
  unfold deleteOthers
  split <;> exact ⟨rfl, rfl, rfl⟩

variable {s s' : Reserving}

theorem insertReservation_frame {a : Admission}
    (success : Delivery.insertReservation s a = .ok s') :
    s'.toRecovery = s.toRecovery ∧ s'.draftPRCap = s.draftPRCap ∧ s'.admitting = none := by
  obtain ⟨_, -, rest⟩ := Except.of_bind success
  obtain ⟨-, rest⟩ := Except.of_guard rest
  obtain ⟨_, -, rest⟩ := Except.of_bind rest
  obtain ⟨_, -, rest⟩ := Except.of_bind rest
  cases rest
  obtain ⟨recovery, cap, -⟩ := deleteOthers_frame s a.groupID a.input.operationKey
  split
  · exact ⟨recovery, cap, rfl⟩
  · exact ⟨rfl, rfl, rfl⟩

variable {input : ReserveInput}

theorem ofTicket_of_ticketJob {lease : JobLease} {current : Bool}
    (fresh : ¬(ticketJob s.toRecovery lease).any fun j =>
      StaleTicketJob s.toRecovery groupID input current j)
    (ticket : (ticketJob s.toRecovery lease).isSome) : OfTicket s.groups groupID := by
  obtain ⟨j, job⟩ := Option.isSome_iff_exists.mp ticket
  obtain ⟨-, own⟩ := Option.filter_eq_some_iff.mp job
  rw [job, Option.any_some, decide_eq_true_eq, StaleTicketJob, not_not] at fresh
  obtain ⟨g, found, same⟩ := Option.map_eq_some_iff.mp fresh.2.1
  rw [OfTicket, found, Option.bind_some, same]
  exact own

theorem admitDelivery_cases {lease : JobLease} {current : Bool} {clock : Timestamp}
    {result : ReserveResult}
    (success : Delivery.admitDelivery s groupID input lease current clock = .ok (s', result)) :
    s' = s ∨
    (OfTicket s.groups groupID ∧ s' = s.deleteOthers groupID input.operationKey) ∨
    ∃ admission : Admission, s.admitting = none ∧
      (admission.ticket → OfTicket s.groups admission.groupID) ∧
      (admission.ticket = false → admission.input.posture = .draft →
        openDrafts s.groups s.pr.reservations < s.draftPRCap) ∧
      s' = { s with admitting := some admission } := by
  obtain ⟨-, success⟩ := Except.of_guard success
  obtain ⟨fresh, success⟩ := Except.of_guard success
  dsimp only at success
  split at success
  · cases success
    exact Or.inl rfl
  · split at success
    · cases success
      split
      · rename_i ticket
        exact Or.inr (Or.inl ⟨ofTicket_of_ticketJob fresh ticket, rfl⟩)
      · exact Or.inl rfl
    · split at success
      · cases success
        exact Or.inl rfl
      · rename_i idle
        split at success
        · cases success
          exact Or.inl rfl
        · rename_i room
          cases success
          refine Or.inr (Or.inr ⟨⟨lease, groupID, input, (ticketJob s.toRecovery lease).isSome⟩,
            Option.not_isSome_iff_eq_none.mp idle, ofTicket_of_ticketJob fresh,
            fun own draft => ?_, rfl⟩)
          by_contra full
          exact room ⟨draft, by simpa using own, Nat.le_of_not_lt full⟩

theorem finalizeDelivery_spec {input : DeliveryInput} {lease : JobLease} {watch : Watch}
    {now : Timestamp} (success : s.finalizeDelivery groupID input lease watch now = .ok s') :
    ∃ after, Delivery.finalizeDelivery s.toRecovery groupID input lease watch now = .ok after ∧
      s' = { s with toRecovery := after }.updateReservation groupID (opened input)
        (opened_errorGroupID input) := by
  obtain ⟨after, finalized, rest⟩ := Except.of_bind success
  cases rest
  exact ⟨after, finalized, rfl⟩

theorem applyPRWebhook_reservations (groups : Table ErrorGroup.id) (pr : PRTables) (w : PRWebhook)
    (now : Timestamp) :
    (Delivery.applyPRWebhook groups pr w now).2.1.reservations = pr.reservations ∨
      ∃ groupID, (Delivery.applyPRWebhook groups pr w now).2.1.reservations =
        pr.reservations.updateKey groupID (fun r => { r with state := .closed }) fun _ => rfl := by
  have sync : ∀ (pr : PRTables) groupID fixJobID outcome,
      (enqueueScoreSync pr groupID fixJobID outcome w).reservations = pr.reservations := by
    intro pr groupID fixJobID outcome
    unfold enqueueScoreSync
    split <;> rfl
  unfold Delivery.applyPRWebhook
  split
  · left
    split
    · rfl
    · split
      · unfold recoverReopenedMerge
        split
        · rfl
        · split
          · rfl
          · exact sync _ _ _ _
      · rfl
  · rename_i g found
    split
    · exact Or.inl rfl
    · right
      refine ⟨g.id, ?_⟩
      dsimp only [closeDelivery]
      rw [sync]

theorem keepsTickets_applyPRWebhook (groups : Table ErrorGroup.id) (pr : PRTables) (w : PRWebhook)
    (now : Timestamp) : KeepsTickets groups (Delivery.applyPRWebhook groups pr w now).1 := by
  have closed : ∀ g, (closeUnmerged now g).ticketID = g.ticketID := by
    intro g
    unfold closeUnmerged
    split <;> rfl
  intro id g found
  rcases applyPRWebhook_groups groups pr w now id with same | ⟨g', found', after⟩
  · exact ⟨g, same.trans found, rfl⟩
  · rw [found, Option.some.injEq] at found'
    subst found'
    rcases after with ⟨-, -, after⟩ | ⟨-, -, after⟩
    · exact ⟨_, after, closed g⟩
    · exact ⟨_, after, rfl⟩

theorem keepsTickets_recovery (s : Recovery) (a : Recovery.Action) :
    KeepsTickets s.groups (Recovery.step s a).groups := by
  cases a with
  | queue a => exact .refl _
  | terminateAbandoned j now =>
    rw [Recovery.step]
    unfold terminateAbandoned
    split
    · dsimp only
      split
      · exact .refl _
      · exact keepsTickets_updateWhere _ _ _ fun _ => rfl
    · exact .refl _
  | finalizeDelivery groupID input lease watch now =>
    rcases committed_eq s (Delivery.finalizeDelivery s groupID input lease watch now)
      with same | success
    · rw [Recovery.step, same]
      exact .refl _
    · obtain ⟨-, -, after⟩ := Delivery.finalizeDelivery_spec success
      rw [Recovery.step, after]
      exact keepsTickets_updateWhere _ _ (deliver_id input now) fun _ => rfl
  | failFix groupID fields lease now clock =>
    rcases committed_eq s (Delivery.failFix s groupID fields lease now clock) with same | success
    · rw [Recovery.step, same]
      exact .refl _
    · rw [Recovery.step]
      rcases failFix_spec success with after | ⟨-, -, after⟩
      · rw [after]
        exact .refl _
      · rw [after]
        exact keepsTickets_updateWhere _ _ (writeStatus_id .needsHuman fields now) fun _ => rfl

theorem step_moves (s : Reserving) (a : Action) :
    KeepsTickets s.groups (step s a).groups ∧ (step s a).draftPRCap = s.draftPRCap ∧
      Moves s a (step s a) := by
  have still : ∀ a, Moves s a s := fun a => .keeps rfl rfl (Or.inl rfl)
  cases a with
  | queue a => exact ⟨.refl _, rfl, .keeps rfl rfl (Or.inl rfl)⟩
  | terminateAbandoned j now =>
    exact ⟨keepsTickets_recovery _ _, rfl, .keeps rfl rfl (Or.inl rfl)⟩
  | failFix groupID fields lease now clock =>
    exact ⟨keepsTickets_recovery _ _, rfl, .keeps rfl rfl (Or.inl rfl)⟩
  | admitDelivery groupID input lease current clock =>
    rw [step]
    cases success : Delivery.admitDelivery s groupID input lease current clock with
    | error e => exact ⟨.refl _, rfl, still _⟩
    | ok pair =>
      obtain ⟨s', result⟩ := pair
      rw [Except.map, Transition.committed]
      rcases admitDelivery_cases success with same | ⟨ticket, after⟩ | ⟨admission, idle, ticket, room,
        after⟩
      · dsimp only
        rw [same]
        exact ⟨.refl _, rfl, still _⟩
      · obtain ⟨recovery, cap, -⟩ := deleteOthers_frame s groupID input.operationKey
        dsimp only
        refine ⟨?_, by rw [after, cap], .clears groupID input.operationKey ticket after⟩
        rw [after, recovery]
        exact .refl _
      · dsimp only
        rw [after]
        exact ⟨.refl _, rfl, .admits admission idle ticket room rfl⟩
  | insertReservation =>
    rw [step, endReservation]
    split
    · exact ⟨.refl _, rfl, still _⟩
    · rename_i admission admitted
      split
      · rename_i s' inserted
        obtain ⟨recovery, cap, -⟩ := insertReservation_frame inserted
        refine ⟨?_, cap, .inserts admission admitted inserted⟩
        rw [recovery]
        exact .refl _
      · exact ⟨.refl _, rfl, .keeps rfl rfl (Or.inr rfl)⟩
  | abortReservation => exact ⟨.refl _, rfl, .keeps rfl rfl (Or.inr rfl)⟩
  | recordDeliveryPushed groupID headSha lease now =>
    rw [step, Delivery.recordDeliveryPushed]
    split
    · rename_i owns
      exact ⟨.refl _, rfl, .delivers groupID (pushed headSha) (pushed_errorGroupID headSha)
        ⟨rfl, owns.1⟩ (fun _ => rfl) rfl rfl rfl⟩
    · exact ⟨.refl _, rfl, still _⟩
  | finalizeDelivery groupID input lease watch now =>
    rcases committed_eq s (finalizeDelivery s groupID input lease watch now) with same | success
    · rw [step, same]
      exact ⟨.refl _, rfl, still _⟩
    · obtain ⟨after, finalized, eq⟩ := finalizeDelivery_spec success
      obtain ⟨owns, ⟨g, found, deliverable⟩, rfl⟩ := Delivery.finalizeDelivery_spec finalized
      rw [step, eq]
      refine ⟨keepsTickets_updateWhere _ _ (deliver_id input now) fun _ => rfl, rfl,
        .delivers groupID (opened input) (opened_errorGroupID input) ⟨rfl, owns, ?_⟩ (fun _ => rfl)
          rfl rfl rfl⟩
      rw [found, Option.any_some, decide_eq_true_eq]
      exact deliverable
  | applyPRWebhook w now =>
    refine ⟨keepsTickets_applyPRWebhook _ _ _ _, rfl, ?_⟩
    rcases applyPRWebhook_reservations s.groups s.pr w now with same | ⟨groupID, closed⟩
    · exact .keeps same rfl (Or.inl rfl)
    · exact .closes groupID closed rfl rfl
  | openIssue g =>
    refine ⟨fun id g' found => ⟨g', ?_, rfl⟩, rfl, .keeps rfl rfl (Or.inl rfl)⟩
    rw [step, Table.find?_insertIgnore, found, Option.some_or]
  | writeIssue groupID row =>
    exact ⟨keepsTickets_updateWhere _ _ (overwrite_id row) fun _ => rfl, rfl,
      .keeps rfl rfl (Or.inl rfl)⟩

end Reserving

end Opslane.Delivery
