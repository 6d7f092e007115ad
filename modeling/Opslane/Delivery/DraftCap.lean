import Opslane.Delivery.Reservations

/-!
# The cap on draft pull requests

A reservation is counted against the project's cap when its row is inserted. The row of a
closed draft stays, and the next delivery of the issue finds it and opens it again without
a count.
-/

namespace Opslane.Delivery.Reserving

open Jobs

/-- The draft an admitted transaction is about to insert. -/
def admittedDrafts (s : Reserving) : Nat :=
  if s.admitting.any fun a => a.ticket = false ∧ a.input.posture = .draft then 1 else 0

/-- A delivery that opens the closed draft of an issue again finds room for it. -/
def HasRoom (s : Reserving) (a : Action) : Prop :=
  ∀ r ∈ s.pr.reservations.rows, r.posture = .draft → r.state = .closed →
    NonTicket s.groups r.errorGroupID → Delivers s r.errorGroupID a →
      openDrafts s.groups s.pr.reservations + s.admittedDrafts < s.draftPRCap
  deriving Decidable

/-- In every state reached the open drafts are within the cap. -/
def StaysWithinCap (s : Reserving) (actions : List Action) : Prop :=
  ∀ before after, actions = before ++ after →
    openDrafts (machine.run s before).groups (machine.run s before).pr.reservations ≤ s.draftPRCap

/-- What keeps the open drafts within the cap. -/
structure WithinCap (s : Reserving) : Prop where
  issues : ∀ r ∈ s.pr.reservations.rows, (s.groups.find? r.errorGroupID).isSome
  tickets : ∀ a, s.admitting = some a → a.ticket → OfTicket s.groups a.groupID
  capped : openDrafts s.groups s.pr.reservations + s.admittedDrafts ≤ s.draftPRCap

section Steps

variable {s s' : Reserving}

variable {groups groups' : Table ErrorGroup.id}

theorem openDrafts_updateWhere_le (keeps : KeepsTickets groups groups')
    (t : Table DeliveryReservation.errorGroupID)
    (present : ∀ r ∈ t.rows, (groups.find? r.errorGroupID).isSome) (p : DeliveryReservation → Bool)
    (f : DeliveryReservation → DeliveryReservation)
    (frame : ∀ r, (f r).errorGroupID = r.errorGroupID)
    (counted : ∀ r ∈ t.rows, p r → OpenDraft groups (f r) → OpenDraft groups r) :
    openDrafts groups' (t.updateWhere p f frame) ≤ openDrafts groups t := by
  rw [openDrafts, openDrafts, Table.updateWhere, List.countP_map]
  apply List.countP_mono_left
  intro r member draft
  simp only [Function.comp, decide_eq_true_eq] at draft ⊢
  split at draft
  · rename_i selected
    apply counted r member selected
    have own := (keeps.nonTicket_iff (present r member)).mp
    rw [← frame r] at own
    exact ⟨draft.1, own draft.2.1, draft.2.2⟩
  · exact ⟨draft.1, (keeps.nonTicket_iff (present r member)).mp draft.2.1, draft.2.2⟩

theorem deleteOthers_sublist (s : Reserving) (groupID : UUID) (key : String) :
    (s.deleteOthers groupID key).pr.reservations.rows.Sublist s.pr.reservations.rows := by
  unfold deleteOthers
  split
  · exact List.filter_sublist
  · exact List.Sublist.refl _

theorem insertReservation_openDrafts {a : Admission} (admitted : s.admitting = some a)
    (ticket : a.ticket → OfTicket s.groups a.groupID)
    (inserted : insertReservation s a = .ok s') :
    (∀ r ∈ s'.pr.reservations.rows, (∀ q ∈ s.pr.reservations.rows,
        (s.groups.find? q.errorGroupID).isSome) → (s.groups.find? r.errorGroupID).isSome) ∧
      openDrafts s.groups s'.pr.reservations ≤
        openDrafts s.groups s.pr.reservations + s.admittedDrafts := by
  obtain ⟨g, found, rest⟩ := Except.of_bind inserted
  rw [Option.orError_eq_ok_iff] at found
  obtain ⟨-, rest⟩ := Except.of_guard rest
  obtain ⟨reservations, row, rest⟩ := Except.of_bind rest
  rw [Option.orError_eq_ok_iff] at row
  obtain ⟨_, -, rest⟩ := Except.of_bind rest
  cases rest
  obtain ⟨-, rows⟩ := Table.insert?_spec row
  generalize cleared : (if a.ticket = true then s.deleteOthers a.groupID a.input.operationKey else s) =
    t at row rows
  have fewer : t.pr.reservations.rows.Sublist s.pr.reservations.rows := by
    rw [← cleared]
    split
    · exact deleteOthers_sublist _ _ _
    · exact List.Sublist.refl _
  dsimp only
  refine ⟨fun r member present => ?_, ?_⟩
  · rw [rows, List.mem_cons] at member
    rcases member with rfl | old
    · rw [Option.isSome_iff_exists]
      exact ⟨g, found⟩
    · exact present r (fewer.subset old)
  · rw [openDrafts, rows, List.countP_cons]
    apply Nat.add_le_add fewer.countP_le
    split
    · rename_i draft
      simp only [decide_eq_true_eq] at draft
      have own : a.ticket = false := by
        by_contra own
        exact (ticket (by simpa using own)).not_nonTicket draft.2.1
      have one : s.admittedDrafts = 1 := by
        simp only [admittedDrafts, admitted, Option.any_some, own, show a.input.posture = .draft from draft.1]
        rfl
      exact Nat.le_of_eq one.symm
    · exact Nat.zero_le _

theorem openDrafts_delivers {a : Action} {groupID : UUID}
    {f : DeliveryReservation → DeliveryReservation}
    (frame : ∀ r, (f r).errorGroupID = r.errorGroupID) (posture : ∀ r, (f r).posture = r.posture)
    (delivers : Delivers s groupID a) (within : WithinCap s) (room : HasRoom s a) :
    openDrafts s.groups (s.pr.reservations.updateKey groupID f frame) + s.admittedDrafts ≤
      s.draftPRCap := by
  by_cases reopens : ∃ r ∈ s.pr.reservations.rows, r.errorGroupID = groupID ∧ r.posture = .draft ∧
      r.state = .closed ∧ NonTicket s.groups r.errorGroupID
  · obtain ⟨r, member, rfl, draft, closed, own⟩ := reopens
    have one := s.pr.reservations.countP_updateKey_le r.errorGroupID f frame
      fun r => decide (OpenDraft s.groups r)
    have space := room r member draft closed own delivers
    rw [openDrafts] at space ⊢
    omega
  · apply Nat.le_trans _ within.capped
    apply Nat.add_le_add_right
    apply openDrafts_updateWhere_le (.refl _) _ within.issues
    intro r member own draft
    rw [decide_eq_true_eq] at own
    obtain ⟨isDraft, non, -⟩ := draft
    rw [posture] at isDraft
    rw [frame] at non
    refine ⟨isDraft, non, ?_⟩
    cases state : r.state with
    | closed => exact absurd ⟨r, member, own, isDraft, state, non⟩ reopens
    | reserved => exact Or.inl rfl
    | pushed => exact Or.inr (Or.inl rfl)
    | opened => exact Or.inr (Or.inr rfl)

theorem openDrafts_keeps (keeps : KeepsTickets groups groups')
    (t : Table DeliveryReservation.errorGroupID)
    (present : ∀ r ∈ t.rows, (groups.find? r.errorGroupID).isSome) :
    openDrafts groups' t ≤ openDrafts groups t := by
  apply List.countP_mono_left
  intro r member draft
  simp only [decide_eq_true_eq] at draft ⊢
  exact ⟨draft.1, (keeps.nonTicket_iff (present r member)).mp draft.2.1, draft.2.2⟩

theorem KeepsTickets.present (keeps : KeepsTickets groups groups') {groupID : UUID}
    (found : (groups.find? groupID).isSome) : (groups'.find? groupID).isSome := by
  obtain ⟨g, found⟩ := Option.isSome_iff_exists.mp found
  obtain ⟨g', found', -⟩ := keeps groupID g found
  rw [found', Option.isSome_some]

theorem withinCap_step (within : WithinCap s) (a : Action) (room : HasRoom s a) :
    WithinCap (step s a) := by
  obtain ⟨keeps, cap, moves⟩ := step_moves s a
  generalize step s a = s' at keeps cap moves
  obtain ⟨issues, tickets, capped⟩ := id within
  -- what is admitted does not grow unless a transaction is admitted
  have admitted : s'.admitting = s.admitting ∨ s'.admitting = none →
      (∀ a, s'.admitting = some a → a.ticket → OfTicket s'.groups a.groupID) ∧
        s'.admittedDrafts ≤ s.admittedDrafts := by
    rintro (same | none)
    · refine ⟨fun a found ticket => keeps.ofTicket (tickets a (same ▸ found) ticket), ?_⟩
      apply Nat.le_of_eq
      rw [admittedDrafts, admittedDrafts, same]
    · refine ⟨fun a found => ?_, ?_⟩
      · rw [none] at found
        cases found
      · rw [admittedDrafts, none]
        exact Nat.zero_le _
  have changed : ∀ (groupID : UUID) (f : DeliveryReservation → DeliveryReservation)
      (frame : ∀ r, (f r).errorGroupID = r.errorGroupID),
      s'.pr.reservations = s.pr.reservations.updateKey groupID f frame →
        (∀ r ∈ s'.pr.reservations.rows, (s.groups.find? r.errorGroupID).isSome) := by
    intro groupID f frame same r member
    rw [same] at member
    obtain ⟨old, row, rfl⟩ := (Table.mem_updateWhere _ _ f frame r).mp member
    split
    · rw [frame]
      exact issues old row
    · exact issues old row
  cases moves with
  | keeps reservations intents admitting =>
    obtain ⟨tickets', fewer⟩ := admitted admitting
    refine ⟨fun r member => keeps.present (issues r (reservations ▸ member)), tickets', ?_⟩
    have count := openDrafts_keeps keeps s.pr.reservations issues
    rw [reservations, cap]
    omega
  | clears groupID key ticket after =>
    obtain ⟨recovery, -, admitting⟩ := deleteOthers_frame s groupID key
    have groups : s'.groups = s.groups := by rw [after, recovery]
    rw [← after] at admitting
    obtain ⟨tickets', fewer⟩ := admitted (Or.inl admitting)
    have sublist := deleteOthers_sublist s groupID key
    rw [← after] at sublist
    refine ⟨fun r member => keeps.present (issues r (sublist.subset member)), tickets', ?_⟩
    have count := sublist.countP_le (p := fun r => decide (OpenDraft s.groups r))
    rw [openDrafts] at capped ⊢
    rw [groups, cap]
    omega
  | admits admission idle ticket space after =>
    subst after
    refine ⟨issues, ?_, ?_⟩
    · intro a found own
      cases found
      exact ticket own
    · show openDrafts s.groups s.pr.reservations + _ ≤ s.draftPRCap
      rw [admittedDrafts]
      split
      · rename_i draft
        simp only [Option.any_some, decide_eq_true_eq] at draft
        exact space draft.1 draft.2
      · exact Nat.le_trans (Nat.add_le_add_left (Nat.zero_le _) _) capped
  | inserts admission found inserted =>
    obtain ⟨recovery, -, done⟩ := insertReservation_frame inserted
    have groups : s'.groups = s.groups := by rw [recovery]
    obtain ⟨tickets', -⟩ := admitted (Or.inr done)
    obtain ⟨present, count⟩ := insertReservation_openDrafts found (tickets admission found) inserted
    refine ⟨fun r member => keeps.present (present r member issues), tickets', ?_⟩
    have none : s'.admittedDrafts = 0 := by
      rw [admittedDrafts, done]
      rfl
    rw [groups, cap, none]
    omega
  | closes groupID reservations intents admitting =>
    obtain ⟨tickets', fewer⟩ := admitted (Or.inl admitting)
    refine ⟨fun r member => keeps.present (changed _ _ _ reservations r member), tickets', ?_⟩
    have count := openDrafts_updateWhere_le keeps s.pr.reservations issues
      (fun r => r.errorGroupID = groupID) (fun r => { r with state := .closed }) (fun _ => rfl)
      (by
        rintro r - - ⟨-, -, state⟩
        simp at state)
    rw [reservations, cap]
    rw [Table.updateKey] at *
    omega
  | delivers groupID f frame delivers posture reservations intents admitting =>
    obtain ⟨tickets', fewer⟩ := admitted (Or.inl admitting)
    refine ⟨fun r member => keeps.present (changed _ _ _ reservations r member), tickets', ?_⟩
    have before := openDrafts_delivers frame posture delivers within room
    have count := openDrafts_keeps keeps (s.pr.reservations.updateKey groupID f frame)
      fun r member => changed _ _ _ reservations r (reservations ▸ member)
    rw [reservations, cap]
    omega

end Steps

theorem withinCap_start (projectID : UUID) (jobs : JobTable) (groups : Table ErrorGroup.id)
    (draftPRCap : Nat) (githubRepo : String) (installationID : Option Nat) :
    WithinCap (.start projectID jobs groups draftPRCap githubRepo installationID) := by
  refine ⟨?_, ?_, Nat.zero_le _⟩
  · intro r member
    cases member
  · intro a admitted
    cases admitted

theorem draftPRCap_run (s : Reserving) (actions : List Action) :
    (machine.run s actions).draftPRCap = s.draftPRCap :=
  machine.invariant_run (fun t => t.draftPRCap = s.draftPRCap)
    (fun t a same => (step_moves t a).2.1.trans same) rfl actions

def twoIssues : Reserving :=
  .start 1
    ⟨[Job.new 301 1 .fix { errorGroupID := some 101 } 0 0,
      Job.new 302 1 .fix { errorGroupID := some 102 } 0 1], by decide⟩
    ⟨[⟨101, 1, .error, "canonical:101", "TypeError: x is undefined", "javascript", .fixing, none,
        none, none, 0, 0, 1, 0, none, none, none, none, none, none, none, none, none, none, none,
        none, none, none⟩,
      ⟨102, 1, .error, "canonical:102", "TypeError: y is undefined", "javascript", .fixing, none,
        none, none, 0, 0, 1, 0, none, none, none, none, none, none, none, none, none, none, none,
        none, none, none⟩], by decide⟩ 1 "acme/app" none

/-- The lease of an execution of a fix job. -/
def leaseOf (jobID groupID : UUID) : JobLease := ⟨jobID, "worker-1", 1, 1, some groupID, none⟩

def claimFix (now : Timestamp) : Action := .queue (.claimJob "worker-1" 1000000 {} [] now)

def reserveDraft (jobID groupID : UUID) (now : Timestamp) : List Action :=
  [.admitDelivery groupID ⟨operationKey groupID, "opslane/fix-" ++ toString groupID, .draft, "+x"⟩
      (leaseOf jobID groupID) true now,
    .insertReservation]

def openedAndClosed : List Action :=
  claimFix 1 :: reserveDraft 301 101 2 ++
    ([.recordDeliveryPushed 101 "c0ffee" (leaseOf 301 101) 3,
      .finalizeDelivery 101 ⟨true, "https://github.com/acme/app/pull/7", 7, "c0ffee", "medium", 301,
        none, none, none⟩ (leaseOf 301 101) ⟨401, .string "c0ffee"⟩ 4,
      .queue (.completeJob 301 "worker-1" 1 5),
      .applyPRWebhook ⟨7, false, "delivery-1", 6⟩ 7] : List Action)

/-- Issue 101 is to be fixed again; its next execution pushes the branch it finds reserved. -/
def pushedAgain (now : Timestamp) : List Action :=
  ([.writeIssue 101 ⟨101, 1, .error, "canonical:101", "TypeError: x is undefined", "javascript",
      .fixing, none, none, none, 0, 0, 1, 0, none, none, none, none, none, none, none, none, none,
      none, none, none, none, none⟩,
    .queue (.enqueue 303 1 .fix { errorGroupID := some 101 } now now)] : List Action) ++
  [claimFix now] ++ reserveDraft 303 101 (now + 1) ++
    [Action.recordDeliveryPushed 101 "decade" (leaseOf 303 101) (now + 2)]

end Opslane.Delivery.Reserving
