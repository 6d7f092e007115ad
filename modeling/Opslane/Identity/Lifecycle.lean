import Opslane.Delivery.GroupStatus
import Opslane.Identity.WellFormed

/-!
# The life of an issue

The identity machine together with the other writers of an issue's status: the human
actions and the pull request webhook of `packages/ingestion/db/queries.go`, and the
worker's resolvers and status writes of `packages/worker/src/db.ts`. These read the
identity tables and write `error_groups` only; the trigger closes work rounds.

The worker's status writes are taken without their lease fence, so they may happen
here at any time.
-/

namespace Opslane.Identity

open Transition (committed committed_eq)

open Delivery

/-- `SET status='resolved', resolved_at=now(), resolved_reason=reason`. -/
def resolveGroup (reason : String) (now : Timestamp) (g : ErrorGroup) : ErrorGroup :=
  { g with status := .resolved, resolvedAt := some now, resolvedReason := some reason }

theorem resolveGroup_id (reason : String) (now : Timestamp) (g : ErrorGroup) :
    (resolveGroup reason now g).id = g.id := rfl

/-- Manually transitions an issue to resolved, from any status except archived. -/
def ResolveErrorGroup (s : Store) (groupID : UUID) (now : Timestamp) : Except String Store :=
  match s.groups.find? groupID with
  | none => .error "resolve error group: no matching row"
  | some g =>
    if g.ticketID.isSome then
      .error "manual resolution and PR linking are not supported for known problems"
    else if g.status = .archived then .error "resolve error group: no matching row"
    else .ok (s.updateGroups (fun r => r.id = groupID) (resolveGroup "manual" now)
      (resolveGroup_id "manual" now) now)

def archiveGroup (now : Timestamp) (g : ErrorGroup) : ErrorGroup :=
  { g with statusBeforeArchive := some g.status, status := .archived, archivedAt := some now }

theorem archiveGroup_id (now : Timestamp) (g : ErrorGroup) :
    (archiveGroup now g).id = g.id := rfl

/-- Archives an issue from any status; archiving it again changes nothing. -/
def ArchiveErrorGroup (s : Store) (groupID : UUID) (now : Timestamp) : Except String Store :=
  match s.groups.find? groupID with
  | none => .error "archive error group: no matching row"
  | some g =>
    if g.ticketID.isSome then .error "archived by the ticket workflow"
    else if g.status = .archived then .ok s
    else .ok (s.updateGroups (fun r => r.id = groupID) (archiveGroup now) (archiveGroup_id now) now)

/-- Restores the status the issue was archived in; rows archived before that
column existed fall back by kind. -/
def unarchiveGroup (g : ErrorGroup) : ErrorGroup :=
  { g with
    status := g.statusBeforeArchive.getD (if g.kind = .friction then .insight else .investigated)
    statusBeforeArchive := none
    archivedAt := none }

theorem unarchiveGroup_id (g : ErrorGroup) : (unarchiveGroup g).id = g.id := rfl

def UnarchiveErrorGroup (s : Store) (groupID : UUID) (now : Timestamp) : Except String Store :=
  match s.groups.find? groupID with
  | none => .error "unarchive error group: group is not archived or not found"
  | some g =>
    if g.ticketID.isSome then .error "unarchive is not supported for known problems"
    else if g.status ≠ .archived then
      .error "unarchive error group: group is not archived or not found"
    else .ok (s.updateGroups (fun r => r.id = groupID) unarchiveGroup unarchiveGroup_id now)

/-- Twenty-four hours. -/
def silenceWindow : Int := 86400000000

/-- The `WHERE` clause of `resolveSilentMergedGroups`: merged for a day, not the
loser of an identity merge, and neither an attached event nor an accepted friction
signal since. -/
def SilentlyMerged (s : Store) (now : Timestamp) (g : ErrorGroup) : Bool :=
  g.status = .merged && g.mergedAt.any fun mergedAt =>
    mergedAt < now - silenceWindow && !s.merges.any (fun m => m.loserID = g.id) &&
    !s.events.any (fun ev => ev.errorGroupID = some g.id ∧ mergedAt < ev.createdAt) &&
    !s.frictionSignals.any fun fs => fs.incidentID = g.id && fs.accepted && !fs.retracted &&
      !fs.superseded && mergedAt < fs.occurredAt

def resolveSilentMergedGroups (s : Store) (now : Timestamp) : Store :=
  s.updateGroups (SilentlyMerged s now) (resolveGroup "merged" now) (resolveGroup_id "merged" now)
    now

/-- Resolves issues not seen for `ageDays` days. -/
def resolveInactiveGroups (s : Store) (ageDays : Nat) (now : Timestamp) : Store :=
  s.updateGroups
    (fun g => (g.status = .needsHuman ∨ g.status = .investigated) ∧
      g.lastSeen < now - ageDays * silenceWindow)
    (resolveGroup "auto_resolved" now) (resolveGroup_id "auto_resolved" now) now

def processPRWebhook (s : Store) (w : PRWebhook) (now : Timestamp) : Store :=
  let result := Delivery.processPRWebhook s.groups s.pr w now
  { s with groups := result.1, pr := result.2.1 }

def updateGroupStatus (s : Store) (groupID : UUID) (status : GroupStatus) (fields : StatusFields)
    (leaseID : Option UUID) (now : Timestamp) : Except String Store := do
  checkStatusFields groupID status fields leaseID
  .ok (s.updateGroups (fun r => r.id = groupID) (writeStatus status fields now)
    (writeStatus_id status fields now) now)

/-- Atomically records the pull request, transitions the issue and starts CI
watching. -/
def finalizeDelivery (s : Store) (groupID : UUID) (input : DeliveryInput) (now : Timestamp) :
    Except String Store := do
  let g ← (s.groups.find? groupID).orError "Cannot finalize delivery for group"
  if ¬Deliverable g then .error "Cannot finalize delivery for group"
  else
    let s := s.updateGroups (fun r => r.id = groupID) (deliver input now) (deliver_id input now) now
    .ok { s with
      pr := { s.pr with
        reservations := s.pr.reservations.updateKey groupID
          (fun r => { r with
            state := .opened
            headSha := some input.headSha
            prURL := some input.prURL
            prNumber := some input.prNumber }) fun _ => rfl
        ciWatch :=
          if input.draft ∧ ¬s.pr.ciWatch.any (fun j => j.errorGroupID = groupID ∧ j.live) then
            ⟨groupID, true⟩ :: s.pr.ciWatch
          else s.pr.ciWatch } }

namespace Lifecycle

/-- One transaction of any writer of an issue. -/
inductive Action where
  | identity (a : Identity.Action)
  | resolveErrorGroup (groupID : UUID) (now : Timestamp)
  | archiveErrorGroup (groupID : UUID) (now : Timestamp)
  | unarchiveErrorGroup (groupID : UUID) (now : Timestamp)
  | resolveSilentMergedGroups (now : Timestamp)
  | resolveInactiveGroups (ageDays : Nat) (now : Timestamp)
  | processPRWebhook (w : PRWebhook) (now : Timestamp)
  | updateGroupStatus (groupID : UUID) (status : GroupStatus) (fields : StatusFields)
      (leaseID : Option UUID) (now : Timestamp)
  | finalizeDelivery (groupID : UUID) (input : DeliveryInput) (now : Timestamp)
  | investigate (job : InvestigateJob)
  | publish (episodeID : UUID)
  | deliverDigestItem (groupID : UUID)
  | recordFrictionSignal (signal : FrictionSignal)

variable (sha256 : String → Vector UInt8 32)

def step (s : Store) : Action → Store
  | .identity a => Identity.step sha256 s a
  | .resolveErrorGroup groupID now => committed s (ResolveErrorGroup s groupID now)
  | .archiveErrorGroup groupID now => committed s (ArchiveErrorGroup s groupID now)
  | .unarchiveErrorGroup groupID now => committed s (UnarchiveErrorGroup s groupID now)
  | .resolveSilentMergedGroups now => Identity.resolveSilentMergedGroups s now
  | .resolveInactiveGroups ageDays now => Identity.resolveInactiveGroups s ageDays now
  | .processPRWebhook w now => Identity.processPRWebhook s w now
  | .updateGroupStatus groupID status fields leaseID now =>
    committed s (Identity.updateGroupStatus s groupID status fields leaseID now)
  | .finalizeDelivery groupID input now =>
    committed s (Identity.finalizeDelivery s groupID input now)
  | .investigate job => { s with investigateJobs := job :: s.investigateJobs }
  | .publish episodeID => { s with publications := episodeID :: s.publications }
  | .deliverDigestItem groupID => { s with deliveredItems := groupID :: s.deliveredItems }
  | .recordFrictionSignal signal => { s with frictionSignals := signal :: s.frictionSignals }

def machine : Transition.Machine Store Action := ⟨step sha256⟩

/-- A write of issue rows only: no issue appears or disappears, every identity
table stays, and an issue that is resolved afterwards has no open round it did not
have before, and none at all when it was just resolved. -/
structure WritesGroups (s s' : Store) : Prop where
  events : s'.events = s.events
  identities : s'.identities = s.identities
  resolutions : s'.resolutions = s.resolutions
  fingerprints : s'.fingerprints = s.fingerprints
  merges : s'.merges = s.merges
  conflicts : s'.conflicts = s.conflicts
  environments : s'.environments = s.environments
  affectedUsers : s'.affectedUsers = s.affectedUsers
  present : ∀ i, (s'.groups.find? i).isSome = (s.groups.find? i).isSome
  counters : ∀ i g g', s.groups.find? i = some g → s'.groups.find? i = some g' →
    g'.occurrenceCount = g.occurrenceCount ∧ g'.firstSeen = g.firstSeen ∧
      g'.lastSeen = g.lastSeen ∧ g'.affectedUsersCount = g.affectedUsersCount
  opened : ∀ i, s'.episodes.open? i = s.episodes.open? i ∨ s'.episodes.open? i = none
  resolved : ∀ i g', s'.groups.find? i = some g' → g'.status = .resolved →
    s'.episodes.open? i = none ∨
      ∃ g, s.groups.find? i = some g ∧ g.status = .resolved ∧
        s'.episodes.open? i = s.episodes.open? i

theorem WritesGroups.refl (s : Store) : WritesGroups s s :=
  ⟨rfl, rfl, rfl, rfl, rfl, rfl, rfl, rfl, fun _ => rfl,
    fun _ _ _ h h' => by rw [h, Option.some.injEq] at h'; subst h'; exact ⟨rfl, rfl, rfl, rfl⟩,
    fun _ => Or.inl rfl, fun _ g h r => Or.inr ⟨g, h, r, rfl⟩⟩

/-- The row update leaves the counters alone. -/
def KeepsCounters (f : ErrorGroup → ErrorGroup) : Prop :=
  ∀ g, (f g).occurrenceCount = g.occurrenceCount ∧ (f g).firstSeen = g.firstSeen ∧
    (f g).lastSeen = g.lastSeen ∧ (f g).affectedUsersCount = g.affectedUsersCount

theorem writesGroups_updateGroups (s : Store) (p : ErrorGroup → Bool) (f : ErrorGroup → ErrorGroup)
    (frame : ∀ g, (f g).id = g.id) (now : Timestamp) (keeps : KeepsCounters f) :
    WritesGroups s (s.updateGroups p f frame now) := by
  refine ⟨rfl, rfl, rfl, rfl, rfl, rfl, rfl, rfl, ?_, ?_, ?_, ?_⟩
  · intro i
    rw [Store.find?_updateGroups, Option.isSome_map]
  · intro i g g' before after
    rw [Store.find?_updateGroups, before, Option.map_some, Option.some.injEq] at after
    rw [← after]
    split
    · exact keeps g
    · exact ⟨rfl, rfl, rfl, rfl⟩
  · intro i
    rw [Store.open?_updateGroups]
    split
    · exact Or.inr rfl
    · exact Or.inl rfl
  · intro i g' after resolved
    rw [Store.open?_updateGroups]
    rw [Store.find?_updateGroups, Option.map_eq_some_iff] at after
    obtain ⟨g, before, rfl⟩ := after
    rw [before]
    simp only [Option.any_some, Bool.and_eq_true, decide_eq_true_eq]
    by_cases selected : p g = true
    · rw [if_pos selected] at resolved
      by_cases was : g.status = .resolved
      · refine Or.inr ⟨g, rfl, was, if_neg ?_⟩
        rintro ⟨-, changed, -⟩
        exact changed (was.trans resolved.symm)
      · exact Or.inl (if_pos ⟨selected, fun same => was (same.trans resolved), resolved⟩)
    · rw [if_neg selected] at resolved
      exact Or.inr ⟨g, rfl, resolved, if_neg fun h => selected h.1⟩

variable {s s' : Store}

theorem writesGroups_of_unresolved (frame : s' = { s with
      groups := s'.groups, pr := s'.pr, investigateJobs := s'.investigateJobs,
      publications := s'.publications, deliveredItems := s'.deliveredItems,
      frictionSignals := s'.frictionSignals })
    (rows : ∀ i, s'.groups.find? i = s.groups.find? i ∨ ∃ g f, s.groups.find? i = some g ∧
      s'.groups.find? i = some (f g) ∧ (f g).status ≠ .resolved ∧ KeepsCounters f) :
    WritesGroups s s' := by
  have episodes : s'.episodes = s.episodes := by rw [frame]
  refine ⟨by rw [frame], by rw [frame], by rw [frame], by rw [frame], by rw [frame], by rw [frame],
    by rw [frame], by rw [frame], ?_, ?_, fun _ => Or.inl (by rw [episodes]), ?_⟩
  · intro i
    rcases rows i with same | ⟨g, f, before, after, -, -⟩
    · rw [same]
    · rw [before, after]
      rfl
  · intro i g g' before after
    rcases rows i with same | ⟨g₀, f, before', after', -, keeps⟩
    · rw [same, before, Option.some.injEq] at after
      rw [after]
      exact ⟨rfl, rfl, rfl, rfl⟩
    · rw [before, Option.some.injEq] at before'
      rw [after, Option.some.injEq] at after'
      rw [before', after']
      exact keeps g₀
  · intro i g' after resolved
    rcases rows i with same | ⟨g₀, f, -, after', unresolved, -⟩
    · exact Or.inr ⟨g', same ▸ after, resolved, by rw [episodes]⟩
    · rw [after, Option.some.injEq] at after'
      exact absurd (after' ▸ resolved) unresolved

theorem closeUnmerged_status_ne (now : Timestamp) (g : ErrorGroup) :
    (closeUnmerged now g).status ≠ .resolved ∧ (closeUnmerged now g).status ≠ .merged := by
  unfold closeUnmerged
  split
  · simp
  · split <;> simp

theorem keepsCounters_closeUnmerged (now : Timestamp) : KeepsCounters (closeUnmerged now) := by
  intro g
  unfold closeUnmerged
  split <;> exact ⟨rfl, rfl, rfl, rfl⟩

theorem writesGroups_processPRWebhook (s : Store) (w : PRWebhook) (now : Timestamp) :
    WritesGroups s (Identity.processPRWebhook s w now) := by
  refine writesGroups_of_unresolved rfl fun i => ?_
  rcases processPRWebhook_groups s.groups s.pr w now i with same | ⟨-, g, before, h⟩
  · exact Or.inl same
  · rcases h with ⟨-, -, after⟩ | ⟨-, -, after⟩
    · exact Or.inr ⟨g, closeUnmerged now, before, after, (closeUnmerged_status_ne now g).1,
        keepsCounters_closeUnmerged now⟩
    · exact Or.inr ⟨g, markMerged w.occurredAt, before, after, by simp [markMerged],
        fun _ => ⟨rfl, rfl, rfl, rfl⟩⟩

theorem writesGroups_finalizeDelivery {groupID : UUID} {input : DeliveryInput} {now : Timestamp}
    (success : Identity.finalizeDelivery s groupID input now = .ok s') :
    WritesGroups s s' := by
  obtain ⟨g, found, rest⟩ := Except.of_bind success
  rw [Except.ite_error_eq_ok_iff, Except.ok.injEq] at rest
  obtain ⟨-, rfl⟩ := rest
  have writes := writesGroups_updateGroups s (fun r => r.id = groupID) (deliver input now)
    (deliver_id input now) now fun _ => ⟨rfl, rfl, rfl, rfl⟩
  exact ⟨rfl, rfl, rfl, rfl, rfl, rfl, rfl, rfl, writes.present, writes.counters, writes.opened,
    writes.resolved⟩

theorem writesGroups_step (s : Store) (a : Action) (outside : ∀ i, a ≠ .identity i) :
    WritesGroups s (step sha256 s a) := by
  have self := WritesGroups.refl s
  have quiet : ∀ s' : Store, s' = { s with
      groups := s'.groups, pr := s'.pr, investigateJobs := s'.investigateJobs,
      publications := s'.publications, deliveredItems := s'.deliveredItems,
      frictionSignals := s'.frictionSignals } → s'.groups = s.groups → WritesGroups s s' :=
    fun s' frame same => writesGroups_of_unresolved frame fun _ => Or.inl (by rw [same])
  cases a with
  | identity i => exact absurd rfl (outside i)
  | resolveErrorGroup groupID now =>
    rw [step]
    unfold ResolveErrorGroup
    split
    · exact self
    · split
      · exact self
      · split
        · exact self
        · exact writesGroups_updateGroups _ _ _ _ _ fun _ => ⟨rfl, rfl, rfl, rfl⟩
  | archiveErrorGroup groupID now =>
    rw [step]
    unfold ArchiveErrorGroup
    split
    · exact self
    · split
      · exact self
      · split
        · exact self
        · exact writesGroups_updateGroups _ _ _ _ _ fun _ => ⟨rfl, rfl, rfl, rfl⟩
  | unarchiveErrorGroup groupID now =>
    rw [step]
    unfold UnarchiveErrorGroup
    split
    · exact self
    · split
      · exact self
      · split
        · exact self
        · exact writesGroups_updateGroups _ _ _ _ _ fun _ => ⟨rfl, rfl, rfl, rfl⟩
  | resolveSilentMergedGroups now =>
    exact writesGroups_updateGroups _ _ _ _ _ fun _ => ⟨rfl, rfl, rfl, rfl⟩
  | resolveInactiveGroups ageDays now =>
    exact writesGroups_updateGroups _ _ _ _ _ fun _ => ⟨rfl, rfl, rfl, rfl⟩
  | processPRWebhook w now => exact writesGroups_processPRWebhook s w now
  | updateGroupStatus groupID status fields leaseID now =>
    rcases committed_eq s (updateGroupStatus s groupID status fields leaseID now) with same | ok
    · rw [step, same]
      exact self
    · obtain ⟨_, -, rest⟩ := Except.of_bind ok
      rw [Except.ok.injEq] at rest
      rw [step, ← rest]
      exact writesGroups_updateGroups _ _ _ _ _ fun _ => ⟨rfl, rfl, rfl, rfl⟩
  | finalizeDelivery groupID input now =>
    rcases committed_eq s (finalizeDelivery s groupID input now) with same | ok
    · rw [step, same]
      exact self
    · rw [step]
      exact writesGroups_finalizeDelivery ok
  | investigate job => exact quiet _ rfl rfl
  | publish episodeID => exact quiet _ rfl rfl
  | deliverDigestItem groupID => exact quiet _ rfl rfl
  | recordFrictionSignal signal => exact quiet _ rfl rfl

theorem bound_eq (writes : WritesGroups s s') (v : Int) (f : String) :
    s'.bound v f = s.bound v f := by
  rw [Store.bound, Store.bound, writes.fingerprints]

theorem receipt?_eq (writes : WritesGroups s s') (i : UUID) :
    s'.receipt? i = s.receipt? i := by
  rw [Store.receipt?, Store.receipt?, writes.merges]

theorem WritesGroups.wellFormed (writes : WritesGroups s s') (wf : WellFormed s) :
    WellFormed s' := by
  refine
    { paired := ?_, handle := ?_, settled := ?_, fingerprint := ?_, issue := ?_, boundIssue := ?_,
      agree := ?_, closed := ?_ }
  · rw [writes.events, writes.identities]
    exact wf.paired
  · rw [writes.events, writes.identities]
    exact wf.handle
  · rw [writes.identities]
    exact wf.settled
  · rw [writes.identities]
    exact wf.fingerprint
  · intro e i g found canonical
    rw [writes.present]
    rw [writes.identities] at found
    exact wf.issue e i g found canonical
  · intro v f g isBound
    rw [writes.present]
    rw [bound_eq writes] at isBound
    exact wf.boundIssue v f g isBound
  · intro e i g found canonical
    rw [writes.identities] at found
    simp only [bound_eq writes]
    exact wf.agree e i g found canonical
  · intro i g' found resolved
    rcases writes.resolved i g' found resolved with done | ⟨g, before, was, same⟩
    · exact done
    · rw [same]
      exact wf.closed i g before was

theorem wellFormed_step (wf : WellFormed s) (a : Action) :
    WellFormed (step sha256 s a) := by
  by_cases outside : ∀ i, a ≠ .identity i
  · exact (writesGroups_step sha256 s a outside).wellFormed wf
  · simp only [not_forall, not_not] at outside
    obtain ⟨i, rfl⟩ := outside
    exact wf.step sha256 i

end Lifecycle

end Opslane.Identity
