import Opslane.Identity.Conflicts
import Opslane.Identity.Lifecycle

/-!
# Recurrences after a fix

The status `merged` says two things: the issue lost an identity merge, or its fix was
merged. Settlement refuses both, and the silence sweep counts attached events only, so
an observation captured while a fixed issue rests in `merged` is hidden: it cannot
settle, the sweep calls the issue silent, and it settles afterwards into the round the
resolution closed. A run in which no observation meets an issue in that state hides
none.
-/

namespace Opslane.Identity

open Transition (committed committed_eq)

open Delivery

variable (sha256 : String → Vector UInt8 32)

variable {candidates : List CandidateAlias}

variable {s : Store}

theorem distinctIssues_eq_singleton {version : Int} {issueID : UUID}
    (named : ∃ c ∈ candidates, s.bound version c.fingerprint = some issueID)
    (agree : ∀ c ∈ candidates, ∀ j, s.bound version c.fingerprint = some j → j = issueID) :
    distinctIssues (lookupAliases s version candidates) = [issueID] := by
  have only : ∀ j ∈ distinctIssues (lookupAliases s version candidates), j = issueID := by
    intro j member
    obtain ⟨c, memC, isBound⟩ := (mem_distinctIssues s version candidates j).mp member
    exact agree c memC j isBound
  have member := (mem_distinctIssues s version candidates issueID).mpr named
  have nodup := nodup_distinctIssues (lookupAliases s version candidates)
  cases list : distinctIssues (lookupAliases s version candidates) with
  | nil => rw [list] at member; cases member
  | cons i rest =>
    rw [list] at only nodup
    cases rest with
    | nil => rw [only i (by simp)]
    | cons j rest =>
      have same : i = j := (only i (by simp)).trans (only j (by simp)).symm
      simp [same] at nodup

variable {ev : ErrorEvent} {g : ErrorGroup}

theorem exists_episodeForObservation {issueID eventID fresh : UUID} (now : Timestamp)
    (present : s.groups.find? issueID = some g) (found : s.events.find? eventID = some ev)
    (free : s.episodes.table.find? fresh = none)
    (notEarly : g.status = .resolved → ¬ResolvedAfter g ev.timestamp) :
    ∃ s' episodeID, episodeForObservation s issueID eventID fresh now = .ok (s', episodeID) := by
  by_cases resolved : g.status = .resolved
  · have reopened : (s.groups.updateKey issueID reopen reopen_id).find? issueID =
        some (reopen g) := by
      rw [Table.find?_updateKey, if_pos rfl, present, Option.map_some]
    obtain ⟨s', episodeID, opens⟩ := exists_OpenOrGetEpisode
      { s with groups := s.groups.updateKey issueID reopen reopen_id } now reopened free
    refine ⟨s', episodeID, ?_⟩
    simp only [episodeForObservation, present, found, Option.orError, bind, Except.bind]
    rw [if_neg (not_not.mpr resolved), if_neg (notEarly resolved)]
    exact opens
  · obtain ⟨s', episodeID, opens⟩ := exists_OpenOrGetEpisode s now present free
    refine ⟨s', episodeID, ?_⟩
    simp only [episodeForObservation, present, found, Option.orError, bind, Except.bind]
    rw [if_pos resolved]
    exact opens

variable {resolution : EventResolution} {resolvedFingerprint : String}

theorem exists_settle (wf : WellFormed s) {identity : EventIdentity} {issueID : UUID}
    (found : s.identities.find? identity.eventID = some identity) (unsettled : identity.Unsettled)
    (resolved : s.resolutions.find? identity.eventID = some resolution)
    (terminal : resolution.status.Terminal)
    (aliases : observationAliases sha256 identity resolution =
      .ok (candidates, resolvedFingerprint))
    (named : ∃ c ∈ candidates, s.bound identity.identityVersion c.fingerprint = some issueID)
    (agree : ∀ c ∈ candidates, ∀ j, s.bound identity.identityVersion c.fingerprint = some j →
      j = issueID) (present : s.groups.find? issueID = some g) (active : g.status ≠ .merged)
    (foundEvent : s.events.find? identity.eventID = some ev)
    (notEarly : g.status = .resolved → ¬ResolvedAfter g ev.timestamp) (freshIssue : UUID)
    {freshEpisode : UUID} (free : s.episodes.table.find? freshEpisode = none) (now : Timestamp) :
    ∃ s', Settle sha256 s identity.eventID freshIssue freshEpisode now =
      .ok (s', ⟨some issueID, .settled⟩) := by
  have distinct := distinctIssues_eq_singleton named agree
  have lock : lockActiveIssue s issueID = .ok () :=
    (lockActiveIssue_eq_ok_iff s issueID).mpr ⟨g, present, active⟩
  obtain ⟨s₂, bound⟩ :=
    exists_bindAliases s identity.identityVersion candidates issueID now agree
  have frame := (bindAliases_binds bound).frame
  have detached : ev.errorGroupID = none :=
    (wf.handle _ ev identity foundEvent found).trans (wf.free found unsettled.ne_settled)
  have found₂ : s₂.events.find? identity.eventID = some ev := by
    rw [frame]
    exact foundEvent
  have attached := attachObservation_free issueID found₂ detached
  have attaches := attach_attaches s₂ ev issueID
  have key : ev.id = identity.eventID := Table.key_of_find? foundEvent
  have present₃ : (attach s₂ ev issueID).groups.find? issueID =
      some (observed ev (attach s₂ ev issueID).affectedUsers g) := by
    rw [attaches.groups, if_pos rfl, frame, present]
    rfl
  have found₃ : (attach s₂ ev issueID).events.find? identity.eventID =
      some { ev with errorGroupID := some issueID } := by
    have self : s₂.events.find? ev.id = some ev := by
      rw [key]
      exact found₂
    rw [attaches.events, Table.find?_updateKey, if_pos key.symm, self, Option.map_some]
  have free₃ : (attach s₂ ev issueID).episodes.table.find? freshEpisode = none := by
    rw [attaches.frame, frame]
    exact free
  obtain ⟨s₄, episodeID, round⟩ :=
    exists_episodeForObservation now present₃ found₃ free₃ notEarly
  refine ⟨markSettled s₄ identity.eventID issueID resolvedFingerprint episodeID now, ?_⟩
  have settles : settleAliases s identity candidates resolvedFingerprint freshIssue freshEpisode now =
      .ok (markSettled s₄ identity.eventID issueID resolvedFingerprint episodeID now,
        ⟨some issueID, .settled⟩) := by
    simp only [settleAliases, distinct, List.length_singleton, lt_irrefl, if_false,
      canonicalIssueFor, lock, bind, Except.bind, bound, attached, round]
  unfold Settle
  simp only [found, resolved, Option.orError, bind, Except.bind]
  rcases unsettled with status | status <;>
    simp only [status, terminal, not_true, if_false, aliases, settles]

/-- The fingerprints an observation can be recognized by: the raw one, and the digest
of its envelope once a resolution holds one. -/
def fingerprintsOf (s : Store) (i : EventIdentity) : List String :=
  i.rawFingerprint :: match s.resolutions.find? i.eventID with
    | none => []
    | some r => if r.status = .resolved then
        match r.envelope with
        | some (.envelope env) => [Hash sha256 env]
        | _ => []
      else []

/-- A fingerprint of the observation is bound to the issue. -/
def PointsAt (s : Store) (i : EventIdentity) (issueID : UUID) : Prop :=
  ∃ f ∈ fingerprintsOf sha256 s i, s.bound i.identityVersion f = some issueID
  deriving Decidable

/-- The observation was captured after the issue's fix. -/
def AfterFix (g : ErrorGroup) (ev : ErrorEvent) : Prop := g.mergedAt.any (· < ev.createdAt)
  deriving Decidable

/-- The states of an issue that hide an observation: settlement refuses it, or counts
it before the resolution. -/
def Hides (g : ErrorGroup) (ev : ErrorEvent) : Prop :=
  g.status = .merged ∨ (g.status = .resolved ∧ ResolvedAfter g ev.timestamp)
  deriving Decidable

/-- The issue hides no recurrence that waits for it. -/
def Admits (g : ErrorGroup) (ev : ErrorEvent) : Prop := AfterFix g ev → ¬Hides g ev
  deriving Decidable

/-- No issue but the loser of a merge hides a recurrence that waits for it. -/
def Heard (s : Store) : Prop :=
  ∀ j g e i ev, s.groups.find? j = some g → ¬s.Lost j → s.identities.find? e = some i →
    i.Unsettled → PointsAt sha256 s i j → s.events.find? e = some ev → Admits g ev

theorem heard_empty (githubRepo : String) (installationID : Option Nat) :
    Heard sha256 (Store.empty githubRepo installationID) := by
  intro j g e i ev found
  cases found

theorem mem_fingerprintsOf (s : Store) (i : EventIdentity) (f : String) :
    f ∈ fingerprintsOf sha256 s i ↔ f = i.rawFingerprint ∨ ∃ r env,
      s.resolutions.find? i.eventID = some r ∧ r.status = .resolved ∧
        r.envelope = some (.envelope env) ∧ f = Hash sha256 env := by
  rw [fingerprintsOf, List.mem_cons]
  refine or_congr_right ?_
  cases s.resolutions.find? i.eventID with
  | none => simp
  | some r =>
    by_cases resolved : r.status = .resolved
    · cases column : r.envelope with
      | none => simp [column]
      | some c => cases c <;> simp [resolved, column, eq_comm]
    · simp [resolved]

theorem fingerprintsOf_aliases {i : EventIdentity}
    (found : s.resolutions.find? i.eventID = some resolution)
    (aliases : observationAliases sha256 i resolution = .ok (candidates, resolvedFingerprint))
    (raw : i.rawFingerprint ≠ "") (f : String) :
    f ∈ candidates.map CandidateAlias.fingerprint ↔ f ∈ fingerprintsOf sha256 s i := by
  obtain ⟨fingerprints, resolved⟩ := observationAliases_fingerprints aliases raw
  rw [fingerprints, mem_fingerprintsOf, resolved]
  refine or_congr_right ?_
  rw [found]
  by_cases status : resolution.status = .resolved
  · rw [if_pos status]
    cases column : resolution.envelope with
    | none => simp [column]
    | some c => cases c <;> simp [status, column, eq_comm]
  · simp [status]

theorem pointsAt_congr {s s' : Store} {i i' : EventIdentity}
    (same : i'.eventID = i.eventID ∧ i'.rawFingerprint = i.rawFingerprint ∧
      i'.identityVersion = i.identityVersion)
    (resolutions : s'.resolutions = s.resolutions) (bound : ∀ v f, s'.bound v f = s.bound v f)
    (issueID : UUID) : PointsAt sha256 s' i' issueID ↔ PointsAt sha256 s i issueID := by
  obtain ⟨eventID, raw, version⟩ := same
  simp only [PointsAt, fingerprintsOf, eventID, raw, version, resolutions, bound]

theorem admits_congr {g g' : ErrorGroup} {ev ev' : ErrorEvent}
    (issue : g'.status = g.status ∧ g'.mergedAt = g.mergedAt ∧ g'.resolvedAt = g.resolvedAt)
    (event : ev'.createdAt = ev.createdAt ∧ ev'.timestamp = ev.timestamp) :
    Admits g' ev' ↔ Admits g ev := by
  obtain ⟨status, mergedAt, resolvedAt⟩ := issue
  obtain ⟨createdAt, timestamp⟩ := event
  simp only [Admits, AfterFix, Hides, ResolvedAfter, status, mergedAt, resolvedAt, createdAt,
    timestamp]

theorem admits_of_unhidden (ev : ErrorEvent) (unmerged : g.status ≠ .merged)
    (unresolved : g.status ≠ .resolved) : Admits g ev := by
  rintro - (merged | ⟨resolved, -⟩)
  · exact unmerged merged
  · exact unresolved resolved

namespace Recurrence

/-- The actions of a fix and its recurrences. The worker writes neither `merged` nor
`resolved` through `updateGroupStatus`. -/
inductive Action where
  | identity (a : Identity.Action)
  | processPRWebhook (w : PRWebhook) (now : Timestamp)
  | resolveSilentMergedGroups (now : Timestamp)
  | updateGroupStatus (groupID : UUID)
      (status : { status : GroupStatus // status ≠ .merged ∧ status ≠ .resolved })
      (fields : StatusFields) (leaseID : Option UUID) (now : Timestamp)
  | finalizeDelivery (groupID : UUID) (input : DeliveryInput) (now : Timestamp)

def Action.lift : Action → Lifecycle.Action
  | .identity a => .identity a
  | .processPRWebhook w now => .processPRWebhook w now
  | .resolveSilentMergedGroups now => .resolveSilentMergedGroups now
  | .updateGroupStatus groupID status fields leaseID now =>
    .updateGroupStatus groupID status fields leaseID now
  | .finalizeDelivery groupID input now => .finalizeDelivery groupID input now

def step (s : Store) (a : Action) : Store := Lifecycle.step sha256 s a.lift

def machine : Transition.Machine Store Action := ⟨step sha256⟩

/-- The condition under which an action hides no recurrence. -/
def Meets (s : Store) : Action → Prop
  -- a capture meets no issue that hides it
  | .identity (.capture eventID p now) => ∀ g ∈ s.groups.rows, ¬s.Lost g.id →
    PointsAt sha256 s (p.identity eventID) g.id → Admits g (p.event eventID now)
  -- nor does an envelope that arrives for a waiting observation
  | .identity (.recordResolution eventID .resolved (some (.envelope env)) _) =>
    ∀ i ∈ s.identities.rows, i.eventID = eventID → i.Unsettled → ∀ g ∈ s.groups.rows,
      ¬s.Lost g.id → s.bound i.identityVersion (Hash sha256 env) = some g.id →
        (s.events.find? eventID).all fun ev => Admits g ev
  -- a settlement binds no fingerprint of another waiting observation to an issue that
  -- hides it, unless it reopens that issue
  | .identity (.settle eventID _ _ _) => ∀ i ∈ s.identities.rows, i.eventID = eventID →
    ∀ other ∈ s.identities.rows, other.Unsettled →
      (∃ f ∈ fingerprintsOf sha256 s i, f ∈ fingerprintsOf sha256 s other ∧
        s.bound i.identityVersion f = none) →
      ∀ g ∈ s.groups.rows, ¬s.Lost g.id → PointsAt sha256 s i g.id →
        (s.events.find? other.eventID).all fun evOther =>
          Admits g evOther ∨ (s.events.find? eventID).any fun ev => Recurs g ev
  -- a merge redirects or requeues none to an issue that hides it
  | .identity (.confirmMerge winnerID loserID _ _ _ _) =>
    ∀ i ∈ s.identities.rows, ∀ g ∈ s.groups.rows, ¬s.Lost g.id →
      (i.Unsettled ∧ g.id = winnerID ∧ PointsAt sha256 s i loserID) ∨
        (i.status = .conflict ∧ NamedFor s.conflicts winnerID loserID i.eventID ∧
          (PointsAt sha256 s i g.id ∨ (g.id = winnerID ∧ PointsAt sha256 s i loserID))) →
      (s.events.find? i.eventID).all fun ev => Admits g ev
  -- a pull request merged before a waiting observation was captured is not reported late
  | .processPRWebhook w _ => w.merged = true → seenReceipt s.pr w.deliveryID = none →
    ∀ g ∈ s.groups.rows, MergesPR s.groups s.pr w g → ¬s.Lost g.id →
      ∀ i ∈ s.identities.rows, i.Unsettled → PointsAt sha256 s i g.id →
        (s.events.find? i.eventID).all fun ev => ev.createdAt ≤ w.occurredAt
  | _ => True

instance (s : Store) (a : Action) : Decidable (Meets sha256 s a) :=
  match a with
  | .identity (.capture ..) => inferInstanceAs (Decidable (∀ g ∈ s.groups.rows, _))
  | .identity (.recordResolution _ .resolved (some (.envelope _)) _) =>
    inferInstanceAs (Decidable (∀ i ∈ s.identities.rows, _))
  | .identity (.settle ..) => inferInstanceAs (Decidable (∀ i ∈ s.identities.rows, _))
  | .identity (.confirmMerge ..) => inferInstanceAs (Decidable (∀ i ∈ s.identities.rows, _))
  | .processPRWebhook .. => inferInstanceAs (Decidable (_ → _))
  | .identity (.recordResolution _ .resolved none _)
  | .identity (.recordResolution _ .resolved (some .jsonNull) _)
  | .identity (.recordResolution _ .resolved (some .malformed) _)
  | .identity (.recordResolution _ .noMap _ _) | .identity (.recordResolution _ .failed _ _)
  | .identity (.recordResolution _ .pending _ _) | .identity (.sweepResolutions ..)
  | .identity (.resetAbandoned ..) | .identity (.claim ..) | .resolveSilentMergedGroups ..
  | .updateGroupStatus .. | .finalizeDelivery .. => isTrue trivial

variable {s s' : Store}

variable {now : Timestamp}

theorem heard_settle (wf : WellFormed s) (heard : Heard sha256 s) {identity : EventIdentity}
    {issueID episodeID freshIssue freshEpisode : UUID} (guard : Meets sha256 s
      (.identity (.settle identity.eventID freshIssue freshEpisode now)))
    (found : s.identities.find? identity.eventID = some identity)
    (foundEvent : s.events.find? identity.eventID = some ev)
    (resolved : s.resolutions.find? identity.eventID = some resolution)
    (aliases : observationAliases sha256 identity resolution =
      .ok (candidates, resolvedFingerprint))
    (settles : Settles s s' identity ev candidates resolvedFingerprint issueID episodeID freshIssue
      freshEpisode now) : Heard sha256 s' := by
  have fingerprints := fingerprintsOf_aliases sha256 resolved aliases
    (wf.fingerprint _ identity found).1
  have resolutions : s'.resolutions = s.resolutions := by rw [settles.frame]
  have lost : ∀ j, s'.Lost j ↔ s.Lost j := by
    intro j
    rw [Store.Lost, Store.receipt?, settles.frame]
    rfl
  intro j g' e i evOther present live foundOther unsettled points foundEventOther
  rw [lost] at live
  rw [settles.identity_eq found] at foundOther
  split at foundOther
  · cases foundOther
    rcases unsettled with status | status <;> cases status
  · rename_i other
    rw [settles.event_eq foundEvent, if_neg other] at foundEventOther
    obtain ⟨f, member, isBound⟩ := points
    rw [fingerprintsOf, resolutions, ← fingerprintsOf] at member
    rw [settles.groups] at present
    by_cases own : j = issueID
    · subst own
      rw [if_pos rfl, Option.some.injEq] at present
      subst present
      unfold settledGroup
      by_cases recurs : Recurs (baseGroup s j ev) ev
      · rw [if_pos recurs]
        exact admits_of_unhidden evOther (by simp [reopen]) (by simp [reopen])
      · rw [if_neg recurs]
        refine (admits_congr ⟨rfl, rfl, rfl⟩ ⟨rfl, rfl⟩ :
          Admits _ evOther ↔ Admits (baseGroup s j ev) evOther).mpr ?_
        rcases settles.target with ⟨g, before, active, c, memC, boundC⟩ | ⟨absent, -, -⟩
        · have base : baseGroup s j ev = g := by simp [baseGroup, before]
          rw [base] at recurs ⊢
          rcases settles.origin _ _ _ isBound with earlier | ⟨unbound, -, version, shared⟩
          · exact heard j g e i evOther before live foundOther unsettled ⟨f, member, earlier⟩
              foundEventOther
          · -- the settlement bound the fingerprint: the guard speaks of this observation
            have pointsOwn : PointsAt sha256 s identity g.id := by
              refine ⟨c.fingerprint, ?_, ?_⟩
              · exact (fingerprints _).mp (List.mem_map_of_mem memC)
              · rw [boundC, Table.key_of_find? before]
            have spoken := guard identity (Table.mem_of_find? found) rfl i
              (Table.mem_of_find? foundOther) unsettled
              ⟨f, (fingerprints f).mp shared, member, version ▸ unbound⟩ g
              (Table.mem_of_find? before) (by rwa [Table.key_of_find? before]) pointsOwn
            rw [Table.key_of_find? foundOther, foundEventOther, foundEvent] at spoken
            simp only [Option.all_some, Option.any_some, decide_eq_true_eq] at spoken
            exact spoken.resolve_right recurs
        · have base : baseGroup s j ev = canonicalIssue j ev := by simp [baseGroup, absent]
          rw [base]
          exact admits_of_unhidden evOther (by simp [canonicalIssue]) (by simp [canonicalIssue])
    · rw [if_neg own] at present
      rcases settles.origin _ _ _ isBound with earlier | ⟨-, same, -, -⟩
      · exact heard j g' e i evOther present live foundOther unsettled ⟨f, member, earlier⟩
          foundEventOther
      · exact absurd same own

theorem heard_merge (heard : Heard sha256 s) {winnerID loserID episodeID freshEpisode : UUID}
    {confirmedBy : ConfirmedBy} {actor : String} {winner : ErrorGroup} (guard : Meets sha256 s
      (.identity (.confirmMerge winnerID loserID confirmedBy actor freshEpisode now)))
    (winnerFound : s.groups.find? winnerID = some winner)
    (merges : Merges s s' winnerID loserID winner episodeID freshEpisode now) :
    Heard sha256 s' := by
  have resolutions : s'.resolutions = s.resolutions := by rw [merges.frame]
  intro j g' e i' ev' present live after unsettled points foundEvent
  have lost := merges.receipts j
  obtain ⟨notLoser, liveBefore⟩ : j ≠ loserID ∧ ¬s.Lost j := by
    rw [Store.Lost, Option.isSome_iff_ne_none, not_not] at live ⊢
    rw [live, Option.map_none] at lost
    split at lost
    · cases lost
    · rename_i notLoser
      exact ⟨notLoser, Option.map_eq_none_iff.mp lost.symm⟩
  rw [merges.identities, Option.map_eq_some_iff] at after
  obtain ⟨i, before, rfl⟩ := after
  rw [merges.events, Option.map_eq_some_iff] at foundEvent
  obtain ⟨ev, beforeEvent, rfl⟩ := foundEvent
  -- the fingerprint pointed at the same issue, or at the loser
  obtain ⟨f, member, isBound⟩ := points
  rw [merges.bound, Option.map_eq_some_iff] at isBound
  obtain ⟨j₀, isBound, redirected⟩ := isBound
  obtain ⟨raw, -, version⟩ := mergedIdentity_keeps s'.conflicts winnerID loserID episodeID i
  have eventID : (requeuedIdentity s'.conflicts winnerID loserID
      (movedIdentity winnerID loserID episodeID i)).eventID = i.eventID := by
    unfold requeuedIdentity movedIdentity
    split <;> split <;> rfl
  rw [fingerprintsOf, raw, eventID, resolutions, ← fingerprintsOf] at member
  rw [version] at isBound
  have pointed : PointsAt sha256 s i j ∨ (j = winnerID ∧ PointsAt sha256 s i loserID) := by
    split at redirected
    · rename_i isLoser
      exact Or.inr ⟨redirected.symm, f, member, isLoser ▸ isBound⟩
    · exact Or.inl ⟨f, member, redirected ▸ isBound⟩
  have waiting : i.Unsettled ∨
      (i.status = .conflict ∧ NamedFor s.conflicts winnerID loserID i.eventID) := by
    unfold requeuedIdentity at unsettled
    split at unsettled
    · rename_i requeued
      rw [movedIdentity_status, merges.conflicts] at requeued
      refine Or.inr ⟨requeued.1, namedFor_of_mooted ?_⟩
      rw [show i.eventID = (movedIdentity winnerID loserID episodeID i).eventID by
        unfold movedIdentity; split <;> rfl]
      exact requeued.2
    · left
      unfold EventIdentity.Unsettled at unsettled
      rw [movedIdentity_status] at unsettled
      exact unsettled
  obtain ⟨g, beforeGroup, same⟩ : ∃ g, s.groups.find? j = some g ∧
      g'.status = g.status ∧ g'.mergedAt = g.mergedAt ∧ g'.resolvedAt = g.resolvedAt := by
    rw [merges.groups, if_neg notLoser] at present
    split at present
    · rename_i isWinner
      cases present
      exact ⟨winner, isWinner ▸ winnerFound, rfl, rfl, rfl⟩
    · exact ⟨g', present, rfl, rfl, rfl⟩
  have key : g.id = j := Table.key_of_find? beforeGroup
  have spoken := guard i (Table.mem_of_find? before) g (Table.mem_of_find? beforeGroup)
    (key ▸ liveBefore)
  rw [Table.key_of_find? before, beforeEvent, Option.all_some, decide_eq_true_eq, key] at spoken
  have admits : Admits g ev := by
    rcases waiting with waits | ⟨parked, named⟩
    · rcases pointed with stays | moved
      · exact heard j g e i ev beforeGroup liveBefore before waits stays beforeEvent
      · exact spoken (Or.inl ⟨waits, moved⟩)
    · exact spoken (Or.inr ⟨parked, Table.key_of_find? before ▸ named, pointed⟩)
  refine (admits_congr same ?_).mpr admits
  split <;> exact ⟨rfl, rfl⟩

theorem heard_identity (wf : WellFormed s) (heard : Heard sha256 s) (a : Identity.Action)
    (guard : Meets sha256 s (.identity a)) : Heard sha256 (Identity.step sha256 s a) := by
  refine step_induction sha256 a heard ?_ ?_ ?_ ?_ ?_
  · rintro s' eventID p now rfl success
    obtain ⟨events, insertedEvent, rest⟩ := Except.of_bind success
    obtain ⟨identities, inserted, rest⟩ := Except.of_bind rest
    rw [Option.orError_eq_ok_iff] at insertedEvent inserted
    cases rest
    intro j g e i ev present live found unsettled points foundEvent
    rw [show identities.find? e = _ from Table.find?_insert? inserted e] at found
    rw [show events.find? e = _ from Table.find?_insert? insertedEvent e] at foundEvent
    by_cases own : e = eventID
    · simp only [CaptureParams.identity_eventID, CaptureParams.event_id, own, if_true,
        Option.some.injEq] at found foundEvent
      subst found foundEvent
      have key : g.id = j := Table.key_of_find? present
      exact guard g (Table.mem_of_find? present) (key ▸ live) (key ▸ points)
    · simp only [CaptureParams.identity_eventID, CaptureParams.event_id, own, if_false]
        at found foundEvent
      exact heard j g e i ev present live found unsettled points foundEvent
  · intro t recorded j g e i ev present live found unsettled points foundEvent
    obtain ⟨f, member, isBound⟩ := points
    have before : f ∈ fingerprintsOf sha256 s i → Admits g ev := fun member =>
      heard j g e i ev present live found unsettled ⟨f, member, isBound⟩ foundEvent
    rcases (mem_fingerprintsOf sha256 _ i f).mp member with raw | ⟨r, env, foundR, status, column, hash⟩
    · exact before ((mem_fingerprintsOf sha256 s i f).mpr (Or.inl raw))
    · cases recorded _ r foundR with
      | kept old =>
        exact before ((mem_fingerprintsOf sha256 s i f).mpr
          (Or.inr ⟨r, env, old, status, column, hash⟩))
      | unresolved unresolved => exact absurd status unresolved
      | recorded now action =>
        rw [status, column] at action
        subst action
        have key : g.id = j := Table.key_of_find? present
        have spoken := guard i (Table.mem_of_find? found) rfl unsettled g
          (Table.mem_of_find? present) (key ▸ live) (by rw [← hash, key]; exact isBound)
        rw [Table.key_of_find? found, foundEvent, Option.all_some, decide_eq_true_eq] at spoken
        exact spoken
  · intro p status claimedAt unsettled target j g e i' ev present live found waiting points foundEvent
    rw [Table.find?_updateWhere, Option.map_eq_some_iff] at found
    obtain ⟨i, before, rfl⟩ := found
    refine heard j g e i ev present live before ?_ ?_ foundEvent
    · split at waiting
      · rename_i selected
        exact unsettled i selected
      · exact waiting
    · refine (pointsAt_congr sha256 ?_ rfl (fun _ _ => rfl) j).mp points
      split <;> exact ⟨rfl, rfl, rfl⟩
  · rintro s' eventID identity freshIssue freshEpisode now result rfl found did
    have key : identity.eventID = eventID := Table.key_of_find? found
    subst key
    cases did with
    | retried _ same _ => exact same ▸ heard
    | parked _ _ _ _ _ _ _ _ _ parks _ =>
      obtain ⟨_, _, -, rfl⟩ := parkConflict_effects parks
      intro j g e i ev present live after unsettled points foundEvent
      rw [Table.find?_updateKey, found] at after
      split at after
      · cases after
        rcases unsettled with status | status <;> cases status
      · exact heard j g e i ev present live after unsettled points foundEvent
    | attached resolution _ _ _ _ _ _ _ _ unsettled resolved aliases steps _ =>
      obtain ⟨ev, foundEvent, -, settles⟩ := wf.settles found unsettled steps
      exact heard_settle sha256 wf heard guard found foundEvent resolved aliases settles
  · rintro s' winnerID loserID confirmedBy actor freshEpisode now winner loser rfl accepted
    obtain ⟨episodeID, merges⟩ := accepted.merges (wf.unopened accepted.winnerFound)
    exact heard_merge sha256 heard guard accepted.winnerFound merges

theorem heard_groups (heard : Heard sha256 s) (writes : Lifecycle.WritesGroups s s')
    (rows : ∀ j g', s'.groups.find? j = some g' → ∃ g, s.groups.find? j = some g ∧
      ∀ e i ev, ¬s.Lost j → s.identities.find? e = some i → i.Unsettled →
        PointsAt sha256 s i j → s.events.find? e = some ev → Admits g ev → Admits g' ev) :
    Heard sha256 s' := by
  intro j g' e i ev present live found unsettled points foundEvent
  obtain ⟨g, before, admits⟩ := rows j g' present
  rw [Store.Lost, Lifecycle.receipt?_eq writes] at live
  rw [writes.identities] at found
  rw [writes.events] at foundEvent
  have points' : PointsAt sha256 s i j := (pointsAt_congr sha256 ⟨rfl, rfl, rfl⟩
    writes.resolutions (Lifecycle.bound_eq writes) j).mp points
  exact admits e i ev live found unsettled points' foundEvent
    (heard j g e i ev before live found unsettled points' foundEvent)

theorem rows_updateGroups {p : ErrorGroup → Bool} {f : ErrorGroup → ErrorGroup}
    {frame : ∀ g, (f g).id = g.id} {j : UUID} {g' : ErrorGroup}
    (present : (s.updateGroups p f frame now).groups.find? j = some g')
    (admits : ∀ g, p g → ∀ ev, Admits g ev → Admits (f g) ev) :
    ∃ g, s.groups.find? j = some g ∧ ∀ ev, Admits g ev → Admits g' ev := by
  rw [Store.find?_updateGroups, Option.map_eq_some_iff] at present
  obtain ⟨g, before, rfl⟩ := present
  refine ⟨g, before, fun ev admitted => ?_⟩
  split
  · rename_i selected
    exact admits g selected ev admitted
  · exact admitted

theorem admits_resolveSilent (silent : SilentlyMerged s now g) (admits : Admits g ev) :
    Admits (resolveGroup "merged" now g) ev := by
  intro after
  simp only [SilentlyMerged, Bool.and_eq_true, decide_eq_true_eq] at silent
  exact absurd (Or.inl silent.1) (admits after)

theorem heard_step (wf : WellFormed s) (heard : Heard sha256 s) (a : Action)
    (guard : Meets sha256 s a) : Heard sha256 (step sha256 s a) := by
  have writes : ∀ b : Lifecycle.Action, (∀ i, b ≠ .identity i) →
      Lifecycle.WritesGroups s (Lifecycle.step sha256 s b) :=
    fun b outside => Lifecycle.writesGroups_step sha256 s b outside
  cases a with
  | identity a => exact heard_identity sha256 wf heard a guard
  | processPRWebhook w now =>
    refine heard_groups sha256 heard (writes (.processPRWebhook w now) (by simp)) fun j g' present => ?_
    rcases processPRWebhook_groups s.groups s.pr w now j with same | ⟨unseen, g, before, change⟩
    · exact ⟨g', same ▸ present, fun _ _ _ _ _ _ _ _ admits => admits⟩
    · refine ⟨g, before, fun e i ev live found unsettled points foundEvent admits => ?_⟩
      have present' : (Delivery.processPRWebhook s.groups s.pr w now).1.find? j = some g' := present
      rcases change with ⟨-, -, after⟩ | ⟨merged, target, after⟩
      · rw [after, Option.some.injEq] at present'
        obtain ⟨unresolved, unmerged⟩ := Lifecycle.closeUnmerged_status_ne now g
        exact present' ▸ admits_of_unhidden ev unmerged unresolved
      · rw [after, Option.some.injEq] at present'
        have key : g.id = j := Table.key_of_find? before
        have spoken := guard merged unseen g (Table.mem_of_find? before) target (key ▸ live) i
          (Table.mem_of_find? found) unsettled (key ▸ points)
        rw [Table.key_of_find? found, foundEvent, Option.all_some, decide_eq_true_eq] at spoken
        rw [← present']
        intro fixed
        simp only [AfterFix, markMerged, Option.any_some, decide_eq_true_eq] at fixed
        exact absurd fixed (not_lt.mpr spoken)
  | resolveSilentMergedGroups now =>
    refine heard_groups sha256 heard (writes (.resolveSilentMergedGroups now) (by simp))
      fun j g' present => ?_
    obtain ⟨g, before, admits⟩ := rows_updateGroups present
      fun _ silent _ admitted => admits_resolveSilent silent admitted
    exact ⟨g, before, fun _ _ ev _ _ _ _ _ => admits ev⟩
  | updateGroupStatus groupID status fields leaseID now =>
    refine heard_groups sha256 heard
      (writes (.updateGroupStatus groupID status fields leaseID now) (by simp))
      fun j g' present => ?_
    have present' : (committed s (Identity.updateGroupStatus s groupID status fields leaseID now)).groups.find? j =
        some g' := present
    rcases committed_eq s (Identity.updateGroupStatus s groupID status fields leaseID now)
      with same | ok
    · rw [same] at present'
      exact ⟨g', present', fun _ _ _ _ _ _ _ _ admits => admits⟩
    · obtain ⟨_, -, rest⟩ := Except.of_bind ok
      rw [Except.ok.injEq] at rest
      rw [← rest] at present'
      obtain ⟨g, before, admits⟩ := rows_updateGroups present' fun g _ ev _ =>
        admits_of_unhidden ev status.property.1 status.property.2
      exact ⟨g, before, fun _ _ ev _ _ _ _ _ => admits ev⟩
  | finalizeDelivery groupID input now =>
    refine heard_groups sha256 heard (writes (.finalizeDelivery groupID input now) (by simp))
      fun j g' present => ?_
    have present' : (committed s (Identity.finalizeDelivery s groupID input now)).groups.find? j = some g' :=
      present
    rcases committed_eq s (Identity.finalizeDelivery s groupID input now) with same | ok
    · rw [same] at present'
      exact ⟨g', present', fun _ _ _ _ _ _ _ _ admits => admits⟩
    · obtain ⟨_, -, rest⟩ := Except.of_bind ok
      rw [Except.ite_error_eq_ok_iff, Except.ok.injEq] at rest
      rw [← rest.2] at present'
      obtain ⟨unresolved, -, unmerged⟩ := input.status_ne
      have delivered : (s.updateGroups (fun r => r.id = groupID) (deliver input now)
          (deliver_id input now) now).groups.find? j = some g' := present'
      obtain ⟨g, before, admits⟩ := rows_updateGroups delivered fun g _ ev _ =>
        admits_of_unhidden ev unmerged unresolved
      exact ⟨g, before, fun _ _ ev _ _ _ _ _ => admits ev⟩

/-- The observation can settle onto the issue, the sweep does not call the issue silent,
and the observation settles into a round that is open. -/
structure Surfaces (s : Store) (g : ErrorGroup) (i : EventIdentity) : Prop where
  settles : ∀ resolution candidates resolvedFingerprint,
    s.resolutions.find? i.eventID = some resolution → resolution.status.Terminal →
    observationAliases sha256 i resolution = .ok (candidates, resolvedFingerprint) →
    (∀ c ∈ candidates, ∀ j, s.bound i.identityVersion c.fingerprint = some j → j = g.id) →
    ∀ freshIssue freshEpisode now, s.episodes.table.find? freshEpisode = none →
      ∃ s', Settle sha256 s i.eventID freshIssue freshEpisode now =
        .ok (s', ⟨some g.id, .settled⟩)
  loud : ∀ now, (Identity.resolveSilentMergedGroups s now).groups.find? g.id = some g
  current : ∀ freshIssue freshEpisode now s',
    Settle sha256 s i.eventID freshIssue freshEpisode now = .ok (s', ⟨some g.id, .settled⟩) →
    ∃ ep i', s'.episodes.open? g.id = some ep ∧ s'.identities.find? i.eventID = some i' ∧
      i'.episodeID = some ep.id

/-- Every recurrence that waits for an issue surfaces. -/
def RecurrencesSurface (s : Store) : Prop :=
  ∀ g ∈ s.groups.rows, ¬s.Lost g.id → ∀ i ∈ s.identities.rows, i.Unsettled →
    PointsAt sha256 s i g.id → ∀ ev, s.events.find? i.eventID = some ev → AfterFix g ev →
      Surfaces sha256 s g i

theorem recurrencesSurface_of_heard (wf : WellFormed s) (heard : Heard sha256 s) :
    RecurrencesSurface sha256 s := by
  intro g memG live i memI unsettled points ev foundEvent after
  have present := s.groups.find?_key memG
  have found := s.identities.find?_key memI
  have shown : ¬Hides g ev := heard g.id g i.eventID i ev present live found unsettled points
    foundEvent after
  have active : g.status ≠ .merged := fun merged => shown (Or.inl merged)
  have notEarly : g.status = .resolved → ¬ResolvedAfter g ev.timestamp :=
    fun resolved early => shown (Or.inr ⟨resolved, early⟩)
  refine ⟨?_, ?_, ?_⟩
  · intro resolution candidates resolvedFingerprint resolved terminal aliases agree freshIssue
      freshEpisode now free
    obtain ⟨f, member, isBound⟩ := points
    obtain ⟨c, memC, rfl⟩ := List.mem_map.mp ((fingerprintsOf_aliases sha256 resolved aliases
      (wf.fingerprint _ i found).1 f).mpr member)
    exact exists_settle sha256 wf found unsettled resolved terminal aliases ⟨c, memC, isBound⟩
      agree present active foundEvent notEarly freshIssue free now
  · intro now
    rw [Identity.resolveSilentMergedGroups, Store.find?_updateGroups, present, Option.map_some,
      if_neg]
    simp [SilentlyMerged, active]
  · intro freshIssue freshEpisode now s' success
    obtain ⟨identity, found', did⟩ := settle_cases success
    rw [found, Option.some.injEq] at found'
    subst found'
    cases did with
    | retried done _ _ =>
      rcases done with d | d <;> rcases unsettled with u | u <;> rw [u] at d <;> cases d
    | parked _ _ _ _ _ _ _ _ _ _ state => cases state
    | attached _ _ _ _ episodeID _ _ _ _ _ _ _ steps state =>
      cases state
      obtain ⟨ev', foundEvent', -, settles⟩ := wf.settles found unsettled steps
      rw [foundEvent, Option.some.injEq] at foundEvent'
      subst foundEvent'
      have base : baseGroup s g.id ev = g := by simp [baseGroup, present]
      cases settles.round with
      | late resolved early _ _ =>
        rw [base] at resolved early
        exact absurd early (notEarly resolved)
      | current _ opens =>
        obtain ⟨ep, isOpen, id⟩ := opens.open?_self
        exact ⟨ep, _, isOpen, by rw [settles.identity_eq found, if_pos rfl], by rw [id]; rfl⟩

/-- A run in which no observation meets an issue that hides it hides no recurrence. -/
theorem recurrences_surface (githubRepo : String) (installationID : Option Nat)
    (actions : List Action)
    (guarded : (machine sha256).Guarded (Meets sha256) (Store.empty githubRepo installationID)
      actions) :
    RecurrencesSurface sha256
      ((machine sha256).run (Store.empty githubRepo installationID) actions) := by
  obtain ⟨wf, heard⟩ := (machine sha256).invariant_guarded
    (fun s => WellFormed s ∧ Heard sha256 s)
    (fun _ a inv guard => ⟨Lifecycle.wellFormed_step sha256 inv.1 a.lift,
      heard_step sha256 inv.1 inv.2 a guard⟩)
    ⟨wellFormed_empty githubRepo installationID, heard_empty sha256 _ _⟩ guarded
  exact recurrencesSurface_of_heard sha256 wf heard

/-- The fix of issue 101: a job works on it, delivers a pull request and the request is
merged at time 10. -/
def fixMerged : List Action :=
  (observeRaw 1 ⟨"a", a_ne_empty⟩ none 101 201 0).map .identity ++
  ([.updateGroupStatus 101 ⟨.fixing, by decide⟩ StatusFields.none none 1,
    .finalizeDelivery 101
      ⟨false, "https://github.com/acme/app/pull/7", 7, "c0ffee", "high", 301, none, none, none⟩ 2,
    .processPRWebhook ⟨7, true, "delivery-1", 10⟩ 11] : List Action)

/-- The sweep resolves the issue a day later, and a recurrence after it reopens it. -/
theorem recurrences_surface_afterSweep :
    (machine fun _ => Vector.replicate 32 0).Guarded (Meets fun _ => Vector.replicate 32 0)
      (Store.empty "acme/app" none) (fixMerged ++ [Action.resolveSilentMergedGroups 90000000000] ++
        (observeRaw 2 ⟨"a", by decide⟩ none 102 202 90000000001).map .identity) ∧
    RecurrencesSurface (fun _ => Vector.replicate 32 0)
      ((machine fun _ => Vector.replicate 32 0).run (Store.empty "acme/app" none)
        (fixMerged ++ [Action.resolveSilentMergedGroups 90000000000] ++
          (observeRaw 2 ⟨"a", by decide⟩ none 102 202 90000000001).map .identity)) := by
  have guarded : (machine fun _ => Vector.replicate 32 0).Guarded
      (Meets fun _ => Vector.replicate 32 0) (Store.empty "acme/app" none)
      (fixMerged ++ [Action.resolveSilentMergedGroups 90000000000] ++
        (observeRaw 2 ⟨"a", by decide⟩ none 102 202 90000000001).map .identity) := by decide +kernel
  exact ⟨guarded, recurrences_surface _ _ _ _ guarded⟩

def recurs : List Action :=
  fixMerged ++ (observeRaw 2 ⟨"a", a_ne_empty⟩ none 102 202 20).map .identity

/-- The recurrence cannot settle, the sweep resolves its issue as silent, and it then
settles into the round that resolution closed. -/
theorem recurrence_hidden :
    ¬RecurrencesSurface (fun _ => Vector.replicate 32 0)
      ((machine fun _ => Vector.replicate 32 0).run (Store.empty "acme/app" none) recurs) := by
  intro surface
  have waits : ∃ g ∈ ((machine fun _ => Vector.replicate 32 0).run (Store.empty "acme/app" none)
        recurs).groups.rows,
      ¬((machine fun _ => Vector.replicate 32 0).run (Store.empty "acme/app" none) recurs).Lost
        g.id ∧
      ∃ i ∈ ((machine fun _ => Vector.replicate 32 0).run (Store.empty "acme/app" none)
        recurs).identities.rows, i.Unsettled ∧
      PointsAt (fun _ => Vector.replicate 32 0) ((machine fun _ => Vector.replicate 32 0).run
        (Store.empty "acme/app" none) recurs) i g.id ∧
      ∃ ev ∈ ((machine fun _ => Vector.replicate 32 0).run (Store.empty "acme/app" none)
        recurs).events.rows, ev.id = i.eventID ∧ AfterFix g ev ∧
      (Identity.resolveSilentMergedGroups ((machine fun _ => Vector.replicate 32 0).run
        (Store.empty "acme/app" none) recurs) 90000000000).groups.find? g.id ≠ some g := by
    decide +kernel
  obtain ⟨g, memG, live, i, memI, unsettled, points, ev, memEv, key, after, silenced⟩ := waits
  have found := (Table.find?_eq_some_iff _ i.eventID ev).mpr ⟨memEv, key⟩
  exact silenced ((surface g memG live i memI unsettled points ev found after).loud 90000000000)

end Recurrence

end Opslane.Identity
