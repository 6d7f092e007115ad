import Opslane.Identity.Machine

/-!
# Well-formed stores

What every transaction of the identity machine keeps: an observation and its
identity come in pairs and name one issue, settled identities are exactly those
with an issue, every fingerprint an identity settled under is bound to its issue,
and a resolved issue has no open work round.
-/

namespace Opslane.Identity

structure WellFormed (s : Store) : Prop where
  /-- Events and identities are captured together. -/
  paired : ∀ e, (s.events.find? e).isSome = (s.identities.find? e).isSome
  /-- An event is attached to the issue its identity names. -/
  handle : ∀ e ev i, s.events.find? e = some ev → s.identities.find? e = some i →
    ev.errorGroupID = i.canonicalIssueID
  settled : ∀ e i, s.identities.find? e = some i →
    (i.status = .settled ↔ i.canonicalIssueID.isSome)
  fingerprint : ∀ e i, s.identities.find? e = some i →
    i.rawFingerprint ≠ "" ∧ i.identityVersion = IdentityVersion
  issue : ∀ e i g, s.identities.find? e = some i → i.canonicalIssueID = some g →
    (s.groups.find? g).isSome
  boundIssue : ∀ v f g, s.bound v f = some g → (s.groups.find? g).isSome
  /-- The aliases of a settled observation are bound to its issue. -/
  agree : ∀ e i g, s.identities.find? e = some i → i.canonicalIssueID = some g →
    s.bound i.identityVersion i.rawFingerprint = some g ∧
      ∀ f, i.resolvedFingerprint = some f → s.bound i.identityVersion f = some g
  /-- A resolved issue has no open round. -/
  closed : ∀ i g, s.groups.find? i = some g → g.status = .resolved → s.episodes.open? i = none

theorem wellFormed_empty (githubRepo : String) (installationID : Option Nat) :
    WellFormed (Store.empty githubRepo installationID) := by
  constructor <;> simp [Store.empty, Store.bound, Table.find?_empty]

variable {s s' : Store}

variable {i : EventIdentity}

theorem WellFormed.eventOf (wf : WellFormed s) {e : UUID} (found : s.identities.find? e = some i) :
    ∃ ev, s.events.find? e = some ev ∧ ev.errorGroupID = i.canonicalIssueID := by
  obtain ⟨ev, present⟩ : ∃ ev, s.events.find? e = some ev := by
    rw [← Option.isSome_iff_exists, wf.paired, found]
    rfl
  exact ⟨ev, present, wf.handle e ev i present found⟩

variable {ev : ErrorEvent}

theorem WellFormed.identityOf (wf : WellFormed s) {e : UUID} (found : s.events.find? e = some ev) :
    ∃ i, s.identities.find? e = some i ∧ ev.errorGroupID = i.canonicalIssueID := by
  obtain ⟨i, present⟩ : ∃ i, s.identities.find? e = some i := by
    rw [← Option.isSome_iff_exists, ← wf.paired, found]
    rfl
  exact ⟨i, present, wf.handle e ev i found present⟩

theorem WellFormed.free (wf : WellFormed s) {e : UUID} (found : s.identities.find? e = some i)
    (unsettled : i.status ≠ .settled) :
    i.canonicalIssueID = none := by
  have settled := wf.settled e i found
  cases canonical : i.canonicalIssueID with
  | none => rfl
  | some g => exact absurd (settled.mpr (by simp [canonical])) unsettled

theorem EventIdentity.Unsettled.ne_settled (unsettled : i.Unsettled) :
    i.status ≠ .settled := by
  rcases unsettled with h | h <;> simp [h]

variable {now : Timestamp} {before after : Episodes}

theorem OpensRound.open?_self {issueID episodeID fresh : UUID}
    (opens : OpensRound before after issueID episodeID fresh now) :
    ∃ ep, after.open? issueID = some ep ∧ ep.id = episodeID := by
  cases opens with
  | reused same isOpen =>
    rw [same]
    exact isOpen
  | opened _ id _ rows =>
    exact ⟨_, (Episodes.open?_cons rows _).trans (if_pos ⟨rfl, rfl⟩), id.symm⟩

theorem OpensRound.open?_other {issueID episodeID fresh : UUID}
    (opens : OpensRound before after issueID episodeID fresh now) {i : UUID} (other : i ≠ issueID) :
    after.open? i = before.open? i := by
  cases opens with
  | reused same _ => rw [same]
  | opened _ _ _ rows =>
    rw [Episodes.open?_cons rows]
    simp [Ne.symm other]

variable {winner : ErrorGroup}

theorem WinnerRound.open?_other {episodeID fresh : UUID}
    (round : WinnerRound before after winner episodeID fresh now) {i : UUID}
    (other : i ≠ winner.id) : after.open? i = before.open? i := by
  cases round with
  | told _ same _ => rw [same]
  | first _ _ _ rows =>
    obtain ⟨closed, rows⟩ := rows
    rw [Episodes.open?_cons rows]
    simp
  | live _ opens => exact opens.open?_other other

theorem WinnerRound.open?_resolved {episodeID fresh : UUID}
    (round : WinnerRound before after winner episodeID fresh now)
    (resolved : winner.status = .resolved) (i : UUID) : after.open? i = before.open? i := by
  cases round with
  | told _ same _ => rw [same]
  | first _ _ _ rows =>
    obtain ⟨closed, rows⟩ := rows
    rw [Episodes.open?_cons rows]
    simp
  | live unresolved _ => exact absurd resolved unresolved

theorem WellFormed.capture (wf : WellFormed s) {eventID : UUID} {p : CaptureParams}
    (success : CaptureError s eventID p now = .ok s') : WellFormed s' := by
  obtain ⟨events, insertedEvent, rest⟩ := Except.of_bind success
  obtain ⟨identities, insertedIdentity, rest⟩ := Except.of_bind rest
  rw [Option.orError_eq_ok_iff] at insertedEvent insertedIdentity
  cases rest
  have event := Table.find?_insert? insertedEvent
  have identity := Table.find?_insert? insertedIdentity
  -- the new row belongs to no issue; every other row is as before
  have old : ∀ {e i}, identities.find? e = some i →
      i = p.identity eventID ∨ s.identities.find? e = some i := by
    intro e i found
    rw [identity] at found
    split at found
    · exact Or.inl (Option.some.inj found).symm
    · exact Or.inr found
  refine
    { paired := ?_, handle := ?_, settled := ?_, fingerprint := ?_, issue := ?_, boundIssue := wf.boundIssue,
      agree := ?_, closed := wf.closed }
  · intro e
    show (events.find? e).isSome = (identities.find? e).isSome
    rw [event, identity]
    by_cases new : e = eventID
    · simp [CaptureParams.event, CaptureParams.identity, new]
    · simpa [CaptureParams.event, CaptureParams.identity, new] using wf.paired e
  · intro e ev i foundEvent foundIdentity
    rw [show (events.find? e) = _ from event e] at foundEvent
    rw [show (identities.find? e) = _ from identity e] at foundIdentity
    by_cases new : e = eventID
    · simp only [CaptureParams.event, CaptureParams.identity, new, if_true,
        Option.some.injEq] at foundEvent foundIdentity
      rw [← foundEvent, ← foundIdentity]
    · simp only [CaptureParams.event, CaptureParams.identity, new, if_false]
        at foundEvent foundIdentity
      exact wf.handle e ev i foundEvent foundIdentity
  · intro e i found
    rcases old found with rfl | found
    · simp [CaptureParams.identity]
    · exact wf.settled e i found
  · intro e i found
    rcases old found with rfl | found
    · exact ⟨p.rawFingerprint.property, rfl⟩
    · exact wf.fingerprint e i found
  · intro e i g found canonical
    rcases old found with rfl | found
    · cases canonical
    · exact wf.issue e i g found canonical
  · intro e i g found canonical
    rcases old found with rfl | found
    · cases canonical
    · exact wf.agree e i g found canonical

theorem WellFormed.reschedule (wf : WellFormed s) {p : EventIdentity → Bool}
    {status : IdentityStatus} {claimedAt : Option Timestamp}
    (unsettled : ∀ i, p i → i.Unsettled) (target : status = .pending ∨ status = .settling) :
    WellFormed { s with
      identities := s.identities.updateWhere p (fun i => { i with status, claimedAt })
        fun _ => rfl } := by
  have origin : ∀ {e i'}, (s.identities.updateWhere p (fun i => { i with status, claimedAt })
      fun _ => rfl).find? e = some i' →
      ∃ i, s.identities.find? e = some i ∧ i' = if p i then { i with status, claimedAt } else i := by
    intro e i' found
    rw [Table.find?_updateWhere, Option.map_eq_some_iff] at found
    obtain ⟨i, found, rfl⟩ := found
    exact ⟨i, found, rfl⟩
  have notSettled : status ≠ .settled := by rcases target with h | h <;> simp [h]
  refine
    { paired := ?_, handle := ?_, settled := ?_, fingerprint := ?_, issue := ?_, boundIssue := wf.boundIssue,
      agree := ?_, closed := wf.closed }
  · intro e
    simp only [Table.find?_updateWhere, Option.isSome_map]
    exact wf.paired e
  · intro e ev i' foundEvent found
    obtain ⟨i, before, rfl⟩ := origin found
    rw [wf.handle e ev i foundEvent before]
    split <;> rfl
  · intro e i' found
    obtain ⟨i, before, rfl⟩ := origin found
    split
    · rename_i h
      have free := wf.free before (unsettled i h).ne_settled
      simp [free, notSettled]
    · exact wf.settled e i before
  · intro e i' found
    obtain ⟨i, before, rfl⟩ := origin found
    have same := wf.fingerprint e i before
    split <;> exact same
  · intro e i' g found canonical
    obtain ⟨i, before, rfl⟩ := origin found
    refine wf.issue e i g before ?_
    split at canonical <;> exact canonical
  · intro e i' g found canonical
    obtain ⟨i, before, rfl⟩ := origin found
    have same := wf.agree e i g before (by split at canonical <;> exact canonical)
    split <;> exact same

variable {resolvedFingerprint : String} {identity : EventIdentity}

theorem WellFormed.park (wf : WellFormed s) {a b : UUID}
    (found : s.identities.find? identity.eventID = some identity) (unsettled : identity.Unsettled)
    (success : parkConflict s identity.eventID [a, b] resolvedFingerprint = .ok s') :
    WellFormed s' := by
  obtain ⟨_, _, -, rfl⟩ := parkConflict_effects success
  have free := wf.free found unsettled.ne_settled
  have origin : ∀ {e i'}, (s.identities.updateKey identity.eventID
      (parkedIdentity resolvedFingerprint) (parkedIdentity_eventID resolvedFingerprint)).find? e =
        some i' →
      (e = identity.eventID ∧ i' = parkedIdentity resolvedFingerprint identity) ∨
        s.identities.find? e = some i' := by
    intro e i' after
    rw [Table.find?_updateKey, found] at after
    split at after
    · rename_i same
      exact Or.inl ⟨same, (Option.some.inj after).symm⟩
    · exact Or.inr after
  refine
    { paired := ?_, handle := ?_, settled := ?_, fingerprint := ?_, issue := ?_,
      boundIssue := wf.boundIssue, agree := ?_, closed := wf.closed }
  · intro e
    rw [wf.paired, Table.find?_updateKey]
    split
    · rename_i same
      simp [same, found]
    · rfl
  · intro e ev i' foundEvent after
    rcases origin after with ⟨rfl, rfl⟩ | before
    · exact wf.handle _ ev identity foundEvent found
    · exact wf.handle e ev i' foundEvent before
  · intro e i' after
    rcases origin after with ⟨rfl, rfl⟩ | before
    · simp [parkedIdentity, free]
    · exact wf.settled e i' before
  · intro e i' after
    rcases origin after with ⟨rfl, rfl⟩ | before
    · exact wf.fingerprint _ identity found
    · exact wf.fingerprint e i' before
  · intro e i' g after canonical
    rcases origin after with ⟨rfl, rfl⟩ | before
    · rw [parkedIdentity, free] at canonical
      cases canonical
    · exact wf.issue e i' g before canonical
  · intro e i' g after canonical
    rcases origin after with ⟨rfl, rfl⟩ | before
    · rw [parkedIdentity, free] at canonical
      cases canonical
    · exact wf.agree e i' g before canonical

variable {issueID episodeID freshIssue freshEpisode : UUID} {candidates : List CandidateAlias}

theorem Settles.identity_eq
    (settles : Settles s s' identity ev candidates resolvedFingerprint issueID episodeID freshIssue
      freshEpisode now) (found : s.identities.find? identity.eventID = some identity) (e : UUID) :
    s'.identities.find? e = if e = identity.eventID then
      some (settledIdentity issueID resolvedFingerprint episodeID now identity)
    else s.identities.find? e := by
  rw [settles.identities, Table.find?_updateKey, found]
  rfl

theorem Settles.event_eq
    (settles : Settles s s' identity ev candidates resolvedFingerprint issueID episodeID freshIssue
      freshEpisode now) (found : s.events.find? identity.eventID = some ev) (e : UUID) :
    s'.events.find? e = if e = identity.eventID then
      some { ev with errorGroupID := some issueID } else s.events.find? e := by
  have key : ev.id = identity.eventID := Table.key_of_find? found
  rw [← key] at found ⊢
  rw [settles.events, Table.find?_updateKey, found]
  rfl

theorem Settles.group_isSome
    (settles : Settles s s' identity ev candidates resolvedFingerprint issueID episodeID freshIssue
      freshEpisode now) {g : UUID} (present : (s.groups.find? g).isSome) :
    (s'.groups.find? g).isSome := by
  rw [settles.groups]
  split
  · rfl
  · exact present

theorem WellFormed.settle (wf : WellFormed s) {sha256 : String → Vector UInt8 32}
    {resolution : EventResolution} (found : s.identities.find? identity.eventID = some identity)
    (foundEvent : s.events.find? identity.eventID = some ev)
    (aliases : observationAliases sha256 identity resolution =
      .ok (candidates, resolvedFingerprint))
    (settles : Settles s s' identity ev candidates resolvedFingerprint issueID episodeID freshIssue
      freshEpisode now) :
    WellFormed s' := by
  have identities := settles.identity_eq found
  have events := settles.event_eq foundEvent
  have origin : ∀ {e i'}, s'.identities.find? e = some i' →
      (e = identity.eventID ∧
        i' = settledIdentity issueID resolvedFingerprint episodeID now identity) ∨
      (e ≠ identity.eventID ∧ s.identities.find? e = some i') := by
    intro e i' after
    rw [identities] at after
    split at after
    · rename_i same
      exact Or.inl ⟨same, (Option.some.inj after).symm⟩
    · rename_i other
      exact Or.inr ⟨other, after⟩
  have own : (s'.groups.find? issueID).isSome := by
    rw [settles.groups, if_pos rfl]
    rfl
  refine
    { paired := ?_, handle := ?_, settled := ?_, fingerprint := ?_, issue := ?_, boundIssue := ?_,
      agree := ?_, closed := ?_ }
  · intro e
    rw [identities, events]
    split
    · rfl
    · exact wf.paired e
  · intro e ev' i' foundEvent' after
    rw [events] at foundEvent'
    rcases origin after with ⟨rfl, rfl⟩ | ⟨other, before⟩
    · rw [if_pos rfl] at foundEvent'
      cases foundEvent'
      rfl
    · rw [if_neg other] at foundEvent'
      exact wf.handle e ev' i' foundEvent' before
  · intro e i' after
    rcases origin after with ⟨rfl, rfl⟩ | ⟨-, before⟩
    · simp [settledIdentity]
    · exact wf.settled e i' before
  · intro e i' after
    rcases origin after with ⟨rfl, rfl⟩ | ⟨-, before⟩
    · exact wf.fingerprint _ identity found
    · exact wf.fingerprint e i' before
  · intro e i' g after canonical
    rcases origin after with ⟨rfl, rfl⟩ | ⟨-, before⟩
    · cases canonical
      exact own
    · exact settles.group_isSome (wf.issue e i' g before canonical)
  · intro v f g isBound
    rcases settles.origin v f g isBound with before | ⟨-, rfl, -, -⟩
    · exact settles.group_isSome (wf.boundIssue v f g before)
    · exact own
  · intro e i' g after canonical
    rcases origin after with ⟨rfl, rfl⟩ | ⟨-, before⟩
    · cases canonical
      obtain ⟨fingerprints, -⟩ :=
        observationAliases_fingerprints aliases (wf.fingerprint _ identity found).1
      have covered : ∀ f, (f = identity.rawFingerprint ∨ nullIfEmpty resolvedFingerprint = some f) →
          s'.bound identity.identityVersion f = some issueID := by
        intro f h
        obtain ⟨c, member, rfl⟩ := List.mem_map.mp ((fingerprints f).mpr h)
        exact settles.covers c member
      exact ⟨covered _ (Or.inl rfl), fun f h => covered f (Or.inr h)⟩
    · obtain ⟨raw, resolved⟩ := wf.agree e i' g before canonical
      exact ⟨settles.kept _ _ _ raw, fun f h => settles.kept _ _ _ (resolved f h)⟩
  · intro i g' found' resolved
    rw [settles.groups] at found'
    by_cases same : i = issueID
    · subst same
      rw [if_pos rfl, Option.some.injEq] at found'
      subst found'
      -- only an observation from before the resolution leaves the issue resolved
      unfold settledGroup at resolved
      split at resolved
      · cases resolved
      · rename_i notRecurs
        have base : (baseGroup s i ev).status = .resolved := resolved
        cases settles.round with
        | late _ _ sameEpisodes _ =>
          rw [sameEpisodes]
          rcases settles.target with ⟨g, present, -, -⟩ | ⟨absent, -, -⟩
          · refine wf.closed i g present ?_
            simpa [baseGroup, present] using base
          · simp [baseGroup, absent, canonicalIssue] at base
        | current live _ =>
          rcases live with unresolved | recurs
          · exact absurd base unresolved
          · exact absurd recurs notRecurs
    · rw [if_neg same] at found'
      have before := wf.closed i g' found' resolved
      cases settles.round with
      | late _ _ sameEpisodes _ => rw [sameEpisodes, before]
      | current _ opens => rw [opens.open?_other same, before]

theorem WellFormed.unopened (wf : WellFormed s) {winnerID : UUID}
    (found : s.groups.find? winnerID = some winner) :
    winner.status = .resolved → s.episodes.open? winnerID = none :=
  wf.closed winnerID winner found

variable {winnerID loserID episodeID freshEpisode : UUID}

theorem Merges.group_isSome
    (merges : Merges s s' winnerID loserID winner episodeID freshEpisode now) {g : UUID}
    (present : (s.groups.find? g).isSome) : (s'.groups.find? g).isSome := by
  rw [merges.groups]
  split
  · rfl
  · split
    · rw [Option.isSome_map]
      exact present
    · exact present

@[simp] theorem movedIdentity_status (winnerID loserID episodeID : UUID) (i : EventIdentity) :
    (movedIdentity winnerID loserID episodeID i).status = i.status := by
  unfold movedIdentity
  split <;> rfl

theorem movedIdentity_canonical (winnerID loserID episodeID : UUID) (i : EventIdentity) :
    (movedIdentity winnerID loserID episodeID i).canonicalIssueID =
      i.canonicalIssueID.map fun g => if g = loserID then winnerID else g := by
  unfold movedIdentity
  cases canonical : i.canonicalIssueID with
  | none => simp [canonical]
  | some g => by_cases lost : g = loserID <;> simp [canonical, lost]

@[simp] theorem requeuedIdentity_canonical (conflicts : Table AliasConflict.key)
    (winnerID loserID : UUID) (i : EventIdentity) :
    (requeuedIdentity conflicts winnerID loserID i).canonicalIssueID = i.canonicalIssueID := by
  unfold requeuedIdentity
  split <;> rfl

theorem requeuedIdentity_settled (conflicts : Table AliasConflict.key) (winnerID loserID : UUID)
    (i : EventIdentity) :
    (requeuedIdentity conflicts winnerID loserID i).status = .settled ↔ i.status = .settled := by
  unfold requeuedIdentity
  split
  · rename_i h
    simp [h.1]
  · rfl

theorem mergedIdentity_keeps (conflicts : Table AliasConflict.key)
    (winnerID loserID episodeID : UUID) (i : EventIdentity) :
    let i' := requeuedIdentity conflicts winnerID loserID (movedIdentity winnerID loserID episodeID i)
    i'.rawFingerprint = i.rawFingerprint ∧ i'.resolvedFingerprint = i.resolvedFingerprint ∧
      i'.identityVersion = i.identityVersion := by
  unfold requeuedIdentity movedIdentity
  split <;> split <;> exact ⟨rfl, rfl, rfl⟩

theorem WellFormed.merge (wf : WellFormed s) (winnerFound : s.groups.find? winnerID = some winner)
    (distinct : winnerID ≠ loserID)
    (merges : Merges s s' winnerID loserID winner episodeID freshEpisode now) :
    WellFormed s' := by
  have key : winner.id = winnerID := Table.key_of_find? winnerFound
  have origin : ∀ {e i'}, s'.identities.find? e = some i' → ∃ i, s.identities.find? e = some i ∧
      i' = requeuedIdentity s'.conflicts winnerID loserID
        (movedIdentity winnerID loserID episodeID i) := by
    intro e i' after
    rw [merges.identities, Option.map_eq_some_iff] at after
    obtain ⟨i, before, rfl⟩ := after
    exact ⟨i, before, rfl⟩
  have canonical : ∀ i : EventIdentity, (requeuedIdentity s'.conflicts winnerID loserID
      (movedIdentity winnerID loserID episodeID i)).canonicalIssueID =
        i.canonicalIssueID.map fun g => if g = loserID then winnerID else g := by
    intro i
    rw [requeuedIdentity_canonical, movedIdentity_canonical]
  have redirect : ∀ g, (s.groups.find? g).isSome →
      (s'.groups.find? (if g = loserID then winnerID else g)).isSome := by
    intro g present
    split
    · rw [merges.groups, if_pos rfl]
      rfl
    · exact merges.group_isSome present
  refine
    { paired := ?_, handle := ?_, settled := ?_, fingerprint := ?_, issue := ?_, boundIssue := ?_,
      agree := ?_, closed := ?_ }
  · intro e
    rw [merges.events, merges.identities, Option.isSome_map, Option.isSome_map]
    exact wf.paired e
  · intro e ev' i' foundEvent after
    obtain ⟨i, before, rfl⟩ := origin after
    rw [merges.events, Option.map_eq_some_iff] at foundEvent
    obtain ⟨ev, found, rfl⟩ := foundEvent
    have handle := wf.handle e ev i found before
    rw [Table.key_of_find? found, before, canonical]
    simp only [Option.any_some, decide_eq_true_eq]
    cases named : i.canonicalIssueID with
    | none => simp [handle, named]
    | some g =>
      by_cases lost : g = loserID
      · simp [lost]
      · by_cases won : g = winnerID
        · simp [won, distinct]
        · simp [lost, won, handle, named]
  · intro e i' after
    obtain ⟨i, before, rfl⟩ := origin after
    rw [requeuedIdentity_settled, movedIdentity_status, canonical, Option.isSome_map]
    exact wf.settled e i before
  · intro e i' after
    obtain ⟨i, before, rfl⟩ := origin after
    obtain ⟨raw, -, version⟩ := mergedIdentity_keeps s'.conflicts winnerID loserID episodeID i
    rw [raw, version]
    exact wf.fingerprint e i before
  · intro e i' g after named
    obtain ⟨i, before, rfl⟩ := origin after
    rw [canonical, Option.map_eq_some_iff] at named
    obtain ⟨g', named, rfl⟩ := named
    exact redirect g' (wf.issue e i g' before named)
  · intro v f g isBound
    rw [merges.bound, Option.map_eq_some_iff] at isBound
    obtain ⟨g', isBound, rfl⟩ := isBound
    exact redirect g' (wf.boundIssue v f g' isBound)
  · intro e i' g after named
    obtain ⟨i, before, rfl⟩ := origin after
    rw [canonical, Option.map_eq_some_iff] at named
    obtain ⟨g', named, rfl⟩ := named
    obtain ⟨raw, resolved, version⟩ :=
      mergedIdentity_keeps s'.conflicts winnerID loserID episodeID i
    obtain ⟨agreeRaw, agreeResolved⟩ := wf.agree e i g' before named
    rw [raw, resolved, version, merges.bound, agreeRaw]
    refine ⟨rfl, fun f h => ?_⟩
    rw [merges.bound, agreeResolved f h]
    rfl
  · intro i g' found resolved
    obtain ⟨mid, round, final⟩ := merges.round
    rw [final, Episodes.open?_close]
    split
    · rfl
    · rename_i notLoser
      rw [merges.groups] at found
      by_cases won : i = winnerID
      · subst won
        rw [if_pos rfl, Option.some.injEq] at found
        subst found
        rw [round.open?_resolved resolved]
        exact wf.closed i winner winnerFound resolved
      · rw [if_neg won, if_neg notLoser] at found
        rw [round.open?_other (key ▸ won)]
        exact wf.closed i g' found resolved

theorem WellFormed.settles (wf : WellFormed s) {s₁ s₂ s₃ s₄ : Store}
    (found : s.identities.find? identity.eventID = some identity) (unsettled : identity.Unsettled)
    (steps : SettleSteps s s' identity candidates resolvedFingerprint issueID episodeID
      freshIssue freshEpisode now s₁ s₂ s₃ s₄) :
    ∃ ev, s.events.find? identity.eventID = some ev ∧ ev.errorGroupID = none ∧
      Settles s s' identity ev candidates resolvedFingerprint issueID episodeID freshIssue
        freshEpisode now := by
  obtain ⟨ev, foundEvent, handle⟩ := wf.eventOf found
  have free : ev.errorGroupID = none := handle.trans (wf.free found unsettled.ne_settled)
  exact ⟨ev, foundEvent, free, steps.settles foundEvent free⟩

theorem WellFormed.step (wf : WellFormed s) (sha256 : String → Vector UInt8 32) (a : Action) :
    WellFormed (step sha256 s a) := by
  refine step_induction sha256 a wf (fun _ _ _ _ _ success => wf.capture success) ?_
    (fun _ _ _ unsettled target => wf.reschedule unsettled target) ?_ ?_
  · intro resolutions _
    exact ⟨wf.paired, wf.handle, wf.settled, wf.fingerprint, wf.issue, wf.boundIssue, wf.agree,
      wf.closed⟩
  · intro s' eventID identity freshIssue freshEpisode now result _ found did
    have key : identity.eventID = eventID := Table.key_of_find? found
    rw [← key] at found
    cases did with
    | retried _ same _ =>
      rw [same]
      exact wf
    | parked _ _ _ _ _ unsettled _ _ _ parks _ => exact wf.park found unsettled parks
    | attached _ _ _ _ _ _ _ _ _ unsettled _ aliases steps _ =>
      obtain ⟨ev, foundEvent, -, settles⟩ := wf.settles found unsettled steps
      exact wf.settle found foundEvent aliases settles
  · intro s' winnerID loserID confirmedBy actor freshEpisode now winner loser _ accepted
    obtain ⟨episodeID, merges⟩ := accepted.merges (wf.unopened accepted.winnerFound)
    exact wf.merge accepted.winnerFound accepted.distinct merges

end Opslane.Identity
