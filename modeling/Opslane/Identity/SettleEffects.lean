import Opslane.Identity.Settle

/-!
# Effects of a settlement

What a settlement that attached its observation leaves in each table, in terms of
the tables before it.
-/

namespace Opslane.Identity

/-- The issue's row as the settlement found it, or as it created it. -/
def baseGroup (s : Store) (issueID : UUID) (ev : ErrorEvent) : ErrorGroup :=
  (s.groups.find? issueID).getD (canonicalIssue issueID ev)

/-- The observation reopens the issue: it came strictly after the resolution. -/
def Recurs (g : ErrorGroup) (ev : ErrorEvent) : Prop :=
  g.status = .resolved ∧ ¬ResolvedAfter g ev.timestamp
  deriving Decidable

/-- The issue's row after the settlement. -/
def settledGroup (ev : ErrorEvent) (affectedUsers : Table Rollup.key) (g : ErrorGroup) :
    ErrorGroup :=
  if Recurs g ev then reopen (observed ev affectedUsers g) else observed ev affectedUsers g

/-- The work round the observation went to. -/
inductive SettleRound (before after : Episodes) (g : ErrorGroup) (ev : ErrorEvent)
    (issueID episodeID fresh : UUID) (now : Timestamp) : Prop where
  | late (resolved : g.status = .resolved) (early : ResolvedAfter g ev.timestamp)
      (same : after = before)
      (latest : ∃ ep, before.latest? issueID = some ep ∧ ep.id = episodeID)
  | current (live : g.status ≠ .resolved ∨ Recurs g ev)
      (opens : OpensRound before after issueID episodeID fresh now)

structure Settles (s s' : Store) (identity : EventIdentity) (ev : ErrorEvent)
    (candidates : List CandidateAlias) (resolvedFingerprint : String)
    (issueID episodeID freshIssue freshEpisode : UUID) (now : Timestamp) : Prop where
  frame : s' = { s with groups := s'.groups, events := s'.events, identities := s'.identities,
                        fingerprints := s'.fingerprints, episodes := s'.episodes,
                        environments := s'.environments, affectedUsers := s'.affectedUsers }
  target :
    (∃ g, s.groups.find? issueID = some g ∧ g.status ≠ .merged ∧
      ∃ c ∈ candidates, s.bound identity.identityVersion c.fingerprint = some issueID) ∨
    (s.groups.find? issueID = none ∧ issueID = freshIssue ∧
      ∀ c ∈ candidates, s.bound identity.identityVersion c.fingerprint = none)
  agree : ∀ c ∈ candidates, ∀ j, s.bound identity.identityVersion c.fingerprint = some j →
    j = issueID
  kept : ∀ v f j, s.bound v f = some j → s'.bound v f = some j
  origin : ∀ v f j, s'.bound v f = some j → s.bound v f = some j ∨
    (s.bound v f = none ∧ j = issueID ∧ v = identity.identityVersion ∧
      f ∈ candidates.map CandidateAlias.fingerprint)
  covers : ∀ c ∈ candidates, s'.bound identity.identityVersion c.fingerprint = some issueID
  events : s'.events = s.events.updateKey ev.id
    (fun ev => { ev with errorGroupID := some issueID }) fun _ => rfl
  identities : s'.identities = s.identities.updateKey identity.eventID
    (settledIdentity issueID resolvedFingerprint episodeID now)
    (settledIdentity_eventID issueID resolvedFingerprint episodeID now)
  environments : s'.environments =
    upsertRollup s.environments issueID ev.environmentID ev.timestamp
  affectedUsers : s'.affectedUsers = ev.endUserID.elim s.affectedUsers fun user =>
    upsertRollup s.affectedUsers issueID user ev.timestamp
  groups : ∀ j, s'.groups.find? j = if j = issueID then
      some (settledGroup ev s'.affectedUsers (baseGroup s issueID ev))
    else s.groups.find? j
  round : SettleRound s.episodes s'.episodes (baseGroup s issueID ev) ev issueID episodeID
    freshEpisode now

theorem canonicalIssueFor_effects {s s₁ : Store} {eventID freshIssue issueID : UUID} {version : Int}
    {candidates : List CandidateAlias} {ev : ErrorEvent}
    (found : s.events.find? eventID = some ev)
    (single : (distinctIssues (lookupAliases s version candidates)).length ≤ 1)
    (success : canonicalIssueFor s eventID (distinctIssues (lookupAliases s version candidates))
      freshIssue = .ok (s₁, issueID)) :
    s₁ = { s with groups := s₁.groups } ∧
    ((∃ g, s.groups.find? issueID = some g ∧ g.status ≠ .merged ∧
        ∃ c ∈ candidates, s.bound version c.fingerprint = some issueID) ∨
      (s.groups.find? issueID = none ∧ issueID = freshIssue ∧
        ∀ c ∈ candidates, s.bound version c.fingerprint = none)) ∧
    (∀ c ∈ candidates, ∀ j, s.bound version c.fingerprint = some j → j = issueID) ∧
    ∀ j, s₁.groups.find? j =
      if j = issueID then some (baseGroup s issueID ev) else s.groups.find? j := by
  unfold canonicalIssueFor at success
  split at success
  · rename_i distinct
    obtain ⟨_, lock, pair⟩ := Except.of_bind success
    cases pair
    obtain ⟨g, present, active⟩ := (lockActiveIssue_eq_ok_iff s issueID).mp lock
    have only : ∀ j, (∃ c ∈ candidates, s.bound version c.fingerprint = some j) ↔ j = issueID := by
      intro j
      rw [← mem_distinctIssues, distinct, List.mem_singleton]
    refine ⟨rfl, Or.inl ⟨g, present, active, (only issueID).mpr rfl⟩,
      fun c member j h => (only j).mp ⟨c, member, h⟩, fun j => ?_⟩
    split
    · rename_i same
      subst same
      simp [baseGroup, present]
    · rfl
  · rename_i notSingle
    have empty : distinctIssues (lookupAliases s version candidates) = [] := by
      cases list : distinctIssues (lookupAliases s version candidates) with
      | nil => rfl
      | cons i rest =>
        cases rest with
        | nil => exact absurd list (notSingle i)
        | cons j rest => rw [list] at single; simp at single
    obtain ⟨rfl, ev', found', absent, frame, groups⟩ := createIssue_effects success
    rw [found] at found'
    cases found'
    have unbound : ∀ c ∈ candidates, s.bound version c.fingerprint = none := by
      intro c member
      cases isBound : s.bound version c.fingerprint with
      | none => rfl
      | some j =>
        have member' := (mem_distinctIssues s version candidates j).mpr ⟨c, member, isBound⟩
        rw [empty] at member'
        cases member'
    refine ⟨frame, Or.inr ⟨absent, rfl, unbound⟩, ?_, fun j => ?_⟩
    · intro c member j h
      rw [unbound c member] at h
      cases h
    · rw [groups]
      simp [baseGroup, absent]

theorem SettleSteps.settles {s s' : Store} {identity : EventIdentity}
    {candidates : List CandidateAlias} {resolvedFingerprint : String}
    {issueID episodeID freshIssue freshEpisode : UUID} {now : Timestamp} {s₁ s₂ s₃ s₄ : Store}
    {ev : ErrorEvent}
    (steps : SettleSteps s s' identity candidates resolvedFingerprint issueID episodeID
      freshIssue freshEpisode now s₁ s₂ s₃ s₄)
    (found : s.events.find? identity.eventID = some ev) (free : ev.errorGroupID = none) :
    Settles s s' identity ev candidates resolvedFingerprint issueID episodeID freshIssue
      freshEpisode now := by
  obtain ⟨frame₁, target, agree, groups₁⟩ :=
    canonicalIssueFor_effects found steps.single steps.issue
  have binds := bindAliases_binds steps.binds
  have found₂ : s₂.events.find? identity.eventID = some ev := by
    rw [binds.frame, frame₁]
    exact found
  have attachStep := steps.attaches
  rw [attachObservation_free issueID found₂ free, Except.ok.injEq] at attachStep
  have attaches : Attaches s₂ s₃ ev issueID := attachStep ▸ attach_attaches s₂ ev issueID
  have groups₃ : ∀ j, s₃.groups.find? j = if j = issueID then
      some (observed ev s₃.affectedUsers (baseGroup s issueID ev)) else s.groups.find? j := by
    intro j
    rw [attaches.groups, binds.frame]
    simp only [groups₁]
    split <;> simp
  obtain ⟨g, ev', present, found₃, choice⟩ := episodeForObservation_effects steps.episode
  have present' := groups₃ issueID
  rw [present, if_pos rfl, Option.some.injEq] at present'
  have key : ev.id = identity.eventID := Table.key_of_find? found
  have sameTime : ev'.timestamp = ev.timestamp := by
    rw [attaches.events, ← key, Table.find?_updateKey, if_pos rfl, key, found₂] at found₃
    cases found₃
    rfl
  rw [sameTime] at choice
  have episodes₃ : s₃.episodes = s.episodes := by
    rw [attaches.frame, binds.frame, frame₁]
  have bound₂ : ∀ v f, s₁.bound v f = s.bound v f := by
    intro v f
    rw [frame₁]
    rfl
  have status : g.status = (baseGroup s issueID ev).status := by
    rw [present']
    rfl
  have resolvedAfter : ResolvedAfter g ev.timestamp ↔
      ResolvedAfter (baseGroup s issueID ev) ev.timestamp := by
    rw [present']
    rfl
  have recurs : Recurs (baseGroup s issueID ev) ev ↔
      g.status = .resolved ∧ ¬ResolvedAfter g ev.timestamp := by
    rw [Recurs, resolvedAfter, status]
  -- the fields the last two steps do not write
  have frame₄ : s₄ = { s₃ with groups := s₄.groups, episodes := s₄.episodes } := by
    cases choice with
    | active _ opens => rw [opens.frame]
    | late _ _ same _ => rw [same]
    | recurred _ _ opens => rw [opens.frame]
  have groups₄ : ∀ j, s₄.groups.find? j = if j = issueID then
      some (settledGroup ev s₃.affectedUsers (baseGroup s issueID ev)) else s.groups.find? j := by
    intro j
    unfold settledGroup
    cases choice with
    | active unresolved opens =>
      rw [opens.frame, if_neg fun h => unresolved (recurs.mp h).1]
      exact groups₃ j
    | late resolved before same _ =>
      rw [same, if_neg fun h => (recurs.mp h).2 before]
      exact groups₃ j
    | recurred resolved after opens =>
      rw [opens.frame, if_pos (recurs.mpr ⟨resolved, after⟩)]
      simp only [Table.find?_updateKey, groups₃]
      split <;> simp
  have users₄ : s₄.affectedUsers = s₃.affectedUsers := by rw [frame₄]
  have final : s' = { s with
      groups := s₄.groups, events := s₃.events, identities := s'.identities,
      fingerprints := s₂.fingerprints, episodes := s₄.episodes, environments := s₃.environments,
      affectedUsers := s₃.affectedUsers } := by
    rw [steps.marks, markSettled, frame₄, attaches.frame, binds.frame, frame₁]
  have bound' : ∀ v f, s'.bound v f = s₂.bound v f := by
    intro v f
    rw [final]
    rfl
  refine
    { frame := ?_, target, agree, kept := ?_, origin := ?_, covers := ?_, events := ?_,
      identities := ?_, environments := ?_, affectedUsers := ?_, groups := ?_, round := ?_ }
  · rw [final]
  · intro v f j h
    rw [bound']
    exact binds.kept v f j (by rw [bound₂, h])
  · intro v f j h
    rw [bound'] at h
    simpa only [bound₂] using binds.origin v f j h
  · intro c member
    rw [bound']
    exact binds.covers c member
  · rw [final, attaches.events, binds.frame, frame₁]
  · rw [steps.marks, markSettled, frame₄, attaches.frame, binds.frame, frame₁]
  · rw [final, attaches.environments, binds.frame, frame₁]
  · rw [final, attaches.affectedUsers, binds.frame, frame₁]
  · intro j
    rw [final]
    exact groups₄ j
  · rw [final]
    cases choice with
    | active unresolved opens =>
      refine .current (Or.inl (status ▸ unresolved)) ?_
      exact episodes₃ ▸ opens.round
    | late resolved before same latest =>
      refine .late (status ▸ resolved) (resolvedAfter.mp before) ?_ ?_
      · rw [same, episodes₃]
      · rw [← episodes₃]
        exact latest
    | recurred resolved after opens =>
      refine .current (Or.inr (recurs.mpr ⟨resolved, after⟩)) ?_
      exact episodes₃ ▸ opens.round

end Opslane.Identity
