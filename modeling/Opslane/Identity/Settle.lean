import Opslane.Identity.Observation

/-!
# Settlement

`Settle` of `packages/ingestion/identity/settle.go`: one transaction that binds an
observation's fingerprints to a canonical issue. The uuids its inserts may draw
and the transaction's `now()` are arguments.

`settle_cases` says everything a committed settlement can have done; `Settles` is
its effect on each table when it attached the observation.
-/

namespace Opslane.Identity

structure Result where
  canonicalIssueID : Option UUID
  state : IdentityStatus
  deriving DecidableEq

def ResolutionStatus.text : ResolutionStatus → String
  | .resolved => "resolved"
  | .noMap => "no_map"
  | .failed => "failed"
  | .pending => "pending"

/-- The candidate aliases of an observation and its resolved fingerprint, empty
when the resolution found no source map. -/
def observationAliases (sha256 : String → Vector UInt8 32) (identity : EventIdentity)
    (resolution : EventResolution) : Except String (List CandidateAlias × String) :=
  let raw : CandidateAlias := ⟨identity.rawFingerprint, .raw⟩
  if resolution.status = .resolved then
    match resolution.envelope with
    | none | some .jsonNull => .error "resolved observation has no envelope"
    | some .malformed => .error "decode resolved envelope"
    | some (.envelope env) =>
      if env.version ≠ identity.identityVersion ∨ env.version ≠ ResolverVersion then
        .error ("resolved envelope version " ++ toString env.version ++
          " does not match identity version " ++ toString identity.identityVersion)
      else if env.frames = [] then .error "resolved envelope has no identity frames"
      else
        let resolvedFingerprint := Hash sha256 env
        .ok (normalizeAliases [raw, ⟨resolvedFingerprint, .resolved⟩], resolvedFingerprint)
  else .ok (normalizeAliases [raw], "")

/-- `NULLIF(f, '')`. -/
def nullIfEmpty (f : String) : Option String := if f = "" then none else some f

/-- Parks the observation: its fingerprints are bound to two issues. -/
def parkedIdentity (resolvedFingerprint : String) (i : EventIdentity) : EventIdentity :=
  { i with
    status := .conflict
    claimedAt := none
    resolvedFingerprint := nullIfEmpty resolvedFingerprint }

@[simp] theorem parkedIdentity_eventID (resolvedFingerprint : String) (i : EventIdentity) :
    (parkedIdentity resolvedFingerprint i).eventID = i.eventID := rfl

def parkConflict (s : Store) (eventID : UUID) (issueIDs : List UUID)
    (resolvedFingerprint : String) : Except String Store := do
  let s ← recordConflict s eventID issueIDs
  .ok { s with
    identities := s.identities.updateKey eventID (parkedIdentity resolvedFingerprint)
      (parkedIdentity_eventID resolvedFingerprint) }

/-- The issue the observation settles onto: the one its aliases agree on, or a
new one. -/
def canonicalIssueFor (s : Store) (eventID : UUID) (distinct : List UUID) (freshIssue : UUID) :
    Except String (Store × UUID) :=
  match distinct with
  | [issueID] => do
    lockActiveIssue s issueID
    .ok (s, issueID)
  | _ => createIssue s eventID freshIssue

/-- `UPDATE error_event_identities SET status='settled', ...`. -/
def settledIdentity (issueID : UUID) (resolvedFingerprint : String) (episodeID : UUID)
    (now : Timestamp) (i : EventIdentity) : EventIdentity :=
  { i with
    status := .settled
    canonicalIssueID := some issueID
    resolvedFingerprint := nullIfEmpty resolvedFingerprint
    episodeID := some episodeID
    claimedAt := none
    settledAt := some now }

@[simp] theorem settledIdentity_eventID (issueID : UUID) (resolvedFingerprint : String)
    (episodeID : UUID) (now : Timestamp) (i : EventIdentity) :
    (settledIdentity issueID resolvedFingerprint episodeID now i).eventID = i.eventID := rfl

def markSettled (s : Store) (eventID issueID : UUID) (resolvedFingerprint : String)
    (episodeID : UUID) (now : Timestamp) : Store :=
  { s with
    identities := s.identities.updateKey eventID
      (settledIdentity issueID resolvedFingerprint episodeID now)
      (settledIdentity_eventID issueID resolvedFingerprint episodeID now) }

/-- The part of a settlement that runs once the aliases are known. -/
def settleAliases (s : Store) (identity : EventIdentity) (candidates : List CandidateAlias)
    (resolvedFingerprint : String) (freshIssue freshEpisode : UUID) (now : Timestamp) :
    Except String (Store × Result) := do
  let distinct := distinctIssues (lookupAliases s identity.identityVersion candidates)
  if distinct.length > 1 then
    let s ← parkConflict s identity.eventID distinct resolvedFingerprint
    .ok (s, ⟨none, .conflict⟩)
  else
    let (s, issueID) ← canonicalIssueFor s identity.eventID distinct freshIssue
    let s ← bindAliases s identity.identityVersion candidates issueID now
    let s ← attachObservation s identity.eventID issueID
    let (s, episodeID) ← episodeForObservation s issueID identity.eventID freshEpisode now
    .ok (markSettled s identity.eventID issueID resolvedFingerprint episodeID now,
      ⟨some issueID, .settled⟩)

/-- Binds an observation's versioned fingerprints to a canonical issue. -/
def Settle (sha256 : String → Vector UInt8 32) (s : Store) (eventID : UUID)
    (freshIssue freshEpisode : UUID) (now : Timestamp) : Except String (Store × Result) := do
  let identity ← (s.identities.find? eventID).orError "load identity: no rows in result set"
  let resolution ← (s.resolutions.find? eventID).orError "load identity: no rows in result set"
  match identity.status with
  | .settled =>
    match identity.canonicalIssueID with
    | none => .error "settled identity has no canonical issue"
    | some issueID => .ok (s, ⟨some issueID, .settled⟩)
  | .conflict => .ok (s, ⟨none, .conflict⟩)
  | .pending | .settling =>
    if ¬resolution.status.Terminal then
      .error ("resolution status " ++ resolution.status.text ++ " is not terminal")
    else
      let (candidates, resolvedFingerprint) ← observationAliases sha256 identity resolution
      settleAliases s identity candidates resolvedFingerprint freshIssue freshEpisode now

/-- An observation that settlement may still act on. -/
def EventIdentity.Unsettled (i : EventIdentity) : Prop := i.status = .pending ∨ i.status = .settling

instance (i : EventIdentity) : Decidable i.Unsettled := inferInstanceAs (Decidable (_ ∨ _))

variable {resolvedFingerprint : String}

theorem observationAliases_fingerprints {sha256 : String → Vector UInt8 32}
    {identity : EventIdentity} {resolution : EventResolution} {candidates : List CandidateAlias}
    (success : observationAliases sha256 identity resolution =
      .ok (candidates, resolvedFingerprint)) (raw : identity.rawFingerprint ≠ "") :
    (∀ f, f ∈ candidates.map CandidateAlias.fingerprint ↔
      f = identity.rawFingerprint ∨ nullIfEmpty resolvedFingerprint = some f) ∧
    (nullIfEmpty resolvedFingerprint = if resolution.status = .resolved then
      match resolution.envelope with
      | some (.envelope env) => some (Hash sha256 env)
      | _ => none
    else none) := by
  unfold observationAliases at success
  by_cases resolved : resolution.status = .resolved
  · simp only [resolved, if_true] at success ⊢
    cases column : resolution.envelope with
    | none => simp [column] at success
    | some c =>
      cases c with
      | jsonNull => simp [column] at success
      | malformed => simp [column] at success
      | envelope env =>
        simp only [column, Except.ite_error_eq_ok_iff, Except.ok.injEq, Prod.mk.injEq] at success
        obtain ⟨-, -, rfl, rfl⟩ := success
        have nonempty : nullIfEmpty (Hash sha256 env) = some (Hash sha256 env) :=
          if_neg (Hash_ne_empty sha256 env)
        refine ⟨fun f => ?_, nonempty⟩
        rw [mem_normalizeAliases, nonempty]
        simp only [List.map_cons, List.map_nil, List.mem_cons, List.not_mem_nil, or_false,
          Option.some.injEq]
        constructor
        · rintro ⟨-, rfl | rfl⟩
          · exact Or.inl rfl
          · exact Or.inr rfl
        · rintro (rfl | rfl)
          · exact ⟨raw, Or.inl rfl⟩
          · exact ⟨Hash_ne_empty sha256 env, Or.inr rfl⟩
  · simp only [resolved, if_false, Except.ok.injEq, Prod.mk.injEq] at success ⊢
    obtain ⟨rfl, rfl⟩ := success
    refine ⟨fun f => ?_, rfl⟩
    rw [mem_normalizeAliases]
    simp only [List.map_cons, List.map_nil, List.mem_singleton, nullIfEmpty, if_true,
      reduceCtorEq, or_false]
    constructor
    · exact And.right
    · rintro rfl
      exact ⟨raw, rfl⟩

/-- The steps of a settlement that attached the observation. -/
structure SettleSteps (s s' : Store) (identity : EventIdentity) (candidates : List CandidateAlias)
    (resolvedFingerprint : String) (issueID episodeID freshIssue freshEpisode : UUID)
    (now : Timestamp) (s₁ s₂ s₃ s₄ : Store) : Prop where
  issue : canonicalIssueFor s identity.eventID
    (distinctIssues (lookupAliases s identity.identityVersion candidates)) freshIssue =
      .ok (s₁, issueID)
  single : (distinctIssues (lookupAliases s identity.identityVersion candidates)).length ≤ 1
  binds : bindAliases s₁ identity.identityVersion candidates issueID now = .ok s₂
  attaches : attachObservation s₂ identity.eventID issueID = .ok s₃
  episode : episodeForObservation s₃ issueID identity.eventID freshEpisode now =
    .ok (s₄, episodeID)
  marks : s' = markSettled s₄ identity.eventID issueID resolvedFingerprint episodeID now

/-- Everything a committed settlement can have done. -/
inductive SettleCases (sha256 : String → Vector UInt8 32) (s s' : Store) (identity : EventIdentity)
    (freshIssue freshEpisode : UUID) (now : Timestamp) (result : Result) : Prop where
  | retried (done : identity.status = .settled ∨ identity.status = .conflict) (same : s' = s)
      (state : result.state = identity.status)
  | parked (resolution : EventResolution) (candidates : List CandidateAlias)
      (resolvedFingerprint : String) (a b : UUID) (unsettled : identity.Unsettled)
      (found : s.resolutions.find? identity.eventID = some resolution)
      (aliases : observationAliases sha256 identity resolution =
        .ok (candidates, resolvedFingerprint))
      (distinct : distinctIssues (lookupAliases s identity.identityVersion candidates) = [a, b])
      (parks : parkConflict s identity.eventID [a, b] resolvedFingerprint = .ok s')
      (state : result = ⟨none, .conflict⟩)
  | attached (resolution : EventResolution) (candidates : List CandidateAlias)
      (resolvedFingerprint : String) (issueID episodeID : UUID) (s₁ s₂ s₃ s₄ : Store)
      (unsettled : identity.Unsettled)
      (found : s.resolutions.find? identity.eventID = some resolution)
      (aliases : observationAliases sha256 identity resolution =
        .ok (candidates, resolvedFingerprint))
      (steps : SettleSteps s s' identity candidates resolvedFingerprint issueID episodeID
        freshIssue freshEpisode now s₁ s₂ s₃ s₄)
      (state : result = ⟨some issueID, .settled⟩)

theorem parkConflict_effects {s s' : Store} {eventID : UUID} {issueIDs : List UUID}
    (success : parkConflict s eventID issueIDs resolvedFingerprint = .ok s') :
    ∃ a b, issueIDs = [a, b] ∧
      s' = { s with
        conflicts := s.conflicts.insertIgnore ⟨eventID, min a b, max a b, .opened⟩
        identities := s.identities.updateKey eventID (parkedIdentity resolvedFingerprint)
          (parkedIdentity_eventID resolvedFingerprint) } := by
  obtain ⟨s₁, recorded, rest⟩ := Except.of_bind success
  unfold recordConflict at recorded
  split at recorded
  · rename_i a b
    have left : (if a > b then b else a) = min a b := by
      split
      · rename_i order
        exact (min_eq_right order.le).symm
      · rename_i order
        exact (min_eq_left (not_lt.mp order)).symm
    have right : (if a > b then a else b) = max a b := by
      split
      · rename_i order
        exact (max_eq_left order.le).symm
      · rename_i order
        exact (max_eq_right (not_lt.mp order)).symm
    rw [Except.ok.injEq] at recorded rest
    rw [← rest, ← recorded, left, right]
    exact ⟨a, b, rfl, rfl⟩
  · cases recorded

theorem settle_cases {sha256 : String → Vector UInt8 32} {s s' : Store} {eventID : UUID}
    {freshIssue freshEpisode : UUID} {now : Timestamp} {result : Result}
    (success : Settle sha256 s eventID freshIssue freshEpisode now = .ok (s', result)) :
    ∃ identity, s.identities.find? eventID = some identity ∧
      SettleCases sha256 s s' identity freshIssue freshEpisode now result := by
  obtain ⟨identity, found, rest⟩ := Except.of_bind success
  obtain ⟨resolution, terminal, rest⟩ := Except.of_bind rest
  rw [Option.orError_eq_ok_iff] at found terminal
  have key : identity.eventID = eventID := Table.key_of_find? found
  refine ⟨identity, found, ?_⟩
  have pursue : identity.Unsettled →
      ((if ¬resolution.status.Terminal then
        .error ("resolution status " ++ resolution.status.text ++ " is not terminal")
      else do
        let (candidates, resolvedFingerprint) ← observationAliases sha256 identity resolution
        settleAliases s identity candidates resolvedFingerprint freshIssue freshEpisode now) =
      Except.ok (s', result)) →
      SettleCases sha256 s s' identity freshIssue freshEpisode now result := by
    intro unsettled run
    obtain ⟨-, run⟩ := Except.of_guard run
    obtain ⟨⟨candidates, resolvedFingerprint⟩, aliases, run⟩ := Except.of_bind run
    simp only [settleAliases] at run
    split at run
    · obtain ⟨s₁, parks, pair⟩ := Except.of_bind run
      obtain ⟨a, b, pairEq, -⟩ := parkConflict_effects parks
      cases pair
      rw [pairEq] at parks
      exact .parked resolution candidates resolvedFingerprint a b unsettled (key ▸ terminal)
        aliases pairEq parks rfl
    · rename_i single
      obtain ⟨⟨s₁, issueID⟩, issue, run⟩ := Except.of_bind run
      obtain ⟨s₂, binds, run⟩ := Except.of_bind run
      obtain ⟨s₃, attaches, run⟩ := Except.of_bind run
      obtain ⟨⟨s₄, episodeID⟩, episode, run⟩ := Except.of_bind run
      cases run
      exact .attached resolution candidates resolvedFingerprint issueID episodeID s₁ s₂ s₃ s₄
        unsettled (key ▸ terminal) aliases ⟨issue, by omega, binds, attaches, episode, rfl⟩ rfl
  cases status : identity.status with
  | settled =>
    simp only [status] at rest
    split at rest
    · cases rest
    · cases rest
      exact .retried (Or.inl status) rfl status.symm
  | conflict =>
    simp only [status] at rest
    cases rest
    exact .retried (Or.inr status) rfl status.symm
  | pending =>
    simp only [status] at rest
    exact pursue (Or.inl status) rest
  | settling =>
    simp only [status] at rest
    exact pursue (Or.inr status) rest

end Opslane.Identity
