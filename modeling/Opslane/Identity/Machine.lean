import Opslane.Identity.MergeEffects
import Opslane.Identity.SettleEffects
import Opslane.Lib.Transition

/-!
# The identity machine

One action is one transaction of the identity package or of the runtimes that feed
it: a capture (`packages/ingestion/db/capture.go`), a resolution written by the
worker (`packages/worker/src/resolve/job.ts`), the resolution watchdog
(`packages/ingestion/resolve/watchdog.go`), the statements of a settlement tick
(`loop.go`), `Settle` and `ConfirmMerge`.

A transaction that fails, or whose process dies before it commits, leaves the store
as it was; a tick is the run of its statements, and dying between two of them is a
run that stops there.
-/

namespace Opslane.Identity

open Transition (committed committed_eq)

/-- What a capture stores of its request. The raw fingerprint is a digest or a
family key in every path that selects it, never the empty string. -/
structure CaptureParams where
  environmentID : UUID
  eventTime : Option Timestamp
  errorType : String
  errorMessage : String
  platform : String
  endUserID : Option UUID
  rawFingerprint : { f : String // f ≠ "" }

/-- The stored observation. -/
def CaptureParams.event (p : CaptureParams) (eventID : UUID) (now : Timestamp) : ErrorEvent where
  id := eventID
  environmentID := p.environmentID
  errorType := p.errorType
  errorMessage := p.errorMessage
  platform := if p.platform = "" then "javascript" else p.platform
  endUserID := p.endUserID
  timestamp := p.eventTime.getD now
  createdAt := now
  errorGroupID := none

/-- Its identity, waiting for settlement. -/
def CaptureParams.identity (p : CaptureParams) (eventID : UUID) : EventIdentity where
  eventID
  status := .pending
  claimedAt := none
  canonicalIssueID := none
  rawFingerprint := p.rawFingerprint
  resolvedFingerprint := none
  identityVersion := IdentityVersion
  episodeID := none
  settledAt := none

@[simp] theorem CaptureParams.event_id (p : CaptureParams) (eventID : UUID) (now : Timestamp) :
    (p.event eventID now).id = eventID := rfl

@[simp] theorem CaptureParams.identity_eventID (p : CaptureParams) (eventID : UUID) :
    (p.identity eventID).eventID = eventID := rfl

/-- Stores one observation and schedules its resolution. -/
def CaptureError (s : Store) (eventID : UUID) (p : CaptureParams) (now : Timestamp) :
    Except String Store := do
  let events ← (s.events.insert? (p.event eventID now)).orError
    "insert captured event: duplicate key value violates unique constraint"
  let identities ← (s.identities.insert? (p.identity eventID)).orError
    "insert pending identity: duplicate key value violates unique constraint"
  .ok { s with events, identities }

/-- The two settled states `recordResolution` protects from a downgrade. -/
def KeepsResolution (old new : EventResolution) : Prop :=
  (old.status = .resolved ∧ new.resolverVersion ≤ old.resolverVersion) ∨
    (old.status = .noMap ∧ (new.status = .pending ∨ new.status = .failed))
  deriving Decidable

/-- `ON CONFLICT (project_id, event_id) DO UPDATE` of a resolution. -/
def mergeResolution (new old : EventResolution) : EventResolution :=
  if KeepsResolution old new then old
  else { old with
    status := new.status
    envelope := new.envelope
    resolverVersion := new.resolverVersion
    resolvedAt := if old.status = new.status then old.resolvedAt else new.resolvedAt }

theorem mergeResolution_eventID (new old : EventResolution) :
    (mergeResolution new old).eventID = old.eventID := by
  unfold mergeResolution
  split <;> rfl

/-- The worker's write of one resolution; the foreign key refuses an unknown event. -/
def recordResolution (s : Store) (eventID : UUID) (status : ResolutionStatus)
    (envelope : Option EnvelopeColumn) (now : Timestamp) : Except String Store := do
  let _ ← (s.events.find? eventID).orError "insert or update violates foreign key constraint"
  let row : EventResolution := ⟨eventID, status, envelope, ResolverVersion, now⟩
  .ok { s with
    resolutions := s.resolutions.upsert row (mergeResolution row) (mergeResolution_eventID row) }

/-- Settles events whose source map never arrived, and materializes the fallback
for identities that have no resolution row at all. -/
def sweepResolutions (s : Store) (boundary : Int) (now : Timestamp) : Store :=
  let resolutions := s.resolutions.updateWhere
    (fun r => (r.status = .pending ∨ r.status = .failed) ∧ r.resolvedAt < now - boundary)
    (fun r => { r with status := .noMap, resolvedAt := now }) fun _ => rfl
  let orphans := s.identities.select fun i => i.status = .pending ∧
    (s.events.find? i.eventID).any fun ev => ev.createdAt < now - boundary
  { s with
    resolutions := orphans.foldl
      (fun t i => t.insertIgnore ⟨i.eventID, .noMap, none, i.identityVersion, now⟩) resolutions }

def settlementBatchSize : Nat := 100

/-- Five minutes. -/
def settlementLease : Int := 300000000

theorem releasedIdentity_eventID (i : EventIdentity) :
    ({ i with status := .pending, claimedAt := none } : EventIdentity).eventID = i.eventID := rfl

/-- `SET status='pending', claimed_at=NULL` on claims older than the lease. -/
def resetAbandoned (s : Store) (now : Timestamp) : Store :=
  { s with
    identities := s.identities.updateWhere
      (fun i => i.status = .settling ∧ i.claimedAt.any fun t => t < now - settlementLease)
      (fun i => { i with status := .pending, claimedAt := none }) releasedIdentity_eventID }

/-- The batch a tick claims; rows another replica holds locked are skipped. -/
def claimBatch (s : Store) (locked : List UUID) : List UUID :=
  ((((s.identities.select fun i => i.status = .pending ∧ i.eventID ∉ locked ∧
    (s.resolutions.find? i.eventID).any fun r => r.status.Terminal).map
      EventIdentity.eventID).insertionSort (· ≤ ·)).take settlementBatchSize)

/-- `SET status='settling', claimed_at=now()` on the batch. -/
def claim (s : Store) (locked : List UUID) (now : Timestamp) : Store :=
  let batch := claimBatch s locked
  { s with
    identities := s.identities.updateWhere (fun i => i.status = .pending ∧ i.eventID ∈ batch)
      (fun i => { i with status := .settling, claimedAt := some now }) fun _ => rfl }

/-- One transaction. -/
inductive Action where
  | capture (eventID : UUID) (p : CaptureParams) (now : Timestamp)
  | recordResolution (eventID : UUID) (status : ResolutionStatus)
      (envelope : Option EnvelopeColumn) (now : Timestamp)
  | sweepResolutions (boundary : Int) (now : Timestamp)
  | resetAbandoned (now : Timestamp)
  | claim (locked : List UUID) (now : Timestamp)
  | settle (eventID freshIssue freshEpisode : UUID) (now : Timestamp)
  | confirmMerge (winnerID loserID : UUID) (confirmedBy : ConfirmedBy) (actor : String)
      (freshEpisode : UUID) (now : Timestamp)

variable (sha256 : String → Vector UInt8 32)

def step (s : Store) : Action → Store
  | .capture eventID p now => committed s (CaptureError s eventID p now)
  | .recordResolution eventID status envelope now =>
    committed s (Identity.recordResolution s eventID status envelope now)
  | .sweepResolutions boundary now => Identity.sweepResolutions s boundary now
  | .resetAbandoned now => Identity.resetAbandoned s now
  | .claim locked now => Identity.claim s locked now
  | .settle eventID freshIssue freshEpisode now =>
    committed s ((Settle sha256 s eventID freshIssue freshEpisode now).map Prod.fst)
  | .confirmMerge winnerID loserID confirmedBy actor freshEpisode now =>
    committed s (ConfirmMerge s winnerID loserID confirmedBy actor freshEpisode now)

/-- The identity machine of one project. -/
def machine : Transition.Machine Store Action := ⟨step sha256⟩

/-- One observation without a source map, from its capture to its settlement. -/
def observeRaw (eventID : UUID) (rawFingerprint : { f : String // f ≠ "" }) (userID : Option UUID)
    (freshIssue freshEpisode : UUID) (now : Timestamp) : List Action :=
  [.capture eventID ⟨1, none, "TypeError", "x is undefined", "javascript", userID, rawFingerprint⟩
      now,
    .recordResolution eventID .noMap none now,
    .claim [] now,
    .settle eventID freshIssue freshEpisode now]

theorem a_ne_empty : "a" ≠ "" := by decide

theorem b_ne_empty : "b" ≠ "" := by decide

/-- Where a resolution found after a transaction comes from: it was there before, it
resolves nothing, or the transaction recorded it. -/
inductive RecordedBy (s : Store) (a : Action) (e : UUID) (r : EventResolution) : Prop where
  | kept (before : s.resolutions.find? e = some r)
  | unresolved (status : r.status ≠ .resolved)
  | recorded (now : Timestamp) (action : a = .recordResolution e r.status r.envelope now)

theorem recordedBy_recordResolution (s : Store) {eventID : UUID} {status : ResolutionStatus}
    {envelope : Option EnvelopeColumn} {now : Timestamp} {e : UUID} {r : EventResolution}
    (found : (s.resolutions.upsert ⟨eventID, status, envelope, ResolverVersion, now⟩
      (mergeResolution ⟨eventID, status, envelope, ResolverVersion, now⟩)
      (mergeResolution_eventID _)).find? e = some r) :
    RecordedBy s (.recordResolution eventID status envelope now) e r := by
  rw [Table.find?_upsert] at found
  split at found
  · rename_i own
    simp only at own
    subst own
    cases before : s.resolutions.find? e with
    | none =>
      rw [before, Option.elim_none, Option.some.injEq] at found
      subst found
      exact .recorded now rfl
    | some old =>
      rw [before, Option.elim_some, Option.some.injEq] at found
      unfold mergeResolution at found
      split at found
      · exact .kept (found ▸ before)
      · subst found
        exact .recorded now rfl
  · exact .kept found

theorem recordedBy_sweepResolutions (s : Store) {boundary : Int} {now : Timestamp} {e : UUID}
    {r : EventResolution} (found : (sweepResolutions s boundary now).resolutions.find? e = some r)
    {a : Action} : RecordedBy s a e r := by
  have orphans : ∀ (rows : List EventIdentity) (t : Table EventResolution.eventID),
      (rows.foldl (fun t i => t.insertIgnore ⟨i.eventID, .noMap, none, i.identityVersion, now⟩)
        t).find? e = some r → t.find? e = some r ∨ r.status = .noMap := by
    intro rows
    induction rows with
    | nil => exact fun t h => Or.inl h
    | cons i rest ih =>
      intro t h
      rcases ih _ h with h | h
      · rw [Table.find?_insertIgnore] at h
        cases before : t.find? e with
        | some old =>
          rw [before, Option.some_or] at h
          exact Or.inl h
        | none =>
          rw [before, Option.none_or] at h
          split at h
          · cases h
            exact Or.inr rfl
          · cases h
      · exact Or.inr h
  rcases orphans _ _ found with swept | noMap
  · rw [Table.find?_updateWhere, Option.map_eq_some_iff] at swept
    obtain ⟨old, before, update⟩ := swept
    split at update
    · subst update
      exact .unresolved (by simp)
    · exact .kept (update ▸ before)
  · exact .unresolved (by simp [noMap])

theorem step_induction {motive : Store → Prop} {s : Store} (a : Action) (start : motive s)
    (captured : ∀ s' eventID p now, a = .capture eventID p now →
      CaptureError s eventID p now = .ok s' → motive s')
    (resolutions : ∀ t, (∀ e r, t.find? e = some r → RecordedBy s a e r) →
      motive { s with resolutions := t })
    (unsettled : ∀ (p : EventIdentity → Bool) (status : IdentityStatus) (claimedAt),
      (∀ i, p i → i.Unsettled) → (status = .pending ∨ status = .settling) →
      motive { s with
        identities := s.identities.updateWhere p (fun i => { i with status, claimedAt })
          fun _ => rfl })
    (settled : ∀ s' eventID identity freshIssue freshEpisode now result,
      a = .settle eventID freshIssue freshEpisode now →
      s.identities.find? eventID = some identity →
      SettleCases sha256 s s' identity freshIssue freshEpisode now result → motive s')
    (merged : ∀ s' winnerID loserID confirmedBy actor freshEpisode now winner loser,
      a = .confirmMerge winnerID loserID confirmedBy actor freshEpisode now →
      Accepted s s' winnerID loserID confirmedBy actor freshEpisode now winner loser → motive s') :
    motive (step sha256 s a) := by
  cases a with
  | capture eventID p now =>
    rcases committed_eq s (CaptureError s eventID p now) with same | success
    · rw [step, same]
      exact start
    · exact captured _ eventID p now rfl success
  | recordResolution eventID status envelope now =>
    rcases committed_eq s (recordResolution s eventID status envelope now) with same | success
    · rw [step, same]
      exact start
    · obtain ⟨_, -, rest⟩ := Except.of_bind success
      rw [Except.ok.injEq] at rest
      rw [step, ← rest]
      exact resolutions _ fun e r found => recordedBy_recordResolution s found
  | sweepResolutions boundary now =>
    exact resolutions _ fun e r found => recordedBy_sweepResolutions s found
  | resetAbandoned now =>
    refine unsettled _ .pending none (fun i h => ?_) (Or.inl rfl)
    simp only [decide_eq_true_eq] at h
    exact Or.inr h.1
  | claim locked now =>
    refine unsettled _ .settling (some now) (fun i h => ?_) (Or.inr rfl)
    simp only [decide_eq_true_eq] at h
    exact Or.inl h.1
  | settle eventID freshIssue freshEpisode now =>
    rw [step]
    cases success : Settle sha256 s eventID freshIssue freshEpisode now with
    | error e => exact start
    | ok pair =>
      obtain ⟨s', result⟩ := pair
      obtain ⟨identity, found, did⟩ := settle_cases success
      exact settled s' eventID identity freshIssue freshEpisode now result rfl found did
  | confirmMerge winnerID loserID confirmedBy actor freshEpisode now =>
    rcases committed_eq s (ConfirmMerge s winnerID loserID confirmedBy actor freshEpisode now)
      with same | success
    · rw [step, same]
      exact start
    · rw [step]
      rcases confirmMerge_cases success with ⟨same, -⟩ | ⟨winner, loser, accepted⟩
      · rw [same]
        exact start
      · exact merged _ winnerID loserID confirmedBy actor freshEpisode now winner loser rfl accepted

end Opslane.Identity
