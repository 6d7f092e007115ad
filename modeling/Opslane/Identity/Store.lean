import Opslane.Delivery.PRWebhook
import Opslane.Identity.Canonical
import Opslane.Identity.Episode
import Opslane.Lib.Span

/-!
# The identity store

The rows of one project in the tables the identity package reads and writes.
Every statement of the package filters by `project_id`, so a database is a family
of these stores that share nothing.

A write of `error_groups` goes through `Store.updateGroup`, which fires the trigger
of migration 055: an issue whose status becomes `resolved` closes its open work
round.
-/

namespace Opslane.Identity

open Delivery

/-- The column `error_event_identities.status`. -/
inductive IdentityStatus where
  | pending | settling | settled | conflict
  deriving DecidableEq

/-- A row of `error_event_identities`. -/
structure EventIdentity where
  eventID : UUID
  status : IdentityStatus
  claimedAt : Option Timestamp
  canonicalIssueID : Option UUID
  rawFingerprint : String
  resolvedFingerprint : Option String
  identityVersion : Int
  episodeID : Option UUID
  settledAt : Option Timestamp
  deriving DecidableEq

/-- The column `error_event_resolutions.status`. -/
inductive ResolutionStatus where
  | resolved | noMap | failed | pending
  deriving DecidableEq

/-- A resolution the settler may act on. -/
def ResolutionStatus.Terminal (s : ResolutionStatus) : Prop := s = .resolved ∨ s = .noMap

instance (s : ResolutionStatus) : Decidable s.Terminal := inferInstanceAs (Decidable (_ ∨ _))

/-- The column `error_event_resolutions.envelope` when it is not null: the JSON
literal `null`, a document of another shape, or an envelope. -/
inductive EnvelopeColumn where
  | jsonNull
  | malformed
  | envelope (env : Envelope)
  deriving DecidableEq

/-- A row of `error_event_resolutions`. -/
structure EventResolution where
  eventID : UUID
  status : ResolutionStatus
  envelope : Option EnvelopeColumn
  resolverVersion : Int
  resolvedAt : Timestamp
  deriving DecidableEq

/-- The column `canonical_issue_fingerprints.fingerprint_kind`. -/
inductive FingerprintKind where
  | raw | resolved | friction
  deriving DecidableEq

/-- The column `confirmed_by`: an alias is exact until a merge redirects it. -/
inductive ConfirmedBy where
  | exact | model | human
  deriving DecidableEq

/-- A row of `canonical_issue_fingerprints`. -/
structure FingerprintAlias where
  fingerprint : String
  kind : FingerprintKind
  canonicalIssueID : UUID
  identityVersion : Int
  confirmedBy : ConfirmedBy
  boundAt : Timestamp
  deriving DecidableEq

def FingerprintAlias.key (a : FingerprintAlias) : Int × String := (a.identityVersion, a.fingerprint)

/-- A row of `issue_merges`, the receipt of one confirmed merge. -/
structure IssueMerge where
  winnerID : UUID
  loserID : UUID
  confirmedBy : ConfirmedBy
  actor : Option String
  aliasesMoved : Nat
  eventsMoved : Nat
  mergedAt : Timestamp
  deriving DecidableEq

/-- The column `issue_alias_conflicts.status`. -/
inductive ConflictStatus where
  | opened | resolved | dismissed
  deriving DecidableEq

/-- A row of `issue_alias_conflicts`. -/
structure AliasConflict where
  eventID : UUID
  leftIssueID : UUID
  rightIssueID : UUID
  status : ConflictStatus
  deriving DecidableEq

def AliasConflict.key (c : AliasConflict) : UUID × UUID × UUID :=
  (c.eventID, c.leftIssueID, c.rightIssueID)

/-- A row of `error_group_environments` or of `error_group_affected_users`: the
span of an issue's observations in one environment, or by one user. -/
structure Rollup where
  errorGroupID : UUID
  memberID : UUID
  span : Span Timestamp
  deriving DecidableEq

def Rollup.key (r : Rollup) : UUID × UUID := (r.errorGroupID, r.memberID)

/-- An `investigate` row of `error_group_jobs`. -/
structure InvestigateJob where
  errorGroupID : Option UUID
  episodeID : Option UUID
  deriving DecidableEq

/-- A row of `friction_signals`, as far as the silence sweep reads it. -/
structure FrictionSignal where
  incidentID : UUID
  accepted : Bool
  retracted : Bool
  superseded : Bool
  occurredAt : Timestamp
  deriving DecidableEq

structure Store where
  groups : Table ErrorGroup.id
  events : Table ErrorEvent.id
  identities : Table EventIdentity.eventID
  resolutions : Table EventResolution.eventID
  fingerprints : Table FingerprintAlias.key
  episodes : Episodes
  merges : Table IssueMerge.loserID
  conflicts : Table AliasConflict.key
  environments : Table Rollup.key
  affectedUsers : Table Rollup.key
  investigateJobs : List InvestigateJob
  /-- Episodes with a row in `issue_publications`. -/
  publications : List UUID
  /-- Issues in the frozen item set of a delivered digest run. -/
  deliveredItems : List UUID
  frictionSignals : List FrictionSignal
  pr : PRTables

/-- A project with no issue and no observation. -/
def Store.empty (githubRepo : String) (installationID : Option Nat) : Store where
  groups := Table.empty
  events := Table.empty
  identities := Table.empty
  resolutions := Table.empty
  fingerprints := Table.empty
  episodes := Episodes.empty
  merges := Table.empty
  conflicts := Table.empty
  environments := Table.empty
  affectedUsers := Table.empty
  investigateJobs := []
  publications := []
  deliveredItems := []
  frictionSignals := []
  pr := ⟨githubRepo, installationID, Table.empty, Table.empty, [], []⟩

namespace Store

/-- The issue a fingerprint is bound to. -/
def bound (s : Store) (version : Int) (fingerprint : String) : Option UUID :=
  (s.fingerprints.find? (version, fingerprint)).map FingerprintAlias.canonicalIssueID

/-- The receipt that folded an issue into another. -/
def receipt? (s : Store) (issueID : UUID) : Option IssueMerge := s.merges.find? issueID

/-- The issue lost a confirmed merge. -/
def Lost (s : Store) (issueID : UUID) : Prop := (s.receipt? issueID).isSome

instance (s : Store) (issueID : UUID) : Decidable (s.Lost issueID) :=
  inferInstanceAs (Decidable (_ = true))

/-- The condition the trigger fires under, for an update of one row. -/
def Resolves (f : ErrorGroup → ErrorGroup) (g : ErrorGroup) : Prop :=
  g.status ≠ (f g).status ∧ (f g).status = .resolved
  deriving Decidable

/-- The trigger `close_open_issue_episodes_on_resolution`, for one updated row. -/
def closeOnResolution (f : ErrorGroup → ErrorGroup) (now : Timestamp) (episodes : Episodes)
    (g : ErrorGroup) : Episodes :=
  if Resolves f g then episodes.close (f g).id ((f g).resolvedAt.getD now) else episodes

/-- `UPDATE error_groups SET f WHERE p`, with its trigger. -/
def updateGroups (s : Store) (p : ErrorGroup → Bool) (f : ErrorGroup → ErrorGroup)
    (frame : ∀ g, (f g).id = g.id) (now : Timestamp) : Store :=
  { s with
    groups := s.groups.updateWhere p f frame
    episodes := (s.groups.select p).foldl (closeOnResolution f now) s.episodes }

theorem find?_updateGroups (s : Store) (p : ErrorGroup → Bool) (f : ErrorGroup → ErrorGroup)
    (frame : ∀ g, (f g).id = g.id) (now : Timestamp) (i : UUID) :
    (s.updateGroups p f frame now).groups.find? i =
      (s.groups.find? i).map fun g => if p g then f g else g :=
  s.groups.find?_updateWhere p f frame i

private theorem open?_foldl_closeOnResolution {f : ErrorGroup → ErrorGroup}
    (frame : ∀ g, (f g).id = g.id) (now : Timestamp) (i : UUID) (updated : List ErrorGroup)
    (episodes : Episodes) :
    (updated.foldl (closeOnResolution f now) episodes).open? i =
      if ∃ g ∈ updated, g.id = i ∧ Resolves f g then none else episodes.open? i := by
  induction updated generalizing episodes with
  | nil => simp
  | cons g rest ih =>
    rw [List.foldl_cons, ih, closeOnResolution]
    by_cases fires : Resolves f g
    · rw [if_pos fires, frame, Episodes.open?_close]
      by_cases own : g.id = i
      · simp [own, fires]
      · simp [own, Ne.symm own]
    · rw [if_neg fires]
      simp [fires]

theorem open?_updateGroups (s : Store) (p : ErrorGroup → Bool) (f : ErrorGroup → ErrorGroup)
    (frame : ∀ g, (f g).id = g.id) (now : Timestamp) (i : UUID) :
    (s.updateGroups p f frame now).episodes.open? i =
      if (s.groups.find? i).any fun g => p g && Resolves f g then none
      else s.episodes.open? i := by
  rw [updateGroups, open?_foldl_closeOnResolution frame]
  refine if_congr ?_ rfl rfl
  simp only [Table.select, List.mem_filter, Option.any_eq_true, Bool.and_eq_true,
    decide_eq_true_eq, Table.find?_eq_some_iff]
  constructor
  · rintro ⟨g, ⟨member, selected⟩, id, fires⟩
    exact ⟨g, ⟨member, id⟩, selected, fires⟩
  · rintro ⟨g, ⟨member, id⟩, selected, fires⟩
    exact ⟨g, ⟨member, selected⟩, id, fires⟩

end Store

end Opslane.Identity
