/-!
# Issues and observations

Rows of the tables that more than one runtime writes: `error_groups` (an issue),
`error_events` (an observation) and `pr_outcomes`. Only the columns some modelled
statement reads or writes are kept.

`UUID` stands for a uuid column: the code compares ids for equality and, as text,
for order. `Timestamp` is a `timestamptz` in microseconds. `now()` is one value
for a whole transaction, so every operation takes it as an argument.
-/

namespace Opslane

abbrev UUID := Nat

abbrev Timestamp := Int

/-- The values of the `error_group_status` enumeration. -/
inductive GroupStatus where
  | new | queued | analyzing | investigated | fixing | prDraft | prCreated | needsHuman
  | merged | resolved | archived | candidate | awaitingApproval | insight
  deriving DecidableEq

/-- The column `error_groups.kind`. -/
inductive GroupKind where
  | error | friction
  deriving DecidableEq

/-- What a terminal transition leaves for a human to read. -/
structure NeedsHumanReason where
  reasonCode : String
  reasonMessage : String
  remediation : String
  deriving DecidableEq

/-- A row of `error_groups`. -/
structure ErrorGroup where
  id : UUID
  environmentID : UUID
  kind : GroupKind
  fingerprint : String
  title : String
  platform : String
  status : GroupStatus
  statusBeforeArchive : Option GroupStatus
  archivedAt : Option Timestamp
  ticketID : Option UUID
  firstSeen : Timestamp
  lastSeen : Timestamp
  occurrenceCount : Nat
  affectedUsersCount : Nat
  sampleEventID : Option UUID
  resolvedAt : Option Timestamp
  resolvedReason : Option String
  mergedAt : Option Timestamp
  confidence : Option String
  prURL : Option String
  prNumber : Option Nat
  prFixJobID : Option UUID
  terminalFixJobID : Option UUID
  prCreatedAt : Option Timestamp
  needsHumanAt : Option Timestamp
  reason : Option NeedsHumanReason
  candidateDiff : Option String
  evidence : Option String
  deriving DecidableEq

/-- A row of `error_events`; `errorGroupID` is null until settlement attaches it. -/
structure ErrorEvent where
  id : UUID
  environmentID : UUID
  errorType : String
  errorMessage : String
  platform : String
  endUserID : Option UUID
  timestamp : Timestamp
  createdAt : Timestamp
  errorGroupID : Option UUID
  deriving DecidableEq

/-- What a webhook receipt says became of the pull request. -/
inductive PROutcomeKind where
  | merged | closed
  deriving DecidableEq

/-- A row of `pr_outcomes`, the immutable receipt of one webhook delivery. -/
structure PROutcome where
  errorGroupID : UUID
  prNumber : Nat
  outcome : PROutcomeKind
  githubDeliveryID : String
  fixJobID : Option UUID
  occurredAt : Timestamp
  createdAt : Timestamp
  githubRepo : String
  deriving DecidableEq

end Opslane
