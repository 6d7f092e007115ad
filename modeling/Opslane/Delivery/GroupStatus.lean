import Opslane.Lib.Result
import Opslane.Schema

/-!
# The worker's writes of an issue

`updateGroupStatus` and the issue's row in `finalizeDelivery`, of
`packages/worker/src/db.ts`, without the lease fence: who may run them, and when, is
the job queue's business.
-/

namespace Opslane.Delivery

/-- The optional fields of a status write. -/
structure StatusFields where
  confidence : Option String
  prURL : Option String
  prNumber : Option Nat
  prFixJobID : Option UUID
  reason : Option NeedsHumanReason
  candidateDiff : Option String
  evidence : Option String
  terminalFixJobID : Option UUID
  deriving DecidableEq

def StatusFields.none : StatusFields :=
  ⟨Option.none, Option.none, Option.none, Option.none, Option.none, Option.none, Option.none,
    Option.none⟩

def isTriageTerminalStatus (status : GroupStatus) : Bool :=
  status = .needsHuman ∨ status = .prCreated

/-- The terminal reason contract: `needs_human` must carry all reason fields, and a
terminal transition names the job that made it. -/
def checkStatusFields (groupID : UUID) (status : GroupStatus) (fields : StatusFields)
    (leaseID : Option UUID) : Except String Unit :=
  if status = .needsHuman ∧ fields.reason = none then
    .error ("needs_human requires reason fields (reason_code, reason_message, remediation) for group "
      ++ toString groupID)
  else if status = .needsHuman ∧ fields.reason.any
      (fun r => r.reasonCode = "" ∨ r.reasonMessage = "" ∨ r.remediation = "") then
    .error ("needs_human reason fields must all be non-empty for group " ++ toString groupID)
  else if isTriageTerminalStatus status ∧ fields.terminalFixJobID.or leaseID = none then
    .error ("terminal job id is required to transition group " ++ toString groupID)
  else .ok ()

/-- The `SET` list of `updateGroupStatus`: pull request fields and reason are
overwritten, with null when the caller gave none. -/
def writeStatus (status : GroupStatus) (fields : StatusFields) (now : Timestamp) (g : ErrorGroup) :
    ErrorGroup :=
  { g with
    status
    confidence := fields.confidence
    prURL := fields.prURL
    prNumber := fields.prNumber
    prFixJobID := fields.prFixJobID.or g.prFixJobID
    reason := fields.reason
    candidateDiff := fields.candidateDiff
    evidence := fields.evidence
    terminalFixJobID := fields.terminalFixJobID.or g.terminalFixJobID
    prCreatedAt := if status = .prCreated ∧ g.status ≠ .prCreated then some now else g.prCreatedAt
    needsHumanAt :=
      if status = .needsHuman ∧ g.status ≠ .needsHuman then some now else g.needsHumanAt }

@[simp] theorem writeStatus_id (status : GroupStatus) (fields : StatusFields) (now : Timestamp)
    (g : ErrorGroup) : (writeStatus status fields now g).id = g.id := rfl

/-- What a delivery records: a ready pull request, or a draft. -/
structure DeliveryInput where
  draft : Bool
  prURL : String
  prNumber : Nat
  headSha : String
  confidence : String
  fixJobID : UUID
  reason : Option NeedsHumanReason
  candidateDiff : Option String
  evidence : Option String
  deriving DecidableEq

def DeliveryInput.status (input : DeliveryInput) : GroupStatus :=
  if input.draft then .prDraft else .prCreated

/-- The states `finalizeDelivery` accepts. -/
def Deliverable (g : ErrorGroup) : Prop :=
  g.status = .fixing ∨ g.status = .prDraft ∨ g.status = .prCreated
  deriving Decidable

/-- The `SET` list of `finalizeDelivery`. -/
def deliver (input : DeliveryInput) (now : Timestamp) (g : ErrorGroup) : ErrorGroup :=
  { g with
    status := input.status
    confidence := some input.confidence
    prURL := some input.prURL
    prNumber := some input.prNumber
    prFixJobID := some input.fixJobID
    terminalFixJobID := some input.fixJobID
    reason := input.reason
    candidateDiff := input.candidateDiff
    evidence := input.evidence
    prCreatedAt := g.prCreatedAt.or (some now) }

@[simp] theorem deliver_id (input : DeliveryInput) (now : Timestamp) (g : ErrorGroup) :
    (deliver input now g).id = g.id := rfl

theorem DeliveryInput.status_ne (input : DeliveryInput) :
    input.status ≠ .resolved ∧ input.status ≠ .needsHuman ∧ input.status ≠ .merged := by
  unfold DeliveryInput.status
  split <;> simp

end Opslane.Delivery
