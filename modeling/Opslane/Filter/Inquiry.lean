import Opslane.Jobs.Indexes
import Opslane.Jobs.Origin
import Opslane.Lib.Latest
import Opslane.Lib.Result

/-!
# Inquiries

An episode the filter admits is reviewed by an inquiry, whose answer is kept once for each
prompt version and evidence signature, and an answer to investigate queues the investigation
in the same transaction: `admitOne` of `packages/ingestion/filter/dispatch.go`,
`RequestIssueReview` of `packages/ingestion/db/inbox.go` and `persistInquiryDecision` of
`packages/worker/src/db.ts`.
-/

namespace Opslane.Filter

open Jobs (Job JobTable)
open Transition (Machine committed committed_eq)

/-- The column `issue_decisions.decision`. -/
inductive FilterOutcome where
  | openInquiry | watch | inactive
  deriving DecidableEq

/-- The column `issue_inquiry_decisions.decision`. -/
inductive InquiryOutcome where
  | investigate | waitForMoreEvidence | doNotPursue
  deriving DecidableEq

/-- A row of `issue_inquiry_decisions`. -/
structure InquiryDecision where
  projectID : UUID
  episodeID : UUID
  decision : InquiryOutcome
  reason : String
  brief : Option String
  relatedIssues : List UUID
  evaluatedUnits : Nat
  evidenceSignature : String
  productUnderstandingVersion : Option Nat
  model : String
  promptVersion : Nat
  decidedAt : Timestamp
  deriving DecidableEq

/-- `uq_one_inquiry_per_evidence`. -/
def InquiryDecision.key (d : InquiryDecision) : UUID × UUID × Nat × String :=
  (d.projectID, d.episodeID, d.promptVersion, d.evidenceSignature)

/-- A row of `issue_episodes`. -/
structure Episode where
  id : UUID
  projectID : UUID
  canonicalIssueID : UUID
  sequence : Nat
  closedAt : Option Timestamp
  deriving DecidableEq

/-- What the last successful call of an episode went by: its job's input version, and the
decision in force for its evidence. -/
structure Call where
  inputVersion : Nat
  effective : InquiryOutcome
  deriving DecidableEq

structure InquiryStore where
  episodes : Table Episode.id
  /-- The latest factual decision of each episode. -/
  factual : UUID → Option FilterOutcome
  inquiries : Table InquiryDecision.key
  jobs : JobTable
  /-- The last successful call of each episode; no statement reads it. -/
  lastCall : UUID → Option Call

def InquiryStore.empty : InquiryStore :=
  ⟨Table.empty, fun _ => none, Table.empty, Table.empty, fun _ => none⟩

/-- An open episode of a project. -/
def openEpisode (s : InquiryStore) (projectID episodeID : UUID) : Option Episode :=
  (s.episodes.find? episodeID).filter fun ep => ep.projectID = projectID ∧ ep.closedAt = none

/-- The inquiry job of an episode's round. -/
def inquiryJob (ep : Episode) (inputVersion : Nat) (triggeredBy : Option Jobs.RequestedBy)
    (jobID : UUID) (now : Timestamp) : Job :=
  Job.new jobID ep.projectID .issueInquiry
    { errorGroupID := some ep.canonicalIssueID
      episodeID := some ep.id
      inputVersion := some inputVersion
      triggeredBy } now now

/-- Admits an episode's round. -/
def admitOne (s : InquiryStore) (projectID episodeID : UUID) (inputVersion : Nat) (jobID : UUID)
    (now : Timestamp) : Except String InquiryStore := do
  let ep ← (openEpisode s projectID episodeID).orError "lock admitted filter episode: no rows"
  if s.factual episodeID ≠ some .openInquiry then
    .error ("episode " ++ toString episodeID ++ " is no longer admitted")
  else
    .ok { s with jobs := Jobs.enqueueJobTx s.jobs (inquiryJob ep inputVersion none jobID now) }

/-- An inquiry job of the episode. -/
def Inquires (ep : Episode) (j : Job) : Prop :=
  j.projectID = ep.projectID ∧ j.episodeID = some ep.id ∧ j.jobType = .issueInquiry
  deriving Decidable

/-- `COALESCE(max(input_version),0)` over the inquiry jobs of an episode. -/
def maxInputVersion (jobs : JobTable) (ep : Episode) : Nat :=
  ((jobs.select fun j => Inquires ep j).filterMap fun j => j.inputVersion).foldr max 0

/-- Opens one new inquiry attempt by hand, unless one is active. -/
def RequestIssueReview (s : InquiryStore) (projectID issueID jobID : UUID) (now : Timestamp) :
    Except String InquiryStore := do
  let ep ← (Latest.latest Episode.sequence (s.episodes.select fun ep => ep.projectID = projectID ∧
    ep.canonicalIssueID = issueID ∧ ep.closedAt = none)).orError "request issue review: no rows"
  if s.jobs.any (fun j => Inquires ep j ∧ j.Active) then .ok s
  else do
    let jobs ← (Jobs.insertJob? s.jobs (inquiryJob ep (maxInputVersion s.jobs ep + 1) (some .human)
      jobID now)).orError "insert issue review: duplicate key value violates unique constraint"
    .ok { s with jobs }

/-- What an inquiry answered, and the lease it was asked under. -/
structure InquiryPersistInput where
  projectID : UUID
  episodeID : UUID
  jobID : UUID
  workerID : String
  leaseGeneration : Nat
  decision : InquiryOutcome
  reason : String
  brief : Option String
  relatedIssues : List UUID
  affectedUnits : Nat
  evidenceSignature : String
  productUnderstandingVersion : Option Nat
  model : String
  promptVersion : Nat
  deriving DecidableEq

namespace InquiryPersistInput

/-- The claimed inquiry job of the call. -/
def Leases (args : InquiryPersistInput) (now : Timestamp) (j : Job) : Prop :=
  j.Owned args.jobID args.workerID args.leaseGeneration now ∧ j.projectID = args.projectID ∧
    j.episodeID = some args.episodeID ∧ j.jobType = .issueInquiry

instance (args : InquiryPersistInput) (now : Timestamp) (j : Job) : Decidable (args.Leases now j) :=
  inferInstanceAs (Decidable (_ ∧ _))

def row (args : InquiryPersistInput) (now : Timestamp) : InquiryDecision where
  projectID := args.projectID
  episodeID := args.episodeID
  decision := args.decision
  reason := args.reason
  brief := args.brief
  relatedIssues := args.relatedIssues
  evaluatedUnits := args.affectedUnits
  evidenceSignature := args.evidenceSignature
  productUnderstandingVersion := args.productUnderstandingVersion
  model := args.model
  promptVersion := args.promptVersion
  decidedAt := now

/-- An investigation of the call's episode. -/
def Investigates (args : InquiryPersistInput) (j : Job) : Prop :=
  j.projectID = args.projectID ∧ j.episodeID = some args.episodeID ∧ j.jobType = .investigate

instance (args : InquiryPersistInput) (j : Job) : Decidable (args.Investigates j) :=
  inferInstanceAs (Decidable (_ ∧ _))

def investigateJob (args : InquiryPersistInput) (groupID : UUID) (inputVersion : Nat)
    (jobID : UUID) (now : Timestamp) : Job :=
  Job.new jobID args.projectID .investigate
    { errorGroupID := some groupID
      episodeID := some args.episodeID
      inputVersion := some inputVersion
      triggeredBy := some .auto
      guidance := args.brief } now now

end InquiryPersistInput

/-- Work of the call exists: a job of its round, or one that is still active. -/
def HasWork (jobs : JobTable) (args : InquiryPersistInput) (inputVersion : Nat) : Bool :=
  jobs.any fun j => args.Investigates j ∧ (j.inputVersion = some inputVersion ∨ j.Active)

/-- Queues the round's investigation, and checks that there is one. -/
def ensureInvestigation (jobs : JobTable) (args : InquiryPersistInput) (groupID : UUID)
    (inputVersion : Nat) (jobID : UUID) (now : Timestamp) : Except String JobTable :=
  let jobs := Jobs.enqueueJobTx jobs (args.investigateJob groupID inputVersion jobID now)
  if HasWork jobs args inputVersion then .ok jobs
  else .error ("Investigate decision for episode " ++ toString args.episodeID ++
    " has no investigation job after insert")

/-- The decision in force for the call's evidence: the stored one, else its own. -/
def effectiveDecision (s : InquiryStore) (args : InquiryPersistInput) (now : Timestamp) :
    InquiryOutcome :=
  ((s.inquiries.find? (args.row now).key).map InquiryDecision.decision).getD args.decision

/-- Appends the answer under the job's lease, and says whether the lease held. -/
def persistInquiryDecision (s : InquiryStore) (args : InquiryPersistInput) (jobID : UUID)
    (now : Timestamp) : Except String (InquiryStore × Bool) :=
  match s.jobs.rows.find? fun j => args.Leases now j with
  | none => .ok (s, false)
  | some job =>
    match job.errorGroupID, job.inputVersion with
    | some groupID, some inputVersion => do
      let inquiries := s.inquiries.insertIgnore (args.row now)
      let stored ← (inquiries.find? (args.row now).key).orError
        ("Inquiry decision for job " ++ toString args.jobID ++ " neither inserted nor found")
      let jobs ← (if stored.decision = .investigate then
          ensureInvestigation s.jobs args groupID inputVersion jobID now
        else .ok s.jobs)
      .ok ({ s with
        inquiries
        jobs
        lastCall := Function.update s.lastCall args.episodeID
          (some ⟨inputVersion, stored.decision⟩) }, true)
    | _, _ => .error ("Inquiry job " ++ toString args.jobID ++
      " missing error_group_id or input_version")

end Opslane.Filter
