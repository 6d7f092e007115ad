import Opslane.Harness.FailFirst
import Opslane.Lib.Result

/-!
# Fix runs

An agent edits the repository, model tier after model tier and with a retry in each. What it leaves
passes a suite gate, which compares with the suite before the edit, and a build gate; then a judge
of the diff, the declared test on base and fix, and a judge of the attempt decide what becomes of
it. An infrastructure error of a gate is latched: no verdict is given on it.

What stands outside the harness answers is a parameter of the run: the agent, the commands in the
sandbox and the two judges, by tier and attempt.
-/

namespace Opslane.Harness

inductive CheckName where
  | suiteBaseline | suitePostPatch | build | reproRed | reproGreen | sandbox
  deriving DecidableEq

structure EvidenceCheck where
  name : CheckName
  outcome : CheckOutcome
  deriving DecidableEq

structure CandidateDiff where
  diff : CodeUnits
  affectedFiles : List CodeUnits
  deriving DecidableEq

def CandidateDiff.empty : CandidateDiff := ⟨[], []⟩

structure Refusal where
  reasonCode : String
  reasonMessage : String
  deriving DecidableEq

structure Declarations where
  declaredTest : Option DeclaredTest := none
  reproductionImpossibleReason : Option CodeUnits := none

/-- A tool call of the agent; `none` is a declaration that is not well formed. -/
inductive HistoryEntry where
  | declareFailingTest (input : Option DeclaredTest)
  | declareReproductionImpossible (reason : Option CodeUnits)
  | other

def HistoryEntry.declares : HistoryEntry → Bool
  | .other => false
  | _ => true

/-- What the agent loop leaves: its result, and the state its tools wrote. -/
structure AgentRun where
  success : Bool
  summary : CodeUnits
  toolHistory : List HistoryEntry
  declarations : Declarations
  /-- The reason of a submitted diagnosis. -/
  giveUp : Option Refusal

/-- The last declaration of the history goes before what the tools wrote. -/
def AgentRun.declared (agent : AgentRun) : Declarations :=
  match agent.toolHistory.reverse.find? HistoryEntry.declares with
  | some (.declareFailingTest (some test)) => ⟨some test, none⟩
  | some (.declareReproductionImpossible (some reason)) => ⟨none, some reason⟩
  | _ => agent.declarations

structure AttemptAnswers where
  agent : Except Fault AgentRun
  /-- The latch of a lost sandbox, read behind the agent loop. -/
  sandboxGone : Bool
  candidate : Except Fault CandidateDiff
  /-- The first run of a check and its retry. -/
  suite : Nat → Except Fault Execution
  build : Nat → Except Fault CheckOutcome
  restore : Except Fault Unit

structure JudgeVerdict where
  approved : Bool
  vetoReason : Option CodeUnits

structure TierAnswers where
  reset : Except Fault Unit
  attempt : Nat → AttemptAnswers
  /-- `none` is a judge that failed. -/
  judgeDiff : CodeUnits → Option Bool
  git : GitAnswers
  base : Execution
  fix : Execution
  judgeFixAttempt : Except Fault JudgeVerdict
  workingDiff : Option CandidateDiff

structure Answers where
  baseSha : Except Fault (Option CodeUnits)
  installFailed : Bool
  plan : Except Fault TestPlan
  baseline : Nat → Except Fault Execution
  cleanBaseline : Except Fault Unit
  trackedFiles : Except Fault Unit
  goneBeforeLoop : Bool
  tier : Nat → TierAnswers
  goneAtEnd : Bool
  workingDiffAtEnd : Option CandidateDiff

structure FixInput where
  python : Bool
  human : Bool
  /-- How many model tiers the cascade has. -/
  tiers : Nat

inductive Tier where
  | reproduced | checked | attempted
  deriving DecidableEq

structure TierEvidence where
  declaredTest : Option DeclaredTest
  reproductionImpossibleReason : Option CodeUnits
  redObserved : Bool
  greenObserved : Bool
  suiteNewFailures : Option (List CodeUnits)
  suiteDiscovered : Option Int
  buildPassed : Bool
  qualityConfirmed : Bool

def deriveTier (e : TierEvidence) : Tier :=
  let cleanSuite := e.suiteNewFailures = some []
  if e.declaredTest.isSome ∧ e.redObserved ∧ e.greenObserved ∧ cleanSuite ∧
      e.suiteDiscovered.any (0 < ·) then .reproduced
  else if e.declaredTest.isNone ∧ e.reproductionImpossibleReason.any (!·.isEmpty) ∧ cleanSuite ∧
      e.buildPassed ∧ e.qualityConfirmed then .checked
  else .attempted

inductive FixStatus where
  | fixReady | needsHuman
  deriving DecidableEq

inductive Confidence where
  | high | medium | low
  deriving DecidableEq

structure FixResult where
  status : FixStatus
  candidate : Option CandidateDiff := none
  confidence : Option Confidence := none
  rootCause : Option CodeUnits := none
  reason : Option Refusal := none
  draftEligible : Option Bool := none
  tier : Option Tier := none
  declaredTestSource : Option CodeUnits := none
  checks : List EvidenceCheck

structure FixState where
  checks : List EvidenceCheck := []
  verificationInfraError : Bool := false
  deriving DecidableEq

def FixState.addCheck (s : FixState) (name : CheckName) (outcome : CheckOutcome) : FixState :=
  { s with checks := s.checks ++ [⟨name, outcome⟩] }

def FixState.latch (s : FixState) (outcome : CheckOutcome) : FixState :=
  if outcome = .infraError then { s with verificationInfraError := true } else s

/-- A step that may throw. The evidence is what was recorded until then. -/
abbrev Step (α : Type) := Except (Fault × FixState) α

def raise {α : Type} (s : FixState) (x : Except Fault α) : Step α := x.mapError fun fault => (fault, s)

/-- What the attempts of one tier leave to each other. -/
structure TierState where
  agent : Option AgentRun := none
  candidate : Option CandidateDiff := none
  testGatePassed : Bool := false
  buildGatePassed : Bool := false
  finalSuiteNewFailures : Option (List CodeUnits) := none
  finalSuiteDiscovered : Option Int := none

def TierState.succeeded (t : TierState) : Bool := t.agent.any (·.success)

def TierState.diff (t : TierState) : CandidateDiff := t.candidate.getD .empty

/-- The suite before the agent's edits. -/
structure Baseline where
  installFailed : Bool
  plan : TestPlan
  run : Option SuiteRun

/-- An infrastructure error is retried once. -/
def withInfraRetry {α : Type} (outcome : α → CheckOutcome) (execute : Nat → Except Fault α) :
    Except Fault α :=
  match execute 0 with
  | .error fault => .error fault
  | .ok first => if outcome first = .infraError then execute 1 else .ok first

def runPlan (plan : TestPlan) (executions : Nat → Except Fault Execution) : Except Fault SuiteRun :=
  withInfraRetry (·.outcome) fun i => (executions i).map (runSuite plan)

/-- The failures the fix is answerable for. -/
def newFailures (comparison : SuiteComparison) : List CodeUnits :=
  comparison.newFailures ++
    comparison.missingFromPost.map (· ++ codeUnits " [not collected post-patch]")

/-- Nothing to compare with. -/
def Baseline.skips (b : Baseline) : Option CheckOutcome :=
  if b.installFailed then some .infraError
  else if b.plan.kind = .none then some .skippedNoRunner
  else if b.run.any (·.outcome = .infraError) then some .infraError
  else none

def suitePassed (python : Bool) (comparison : SuiteComparison) (post : SuiteRun) : Bool :=
  if post.tests.isSome then (newFailures comparison).isEmpty && (!python || post.outcome = .passed)
  else comparison.comparable

/-- The suite gate: whether it lets the attempt through. -/
def suiteGate (python : Bool) (b : Baseline) (a : AttemptAnswers) (s : FixState) (t : TierState) :
    Step (Bool × FixState × TierState) :=
  match b.skips with
  | some outcome => .ok (true, s.addCheck .suitePostPatch outcome, t)
  | none => do
    let post ← raise s (runPlan b.plan a.suite)
    let comparison := compareSuiteRuns b.run post
    let t := { t with
      finalSuiteNewFailures := some (newFailures comparison), finalSuiteDiscovered := post.total }
    if post.outcome = .infraError then
      .ok (true, (s.addCheck .suitePostPatch .infraError).latch .infraError, t)
    else
      let passed := suitePassed python comparison post
      .ok (passed, s.addCheck .suitePostPatch (if passed then .passed else .failed), t)

def buildGate (b : Baseline) (a : AttemptAnswers) : Except Fault CheckOutcome :=
  if b.installFailed then .ok .infraError else withInfraRetry id a.build

inductive AttemptEnd where
  | gaveUp (reason : Refusal)
  | agentFailed
  | retry
  | through
  deriving DecidableEq

/-- The gates of an attempt, on the diff the agent left. -/
def runGates (python : Bool) (b : Baseline) (a : AttemptAnswers) (s : FixState) (t : TierState) :
    Step (AttemptEnd × FixState × TierState) := do
  let (passed, s, t) ← suiteGate python b a s t
  if !passed then
    let _ ← raise s a.restore
    .ok (.retry, s, t)
  else
    let build ← raise s (buildGate b a)
    let s := s.addCheck .build build
    if build = .failed then
      let _ ← raise s a.restore
      .ok (.retry, s, t)
    else
      .ok (.through, s.latch build,
        { t with buildGatePassed := build = .passed, testGatePassed := true })

def sandboxGone (s : FixState) : Fault × FixState :=
  (.verificationInfra (codeUnits ("The verification sandbox became unavailable during the fix attempt, " ++
    "so the fix could not be proven either way.")), s.addCheck .sandbox .infraError)

def runAttempt (python : Bool) (b : Baseline) (a : AttemptAnswers) (s : FixState) (t : TierState) :
    Step (AttemptEnd × FixState × TierState) := do
  let agent ← raise s a.agent
  if a.sandboxGone then .error (sandboxGone s)
  else
    let t := { t with agent := some agent }
    match agent.giveUp with
    | some reason => .ok (.gaveUp reason, s, t)
    | none =>
      if !agent.success then .ok (.agentFailed, s, t)
      else
        let candidate ← raise s a.candidate
        runGates python b a s { t with candidate := some candidate }

/-- The attempts of a tier: one more after each that a gate sends back. -/
def attempts (python : Bool) (b : Baseline) (tier : TierAnswers) :
    Nat → Nat → FixState → TierState → Step (AttemptEnd × FixState × TierState)
  | 0, _, s, t => .ok (.retry, s, t)
  | remaining + 1, attempt, s, t => do
    let (ending, s, t) ← runAttempt python b (tier.attempt attempt) s t
    if ending = .retry then attempts python b tier remaining (attempt + 1) s t
    else .ok (ending, s, t)

def maxTestRetries : Nat := 1

/-- The last tier ends without a candidate that passed its gates. -/
def failedResult (tier : TierAnswers) (retries : Nat) (s : FixState) (t : TierState) : FixResult :=
  if !t.succeeded then
    { status := .needsHuman, candidate := tier.workingDiff, checks := s.checks
      reason := some ⟨"budget_exhausted", "The fix attempt stopped before it produced a result: it " ++
        "reached its turn or spend limit, or a model call failed."⟩ }
  else if trimUnits t.diff.diff = [] then
    { status := .needsHuman, checks := s.checks
      reason := some ⟨"malformed_diff", "Agent completed but produced no code changes"⟩ }
  else
    { status := .needsHuman, candidate := some t.diff, confidence := some .low, checks := s.checks
      rootCause := t.agent.map (·.summary)
      reason := some ⟨"tests_failed", "Agent produced a fix but tests still fail after " ++
        toString (retries + 1) ++ " attempts"⟩ }

def belowFloor (qualityConfirmed : Bool) (tier : Tier) : Refusal :=
  ⟨"low_confidence_fix",
    if !qualityConfirmed then "The automated diff review scored this change below the quality " ++
      "floor; details are in the verification evidence."
    else if tier = .attempted then "The candidate fix did not satisfy the mechanical " ++
      "red-then-green verification predicate."
    else "The candidate fix was checked but could not mechanically reproduce the original failure."⟩

def FixState.addRepro (s : FixState) (failFirst : FailFirstOutcome) : FixState :=
  { s with checks := s.checks ++ (failFirst.redCheck.map (EvidenceCheck.mk .reproRed)).toList ++
      (failFirst.greenCheck.map (EvidenceCheck.mk .reproGreen)).toList }

def tierEvidence (declared : Declarations) (failFirst : FailFirstOutcome) (qualityConfirmed : Bool)
    (t : TierState) : TierEvidence where
  declaredTest := declared.declaredTest
  reproductionImpossibleReason := declared.reproductionImpossibleReason
  redObserved := failFirst.redObserved
  greenObserved := failFirst.greenObserved
  suiteNewFailures := t.finalSuiteNewFailures
  suiteDiscovered := t.finalSuiteDiscovered
  buildPassed := t.buildGatePassed
  qualityConfirmed := qualityConfirmed

/-- What the judge of the attempt says, where it is asked. -/
def approval (tier : TierAnswers) (asked : Bool) (s : FixState) : Step Bool :=
  if asked then (raise s tier.judgeFixAttempt).map (·.approved) else .ok true

/-- The precision gate, on a diff whose quality was judged. -/
def precisionGate (human : Bool) (b : Baseline) (tier : TierAnswers) (qualityConfirmed : Bool)
    (s : FixState) (t : TierState) : Step (FixResult × FixState) := do
  let declared := (t.agent.map (·.declared)).getD {}
  let failFirst ← raise s (runFailFirst
    ⟨b.plan, declared.declaredTest, declared.reproductionImpossibleReason⟩ tier.git tier.base tier.fix)
  let s := s.addRepro failFirst
  let derived := deriveTier (tierEvidence declared failFirst qualityConfirmed t)
  let verified := derived = .reproduced && t.buildGatePassed && qualityConfirmed
  let draftEligible := derived = .checked
  let result : FixResult :=
    { status := .needsHuman, candidate := some t.diff, rootCause := t.agent.map (·.summary)
      tier := some derived, declaredTestSource := failFirst.declaredTestSource, checks := s.checks }
  let approved ← approval tier (human || verified || draftEligible) s
  if !human && !approved then
    .ok ({ result with
           confidence := some .low, draftEligible := some false
           reason := some ⟨"low_confidence_fix", "The verification judge rejected this attempt; its " ++
             "report is attached to the incident."⟩ }, s)
  else if verified then
    .ok ({ result with status := .fixReady, confidence := some .high }, s)
  else
    .ok ({ result with
           confidence := some (if qualityConfirmed then .medium else .low)
           draftEligible := some draftEligible
           reason := some (belowFloor qualityConfirmed derived) }, s)

def infraMessage : CodeUnits :=
  codeUnits ("Verification infrastructure failed (dependency install, test runner, build, or " ++
    "timeout), so the fix could not be proven either way.")

/-- The end of a tier. `none` escalates to the next one. -/
def concludeTier (human : Bool) (b : Baseline) (tier : TierAnswers) (retries : Nat) (isLast : Bool)
    (s : FixState) (t : TierState) : Step (Option FixResult × FixState) :=
  if !t.succeeded || !t.testGatePassed then
    .ok (if isLast then some (failedResult tier retries s t) else none, s)
  else if s.verificationInfraError then .error (.verificationInfra infraMessage, s)
  else if trimUnits t.diff.diff = [] then
    .ok (if isLast then some
        { status := .needsHuman, checks := s.checks
          reason := some ⟨"malformed_diff", "Agent completed but produced no code changes"⟩ }
      else none, s)
  else
    let qualityConfirmed := (tier.judgeDiff t.diff.diff).getD false
    if !qualityConfirmed && !isLast then .ok (none, s)
    else do
      let (result, s) ← precisionGate human b tier qualityConfirmed s t
      .ok (some result, s)

/-- A diagnosis is terminal; any other ending concludes the tier. -/
def tierResult (human : Bool) (b : Baseline) (tier : TierAnswers) (retries : Nat) (isLast : Bool) :
    AttemptEnd × FixState × TierState → Step (Option FixResult × FixState)
  | (.gaveUp reason, s, _) =>
    .ok (some { status := .needsHuman, candidate := tier.workingDiff, reason := some reason
                checks := s.checks }, s)
  | (_, s, t) => concludeTier human b tier retries isLast s t

def cascade (input : FixInput) (answers : Answers) (b : Baseline) (retries : Nat) :
    Nat → Nat → FixState → Step (Option FixResult × FixState)
  | 0, _, s => .ok (none, s)
  | remaining + 1, index, s => do
    let tier := answers.tier index
    let _ ← raise s (if index = 0 then .ok () else tier.reset)
    let ended ← attempts input.python b tier (retries + 1) 0 s {}
    match ← tierResult input.human b tier retries (remaining = 0) ended with
    | (some result, s) => .ok (some result, s)
    | (none, s) => cascade input answers b retries remaining (index + 1) s

/-- The suite before the agent edits. -/
def establishBaseline (answers : Answers) : Step (Baseline × FixState) :=
  if answers.installFailed then
    .ok (⟨true, ⟨.none, none⟩, none⟩, (FixState.addCheck {} .suiteBaseline .infraError).latch .infraError)
  else do
    let plan ← raise {} answers.plan
    if plan.kind = .none then .ok (⟨false, plan, none⟩, {})
    else
      let run ← raise {} (runPlan plan answers.baseline)
      let s := (FixState.addCheck {} .suiteBaseline run.outcome).latch run.outcome
      let _ ← raise s answers.cleanBaseline
      .ok (⟨false, plan, some run⟩, s)

def runCascade (input : FixInput) (answers : Answers) (retries : Nat) : Step FixResult := do
  let sha ← raise {} answers.baseSha
  if sha.all (·.isEmpty) then
    .error (.verificationInfra (codeUnits
      "Could not identify the base commit for fail-first verification."), {})
  else
    let (b, s) ← establishBaseline answers
    let _ ← raise s answers.trackedFiles
    if answers.goneBeforeLoop then .error (sandboxGone s)
    else
      let (result, s) ← cascade input answers b retries input.tiers 0 s
      .ok (result.getD
        { status := .needsHuman, checks := s.checks
          reason := some ⟨"worker_runtime_error", "Model cascade exhausted without result"⟩ })

/-- What an error of the harness becomes. -/
def harnessError (answers : Answers) : Fault × FixState → Except Fault FixResult
  | (.verificationInfra message, _) => .error (.verificationInfra message)
  | (.sandboxUnavailable, _) =>
    .error (.verificationInfra (codeUnits ("The verification sandbox became unavailable, so the fix " ++
      "could not be proven either way.")))
  | (.failed _, s) =>
    if answers.goneAtEnd then
      .error (.verificationInfra (codeUnits ("The verification sandbox became unavailable, so the " ++
        "fix could not be proven either way.")))
    else
      .ok { status := .needsHuman, candidate := answers.workingDiffAtEnd, checks := s.checks
            reason := some ⟨"worker_runtime_error", "Agent harness error"⟩ }

/-- The run, with as many retries in a tier as given; the source has `maxTestRetries`. -/
def runAgentFixCore (input : FixInput) (answers : Answers) (retries : Nat) : Except Fault FixResult :=
  match runCascade input answers retries with
  | .ok result => .ok result
  | .error e => harnessError answers e

end Opslane.Harness
