import Opslane.Harness.FixRun
import Opslane.Harness.RedGreen

/-!
# The precision gate

A fix is ready only on the evidence of one attempt: everything its verdict rests on was observed on
the diff that attempt left. A gate that could not run decides nothing: no verdict is given on an
attempt that went through it. The declared test is no gate in this sense, and where it cannot be run
the verdict is that the fix was not reproduced.
-/

namespace Opslane.Harness

def CheckName.isGate : CheckName → Bool
  | .suiteBaseline | .suitePostPatch | .build => true
  | _ => false

/-- The evidence of the last attempt that reached its gates. -/
def decidingChecks (checks : List EvidenceCheck) : List EvidenceCheck :=
  checks.foldl (fun deciding check =>
    if check.name = .suitePostPatch then [check]
    else if deciding = [] then [] else deciding ++ [check]) []

/-- The comparison with the suite before the edit shows no new failure. -/
structure CleanSuite (baseline post : SuiteRun) : Prop where
  ran : post.outcome ≠ .infraError
  comparable : (compareSuiteRuns (some baseline) post).comparable = true
  newFailures : (compareSuiteRuns (some baseline) post).newFailures = []
  missing : (compareSuiteRuns (some baseline) post).missingFromPost = []

/-- What a ready fix rests on, all of it in the attempt `a`. -/
structure Proven (human : Bool) (b : Baseline) (tier : TierAnswers) (a : AttemptAnswers)
    (result : FixResult) : Prop where
  candidate : ∃ diff, a.candidate = .ok diff ∧ result.candidate = some diff ∧
    tier.judgeDiff diff.diff = some true
  suite : ∃ baseline post, b.run = some baseline ∧ runPlan b.plan a.suite = .ok post ∧
    CleanSuite baseline post
  build : buildGate b a = .ok .passed
  redGreen : ∃ agent outcome, a.agent = .ok agent ∧ agent.success = true ∧
    runFailFirst ⟨b.plan, agent.declared.declaredTest, agent.declared.reproductionImpossibleReason⟩
      tier.git tier.base tier.fix = .ok outcome ∧
    outcome.redObserved = true ∧ outcome.greenObserved = true
  approved : human = false → ∃ verdict, tier.judgeFixAttempt = .ok verdict ∧ verdict.approved = true
  evidence : decidingChecks result.checks =
    [⟨.suitePostPatch, .passed⟩, ⟨.build, .passed⟩, ⟨.reproRed, .failed⟩, ⟨.reproGreen, .passed⟩]

/-- A ready fix was proven in one attempt of the run. -/
def ReadyIsProven (input : FixInput) (answers : Answers) (retries : Nat) : Prop :=
  ∀ result, runAgentFixCore input answers retries = .ok result → result.status = .fixReady →
    ∃ b s, establishBaseline answers = .ok (b, s) ∧
      ∃ k i, k < input.tiers ∧ i ≤ retries ∧
        Proven input.human b (answers.tier k) ((answers.tier k).attempt i) result

/-- No verdict is given on an attempt with a check that could not run. -/
def NoVerdictOnInfra (input : FixInput) (answers : Answers) (retries : Nat) : Prop :=
  ∀ result, runAgentFixCore input answers retries = .ok result →
    ∀ check ∈ decidingChecks result.checks, check.outcome ≠ .infraError

/-- Where a gate could not run, no build behind the last suite run let the attempt through. -/
def Undecided (checks : List EvidenceCheck) : Prop :=
  ∀ gate ∈ checks, gate.name.isGate = true → gate.outcome = .infraError →
    ∀ check ∈ decidingChecks checks, check.name = .build → check.outcome = .failed

/-- No verdict is given on an attempt that went through its gates, when a gate could not run. -/
def NoVerdictOnGateInfra (input : FixInput) (answers : Answers) (retries : Nat) : Prop :=
  ∀ result, runAgentFixCore input answers retries = .ok result → Undecided result.checks

theorem decidingChecks_append (checks : List EvidenceCheck) (check : EvidenceCheck) :
    decidingChecks (checks ++ [check]) =
      if check.name = .suitePostPatch then [check]
      else if decidingChecks checks = [] then [] else decidingChecks checks ++ [check] := by
  rw [decidingChecks, List.foldl_append]
  rfl

@[simp] theorem addCheck_checks (s : FixState) (name : CheckName) (outcome : CheckOutcome) :
    (s.addCheck name outcome).checks = s.checks ++ [⟨name, outcome⟩] := rfl

@[simp] theorem addCheck_latched (s : FixState) (name : CheckName) (outcome : CheckOutcome) :
    (s.addCheck name outcome).verificationInfraError = s.verificationInfraError := rfl

@[simp] theorem latch_checks (s : FixState) (outcome : CheckOutcome) :
    (s.latch outcome).checks = s.checks := by
  unfold FixState.latch
  split <;> rfl

theorem latch_latched (s : FixState) (outcome : CheckOutcome) :
    (s.latch outcome).verificationInfraError = true ↔
      outcome = .infraError ∨ s.verificationInfraError = true := by
  unfold FixState.latch
  split
  · rename_i infra
    simp [infra]
  · rename_i ran
    simp [ran]

/-- While nothing is latched, every gate ran. -/
def Clean (s : FixState) : Prop :=
  s.verificationInfraError = false →
    ∀ check ∈ s.checks, check.name.isGate = true → check.outcome ≠ .infraError

/-- Nothing is decided against a latched error. -/
structure Settled (s : FixState) : Prop where
  clean : Clean s
  failed : s.verificationInfraError = true →
    ∀ check ∈ decidingChecks s.checks, check.name = .build → check.outcome = .failed

variable {s : FixState}

theorem Settled.undecided (settled : Settled s) : Undecided s.checks := by
  intro gate member isGate infra
  cases latched : s.verificationInfraError with
  | false => exact absurd infra (settled.clean latched gate member isGate)
  | true => exact settled.failed latched

theorem Clean.settled (clean : Clean s) (unlatched : s.verificationInfraError = false) :
    Settled s :=
  ⟨clean, fun latched => absurd latched (by simp [unlatched])⟩

theorem Clean.addCheck (clean : Clean s) (name : CheckName) (outcome : CheckOutcome)
    (ran : outcome = .infraError → s.verificationInfraError = true) :
    Clean (s.addCheck name outcome) := by
  intro unlatched check member isGate infra
  rw [addCheck_latched] at unlatched
  rcases List.mem_append.mp member with earlier | new
  · exact clean unlatched check earlier isGate infra
  · obtain rfl := List.mem_singleton.mp new
    exact absurd (ran infra) (by simp [unlatched])

theorem Clean.addLatched (clean : Clean s) (name : CheckName) (outcome : CheckOutcome) :
    Clean ((s.addCheck name outcome).latch outcome) := by
  intro unlatched check member isGate infra
  have neither := mt (latch_latched _ _).mpr (by simpa using unlatched)
  rw [not_or, addCheck_latched] at neither
  rw [latch_checks] at member
  rcases List.mem_append.mp member with earlier | new
  · exact clean (by simpa using neither.2) check earlier isGate infra
  · obtain rfl := List.mem_singleton.mp new
    exact neither.1 infra

theorem settled_of_suite (clean : Clean s) {suite : EvidenceCheck}
    (deciding : decidingChecks s.checks = [suite]) (isSuite : suite.name = .suitePostPatch) :
    Settled s := by
  refine ⟨clean, fun _ check member isBuild => ?_⟩
  rw [deciding, List.mem_singleton] at member
  subst member
  cases isSuite.symm.trans isBuild

theorem Settled.addFailed (settled : Settled s) : Settled (s.addCheck .build .failed) := by
  refine ⟨settled.clean.addCheck .build .failed (by simp), fun latched check member isBuild => ?_⟩
  rw [addCheck_checks, decidingChecks_append] at member
  rw [if_neg (by simp)] at member
  split at member
  · cases member
  · rcases List.mem_append.mp member with earlier | new
    · exact settled.failed latched check earlier isBuild
    · obtain rfl := List.mem_singleton.mp new
      rfl

theorem addRepro_clean (clean : Clean s) (failFirst : FailFirstOutcome) :
    Clean (s.addRepro failFirst) := by
  intro unlatched check member isGate
  rcases List.mem_append.mp member with earlier | green
  · rcases List.mem_append.mp earlier with earlier | red
    · exact clean unlatched check earlier isGate
    · obtain ⟨_, -, rfl⟩ := Option.map_eq_some_iff.mp (Option.mem_toList.mp red)
      cases isGate
  · obtain ⟨_, -, rfl⟩ := Option.map_eq_some_iff.mp (Option.mem_toList.mp green)
    cases isGate

theorem eq_of_withInfraRetry {α : Type} {outcome : α → CheckOutcome} {execute : Nat → Except Fault α}
    {a : α} (ran : withInfraRetry outcome execute = .ok a) : ∃ i, execute i = .ok a := by
  unfold withInfraRetry at ran
  split at ran
  · cases ran
  · rename_i first answered
    split at ran
    · exact ⟨1, ran⟩
    · exact ⟨0, answered.trans ran⟩

variable {plan : TestPlan}

theorem eq_of_runPlan {executions : Nat → Except Fault Execution} {run : SuiteRun}
    (ran : runPlan plan executions = .ok run) : ∃ e, run = runSuite plan e := by
  obtain ⟨i, answered⟩ := eq_of_withInfraRetry ran
  obtain ⟨e, -, rfl⟩ := Except.map_eq_ok_iff.mp answered
  exact ⟨e, rfl⟩

variable {command output : CodeUnits}

theorem pytestRun_tests {exitCode : Nat} {xml : Option CodeUnits}
    (ran : (pytestRun command exitCode output xml).outcome ≠ .infraError) :
    (pytestRun command exitCode output xml).tests.isSome = true := by
  unfold pytestRun at ran ⊢
  split at ran
  · exact absurd rfl ran
  · rename_i read
    rw [if_neg read]
    rfl

theorem vitestRun_tests {exitCode : Nat} {report : Option JsonReport}
    (ran : (vitestRun command exitCode output report).outcome ≠ .infraError) :
    (vitestRun command exitCode output report).tests.isSome = true := by
  cases report with
  | none => exact absurd rfl ran
  | some report =>
    simp only [vitestRun]
    split
    · rfl
    · split <;> rfl

theorem reports_of_total {e : Execution} (counted : (runSuite plan e).total.isSome = true) :
    ∃ command, plan = ⟨.pytest, some command⟩ ∨ plan = ⟨.vitest, some command⟩ := by
  obtain ⟨kind, command⟩ := plan
  cases command with
  | none => cases kind <;> cases counted
  | some command =>
    refine ⟨command, ?_⟩
    cases kind with
    | none => cases counted
    | vitest => exact Or.inr rfl
    | pytest => exact Or.inl rfl
    | npmScript =>
      simp only [runSuite] at counted
      split at counted
      · cases counted
      · split at counted <;> cases counted

theorem runSuite_tests {e e' : Execution} (counted : (runSuite plan e).total.isSome = true)
    (ran : (runSuite plan e').outcome ≠ .infraError) :
    (runSuite plan e').tests.isSome = true := by
  obtain ⟨command, rfl | rfl⟩ := reports_of_total counted
  all_goals
    simp only [runSuite] at ran ⊢
    split at ran
    · exact absurd rfl ran
    · split at ran
      · exact absurd rfl ran
      · exact absurd rfl ran
      · first
        | exact pytestRun_tests ran
        | exact vitestRun_tests ran

/-- An error that becomes a verdict leaves the run settled. -/
def Harmless : Fault × FixState → Prop
  | (.failed _, s) => Settled s
  | _ => True

theorem raise_ends {α : Type} (settled : Settled s) (x : Except Fault α) :
    (raise s x).Ends Harmless fun a => x = .ok a := by
  cases x with
  | ok a => rfl
  | error fault =>
    cases fault with
    | failed message => exact settled
    | sandboxUnavailable => trivial
    | verificationInfra message => trivial

/-- A baseline that could not run is latched. -/
def Latched (b : Baseline) (s : FixState) : Prop :=
  b.skips = some .infraError → s.verificationInfraError = true

/-- What a suite gate that was passed leaves to the verdict. -/
def Compared (b : Baseline) (a : AttemptAnswers) (outcome : CheckOutcome) (s : FixState)
    (t : TierState) : Prop :=
  t.finalSuiteNewFailures = none ∨
    ∃ post, b.skips = none ∧ runPlan b.plan a.suite = .ok post ∧
      t.finalSuiteNewFailures = some (newFailures (compareSuiteRuns b.run post)) ∧
      t.finalSuiteDiscovered = post.total ∧
      (s.verificationInfraError = false → post.outcome ≠ .infraError ∧ outcome = .passed)

/-- Between two attempts, no verdict is prepared. -/
structure Between (b : Baseline) (s : FixState) (t : TierState) : Prop where
  settled : Settled s
  latched : Latched b s
  unset : b.skips.isSome = true → t.finalSuiteNewFailures = none
  untested : t.testGatePassed = false

structure SuiteGated (b : Baseline) (a : AttemptAnswers) (before after : TierState) (passed : Bool)
    (s : FixState) : Prop where
  between : Between b s after
  agent : after.agent = before.agent
  candidate : after.candidate = before.candidate
  suite : passed = true → ∃ outcome,
    decidingChecks s.checks = [⟨.suitePostPatch, outcome⟩] ∧ Compared b a outcome s after

theorem decidingChecks_suite (s : FixState) (outcome : CheckOutcome) :
    decidingChecks (s.addCheck .suitePostPatch outcome).checks = [⟨.suitePostPatch, outcome⟩] := by
  rw [addCheck_checks, decidingChecks_append, if_pos rfl]

variable {b : Baseline} {t : TierState} {a : AttemptAnswers}

variable {python : Bool}

theorem suiteGate_ends (between : Between b s t) :
    (suiteGate python b a s t).Ends Harmless fun r => SuiteGated b a t r.2.2 r.1 r.2.1 := by
  unfold suiteGate
  cases skips : b.skips with
  | some outcome =>
    have deciding := decidingChecks_suite s outcome
    have clean : Clean (s.addCheck .suitePostPatch outcome) :=
      between.settled.clean.addCheck _ _ fun infra => between.latched (by rw [skips, infra])
    have unset := between.unset (by rw [skips]; rfl)
    exact ⟨⟨settled_of_suite clean deciding rfl, between.latched, fun _ => unset, between.untested⟩,
      rfl, rfl, fun _ => ⟨outcome, deciding, Or.inl unset⟩⟩
  | none =>
    refine (raise_ends between.settled _).bind fun post ran => ?_
    have unskipped : b.skips.isSome = true → False := by simp [skips]
    split
    · rename_i infra
      have deciding : decidingChecks
          ((s.addCheck .suitePostPatch .infraError).latch .infraError).checks =
            [⟨.suitePostPatch, .infraError⟩] := by
        rw [latch_checks, decidingChecks_suite]
      have latched : ((s.addCheck .suitePostPatch .infraError).latch
          .infraError).verificationInfraError = true := (latch_latched _ _).mpr (Or.inl rfl)
      refine ⟨⟨settled_of_suite (between.settled.clean.addLatched _ _) deciding rfl, fun _ => latched,
        fun skipped => (unskipped skipped).elim, between.untested⟩, rfl, rfl, fun _ => ?_⟩
      exact ⟨_, deciding, Or.inr ⟨post, skips, ran, rfl, rfl,
        fun unlatched => absurd (latched.symm.trans unlatched) (by simp)⟩⟩
    · rename_i finished
      have deciding := decidingChecks_suite s (if suitePassed python (compareSuiteRuns b.run post) post
        then .passed else .failed)
      have clean := between.settled.clean.addCheck .suitePostPatch
        (if suitePassed python (compareSuiteRuns b.run post) post then .passed else .failed)
        (by split <;> simp)
      refine ⟨⟨settled_of_suite clean deciding rfl, between.latched,
        fun skipped => (unskipped skipped).elim, between.untested⟩, rfl, rfl, fun passed => ?_⟩
      refine ⟨_, deciding, Or.inr ⟨post, skips, ran, rfl, rfl, fun _ => ⟨finished, ?_⟩⟩⟩
      exact if_pos passed

/-- An attempt whose gates let it through. -/
structure Through (b : Baseline) (a : AttemptAnswers) (s : FixState) (t : TierState) : Prop where
  clean : Clean s
  latched : Latched b s
  tested : t.testGatePassed = true
  agent : ∃ agent, a.agent = .ok agent ∧ t.agent = some agent ∧ agent.success = true
  candidate : ∃ diff, a.candidate = .ok diff ∧ t.candidate = some diff
  gates : ∃ suite build, decidingChecks s.checks = [⟨.suitePostPatch, suite⟩, ⟨.build, build⟩] ∧
    Compared b a suite s t ∧ buildGate b a = .ok build ∧ t.buildGatePassed = decide (build = .passed)

/-- How an attempt ends. -/
def Done (b : Baseline) (a : AttemptAnswers) : AttemptEnd × FixState × TierState → Prop
  | (.through, s, t) => Through b a s t
  | (_, s, t) => Between b s t

theorem runGates_ends {agent : AgentRun} {diff : CandidateDiff} (between : Between b s t)
    (ran : a.agent = .ok agent) (isAgent : t.agent = some agent) (success : agent.success = true)
    (extracted : a.candidate = .ok diff) (isCandidate : t.candidate = some diff) :
    (runGates python b a s t).Ends Harmless (Done b a) := by
  unfold runGates
  refine (suiteGate_ends between).bind ?_
  rintro ⟨passed, s, t'⟩ gated
  cases passed with
  | false =>
    refine (raise_ends gated.between.settled _).bind fun _ _ => ?_
    exact gated.between
  | true =>
    refine (raise_ends gated.between.settled _).bind fun build built => ?_
    obtain ⟨suite, deciding, compared⟩ := gated.suite rfl
    by_cases failed : build = .failed
    · subst failed
      have settled := gated.between.settled.addFailed
      refine (raise_ends settled _).bind fun _ _ => ?_
      exact ⟨settled, gated.between.latched, gated.between.unset, gated.between.untested⟩
    · rw [if_neg failed]
      have kept : s.verificationInfraError = true →
          ((s.addCheck .build build).latch build).verificationInfraError = true :=
        fun latched => (latch_latched _ _).mpr (Or.inr latched)
      refine ⟨gated.between.settled.clean.addLatched _ _, fun skipped => kept (gated.between.latched skipped),
        rfl, ⟨agent, ran, gated.agent.trans isAgent, success⟩,
        ⟨diff, extracted, gated.candidate.trans isCandidate⟩, suite, build, ?_, ?_, built, rfl⟩
      · rw [latch_checks, addCheck_checks, decidingChecks_append, deciding]
        rfl
      · rcases compared with unset | ⟨post, skips, ran, new, discovered, finished⟩
        · exact Or.inl unset
        · refine Or.inr ⟨post, skips, ran, new, discovered, fun unlatched => finished ?_⟩
          exact Bool.eq_false_iff.mpr (mt kept (by simp [unlatched]))

theorem runAttempt_ends (between : Between b s t) :
    (runAttempt python b a s t).Ends Harmless (Done b a) := by
  unfold runAttempt
  refine (raise_ends between.settled _).bind fun agent ran => ?_
  split
  · trivial
  · have kept : Between b s { t with agent := some agent } :=
      ⟨between.settled, between.latched, between.unset, between.untested⟩
    split
    · exact kept
    · split
      · exact kept
      · rename_i success
        refine (raise_ends between.settled _).bind fun diff extracted => ?_
        exact runGates_ends ⟨between.settled, between.latched, between.unset, between.untested⟩ ran rfl
          (by simpa using success) extracted rfl

/-- How the attempts of a tier end: with the last of them. -/
def TierDone (b : Baseline) (tier : TierAnswers) (retries : Nat) :
    AttemptEnd × FixState × TierState → Prop
  | (.through, s, t) => ∃ i, i ≤ retries ∧ Through b (tier.attempt i) s t
  | (_, s, t) => Between b s t

variable {tier : TierAnswers} {retries : Nat}

theorem attempts_ends {remaining attempt : Nat} (between : Between b s t)
    (within : attempt + remaining = retries + 1) :
    (attempts python b tier remaining attempt s t).Ends Harmless (TierDone b tier retries) := by
  induction remaining generalizing attempt s t with
  | zero => exact between
  | succ remaining ih =>
    unfold attempts
    refine (runAttempt_ends between).bind ?_
    rintro ⟨ending, s, t⟩ done
    cases ending with
    | retry => exact ih done (by omega)
    | through => exact ⟨attempt, by omega, done⟩
    | gaveUp reason => exact done
    | agentFailed => exact done

/-- A verdict that the attempts of a tier account for. -/
structure Sound (human : Bool) (b : Baseline) (tier : TierAnswers) (retries : Nat)
    (result : FixResult) : Prop where
  undecided : Undecided result.checks
  proven : result.status = .fixReady → ∃ i, i ≤ retries ∧ Proven human b tier (tier.attempt i) result

variable {result : FixResult} {human : Bool}

theorem Sound.of_needsHuman (undecided : Undecided result.checks)
    (needsHuman : result.status = .needsHuman) :
    Sound human b tier retries result :=
  ⟨undecided, fun ready => absurd (needsHuman.symm.trans ready) (by simp)⟩

/-- The baseline was run with the plan of the attempts, unless there is no runner. -/
def Planned (b : Baseline) : Prop := b.skips = none → ∃ e, b.run = some (runSuite b.plan e)

theorem cleanSuite_of_compared {suite : CheckOutcome} (planned : Planned b)
    (compared : Compared b a suite s t) (unlatched : s.verificationInfraError = false)
    (clean : t.finalSuiteNewFailures = some [])
    (discovered : t.finalSuiteDiscovered.isSome = true) :
    suite = .passed ∧ ∃ baseline post, b.run = some baseline ∧ runPlan b.plan a.suite = .ok post ∧
      CleanSuite baseline post := by
  rcases compared with unset | ⟨post, skips, ran, new, total, finished⟩
  · cases unset.symm.trans clean
  · obtain ⟨e, isRun⟩ := planned skips
    obtain ⟨e', rfl⟩ := eq_of_runPlan ran
    obtain ⟨postRan, passed⟩ := finished unlatched
    have counted : (runSuite b.plan e').total.isSome = true := by rw [← total, discovered]
    have baselineRan : (runSuite b.plan e).outcome ≠ .infraError := by
      intro infra
      rw [Baseline.skips, isRun] at skips
      split at skips
      · cases skips
      · split at skips
        · cases skips
        · simp [infra] at skips
    obtain ⟨before, hasBefore⟩ := Option.isSome_iff_exists.mp (runSuite_tests counted baselineRan)
    obtain ⟨after, hasAfter⟩ := Option.isSome_iff_exists.mp (runSuite_tests counted postRan)
    have none := Option.some.inj (new.symm.trans clean)
    rw [isRun] at none
    obtain ⟨noNew, noMissing⟩ := List.append_eq_nil_iff.mp none
    refine ⟨passed, _, _, isRun, ran, postRan, ?_, noNew, List.map_eq_nil_iff.mp noMissing⟩
    simp [compareSuiteRuns, hasBefore, hasAfter]

theorem reproduced_of_deriveTier {e : TierEvidence} (derived : deriveTier e = .reproduced) :
    e.redObserved = true ∧ e.greenObserved = true ∧ e.suiteNewFailures = some [] ∧
      e.suiteDiscovered.isSome = true := by
  unfold deriveTier at derived
  simp only at derived
  split at derived
  · rename_i proof
    obtain ⟨-, red, green, clean, discovered⟩ := proof
    refine ⟨red, green, clean, ?_⟩
    cases count : e.suiteDiscovered with
    | none => simp [count] at discovered
    | some _ => rfl
  · split at derived <;> cases derived

theorem decidingChecks_addRepro {suite build : EvidenceCheck} {failFirst : FailFirstOutcome}
    (deciding : decidingChecks s.checks = [suite, build]) (red : failFirst.redCheck = some .failed)
    (green : failFirst.greenCheck = some .passed) :
    decidingChecks (s.addRepro failFirst).checks =
      [suite, build, ⟨.reproRed, .failed⟩, ⟨.reproGreen, .passed⟩] := by
  have checks : (s.addRepro failFirst).checks =
      (s.checks ++ [⟨.reproRed, .failed⟩]) ++ [⟨.reproGreen, .passed⟩] := by
    simp [FixState.addRepro, red, green]
  rw [checks, decidingChecks_append, decidingChecks_append, deciding]
  rfl

theorem approval_ends (settled : Settled s) (asked : Bool) (tier : TierAnswers) :
    (approval tier asked s).Ends Harmless fun approved => asked = true →
      ∃ verdict, tier.judgeFixAttempt = .ok verdict ∧ verdict.approved = approved := by
  cases asked with
  | false =>
    intro asked
    cases asked
  | true =>
    have ends := raise_ends settled tier.judgeFixAttempt
    rw [approval, if_pos rfl]
    cases answer : tier.judgeFixAttempt with
    | error fault =>
      rw [answer] at ends
      exact ends
    | ok verdict => exact fun _ => ⟨verdict, rfl, rfl⟩

theorem checks_of_observed {declaredTest : Option DeclaredTest} {reason : Option CodeUnits}
    {git : GitAnswers} {base fix : Execution} {outcome : FailFirstOutcome}
    (ran : runFailFirst ⟨plan, declaredTest, reason⟩ git base fix = .ok outcome)
    (red : outcome.redObserved = true) (green : outcome.greenObserved = true) :
    outcome.redCheck = some .failed ∧ outcome.greenCheck = some .passed := by
  cases declaredTest with
  | none =>
    cases ran
    cases red
  | some declaredTest => exact (observed_both ran red green).2.2.2

theorem precisionGate_ends {retries i : Nat} {qualityConfirmed : Bool} (planned : Planned b)
    (within : i ≤ retries) (through : Through b (tier.attempt i) s t)
    (unlatched : s.verificationInfraError = false)
    (judged : qualityConfirmed = (tier.judgeDiff t.diff.diff).getD false) :
    (precisionGate human b tier qualityConfirmed s t).Ends Harmless fun r =>
      Sound human b tier retries r.1 := by
  obtain ⟨agent, ran, isAgent, success⟩ := through.agent
  obtain ⟨diff, extracted, isCandidate⟩ := through.candidate
  obtain ⟨suite, build, deciding, compared, built, buildPassed⟩ := through.gates
  unfold precisionGate
  simp only [isAgent, Option.map_some, Option.getD_some]
  refine (raise_ends (through.clean.settled unlatched) _).bind fun failFirst verified => ?_
  have settled : Settled (s.addRepro failFirst) :=
    (addRepro_clean through.clean failFirst).settled unlatched
  refine (approval_ends settled _ tier).bind fun approved asked => ?_
  split
  · exact Sound.of_needsHuman settled.undecided rfl
  · rename_i notRejected
    split
    · rename_i proof
      refine ⟨settled.undecided, fun _ => ⟨i, within, ?_⟩⟩
      simp only [Bool.and_eq_true, decide_eq_true_eq] at proof
      obtain ⟨⟨derived, isBuilt⟩, rfl⟩ := proof
      obtain ⟨red, green, noNewFailures, discovered⟩ := reproduced_of_deriveTier derived
      obtain ⟨rfl, cleanSuite⟩ :=
        cleanSuite_of_compared planned compared unlatched noNewFailures discovered
      obtain rfl : build = .passed := of_decide_eq_true (buildPassed.symm.trans isBuilt)
      obtain ⟨redCheck, greenCheck⟩ := checks_of_observed verified red green
      refine ⟨⟨diff, extracted, ?_, ?_⟩, cleanSuite, built, ⟨agent, failFirst, ran, success, verified,
        red, green⟩, fun agentRun => ?_, decidingChecks_addRepro deciding redCheck greenCheck⟩
      · simp [TierState.diff, isCandidate]
      · rw [TierState.diff, isCandidate, Option.getD_some] at judged
        cases quality : tier.judgeDiff diff.diff with
        | none => simp [quality] at judged
        | some confirmed => simpa [quality] using judged
      · obtain ⟨verdict, answered, rfl⟩ := asked (by simp [derived, isBuilt])
        refine ⟨verdict, answered, ?_⟩
        simpa [agentRun] using notRejected
    · exact Sound.of_needsHuman settled.undecided rfl

/-- What a tier leaves to the next one, or its verdict. -/
def Concluded (human : Bool) (b : Baseline) (tier : TierAnswers) (retries : Nat) :
    Option FixResult × FixState → Prop
  | (none, s) => Settled s ∧ Latched b s
  | (some result, _) => Sound human b tier retries result

theorem failedResult_sound (settled : Settled s) (t : TierState) :
    Sound human b tier retries (failedResult tier retries s t) := by
  unfold failedResult
  split
  · exact Sound.of_needsHuman settled.undecided rfl
  · split
    · exact Sound.of_needsHuman settled.undecided rfl
    · exact Sound.of_needsHuman settled.undecided rfl

theorem concludeTier_ends {human isLast : Bool} {ending : AttemptEnd} (planned : Planned b)
    (done : TierDone b tier retries (ending, s, t)) :
    (concludeTier human b tier retries isLast s t).Ends Harmless (Concluded human b tier retries) := by
  unfold concludeTier
  by_cases unproven : (!t.succeeded || !t.testGatePassed) = true
  · rw [if_pos unproven]
    have between : Between b s t := by
      cases ending with
      | through =>
        obtain ⟨i, -, through⟩ := done
        obtain ⟨agent, -, isAgent, success⟩ := through.agent
        simp [TierState.succeeded, isAgent, success, through.tested] at unproven
      | gaveUp reason => exact done
      | agentFailed => exact done
      | retry => exact done
    cases isLast with
    | false => exact ⟨between.settled, between.latched⟩
    | true => exact failedResult_sound between.settled t
  · rw [if_neg unproven]
    have through : ∃ i, i ≤ retries ∧ Through b (tier.attempt i) s t := by
      cases ending with
      | through => exact done
      | gaveUp reason => simp [done.untested] at unproven
      | agentFailed => simp [done.untested] at unproven
      | retry => simp [done.untested] at unproven
    obtain ⟨i, within, through⟩ := through
    cases latched : s.verificationInfraError with
    | true => trivial
    | false =>
      have settled := through.clean.settled latched
      have carried : Settled s ∧ Latched b s := ⟨settled, through.latched⟩
      split
      · rename_i infra
        cases infra
      · split
        · cases isLast with
          | false => exact carried
          | true => exact Sound.of_needsHuman settled.undecided rfl
        · dsimp only
          split
          · exact carried
          · refine (precisionGate_ends planned within through latched rfl).bind ?_
            rintro ⟨result, s'⟩ sound
            exact sound

theorem tierResult_ends {human isLast : Bool} {ended : AttemptEnd × FixState × TierState}
    (planned : Planned b) (done : TierDone b tier retries ended) :
    (tierResult human b tier retries isLast ended).Ends Harmless (Concluded human b tier retries) := by
  obtain ⟨ending, s, t⟩ := ended
  cases ending with
  | gaveUp reason =>
    have between : Between b s t := done
    exact Sound.of_needsHuman between.settled.undecided rfl
  | agentFailed => exact concludeTier_ends planned done
  | retry => exact concludeTier_ends planned done
  | through => exact concludeTier_ends planned done

/-- A verdict that the tiers of a run account for. -/
structure Accounted (input : FixInput) (answers : Answers) (b : Baseline) (retries : Nat)
    (result : FixResult) : Prop where
  undecided : Undecided result.checks
  proven : result.status = .fixReady → ∃ k i, k < input.tiers ∧ i ≤ retries ∧
    Proven input.human b (answers.tier k) ((answers.tier k).attempt i) result

variable {answers : Answers} {input : FixInput}

theorem Sound.accounted {retries k : Nat}
    (sound : Sound input.human b (answers.tier k) retries result) (within : k < input.tiers) :
    Accounted input answers b retries result := by
  refine ⟨sound.undecided, fun ready => ?_⟩
  obtain ⟨i, bounded, proven⟩ := sound.proven ready
  exact ⟨k, i, within, bounded, proven⟩

/-- The cascade ends with a verdict of a tier, or with none. -/
def CascadeDone (input : FixInput) (answers : Answers) (b : Baseline) (retries : Nat) :
    Option FixResult × FixState → Prop
  | (none, s) => Settled s
  | (some result, _) => Accounted input answers b retries result

theorem cascade_ends {remaining index : Nat} (planned : Planned b) (settled : Settled s)
    (latched : Latched b s) (within : index + remaining = input.tiers) :
    (cascade input answers b retries remaining index s).Ends Harmless
      (CascadeDone input answers b retries) := by
  induction remaining generalizing index s with
  | zero => exact settled
  | succ remaining ih =>
    unfold cascade
    refine (raise_ends settled _).bind fun _ _ => ?_
    have between : Between b s {} := ⟨settled, latched, fun _ => rfl, rfl⟩
    refine (attempts_ends between (Nat.zero_add _)).bind ?_
    intro ended done
    refine (tierResult_ends planned done).bind ?_
    rintro ⟨result, s⟩ concluded
    cases result with
    | none => exact ih concluded.1 concluded.2 (by omega)
    | some result => exact concluded.accounted (by omega)

theorem settled_empty : Settled {} :=
  ⟨fun _ _ member => (by cases member), fun latched => (by cases latched)⟩

theorem settled_baseline (outcome : CheckOutcome) :
    Settled ((FixState.addCheck {} .suiteBaseline outcome).latch outcome) := by
  refine ⟨settled_empty.clean.addLatched _ _, fun _ check member => ?_⟩
  rw [latch_checks] at member
  cases member

theorem establishBaseline_ends (answers : Answers) :
    (establishBaseline answers).Ends Harmless fun r =>
      Settled r.2 ∧ Latched r.1 r.2 ∧ Planned r.1 := by
  unfold establishBaseline
  split
  · exact ⟨settled_baseline .infraError, fun _ => (latch_latched _ _).mpr (Or.inl rfl),
      fun skips => (by cases skips)⟩
  · refine (raise_ends settled_empty _).bind fun plan _ => ?_
    split
    · rename_i noRunner
      refine ⟨settled_empty, fun skips => ?_, fun skips => ?_⟩
      · simp [Baseline.skips, noRunner] at skips
      · simp [Baseline.skips, noRunner] at skips
    · rename_i runner
      refine (raise_ends settled_empty _).bind fun run ran => ?_
      refine (raise_ends (settled_baseline _) _).bind fun _ _ => ?_
      refine ⟨settled_baseline _, fun skips => (latch_latched _ _).mpr (Or.inl ?_), fun _ => ?_⟩
      · simpa [Baseline.skips, runner] using skips
      · obtain ⟨e, rfl⟩ := eq_of_runPlan ran
        exact ⟨e, rfl⟩

theorem runCascade_ends (input : FixInput) (answers : Answers) (retries : Nat) :
    (runCascade input answers retries).Ends Harmless fun result =>
      Undecided result.checks ∧ (result.status = .fixReady →
        ∃ b s, establishBaseline answers = .ok (b, s) ∧
          ∃ k i, k < input.tiers ∧ i ≤ retries ∧
            Proven input.human b (answers.tier k) ((answers.tier k).attempt i) result) := by
  unfold runCascade
  refine (raise_ends settled_empty _).bind fun sha _ => ?_
  split
  · trivial
  · have ends := establishBaseline_ends answers
    cases established : establishBaseline answers with
    | error e =>
      rw [established] at ends
      exact ends
    | ok r =>
      obtain ⟨b, s⟩ := r
      rw [established] at ends
      obtain ⟨settled, latched, planned⟩ := ends
      refine (raise_ends settled answers.trackedFiles).bind fun _ _ => ?_
      split
      · trivial
      · refine (cascade_ends planned settled latched (Nat.zero_add _)).bind ?_
        rintro ⟨result, s'⟩ done
        cases result with
        | none => exact ⟨done.undecided, fun ready => (by cases ready)⟩
        | some result =>
          exact ⟨done.undecided, fun ready => ⟨b, s, rfl, done.proven ready⟩⟩

theorem runAgentFixCore_ends (input : FixInput) (answers : Answers) (retries : Nat) :
    (runAgentFixCore input answers retries).Ends (fun fault => ∃ message, fault = .verificationInfra message)
      fun result =>
        Undecided result.checks ∧ (result.status = .fixReady →
          ∃ b s, establishBaseline answers = .ok (b, s) ∧
            ∃ k i, k < input.tiers ∧ i ≤ retries ∧
              Proven input.human b (answers.tier k) ((answers.tier k).attempt i) result) := by
  have ends := runCascade_ends input answers retries
  unfold runAgentFixCore
  cases ran : runCascade input answers retries with
  | ok result =>
    rw [ran] at ends
    exact ends
  | error e =>
    rw [ran] at ends
    obtain ⟨fault, s⟩ := e
    cases fault with
    | verificationInfra message => exact ⟨_, rfl⟩
    | sandboxUnavailable => exact ⟨_, rfl⟩
    | failed message =>
      have settled : Settled s := ends
      cases gone : answers.goneAtEnd with
      | true => simp [harnessError, gone, Except.Ends]
      | false =>
        simpa [harnessError, gone, Except.Ends] using settled.undecided

/-- One tier and one attempt that passes its gates and is approved, with the run of the declared test
on the base as given. -/
def oneAttempt (base : Execution) : Answers where
  baseSha := .ok (some (codeUnits "ba5e"))
  installFailed := false
  plan := .ok ⟨.vitest, some (codeUnits "vitest")⟩
  baseline := fun _ => .ok totalsOnFix
  cleanBaseline := .ok ()
  trackedFiles := .ok ()
  goneBeforeLoop := false
  tier := fun _ =>
    { reset := .ok ()
      attempt := fun _ =>
        { agent := .ok ⟨true, codeUnits "fixed", [.declareFailingTest (some total)], {}, none⟩
          sandboxGone := false
          candidate := .ok ⟨codeUnits "+ 0", [codeUnits "cart.ts"]⟩
          suite := fun _ => .ok totalsOnFix
          build := fun _ => .ok .passed
          restore := .ok () }
      judgeDiff := fun _ => some true
      git := .smooth
      base := base
      fix := totalsOnFix
      judgeFixAttempt := .ok ⟨true, none⟩
      workingDiff := none }
  goneAtEnd := false
  workingDiffAtEnd := none

def decidingChecksOf (result : Except Fault FixResult) : List EvidenceCheck :=
  result.toOption.elim [] fun result => decidingChecks result.checks

end Opslane.Harness
