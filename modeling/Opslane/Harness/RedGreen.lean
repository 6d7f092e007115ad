import Opslane.Harness.FailFirst
import Opslane.Harness.Regression

/-!
# One test, red and green

Both verdicts are to be about one test. They are in every case in which a test that the identifier
selects failed behaviourally on the base and is reported on the fix: the fix run passed as a whole,
so every test it reports did.
-/

namespace Opslane.Harness

def SuiteRun.status (run : SuiteRun) (id : CodeUnits) : Option TestStatus :=
  run.tests.bind (·.get? id)

/-- The test failed, and not because it could not run. -/
def SuiteRun.FailedBehaviorally (run : SuiteRun) (id : CodeUnits) : Prop :=
  run.status id = some .failed ∧ isBehavioralFailure (some (run.messageOf id)) = true

/-- The plan that runs the declared test, when it can be filtered. -/
def declaredPlan (plan : TestPlan) (declaredTest : DeclaredTest) : Option TestPlan :=
  match plan.kind, plan.command with
  | .none, _ | _, none | .npmScript, some _ => none
  | kind, some command =>
    if kind = .pytest ∧ !includes declaredTest.identifier (codeUnits "::") then none
    else some (filteredPlan plan command declaredTest.testFiles declaredTest.identifier)

/-- What `runFailFirst` reports is about one test. -/
def RedThenGreen (plan : TestPlan) (declaredTest : DeclaredTest) (base fix : Execution) : Prop :=
  ∀ reason git outcome, runFailFirst ⟨plan, some declaredTest, reason⟩ git base fix = .ok outcome →
    outcome.redObserved = true → outcome.greenObserved = true →
      ∃ filtered, declaredPlan plan declaredTest = some filtered ∧
        ∃ id, selects declaredTest.identifier id = true ∧
          (runSuite filtered base).FailedBehaviorally id ∧
          (runSuite filtered fix).status id = some .passed

/-- The first id of the report that the identifier selects. -/
def SuiteRun.selected (run : SuiteRun) (identifier : CodeUnits) : Option CodeUnits :=
  run.tests.bind fun tests => tests.keys.find? (selects identifier)

/-- On the base the run failed, and the test looked up in its report has a behavioural message. -/
def LooksRed (identifier : CodeUnits) (run : SuiteRun) : Prop :=
  run.outcome = .failed ∧
    ∃ id, run.selected identifier = some id ∧ isBehavioralFailure (some (run.messageOf id)) = true

/-- On the fix the run passed, and its report has a selected test. -/
def LooksGreen (identifier : CodeUnits) (run : SuiteRun) : Prop :=
  run.outcome = .passed ∧ ∃ id, run.selected identifier = some id

/-- Where a valid declaration leads to a run that looks red and one that looks green, a selected
test that failed behaviourally on the base is among those the fix reports. -/
def SharesFailure (plan : TestPlan) (declaredTest : DeclaredTest) (base fix : Execution) : Prop :=
  ∀ filtered, validateDeclaration declaredTest = none → declaredPlan plan declaredTest = some filtered →
    LooksRed declaredTest.identifier (runSuite filtered base) →
      LooksGreen declaredTest.identifier (runSuite filtered fix) →
        ∃ id, selects declaredTest.identifier id = true ∧
          (runSuite filtered base).FailedBehaviorally id ∧
          ((runSuite filtered fix).status id).isSome = true

theorem runDeclaredTest_eq (plan : TestPlan) (declaredTest : DeclaredTest) (e : Execution) :
    (∃ filtered, declaredPlan plan declaredTest = some filtered ∧
        runDeclaredTest plan declaredTest.testFiles declaredTest.identifier e =
          lookUp declaredTest.identifier (runSuite filtered e)) ∨
      declaredPlan plan declaredTest = none ∧
        (runDeclaredTest plan declaredTest.testFiles declaredTest.identifier e).run = none := by
  obtain ⟨kind, command⟩ := plan
  cases command with
  | none => cases kind <;> exact Or.inr ⟨rfl, rfl⟩
  | some command =>
    cases kind with
    | none | npmScript => exact Or.inr ⟨rfl, rfl⟩
    | vitest => exact Or.inl ⟨_, rfl, rfl⟩
    | pytest =>
      by_cases nodeId : includes declaredTest.identifier (codeUnits "::") = true
      · exact Or.inl ⟨filteredPlan ⟨.pytest, some command⟩ command declaredTest.testFiles
          declaredTest.identifier, by simp [declaredPlan, nodeId], by simp [runDeclaredTest, nodeId]⟩
      · exact Or.inr ⟨by simp [declaredPlan, nodeId], by simp [runDeclaredTest, nodeId]⟩

variable {identifier : CodeUnits}

theorem observeRed_lookUp {run : SuiteRun} :
    (observeRed (lookUp identifier run)).1 = true ↔ LooksRed identifier run := by
  unfold lookUp LooksRed SuiteRun.selected
  cases run.tests with
  | none => simp [observeRed]
  | some tests =>
    cases found : tests.keys.find? (selects identifier) with
    | none => simp [observeRed, found]
    | some id => simp [observeRed, found]

variable {violation : Option CodeUnits}

theorem observeGreen_lookUp {run : SuiteRun} :
    (observeGreen (lookUp identifier run) violation).1 = true ↔ LooksGreen identifier run := by
  unfold lookUp LooksGreen SuiteRun.selected
  cases run.tests with
  | none => simp [observeGreen]
  | some tests =>
    cases found : tests.keys.find? (selects identifier) with
    | none => simp [observeGreen, found]
    | some id => simp [observeGreen, found]

variable {declaredTest : DeclaredTest} {plan : TestPlan}

variable {e : Execution}

theorem observeRed_iff :
    (observeRed (runDeclaredTest plan declaredTest.testFiles declaredTest.identifier e)).1 = true ↔
      ∃ filtered, declaredPlan plan declaredTest = some filtered ∧
        LooksRed declaredTest.identifier (runSuite filtered e) := by
  rcases runDeclaredTest_eq plan declaredTest e with ⟨filtered, filters, eq⟩ | ⟨unfiltered, idle⟩
  · rw [eq, observeRed_lookUp]
    simp [filters]
  · simp [observeRed, idle, unfiltered]

theorem observeGreen_iff (violation : Option CodeUnits) :
    (observeGreen (runDeclaredTest plan declaredTest.testFiles declaredTest.identifier e)
        violation).1 = true ↔
      ∃ filtered, declaredPlan plan declaredTest = some filtered ∧
        LooksGreen declaredTest.identifier (runSuite filtered e) := by
  rcases runDeclaredTest_eq plan declaredTest e with ⟨filtered, filters, eq⟩ | ⟨unfiltered, idle⟩
  · rw [eq, observeGreen_lookUp]
    simp [filters]
  · simp [observeGreen, idle, unfiltered]

theorem failed_of_observeRed {red : DeclaredRun} (observed : (observeRed red).1 = true) :
    red.run.map (·.outcome) = some .failed := by
  unfold observeRed at observed
  cases ran : red.run with
  | none => simp [ran] at observed
  | some run =>
    simp only [ran, Bool.and_eq_true, decide_eq_true_eq] at observed
    exact congrArg some observed.1.2

theorem passed_of_observeGreen {green : DeclaredRun}
    (observed : (observeGreen green violation).1 = true) :
    green.run.map (·.outcome) = some .passed := by
  unfold observeGreen at observed
  cases ran : green.run with
  | none => simp [ran] at observed
  | some run =>
    simp only [ran, Bool.and_eq_true, decide_eq_true_eq] at observed
    exact congrArg some observed.2

theorem contractError_green {outcome outcome' : FailFirstOutcome} {fault : Fault}
    (result : contractError outcome fault = .ok outcome') :
    outcome'.greenObserved = outcome.greenObserved := by
  unfold contractError at result
  split at result
  · split at result
    · cases result
      rfl
    · cases result
  · cases result

theorem prepareBase_green (git : GitAnswers) (declaredTest : DeclaredTest) (sha : CodeUnits) :
    (∀ outcome fault, prepareBase git declaredTest sha = .error (outcome, fault) →
        outcome.greenObserved = false) ∧
      ∀ outcome, prepareBase git declaredTest sha = .ok outcome → outcome.greenObserved = false := by
  unfold prepareBase
  cases declaredTest.testFiles.all git.presentAtFix with
  | false => simp
  | true => cases git.checkoutBase <;> simp

theorem eq_ok_of_restored {git : GitAnswers} {sha branch : CodeUnits}
    {result : Except Fault FailFirstOutcome} {outcome : FailFirstOutcome}
    (done : restored git sha branch result = .ok outcome) : result = .ok outcome := by
  unfold restored at done
  split at done
  · exact done
  · split at done
    · exact done
    all_goals cases done

theorem observed_both {base fix : Execution} {reason : Option CodeUnits} {git : GitAnswers}
    {outcome : FailFirstOutcome}
    (ran : runFailFirst ⟨plan, some declaredTest, reason⟩ git base fix = .ok outcome)
    (red : outcome.redObserved = true) (green : outcome.greenObserved = true) :
    validateDeclaration declaredTest = none ∧
      (observeRed (runDeclaredTest plan declaredTest.testFiles declaredTest.identifier base)).1 = true ∧
      (∃ violation,
        (observeGreen (runDeclaredTest plan declaredTest.testFiles declaredTest.identifier fix)
          violation).1 = true) ∧
      outcome.redCheck = some .failed ∧ outcome.greenCheck = some .passed := by
  -- Where a git command fails on the way, the green flag is still down.
  have down {o : FailFirstOutcome} {fault : Fault} (unset : o.greenObserved = false) :
      contractError o fault ≠ .ok outcome := by
    intro result
    rw [contractError_green result, unset] at green
    cases green
  unfold runFailFirst at ran
  simp only at ran
  cases invalid : validateDeclaration declaredTest with
  | some message =>
    simp only [invalid] at ran
    cases ran
    cases red
  | none =>
    refine ⟨rfl, ?_⟩
    simp only [invalid] at ran
    split at ran
    · exact absurd ran (down rfl)
    · split at ran
      · exact absurd ran (down rfl)
      · split at ran
        · exact absurd ran (down rfl)
        · rename_i sha _
          obtain ⟨stopped, prepared⟩ := prepareBase_green git declaredTest sha
          have result := eq_ok_of_restored ran
          split at result
          · rename_i o fault failed
            exact absurd result (down (stopped o fault failed))
          · rename_i o ready
            unfold observe at result
            simp only at result
            split at result
            · exact absurd result (down (prepared o ready))
            · cases result
              exact ⟨red, ⟨_, green⟩, failed_of_observeRed red, passed_of_observeGreen green⟩

variable {command output : CodeUnits}

theorem pytestRun_passed {exitCode : Nat} {xml : Option CodeUnits}
    (passed : (pytestRun command exitCode output xml).outcome = .passed) (id : CodeUnits) :
    (pytestRun command exitCode output xml).status id ≠ some .failed := by
  cases xml with
  | none =>
    unfold pytestRun at passed
    split at passed <;> simp at passed
  | some xml =>
    have clean := not_failed_of_passed (passed_of_pytestRun passed) id
    unfold pytestRun SuiteRun.status
    split
    · simp
    · simpa using clean

theorem vitestRun_passed {exitCode : Nat} {report : Option JsonReport}
    (passed : (vitestRun command exitCode output report).outcome = .passed) (id : CodeUnits) :
    (vitestRun command exitCode output report).status id ≠ some .failed := by
  cases report with
  | none => cases passed
  | some report =>
    simp only [vitestRun] at passed ⊢
    split at passed
    · cases passed
    · split at passed
      · cases passed
      · rename_i executed exited
        rw [if_neg executed, if_neg exited]
        intro failed
        have any : anyFailed (parseSuiteJson report).tests = true :=
          List.any_eq_true.mpr ⟨.failed, (EntryMap.mem_values _ _).mpr ⟨id, failed⟩, by simp⟩
        simp [any] at passed

theorem status_of_passed (passed : (runSuite plan e).outcome = .passed) (id : CodeUnits) :
    (runSuite plan e).status id ≠ some .failed := by
  unfold runSuite at passed ⊢
  split at passed
  · cases passed
  · cases passed
  · split at passed
    · cases passed
    · split at passed
      · cases passed
      · cases passed
      · split at passed
        · exact pytestRun_passed passed id
        · exact vitestRun_passed passed id
        · simp [SuiteRun.status]

/-- The git answers of a run in which nothing goes wrong. -/
def GitAnswers.smooth : GitAnswers where
  originalBranch := .ok (codeUnits "main")
  commit := .ok ()
  fixCommitSha := .ok (codeUnits "c0ffee")
  presentAtFix := fun _ => true
  contentAtFix := fun _ => none
  checkoutBase := .ok ()
  checkoutFix := .ok ()
  restore := .ok ()

theorem runFailFirst_smooth (plan : TestPlan) (valid : validateDeclaration declaredTest = none)
    (base fix : Execution) :
    ∃ outcome, runFailFirst ⟨plan, some declaredTest, none⟩ .smooth base fix = .ok outcome ∧
      outcome.redObserved =
        (observeRed (runDeclaredTest plan declaredTest.testFiles declaredTest.identifier base)).1 ∧
      ∃ violation, outcome.greenObserved =
        (observeGreen (runDeclaredTest plan declaredTest.testFiles declaredTest.identifier fix)
          violation).1 := by
  have present : declaredTest.testFiles.all GitAnswers.smooth.presentAtFix = true :=
    List.all_eq_true.mpr fun _ _ => rfl
  have ready : prepareBase .smooth declaredTest (codeUnits "c0ffee") =
      .ok { fixCommitSha := some (codeUnits "c0ffee")
            declaredTestSource := some (sourceFrom .smooth [] declaredTest.testFiles) } := by
    rw [prepareBase, if_pos present]
    rfl
  simp only [runFailFirst, valid, GitAnswers.smooth] at ready ⊢
  rw [ready]
  exact ⟨_, rfl, rfl, _, rfl⟩

theorem sharesFailure_of_redThenGreen {base fix : Execution}
    (sound : RedThenGreen plan declaredTest base fix) :
    SharesFailure plan declaredTest base fix := by
  intro filtered valid filters red green
  have redFlag := observeRed_iff.mpr ⟨filtered, filters, red⟩
  have greenFlag (violation) := (observeGreen_iff violation).mpr ⟨filtered, filters, green⟩
  obtain ⟨outcome, ran, isRed, violation, isGreen⟩ := runFailFirst_smooth plan valid base fix
  obtain ⟨filtered', filters', id, selected, failed, passed⟩ :=
    sound none .smooth outcome ran (isRed.trans redFlag) (isGreen.trans (greenFlag violation))
  obtain rfl := Option.some.inj (filters.symm.trans filters')
  exact ⟨id, selected, failed, by rw [passed]; rfl⟩

theorem redThenGreen_of_sharesFailure {base fix : Execution}
    (shared : SharesFailure plan declaredTest base fix) :
    RedThenGreen plan declaredTest base fix := by
  intro reason git outcome ran red green
  obtain ⟨valid, redFlag, ⟨violation, greenFlag⟩, -⟩ := observed_both ran red green
  obtain ⟨filtered, filters, looksRed⟩ := observeRed_iff.mp redFlag
  obtain ⟨filtered', filters', looksGreen⟩ := (observeGreen_iff violation).mp greenFlag
  obtain rfl := Option.some.inj (filters.symm.trans filters')
  obtain ⟨id, selected, failed, reported⟩ := shared filtered valid filters looksRed looksGreen
  refine ⟨filtered, filters, id, selected, failed, ?_⟩
  obtain ⟨status, here⟩ := Option.isSome_iff_exists.mp reported
  cases status with
  | passed => exact here
  | failed => exact absurd here (status_of_passed looksGreen.1 id)

def total : DeclaredTest where
  testFiles := [codeUnits "cart.test.ts"]
  identifier := codeUnits "total"
  expectedAssertion := codeUnits "expected"

def totalsReported (exitCode : Nat) (assertions : List JsonAssertion) : Execution where
  ran := .exited exitCode (codeUnits "1 file")
  json := some { testResults := some [⟨some (codeUnits "/home/user/repo/cart.test.ts"), some assertions⟩] }

def totalsOnBase : Execution :=
  totalsReported 1
    [{ title := some (codeUnits "total of an empty cart"), status := some (codeUnits "failed")
       failureMessages := some [codeUnits "expected NaN to be 0"] },
      { title := some (codeUnits "total of a full cart"), status := some (codeUnits "passed") }]

/-- On the fix, the test that failed is skipped. -/
def totalsOnFix : Execution :=
  totalsReported 0
    [{ title := some (codeUnits "total of an empty cart"), status := some (codeUnits "skipped") },
      { title := some (codeUnits "total of a full cart"), status := some (codeUnits "passed") }]

end Opslane.Harness
