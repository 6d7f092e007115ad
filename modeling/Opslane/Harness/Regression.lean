import Opslane.Harness.TestRunner

/-!
# Regressions between two runs

A comparison that flags nothing is to mean that every failure after the fix was there before, and
that no executed test went missing. Both reports may name an id more than once. A JUnit report
keeps the failure of such an id; a JSON report keeps what was reported last, so a failure that is
followed by a pass of the same id does not reach the comparison.
-/

namespace Opslane.Harness

inductive Runner where
  | vitest | pytest
  deriving DecidableEq

abbrev Runner.Report : Runner → Type
  | .vitest => JsonReport
  | .pytest => CodeUnits

/-- A run of the suite that left a report. -/
structure Reported (runner : Runner) where
  command : CodeUnits
  exitCode : Nat
  output : CodeUnits
  report : runner.Report

def Reported.run : {runner : Runner} → Reported runner → SuiteRun
  | .vitest, r =>
    runSuite ⟨.vitest, some r.command⟩ { ran := .exited r.exitCode r.output, json := some r.report }
  | .pytest, r =>
    runSuite ⟨.pytest, some r.command⟩ { ran := .exited r.exitCode r.output, xml := some r.report }

/-- An executed test, as often as it is reported. -/
abbrev Occurrence := CodeUnits × TestStatus

def JsonReport.occurrences (report : JsonReport) : List Occurrence :=
  report.assertions.filterMap fun entry => entry.2.executed.map (entry.1, ·)

def TestCase.occurrence (c : TestCase) : Option Occurrence :=
  match c.verdict with
  | .failed => some (c.id, .failed)
  | .passed => some (c.id, .passed)
  | .errored | .skipped => none

/-- What is read of the report. A run of pytest that exits with more than 1 is not read, and of a
report that is refused nothing is read. -/
def Reported.occurrences : {runner : Runner} → Reported runner → List Occurrence
  | .vitest, r => r.report.occurrences
  | .pytest, r =>
    if 1 < r.exitCode then [] else ((readCases r.report).getD []).filterMap TestCase.occurrence

def Executed (occurrences : List Occurrence) (id : CodeUnits) : Prop :=
  ∃ status, (id, status) ∈ occurrences

/-- A comparison that flags nothing hides no failure and no test. -/
def NoMaskedRegression {runner : Runner} (baseline post : Reported runner) : Prop :=
  let comparison := compareSuiteRuns (some baseline.run) post.run
  comparison.comparable = true → comparison.newFailures = [] → comparison.missingFromPost = [] →
    (∀ id, (id, .failed) ∈ post.occurrences → (id, .failed) ∈ baseline.occurrences) ∧
      ∀ id, Executed baseline.occurrences id → Executed post.occurrences id

/-- The status an id is reported with last. -/
def lastStatus (occurrences : List Occurrence) (id : CodeUnits) : Option TestStatus :=
  ((occurrences.filter fun o => o.1 = id).getLast?).map Prod.snd

/-- A failure that a later pass of the same id takes the place of. -/
def Overwritten (occurrences : List Occurrence) (id : CodeUnits) : Prop :=
  (id, .failed) ∈ occurrences ∧ lastStatus occurrences id = some .passed

/-- Every overwritten failure was there before, unless another id gives the regression away. -/
def Unmasked : {runner : Runner} → Reported runner → Reported runner → Prop
  | .pytest, _, _ => True
  | .vitest, baseline, post =>
    (∀ id, Overwritten post.occurrences id → (id, .failed) ∈ baseline.occurrences) ∨
      (∃ id, lastStatus post.occurrences id = some .failed ∧
        lastStatus baseline.occurrences id ≠ some .failed) ∨
      ∃ id, Executed baseline.occurrences id ∧ ¬Executed post.occurrences id

theorem lastStatus_append (occurrences : List Occurrence) (o : Occurrence) (id : CodeUnits) :
    lastStatus (occurrences ++ [o]) id = if id = o.1 then some o.2 else lastStatus occurrences id := by
  rw [lastStatus, List.filter_append]
  by_cases own : o.1 = id
  · subst own
    simp
  · simp [lastStatus, own, Ne.symm own]

theorem mem_of_lastStatus {occurrences : List Occurrence} {id : CodeUnits} {status : TestStatus}
    (last : lastStatus occurrences id = some status) : (id, status) ∈ occurrences := by
  obtain ⟨⟨id', status'⟩, found, rfl⟩ := Option.map_eq_some_iff.mp last
  obtain ⟨member, own⟩ := List.mem_filter.mp (List.mem_of_getLast? found)
  obtain rfl : id' = id := of_decide_eq_true own
  exact member

theorem executed_iff_lastStatus (occurrences : List Occurrence) (id : CodeUnits) :
    Executed occurrences id ↔ ∃ status, lastStatus occurrences id = some status := by
  constructor
  · rintro ⟨status, member⟩
    have inside : (id, status) ∈ occurrences.filter fun o => o.1 = id := by simp [member]
    have last := List.getLast?_eq_some_getLast (List.ne_nil_of_mem inside)
    exact ⟨_, congrArg (Option.map Prod.snd) last⟩
  · rintro ⟨status, last⟩
    exact ⟨status, mem_of_lastStatus last⟩

theorem add_tests (parsed : ParsedSuite) (entry : CodeUnits × JsonAssertion) :
    (parsed.add entry).tests =
      (entry.2.executed.elim parsed.tests fun status => parsed.tests.set entry.1 status) := by
  rw [ParsedSuite.add]
  split <;> simp [*]

theorem get?_parseSuiteJson (report : JsonReport) (id : CodeUnits) :
    (parseSuiteJson report).tests.get? id = lastStatus report.occurrences id := by
  rw [parseSuiteJson, JsonReport.occurrences]
  induction report.assertions using List.reverseRecOn with
  | nil => rfl
  | append_singleton entries entry ih =>
    rw [List.foldl_append, List.foldl_cons, List.foldl_nil, add_tests, List.filterMap_append]
    cases executed : entry.2.executed with
    | none => simpa [executed] using ih
    | some status =>
      simp only [Option.elim_some, List.filterMap_cons, List.filterMap_nil, executed, Option.map_some]
      rw [EntryMap.get?_set, lastStatus_append, ih]

theorem get?_gather (cases : List TestCase) (id : CodeUnits) (status : TestStatus) :
    (cases.foldl gather {}).tests.get? id = some status ↔
      (id, status) ∈ cases.filterMap TestCase.occurrence ∧
        (status = .passed → (id, .failed) ∉ cases.filterMap TestCase.occurrence) := by
  induction cases using List.reverseRecOn generalizing status with
  | nil => simp
  | append_singleton cases c ih =>
    rw [List.foldl_append, List.foldl_cons, List.foldl_nil, List.filterMap_append]
    generalize cases.foldl gather {} = g at ih
    generalize cases.filterMap TestCase.occurrence = before at ih
    cases verdict : c.verdict with
    | errored | skipped => simpa [gather, TestCase.occurrence, verdict] using ih status
    | failed =>
      have kept : (gather g c).tests.get? id = if id = c.id then some .failed else g.tests.get? id := by
        simp only [gather, verdict]
        by_cases failed : g.tests.get? c.id = some .failed
        · by_cases own : id = c.id <;> simp [failed, own]
        · rw [if_neg failed, EntryMap.get?_set]
      have added : [c].filterMap TestCase.occurrence = [(c.id, .failed)] := by
        simp [TestCase.occurrence, verdict]
      rw [kept, added]
      by_cases own : id = c.id
      · subst own
        cases status <;> simp
      · rw [if_neg own, ih status]
        simp [own]
    | passed =>
      have kept : (gather g c).tests.get? id =
          if id = c.id ∧ g.tests.get? id ≠ some .failed then some .passed else g.tests.get? id := by
        simp only [gather, verdict]
        by_cases failed : g.tests.get? c.id = some .failed
        · rw [if_pos failed, if_neg]
          rintro ⟨rfl, passes⟩
          exact passes failed
        · rw [if_neg failed, EntryMap.get?_set]
          by_cases own : id = c.id
          · subst own
            simp [failed]
          · simp [own]
      have added : [c].filterMap TestCase.occurrence = [(c.id, .passed)] := by
        simp [TestCase.occurrence, verdict]
      have failed := ih .failed
      rw [kept, added]
      by_cases own : id = c.id
      · subst own
        by_cases fails : g.tests.get? c.id = some .failed
        · have member := (failed.mp fails).1
          cases status <;> simp [fails, member]
        · have absent : (c.id, .failed) ∉ before := by
            intro member
            exact fails (failed.mpr ⟨member, by simp⟩)
          cases status <;> simp [fails, absent]
      · rw [if_neg (by simp [own]), ih status]
        simp [own]

theorem get?_parseJUnitXml (xml : CodeUnits) (id : CodeUnits) (status : TestStatus) :
    (parseJUnitXml xml).tests.get? id = some status ↔
      (id, status) ∈ ((readCases xml).getD []).filterMap TestCase.occurrence ∧
        (status = .passed →
          (id, .failed) ∉ ((readCases xml).getD []).filterMap TestCase.occurrence) := by
  rw [parseJUnitXml]
  cases readCases xml with
  | none => simp
  | some cases =>
    simp only [Option.getD_some]
    rw [← get?_gather]
    split <;> rfl

theorem not_failed_of_passed {xml : CodeUnits} (passed : (parseJUnitXml xml).outcome = .passed)
    (id : CodeUnits) : (parseJUnitXml xml).tests.get? id ≠ some .failed := by
  intro failed
  rw [parseJUnitXml] at passed failed
  cases cases : readCases xml with
  | none => simp [cases] at passed
  | some cases' =>
    simp only [cases] at passed failed
    split at passed
    · cases passed
    · rename_i executed
      rw [if_neg executed] at failed
      have any : (cases'.foldl gather {}).tests.values.any (· = .failed) = true :=
        List.any_eq_true.mpr ⟨.failed, (EntryMap.mem_values _ _).mpr ⟨id, failed⟩, by simp⟩
      simp [any] at passed

theorem compare_clean_iff {baseline post : SuiteRun} {before after : TestMap}
    (baselineTests : baseline.tests = some before) (postTests : post.tests = some after) :
    ((compareSuiteRuns (some baseline) post).newFailures = [] ∧
        (compareSuiteRuns (some baseline) post).missingFromPost = []) ↔
      (∀ id, after.get? id = some .failed → before.get? id = some .failed) ∧
        ∀ id, (∃ status, before.get? id = some status) → ∃ status, after.get? id = some status := by
  simp only [compareSuiteRuns, Option.bind_some, baselineTests, postTests, List.map_eq_nil_iff,
    List.filter_eq_nil_iff, Prod.forall, EntryMap.mem_entries]
  refine and_congr ⟨fun clean id failed => ?_, fun clean id status here => ?_⟩
    ⟨fun clean id found => ?_, fun clean id status here => ?_⟩
  · simpa [failed] using clean id .failed failed
  · intro flagged
    simp only [decide_eq_true_eq] at flagged
    obtain ⟨rfl, new⟩ := flagged
    exact new (clean id here)
  · obtain ⟨status, here⟩ := found
    have present := clean id status here
    rw [Option.isNone_iff_eq_none, ← ne_eq, Option.ne_none_iff_exists'] at present
    exact present
  · obtain ⟨found, present⟩ := clean id ⟨status, here⟩
    simp [present]

theorem vitest_tests (r : Reported .vitest) : r.run.tests = some (parseSuiteJson r.report).tests := by
  simp only [Reported.run, runSuite, vitestRun]
  split
  · rfl
  · split <;> rfl

theorem pytest_tests {r : Reported .pytest} (read : ¬1 < r.exitCode) :
    r.run.tests = some (parseJUnitXml r.report).tests := by
  simp only [Reported.run, runSuite, pytestRun, if_neg read]
  rfl

theorem passed_of_pytestRun {command output xml : CodeUnits} {exitCode : Nat}
    (passed : (pytestRun command exitCode output (some xml)).outcome = .passed) :
    (parseJUnitXml xml).outcome = .passed := by
  unfold pytestRun at passed
  split at passed
  · cases passed
  · by_contra other
    apply other
    have kept : (if exitCode = 1 ∧ (parseJUnitXml xml).outcome = .passed then CheckOutcome.infraError
        else (parseJUnitXml xml).outcome) = .passed := passed
    rwa [if_neg fun both => other both.2] at kept

theorem pytest_unread {r : Reported .pytest} (unread : 1 < r.exitCode) :
    r.run.tests = none ∧ r.run.outcome = .infraError ∧ r.occurrences = [] := by
  simp [Reported.run, runSuite, pytestRun, Reported.occurrences, unread]

theorem pytest_occurrences {r : Reported .pytest} (read : ¬1 < r.exitCode) (id : CodeUnits)
    (status : TestStatus) :
    (parseJUnitXml r.report).tests.get? id = some status ↔
      (id, status) ∈ r.occurrences ∧ (status = .passed → (id, .failed) ∉ r.occurrences) := by
  rw [get?_parseJUnitXml, Reported.occurrences, if_neg read]

theorem pytest_executed {r : Reported .pytest} (read : ¬1 < r.exitCode) (id : CodeUnits) :
    Executed r.occurrences id ↔ ∃ status, (parseJUnitXml r.report).tests.get? id = some status := by
  constructor
  · rintro ⟨status, member⟩
    by_cases failed : (id, .failed) ∈ r.occurrences
    · exact ⟨.failed, (pytest_occurrences read id _).mpr ⟨failed, by simp⟩⟩
    · exact ⟨status, (pytest_occurrences read id _).mpr ⟨member, fun _ => failed⟩⟩
  · rintro ⟨status, kept⟩
    exact ⟨status, ((pytest_occurrences read id _).mp kept).1⟩

theorem pytest_unmasked (baseline post : Reported .pytest) : NoMaskedRegression baseline post := by
  intro comparable newFailures missing
  by_cases postRead : 1 < post.exitCode
  · -- A run without a report is comparable only if it passed, and this one is an error.
    obtain ⟨tests, outcome, -⟩ := pytest_unread postRead
    simp [compareSuiteRuns, tests, outcome] at comparable
  · have failed_iff (id : CodeUnits) := pytest_occurrences postRead id .failed
    by_cases baselineRead : 1 < baseline.exitCode
    · obtain ⟨tests, -, occurrences⟩ := pytest_unread baselineRead
      rw [occurrences]
      refine ⟨fun id member => ?_, fun id executed => by simp [Executed] at executed⟩
      have passed : post.run.outcome = .passed := by
        simpa [compareSuiteRuns, tests] using comparable
      have read : (parseJUnitXml post.report).outcome = .passed := passed_of_pytestRun passed
      exact absurd ((failed_iff id).mpr ⟨member, by simp⟩) (not_failed_of_passed read id)
    · obtain ⟨old, present⟩ := (compare_clean_iff (pytest_tests baselineRead)
        (pytest_tests postRead)).mp ⟨newFailures, missing⟩
      constructor
      · intro id member
        have failed := old id ((failed_iff id).mpr ⟨member, by simp⟩)
        exact ((pytest_occurrences baselineRead id _).mp failed).1
      · intro id executed
        rw [pytest_executed postRead]
        exact present id ((pytest_executed baselineRead id).mp executed)

theorem vitest_clean_iff (baseline post : Reported .vitest) :
    ((compareSuiteRuns (some baseline.run) post.run).newFailures = [] ∧
        (compareSuiteRuns (some baseline.run) post.run).missingFromPost = []) ↔
      (∀ id, lastStatus post.occurrences id = some .failed →
        lastStatus baseline.occurrences id = some .failed) ∧
        ∀ id, Executed baseline.occurrences id → Executed post.occurrences id := by
  rw [compare_clean_iff (vitest_tests baseline) (vitest_tests post)]
  simp only [get?_parseSuiteJson, executed_iff_lastStatus]
  rfl

/-- The comparison hides a regression exactly when a failure is overwritten that was not there
before, and nothing else gives the regression away. -/
theorem noMaskedRegression_iff {runner : Runner} (baseline post : Reported runner) :
    NoMaskedRegression baseline post ↔ Unmasked baseline post := by
  cases runner with
  | pytest => exact iff_of_true (pytest_unmasked baseline post) trivial
  | vitest =>
    have comparable : (compareSuiteRuns (some baseline.run) post.run).comparable = true := by
      simp [compareSuiteRuns, vitest_tests]
    constructor
    · intro sound
      by_cases hidden : ∀ id, Overwritten post.occurrences id → (id, .failed) ∈ baseline.occurrences
      · exact Or.inl hidden
      · obtain ⟨id, hidden⟩ := not_forall.mp hidden
        obtain ⟨overwritten, new⟩ := Classical.not_imp.mp hidden
        refine Or.inr ?_
        by_contra unflagged
        rw [not_or, not_exists, not_exists] at unflagged
        obtain ⟨old, present⟩ := unflagged
        obtain ⟨newFailures, missing⟩ := (vitest_clean_iff baseline post).mpr
          ⟨fun id last => by_contra fun new => old id ⟨last, new⟩,
            fun id executed => by_contra fun gone => present id ⟨executed, gone⟩⟩
        exact new ((sound comparable newFailures missing).1 id overwritten.1)
    · intro unmasked _ newFailures missing
      obtain ⟨old, present⟩ := (vitest_clean_iff baseline post).mp ⟨newFailures, missing⟩
      refine ⟨fun id member => ?_, present⟩
      rcases unmasked with covered | ⟨id', last, new⟩ | ⟨id', executed, gone⟩
      · obtain ⟨status, last⟩ := (executed_iff_lastStatus _ _).mp ⟨_, member⟩
        cases status with
        | failed => exact mem_of_lastStatus (old id last)
        | passed => exact covered id ⟨member, last⟩
      · exact absurd (old id' last) new
      · exact absurd (present id' executed) gone

/-- A test of one file, by its title and status. -/
def reportedAs (title status : String) : JsonAssertion :=
  { title := some (codeUnits title), status := some (codeUnits status) }

def oneFile (command : String) (assertions : List JsonAssertion) : Reported .vitest where
  command := codeUnits command
  exitCode := 1
  output := []
  report := { testResults := some [⟨some (codeUnits "/home/user/repo/a.test.ts"), some assertions⟩] }

/-- Two tests of a file share their name and passed; after the fix the first of them fails. Another
test fails before and after. -/
theorem regression_masked :
    ¬NoMaskedRegression
      (oneFile "vitest" [reportedAs "t" "passed", reportedAs "t" "passed", reportedAs "u" "failed"])
      (oneFile "vitest" [reportedAs "t" "failed", reportedAs "t" "passed", reportedAs "u" "failed"]) := by
  intro sound
  have clean := sound (by decide +kernel) (by decide +kernel) (by decide +kernel)
  have failed := clean.1 (codeUnits "a.test.ts::t") (by decide +kernel)
  revert failed
  decide +kernel

end Opslane.Harness
