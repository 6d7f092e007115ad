import Opslane.Harness.JUnit

/-!
# Suite runs

The suite is run in the sandbox, and its verdict is read from the report the runner leaves: a JSON
report of vitest, a JUnit report of pytest. Two runs are compared by the ids their reports name. A
declared test is a run filtered by its identifier. An `output` here is what `bound` keeps of the
text a command printed.
-/

namespace Opslane.Harness

structure JsonAssertion where
  fullName : Option CodeUnits := none
  title : Option CodeUnits := none
  status : Option CodeUnits
  failureMessages : Option (List CodeUnits) := none
  deriving DecidableEq

structure JsonTestFile where
  name : Option CodeUnits
  assertionResults : Option (List JsonAssertion)
  deriving DecidableEq

structure JsonReport where
  numTotalTests : Option Int := none
  testResults : Option (List JsonTestFile)
  deriving DecidableEq

def sandboxRepo : CodeUnits := codeUnits "/home/user/repo"

/-- The name of a file, without the first mention of the repository. -/
def fileName (file : JsonTestFile) : CodeUnits :=
  let name := file.name.getD []
  match Scan.breakOn (sandboxRepo ++ codeUnits "/") name with
  | some (before, behind) => before ++ behind
  | none => name

def JsonAssertion.id (file : JsonTestFile) (assertion : JsonAssertion) : CodeUnits :=
  fileName file ++ codeUnits "::" ++ (assertion.fullName <|> assertion.title).getD []

/-- The status of a test that was executed. -/
def JsonAssertion.executed (assertion : JsonAssertion) : Option TestStatus :=
  if assertion.status = some (codeUnits "passed") then some .passed
  else if assertion.status = some (codeUnits "failed") then some .failed
  else none

structure ParsedSuite where
  tests : TestMap := Table.empty
  failureMessages : EntryMap CodeUnits CodeUnits := Table.empty

/-- One round of the inner loop. -/
def ParsedSuite.add (parsed : ParsedSuite) (entry : CodeUnits × JsonAssertion) : ParsedSuite :=
  match entry.2.executed with
  | none => parsed
  | some .passed => { parsed with tests := parsed.tests.set entry.1 .passed }
  | some .failed =>
    { tests := parsed.tests.set entry.1 .failed
      failureMessages := parsed.failureMessages.set entry.1
        (List.intercalate (codeUnits "\n") (entry.2.failureMessages.getD [])) }

/-- What the two loops go through. -/
def JsonReport.assertions (report : JsonReport) : List (CodeUnits × JsonAssertion) :=
  (report.testResults.getD []).flatMap fun file =>
    (file.assertionResults.getD []).map fun assertion => (assertion.id file, assertion)

def parseSuiteJson (report : JsonReport) : ParsedSuite := report.assertions.foldl ParsedSuite.add {}

def JsonReport.total (report : JsonReport) : Int :=
  report.numTotalTests.getD (parseSuiteJson report).tests.rows.length

inductive PlanKind where
  | vitest | pytest | npmScript | none
  deriving DecidableEq

structure TestPlan where
  kind : PlanKind
  command : Option CodeUnits
  deriving DecidableEq

structure SuiteRun where
  outcome : CheckOutcome
  command : CodeUnits
  tests : Option TestMap := none
  total : Option Int := none
  exitCode : Option Nat := none
  output : CodeUnits
  timedOut : Bool := false
  failureMessages : Option (EntryMap CodeUnits CodeUnits) := none

/-- How a command in the sandbox ends. -/
inductive Ran where
  | unavailable (output : CodeUnits)
  | timedOut (output : CodeUnits)
  | exited (code : Nat) (output : CodeUnits)
  deriving DecidableEq

/-- The message of a test that failed, or else what the command printed. -/
def SuiteRun.messageOf (run : SuiteRun) (id : CodeUnits) : CodeUnits :=
  (run.failureMessages.bind (·.get? id)).getD run.output

/-- What the sandbox answers to a run of the suite. A report is `none` when there is no file, or
its text is not JSON. -/
structure Execution where
  /-- Why the results file of an earlier run could not be removed. -/
  cleanup : Option CodeUnits := none
  ran : Ran
  json : Option JsonReport := none
  xml : Option CodeUnits := none

def resultsPath : PlanKind → CodeUnits
  | .pytest => codeUnits "/tmp/opslane-junit.xml"
  | _ => codeUnits "/tmp/opslane-suite-results.json"

/-- The verdict on a report of pytest, which exits with 1 when a test failed. -/
def pytestRun (command : CodeUnits) (exitCode : Nat) (output : CodeUnits) (xml : Option CodeUnits) :
    SuiteRun :=
  if 1 < exitCode then
    { outcome := .infraError, command, exitCode := some exitCode, output }
  else
    let parsed := xml.elim ⟨.infraError, Table.empty, 0⟩ parseJUnitXml
    { outcome := if exitCode = 1 ∧ parsed.outcome = .passed then .infraError else parsed.outcome
      command, tests := some parsed.tests, total := some parsed.total, exitCode := some exitCode
      output }

def anyFailed (tests : TestMap) : Bool := tests.values.any (· = .failed)

/-- The verdict on a report of vitest. -/
def vitestRun (command : CodeUnits) (exitCode : Nat) (output : CodeUnits) :
    Option JsonReport → SuiteRun
  | none => { outcome := .infraError, command, exitCode := some exitCode, output }
  | some report =>
    let parsed := parseSuiteJson report
    let run : SuiteRun :=
      { outcome := .infraError, command, tests := some parsed.tests, total := some report.total
        exitCode := some exitCode, output }
    if report.total = 0 ∨ parsed.tests.rows = [] then
      { run with output := trimUnits (codeUnits "Zero executed tests. " ++ output) }
    else if exitCode ≠ 0 ∧ !anyFailed parsed.tests then
      { run with
        output := trimUnits (codeUnits "Runner exited nonzero without a failed assertion. " ++ output) }
    else
      { run with
        outcome := if anyFailed parsed.tests then .failed else .passed
        failureMessages := some parsed.failureMessages }

def runSuite (plan : TestPlan) (e : Execution) : SuiteRun :=
  match plan.kind, plan.command with
  | .none, _ | _, none =>
    { outcome := .skippedNoRunner, command := [], output := codeUnits "No test runner detected" }
  | kind, some command =>
    match e.cleanup with
    | some output =>
      { outcome := .infraError, command := codeUnits "rm -f " ++ resultsPath kind, output }
    | none =>
      match e.ran with
      | .unavailable output => { outcome := .infraError, command, output }
      | .timedOut output => { outcome := .infraError, command, output, timedOut := true }
      | .exited code output =>
        match kind with
        | .pytest => pytestRun command code output e.xml
        | .vitest => vitestRun command code output e.json
        | _ =>
          { outcome := if code ≠ 0 then .failed else .passed, command, exitCode := some code, output }

structure SuiteComparison where
  baselineFailed : List CodeUnits
  newFailures : List CodeUnits
  missingFromPost : List CodeUnits
  comparable : Bool
  deriving DecidableEq

def compareSuiteRuns (baseline : Option SuiteRun) (post : SuiteRun) : SuiteComparison :=
  match post.tests, baseline.bind (·.tests) with
  | some postTests, some baselineTests =>
    { baselineFailed := (baselineTests.entries.filter fun e => e.2 = .failed).map Prod.fst
      newFailures := (postTests.entries.filter fun e =>
        e.2 = .failed ∧ baselineTests.get? e.1 ≠ some .failed).map Prod.fst
      missingFromPost := (baselineTests.entries.filter fun e =>
        (postTests.get? e.1).isNone).map Prod.fst
      comparable := true }
  | _, _ =>
    let baselineFailedCoarse := baseline.any (·.outcome = .failed)
    let postPassed := post.outcome = .passed
    { baselineFailed := if baselineFailedCoarse then [codeUnits "<suite>"] else []
      newFailures := if ¬postPassed ∧ !baselineFailedCoarse then [codeUnits "<suite>"] else []
      missingFromPost := []
      comparable := postPassed }

/-- Quoted for the shell. -/
def shq (value : CodeUnits) : CodeUnits :=
  codeUnits "'" ++ (value.flatMap fun u =>
    if u = codeUnit '\'' then codeUnits "'\\''" else [u]) ++ codeUnits "'"

def includes (text word : CodeUnits) : Bool := (Scan.breakOn word text).isSome

/-- The ids a declared identifier stands for. -/
def selects (identifier id : CodeUnits) : Bool :=
  id = identifier || (codeUnits "::" ++ identifier).isSuffixOf id || includes id identifier

structure DeclaredRun where
  runnable : Bool
  reason : Option CodeUnits := none
  run : Option SuiteRun := none
  failureMessage : Option CodeUnits := none

/-- The plan, filtered by the identifier. -/
def filteredPlan (plan : TestPlan) (command : CodeUnits) (testFiles : List CodeUnits)
    (identifier : CodeUnits) : TestPlan :=
  match plan.kind with
  | .pytest =>
    ⟨.pytest, some (codeUnits "python -m pytest " ++ shq identifier ++ codeUnits " --junit-xml=" ++
      resultsPath .pytest)⟩
  | _ =>
    ⟨.vitest, some (command ++ codeUnits " " ++
      List.intercalate (codeUnits " ") (testFiles.map shq) ++ codeUnits " -t " ++ shq identifier)⟩

/-- The declared test in the report of its run. -/
def lookUp (identifier : CodeUnits) (run : SuiteRun) : DeclaredRun :=
  match run.tests with
  | none =>
    { runnable := false, reason := some (codeUnits "declared_test_report_unavailable"), run }
  | some tests =>
    match tests.keys.find? (selects identifier) with
    | none => { runnable := false, reason := some (codeUnits "declared_test_not_reported"), run }
    | some id => { runnable := true, run, failureMessage := some (run.messageOf id) }

def runDeclaredTest (plan : TestPlan) (testFiles : List CodeUnits) (identifier : CodeUnits)
    (e : Execution) : DeclaredRun :=
  match plan.kind, plan.command with
  | .none, _ | _, none => { runnable := false, reason := some (codeUnits "no_test_runner") }
  | .npmScript, some _ =>
    { runnable := false, reason := some (codeUnits "npm_script_not_filterable") }
  | kind, some command =>
    if kind = .pytest ∧ !includes identifier (codeUnits "::") then
      { runnable := false, reason := some (codeUnits "pytest_identifier_not_node_id") }
    else lookUp identifier (runSuite (filteredPlan plan command testFiles identifier) e)

end Opslane.Harness
