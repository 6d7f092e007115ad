import Opslane.Harness.TestRunner

/-!
# Red, then green

A fix comes with a declared test: the test is run on the base commit, where it has to fail, and on
the fix, where it has to pass. Each verdict is taken of the whole filtered run; the declared test
is looked up in each report by itself, and its message decides whether the failure is behavioural.
-/

namespace Opslane.Harness

structure DeclaredTest where
  testFiles : List CodeUnits
  identifier : CodeUnits
  expectedAssertion : CodeUnits

def isControl (u : UInt16) : Bool := u ≤ 0x1f || u == 0x7f

/-- `normalize` of a relative path, as its segments. -/
def normalizeSegments (path : CodeUnits) : List CodeUnits :=
  ((path.splitOn (codeUnit '/')).foldl (fun (above : List CodeUnits) segment =>
    if segment = [] ∨ segment = codeUnits "." then above
    else if segment = codeUnits ".." then
      match above with
      | last :: rest => if last = codeUnits ".." then segment :: above else rest
      | [] => [segment]
    else segment :: above) []).reverse

def escapesRepository (path : CodeUnits) : Bool :=
  path.isEmpty || path.head? == some (codeUnit '/') ||
    (normalizeSegments path).head? == some (codeUnits "..") || path.contains (codeUnit '\\') ||
    path.any isControl

def validateDeclaration (declaration : DeclaredTest) : Option CodeUnits :=
  if declaration.testFiles.length < 1 ∨ 5 < declaration.testFiles.length then
    some (codeUnits "contract_invalid: expected one to five declared files")
  else if declaration.testFiles.any escapesRepository then
    some (codeUnits "contract_invalid: test file escapes the repository")
  else if declaration.identifier = [] ∨ 300 < declaration.identifier.length ∨
      declaration.identifier.any (fun u => u == codeUnit '\'' || u == codeUnit '\\' || isControl u) then
    some (codeUnits "contract_invalid: identifier contains unsafe characters")
  else if declaration.expectedAssertion = [] ∨ 500 < declaration.expectedAssertion.length ∨
      declaration.expectedAssertion.any isControl then
    some (codeUnits "contract_invalid: expected assertion contains unsafe characters")
  else none

def nonExecutionFailures : List CodeUnits :=
  [codeUnits "CANNOT FIND MODULE", codeUnits "FAILED TO RESOLVE IMPORT",
    codeUnits "FAILED TO LOAD URL", codeUnits "SYNTAXERROR", codeUnits "TRANSFORM FAILED",
    codeUnits "ERR_MODULE_NOT_FOUND", codeUnits "IMPORTERROR", codeUnits "MODULENOTFOUNDERROR",
    codeUnits "COLLECTION ERROR", codeUnits "NO TEST FILES FOUND", codeUnits "NO TEST FOUND",
    codeUnits "NO TESTS FOUND", codeUnits "NO TEST RAN", codeUnits "NO TESTS RAN"]

def isBehavioralFailure (message : Option CodeUnits) : Bool :=
  match message with
  | none => false
  | some message =>
    !message.isEmpty && !nonExecutionFailures.any (includes (message.map upperLetter))

/-- What a step in the sandbox throws. -/
inductive Fault where
  | sandboxUnavailable
  | failed (message : CodeUnits)
  | verificationInfra (message : CodeUnits)
  deriving DecidableEq

structure FailFirstInput where
  plan : TestPlan
  declaredTest : Option DeclaredTest
  reproductionImpossibleReason : Option CodeUnits

/-- What the git commands in the sandbox answer. -/
structure GitAnswers where
  originalBranch : Except Fault CodeUnits
  commit : Except Fault Unit
  fixCommitSha : Except Fault CodeUnits
  presentAtFix : CodeUnits → Bool
  /-- The content of a file at the fix, where it can be read. -/
  contentAtFix : CodeUnits → Option CodeUnits
  /-- The base with the declared test in it, and the state of its tree. -/
  checkoutBase : Except Fault Unit
  checkoutFix : Except Fault Unit
  restore : Except Fault Unit

structure FailFirstOutcome where
  redObserved : Bool := false
  greenObserved : Bool := false
  contractViolation : Option CodeUnits := none
  fixCommitSha : Option CodeUnits := none
  declaredTestSource : Option CodeUnits := none
  /-- What is added to the evidence of the two runs. -/
  redCheck : Option CheckOutcome := none
  greenCheck : Option CheckOutcome := none

def maxTestSource : Nat := 30000

def sourceFrom (git : GitAnswers) : CodeUnits → List CodeUnits → CodeUnits
  | source, [] => source
  | source, path :: rest =>
    let content := (git.contentAtFix path).getD (codeUnits "(unreadable)")
    let source := source ++ codeUnits "--- " ++ path ++
      (if content = codeUnits "(unreadable)" then codeUnits " (unreadable)" else []) ++
      codeUnits " ---\n" ++ content ++ codeUnits "\n"
    if maxTestSource < source.length then
      source.take maxTestSource ++ codeUnits "\n... [declared test source truncated]"
    else sourceFrom git source rest

/-- The verdict on the run on the base, and what it says against the contract. -/
def observeRed (red : DeclaredRun) : Bool × Option CodeUnits :=
  match red.run with
  | none =>
    (false, some (codeUnits "contract_violation: " ++
      red.reason.getD (codeUnits "declared test could not run")))
  | some run =>
    let redObserved := red.runnable && run.outcome = .failed && isBehavioralFailure red.failureMessage
    (redObserved,
      if run.timedOut then some (codeUnits "infra: declared test timed out")
      else if redObserved then none
      else if run.outcome = .failed then
        some (codeUnits "contract_violation: the declared test failed to execute on base")
      else some (codeUnits "contract_violation: declared test did not fail on base"))

/-- The verdict on the run on the fix. -/
def observeGreen (green : DeclaredRun) (contractViolation : Option CodeUnits) :
    Bool × Option CodeUnits :=
  match green.run with
  | none =>
    (false, contractViolation <|> some (codeUnits "contract_violation: " ++
      green.reason.getD (codeUnits "declared test could not run with the fix")))
  | some run =>
    let greenObserved := green.runnable && run.outcome = .passed
    (greenObserved,
      if greenObserved then contractViolation
      else contractViolation <|> some (codeUnits "contract_violation: " ++
        green.reason.getD (codeUnits "declared test did not pass with the fix")))

/-- An error that says the contract is invalid is an outcome, any other goes on. -/
def contractError (outcome : FailFirstOutcome) : Fault → Except Fault FailFirstOutcome
  | .failed message =>
    if (codeUnits "contract_invalid:").isPrefixOf message then
      .ok { outcome with contractViolation := some message }
    else .error (.failed message)
  | fault => .error fault

/-- The commit of the candidate fix, up to the run on the base. -/
def prepareBase (git : GitAnswers) (declaredTest : DeclaredTest) (fixCommitSha : CodeUnits) :
    Except (FailFirstOutcome × Fault) FailFirstOutcome :=
  let outcome : FailFirstOutcome := { fixCommitSha := some fixCommitSha }
  if declaredTest.testFiles.all git.presentAtFix then
    let outcome := { outcome with declaredTestSource := some (sourceFrom git [] declaredTest.testFiles) }
    match git.checkoutBase with
    | .error fault => .error (outcome, fault)
    | .ok _ => .ok outcome
  else
    .error (outcome,
      .failed (codeUnits "contract_invalid: declared file is absent from the fix commit"))

/-- The two runs, on the base and on the fix. -/
def observe (plan : TestPlan) (git : GitAnswers) (declaredTest : DeclaredTest)
    (outcome : FailFirstOutcome) (base fix : Execution) : Except Fault FailFirstOutcome :=
  let onBase := runDeclaredTest plan declaredTest.testFiles declaredTest.identifier base
  let red := observeRed onBase
  let outcome :=
    { outcome with
      redObserved := red.1, contractViolation := red.2, redCheck := onBase.run.map (·.outcome) }
  match git.checkoutFix with
  | .error fault => contractError outcome fault
  | .ok _ =>
    let onFix := runDeclaredTest plan declaredTest.testFiles declaredTest.identifier fix
    let green := observeGreen onFix red.2
    .ok { outcome with
          greenObserved := green.1, contractViolation := green.2
          greenCheck := onFix.run.map (·.outcome) }

/-- The `finally` of a run: the candidate fix is put back. -/
def restored (git : GitAnswers) (fixCommitSha originalBranch : CodeUnits)
    (result : Except Fault FailFirstOutcome) : Except Fault FailFirstOutcome :=
  if fixCommitSha = [] ∨ originalBranch = [] then result
  else
    match git.restore with
    | .ok _ => result
    | .error .sandboxUnavailable => .error .sandboxUnavailable
    | .error (.failed message) | .error (.verificationInfra message) =>
      .error (.verificationInfra (codeUnits
        "Could not restore the candidate fix after fail-first verification: " ++ message))

def runFailFirst (input : FailFirstInput) (git : GitAnswers) (base fix : Execution) :
    Except Fault FailFirstOutcome :=
  match input.declaredTest with
  | none =>
    .ok { contractViolation :=
      if input.reproductionImpossibleReason.all (·.isEmpty) then
        some (codeUnits "contract_missing: no reproduction declaration")
      else none }
  | some declaredTest =>
    match validateDeclaration declaredTest with
    | some invalid => .ok { contractViolation := some invalid }
    | none =>
      match git.originalBranch with
      | .error fault => contractError {} fault
      | .ok originalBranch =>
        match git.commit with
        | .error fault => contractError {} fault
        | .ok _ =>
          match git.fixCommitSha with
          | .error fault => contractError {} fault
          | .ok fixCommitSha =>
            restored git fixCommitSha originalBranch <|
              match prepareBase git declaredTest fixCommitSha with
              | .error (outcome, fault) => contractError outcome fault
              | .ok outcome => observe input.plan git declaredTest outcome base fix

end Opslane.Harness
