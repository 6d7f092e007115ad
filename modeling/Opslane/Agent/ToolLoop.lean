import Mathlib.Tactic.Basic
import Opslane.Lib.CodeUnits
import Opslane.Lib.Double
import Opslane.Lib.Exchange
import Opslane.Lib.JsonReader

/-!
# The tool loop

The loop asks the model for a turn, runs the tools the turn calls, and asks again with their
results. The model, the tools, the middleware, the tracer and the abort signal answer as they
like, each answer depending on the whole transcript.

A tool is handed the input object of the assistant message itself, and the middleware the loop's
own call and state: what they leave in these is part of their answer. Costs are floating point
numbers, so the budget is any function of the usage; it tells the text of its excess.
-/

namespace Opslane.Agent

abbrev Value := JsonTree CodeUnits Double

/-- `Record<string, unknown>` -/
abbrev Record := List (CodeUnits × Value)

structure ToolUse where
  id : CodeUnits
  name : CodeUnits
  input : Record

/-- The parts of a response: `Extract<MessagePart, text | tool_use>`. -/
inductive AssistantPart where
  | text (text : CodeUnits)
  | toolUse (call : ToolUse)

structure ToolResultPart where
  toolUseId : CodeUnits
  output : CodeUnits
  isError : Bool

inductive MessagePart where
  | text (text : CodeUnits)
  | toolUse (call : ToolUse)
  | toolResult (result : ToolResultPart)

def AssistantPart.toPart : AssistantPart → MessagePart
  | .text content => .text content
  | .toolUse call => .toolUse call

inductive Role where
  | user
  | assistant
  deriving DecidableEq

structure ModelMessage where
  role : Role
  content : List MessagePart

structure SystemBlock where
  text : CodeUnits
  cache : Bool

structure ModelTool where
  name : CodeUnits
  description : CodeUnits
  schema : Record

structure ModelUsage where
  inputTokens : Nat
  outputTokens : Nat
  cacheReadTokens : Nat
  cacheWriteTokens : Nat

structure ModelRequest where
  model : CodeUnits
  system : List SystemBlock
  messages : List ModelMessage
  tools : List ModelTool

structure ModelResponse where
  content : List AssistantPart
  usage : ModelUsage
  stopReason : Option String

structure ToolCall where
  id : CodeUnits
  name : CodeUnits
  input : Record

structure ToolResult where
  id : CodeUnits
  output : CodeUnits
  isError : Bool

structure ToolHistoryEntry where
  name : CodeUnits
  input : Record

structure TokenUsage where
  input : Nat := 0
  output : Nat := 0
  cacheRead : Nat := 0
  cacheWrite : Nat := 0

structure AgentState where
  turnCount : Nat := 0
  toolCallCount : Nat := 0
  testsRan : Bool := false
  gaveUp : Bool := false
  giveUpReason : Option CodeUnits := none
  tokenUsage : TokenUsage := {}
  toolHistoryEntries : List ToolHistoryEntry := []

structure AgentCompletionResult where
  success : Bool
  summary : CodeUnits
  toolCallCount : Nat
  turnCount : Nat
  testsRan : Bool
  tokenUsage : TokenUsage
  toolHistory : List ToolHistoryEntry

inductive AgentEvent where
  | message (content : CodeUnits)
  | injected (content : CodeUnits)
  | toolCall (id name : CodeUnits) (input : Record)
  | toolResult (id name output : CodeUnits) (isError : Bool)
  | turnStart (turnNumber : Nat)
  | turnEnd (turnNumber : Nat) (tokenUsage : TokenUsage)
  | completed (summary : CodeUnits)
  | error (code message : CodeUnits)

/-- What is thrown: an `Error` with its message, or another value with its `String(value)`. -/
inductive Thrown where
  | error (message : CodeUnits)
  | value (shown : CodeUnits)

/-- `error instanceof Error ? error.message : String(error)` -/
def Thrown.text : Thrown → CodeUnits
  | .error message => message
  | .value shown => shown

/-- What a tool does with its input object, and how it ends. -/
structure Execution where
  left : Record
  outcome : Except Thrown CodeUnits

structure Verdict where
  allow : Bool
  inject : Option CodeUnits := none

/-- The call and the state as `preTool` leaves them, and its verdict. -/
structure PreTool where
  call : ToolCall
  state : AgentState
  verdict : Option Verdict := none

/-- `preCompletion` leaves a state and may inject a message. -/
structure Check where
  state : AgentState
  inject : Option CodeUnits := none

/-- A tracer runs the tool as often as it likes, and then ends in its own way. -/
inductive Tracing where
  | returns (outcome : Except Thrown CodeUnits)
  | executes (next : Except Thrown CodeUnits → Tracing)

inductive Observation where
  | signal (aborted : Bool)
  | event (event : AgentEvent)
  | generate (request : ModelRequest) (answer : Except Thrown ModelResponse)
  /-- The check after a response with this content. -/
  | preCompletion (content : List AssistantPart) (answer : Except Thrown Check)
  | preTool (call : ToolCall) (answer : Except Thrown PreTool)
  | traceTool (name : CodeUnits) (input : Record)
  | execute (name : CodeUnits) (input : Record) (ran : Execution)
  /-- What the tracer sees of an execution. -/
  | traced (outcome : Except Thrown CodeUnits)
  | postTool (call : ToolCall) (result : ToolResult) (answer : Except Thrown AgentState)

abbrev Transcript := List Observation

structure ToolSpec extends ModelTool where
  execute : Transcript → Record → Execution

/-- The callbacks of a run. A callback that is not given leaves everything as it is. -/
structure Host where
  aborted : Transcript → Bool := fun _ => false
  generate : Transcript → ModelRequest → Except Thrown ModelResponse
  preTool : Transcript → ToolCall → AgentState → Except Thrown PreTool :=
    fun _ call state => .ok { call, state }
  postTool : Transcript → ToolCall → ToolResult → AgentState → Except Thrown AgentState :=
    fun _ _ _ state => .ok state
  preCompletion : Transcript → AgentState → Except Thrown Check := fun _ state => .ok { state }
  traceTool : Option (Transcript → CodeUnits → Record → Tracing) := none

structure ToolLoopOptions where
  model : CodeUnits
  systemPrompt : CodeUnits
  userMessage : CodeUnits
  maxTurns : Nat
  tools : List ToolSpec
  state : AgentState := {}
  /-- The text of the excess, where the cost is above the budget. -/
  budget : TokenUsage → Option CodeUnits := fun _ => none
  redact : CodeUnits → CodeUnits := id

/-- A field that is set again keeps its place. -/
def setEntry (fields : Record) (entry : CodeUnits × Value) : Record :=
  if fields.any (·.1 = entry.1) then
    fields.map fun field => if field.1 = entry.1 then entry else field
  else fields ++ [entry]

/-- `Object.fromEntries` -/
def fromEntries (entries : List (CodeUnits × Value)) : Record := entries.foldl setEntry []

section Redaction

variable (redact : CodeUnits → CodeUnits)

mutual

def redactValue : Value → Value
  | .string text => .string (redact text)
  | .array items => .array (redactItems items)
  | .object members => .object (fromEntries (redactEntries members))
  | .null => .null
  | .bool b => .bool b
  | .number n => .number n

def redactItems : List Value → List Value
  | [] => []
  | item :: rest => redactValue item :: redactItems rest

def redactEntries : List (CodeUnits × Value) → List (CodeUnits × Value)
  | [] => []
  | (key, item) :: rest => (redact key, redactValue item) :: redactEntries rest

end

def redactRecord (record : Record) : Record := fromEntries (redactEntries redact record)

def redactAssistantContent (content : List AssistantPart) : List AssistantPart :=
  content.map fun
    | .text text => .text (redact text)
    | .toolUse call => .toolUse ⟨redact call.id, redact call.name, redactRecord redact call.input⟩

def redactEvent : AgentEvent → AgentEvent
  | .injected content => .injected (redact content)
  | .message content => .message (redact content)
  | .toolCall id name input => .toolCall (redact id) (redact name) (redactRecord redact input)
  | .toolResult id name output isError =>
    .toolResult (redact id) (redact name) (redact output) isError
  | .completed summary => .completed (redact summary)
  | .error code message => .error (redact code) (redact message)
  | .turnStart turnNumber => .turnStart turnNumber
  | .turnEnd turnNumber tokenUsage => .turnEnd turnNumber tokenUsage

def toResult (success : Bool) (summary : CodeUnits) (state : AgentState) :
    AgentCompletionResult where
  success
  summary := redact summary
  toolCallCount := state.toolCallCount
  turnCount := state.turnCount
  testsRan := state.testsRan
  tokenUsage := state.tokenUsage
  toolHistory := state.toolHistoryEntries.map fun entry =>
    ⟨redact entry.name, redactRecord redact entry.input⟩

end Redaction

/-- `toLowerCase`, as far as a search for ASCII words can tell: of the letters outside ASCII only
the Kelvin sign and the dotted capital I have ASCII in their lower case. -/
def lowered (text : CodeUnits) : CodeUnits := text.flatMap fun u =>
  if codeUnit 'A' ≤ u ∧ u ≤ codeUnit 'Z' then [u + 32]
  else if u = 0x212a then [codeUnit 'k']
  else if u = 0x130 then [codeUnit 'i', 0x307]
  else [u]

def includes (text : CodeUnits) (word : String) : Bool := text.tails.any (codeUnits word).isPrefixOf

def classifyApiError : Thrown → CodeUnits
  | .value _ => codeUnits "AGENT_CRASHED"
  | .error message =>
    let message := lowered message
    if includes message "rate" || includes message "429" then codeUnits "API_RATE_LIMITED"
    else if includes message "auth" || includes message "401" || includes message "invalid api key"
    then codeUnits "API_KEY_INVALID"
    else if includes message "timeout" || includes message "timed out" then codeUnits "TIMEOUT"
    else codeUnits "AGENT_CRASHED"

def addUsage (state : AgentState) (usage : ModelUsage) : AgentState :=
  { state with tokenUsage :=
    { input := state.tokenUsage.input + usage.inputTokens
      output := state.tokenUsage.output + usage.outputTokens
      cacheRead := state.tokenUsage.cacheRead + usage.cacheReadTokens
      cacheWrite := state.tokenUsage.cacheWrite + usage.cacheWriteTokens } }

abbrev Run := Exchange Observation Thrown

section Loop

variable (host : Host) (options : ToolLoopOptions)

def emit (event : AgentEvent) : Run Unit := .enter (.event (redactEvent options.redact event))

/-- The last tool of a name stands for it. -/
def toolMap (name : CodeUnits) : Option ToolSpec :=
  options.tools.reverse.find? (·.name = name)

/-- `execute`: its errors are sanitized before the tracer sees them. -/
def execute (tool : ToolSpec) (input : Record) : Run Execution := do
  let ran ← .ask (tool.execute · input) (.execute tool.name input)
  match ran.outcome with
  | .ok output => pure ⟨ran.left, .ok (options.redact output)⟩
  | .error thrown => pure ⟨ran.left, .error (.error (options.redact thrown.text))⟩

def follow (tool : ToolSpec) : Tracing → Record → Run Execution
  | .returns outcome, input => pure ⟨input, outcome⟩
  | .executes next, input => do
    let ran ← execute options tool input
    Exchange.enter (.traced ran.outcome)
    follow tool (next ran.outcome) ran.left

def callTool (tool : ToolSpec) (safeCall : ToolCall) (input : Record) : Run Execution :=
  match host.traceTool with
  | none => execute options tool input
  | some traceTool => do
    let tracing ← .ask (traceTool · safeCall.name safeCall.input) fun _ =>
      .traceTool safeCall.name safeCall.input
    follow options tool tracing input

/-- A call ends with its result and the input as it was left, or ends the run. -/
inductive CallEnd where
  | answered (state : AgentState) (result : ToolResultPart) (left : Record)
  | gaveUp (result : AgentCompletionResult)

/-- A result that is shown and kept. -/
def answer (state : AgentState) (call : ToolUse) (name output : CodeUnits) (isError : Bool)
    (left : Record) : Run CallEnd := do
  emit options (.toolResult call.id name output isError)
  pure (.answered state ⟨call.id, output, isError⟩ left)

def runCall (call : ToolUse) (state : AgentState) : Run CallEnd := do
  let redact := options.redact
  let safeCall : ToolCall := ⟨call.id, redact call.name, redactRecord redact call.input⟩
  let state := { state with
    toolCallCount := state.toolCallCount + 1
    toolHistoryEntries := state.toolHistoryEntries ++ [⟨safeCall.name, safeCall.input⟩] }
  match toolMap options call.name with
  | none =>
    let output := redact (codeUnits "Error: Unknown tool \"" ++ call.name ++ codeUnits "\"")
    answer options state call safeCall.name output true call.input
  | some tool => do
    let pre ← .ask (host.preTool · safeCall state) (.preTool safeCall)
    let ⟨safeCall, state, verdict⟩ ← .ofExcept pre
    match verdict with
    | some ⟨false, inject⟩ =>
      let output := redact (inject.getD (codeUnits "Tool call blocked by middleware."))
      answer options state call safeCall.name output true call.input
    | _ => do
      let ran ← callTool host options tool safeCall call.input
      let (output, isError) := match ran.outcome with
        | .ok output => (output, false)
        | .error thrown => (codeUnits "Error: " ++ thrown.text, true)
      let output := redact output
      emit options (.toolResult call.id safeCall.name output isError)
      let result : ToolResult := ⟨call.id, output, isError⟩
      let post ← .ask (host.postTool · safeCall result state) (.postTool safeCall result)
      let state ← .ofExcept post
      if state.gaveUp then do
        let summary := redact (state.giveUpReason.getD (codeUnits "Agent gave up"))
        emit options (.completed summary)
        emit options (.turnEnd state.turnCount state.tokenUsage)
        pure (.gaveUp (toResult redact true summary state))
      else pure (.answered state ⟨call.id, output, isError⟩ ran.left)

/-- How the calls of a turn end: the content with the inputs as they were left, and the results. -/
inductive CallsEnd where
  | answered (state : AgentState) (content : List AssistantPart) (results : List ToolResultPart)
  | gaveUp (result : AgentCompletionResult)

/-- `toolCalls` are the calls of the content, the same objects. -/
def runCalls : List AssistantPart → AgentState → Run CallsEnd
  | [], state => pure (.answered state [] [])
  | .text text :: rest, state => do
    match ← runCalls rest state with
    | .answered state content results => pure (.answered state (.text text :: content) results)
    | .gaveUp result => pure (.gaveUp result)
  | .toolUse call :: rest, state => do
    match ← runCall host options call state with
    | .gaveUp result => pure (.gaveUp result)
    | .answered state result left =>
      match ← runCalls rest state with
      | .answered state content results =>
        pure (.answered state (.toolUse { call with input := left } :: content) (result :: results))
      | .gaveUp result => pure (.gaveUp result)

/-- The parts are told one by one. The last text of them is kept. -/
def announce : List AssistantPart → CodeUnits → Run CodeUnits
  | [], lastAssistantText => pure lastAssistantText
  | .text text :: rest, _ => do
    emit options (.message text)
    announce rest text
  | .toolUse call :: rest, lastAssistantText => do
    emit options (.toolCall call.id call.name call.input)
    announce rest lastAssistantText

def toolCalls (content : List AssistantPart) : List ToolUse := content.filterMap fun
  | .text _ => none
  | .toolUse call => some call

structure Conversation where
  state : AgentState
  messages : List ModelMessage
  lastAssistantText : CodeUnits

inductive TurnEnd where
  | again (conversation : Conversation)
  | done (result : AgentCompletionResult)

def assistantMessage (content : List AssistantPart) : ModelMessage :=
  ⟨.assistant, content.map AssistantPart.toPart⟩

def userText (text : CodeUnits) : ModelMessage := ⟨.user, [.text text]⟩

def resultsMessage (results : List ToolResultPart) : ModelMessage :=
  ⟨.user, results.map MessagePart.toolResult⟩

/-- The end of a turn that calls no tool, or that the model calls the last. -/
def complete (conversation : Conversation) (content : List AssistantPart) : Run TurnEnd := do
  let check ← .ask (host.preCompletion · conversation.state) (.preCompletion content)
  let ⟨state, inject⟩ ← .ofExcept check
  -- an empty text injects nothing
  match inject.filter (· ≠ []) with
  | some inject => do
    emit options (.injected (options.redact inject))
    emit options (.turnEnd state.turnCount state.tokenUsage)
    pure (.again { conversation with
      state
      messages := conversation.messages
        ++ [assistantMessage content, userText (options.redact inject)] })
  | none => do
    emit options (.completed conversation.lastAssistantText)
    emit options (.turnEnd state.turnCount state.tokenUsage)
    pure (.done (toResult options.redact true conversation.lastAssistantText state))

/-- The calls of a turn, and their results in the next message. -/
def callTools (conversation : Conversation) (content : List AssistantPart) : Run TurnEnd := do
  match ← runCalls host options content conversation.state with
  | .gaveUp result => pure (.done result)
  | .answered state content results => do
    emit options (.turnEnd state.turnCount state.tokenUsage)
    pure (.again { conversation with
      state
      messages := conversation.messages ++ [assistantMessage content, resultsMessage results] })

/-- What follows a response. -/
def respond (conversation : Conversation) (response : ModelResponse) : Run TurnEnd := do
  let content := redactAssistantContent options.redact response.content
  let lastAssistantText ← announce options content conversation.lastAssistantText
  let conversation := { conversation with lastAssistantText }
  if response.stopReason = some "end_turn" ∨ toolCalls content = [] then
    complete host options conversation content
  else callTools host options conversation content

def request (messages : List ModelMessage) : ModelRequest where
  model := options.model
  system := [⟨options.redact options.systemPrompt, true⟩]
  messages
  tools := options.tools.map ToolSpec.toModelTool

/-- One round of the loop. -/
def turn (conversation : Conversation) : Run TurnEnd := do
  let redact := options.redact
  let state := { conversation.state with turnCount := conversation.state.turnCount + 1 }
  emit options (.turnStart state.turnCount)
  let aborted ← .ask host.aborted .signal
  if aborted then do
    emit options (.error (codeUnits "CANCELLED") (codeUnits "Run was cancelled"))
    pure (.done (toResult redact false (codeUnits "Cancelled") state))
  else do
    let request := request options conversation.messages
    let generated ← .ask (host.generate · request) (.generate request)
    match generated with
    | .error thrown => do
      let message := redact thrown.text
      emit options (.error (classifyApiError thrown) message)
      pure (.done (toResult redact false message state))
    | .ok response =>
      let state := addUsage state response.usage
      match options.budget state.tokenUsage with
      | some excess => do
        emit options
          (.error (codeUnits "BUDGET_EXCEEDED") (codeUnits "Budget exceeded: " ++ excess))
        pure (.done (toResult redact false (codeUnits "Budget exceeded") state))
      | none => respond host options { conversation with state } response

/-- The first rounds of the loop. The middleware may set the turn count back, so no number of
rounds is enough for every run. -/
def rounds : Nat → Conversation → Run (Option AgentCompletionResult)
  | 0, _ => pure none
  | fuel + 1, conversation =>
    if conversation.state.turnCount < options.maxTurns then do
      match ← turn host options conversation with
      | .again conversation => rounds fuel conversation
      | .done result => pure (some result)
    else do
      emit options (.error (codeUnits "MAX_TURNS_EXCEEDED")
        (codeUnits "Reached maximum of " ++ codeUnits (toString options.maxTurns)
          ++ codeUnits " turns"))
      let summary := if conversation.lastAssistantText = [] then codeUnits "Max turns exceeded"
        else conversation.lastAssistantText
      pure (some (toResult options.redact false summary conversation.state))

/-- The run of the loop, as far as `fuel` rounds go. -/
def toolLoop (fuel : Nat) : Run (Option AgentCompletionResult) :=
  rounds host options fuel
    { state := options.state
      messages := [userText (options.redact options.userMessage)]
      lastAssistantText := [] }

end Loop

end Opslane.Agent
