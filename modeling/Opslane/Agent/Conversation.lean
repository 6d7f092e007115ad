import Opslane.Agent.ToolLoop

/-!
# Well formed conversations

The messages of a request begin with the user's and alternate, and each tool use is answered by
one result in the message behind it. The loop keeps this as long as redaction tells the ids of a
response apart and nothing is injected after a response that calls tools: an injected message
takes the place of the results.
-/

namespace Opslane.Agent

def ModelMessage.useIds (message : ModelMessage) : List CodeUnits :=
  message.content.filterMap fun
    | .toolUse call => some call.id
    | _ => none

def ModelMessage.resultIds (message : ModelMessage) : List CodeUnits :=
  message.content.filterMap fun
    | .toolResult result => some result.toolUseId
    | _ => none

/-- What providers accept. -/
structure WellFormed (messages : List ModelMessage) : Prop where
  alternate : ∀ (i : Nat) (message : ModelMessage), messages[i]? = some message →
    message.role = if i % 2 = 0 then .user else .assistant
  uses : ∀ (i : Nat) (message : ModelMessage), messages[i]? = some message →
    message.role = .user → message.useIds = []
  answered : ∀ (i : Nat) (message : ModelMessage), messages[i]? = some message →
    message.role = .assistant → message.useIds.Nodup ∧ (message.useIds ≠ [] →
      ∃ next, messages[i + 1]? = some next ∧ next.role = .user ∧ next.resultIds = message.useIds)
  asked : ∀ (i : Nat) (message : ModelMessage), messages[i]? = some message →
    message.resultIds ≠ [] → ∃ j before, i = j + 1 ∧ messages[j]? = some before ∧
      before.role = .assistant ∧ message.resultIds = before.useIds

/-- A message of the assistant and the user's reply to it. -/
structure Answers (asked reply : ModelMessage) : Prop where
  fromAssistant : asked.role = .assistant
  fromUser : reply.role = .user
  distinct : asked.useIds.Nodup
  results : reply.resultIds = asked.useIds
  noResults : asked.resultIds = []
  noUses : reply.useIds = []

/-- A conversation is opened by the user and goes on by exchanges. -/
inductive Talk : List ModelMessage → Prop where
  | opened {first : ModelMessage} (fromUser : first.role = .user) (noUses : first.useIds = [])
      (noResults : first.resultIds = []) : Talk [first]
  | exchange {messages : List ModelMessage} {asked reply : ModelMessage} (before : Talk messages)
      (answers : Answers asked reply) : Talk (messages ++ [asked, reply])

variable {messages : List ModelMessage}

theorem Talk.length_odd (talk : Talk messages) :
    messages.length % 2 = 1 := by
  induction talk with
  | opened => rfl
  | exchange before answers ih =>
    rw [List.length_append, List.length_cons, List.length_singleton]
    omega

theorem getElem?_exchange {asked reply message : ModelMessage} {i : Nat}
    (found : (messages ++ [asked, reply])[i]? = some message) :
    messages[i]? = some message ∨ (i = messages.length ∧ message = asked) ∨
      (i = messages.length + 1 ∧ message = reply) := by
  by_cases inside : i < messages.length
  · rw [List.getElem?_append_left inside] at found
    exact .inl found
  · rw [List.getElem?_append_right (Nat.le_of_not_lt inside)] at found
    have place : i = messages.length + (i - messages.length) := by omega
    rcases rest : i - messages.length with _ | _ | n
    · rw [rest] at found place
      exact .inr (.inl ⟨place, (Option.some.inj found).symm⟩)
    · rw [rest] at found place
      exact .inr (.inr ⟨place, (Option.some.inj found).symm⟩)
    · rw [rest] at found
      cases found

theorem WellFormed.exchange {asked reply : ModelMessage} (formed : WellFormed messages)
    (odd : messages.length % 2 = 1) (answers : Answers asked reply) :
    WellFormed (messages ++ [asked, reply]) := by
  have stays : ∀ {i : Nat} {message : ModelMessage}, messages[i]? = some message →
      (messages ++ [asked, reply])[i]? = some message := fun found => by
    rw [List.getElem?_append_left (List.getElem?_eq_some_iff.mp found).1]
    exact found
  have atAsked : (messages ++ [asked, reply])[messages.length]? = some asked := by simp
  have atReply : (messages ++ [asked, reply])[messages.length + 1]? = some reply := by simp
  refine ⟨fun i message found => ?_, fun i message found => ?_, fun i message found => ?_,
    fun i message found => ?_⟩
  · rcases getElem?_exchange found with old | ⟨rfl, rfl⟩ | ⟨rfl, rfl⟩
    · exact formed.alternate i message old
    · rw [answers.fromAssistant, if_neg (by omega)]
    · rw [answers.fromUser, if_pos (by omega)]
  · intro user
    rcases getElem?_exchange found with old | ⟨rfl, rfl⟩ | ⟨rfl, rfl⟩
    · exact formed.uses i message old user
    · rw [answers.fromAssistant] at user
      cases user
    · exact answers.noUses
  · intro assistant
    rcases getElem?_exchange found with old | ⟨rfl, rfl⟩ | ⟨rfl, rfl⟩
    · obtain ⟨distinct, answered⟩ := formed.answered i message old assistant
      refine ⟨distinct, fun some_ => ?_⟩
      obtain ⟨next, behind, rest⟩ := answered some_
      exact ⟨next, stays behind, rest⟩
    · exact ⟨answers.distinct, fun _ => ⟨reply, atReply, answers.fromUser, answers.results⟩⟩
    · rw [answers.fromUser] at assistant
      cases assistant
  · intro some_
    rcases getElem?_exchange found with old | ⟨rfl, rfl⟩ | ⟨rfl, rfl⟩
    · obtain ⟨j, before, next, found, rest⟩ := formed.asked i message old some_
      exact ⟨j, before, next, stays found, rest⟩
    · exact absurd answers.noResults some_
    · exact ⟨messages.length, asked, rfl, atAsked, answers.fromAssistant, answers.results⟩

theorem WellFormed.opened {first : ModelMessage} (fromUser : first.role = .user)
    (noUses : first.useIds = []) (noResults : first.resultIds = []) : WellFormed [first] := by
  have only : ∀ {i : Nat} {message : ModelMessage}, [first][i]? = some message →
      i = 0 ∧ message = first := by
    intro i message found
    cases i with
    | zero => exact ⟨rfl, (Option.some.inj found).symm⟩
    | succ i => cases found
  refine ⟨fun i message found => ?_, fun i message found _ => ?_, fun i message found user => ?_,
    fun i message found some_ => ?_⟩
  · obtain ⟨rfl, rfl⟩ := only found
    exact fromUser
  · obtain ⟨rfl, rfl⟩ := only found
    exact noUses
  · obtain ⟨rfl, rfl⟩ := only found
    rw [fromUser] at user
    cases user
  · obtain ⟨rfl, rfl⟩ := only found
    exact absurd noResults some_

theorem Talk.wellFormed (talk : Talk messages) :
    WellFormed messages := by
  induction talk with
  | opened fromUser noUses noResults => exact .opened fromUser noUses noResults
  | exchange before answers ih => exact ih.exchange before.length_odd answers

def ids (content : List AssistantPart) : List CodeUnits := (toolCalls content).map ToolUse.id

theorem useIds_assistantMessage (content : List AssistantPart) :
    (assistantMessage content).useIds = ids content := by
  unfold assistantMessage ModelMessage.useIds ids toolCalls
  induction content with
  | nil => rfl
  | cons part rest ih =>
    cases part with
    | text t => exact ih
    | toolUse call => exact congrArg (call.id :: ·) ih

theorem resultIds_assistantMessage (content : List AssistantPart) :
    (assistantMessage content).resultIds = [] := by
  unfold assistantMessage ModelMessage.resultIds
  rw [List.filterMap_eq_nil_iff]
  intro part member
  obtain ⟨inner, -, rfl⟩ := List.mem_map.mp member
  cases inner <;> rfl

theorem resultIds_resultsMessage (results : List ToolResultPart) :
    (resultsMessage results).resultIds = results.map ToolResultPart.toolUseId := by
  unfold resultsMessage ModelMessage.resultIds
  rw [List.filterMap_map, ← List.filterMap_eq_map]
  rfl

theorem useIds_resultsMessage (results : List ToolResultPart) :
    (resultsMessage results).useIds = [] := by
  unfold resultsMessage ModelMessage.useIds
  rw [List.filterMap_eq_nil_iff]
  intro part member
  obtain ⟨inner, -, rfl⟩ := List.mem_map.mp member
  rfl

variable {content : List AssistantPart}

theorem answers_resultsMessage {results : List ToolResultPart} (distinct : (ids content).Nodup)
    (inOrder : results.map ToolResultPart.toolUseId = ids content) :
    Answers (assistantMessage content) (resultsMessage results) where
  fromAssistant := rfl
  fromUser := rfl
  distinct := by rwa [useIds_assistantMessage]
  results := by rw [resultIds_resultsMessage, useIds_assistantMessage, inOrder]
  noResults := resultIds_assistantMessage content
  noUses := useIds_resultsMessage results

theorem answers_userText (none_ : toolCalls content = []) (text : CodeUnits) :
    Answers (assistantMessage content) (userText text) where
  fromAssistant := rfl
  fromUser := rfl
  distinct := by rw [useIds_assistantMessage, ids, none_]; exact List.nodup_nil
  results := by rw [useIds_assistantMessage, ids, none_]; rfl
  noResults := resultIds_assistantMessage content
  noUses := rfl

theorem ids_redactAssistantContent (redact : CodeUnits → CodeUnits) (content : List AssistantPart) :
    ids (redactAssistantContent redact content) = (ids content).map redact := by
  unfold ids toolCalls redactAssistantContent
  induction content with
  | nil => rfl
  | cons part rest ih =>
    cases part with
    | text t => exact ih
    | toolUse call => exact congrArg (redact call.id :: ·) ih

def Check.injects (check : Check) : Prop := check.inject.filter (· ≠ []) ≠ none

section Loop

variable (host : Host) (options : ToolLoopOptions)

/-- The response carries distinct ids. -/
def DistinctIds : Observation → Prop
  | .generate _ (.ok response) => (ids response.content).Nodup
  | _ => True

/-- Redaction makes no two ids of the response one. -/
def KeptApart : Observation → Prop
  | .generate _ (.ok response) => ∀ a ∈ ids response.content, ∀ b ∈ ids response.content,
    options.redact a = options.redact b → a = b
  | _ => True

/-- Nothing is injected after a response that calls tools. -/
def Settled : Observation → Prop
  | .preCompletion content (.ok check) => check.injects → toolCalls content = []
  | _ => True

instance : DecidablePred DistinctIds
  | .generate _ (.ok _) => inferInstanceAs (Decidable (List.Nodup _))
  | .generate _ (.error _) | .signal _ | .event _ | .preCompletion .. | .preTool .. | .traceTool ..
  | .execute .. | .traced _ | .postTool .. => isTrue trivial

instance : DecidablePred (KeptApart options)
  | .generate _ (.ok _) => inferInstanceAs (Decidable (∀ a ∈ _, ∀ b ∈ _, _ → _))
  | .generate _ (.error _) | .signal _ | .event _ | .preCompletion .. | .preTool .. | .traceTool ..
  | .execute .. | .traced _ | .postTool .. => isTrue trivial

instance : DecidablePred Settled
  | .preCompletion _ (.ok check) =>
    inferInstanceAs (Decidable (check.inject.filter (· ≠ []) ≠ none → _ = []))
  | .preCompletion _ (.error _) | .signal _ | .event _ | .generate .. | .preTool .. | .traceTool ..
  | .execute .. | .traced _ | .postTool .. => isTrue trivial

def FairTurns (entry : Observation) : Prop :=
  DistinctIds entry ∧ KeptApart options entry ∧ Settled entry

def RequestFormed : Observation → Prop
  | .generate request _ => WellFormed request.messages
  | _ => True

/-- What a program makes of a conversation that is well formed so far. -/
abbrev Forms {α : Type} (program : Run α) (ok : α → Prop) : Prop :=
  program.Meets (FairTurns options) RequestFormed (fun _ => True) ok

variable {host options}

theorem emit_forms (event : AgentEvent) : Forms options (emit options event) fun _ => True :=
  .enter trivial

theorem execute_forms (tool : ToolSpec) (input : Record) :
    Forms options (execute options tool input) fun _ => True := by
  refine .bind (.askAny fun _ => trivial) fun ran _ => ?_
  cases ran.outcome with
  | ok output => exact .pure trivial
  | error thrown => exact .pure trivial

theorem follow_forms (tool : ToolSpec) (tracing : Tracing) (input : Record) :
    Forms options (follow options tool tracing input) fun _ => True := by
  induction tracing generalizing input with
  | returns outcome => exact .pure trivial
  | executes next ih =>
    refine .bind (execute_forms tool input) fun ran _ => ?_
    exact .bind (.enter trivial) fun _ _ => ih ran.outcome ran.left

theorem callTool_forms (tool : ToolSpec) (safeCall : ToolCall) (input : Record) :
    Forms options (callTool host options tool safeCall input) fun _ => True := by
  unfold callTool
  cases host.traceTool with
  | none => exact execute_forms tool input
  | some traceTool =>
    refine .bind (.askAny fun _ => trivial) fun tracing _ => ?_
    exact follow_forms tool tracing input

/-- The result of a call carries its id. -/
def CallEnd.AnswersTo (call : ToolUse) : CallEnd → Prop
  | .answered _ result _ => result.toolUseId = call.id
  | .gaveUp _ => True

theorem answer_forms (state : AgentState) (call : ToolUse) (name output : CodeUnits)
    (isError : Bool) (left : Record) :
    Forms options (answer options state call name output isError left) (CallEnd.AnswersTo call) :=
  .bind (emit_forms _) fun _ _ => .pure rfl

theorem ofExcept_forms {α : Type} (outcome : Except Thrown α) :
    Forms options (Exchange.ofExcept outcome) fun _ => True := by
  cases outcome with
  | error thrown => exact .ofExcept trivial
  | ok a => exact .ofExcept trivial

theorem runCall_forms (call : ToolUse) (state : AgentState) :
    Forms options (runCall host options call state) (CallEnd.AnswersTo call) := by
  unfold runCall
  dsimp only
  cases toolMap options call.name with
  | none => exact answer_forms _ call _ _ _ _
  | some tool =>
    refine .bind (.askAny fun _ => trivial) fun pre _ => ?_
    refine .bind (ofExcept_forms pre) fun pre _ => ?_
    obtain ⟨safeCall, state, verdict⟩ := pre
    dsimp only
    split
    · exact answer_forms _ call _ _ _ _
    · refine .bind (callTool_forms tool safeCall call.input) fun ran _ => ?_
      refine .bind (emit_forms _) fun _ _ => ?_
      refine .bind (.askAny fun _ => trivial) fun post _ => ?_
      refine .bind (ofExcept_forms post) fun state _ => ?_
      split
      · exact .bind (emit_forms _) fun _ _ => .bind (emit_forms _) fun _ _ => .pure trivial
      · exact .pure rfl

/-- The results of a turn, in the order of its calls. -/
def CallsEnd.AnswersTo (content : List AssistantPart) : CallsEnd → Prop
  | .answered _ left results =>
    ids left = ids content ∧ results.map ToolResultPart.toolUseId = ids content
  | .gaveUp _ => True

theorem runCalls_forms (content : List AssistantPart) (state : AgentState) :
    Forms options (runCalls host options content state) (CallsEnd.AnswersTo content) := by
  induction content generalizing state with
  | nil => exact .pure ⟨rfl, rfl⟩
  | cons part rest ih =>
    cases part with
    | text t =>
      refine .bind (ih state) fun ended answered => ?_
      cases ended with
      | gaveUp result => exact .pure trivial
      | answered state content results => exact .pure answered
    | toolUse call =>
      refine .bind (runCall_forms call state) fun ended first => ?_
      cases ended with
      | gaveUp result => exact .pure trivial
      | answered state result left =>
        refine .bind (ih state) fun ended answered => ?_
        cases ended with
        | gaveUp result => exact .pure trivial
        | answered state content results =>
          obtain ⟨kept, inOrder⟩ := answered
          refine .pure ⟨congrArg (call.id :: ·) kept, ?_⟩
          rw [List.map_cons, first, inOrder]
          rfl

theorem announce_forms (content : List AssistantPart) (lastAssistantText : CodeUnits) :
    Forms options (announce options content lastAssistantText) fun _ => True := by
  induction content generalizing lastAssistantText with
  | nil => exact .pure trivial
  | cons part rest ih =>
    cases part with
    | text t => exact .bind (emit_forms _) fun _ _ => ih t
    | toolUse call => exact .bind (emit_forms _) fun _ _ => ih lastAssistantText

def TurnEnd.Talks : TurnEnd → Prop
  | .again conversation => Talk conversation.messages
  | .done _ => True

variable {conversation : Conversation}

theorem complete_forms (talk : Talk conversation.messages) (content : List AssistantPart) :
    Forms options (complete host options conversation content) TurnEnd.Talks := by
  refine .bind (.ask (fun answer => ∀ check, answer = .ok check → check.injects →
    toolCalls content = []) fun answer fair => ⟨trivial, ?_⟩) fun answer settled => ?_
  · rintro check rfl
    exact fair.2.2
  · have same : Forms options (Exchange.ofExcept answer) fun check => answer = .ok check := by
      cases answer with
      | error thrown => exact .ofExcept trivial
      | ok check => exact .ofExcept rfl
    refine .bind same fun check same => ?_
    obtain ⟨state, inject⟩ := check
    dsimp only
    split
    · rename_i injected found
      have silent : toolCalls content = [] := settled _ same (by
        rw [Check.injects, found]
        exact Option.some_ne_none _)
      refine .bind (emit_forms _) fun _ _ => .bind (emit_forms _) fun _ _ => .pure ?_
      exact .exchange talk (answers_userText silent _)
    · exact .bind (emit_forms _) fun _ _ => .bind (emit_forms _) fun _ _ => .pure trivial

theorem callTools_forms (talk : Talk conversation.messages) (distinct : (ids content).Nodup) :
    Forms options (callTools host options conversation content) TurnEnd.Talks := by
  refine .bind (runCalls_forms content conversation.state) fun ended answered => ?_
  cases ended with
  | gaveUp result => exact .pure trivial
  | answered state left results =>
    obtain ⟨kept, inOrder⟩ := answered
    refine .bind (emit_forms _) fun _ _ => .pure ?_
    exact .exchange talk (answers_resultsMessage (kept ▸ distinct) (inOrder.trans kept.symm))

theorem respond_forms (talk : Talk conversation.messages) {response : ModelResponse}
    (apart : ((ids response.content).map options.redact).Nodup) :
    Forms options (respond host options conversation response) TurnEnd.Talks := by
  refine .bind (announce_forms _ _) fun lastAssistantText _ => ?_
  dsimp only
  split
  · refine complete_forms ?_ _
    exact talk
  · refine callTools_forms ?_ ?_
    · exact talk
    · rwa [ids_redactAssistantContent]

theorem turn_forms (talk : Talk conversation.messages) :
    Forms options (turn host options conversation) TurnEnd.Talks := by
  refine .bind (emit_forms _) fun _ _ => ?_
  refine .bind (.askAny fun _ => trivial) fun aborted _ => ?_
  split
  · exact .bind (emit_forms _) fun _ _ => .pure trivial
  · refine .bind (.ask (fun answer => ∀ response, answer = .ok response →
      ((ids response.content).map options.redact).Nodup) fun answer fair => ⟨talk.wellFormed, ?_⟩)
      fun answer apart => ?_
    · rintro response rfl
      exact fair.1.map_on fair.2.1
    · cases answer with
      | error thrown => exact .bind (emit_forms _) fun _ _ => .pure trivial
      | ok response =>
        dsimp only
        split
        · exact .bind (emit_forms _) fun _ _ => .pure trivial
        · refine respond_forms ?_ (apart response rfl)
          exact talk

theorem rounds_forms (fuel : Nat) (talk : Talk conversation.messages) :
    Forms options (rounds host options fuel conversation) fun _ => True := by
  induction fuel generalizing conversation with
  | zero => exact .pure trivial
  | succ fuel ih =>
    rw [rounds]
    split
    · refine .bind (turn_forms talk) fun ended talks => ?_
      cases ended with
      | again next => exact ih talks
      | done result => exact .pure trivial
    · exact .bind (emit_forms _) fun _ _ => .pure trivial

/-- The message lists that were passed to the model. -/
def requests (log : Transcript) : List (List ModelMessage) := log.filterMap fun
  | .generate request _ => some request.messages
  | _ => none

/-- Where the ids of each response are distinct and redaction keeps them so, and nothing is
injected after a response with calls, every request is well formed. -/
theorem requests_wellFormed (host : Host) (options : ToolLoopOptions) (fuel : Nat)
    (distinct : ∀ entry ∈ (toolLoop host options fuel).transcript, DistinctIds entry)
    (apart : ∀ entry ∈ (toolLoop host options fuel).transcript, KeptApart options entry)
    (settled : ∀ entry ∈ (toolLoop host options fuel).transcript, Settled entry) :
    ∀ messages ∈ requests (toolLoop host options fuel).transcript, WellFormed messages := by
  have opened : Talk [userText (options.redact options.userMessage)] := .opened rfl rfl rfl
  have forms : Forms options (toolLoop host options fuel) fun _ => True :=
    rounds_forms fuel opened
  obtain ⟨formed, -⟩ := forms.of_fair fun entry member =>
    ⟨distinct entry member, apart entry member, settled entry member⟩
  intro messages member
  obtain ⟨entry, entered, found⟩ := List.mem_filterMap.mp member
  cases entry with
  | generate request answer =>
    obtain rfl : request.messages = messages := Option.some.inj found
    exact formed _ entered
  | signal _ => cases found
  | event _ => cases found
  | preCompletion _ _ => cases found
  | preTool _ _ => cases found
  | traceTool _ _ => cases found
  | execute _ _ _ => cases found
  | traced _ => cases found
  | postTool _ _ _ => cases found

end Loop

def readTool : ToolSpec where
  name := codeUnits "read"
  description := codeUnits "read"
  schema := []
  execute _ input := ⟨input, .ok (codeUnits "contents")⟩

def readOptions : ToolLoopOptions where
  model := codeUnits "m"
  systemPrompt := codeUnits "s"
  userMessage := codeUnits "go"
  maxTurns := 4
  tools := [readTool]

def readCall : ToolUse := ⟨codeUnits "t1", codeUnits "read", []⟩

def noUsage : ModelUsage := ⟨0, 0, 0, 0⟩

/-- The model reads a file first and ends each later turn. It is asked once to go on. -/
def readHost (first : ModelResponse) : Host where
  generate log _ := match (requests log).length with
    | 0 => .ok first
    | _ => .ok ⟨[.text (codeUnits "done")], noUsage, some "end_turn"⟩
  preCompletion log state := .ok {
    state
    inject := if log.any (fun | .preCompletion .. => true | _ => false) then none
      else some (codeUnits "Run the tests before finishing.") }

theorem requests_wellFormed_read :
    let log := (toolLoop (readHost ⟨[.toolUse readCall], noUsage, some "tool_use"⟩) readOptions
      5).transcript
    (requests log).length = 3 ∧ ∀ messages ∈ requests log, WellFormed messages :=
  ⟨by decide +kernel, requests_wellFormed _ _ _ (by decide +kernel) (by decide +kernel)
    (by decide +kernel)⟩

/-- A response that calls a tool and ends its turn is met by an injection: the call stays without
a result in the next request. -/
theorem not_requests_wellFormed : ¬∀ (host : Host) (options : ToolLoopOptions) (fuel : Nat),
    (∀ entry ∈ (toolLoop host options fuel).transcript, DistinctIds entry) →
    ∀ messages ∈ requests (toolLoop host options fuel).transcript, WellFormed messages := by
  intro all
  have formed := all (readHost ⟨[.toolUse readCall], noUsage, some "end_turn"⟩) readOptions 5
    (by decide +kernel)
  have sent : (requests (toolLoop (readHost ⟨[.toolUse readCall], noUsage, some "end_turn"⟩)
      readOptions 5).transcript)[0]? = some [userText (codeUnits "go"),
        assistantMessage [.toolUse readCall],
        userText (codeUnits "Run the tests before finishing.")] := by rfl
  obtain ⟨-, answered⟩ := (formed _ (List.mem_of_getElem? sent)).answered 1 _ rfl rfl
  obtain ⟨next, found, -, results⟩ := answered (by decide +kernel)
  obtain rfl := Option.some.inj found
  exact absurd results (by decide +kernel)

end Opslane.Agent
