import Mathlib.Data.List.Sort
import Opslane.Agent.Conversation
import Opslane.Harness.JUnit
import Opslane.Lib.Distinct

/-!
# The secret vault

The vault takes its values out of a text one after the other, the longest first. A marker between
brackets stands for each, so what is taken out does not come back, and no value is put together
from what is left. The loop redacts all that it shows, with three ways around it: what a tool
writes into its input object is in the history, a tracer sees what `preTool` wrote into the call,
and an error of the middleware passes through.
-/

namespace Opslane.Agent

/-- The values by their refs, in the order they were set. -/
structure SecretVault where
  values : EntryMap CodeUnits CodeUnits
  nonempty : ∀ value ∈ values.values, value ≠ []

namespace SecretVault

theorem nonempty_set {values : EntryMap CodeUnits CodeUnits} {ref value : CodeUnits}
    (nonempty : ∀ value ∈ values.values, value ≠ []) (some_ : value ≠ []) :
    ∀ other ∈ (values.set ref value).values, other ≠ [] := by
  intro other member
  obtain ⟨key, found⟩ := ((values.set ref value).mem_values other).mp member
  rw [EntryMap.get?_set] at found
  split at found
  · exact Option.some.inj found ▸ some_
  · exact nonempty other ((values.mem_values other).mpr ⟨key, found⟩)

def set (vault : SecretVault) (ref value : CodeUnits) : Except String SecretVault :=
  if Harness.trimUnits ref = [] then .error "Secret ref must not be empty"
  else if some_ : value = [] then .error "Secret value must not be empty"
  else .ok ⟨vault.values.set ref value, nonempty_set vault.nonempty some_⟩

def marker : CodeUnits := codeUnits "[REDACTED]"

/-- The values without repetitions, the longest first. -/
def ordered (vault : SecretVault) : List CodeUnits :=
  (vault.values.values.foldl List.addNew []).insertionSort fun a b => b.length ≤ a.length

/-- `text.split(value).join(marker)` -/
def replace (text value : CodeUnits) : CodeUnits := List.intercalate marker (Scan.split value text)

def redact (vault : SecretVault) (text : CodeUnits) : CodeUnits := vault.ordered.foldl replace text

/-- The text holds none of the values. -/
def Hides (vault : SecretVault) (text : CodeUnits) : Prop :=
  ∀ value ∈ vault.values.values, ¬value <:+: text

/-- The value has no bracket and is no part of the marker's word. -/
structure Plain (value : CodeUnits) : Prop where
  noOpening : codeUnit '[' ∉ value
  noClosing : codeUnit ']' ∉ value
  outside : ¬value <:+: codeUnits "REDACTED"

instance (value : CodeUnits) : Decidable (Plain value) :=
  decidable_of_iff
    (codeUnit '[' ∉ value ∧ codeUnit ']' ∉ value ∧ ¬value <:+: codeUnits "REDACTED")
    ⟨fun ⟨opening, closing, outside⟩ => ⟨opening, closing, outside⟩,
      fun plain => ⟨plain.noOpening, plain.noClosing, plain.outside⟩⟩

instance (vault : SecretVault) : DecidablePred vault.Hides := fun text =>
  inferInstanceAs (Decidable (∀ value ∈ vault.values.values, ¬value <:+: text))

theorem mem_ordered (vault : SecretVault) (value : CodeUnits) :
    value ∈ vault.ordered ↔ value ∈ vault.values.values := by
  rw [ordered, List.mem_insertionSort, List.mem_foldl_addNew]
  simp

theorem not_infix_replace {text value other : CodeUnits} (nonempty : value ≠ []) (plain : Plain other)
    (absent : other = value ∨ ¬other <:+: text) : ¬other <:+: replace text value := by
  intro inside
  have bracketed : marker = codeUnit '[' :: codeUnits "REDACTED" ++ [codeUnit ']'] := by
    decide +kernel
  rw [replace, bracketed] at inside
  rcases Scan.infix_of_infix_intercalate plain.noOpening plain.noClosing inside with
    ⟨piece, member, found⟩ | within
  · obtain ⟨part, without⟩ := Scan.mem_split nonempty member
    rcases absent with rfl | absent
    · exact without found
    · exact absent (found.trans part)
  · exact plain.outside within

theorem not_infix_foldl_replace {values : List CodeUnits} {other : CodeUnits}
    (nonempty : ∀ value ∈ values, value ≠ []) (plain : Plain other) {text : CodeUnits}
    (absent : other ∈ values ∨ ¬other <:+: text) : ¬other <:+: values.foldl replace text := by
  induction values generalizing text with
  | nil => exact absent.resolve_left List.not_mem_nil
  | cons value rest ih =>
    obtain ⟨first, later⟩ := List.forall_mem_cons.mp nonempty
    refine ih later ?_
    rcases absent with member | absent
    · rcases List.mem_cons.mp member with same | member
      · exact .inr (not_infix_replace first plain (.inl same))
      · exact .inl member
    · exact .inr (not_infix_replace first plain (.inr absent))

theorem hides_redact (vault : SecretVault) (plain : ∀ value ∈ vault.values.values, Plain value)
    (text : CodeUnits) : vault.Hides (vault.redact text) := by
  intro value member
  refine not_infix_foldl_replace (fun other ordered => ?_) (plain value member)
    (.inl ((vault.mem_ordered value).mpr member))
  exact vault.nonempty other ((vault.mem_ordered other).mp ordered)

end SecretVault

section Shown

variable (p : CodeUnits → Prop)

mutual

/-- Every string and every key of the value satisfies `p`. -/
def TextsOf : Value → Prop
  | .string text => p text
  | .array items => TextsOfItems items
  | .object members => TextsOfEntries members
  | .null | .bool _ | .number _ => True

def TextsOfItems : List Value → Prop
  | [] => True
  | item :: rest => TextsOf item ∧ TextsOfItems rest

def TextsOfEntries : List (CodeUnits × Value) → Prop
  | [] => True
  | (key, item) :: rest => (p key ∧ TextsOf item) ∧ TextsOfEntries rest

end

mutual

def decidableTextsOf [DecidablePred p] : (value : Value) → Decidable (TextsOf p value)
  | .string text => inferInstanceAs (Decidable (p text))
  | .array items => decidableTextsOfItems items
  | .object members => decidableTextsOfEntries members
  | .null | .bool _ | .number _ => isTrue trivial

def decidableTextsOfItems [DecidablePred p] :
    (items : List Value) → Decidable (TextsOfItems p items)
  | [] => isTrue trivial
  | item :: rest =>
    have := decidableTextsOf item
    have := decidableTextsOfItems rest
    inferInstanceAs (Decidable (_ ∧ _))

def decidableTextsOfEntries [DecidablePred p] :
    (entries : List (CodeUnits × Value)) → Decidable (TextsOfEntries p entries)
  | [] => isTrue trivial
  | (_, item) :: rest =>
    have := decidableTextsOf item
    have := decidableTextsOfEntries rest
    inferInstanceAs (Decidable ((_ ∧ _) ∧ _))

end

instance [DecidablePred p] : DecidablePred (TextsOfEntries p) := decidableTextsOfEntries p

def ToolUse.Texts (call : ToolUse) : Prop := p call.id ∧ p call.name ∧ TextsOfEntries p call.input

def AssistantPart.Texts : AssistantPart → Prop
  | .text content => p content
  | .toolUse call => call.Texts p

def MessagePart.Texts : MessagePart → Prop
  | .text content => p content
  | .toolUse call => call.Texts p
  | .toolResult result => p result.toolUseId ∧ p result.output

def MessagesTexts (messages : List ModelMessage) : Prop :=
  ∀ message ∈ messages, ∀ part ∈ message.content, part.Texts p

def AgentEvent.Texts : AgentEvent → Prop
  | .message content | .injected content => p content
  | .toolCall id name input => p id ∧ p name ∧ TextsOfEntries p input
  | .toolResult id name output _ => p id ∧ p name ∧ p output
  | .turnStart _ | .turnEnd _ _ => True
  | .completed summary => p summary
  | .error code shown => p code ∧ p shown

def AgentCompletionResult.Texts (result : AgentCompletionResult) : Prop :=
  p result.summary ∧ ∀ entry ∈ result.toolHistory, p entry.name ∧ TextsOfEntries p entry.input

/-- An answer, or an error whose text satisfies `p`. -/
def EndsWith {α : Type} (ok : α → Prop) (answer : Except Thrown α) : Prop :=
  answer.Ends (fun thrown => p thrown.text) ok

instance {α : Type} (ok : α → Prop) [DecidablePred p] [DecidablePred ok] :
    DecidablePred (EndsWith p ok)
  | .ok a => inferInstanceAs (Decidable (ok a))
  | .error thrown => inferInstanceAs (Decidable (p thrown.text))

/-- What `preTool` leaves of the call, where a tracer will see it. -/
def PreTool.Texts (traced : Bool) (pre : PreTool) : Prop :=
  traced → p pre.call.name ∧ TextsOfEntries p pre.call.input

/-- What the loop shows to the model, the event handler and the tracer satisfies `p`. -/
def Observation.Shows : Observation → Prop
  | .generate request _ =>
    (∀ block ∈ request.system, p block.text) ∧ MessagesTexts p request.messages
  | .event told => told.Texts p
  | .traceTool name input => p name ∧ TextsOfEntries p input
  | .traced outcome => EndsWith p p outcome
  | .signal _ | .preCompletion .. | .preTool .. | .execute .. | .postTool .. => True

/-- The surroundings do not bring a text in around the redaction: in a tool's input object, in the
call that a tracer will see, or in an error of the middleware. -/
def Observation.Discreet (traced : Bool) : Observation → Prop
  | .execute _ _ ran => TextsOfEntries p ran.left
  | .preTool _ answer => EndsWith p (PreTool.Texts p traced) answer
  | .postTool _ _ answer => EndsWith p (fun _ => True) answer
  | .preCompletion _ answer => EndsWith p (fun _ => True) answer
  | .signal _ | .event _ | .generate .. | .traceTool .. | .traced _ => True

instance (traced : Bool) [DecidablePred p] : DecidablePred (PreTool.Texts p traced) := fun pre =>
  inferInstanceAs (Decidable (traced → p pre.call.name ∧ TextsOfEntries p pre.call.input))

instance (traced : Bool) [DecidablePred p] : DecidablePred (Observation.Discreet p traced)
  | .execute _ _ ran => inferInstanceAs (Decidable (TextsOfEntries p ran.left))
  | .preTool _ answer => inferInstanceAs (Decidable (EndsWith p (PreTool.Texts p traced) answer))
  | .postTool _ _ answer => inferInstanceAs (Decidable (EndsWith p (fun _ => True) answer))
  | .preCompletion _ answer => inferInstanceAs (Decidable (EndsWith p (fun _ => True) answer))
  | .signal _ | .event _ | .generate .. | .traceTool .. | .traced _ => isTrue trivial

end Shown

section Redacted

variable {p : CodeUnits → Prop}

variable {entries : List (CodeUnits × Value)}

theorem textsOfEntries_iff :
    TextsOfEntries p entries ↔ ∀ e ∈ entries, p e.1 ∧ TextsOf p e.2 := by
  induction entries with
  | nil => simp [TextsOfEntries]
  | cons e rest ih => rw [TextsOfEntries, ih, List.forall_mem_cons]

theorem mem_setEntry {fields : Record} {entry e : CodeUnits × Value}
    (member : e ∈ setEntry fields entry) : e ∈ fields ∨ e = entry := by
  unfold setEntry at member
  split at member
  · obtain ⟨field, inside, rfl⟩ := List.mem_map.mp member
    split
    · exact .inr rfl
    · exact .inl inside
  · rcases List.mem_append.mp member with inside | last
    · exact .inl inside
    · exact .inr (List.mem_singleton.mp last)

theorem mem_foldl_setEntry {fields : Record} {e : CodeUnits × Value}
    (member : e ∈ entries.foldl setEntry fields) :
    e ∈ fields ∨ e ∈ entries := by
  induction entries generalizing fields with
  | nil => exact .inl member
  | cons entry rest ih =>
    rcases ih member with before | later
    · rcases mem_setEntry before with old | rfl
      · exact .inl old
      · exact .inr List.mem_cons_self
    · exact .inr (List.mem_cons_of_mem _ later)

theorem textsOfEntries_fromEntries (texts : TextsOfEntries p entries) :
    TextsOfEntries p (fromEntries entries) := by
  rw [textsOfEntries_iff] at texts ⊢
  intro e member
  exact texts e ((mem_foldl_setEntry member).resolve_left List.not_mem_nil)

variable {redact : CodeUnits → CodeUnits}

mutual

theorem textsOf_redactValue (redacts : ∀ text, p (redact text)) :
    ∀ value : Value, TextsOf p (redactValue redact value)
  | .string text => redacts text
  | .array items => textsOf_redactItems redacts items
  | .object members => textsOfEntries_fromEntries (textsOf_redactEntries redacts members)
  | .null | .bool _ | .number _ => trivial

theorem textsOf_redactItems (redacts : ∀ text, p (redact text)) :
    ∀ items : List Value, TextsOfItems p (redactItems redact items)
  | [] => trivial
  | item :: rest => ⟨textsOf_redactValue redacts item, textsOf_redactItems redacts rest⟩

theorem textsOf_redactEntries (redacts : ∀ text, p (redact text)) :
    ∀ entries : List (CodeUnits × Value), TextsOfEntries p (redactEntries redact entries)
  | [] => trivial
  | (key, item) :: rest =>
    ⟨⟨redacts key, textsOf_redactValue redacts item⟩, textsOf_redactEntries redacts rest⟩

end

variable (redacts : ∀ text, p (redact text))

include redacts

theorem textsOf_redactRecord (record : Record) : TextsOfEntries p (redactRecord redact record) :=
  textsOfEntries_fromEntries (textsOf_redactEntries redacts record)

theorem texts_redactAssistantContent (content : List AssistantPart) :
    ∀ part ∈ redactAssistantContent redact content, part.Texts p := by
  intro part member
  obtain ⟨raw, -, rfl⟩ := List.mem_map.mp member
  cases raw with
  | text text => exact redacts text
  | toolUse call => exact ⟨redacts _, redacts _, textsOf_redactRecord redacts _⟩

theorem texts_redactEvent (event : AgentEvent) : (redactEvent redact event).Texts p := by
  cases event with
  | message content => exact redacts content
  | injected content => exact redacts content
  | toolCall id name input => exact ⟨redacts id, redacts name, textsOf_redactRecord redacts input⟩
  | toolResult id name output isError => exact ⟨redacts id, redacts name, redacts output⟩
  | turnStart turnNumber => trivial
  | turnEnd turnNumber tokenUsage => trivial
  | completed summary => exact redacts summary
  | error code message => exact ⟨redacts code, redacts message⟩

theorem texts_toResult (success : Bool) (summary : CodeUnits) (state : AgentState) :
    (toResult redact success summary state).Texts p := by
  refine ⟨redacts summary, fun entry member => ?_⟩
  obtain ⟨raw, -, rfl⟩ := List.mem_map.mp member
  exact ⟨redacts raw.name, textsOf_redactRecord redacts raw.input⟩

end Redacted

section Loop

variable {p : CodeUnits → Prop} {host : Host} {options : ToolLoopOptions}

/-- In discreet surroundings the program shows texts with `p` only, also in what stops it. -/
abbrev Hushes (p : CodeUnits → Prop) (host : Host) {α : Type} (program : Run α) (ok : α → Prop) :
    Prop :=
  program.Meets (Observation.Discreet p host.traceTool.isSome) (Observation.Shows p)
    (fun thrown => p thrown.text) ok

/-- What a tool is left with. -/
def Execution.Texts (p : CodeUnits → Prop) (ran : Execution) : Prop := TextsOfEntries p ran.left

def CallEnd.Texts (p : CodeUnits → Prop) : CallEnd → Prop
  | .answered _ result left => (p result.toolUseId ∧ p result.output) ∧ TextsOfEntries p left
  | .gaveUp result => result.Texts p

def CallsEnd.Texts (p : CodeUnits → Prop) : CallsEnd → Prop
  | .answered _ content results => (∀ part ∈ content, part.Texts p) ∧
    ∀ result ∈ results, p result.toolUseId ∧ p result.output
  | .gaveUp result => result.Texts p

def TurnEnd.Texts (p : CodeUnits → Prop) : TurnEnd → Prop
  | .again conversation => MessagesTexts p conversation.messages
  | .done result => result.Texts p

variable {content : List AssistantPart}

theorem messagesTexts_exchange {messages : List ModelMessage} {reply : ModelMessage}
    (before : MessagesTexts p messages) (parts : ∀ part ∈ content, part.Texts p)
    (answer : ∀ part ∈ reply.content, part.Texts p) :
    MessagesTexts p (messages ++ [assistantMessage content, reply]) := by
  intro message member part inside
  rcases List.mem_append.mp member with old | new
  · exact before message old part inside
  · rcases List.mem_cons.mp new with rfl | last
    · obtain ⟨raw, given, rfl⟩ := List.mem_map.mp inside
      have texts := parts raw given
      cases raw <;> exact texts
    · rw [List.mem_singleton.mp last] at inside
      exact answer part inside

variable (redacts : ∀ text, p (options.redact text))

include redacts

theorem emit_hushes (event : AgentEvent) : Hushes p host (emit options event) fun _ => True :=
  .enter (texts_redactEvent redacts event)

theorem execute_hushes (tool : ToolSpec) (input : Record) :
    Hushes p host (execute options tool input) fun ran =>
      ran.Texts p ∧ EndsWith p p ran.outcome := by
  refine .bind (.ask (Execution.Texts p) fun ran discreet => ⟨trivial, discreet⟩) fun ran texts => ?_
  cases ran.outcome with
  | ok output => exact .pure ⟨texts, redacts output⟩
  | error thrown => exact .pure ⟨texts, redacts thrown.text⟩

theorem follow_hushes (tool : ToolSpec) (tracing : Tracing) {input : Record}
    (texts : TextsOfEntries p input) :
    Hushes p host (follow options tool tracing input) (Execution.Texts p) := by
  induction tracing generalizing input with
  | returns outcome => exact .pure texts
  | executes next ih =>
    refine .bind (execute_hushes redacts tool input) fun ran ran_ => ?_
    exact .bind (.enter ran_.2) fun _ _ => ih ran.outcome ran_.1

theorem callTool_hushes (tool : ToolSpec) {safeCall : ToolCall} {input : Record}
    (shown : host.traceTool.isSome → p safeCall.name ∧ TextsOfEntries p safeCall.input)
    (texts : TextsOfEntries p input) :
    Hushes p host (callTool host options tool safeCall input) (Execution.Texts p) := by
  unfold callTool
  cases traces : host.traceTool with
  | none => exact (execute_hushes redacts tool input).mono fun _ ran => ran.1
  | some traceTool =>
    rw [traces] at shown
    refine .bind (.askAny fun _ => shown rfl) fun tracing _ => ?_
    exact follow_hushes redacts tool tracing texts

theorem answer_hushes (state : AgentState) {call : ToolUse} (name : CodeUnits)
    {output : CodeUnits} (isError : Bool) {left : Record} (id : p call.id) (out : p output)
    (texts : TextsOfEntries p left) :
    Hushes p host (answer options state call name output isError left) (CallEnd.Texts p) :=
  .bind (emit_hushes redacts _) fun _ _ => .pure ⟨⟨id, out⟩, texts⟩

theorem runCall_hushes {call : ToolUse} (texts : call.Texts p) (state : AgentState) :
    Hushes p host (runCall host options call state) (CallEnd.Texts p) := by
  obtain ⟨id, -, input⟩ := texts
  unfold runCall
  dsimp only
  cases toolMap options call.name with
  | none => exact answer_hushes redacts _ _ _ id (redacts _) input
  | some tool =>
    refine .bind (.ask (EndsWith p (PreTool.Texts p host.traceTool.isSome))
      fun answer discreet => ⟨trivial, discreet⟩) fun answer discreet => ?_
    refine .bind (.ofExcept discreet) fun pre shown => ?_
    obtain ⟨safeCall, state, verdict⟩ := pre
    dsimp only at shown ⊢
    split
    · exact answer_hushes redacts _ _ _ id (redacts _) input
    · refine .bind (callTool_hushes redacts tool shown input) fun ran left => ?_
      refine .bind (emit_hushes redacts _) fun _ _ => ?_
      refine .bind (.ask (EndsWith p fun _ => True)
        fun answer discreet => ⟨trivial, discreet⟩) fun answer discreet => ?_
      refine .bind (.ofExcept discreet) fun state _ => ?_
      split
      · refine .bind (emit_hushes redacts _) fun _ _ => .bind (emit_hushes redacts _) fun _ _ => ?_
        exact .pure (texts_toResult redacts _ _ _)
      · exact .pure ⟨⟨id, redacts _⟩, left⟩

theorem runCalls_hushes (parts : ∀ part ∈ content, part.Texts p) (state : AgentState) :
    Hushes p host (runCalls host options content state) (CallsEnd.Texts p) := by
  induction content generalizing state with
  | nil => exact .pure ⟨List.forall_mem_nil _, List.forall_mem_nil _⟩
  | cons part rest ih =>
    obtain ⟨first, later⟩ := List.forall_mem_cons.mp parts
    cases part with
    | text t =>
      refine .bind (ih later state) fun ended texts => ?_
      cases ended with
      | gaveUp result => exact .pure texts
      | answered state content results =>
        exact .pure ⟨List.forall_mem_cons.mpr ⟨first, texts.1⟩, texts.2⟩
    | toolUse call =>
      refine .bind (runCall_hushes redacts first state) fun ended own => ?_
      cases ended with
      | gaveUp result => exact .pure own
      | answered state result left =>
        refine .bind (ih later state) fun ended texts => ?_
        cases ended with
        | gaveUp result => exact .pure texts
        | answered state content results =>
          have kept : AssistantPart.Texts p (.toolUse { call with input := left }) :=
            ⟨first.1, first.2.1, own.2⟩
          exact .pure ⟨List.forall_mem_cons.mpr ⟨kept, texts.1⟩,
            List.forall_mem_cons.mpr ⟨own.1, texts.2⟩⟩

theorem announce_hushes (content : List AssistantPart) (lastAssistantText : CodeUnits) :
    Hushes p host (announce options content lastAssistantText) fun _ => True := by
  induction content generalizing lastAssistantText with
  | nil => exact .pure trivial
  | cons part rest ih =>
    cases part with
    | text t => exact .bind (emit_hushes redacts _) fun _ _ => ih t
    | toolUse call => exact .bind (emit_hushes redacts _) fun _ _ => ih lastAssistantText

variable {conversation : Conversation}

theorem complete_hushes (texts : MessagesTexts p conversation.messages)
    (parts : ∀ part ∈ content, part.Texts p) :
    Hushes p host (complete host options conversation content) (TurnEnd.Texts p) := by
  refine .bind (.ask (EndsWith p fun _ => True)
    fun answer discreet => ⟨trivial, discreet⟩) fun answer discreet => ?_
  refine .bind (.ofExcept discreet) fun check _ => ?_
  obtain ⟨state, inject⟩ := check
  dsimp only
  split
  · rename_i injected _
    refine .bind (emit_hushes redacts _) fun _ _ => .bind (emit_hushes redacts _) fun _ _ => ?_
    refine .pure (messagesTexts_exchange texts parts fun part member => ?_)
    obtain rfl := List.mem_singleton.mp member
    exact redacts injected
  · refine .bind (emit_hushes redacts _) fun _ _ => .bind (emit_hushes redacts _) fun _ _ => ?_
    exact .pure (texts_toResult redacts _ _ _)

theorem callTools_hushes (texts : MessagesTexts p conversation.messages)
    (parts : ∀ part ∈ content, part.Texts p) :
    Hushes p host (callTools host options conversation content) (TurnEnd.Texts p) := by
  refine .bind (runCalls_hushes redacts parts conversation.state) fun ended own => ?_
  cases ended with
  | gaveUp result => exact .pure own
  | answered state left results =>
    refine .bind (emit_hushes redacts _) fun _ _ => .pure ?_
    refine messagesTexts_exchange texts own.1 fun part member => ?_
    obtain ⟨result, given, rfl⟩ := List.mem_map.mp member
    exact own.2 result given

theorem respond_hushes (texts : MessagesTexts p conversation.messages) (response : ModelResponse) :
    Hushes p host (respond host options conversation response) (TurnEnd.Texts p) := by
  refine .bind (announce_hushes redacts _ _) fun lastAssistantText _ => ?_
  have parts := texts_redactAssistantContent redacts response.content
  dsimp only
  split
  · refine complete_hushes redacts ?_ parts
    exact texts
  · refine callTools_hushes redacts ?_ parts
    exact texts

theorem turn_hushes (texts : MessagesTexts p conversation.messages) :
    Hushes p host (turn host options conversation) (TurnEnd.Texts p) := by
  have system : ∀ block ∈ (request options conversation.messages).system, p block.text := by
    intro block member
    obtain rfl := List.mem_singleton.mp member
    exact redacts options.systemPrompt
  refine .bind (emit_hushes redacts _) fun _ _ => .bind (.askAny fun _ => trivial) fun aborted _ => ?_
  split
  · exact .bind (emit_hushes redacts _) fun _ _ => .pure (texts_toResult redacts _ _ _)
  · refine .bind (.askAny fun _ => ⟨system, texts⟩) fun answer _ => ?_
    cases answer with
    | error thrown =>
      exact .bind (emit_hushes redacts _) fun _ _ => .pure (texts_toResult redacts _ _ _)
    | ok response =>
      dsimp only
      split
      · exact .bind (emit_hushes redacts _) fun _ _ => .pure (texts_toResult redacts _ _ _)
      · refine respond_hushes redacts ?_ response
        exact texts

theorem rounds_hushes (fuel : Nat) (texts : MessagesTexts p conversation.messages) :
    Hushes p host (rounds host options fuel conversation) fun result =>
      ∀ completed ∈ result, completed.Texts p := by
  induction fuel generalizing conversation with
  | zero => exact .pure fun _ none_ => nomatch none_
  | succ fuel ih =>
    rw [rounds]
    split
    · refine .bind (turn_hushes redacts texts) fun ended own => ?_
      cases ended with
      | again next => exact ih own
      | done result =>
        refine .pure fun completed same => ?_
        obtain rfl := Option.some.inj same
        exact own
    · refine .bind (emit_hushes redacts _) fun _ _ => .pure fun completed same => ?_
      obtain rfl := Option.some.inj same
      exact texts_toResult redacts _ _ _

end Loop

/-- In a run whose tools, middleware and tracer are discreet, no value of the vault is shown to
the model, the event handler, the tracer or the caller. -/
theorem toolLoop_hides (host : Host) (options : ToolLoopOptions) (vault : SecretVault) (fuel : Nat)
    (redacts : options.redact = vault.redact)
    (plain : ∀ value ∈ vault.values.values, SecretVault.Plain value)
    (discreet : ∀ entry ∈ (toolLoop host options fuel).transcript,
      entry.Discreet vault.Hides host.traceTool.isSome) :
    (∀ entry ∈ (toolLoop host options fuel).transcript, entry.Shows vault.Hides) ∧
      EndsWith vault.Hides (fun result => ∀ completed ∈ result, completed.Texts vault.Hides)
        (toolLoop host options fuel).outcome := by
  have hides : ∀ text, vault.Hides (options.redact text) := by
    intro text
    rw [redacts]
    exact vault.hides_redact plain text
  have opening : MessagesTexts vault.Hides [userText (options.redact options.userMessage)] := by
    intro message member part inside
    obtain rfl := List.mem_singleton.mp member
    obtain rfl := List.mem_singleton.mp inside
    exact hides options.userMessage
  have hushes : Hushes vault.Hides host (toolLoop host options fuel) fun result =>
      ∀ completed ∈ result, completed.Texts vault.Hides := rounds_hushes hides fuel opening
  exact hushes.of_fair discreet

def key : CodeUnits := codeUnits "sk-1"

def keyVault : SecretVault where
  values := EntryMap.set Table.empty (codeUnits "api") key
  nonempty := SecretVault.nonempty_set (fun _ member => absurd member List.not_mem_nil)
    (by decide +kernel)

/-- The tool leaves `left` in its input and shows the key. -/
def keyTool (left : Record) : ToolSpec where
  name := codeUnits "read"
  description := codeUnits "read"
  schema := []
  execute _ _ := ⟨left, .ok key⟩

def keyOptions (left : Record) : ToolLoopOptions where
  model := codeUnits "m"
  systemPrompt := codeUnits "do not say " ++ key
  userMessage := key
  maxTurns := 2
  tools := [keyTool left]
  redact := keyVault.redact

/-- The model calls the tool with the key, and then says it. -/
def keyHost : Host where
  generate log _ := match (requests log).length with
    | 0 => .ok ⟨[.toolUse ⟨codeUnits "t1", codeUnits "read", [(key, .string key)]⟩], noUsage,
        some "tool_use"⟩
    | _ => .ok ⟨[.text key], noUsage, some "end_turn"⟩
  traceTool := some fun _ _ _ => .executes .returns

theorem toolLoop_hides_key :
    let run := toolLoop keyHost (keyOptions []) 3
    (requests run.transcript).length = 2 ∧
      (∀ entry ∈ run.transcript, entry.Shows keyVault.Hides) ∧
      EndsWith keyVault.Hides (fun result => ∀ completed ∈ result, completed.Texts keyVault.Hides)
        run.outcome :=
  ⟨by decide +kernel, toolLoop_hides _ _ _ _ rfl (by decide +kernel) (by decide +kernel)⟩

/-- The entry is a request with the key in the input of a tool call. -/
def sendsKey : Observation → Bool
  | .generate request _ => request.messages.any fun message => message.content.any fun
    | .toolUse call => call.input.any fun
      | (_, .string text) => text = key
      | _ => false
    | _ => false
  | _ => false

/-- A tool that writes the key into its input object writes it into the next request. -/
theorem not_toolLoop_hides : ¬∀ (host : Host) (options : ToolLoopOptions) (vault : SecretVault)
    (fuel : Nat), options.redact = vault.redact →
    (∀ value ∈ vault.values.values, SecretVault.Plain value) →
    ∀ entry ∈ (toolLoop host options fuel).transcript, entry.Shows vault.Hides := by
  intro all
  have shows := all keyHost (keyOptions [(codeUnits "value", .string key)]) keyVault 3 rfl
    (by decide +kernel)
  have written : (toolLoop keyHost (keyOptions [(codeUnits "value", .string key)]) 3).transcript.any
      sendsKey = true := by decide +kernel
  obtain ⟨entry, entered, found⟩ := List.any_eq_true.mp written
  cases entry with
  | generate request answer =>
    dsimp only [sendsKey] at found
    obtain ⟨message, sent, found⟩ := List.any_eq_true.mp found
    obtain ⟨part, inside, found⟩ := List.any_eq_true.mp found
    cases part with
    | toolUse call =>
      obtain ⟨⟨name, value⟩, field, found⟩ := List.any_eq_true.mp found
      cases value with
      | string text =>
        obtain rfl : text = key := of_decide_eq_true found
        obtain ⟨-, -, input⟩ := (shows _ entered).2 message sent _ inside
        have hidden : keyVault.Hides key := (textsOfEntries_iff.mp input _ field).2
        exact absurd hidden (by decide +kernel)
      | _ => cases found
    | _ => cases found
  | _ => cases found

end Opslane.Agent
