import Mathlib.Algebra.Order.Field.Rat
import Opslane.Lib.JsonReader

/-!
# Transcripts of agent runs

`SdkStreamTranscriber` takes the messages of a run one by one and gives events as soon as it can.
`batch` reads a whole stream: what belongs to one response is one run of frames.
-/

namespace Opslane.AgentRuns

/-- A value of the SDK; a number that is not finite is `none`. -/
abbrev Value := JsonTree String (Option ℚ)

structure RunUsage where
  input : ℚ
  output : ℚ
  cacheRead : ℚ
  cacheWrite : ℚ
  thinking : Option ℚ

inductive ContentBlock where
  | text (text : String)
  | toolUse (id name : String) (input : Value)
  | thinking (text : String) (redacted : Bool)

inductive LoggedEvent where
  | response (model : String) (content : List ContentBlock) (stopReason : Option String)
    (usage : RunUsage) (messageID : String) (requestID : Option String)
  | toolCall (id name : String) (input : Value)
  | toolResult (id name output : String) (isError : Bool)
  | sdkMessage (message : Value)

/-- The fields of `record(value)`. -/
def record : Option Value → List (String × Value)
  | some (.object members) => members
  | _ => []

def get (fields : List (String × Value)) (name : String) : Option Value :=
  (fields.find? fun m => m.1 = name).map Prod.snd

def string? : Option Value → Option String
  | some (.string s) => some s
  | _ => none

def num : Option Value → ℚ
  | some (.number (some x)) => max 0 x
  | _ => 0

def usageFromProvider (raw : Option Value) : RunUsage where
  input := num (get (record raw) "input_tokens")
  output := num (get (record raw) "output_tokens")
  cacheRead := num (get (record raw) "cache_read_input_tokens")
  cacheWrite := num (get (record raw) "cache_creation_input_tokens")
  thinking :=
    match get (record (get (record raw) "output_tokens_details")) "thinking_tokens" with
    | some (.number n) => some (num (some (.number n)))
    | _ => none

section Reading

-- `String` of a value.
variable (String_ : Value → String)

/-- `String(value ?? '')` -/
def textOf : Option Value → String
  | none | some .null => ""
  | some v => String_ v

def contentBlock (raw : Value) : List ContentBlock :=
  let block := record (some raw)
  match string? (get block "type") with
  | some "text" => [.text (textOf String_ (get block "text"))]
  | some "tool_use" =>
    let input := match get block "input" with
      | none | some .null => .object []
      | some v => v
    [.toolUse (textOf String_ (get block "id")) (textOf String_ (get block "name")) input]
  | some "thinking" =>
    let text := (string? (get block "thinking")).getD ""
    [.thinking text (text = "")]
  | some "redacted_thinking" => [.thinking "" true]
  | _ => []

def contentBlocks : Option Value → List ContentBlock
  | some (.array items) => items.flatMap (contentBlock String_)
  | _ => []

def toolResultText : Option Value → String
  | some (.string s) => s
  | some (.array parts) => String.join (parts.map fun part => textOf String_ (get (record (some part)) "text"))
  | _ => ""

end Reading

/-- `Math.max(a.thinking ?? -1, b.thinking ?? -1)`, kept where it is not negative. -/
def maxThinking (a b : Option ℚ) : Option ℚ :=
  let thinking := max (a.getD (-1)) (b.getD (-1))
  if 0 ≤ thinking then some thinking else none

def maxUsage (a b : RunUsage) : RunUsage where
  input := max a.input b.input
  output := max a.output b.output
  cacheRead := max a.cacheRead b.cacheRead
  cacheWrite := max a.cacheWrite b.cacheWrite
  thinking := maxThinking a.thinking b.thinking

structure PendingResponse where
  messageID : String
  model : String
  content : List ContentBlock
  stopReason : Option String
  usage : RunUsage
  requestID : Option String

structure Transcriber where
  pending : Option PendingResponse
  held : List LoggedEvent
  toolNames : List (String × String)

def toolCalls (content : List ContentBlock) : List LoggedEvent :=
  content.flatMap fun
    | .toolUse id name input => [.toolCall id name input]
    | _ => []

def asksForTools (content : List ContentBlock) : Bool :=
  content.any fun
    | .toolUse .. => true
    | _ => false

def PendingResponse.emitted (p : PendingResponse) (followedByResponse : Bool) : List LoggedEvent :=
  .response p.model p.content
    (p.stopReason.or (if followedByResponse && asksForTools p.content then some "tool_use" else none))
    p.usage p.messageID p.requestID :: toolCalls p.content

def Transcriber.emit (t : Transcriber) (followedByResponse : Bool) : List LoggedEvent × Transcriber :=
  ((t.pending.elim [] fun p => p.emitted followedByResponse) ++ t.held, ⟨none, [], t.toolNames⟩)

def kind (message : Value) : Option String := string? (get (record (some message)) "type")

def inner (message : Value) : List (String × Value) :=
  record (get (record (some message)) "message")

section Transcribing

variable (String_ : Value → String)

def frameID (message : Value) : String := textOf String_ (get (inner message) "id")

def PendingResponse.start (message : Value) : PendingResponse where
  messageID := frameID String_ message
  model := textOf String_ (get (inner message) "model")
  content := []
  stopReason := none
  usage := ⟨0, 0, 0, 0, none⟩
  requestID := none

def blocksOf (message : Value) : List ContentBlock := contentBlocks String_ (get (inner message) "content")

/-- The stop reason a frame states. -/
def statedStop (message : Value) : Option String :=
  (string? (get (inner message) "stop_reason")).or
    (if string? (get (record (some message)) "error") = some "max_output_tokens" then some "max_tokens"
    else none)

def PendingResponse.add (p : PendingResponse) (message : Value) : PendingResponse :=
  { p with
    content := p.content ++ blocksOf String_ message
    stopReason := (statedStop message).or p.stopReason
    usage := maxUsage p.usage (usageFromProvider (get (inner message) "usage"))
    requestID := p.requestID.or (string? (get (record (some message)) "request_id")) }

/-- `toolNames` after a frame; the latest entry of an id counts. -/
def named (toolNames : List (String × String)) (message : Value) : List (String × String) :=
  (blocksOf String_ message).foldl (fun names block =>
    match block with
    | .toolUse id name _ => (id, name) :: names
    | _ => names) toolNames

def nameOf (toolNames : List (String × String)) (id : String) : String :=
  ((toolNames.find? fun entry => entry.1 = id).map Prod.snd).getD ""

/-- The events of a message that is no frame and no result. -/
def notices (toolNames : List (String × String)) (message : Value) : List LoggedEvent :=
  if kind message = some "user" then
    match get (inner message) "content" with
    | some (.array items) => items.flatMap fun raw =>
      let block := record (some raw)
      if string? (get block "type") = some "tool_result" then
        let id := textOf String_ (get block "tool_use_id")
        [.toolResult id (nameOf toolNames id) (toolResultText String_ (get block "content"))
          (match get block "is_error" with
          | some (.bool true) => true
          | _ => false)]
      else []
    | _ => []
  else [.sdkMessage message]

def Transcriber.push (t : Transcriber) (message : Value) : List LoggedEvent × Transcriber :=
  if kind message = some "assistant" then
    let other := t.pending.any fun p => p.messageID ≠ frameID String_ message
    let (out, t) := if other then t.emit true else ([], t)
    let p := t.pending.getD (.start String_ message)
    (out, { t with pending := some (p.add String_ message), toolNames := named String_ t.toolNames message })
  else if kind message = some "result" then
    let stopped := t.pending.map fun p =>
      { p with stopReason := p.stopReason.or (string? (get (record (some message)) "stop_reason")) }
    let (out, t) := { t with pending := stopped }.emit false
    (out ++ [.sdkMessage message], t)
  else
    let events := notices String_ t.toolNames message
    if t.pending.isSome then ([], { t with held := t.held ++ events }) else (events, t)

/-- All that the pushes of a stream and a last flush give. -/
def transcribe (t : Transcriber) : List Value → List LoggedEvent
  | [] => (t.emit false).1
  | m :: rest => (t.push String_ m).1 ++ transcribe (t.push String_ m).2 rest

/-- Whether a message leaves the run of frames of an id open. -/
def inRun (id : String) (message : Value) : Bool :=
  kind message ≠ some "result" && (kind message ≠ some "assistant" || frameID String_ message = id)

def framesOf (run : List Value) : List Value := run.filter fun m => kind m = some "assistant"

def usageOf (frames : List Value) : RunUsage :=
  let usages := frames.map fun m => usageFromProvider (get (inner m) "usage")
  { input := (usages.map RunUsage.input).foldl max 0
    output := (usages.map RunUsage.output).foldl max 0
    cacheRead := (usages.map RunUsage.cacheRead).foldl max 0
    cacheWrite := (usages.map RunUsage.cacheWrite).foldl max 0
    thinking := (usages.filterMap RunUsage.thinking).max? }

/-- The stop reason of a run is the last that its frames state; else that of the result behind it,
or that another response follows and tools were asked for. -/
def stopOf (frames : List Value) (next : Option Value) : Option String :=
  (frames.filterMap statedStop).getLast?.or <| next.bind fun m =>
    if kind m = some "result" then string? (get (record (some m)) "stop_reason")
    else if asksForTools (frames.flatMap (blocksOf String_)) then some "tool_use" else none

/-- The response of a run and the calls it makes; `next` is the message behind the run. -/
def responseOf (first : Value) (frames : List Value) (next : Option Value) : List LoggedEvent :=
  .response (textOf String_ (get (inner first) "model")) (frames.flatMap (blocksOf String_))
    (stopOf String_ frames next) (usageOf frames) (frameID String_ first)
    (frames.findSome? fun m => string? (get (record (some m)) "request_id")) ::
    toolCalls (frames.flatMap (blocksOf String_))

def namesAfter (names : List (String × String)) (run : List Value) : List (String × String) :=
  (framesOf run).foldl (named String_) names

/-- The notices and tool results within a run, in order. -/
def noticesWithin : List (String × String) → List Value → List LoggedEvent
  | _, [] => []
  | names, m :: rest =>
    if kind m = some "assistant" then noticesWithin (named String_ names m) rest
    else notices String_ names m ++ noticesWithin names rest

def batch (names : List (String × String)) : List Value → List LoggedEvent
  | [] => []
  | m :: rest =>
    if kind m = some "assistant" then
      let run := m :: rest.takeWhile (inRun String_ (frameID String_ m))
      let behind := rest.dropWhile (inRun String_ (frameID String_ m))
      responseOf String_ m (framesOf run) behind.head? ++ noticesWithin String_ names run ++
        batch (namesAfter String_ names run) behind
    else notices String_ names m ++ batch names rest
  termination_by stream => stream.length
  decreasing_by
    · exact Nat.lt_succ_of_le (List.dropWhile_sublist _).length_le
    · exact Nat.lt_succ_self _

variable {String_}

theorem foldl_maxThinking (thinking : List (Option ℚ)) {o : Option ℚ} (known : ∀ x ∈ o, 0 ≤ x)
    (positive : ∀ t ∈ thinking, ∀ x ∈ t, 0 ≤ x) :
    thinking.foldl maxThinking o = (o.toList ++ thinking.filterMap id).max? := by
  induction thinking generalizing o with
  | nil => cases o <;> simp
  | cons t rest ih =>
    have later := fun t member => positive t (.tail _ member)
    have lower {x : ℚ} (nonneg : 0 ≤ x) : max (-1) x = x ∧ max x (-1) = x :=
      have below : (-1 : ℚ) ≤ x := le_trans (by decide) nonneg
      ⟨max_eq_right below, max_eq_left below⟩
    rw [List.foldl_cons]
    cases t with
    | none =>
      have same : maxThinking o none = o := by
        cases o with
        | none => simp [maxThinking]
        | some x => simp [maxThinking, (lower (known x rfl)).2, known x rfl]
      rw [same, ih known later]
      rfl
    | some y =>
      have nonneg := positive (some y) (.head _) y rfl
      cases o with
      | none =>
        have same : maxThinking none (some y) = some y := by simp [maxThinking, (lower nonneg).1, nonneg]
        rw [same, ih (by rintro _ ⟨⟩; exact nonneg) later]
        rfl
      | some x =>
        have same : maxThinking (some x) (some y) = some (max x y) := by simp [maxThinking, nonneg]
        rw [same, ih (by rintro _ ⟨⟩; exact nonneg.trans (le_max_right x y)) later]
        rfl

theorem foldl_add (p : PendingResponse) (frames : List Value) :
    frames.foldl (PendingResponse.add String_) p =
      { p with
        content := p.content ++ frames.flatMap (blocksOf String_)
        stopReason := (frames.filterMap statedStop).getLast?.or p.stopReason
        usage := (frames.map fun m => usageFromProvider (get (inner m) "usage")).foldl maxUsage p.usage
        requestID := p.requestID.or
          (frames.findSome? fun m => string? (get (record (some m)) "request_id")) } := by
  induction frames generalizing p with
  | nil => simp
  | cons m rest ih =>
    rw [List.foldl_cons, ih]
    cases stated : statedStop m <;>
      cases asked : string? (get (record (some m)) "request_id") <;>
      simp [PendingResponse.add, stated, asked, List.getLast?_cons]

theorem foldl_maxUsage (usages : List RunUsage) (u : RunUsage) :
    usages.foldl maxUsage u =
      ⟨(usages.map RunUsage.input).foldl max u.input, (usages.map RunUsage.output).foldl max u.output,
        (usages.map RunUsage.cacheRead).foldl max u.cacheRead,
        (usages.map RunUsage.cacheWrite).foldl max u.cacheWrite,
        (usages.map RunUsage.thinking).foldl maxThinking u.thinking⟩ := by
  induction usages generalizing u with
  | nil => rfl
  | cons v rest ih => rw [List.foldl_cons, ih]; rfl

/-- What is given for a pending response and the message behind its run. -/
def PendingResponse.closedBy (p : PendingResponse) : Option Value → List LoggedEvent
  | none => p.emitted false
  | some m =>
    if kind m = some "result" then
      { p with stopReason := p.stopReason.or (string? (get (record (some m)) "stop_reason")) }.emitted false
    else p.emitted true

theorem num_nonneg (v : Option Value) : 0 ≤ num v := by
  unfold num
  split
  · exact le_max_left _ _
  · exact le_refl _

theorem thinking_nonneg (raw : Option Value) : ∀ x ∈ (usageFromProvider raw).thinking, 0 ≤ x := by
  intro x stated
  unfold usageFromProvider at stated
  dsimp only at stated
  split at stated
  · cases stated
    exact num_nonneg _
  · cases stated

theorem closedBy_eq (m : Value) (frames : List Value) (next : Option Value) :
    (frames.foldl (PendingResponse.add String_) (.start String_ m)).closedBy next =
      responseOf String_ m frames next := by
  have positive : ∀ t ∈ (frames.map fun m => usageFromProvider (get (inner m) "usage")).map
      RunUsage.thinking, ∀ x ∈ t, 0 ≤ x := by
    simp only [List.map_map, List.forall_mem_map]
    exact fun m _ => thinking_nonneg _
  have thinking := foldl_maxThinking _ (o := none) nofun positive
  rw [foldl_add, foldl_maxUsage]
  simp only [PendingResponse.start, List.nil_append, Option.or_none, Option.none_or, thinking]
  cases next with
  | none => simp [PendingResponse.closedBy, PendingResponse.emitted, responseOf, stopOf, usageOf]
  | some m' =>
    by_cases result : kind m' = some "result"
    · simp [PendingResponse.closedBy, PendingResponse.emitted, responseOf, stopOf, usageOf, result]
    · simp [PendingResponse.closedBy, PendingResponse.emitted, responseOf, stopOf, usageOf, result]

theorem transcribe_pending (p : PendingResponse) (held : List LoggedEvent)
    (names : List (String × String)) (stream : List Value) :
    transcribe String_ ⟨some p, held, names⟩ stream =
      let run := stream.takeWhile (inRun String_ p.messageID)
      let behind := stream.dropWhile (inRun String_ p.messageID)
      ((framesOf run).foldl (PendingResponse.add String_) p).closedBy behind.head? ++
        (held ++ noticesWithin String_ names run) ++
        transcribe String_ ⟨none, [], namesAfter String_ names run⟩ behind := by
  induction stream generalizing p held names with
  | nil => simp [transcribe, Transcriber.emit, framesOf, noticesWithin, PendingResponse.closedBy]
  | cons m rest ih =>
    by_cases frame : kind m = some "assistant"
    · by_cases same : frameID String_ m = p.messageID
      · have inside : inRun String_ p.messageID m = true := by simp [inRun, frame, same]
        have pushed : Transcriber.push String_ ⟨some p, held, names⟩ m =
            ([], ⟨some (p.add String_ m), held, named String_ names m⟩) := by
          simp [Transcriber.push, frame, same]
        rw [transcribe, pushed, ih, List.takeWhile_cons_of_pos inside, List.dropWhile_cons_of_pos inside]
        simp [framesOf, frame, noticesWithin, namesAfter, PendingResponse.add]
      · have outside : ¬inRun String_ p.messageID m = true := by simp [inRun, frame, same]
        have pushed : Transcriber.push String_ ⟨some p, held, names⟩ m =
            (p.emitted true ++ held, (Transcriber.push String_ ⟨none, [], names⟩ m).2) := by
          simp [Transcriber.push, Transcriber.emit, frame, Ne.symm same]
        have fresh : (Transcriber.push String_ ⟨none, [], names⟩ m).1 = [] := by
          simp [Transcriber.push, frame]
        rw [transcribe, pushed, List.takeWhile_cons_of_neg outside, List.dropWhile_cons_of_neg outside]
        simp [transcribe, fresh, framesOf, noticesWithin, namesAfter, PendingResponse.closedBy, frame]
    · by_cases result : kind m = some "result"
      · have outside : ¬inRun String_ p.messageID m = true := by simp [inRun, result]
        rw [transcribe, List.takeWhile_cons_of_neg outside, List.dropWhile_cons_of_neg outside]
        simp [transcribe, Transcriber.push, Transcriber.emit, framesOf, noticesWithin, namesAfter,
          PendingResponse.closedBy, result]
      · have inside : inRun String_ p.messageID m = true := by simp [inRun, frame, result]
        have pushed : Transcriber.push String_ ⟨some p, held, names⟩ m =
            ([], ⟨some p, held ++ notices String_ names m, names⟩) := by
          simp [Transcriber.push, frame, result]
        rw [transcribe, pushed, ih, List.takeWhile_cons_of_pos inside, List.dropWhile_cons_of_pos inside]
        simp [framesOf, frame, noticesWithin, namesAfter]

/-- Pushed one by one and flushed, a stream gives what its runs give. -/
theorem transcribe_eq_batch (String_ : Value → String) (names : List (String × String))
    (stream : List Value) :
    transcribe String_ ⟨none, [], names⟩ stream = batch String_ names stream := by
  fun_induction batch String_ names stream with
  | case1 names => simp [transcribe, Transcriber.emit]
  | case2 names m rest frame run behind ih =>
    have pushed : Transcriber.push String_ ⟨none, [], names⟩ m =
        ([], ⟨some ((PendingResponse.start String_ m).add String_ m), [], named String_ names m⟩) := by
      simp [Transcriber.push, frame]
    have id : ((PendingResponse.start String_ m).add String_ m).messageID = frameID String_ m := rfl
    rw [transcribe, pushed, transcribe_pending, id, ← closedBy_eq]
    simp [run, behind, framesOf, frame, noticesWithin, namesAfter] at ih ⊢
    exact ih
  | case3 names m rest other ih =>
    rw [← ih, transcribe]
    by_cases result : kind m = some "result"
    · simp [Transcriber.push, Transcriber.emit, notices, result]
    · simp [Transcriber.push, other, result]

def rateLimit : Value := .object [("type", .string "rate_limit_event")]

/-- A message of any other kind is passed on too. -/
theorem not_sdkMessages : ¬∀ (String_ : Value → String) (stream : List Value) (m : Value),
    .sdkMessage m ∈ transcribe String_ ⟨none, [], []⟩ stream →
      kind m = some "system" ∨ kind m = some "result" := by
  intro only
  have listed := only (fun _ => "") [rateLimit] rateLimit (.head _)
  revert listed
  decide

end Transcribing

end Opslane.AgentRuns
