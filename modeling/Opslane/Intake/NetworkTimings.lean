import Mathlib.Data.Rat.Floor
import Opslane.Masking.RequestUrl

/-!
# Network timings at the intake

Timing data is advisory: an entry that fails a check is dropped and counted, and the event
is stored without it. What is kept has its URL masked and its times rounded.
-/

namespace Opslane.Intake

def maxNetworkTimings : Nat := 20
def maxTimingURLBytes : Nat := 2048
def maxTimingElapsedMs : Rat := 600000

/-- What `json.Unmarshal` finds for a field of a message. -/
inductive Field (α : Type) where
  | missing
  | null
  | mismatched
  | value (a : α)
  deriving DecidableEq

/-- A string field stays empty when it is missing or null; a wrong type is an error. -/
def Field.orEmpty : Field Bytes → Option Bytes
  | .missing | .null => some []
  | .mismatched => none
  | .value s => some s

/-- A pointer field stays nil when it is missing or null. -/
def Field.pointer {α : Type} : Field α → Option (Option α)
  | .missing | .null => some none
  | .mismatched => none
  | .value a => some (some a)

/-- An entry as it arrives. -/
structure TimingMessage where
  transport : Field Bytes
  method : Field Bytes
  url : Field Bytes
  startedAtMs : Field Rat
  durationMs : Field Rat
  ttfbMs : Field Rat
  outcome : Field Bytes
  status : Field Int
  deriving DecidableEq

structure ValidatedNetworkTiming where
  transport : Bytes
  method : Bytes
  url : Bytes
  startedAtMs : Option Rat
  durationMs : Option Rat
  ttfbMs : Option Rat
  outcome : Bytes
  status : Option Int
  deriving DecidableEq

inductive TimingDiscard where
  | malformedContainer | overLimit | nonObjectEntry | badTransport | badMethod | badURL | badOutcome
  | badStartedAt | badDuration | badTTFB | badStatus
  deriving DecidableEq

def timingMethodBytes : Bytes := Bytes.ascii "ABCDEFGHIJKLMNOPQRSTUVWXYZ0123456789!#$%&'*+.^_`|~-"

def validTransports : List Bytes := ["fetch", "xhr"].map Bytes.ascii

def validTimingOutcome : List Bytes :=
  ["ok", "http_error", "timeout", "abort", "network_error", "in_flight"].map Bytes.ascii

/-- `strings.ToUpper`, as far as a method can pass the check behind it: two characters outside
ASCII have an upper case inside it. -/
def toUpper : Bytes → Bytes
  | 0xc4 :: 0xb1 :: rest => Masking.byte 'I' :: toUpper rest
  | 0xc5 :: 0xbf :: rest => Masking.byte 'S' :: toUpper rest
  | b :: rest => (if Masking.isLowerLetter b then b - 0x20 else b) :: toUpper rest
  | [] => []

def validTimingMethod (value : Bytes) : Bool :=
  value.length ≠ 0 && value.length ≤ 16 && value.all fun b => b ∈ timingMethodBytes

def validTimingURL (value : Bytes) : Bool :=
  value.length ≠ 0 && value.length ≤ maxTimingURLBytes && !value.any Bytes.isControl

/-- A JSON number is neither infinite nor NaN. -/
def validElapsed (value : Rat) : Bool := 0 ≤ value && value ≤ maxTimingElapsedMs

/-- `math.Round`: halves go away from zero. -/
def round (value : Rat) : Rat :=
  if 0 ≤ value then (⌊value + 1 / 2⌋ : Int) else (⌈value - 1 / 2⌉ : Int)

/-- `json.Unmarshal` into the candidate. -/
def TimingMessage.unmarshal (m : TimingMessage) : Option ValidatedNetworkTiming := do
  let transport ← m.transport.orEmpty
  let method ← m.method.orEmpty
  let url ← m.url.orEmpty
  let startedAtMs ← m.startedAtMs.pointer
  let durationMs ← m.durationMs.pointer
  let ttfbMs ← m.ttfbMs.pointer
  let outcome ← m.outcome.orEmpty
  let status ← m.status.pointer
  return { transport, method, url, startedAtMs, durationMs, ttfbMs, outcome, status }

def rounded (candidate : ValidatedNetworkTiming) : ValidatedNetworkTiming :=
  { candidate with
    startedAtMs := candidate.startedAtMs.map round
    durationMs := candidate.durationMs.map round
    ttfbMs := candidate.ttfbMs.map round }

/-- The checks on a decoded candidate, in their order. -/
def checkTiming (candidate : ValidatedNetworkTiming) : Except TimingDiscard ValidatedNetworkTiming :=
  if candidate.transport ∉ validTransports then .error .badTransport
  else
    let candidate := { candidate with method := toUpper candidate.method }
    if !validTimingMethod candidate.method then .error .badMethod
    else if !validTimingURL candidate.url then .error .badURL
    else if candidate.outcome ∉ validTimingOutcome then .error .badOutcome
    else if !candidate.startedAtMs.any (0 ≤ ·) then .error .badStartedAt
    else if !candidate.durationMs.any validElapsed then .error .badDuration
    else if !candidate.ttfbMs.all validElapsed then .error .badTTFB
    else if !candidate.status.all fun status => 100 ≤ status && status ≤ 599 then .error .badStatus
    else
      let candidate := { candidate with url := Masking.redactRequestURL candidate.url }
      if !validTimingURL candidate.url then .error .badURL
      else .ok (rounded candidate)

/-- An entry that is no object is `none`. -/
def sanitizeTiming (entry : Option TimingMessage) : Except TimingDiscard ValidatedNetworkTiming :=
  match entry.bind TimingMessage.unmarshal with
  | none => .error .nonObjectEntry
  | some candidate => checkTiming candidate

structure SanitizedTimings where
  retained : List ValidatedNetworkTiming := []
  discards : List TimingDiscard := []
  deriving DecidableEq

def SanitizedTimings.add (s : SanitizedTimings) (entry : Option TimingMessage) : SanitizedTimings :=
  if s.retained.length = maxNetworkTimings then { s with discards := s.discards ++ [TimingDiscard.overLimit] }
  else
    match sanitizeTiming entry with
    | .ok timing => { s with retained := s.retained ++ [timing] }
    | .error discard => { s with discards := s.discards ++ [discard] }

/-- No message at all is an empty list; one that is no list is counted. -/
def sanitizeNetworkTimings (raw : Option (Option (List (Option TimingMessage)))) : SanitizedTimings :=
  match raw with
  | none => {}
  | some none => { discards := [.malformedContainer] }
  | some (some entries) => entries.foldl SanitizedTimings.add {}

end Opslane.Intake
