import Mathlib.Data.List.DropRight
import Mathlib.Data.Rat.Floor
import Opslane.Lib.Bytes

/-!
# Network timings

The timings of the page's requests: those in flight, and the latest that completed. A request
is recorded under its scrubbed URL and its method; times are read from a clock that may also
go back.
-/

namespace Opslane.Sdk.Network

open CodeUnits

def maxEntries : Nat := 20
def maxUrlBytes : Nat := 2048
def maxMethodBytes : Nat := 16
def maxElapsedMs : Nat := 600000

/-- What the page's platform offers. -/
structure Platform (URL : Type) where
  /-- `new URL(raw)`; `none` when it throws. -/
  parseUrl : CodeUnits → Option URL
  hash : URL → CodeUnits
  /-- The URL with an empty search, username and password. -/
  clearCredentials : URL → URL
  clearHash : URL → URL
  href : URL → CodeUnits
  toUpperCase : CodeUnits → CodeUnits
  /-- `TextEncoder` and `TextDecoder` are there. -/
  hasEncoder : Bool

def lowerUnit (u : UInt16) : UInt16 :=
  if codeUnit 'A' ≤ u ∧ u ≤ codeUnit 'Z' then u + 0x20 else u

def tokenHashes : List CodeUnits :=
  ["access_token=", "id_token=", "refresh_token=", "token=", "code="].map codeUnits

/-- `TOKEN_HASH.test` -/
def hasTokenHash (hash : CodeUnits) : Bool :=
  (hash.map lowerUnit).tails.any fun suffix => tokenHashes.any fun token => token.isPrefixOf suffix

def scrubUrl {URL : Type} (platform : Platform URL) (raw : CodeUnits) : CodeUnits :=
  if raw = [] then raw
  else
    match platform.parseUrl raw with
    | some u =>
      let u := platform.clearCredentials u
      let u := if platform.hash u ≠ [] ∧ hasTokenHash (platform.hash u) then platform.clearHash u else u
      platform.href u
    | none => raw.takeWhile fun u => u != codeUnit '?' && u != codeUnit '#'

/-- The scalar values whose bytes fit. -/
def fitting : List Nat → Nat → List Nat
  | [], _ => []
  | n :: ns, room =>
    if (Bytes.ofScalar n).length ≤ room then n :: fitting ns (room - (Bytes.ofScalar n).length) else []

/-- `decoder.decode` of the first bytes: a scalar value that was cut reads as U+FFFD, and a
byte order mark at the start is dropped. -/
def decodeFirst (ns : List Nat) (room : Nat) : List Nat :=
  let kept := fitting ns room
  let used := (kept.flatMap Bytes.ofScalar).length
  let read := kept ++ if used < room ∧ kept.length < ns.length then [replacement] else []
  if read.head? = some 0xfeff then read.tail else read

def capBytes {URL : Type} (platform : Platform URL) (value : CodeUnits) (maxBytes : Nat) : CodeUnits :=
  if !platform.hasEncoder then value.take (maxBytes / 3)
  else if value.encode.length ≤ maxBytes then value
  else
    ((decodeFirst value.scalars maxBytes).rdropWhile (· == replacement)).flatMap CodeUnits.ofScalar

/-- `[A-Z0-9!#$%&'*+.^_|~-]` and the backtick -/
def isTokenUnit (u : UInt16) : Bool :=
  (codeUnit 'A' ≤ u && u ≤ codeUnit 'Z') || (codeUnit '0' ≤ u && u ≤ codeUnit '9')
    || u ∈ codeUnits "!#$%&'*+.^_`|~-"

/-- `TOKEN.test` -/
def isToken (method : CodeUnits) : Bool :=
  1 ≤ method.length && method.length ≤ 16 && method.all isTokenUnit

/-- `Math.round` of the difference, clamped. -/
def elapsed (start stop : Rat) : Nat :=
  min maxElapsedMs (max 0 ⌊stop - start + 1 / 2⌋).toNat

inductive Transport where
  | fetch | xhr
  deriving DecidableEq

inductive Outcome where
  | ok | httpError | timeout | abort | networkError | inFlight
  deriving DecidableEq

structure ActiveRecord where
  transport : Transport
  method : CodeUnits
  url : CodeUnits
  startedAtMs : Int
  startMark : Rat
  ttfbMs : Option Nat
  deriving DecidableEq

structure NetworkTiming where
  transport : Transport
  method : CodeUnits
  url : CodeUnits
  startedAtMs : Int
  durationMs : Nat
  ttfbMs : Option Nat
  outcome : Outcome
  status : Option Nat
  deriving DecidableEq

structure Timings where
  active : List (Nat × ActiveRecord) := []
  completed : List NetworkTiming := []
  nextHandle : Nat := 0

namespace Timings

def get (s : Timings) (handle : Nat) : Option ActiveRecord :=
  (s.active.find? fun entry => entry.1 == handle).map (·.2)

def delete (s : Timings) (handle : Nat) : Timings :=
  { s with active := s.active.filter fun entry => entry.1 != handle }

/-- The URL and the method of a request that can be tracked. -/
def trackable {URL : Type} (platform : Platform URL) (method url : CodeUnits) :
    Option (CodeUnits × CodeUnits) :=
  let scrubbed := capBytes platform (scrubUrl platform url) maxUrlBytes
  if scrubbed = [] then none
  else
    let safeMethod := capBytes platform (platform.toUpperCase method) maxMethodBytes
    if isToken safeMethod then some (scrubbed, safeMethod) else none

def startTiming {URL : Type} (platform : Platform URL) (s : Timings) (transport : Transport)
    (method url : CodeUnits) (now : Int) (mark : Rat) : Timings :=
  match trackable platform method url with
  | none => s
  | some (scrubbed, safeMethod) =>
    if maxEntries ≤ s.active.length then s
    else
      { s with
        nextHandle := s.nextHandle + 1
        active := s.active ++ [(s.nextHandle, {
          transport
          method := safeMethod
          url := scrubbed
          startedAtMs := now
          startMark := mark
          ttfbMs := none })] }

/-- The first call wins. -/
def markHeaders (s : Timings) (handle : Nat) (mark : Rat) : Timings :=
  { s with active := s.active.map fun entry =>
      if entry.1 = handle ∧ entry.2.ttfbMs = none then
        (entry.1, { entry.2 with ttfbMs := some (elapsed entry.2.startMark mark) })
      else entry }

def completedTiming (record : ActiveRecord) (outcome : Outcome) (status : Option Nat) (mark : Rat) :
    NetworkTiming where
  transport := record.transport
  method := record.method
  url := record.url
  startedAtMs := record.startedAtMs
  durationMs := elapsed record.startMark mark
  ttfbMs := record.ttfbMs
  outcome := outcome
  status := status

def finalizeTiming (s : Timings) (handle : Nat) (outcome : Outcome) (status : Option Nat)
    (mark : Rat) : Timings :=
  match s.get handle with
  | none => s
  | some record =>
    let completed := s.completed ++ [completedTiming record outcome status mark]
    { s.delete handle with completed := completed.drop (completed.length - maxEntries) }

def inFlightTiming (at_ : Rat) (record : ActiveRecord) : NetworkTiming :=
  completedTiming record .inFlight none at_

def snapshotNetworkTimings (s : Timings) (mark : Rat) : List NetworkTiming :=
  let inFlight := (((s.active.map (·.2)).mergeSort fun a b => a.startMark ≤ b.startMark).take
    maxEntries).map (inFlightTiming mark)
  let remaining := maxEntries - inFlight.length
  if remaining = 0 then inFlight
  else inFlight ++ (s.completed.drop (s.completed.length - remaining)).reverse

end Timings

/-- How a request ended, as the fetch and the XHR interceptor see it. -/
inductive Report where
  | answered (status : Nat)
  | hidden
  | timedOut
  | aborted
  | failed
  deriving DecidableEq

def Report.outcome (report : Report) : Outcome :=
  match report with
  | .answered status => if 400 ≤ status then .httpError else .ok
  | .hidden => .ok
  | .timedOut => .timeout
  | .aborted => .abort
  | .failed => .networkError

/-- Only a status the server stores is passed on. -/
def Report.status (report : Report) : Option Nat :=
  match report with
  | .answered status => if 100 ≤ status ∧ status ≤ 599 then some status else none
  | _ => none

inductive Action where
  | startTiming (transport : Transport) (method url : CodeUnits) (now : Int) (mark : Rat)
  | markHeaders (handle : Nat) (mark : Rat)
  | finalizeTiming (handle : Nat) (report : Report) (mark : Rat)
  | discardTiming (handle : Nat)
  | clear

def step {URL : Type} (platform : Platform URL) (s : Timings) (action : Action) : Timings :=
  match action with
  | .startTiming transport method url now mark => s.startTiming platform transport method url now mark
  | .markHeaders handle mark => s.markHeaders handle mark
  | .finalizeTiming handle report mark => s.finalizeTiming handle report.outcome report.status mark
  | .discardTiming handle => s.delete handle
  -- Handles are never used again.
  | .clear => { s with active := [], completed := [] }

def run {URL : Type} (platform : Platform URL) (actions : List Action) : Timings :=
  actions.foldl (step platform) {}

end Opslane.Sdk.Network
