import Mathlib.Algebra.GroupWithZero.Nat
import Opslane.Lib.Table
import Opslane.Lib.Transition
import Opslane.Sdk.Session

/-!
# Session replay

`packages/sdk/src/replay.ts`: the recorder's events are buffered, and cut into chunks that
are uploaded under a session id and a sequence number. A step is what runs between two
turns of the event loop; every `await` ends one, so `registerStableSession` and
`startReplayCapture` each go on in a step of their own.

The recorder is rrweb: `takeFullSnapshot` emits a Meta event and then, unless it fails, a
FullSnapshot. An event carries the id of the session that was current when it was emitted.
-/

namespace Opslane.Sdk

inductive EventType where
  | metadata | fullSnapshot | other
  deriving DecidableEq

structure RecordedEvent where
  number : Nat
  bytes : Nat
  session : Nat
  deriving DecidableEq

/-- A call of `uploadChunk` or `flushInline`. -/
structure ChunkUpload where
  session : Option Nat
  seq : Nat
  events : List RecordedEvent
  deriving DecidableEq

/-- Where a call of `startReplayCapture` waits. -/
inductive StartPhase where
  /-- For the registration of this session. -/
  | registering (sessionID : Nat)
  /-- For `registerStableSession` to hand over its result. -/
  | returned (sessionID : Option Nat)
  deriving DecidableEq

structure StartTask where
  generation : Nat
  phase : StartPhase
  deriving DecidableEq

structure Replay extends SessionStore where
  buffer : List RecordedEvent
  bufferBytes : Nat
  currentSessionID : Option Nat
  currentSeq : Option Nat
  replayInstalled : Bool
  startGeneration : Nat
  rotationGeneration : Nat
  streamReady : Bool
  awaitingRotationSnapshot : Bool
  pendingMeta : Option RecordedEvent
  errorFlushInFlight : Bool
  /-- `handleIdentityChange` is registered. -/
  listening : Bool
  starts : Table StartTask.generation
  /-- Rotations whose session is being registered: their generation and the session. -/
  rotations : List (Nat × Nat)
  /-- Calls of `flushInline` that have not returned. -/
  inlineTails : List ChunkUpload
  uploads : List ChunkUpload
  emitted : Nat

/-- A page that was just opened, on what the tab has in storage. -/
def Replay.onPage (store : SessionStore) (uploads : List ChunkUpload) (emitted : Nat) : Replay where
  toSessionStore := store
  buffer := []
  bufferBytes := 0
  currentSessionID := none
  currentSeq := none
  replayInstalled := false
  startGeneration := 0
  rotationGeneration := 0
  streamReady := false
  awaitingRotationSnapshot := false
  pendingMeta := none
  errorFlushInFlight := false
  listening := false
  starts := .empty
  rotations := []
  inlineTails := []
  uploads
  emitted

def Replay.start : Replay := .onPage ⟨none, none, 0⟩ [] 0

/-- What one call of the recorder's `takeFullSnapshot` emits: the size and the time of each
event. -/
structure SnapshotTaken where
  metaBytes : Nat
  metaAt : Int
  full : Option (Nat × Int)

def maxChunkRawBytes : Nat := 20 * 1024 * 1024

namespace Replay

variable (s : Replay)

def shipChunk (session : Option Nat) (seq : Nat) (events : List RecordedEvent) : Replay :=
  { s with uploads := ⟨session, seq, events⟩ :: s.uploads }

/-- `beginSessionRotation` up to the registration of the new session. -/
def beginSessionRotation (newSessionID : Nat) (previous : SessionProgress) : Replay :=
  let rotated := { s with
    rotationGeneration := s.rotationGeneration + 1
    buffer := []
    bufferBytes := 0
    currentSeq := none
    currentSessionID := some newSessionID
    streamReady := false
    awaitingRotationSnapshot := false
    pendingMeta := none
    rotations := (s.rotationGeneration + 1, newSessionID) :: s.rotations }
  if s.buffer = [] then rotated
  else rotated.shipChunk (some previous.id) (s.currentSeq.getD previous.nextSeq) s.buffer

/-- The sequence number of the chunk in hand. -/
def takeSeq (now : Int) : Replay × Nat :=
  match s.currentSeq with
  | some seq => (s, seq)
  | none =>
    let (store, seq) := s.nextChunkSeq now
    ({ s with toSessionStore := store }, seq)

/-- A new buffer that opens with the pending metadata. -/
def openBuffer (event : RecordedEvent) : Replay :=
  let buffer := s.pendingMeta.toList ++ [event]
  { s with buffer, bufferBytes := (buffer.map RecordedEvent.bytes).sum, pendingMeta := none }

/-- `onEmit`, but for the snapshot it takes when the buffer is too large. -/
def onEmit (type : EventType) (bytes : Nat) (isCheckout : Bool) (now : Int) : Replay :=
  let (store, idleRotation) := s.rotateSessionIfIdle now
  let s := { s with toSessionStore := store, emitted := s.emitted + 1 }
  match idleRotation, store.state with
  | some rotation, _ => s.beginSessionRotation rotation.newSessionID rotation.previous
  | none, none => s
  | none, some current =>
    let event : RecordedEvent := ⟨s.emitted, bytes, current.id⟩
    if s.streamReady = false then
      if type = .metadata then { s with pendingMeta := some event }
      else if type = .fullSnapshot ∧ s.awaitingRotationSnapshot then
        { s.openBuffer event with awaitingRotationSnapshot := false, streamReady := true }
      else s
    else if isCheckout ∧ type = .metadata then { s with pendingMeta := some event }
    else if isCheckout ∧ type ≠ .fullSnapshot then s
    else if isCheckout ∧ s.buffer ≠ [] then
      let (taken, seq) := s.takeSeq now
      let opened := { taken.openBuffer event with currentSeq := none }
      if s.currentSessionID.isSome then opened.shipChunk s.currentSessionID seq s.buffer else opened
    else if isCheckout then s.openBuffer event
    else
      { s with
        toSessionStore := s.touchSession now
        buffer := s.buffer ++ [event]
        bufferBytes := s.bufferBytes + bytes }

/-- `takeFullSnapshotFn(true)`, if there is one and it does not throw at once. -/
def takeFullSnapshot (taken : Option SnapshotTaken) : Replay :=
  match taken with
  | none => s
  | some taken =>
    let s := s.onEmit .metadata taken.metaBytes true taken.metaAt
    match taken.full with
    | none => s
    | some (bytes, now) => s.onEmit .fullSnapshot bytes true now

/-- The recorder emits an event; a buffer that is too large is cut by a snapshot. -/
def emit (type : EventType) (bytes : Nat) (isCheckout : Bool) (now : Int)
    (cut : Option SnapshotTaken) : Replay :=
  let emitted := s.onEmit type bytes isCheckout now
  if s.streamReady ∧ emitted.streamReady ∧ isCheckout = false ∧ maxChunkRawBytes < emitted.bufferBytes
  then emitted.takeFullSnapshot cut
  else emitted

def flushReplayBufferForError (now : Int) (snapshot : Option SnapshotTaken) : Replay :=
  if s.replayInstalled = false ∨ s.streamReady = false ∨ s.buffer = [] ∨ s.errorFlushInFlight then s
  else
    let (taken, seq) := s.takeSeq now
    let flushed := { taken with
      errorFlushInFlight := true
      buffer := []
      bufferBytes := 0
      currentSeq := none
      pendingMeta := none }
    let shipped :=
      if s.currentSessionID.isSome then flushed.shipChunk s.currentSessionID seq s.buffer else flushed
    shipped.takeFullSnapshot snapshot

/-- The page is hidden: the tail is sent inline. -/
def onVisibilityChange (now : Int) (snapshot : Option SnapshotTaken) : Replay :=
  if s.buffer = [] then s
  else
    let (taken, seq) := s.takeSeq now
    let tail : ChunkUpload := ⟨s.currentSessionID, seq, s.buffer⟩
    let flushed := { taken with
      buffer := []
      bufferBytes := 0
      currentSeq := none
      inlineTails := tail :: s.inlineTails }
    (flushed.shipChunk tail.session tail.seq tail.events).takeFullSnapshot snapshot

/-- A tail that keepalive could not carry is uploaded like any other chunk. -/
def inlineReturned (tail : ChunkUpload) (landed : Bool) : Replay :=
  if tail ∈ s.inlineTails then
    let s := { s with inlineTails := s.inlineTails.erase tail }
    if landed then s else s.shipChunk tail.session tail.seq tail.events
  else s

def stopReplayCapture : Replay :=
  { s with
    startGeneration := s.startGeneration + 1
    rotationGeneration := s.rotationGeneration + 1
    listening := false
    buffer := []
    bufferBytes := 0
    currentSeq := none
    currentSessionID := none
    streamReady := false
    awaitingRotationSnapshot := false
    pendingMeta := none
    errorFlushInFlight := false
    replayInstalled := false }

/-- `setUser` and `clearUser`, through `rotateForIdentity`. -/
def rotateForIdentity (userId : Option String) (now : Int) : Replay :=
  let (store, previous) := s.getSessionProgress now
  let (store, changed) := store.setSessionUser userId now
  let rotated := { s with toSessionStore := store }
  match changed, s.listening, store.state with
  | true, true, some current => rotated.beginSessionRotation current.id previous
  | _, _, _ => rotated

/-- `beginSessionRotation` after the registration of the new session. -/
def rotationRegistered (generation newSessionID : Nat) (registered : Bool)
    (snapshot : Option SnapshotTaken) : Replay :=
  if (generation, newSessionID) ∈ s.rotations then
    let s := { s with rotations := s.rotations.erase (generation, newSessionID) }
    if registered = false then
      if generation ≠ s.rotationGeneration then s else s.stopReplayCapture
    else if generation ≠ s.rotationGeneration ∨ s.replayInstalled = false then s
    else
      { s with currentSessionID := some newSessionID, awaitingRotationSnapshot := true }.takeFullSnapshot
        snapshot
  else s

/-- `startReplayCapture` up to the first registration. -/
def startReplayCapture (now : Int) : Replay :=
  if s.replayInstalled then s
  else
    let (store, current) := s.load now
    let generation := s.startGeneration + 1
    { s with
      toSessionStore := store
      replayInstalled := true
      startGeneration := generation
      starts := s.starts.insertIgnore ⟨generation, .registering current.id⟩ }

def StartTask.enter (phase : StartPhase) (t : StartTask) : StartTask := { t with phase }

/-- `registerStableSession` after a registration: it returns the session it registered if that
is still the current one, and registers the current one otherwise. -/
def sessionRegistered (generation : Nat) (registered : Bool) (now : Int) : Replay :=
  match s.starts.find? generation with
  | some ⟨_, .registering sessionID⟩ =>
    let enter (s : Replay) (phase : StartPhase) : Replay :=
      { s with starts := s.starts.updateKey generation (StartTask.enter phase) fun _ => rfl }
    if registered = false then enter s (.returned none)
    else
      let (store, latest) := s.load now
      let s := { s with toSessionStore := store }
      if latest.id = sessionID then enter s (.returned (some sessionID))
      else if generation = s.startGeneration ∧ s.replayInstalled then enter s (.registering latest.id)
      else enter s (.returned none)
  | _ => s

/-- `startReplayCapture` after `registerStableSession` has returned. -/
def resumeStart (generation : Nat) : Replay :=
  match s.starts.find? generation with
  | some ⟨_, .returned initialSessionID⟩ =>
    let s := { s with starts := s.starts.deleteWhere fun t => t.generation = generation }
    if initialSessionID = none ∨ generation ≠ s.startGeneration ∨ s.replayInstalled = false then
      if generation = s.startGeneration then { s with replayInstalled := false } else s
    else
      { s with
        currentSessionID := initialSessionID
        streamReady := false
        awaitingRotationSnapshot := true
        listening := true }
  | _ => s

inductive Action where
  | emit (bytes : Nat) (isCheckout : Bool) (now : Int) (cut : Option SnapshotTaken)
  /-- The recorder's `takeFullSnapshot`, with the cut after each of its events. -/
  | snapshot (isCheckout : Bool) (taken : SnapshotTaken) (cutMeta cutFull : Option SnapshotTaken)
  | flushReplayBufferForError (now : Int) (snapshot : Option SnapshotTaken)
  /-- The turn of an error flush is over. -/
  | errorFlushed
  | onVisibilityChange (now : Int) (snapshot : Option SnapshotTaken)
  | inlineReturned (tail : ChunkUpload) (landed : Bool)
  | rotateForIdentity (userId : Option String) (now : Int)
  | rotationRegistered (generation newSessionID : Nat) (registered : Bool)
      (snapshot : Option SnapshotTaken)
  | startReplayCapture (now : Int)
  | sessionRegistered (generation : Nat) (registered : Bool) (now : Int)
  | resumeStart (generation : Nat)
  | stopReplayCapture
  | reload

/-- A snapshot the recorder takes by itself. -/
def recordSnapshot (isCheckout : Bool) (taken : SnapshotTaken) (cutMeta cutFull : Option SnapshotTaken) :
    Replay :=
  let s := s.emit .metadata taken.metaBytes isCheckout taken.metaAt cutMeta
  match taken.full with
  | none => s
  | some (bytes, now) => s.emit .fullSnapshot bytes isCheckout now cutFull

def step : Action → Replay
  | .emit bytes isCheckout now cut => s.emit .other bytes isCheckout now cut
  | .snapshot isCheckout taken cutMeta cutFull => s.recordSnapshot isCheckout taken cutMeta cutFull
  | .flushReplayBufferForError now snapshot => s.flushReplayBufferForError now snapshot
  | .errorFlushed => { s with errorFlushInFlight := false }
  | .onVisibilityChange now snapshot => s.onVisibilityChange now snapshot
  | .inlineReturned tail landed => s.inlineReturned tail landed
  | .rotateForIdentity userId now => s.rotateForIdentity userId now
  | .rotationRegistered generation newSessionID registered snapshot =>
    s.rotationRegistered generation newSessionID registered snapshot
  | .startReplayCapture now => s.startReplayCapture now
  | .sessionRegistered generation registered now => s.sessionRegistered generation registered now
  | .resumeStart generation => s.resumeStart generation
  | .stopReplayCapture => s.stopReplayCapture
  | .reload => .onPage s.toSessionStore.reload s.uploads s.emitted

def machine : Transition.Machine Replay Action := ⟨step⟩

end Replay

end Opslane.Sdk
