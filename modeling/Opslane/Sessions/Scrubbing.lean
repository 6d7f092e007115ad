import Opslane.Lib.Transition
import Opslane.Masking.Redaction
import Opslane.Sessions.Store

/-!
# Scrubbing

One chunk of a recorded session: its row of `session_chunks`, its object in storage, the
requests of `ChunkUpload` for it and the passes of the scrubber that claim it. Steps happen at
times that increase. A request to storage or to the database may take effect whether or not
its sender hears of it; the object of an upload is stored within thirty seconds of its request
or not at all, and a statement that needs the row another transaction has locked waits.
-/

namespace Opslane.Sessions.Scrubbing

open Masking (redactRecording)

/-- `compress/gzip`: what was deflated inflates to what it was. -/
structure Gzip where
  deflate : Bytes → Bytes
  inflate : Bytes → Option Bytes
  inflate_deflate : ∀ data, inflate (deflate data) = some data

/-- A duration in seconds, in the clock's microseconds. -/
def seconds (n : Int) : Int := n * 1000000

/-- The columns of `session_chunks` that decide who may read or scrub the chunk. -/
structure ChunkRow where
  uploadedAt : Option Timestamp := none
  scrubbedAt : Option Timestamp := none
  scrubAttempts : Nat := 0
  scrubClaimedAt : Option Timestamp := none
  deriving DecidableEq

structure StoredObject where
  bytes : Bytes
  /-- A scrubber has stored it. -/
  scrubbed : Bool
  deriving DecidableEq

/-- What the handler does next. -/
inductive HandlerPhase where
  | reserved | putting | committing | removing | releasing | done
  deriving DecidableEq

/-- The transaction of `CommitChunk`; its time is that of `now()` in it. -/
inductive CommitPhase where
  | idle
  | marked (begunAt : Timestamp)
  | sent (begunAt : Timestamp)
  | applied
  | aborted
  deriving DecidableEq

/-- One call of `ChunkUpload`, from its reservation on. -/
structure Attempt where
  id : UUID
  payload : Bytes
  handler : HandlerPhase
  /-- When its request to storage was opened. -/
  putAt : Option Timestamp := none
  /-- Storage has accepted its object. -/
  stored : Bool := false
  commit : CommitPhase := .idle
  removeSent : Bool := false
  removed : Bool := false
  releaseSent : Bool := false
  /-- The statement that releases its reservation was executed. -/
  released : Bool := false
  deriving DecidableEq

/-- Its transaction has locked the row. -/
def Attempt.LocksRow (a : Attempt) : Prop :=
  match a.commit with
  | .marked _ | .sent _ => True
  | _ => False

instance (a : Attempt) : Decidable a.LocksRow := by
  unfold Attempt.LocksRow
  split <;> infer_instance

inductive ScrubPhase where
  | claimed
  | read (raw : Bytes)
  /-- The redacted document is being stored. -/
  | putting (document : Bytes)
  | stored
  | failed
  | done
  deriving DecidableEq

/-- What `RunOnce` does with the chunk after one claim of it. -/
structure Scrub where
  id : UUID
  claimedAt : Timestamp
  phase : ScrubPhase
  /-- The document it has asked storage to keep. -/
  document : Option Bytes := none
  stored : Bool := false
  removeSent : Bool := false
  deriving DecidableEq

structure Chunk where
  now : Timestamp
  row : Option ChunkRow
  object : Option StoredObject
  attempts : Table Attempt.id
  scrubs : Table Scrub.id

def Chunk.start : Chunk := ⟨0, none, none, .empty, .empty⟩

namespace Chunk

variable (gzip : Gzip) (s : Chunk)

def gzipMagic : Bytes := [0x1f, 0x8b]

/-- `ReserveChunkSeq`, refused while the row is there. The attempt goes on only if it hears of
its reservation. -/
def reserveChunkSeq (id : UUID) (payload : Bytes) (acknowledged : Bool) : Chunk :=
  if gzipMagic.isPrefixOf payload ∧ s.row = none then
    match s.attempts.insert? { id, payload, handler := if acknowledged then .reserved else .done } with
    | none => s
    | some attempts => { s with row := some {}, attempts }
  else s

def setAttempt (a : Attempt) (f : Attempt → Attempt) (frame : ∀ a, (f a).id = a.id) : Chunk :=
  { s with attempts := s.attempts.updateKey a.id f frame }

def goOn (a : Attempt) (handler : HandlerPhase) : Chunk :=
  s.setAttempt a (fun a => { a with handler }) fun _ => rfl

/-- `removeObjectAndRelease` sends its first request. -/
def cleanUp (a : Attempt) : Chunk :=
  s.setAttempt a (fun a => { a with handler := .removing, removeSent := true }) fun _ => rfl

/-- `releaseReservation` sends its statement. -/
def sendRelease (a : Attempt) : Chunk :=
  s.setAttempt a (fun a => { a with handler := .releasing, releaseSent := true }) fun _ => rfl

def setCommit (a : Attempt) (commit : CommitPhase) : Chunk :=
  s.setAttempt a (fun a => { a with commit }) fun _ => rfl

def rowLocked : Bool := s.attempts.any fun a => a.LocksRow

inductive UploadStep where
  /-- `chunkBytesBudget` refuses the chunk. -/
  | overBudget
  | beginPut
  | putTakesEffect
  | putReturns (ok : Bool)
  /-- `CommitChunk` begins, and its first statement marks the row. -/
  | markChunk
  | sendCommit
  | commitTakesEffect
  | rollback
  | commitReturns (ok : Bool)
  | removeTakesEffect
  | removeReturns (ok : Bool)
  | releaseTakesEffect
  | releaseReturns
  /-- The process ends. -/
  | crash
  deriving DecidableEq

/-- A failed `CommitChunk` and a failed `PutObject` end in the same cleanup. -/
def uploadStep (id : UUID) (step : UploadStep) : Chunk :=
  match s.attempts.find? id with
  | none => s
  | some a =>
    match step, a.handler with
    | .overBudget, .reserved => s.sendRelease a
    | .beginPut, .reserved =>
      s.setAttempt a (fun a => { a with handler := .putting, putAt := some s.now }) fun _ => rfl
    | .putTakesEffect, _ =>
      if a.putAt.any fun putAt => s.now ≤ putAt + seconds 30 then
        { s.setAttempt a (fun a => { a with stored := true }) fun _ => rfl with
          object := some ⟨a.payload, false⟩ }
      else s
    | .putReturns ok, .putting =>
      if ok then if a.stored then s.goOn a .committing else s else s.cleanUp a
    | .markChunk, .committing =>
      if a.commit = .idle ∧ ¬s.rowLocked then
        match s.row with
        | none => s.cleanUp a
        | some r => if r.uploadedAt = none then s.setCommit a (.marked s.now) else s.goOn a .done
      else s
    | .sendCommit, .committing =>
      match a.commit with
      | .marked begunAt => s.setCommit a (.sent begunAt)
      | _ => s
    | .commitTakesEffect, _ =>
      match a.commit with
      | .sent begunAt =>
        { s.setCommit a .applied with
          row := s.row.map fun r => { r with uploadedAt := some begunAt } }
      | _ => s
    | .rollback, _ => if a.LocksRow then s.setCommit a .aborted else s
    | .commitReturns ok, .committing =>
      if ok then if a.commit = .applied then s.goOn a .done else s else s.cleanUp a
    | .removeTakesEffect, _ =>
      if a.removeSent then
        { s.setAttempt a (fun a => { a with removed := true }) fun _ => rfl with object := none }
      else s
    | .removeReturns ok, .removing =>
      if ok then if a.removed then s.sendRelease a else s else s.goOn a .done
    | .releaseTakesEffect, _ =>
      if a.releaseSent ∧ ¬a.released ∧ ¬s.rowLocked then
        { s.setAttempt a (fun a => { a with released := true }) fun _ => rfl with
          row := s.row.filter fun r => r.uploadedAt.isSome }
      else s
    | .releaseReturns, .releasing => s.goOn a .done
    | .crash, _ => s.goOn a .done
    | _, _ => s

def maxScrubAttempts : Nat := 5

/-- The condition of `ClaimUnscrubbedChunks`. -/
def Claimable (r : ChunkRow) : Prop :=
  r.scrubbedAt = none ∧ r.uploadedAt.any (fun uploadedAt => uploadedAt ≤ s.now - seconds 30) ∧
    r.scrubClaimedAt.all (fun claimedAt => claimedAt < s.now - seconds 120) ∧
    r.scrubAttempts < maxScrubAttempts

instance (r : ChunkRow) : Decidable (s.Claimable r) := inferInstanceAs (Decidable (_ ∧ _))

def claimUnscrubbedChunk (id : UUID) : Chunk :=
  match s.row, s.scrubs.insert? { id, claimedAt := s.now, phase := .claimed } with
  | some r, some scrubs =>
    if s.Claimable r then
      { s with
        row := some { r with scrubAttempts := r.scrubAttempts + 1, scrubClaimedAt := some s.now }
        scrubs }
    else s
  | _, _ => s

def setScrub (c : Scrub) (f : Scrub → Scrub) (frame : ∀ c, (f c).id = c.id) : Chunk :=
  { s with scrubs := s.scrubs.updateKey c.id f frame }

def enterScrub (c : Scrub) (phase : ScrubPhase) : Chunk :=
  s.setScrub c (fun c => { c with phase }) fun _ => rfl

/-- The pass removes the object, and fails whatever becomes of that. -/
def refuse (c : Scrub) : Chunk :=
  s.setScrub c (fun c => { c with phase := .failed, removeSent := true }) fun _ => rfl

inductive ScrubStep where
  /-- `StatObject` finds more bytes than may be inflated. -/
  | tooLarge
  | getObject
  /-- `InflateLimited`, `json.Valid` and `RedactRecording`; then the request to storage. -/
  | redact
  | putTakesEffect
  | putReturns (ok : Bool)
  | markScrubbed
  | markFailed
  | removeTakesEffect
  /-- A request fails. -/
  | fails
  deriving DecidableEq

/-- `scrubOne`, and `MarkChunkScrubFailed` after it fails. -/
def scrubStep (maxInflateBytes : Nat) (id : UUID) (step : ScrubStep) : Chunk :=
  match s.scrubs.find? id with
  | none => s
  | some c =>
    match step, c.phase with
    | .tooLarge, .claimed =>
      if s.object.any fun o => maxInflateBytes < o.bytes.length then s.refuse c else s
    | .getObject, .claimed =>
      match s.object with
      | none => s.enterScrub c .failed
      | some o => s.enterScrub c (.read o.bytes)
    | .redact, .read raw =>
      match gzip.inflate raw with
      | none => s.enterScrub c .failed
      | some plain =>
        if maxInflateBytes < plain.length then s.refuse c
        else if GoJson.valid plain = false then s.refuse c
        else
          s.setScrub c (fun c => { c with
            phase := .putting (redactRecording plain)
            document := some (redactRecording plain) }) fun _ => rfl
    | .putTakesEffect, _ =>
      match c.document with
      | none => s
      | some document =>
        { s.setScrub c (fun c => { c with stored := true }) fun _ => rfl with
          object := some ⟨gzip.deflate document, true⟩ }
    | .putReturns ok, .putting _ =>
      if ok then if c.stored then s.enterScrub c .stored else s else s.enterScrub c .failed
    | .markScrubbed, .stored =>
      { s.enterScrub c .done with
        row := s.row.map fun r => { r with scrubbedAt := some s.now, scrubClaimedAt := none } }
    | .markFailed, .failed =>
      { s.enterScrub c .done with row := s.row.map fun r => { r with scrubClaimedAt := none } }
    | .removeTakesEffect, _ => if c.removeSent then { s with object := none } else s
    | .fails, .claimed | .fails, .read _ | .fails, .stored => s.enterScrub c .failed
    | _, _ => s

inductive Event where
  | reserveChunkSeq (id : UUID) (payload : Bytes) (acknowledged : Bool)
  | upload (id : UUID) (step : UploadStep)
  | claimUnscrubbedChunk (id : UUID)
  | scrub (id : UUID) (step : ScrubStep)
  deriving DecidableEq

/-- An event at a time. -/
structure Action where
  time : Timestamp
  event : Event
  deriving DecidableEq

def happen (maxInflateBytes : Nat) : Event → Chunk
  | .reserveChunkSeq id payload acknowledged => s.reserveChunkSeq id payload acknowledged
  | .upload id step => s.uploadStep id step
  | .claimUnscrubbedChunk id => s.claimUnscrubbedChunk id
  | .scrub id step => s.scrubStep gzip maxInflateBytes id step

/-- Time goes on from event to event. -/
def step (maxInflateBytes : Nat) (a : Action) : Chunk :=
  if s.now < a.time then happen gzip { s with now := a.time } maxInflateBytes a.event else s

def machine (maxInflateBytes : Nat) : Transition.Machine Chunk Action :=
  ⟨fun s a => s.step gzip maxInflateBytes a⟩

end Chunk

end Opslane.Sessions.Scrubbing
