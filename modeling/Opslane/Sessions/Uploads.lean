import Opslane.Lib.Transition
import Opslane.Sessions.Store

/-!
# Chunk uploads

`ChunkUpload` in `packages/ingestion/handler/session.go`, with `ReserveChunkSeq`,
`CommitChunk`, `ReleaseChunkReservation` and `MarkSessionDeleting` in
`packages/ingestion/db/sessions.go`. An attempt reserves the row of its chunk, puts the
object, and commits; each failure has its cleanup, and the handler may stop after any step.

`CommitChunk` is a transaction of two statements and a COMMIT. A COMMIT that was sent may
take effect whether or not the handler hears of it, and an object that was sent may be
stored after the handler gave up. A statement that needs a row another transaction has
locked waits, so here it is not taken.
-/

namespace Opslane.Sessions

/-- How a request ends: whether it was executed, and whether the handler knows. -/
inductive Outcome where
  | acknowledged | unacknowledged | failed
  deriving DecidableEq

def Outcome.executed (o : Outcome) : Bool := o ≠ .failed

/-- What the handler does next. -/
inductive HandlerPhase where
  | reserved | putting | committing | removing | releasing | done
  deriving DecidableEq

/-- How far the attempt's transaction is. -/
inductive CommitPhase where
  | idle | marked | rolledUp | sent | applied | aborted
  deriving DecidableEq

/-- One call of the handler, from its reservation on. -/
structure Attempt where
  id : UUID
  seq : Nat
  size : Nat
  handler : HandlerPhase
  commit : CommitPhase
  /-- Its request to storage was opened. -/
  requested : Bool
  /-- Storage has accepted its object. -/
  stored : Bool
  /-- Its cleanup has removed the object. -/
  removed : Bool
  deriving DecidableEq

namespace Attempt

/-- An attempt whose reservation was made; it goes on only if it hears of that. -/
def new (id : UUID) (seq size : Nat) (acknowledged : Bool) : Attempt where
  id
  seq
  size
  handler := if acknowledged then .reserved else .done
  commit := .idle
  requested := false
  stored := false
  removed := false

/-- Its transaction has locked the row of the chunk. -/
def HoldsChunk (a : Attempt) : Prop :=
  a.commit = .marked ∨ a.commit = .rolledUp ∨ a.commit = .sent

/-- Its transaction has locked the row of the session. -/
def HoldsSession (a : Attempt) : Prop := a.commit = .rolledUp ∨ a.commit = .sent

instance (a : Attempt) : Decidable a.HoldsChunk := inferInstanceAs (Decidable (_ ∨ _))

instance (a : Attempt) : Decidable a.HoldsSession := inferInstanceAs (Decidable (_ ∨ _))

/-- What the handler does by itself. -/
inductive Move where
  /-- `chunkBytesBudget` refuses the chunk. -/
  | overBudget
  | beginPut
  /-- `PutObject` returns, with or without an error. -/
  | putReturned (ok : Bool)
  /-- `CommitChunk` sends its COMMIT. -/
  | sendCommit
  /-- `CommitChunk` returns; without an error only if its COMMIT took effect. -/
  | commitReturned (ok : Bool)
  /-- The database rolls the transaction back. -/
  | rollback
  /-- The process ends. -/
  | crash
  deriving DecidableEq

def move (m : Move) (a : Attempt) : Attempt :=
  match m with
  | .overBudget => if a.handler = .reserved then { a with handler := .releasing } else a
  | .beginPut =>
    if a.handler = .reserved then { a with handler := .putting, requested := true } else a
  | .putReturned true =>
    if a.handler = .putting ∧ a.stored then { a with handler := .committing } else a
  | .putReturned false => if a.handler = .putting then { a with handler := .removing } else a
  | .sendCommit =>
    if a.handler = .committing ∧ a.commit = .rolledUp then { a with commit := .sent } else a
  | .commitReturned true =>
    if a.handler = .committing ∧ a.commit = .applied then { a with handler := .done } else a
  | .commitReturned false =>
    if a.handler = .committing then { a with handler := .removing } else a
  | .rollback => if a.HoldsChunk then { a with commit := .aborted } else a
  | .crash => { a with handler := .done }

theorem move_id (m : Move) (a : Attempt) : (a.move m).id = a.id := by
  unfold move
  repeat' split
  all_goals rfl

def store (a : Attempt) : Attempt := { a with stored := true }

def mark (a : Attempt) : Attempt := { a with commit := .marked }

def rollUp (a : Attempt) : Attempt := { a with commit := .rolledUp }

def apply (a : Attempt) : Attempt := { a with commit := .applied }

def fail (a : Attempt) : Attempt := { a with handler := .removing }

def finish (a : Attempt) : Attempt := { a with handler := .done }

/-- After `RemoveObject`: the reservation is released only when the removal is known. -/
def remove (outcome : Outcome) (a : Attempt) : Attempt :=
  { a with
    handler := if outcome = .acknowledged then .releasing else .done
    removed := a.removed || outcome.executed }

end Attempt

structure Uploads where
  session : Session
  tombstoned : Bool
  chunks : ChunkTable
  /-- The chunks whose object is in storage. -/
  objects : List Nat
  attempts : Table Attempt.id
  /-- Each commit of a chunk that took effect. -/
  commits : List Nat

def Uploads.start : Uploads where
  session := ⟨.recording, 0, 0, 0⟩
  tombstoned := false
  chunks := .empty
  objects := []
  attempts := .empty
  commits := []

namespace Uploads

def chunkLocked (s : Uploads) (seq : Nat) : Bool :=
  s.attempts.any fun a => a.seq = seq ∧ a.HoldsChunk

def sessionLocked (s : Uploads) : Bool := s.attempts.any fun a => a.HoldsSession

/-- `ReserveChunkSeq`: the row of a chunk of a live session, unless it is taken. -/
def reserveChunkSeq (s : Uploads) (id : UUID) (seq size : Nat) (acknowledged : Bool) : Uploads :=
  if s.session.status = .deleting then s
  else match s.chunks.insert? ⟨seq, none, none, none⟩,
      s.attempts.insert? (Attempt.new id seq size acknowledged) with
    | some chunks, some attempts => { s with chunks, attempts }
    | _, _ => s

def move (s : Uploads) (id : UUID) (m : Attempt.Move) : Uploads :=
  { s with attempts := s.attempts.updateKey id (Attempt.move m) (Attempt.move_id m) }

/-- Storage accepts the object of a request, at any time after it was opened. -/
def storeObject (s : Uploads) (id : UUID) : Uploads :=
  match s.attempts.find? id with
  | none => s
  | some a =>
    if a.requested then
      { s with
        objects := a.seq :: s.objects
        attempts := s.attempts.updateKey id Attempt.store fun _ => rfl }
    else s

/-- The first statement of `CommitChunk`: it marks a reserved row of a live session. A row
that was committed before is a success, anything else an error. -/
def markChunk (s : Uploads) (id : UUID) : Uploads :=
  match s.attempts.find? id with
  | none => s
  | some a =>
    if a.handler ≠ .committing ∨ a.commit ≠ .idle ∨ s.chunkLocked a.seq then s
    else
      let update (f : Attempt → Attempt) (frame : ∀ a, (f a).id = a.id) : Uploads :=
        { s with attempts := s.attempts.updateKey id f frame }
      match s.chunks.find? a.seq with
      | none => update Attempt.fail fun _ => rfl
      | some c =>
        if s.session.status = .deleting then update Attempt.fail fun _ => rfl
        else if c.uploadedAt = none then update Attempt.mark fun _ => rfl
        else update Attempt.finish fun _ => rfl

/-- The second statement of `CommitChunk`. It names the session by its id alone. -/
def rollUp (s : Uploads) (id : UUID) : Uploads :=
  match s.attempts.find? id with
  | none => s
  | some a =>
    if a.handler = .committing ∧ a.commit = .marked ∧ ¬s.sessionLocked then
      { s with attempts := s.attempts.updateKey id Attempt.rollUp fun _ => rfl }
    else s

def commitRow (size : Nat) (now : Timestamp) (c : SessionChunk) : SessionChunk :=
  { c with sizeBytes := some size, uploadedAt := some now }

/-- What the second statement does to the row of the session. -/
def rollUpSession (seq size : Nat) (session : Session) : Session :=
  { session with
    chunkCount := session.chunkCount + 1
    bytesStored := session.bytesStored + size
    nextChunkSeq := max session.nextChunkSeq (seq + 1) }

/-- A COMMIT that was sent takes effect. -/
def applyCommit (s : Uploads) (id : UUID) (now : Timestamp) : Uploads :=
  match s.attempts.find? id with
  | none => s
  | some a =>
    if a.commit = .sent then
      { s with
        session := rollUpSession a.seq a.size s.session
        chunks := s.chunks.updateKey a.seq (commitRow a.size now) fun _ => rfl
        attempts := s.attempts.updateKey id Attempt.apply fun _ => rfl
        commits := a.seq :: s.commits }
    else s

/-- The first half of `removeObjectAndRelease`. -/
def removeObject (s : Uploads) (id : UUID) (outcome : Outcome) : Uploads :=
  match s.attempts.find? id with
  | none => s
  | some a =>
    if a.handler = .removing then
      { s with
        objects := if outcome.executed then s.objects.filter (· ≠ a.seq) else s.objects
        attempts := s.attempts.updateKey id (Attempt.remove outcome) fun _ => rfl }
    else s

/-- `ReleaseChunkReservation`: deletes the row unless it was committed. -/
def releaseReservation (s : Uploads) (id : UUID) (outcome : Outcome) : Uploads :=
  match s.attempts.find? id with
  | none => s
  | some a =>
    if a.handler = .releasing ∧ ¬s.chunkLocked a.seq then
      { s with
        chunks :=
          if outcome.executed then s.chunks.deleteWhere fun c => c.seq = a.seq ∧ c.uploadedAt = none
          else s.chunks
        attempts := s.attempts.updateKey id Attempt.finish fun _ => rfl }
    else s

/-- `MarkSessionDeleting`, for a session that is past its retention or is not. -/
def markSessionDeleting (s : Uploads) (expired : Bool) : Uploads :=
  if s.session.status = .deleting ∨ expired = false ∨ s.sessionLocked then s
  else { s with session := { s.session with status := .deleting }, tombstoned := true }

/-- Any other writer of the status. -/
def setStatus (s : Uploads) (status : SessionStatus) : Uploads :=
  { s with session := { s.session with status } }

/-- `CloseIdleSessions`, seen from one session. -/
def closeIdleSession (s : Uploads) (idle : Bool) : Uploads :=
  if s.session.status = .recording ∧ idle ∧ ¬s.sessionLocked then s.setStatus .closed else s

/-- The worker's `setSessionAnalysisStatus`: it does not ask for the status it replaces. -/
def setSessionAnalysisStatus (s : Uploads) (status : AnalysisStatus) : Uploads :=
  if s.sessionLocked then s else s.setStatus status.toStatus

/-- The steps of upload attempts and of retention. -/
inductive UploadAction where
  | reserveChunkSeq (id : UUID) (seq size : Nat) (acknowledged : Bool)
  | move (id : UUID) (m : Attempt.Move)
  | storeObject (id : UUID)
  | markChunk (id : UUID)
  | rollUp (id : UUID)
  | applyCommit (id : UUID) (now : Timestamp)
  | removeObject (id : UUID) (outcome : Outcome)
  | releaseReservation (id : UUID) (outcome : Outcome)
  | markSessionDeleting (expired : Bool)

def uploadStep (s : Uploads) : UploadAction → Uploads
  | .reserveChunkSeq id seq size acknowledged => s.reserveChunkSeq id seq size acknowledged
  | .move id m => s.move id m
  | .storeObject id => s.storeObject id
  | .markChunk id => s.markChunk id
  | .rollUp id => s.rollUp id
  | .applyCommit id now => s.applyCommit id now
  | .removeObject id outcome => s.removeObject id outcome
  | .releaseReservation id outcome => s.releaseReservation id outcome
  | .markSessionDeleting expired => s.markSessionDeleting expired

inductive Action where
  | upload (a : UploadAction)
  | closeIdleSession (idle : Bool)
  | setSessionAnalysisStatus (status : AnalysisStatus)

def step (s : Uploads) : Action → Uploads
  | .upload a => s.uploadStep a
  | .closeIdleSession idle => s.closeIdleSession idle
  | .setSessionAnalysisStatus status => s.setSessionAnalysisStatus status

def machine : Transition.Machine Uploads Action := ⟨step⟩

end Uploads

end Opslane.Sessions
