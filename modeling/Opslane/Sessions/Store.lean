import Opslane.Lib.Table
import Opslane.Schema

/-!
# Recorded sessions

One session: its row of `sessions` and its rows of `session_chunks`. The object key of a
chunk is a function of its sequence number, so an object is named by that number.
-/

namespace Opslane.Sessions

/-- The column `sessions.status`. -/
inductive SessionStatus where
  | recording | closed | analyzing | analyzed | analysisFailed | deleting
  deriving DecidableEq

/-- What an analysis may set the status to. -/
inductive AnalysisStatus where
  | analyzing | analyzed | analysisFailed
  deriving DecidableEq

def AnalysisStatus.toStatus : AnalysisStatus → SessionStatus
  | .analyzing => .analyzing
  | .analyzed => .analyzed
  | .analysisFailed => .analysisFailed

/-- The columns of `sessions` that uploads, analyses and retention write. -/
structure Session where
  status : SessionStatus
  nextChunkSeq : Nat
  chunkCount : Nat
  bytesStored : Nat
  deriving DecidableEq

/-- A row of `session_chunks`: a reservation until `uploadedAt` is set, unreadable until
`scrubbedAt` is. -/
structure SessionChunk where
  seq : Nat
  sizeBytes : Option Nat
  uploadedAt : Option Timestamp
  scrubbedAt : Option Timestamp
  deriving DecidableEq

abbrev ChunkTable := Table SessionChunk.seq

/-- The committed chunks. -/
def committedChunks (chunks : ChunkTable) : List SessionChunk :=
  chunks.select fun c => c.uploadedAt.isSome

theorem mem_committedChunks {chunks : ChunkTable} {c : SessionChunk} :
    c ∈ committedChunks chunks ↔ c ∈ chunks.rows ∧ c.uploadedAt.isSome := by
  rw [committedChunks, Table.select, List.mem_filter]

end Opslane.Sessions
