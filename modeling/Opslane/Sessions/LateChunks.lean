import Opslane.Jobs.Progress
import Opslane.Sessions.Analyses

/-!
# Late chunks

A chunk that becomes readable after its session closed is read by an analysis that
finishes: either the transaction that makes it readable enqueues one, or some live
analysis has yet to read its chunk list. The code does not ask for the latter: a live job
that has its list already also keeps `MarkChunkScrubbed` from enqueueing, and while it
runs the status of the session does.
-/

namespace Opslane.Sessions

open Jobs (Job JobLease JobTable FailsForGood)

/-- A finished execution had the chunk on its list. -/
def AnalysisRun.Analyzed (seq : Nat) (r : AnalysisRun) : Prop :=
  match r.phase with
  | .finished chunks => seq ∈ chunks
  | _ => False

instance (seq : Nat) (r : AnalysisRun) : Decidable (r.Analyzed seq) := by
  unfold AnalysisRun.Analyzed
  split <;> infer_instance

namespace Analyses

variable (sessionID : String) (projectID : UUID)

def Analyzed (s : Analyses) (seq : Nat) : Prop := ∃ r ∈ s.runs.rows, r.Analyzed seq

instance (s : Analyses) (seq : Nat) : Decidable (s.Analyzed seq) :=
  inferInstanceAs (Decidable (∃ r ∈ s.runs.rows, r.Analyzed seq))

/-- At rest, with no live analysis, every late chunk has been analyzed. -/
def WholeTruth (s : Analyses) : Prop :=
  (∀ j ∈ s.jobs.rows, Ours sessionID j → ¬j.Active) → AtRest s.session.status →
    ∀ seq ∈ s.late, s.Analyzed seq

/-- A live analysis that reads the chunk: it has not read its list yet, or the chunk is on it. -/
def Covers (s : Analyses) (seq : Nat) (j : Job) : Prop :=
  Ours sessionID j ∧ (j.status = .pending ∨
    (j.status = .claimed ∧ ∀ r ∈ s.runs.find? (j.id, j.leaseGeneration), ∀ chunks ∈ r.phase.chunks,
      seq ∈ chunks))

instance (s : Analyses) (seq : Nat) (j : Job) : Decidable (s.Covers sessionID seq j) :=
  inferInstanceAs (Decidable (_ ∧ _))

/-- A chunk becomes late only together with a new analysis or while a live one has yet to read
its list, and the last analysis that would read a late chunk is not failed for good. -/
def StaysCovered (s : Analyses) : Action → Prop
  | .commitMark seq _ _ => s.MakesLate seq →
    (s.marks.find? seq).any ScrubMark.enqueues ∨ ∃ j ∈ s.jobs.rows, s.Covers sessionID seq j
  | .job a => ∀ seq ∈ s.late, ¬s.Analyzed seq →
    ∃ j ∈ s.jobs.rows, s.Covers sessionID seq j ∧ ¬FailsForGood a j
  | _ => True

instance (s : Analyses) (a : Action) : Decidable (s.StaysCovered sessionID a) := by
  unfold StaysCovered
  split <;> infer_instance

/-- The chunk was committed; whether it is readable is given. -/
def Uploaded (s : Uploads) (seq : Nat) (readable : Bool) : Prop :=
  ∃ c, s.chunks.find? seq = some c ∧ c.uploadedAt.isSome ∧ (readable → c.scrubbedAt.isSome)

variable {seq : Nat}

theorem Uploaded.of_chunks {s s' : Uploads} {readable : Bool} (uploaded : Uploaded s seq readable)
    (same : s'.chunks = s.chunks) : Uploaded s' seq readable := by
  unfold Uploaded
  rw [same]
  exact uploaded

theorem Uploaded.uploadStep {s : Uploads} {readable : Bool} (uploaded : Uploaded s seq readable)
    (u : Uploads.UploadAction) :
    Uploaded (s.uploadStep u) seq readable := by
  obtain ⟨c, found, isUploaded, scrubbed⟩ := uploaded
  cases u with
  | reserveChunkSeq id seq' size acknowledged =>
    simp only [Uploads.uploadStep, Uploads.reserveChunkSeq]
    split
    · exact ⟨c, found, isUploaded, scrubbed⟩
    split
    · rename_i chunks attempts reserved attempted
      refine ⟨c, ?_, isUploaded, scrubbed⟩
      have apart : seq ≠ seq' := by
        rintro rfl
        rw [(Table.insert?_spec reserved).1] at found
        cases found
      exact (Table.find?_insert? reserved seq).trans ((if_neg apart).trans found)
    · exact ⟨c, found, isUploaded, scrubbed⟩
  | move id m => exact ⟨c, found, isUploaded, scrubbed⟩
  | storeObject id =>
    refine Uploaded.of_chunks ⟨c, found, isUploaded, scrubbed⟩ ?_
    simp only [Uploads.uploadStep, Uploads.storeObject]
    repeat' split
    all_goals rfl
  | markChunk id =>
    refine Uploaded.of_chunks ⟨c, found, isUploaded, scrubbed⟩ ?_
    simp only [Uploads.uploadStep, Uploads.markChunk]
    repeat' split
    all_goals rfl
  | rollUp id =>
    refine Uploaded.of_chunks ⟨c, found, isUploaded, scrubbed⟩ ?_
    simp only [Uploads.uploadStep, Uploads.rollUp]
    repeat' split
    all_goals rfl
  | applyCommit id now =>
    simp only [Uploads.uploadStep, Uploads.applyCommit]
    split
    · exact ⟨c, found, isUploaded, scrubbed⟩
    split
    · rename_i a _ _
      have lookup := s.chunks.find?_updateWhere_of (fun c => c.seq = a.seq)
        (Uploads.commitRow a.size now) (fun _ => rfl) found
      refine ⟨_, lookup, ?_, ?_⟩ <;> split
      · rfl
      · exact isUploaded
      · exact scrubbed
      · exact scrubbed
    · exact ⟨c, found, isUploaded, scrubbed⟩
  | removeObject id outcome =>
    refine Uploaded.of_chunks ⟨c, found, isUploaded, scrubbed⟩ ?_
    simp only [Uploads.uploadStep, Uploads.removeObject]
    repeat' split
    all_goals rfl
  | releaseReservation id outcome =>
    simp only [Uploads.uploadStep, Uploads.releaseReservation]
    split
    · exact ⟨c, found, isUploaded, scrubbed⟩
    split
    · refine ⟨c, ?_, isUploaded, scrubbed⟩
      dsimp only
      split
      · rw [Table.find?_deleteWhere, found]
        have kept : c.uploadedAt ≠ none := Option.isSome_iff_ne_none.mp isUploaded
        simp [kept]
      · exact found
    · exact ⟨c, found, isUploaded, scrubbed⟩
  | markSessionDeleting expired =>
    refine Uploaded.of_chunks ⟨c, found, isUploaded, scrubbed⟩ ?_
    simp only [Uploads.uploadStep, Uploads.markSessionDeleting]
    repeat' split
    all_goals rfl

structure Inv (s : Analyses) : Prop where
  /-- A late chunk is analyzed, or a live analysis reads it. -/
  covered : ∀ seq ∈ s.late, s.Analyzed seq ∨ ∃ j ∈ s.jobs.rows, s.Covers sessionID seq j
  late : ∀ seq ∈ s.late, Uploaded s.toUploads seq true
  scrubs : ∀ seq ∈ s.scrubs, Uploaded s.toUploads seq false
  marks : ∀ m ∈ s.marks.rows, Uploaded s.toUploads m.seq false
  /-- An execution has the lease of a job, or had it. -/
  runs : ∀ r ∈ s.runs.rows, ∃ j, s.jobs.find? r.lease.id = some j ∧
    r.lease.leaseGeneration ≤ j.leaseGeneration

variable {sessionID projectID} {s : Analyses}

theorem Inv.readable (inv : Inv sessionID s) (late : seq ∈ s.late) :
    seq ∈ s.readableChunks := by
  obtain ⟨c, found, -, scrubbed⟩ := inv.late seq late
  refine List.mem_map.mpr ⟨c, ?_, Table.key_of_find? found⟩
  rw [Table.mem_select, Table.key_of_find? found]
  exact ⟨found, scrubbed rfl⟩

theorem Inv.uploads (inv : Inv sessionID s) (uploads : Uploads)
    (keeps : ∀ seq readable, Uploaded s.toUploads seq readable → Uploaded uploads seq readable) :
    Inv sessionID { s with toUploads := uploads } where
  covered := inv.covered
  late seq member := keeps seq true (inv.late seq member)
  scrubs seq member := keeps seq false (inv.scrubs seq member)
  marks m member := keeps m.seq false (inv.marks m member)
  runs := inv.runs

theorem Inv.setStatus (inv : Inv sessionID s) (status : SessionStatus) :
    Inv sessionID { s with toUploads := s.setStatus status } :=
  inv.uploads _ fun _ _ uploaded => uploaded.of_chunks rfl

theorem Inv.insertJob (inv : Inv sessionID s) {jobs : JobTable} {j : Job}
    (inserted : s.jobs.insert? j = some jobs) : Inv sessionID { s with jobs } where
  covered seq member := (inv.covered seq member).imp_right fun ⟨k, old, covers⟩ =>
    ⟨k, (Table.mem_insert? inserted).mpr (Or.inr old), covers⟩
  late := inv.late
  scrubs := inv.scrubs
  marks := inv.marks
  runs r member := by
    obtain ⟨k, found, generation⟩ := inv.runs r member
    refine ⟨k, ?_, generation⟩
    have apart : r.lease.id ≠ j.id := by
      intro taken
      rw [taken, (Table.insert?_spec inserted).1] at found
      cases found
    rw [Table.find?_insert? inserted, if_neg apart, found]

theorem Inv.claimUnscrubbedChunk (inv : Inv sessionID s) (seq : Nat) :
    Inv sessionID (s.claimUnscrubbedChunk seq) := by
  unfold Analyses.claimUnscrubbedChunk
  split
  · exact inv
  rename_i c found
  split
  · rename_i claims
    refine ⟨inv.covered, inv.late, fun seq' member => ?_, inv.marks, inv.runs⟩
    rcases List.mem_cons.mp member with rfl | old
    · exact ⟨c, found, claims.2.1, nofun⟩
    · exact inv.scrubs seq' old
  · exact inv

theorem Inv.beginMark (inv : Inv sessionID s) (seq : Nat) : Inv sessionID (s.beginMark sessionID seq) := by
  unfold Analyses.beginMark
  split
  · rename_i claimed
    split
    · exact inv
    · rename_i marks inserted
      refine ⟨inv.covered, inv.late, inv.scrubs, fun m member => ?_, inv.runs⟩
      rcases (Table.mem_insert? inserted).mp member with rfl | old
      · exact inv.scrubs seq claimed
      · exact inv.marks m old
  · exact inv

theorem Inv.dropMark (inv : Inv sessionID s) (seq : Nat) : Inv sessionID (s.dropMark seq) where
  covered := inv.covered
  late := inv.late
  scrubs seq' member := inv.scrubs seq' (List.mem_of_mem_erase member)
  marks m member := inv.marks m (List.mem_of_mem_filter member)
  runs := inv.runs

theorem Uploaded.scrub {seq' : Nat} {readable : Bool}
    (uploaded : Uploaded s.toUploads seq' readable) (seq : Nat) (now : Timestamp) :
    Uploaded (s.markedChunk seq now).toUploads seq' (readable || seq' = seq) := by
  obtain ⟨c, found, isUploaded, scrubbed⟩ := uploaded
  have lookup := s.chunks.find?_updateWhere_of (fun c => c.seq = seq) (scrubRow now) (fun _ => rfl) found
  have own := Table.key_of_find? found
  refine ⟨_, lookup, ?_, fun asked => ?_⟩
  · split
    · exact isUploaded
    · exact isUploaded
  · split
    · rfl
    · rename_i other
      have apart : seq' ≠ seq := by simpa [own] using other
      exact scrubbed (by simpa [apart] using asked)

theorem Uploaded.weaken {u : Uploads} {readable : Bool} (uploaded : Uploaded u seq readable) :
    Uploaded u seq false := by
  obtain ⟨c, found, isUploaded, -⟩ := uploaded
  exact ⟨c, found, isUploaded, nofun⟩

theorem Inv.markedChunk (inv : Inv sessionID s) {now : Timestamp}
    (uploaded : Uploaded s.toUploads seq false)
    (covered : s.MakesLate seq → ∃ j ∈ s.jobs.rows, s.Covers sessionID seq j) :
    Inv sessionID (s.markedChunk seq now) := by
  have members : ∀ seq' ∈ (s.markedChunk seq now).late,
      seq' ∈ s.late ∨ (seq' = seq ∧ s.MakesLate seq) := by
    intro seq' member
    simp only [Analyses.markedChunk] at member
    split at member
    · rename_i late
      rcases List.mem_cons.mp member with rfl | old
      · exact Or.inr ⟨rfl, late⟩
      · exact Or.inl old
    · exact Or.inl member
  refine ⟨fun seq' member => ?_, fun seq' member => ?_, fun seq' member => ?_, fun m member => ?_, inv.runs⟩
  · rcases members seq' member with old | ⟨rfl, late⟩
    · exact inv.covered seq' old
    · exact Or.inr (covered late)
  · rcases members seq' member with old | ⟨rfl, -⟩
    · simpa using (inv.late seq' old).scrub seq now
    · simpa using uploaded.scrub seq' now
  · exact ((inv.scrubs seq' (List.mem_of_mem_erase member)).scrub seq now).weaken
  · exact ((inv.marks m (List.mem_of_mem_filter member)).scrub seq now).weaken

theorem Inv.commitMark (inv : Inv sessionID s) (seq : Nat) (jobID : UUID) (now : Timestamp)
    (covered : s.StaysCovered sessionID (.commitMark seq jobID now)) :
    Inv sessionID (s.commitMark sessionID projectID seq jobID now) := by
  unfold Analyses.commitMark
  split
  · exact inv
  rename_i m found
  have own := Table.key_of_find? found
  have uploaded : Uploaded s.toUploads seq false := own ▸ inv.marks m (Table.mem_of_find? found)
  split
  · split
    · exact inv
    · rename_i jobs inserted
      refine (inv.insertJob inserted).markedChunk uploaded fun _ => ?_
      exact ⟨_, (Table.mem_insert? inserted).mpr (Or.inl rfl), ⟨rfl, rfl⟩, Or.inl rfl⟩
  · rename_i silent
    refine inv.markedChunk uploaded fun late => ?_
    rcases covered late with enqueues | live
    · rw [found] at enqueues
      exact absurd enqueues silent
    · exact live

theorem Inv.closeIdleSessions (inv : Inv sessionID s) (idle : Bool) (jobID : UUID) (now : Timestamp) :
    Inv sessionID (s.closeIdleSessions sessionID projectID idle jobID now) := by
  unfold Analyses.closeIdleSessions
  split
  · split
    · exact inv
    · rename_i jobs inserted
      exact (inv.insertJob inserted).setStatus .closed
  · exact inv

variable {r : AnalysisRun}

theorem Inv.enter (inv : Inv sessionID s) {key : UUID × Nat} {phase : RunPhase}
    (found : s.runs.find? key = some r) (unfinished : ∀ chunks, r.phase ≠ .finished chunks)
    (reads : ∀ chunks ∈ phase.chunks, r.phase.chunks = some chunks ∨ ∀ seq ∈ s.late, seq ∈ chunks) :
    Inv sessionID (s.enter key phase) := by
  have rows := s.runs.mem_updateWhere (fun r => r.key = key) (AnalysisRun.enter phase) fun _ => rfl
  have lookup := s.runs.find?_updateKey key (AnalysisRun.enter phase) fun _ => rfl
  refine ⟨fun seq member => ?_, inv.late, inv.scrubs, inv.marks, fun r' member => ?_⟩
  · rcases inv.covered seq member with ⟨q, inTable, analyzed⟩ | ⟨j, inTable, ours, live⟩
    · refine Or.inl ⟨q, (rows q).mpr ⟨q, inTable, if_neg ?_⟩, analyzed⟩
      -- the execution that goes on has not finished
      intro own
      have same : q = r := by
        have foundQ := s.runs.find?_key inTable
        rw [of_decide_eq_true own, found] at foundQ
        exact (Option.some.inj foundQ).symm
      subst same
      unfold AnalysisRun.Analyzed at analyzed
      split at analyzed
      · rename_i chunks finished
        exact unfinished chunks finished
      · exact analyzed
    · refine Or.inr ⟨j, inTable, ours, live.imp_right fun ⟨claimed, lists⟩ => ⟨claimed, ?_⟩⟩
      intro q current chunks listed
      have current := (lookup (j.id, j.leaseGeneration)).symm.trans current
      split at current
      · rename_i own
        rw [found, Option.map_some, Option.some.injEq] at current
        subst current
        rcases reads chunks listed with before | all
        · exact lists r (own ▸ found) chunks before
        · exact all seq member
      · exact lists q current chunks listed
  · obtain ⟨q, inTable, rfl⟩ := (rows r').mp member
    have same : (if decide (q.key = key) then q.enter phase else q).lease = q.lease := by
      split <;> rfl
    rw [same]
    exact inv.runs q inTable

theorem Inv.writeStatus (inv : Inv sessionID s) {status : AnalysisStatus} {phase : RunPhase}
    (now : Timestamp) (entered : Inv sessionID (s.enter r.key phase)) :
    Inv sessionID (s.writeStatus r status phase now) := by
  unfold Analyses.writeStatus
  split
  · exact entered.setStatus status.toStatus
  · exact inv

theorem Inv.complete (inv : Inv sessionID s) {chunks : List Nat}
    (found : s.runs.find? r.key = some r) (finished : r.phase = .finished chunks)
    (now : Timestamp) :
    Inv sessionID { s with jobs := (Jobs.completeJob s.jobs r.lease.id r.lease.workerID
      r.lease.leaseGeneration now).1 } := by
  have rows := s.jobs.mem_updateWhere
    (fun j => j.Owned r.lease.id r.lease.workerID r.lease.leaseGeneration now) Jobs.complete fun _ => rfl
  refine ⟨fun seq member => ?_, inv.late, inv.scrubs, inv.marks, fun q inTable => ?_⟩
  · rcases inv.covered seq member with analyzed | ⟨j, inTable, ours, live⟩
    · exact Or.inl analyzed
    · by_cases owned : j.Owned r.lease.id r.lease.workerID r.lease.leaseGeneration now
      · left
        obtain ⟨id, -, generation, claimed, -⟩ := owned
        have lists := (live.resolve_left (by simp [claimed])).2
        rw [id, generation] at lists
        have listed := lists r found chunks (by rw [finished]; rfl)
        refine ⟨r, Table.mem_of_find? found, ?_⟩
        unfold AnalysisRun.Analyzed
        rw [finished]
        exact listed
      · exact Or.inr ⟨j, (rows j).mpr ⟨j, inTable, if_neg (by simpa using owned)⟩, ours, live⟩
  · obtain ⟨j, foundJ, generation⟩ := inv.runs q inTable
    refine ⟨_, s.jobs.find?_updateWhere_of _ Jobs.complete (fun _ => rfl) foundJ, ?_⟩
    split
    · exact generation
    · exact generation

theorem Inv.runStep (inv : Inv sessionID s) (key : UUID × Nat) (step : RunStep) (now : Timestamp) :
    Inv sessionID (s.runStep key step now) := by
  unfold Analyses.runStep
  split
  · exact inv
  rename_i r found
  obtain rfl := Table.key_of_find? found
  split
  · rename_i phase
    exact inv.writeStatus now (inv.enter found (by simp [phase]) nofun)
  · rename_i phase
    refine inv.enter found (by simp [phase]) fun chunks read => Or.inr fun seq late => ?_
    obtain rfl : s.readableChunks = chunks := Option.some.inj read
    exact inv.readable late
  · rename_i chunks phase
    refine inv.writeStatus now (inv.enter found (by simp [phase]) fun chunks' listed => Or.inl ?_)
    rw [phase]
    exact listed
  · rename_i phase
    exact inv.writeStatus now (inv.enter found (by simp [phase]) nofun)
  · rename_i phase
    exact inv.writeStatus now (inv.enter found (by simp [phase]) nofun)
  · rename_i phase
    exact inv.writeStatus now (inv.enter found (by simp [phase]) nofun)
  · rename_i phase
    exact inv.complete found phase now
  · exact inv

theorem Covers.active {j : Job} (covers : s.Covers sessionID seq j) : j.Active :=
  covers.2.imp_right And.left

theorem Covers.survives {seq : Nat} {j j' : Job} (covers : s.Covers sessionID seq j)
    (survives : j.Survives j') (id : j'.id = j.id) : s.Covers sessionID seq j' := by
  obtain ⟨⟨kind, session⟩, live⟩ := covers
  refine ⟨⟨survives.jobType.trans kind, survives.sessionID.trans session⟩, ?_⟩
  rcases survives.live with waits | ⟨claimed, still, generation⟩
  · exact Or.inl waits
  · right
    rw [id, generation]
    exact ⟨still, (live.resolve_left (by simp [claimed])).2⟩

theorem Inv.leases (inv : Inv sessionID s) {jobs : JobTable} (steps : Jobs.Steps s.jobs jobs) :
    ∀ r ∈ s.runs.rows, ∃ j, jobs.find? r.lease.id = some j ∧
      r.lease.leaseGeneration ≤ j.leaseGeneration := by
  intro r member
  obtain ⟨j, found, generation⟩ := inv.runs r member
  obtain ⟨j', found', step⟩ := steps _ j found
  exact ⟨j', found', Nat.le_trans generation step.generation_le⟩

theorem Inv.queueStep (inv : Inv sessionID s) {a : Jobs.Action}
    (covered : s.StaysCovered sessionID (.job a))
    (unclaimed : ∀ workerID leaseDurationMs caps locked now,
      a ≠ .claimJob workerID leaseDurationMs caps locked now)
    (uncompleted : ∀ jobID workerID leaseGeneration now,
      a = .completeJob jobID workerID leaseGeneration now → ∀ j ∈ s.jobs.rows, Ours sessionID j →
        jobID ≠ j.id) :
    Inv sessionID { s with jobs := Jobs.step s.jobs a } := by
  refine ⟨fun seq member => ?_, inv.late, inv.scrubs, inv.marks, inv.leases (Jobs.steps_step _ a)⟩
  by_cases analyzed : s.Analyzed seq
  · exact Or.inl analyzed
  · obtain ⟨j, inTable, covers, kept⟩ := covered seq member analyzed
    obtain ⟨j', found', survives⟩ := Jobs.step_survives s.jobs (s.jobs.find?_key inTable)
      covers.active kept unclaimed fun jobID workerID leaseGeneration now completes =>
        uncompleted jobID workerID leaseGeneration now completes j inTable covers.1
    exact Or.inr ⟨j', Table.mem_of_find? found', covers.survives survives (Table.key_of_find? found')⟩

theorem Inv.claimJob (inv : Inv sessionID s) (workerID : String) (leaseDurationMs : Int)
    (caps : Jobs.ClaimCaps) (locked : List UUID) (now : Timestamp) :
    Inv sessionID (s.jobStep sessionID (.claimJob workerID leaseDurationMs caps locked now)) := by
  have steps := Jobs.steps_step s.jobs (.claimJob workerID leaseDurationMs caps locked now)
  simp only [Analyses.jobStep]
  unfold Jobs.step at steps
  cases chosen : Jobs.candidate s.jobs caps locked now with
  | none =>
    simp only [Jobs.claimJob, chosen]
    exact ⟨inv.covered, inv.late, inv.scrubs, inv.marks, inv.runs⟩
  | some c =>
    obtain ⟨present, pending⟩ := Jobs.candidate_spec chosen
    simp only [Jobs.claimJob, chosen] at steps ⊢
    have lookup := s.jobs.find?_updateKey c.id (Jobs.claim workerID leaseDurationMs now)
      (Jobs.claim_id workerID leaseDurationMs now)
    have leases := inv.leases steps
    -- no execution has the generation this claim begins
    have fresh : s.runs.find? (c.id, c.leaseGeneration + 1) = none := by
      rw [Table.find?_eq_none_iff]
      rintro r member own
      obtain ⟨j, found, generation⟩ := inv.runs r member
      simp only [AnalysisRun.key, Prod.mk.injEq] at own
      rw [own.1, present, Option.some.injEq] at found
      subst found
      omega
    have other : ∀ {j : Job}, j ∈ s.jobs.rows → j.id ≠ c.id →
        j ∈ (s.jobs.updateKey c.id (Jobs.claim workerID leaseDurationMs now)
          (Jobs.claim_id workerID leaseDurationMs now)).rows := by
      intro j inTable apart
      refine Table.mem_of_find? ((lookup j.id).trans ?_)
      rw [if_neg apart, s.jobs.find?_key inTable]
    split
    · rename_i ours
      refine ⟨fun seq member => ?_, inv.late, inv.scrubs, inv.marks, fun r member => ?_⟩
      · rcases inv.covered seq member with ⟨r, inTable, analyzed⟩ | ⟨j, inTable, ours, live⟩
        · exact Or.inl ⟨r, Table.mem_insertIgnore_of_mem _ inTable, analyzed⟩
        · right
          have runs := s.runs.find?_insertIgnore
            ⟨(Jobs.claim workerID leaseDurationMs now c).lease workerID, .claimed⟩
          by_cases own : j.id = c.id
          · have same : j = c := s.jobs.inj inTable
              (Table.mem_of_find? present) own
            subst same
            refine ⟨Jobs.claim workerID leaseDurationMs now j, ?_, ours, Or.inr ⟨rfl, ?_⟩⟩
            · refine Table.mem_of_find? ((lookup j.id).trans ?_)
              rw [if_pos rfl, present, Option.map_some]
            · intro r current
              have current := (runs (j.id, j.leaseGeneration + 1)).symm.trans current
              rw [fresh] at current
              simp only [Option.none_or] at current
              split at current
              · obtain rfl := Option.some.inj current
                exact nofun
              · cases current
          · refine ⟨j, other inTable own, ours, live.imp_right fun ⟨claimed, lists⟩ => ⟨claimed, ?_⟩⟩
            intro r current
            have current := (runs (j.id, j.leaseGeneration)).symm.trans current
            have apart : (j.id, j.leaseGeneration) ≠
                AnalysisRun.key ⟨(Jobs.claim workerID leaseDurationMs now c).lease workerID, .claimed⟩ :=
              fun same => own (congrArg Prod.fst same)
            rw [if_neg apart, Option.or_none] at current
            exact lists r current
      · rcases Table.mem_insertIgnore member with old | rfl
        · exact leases r old
        · refine ⟨Jobs.claim workerID leaseDurationMs now c, (lookup c.id).trans ?_, Nat.le_refl _⟩
          rw [if_pos rfl, present, Option.map_some]
    · rename_i foreign
      refine ⟨fun seq member => ?_, inv.late, inv.scrubs, inv.marks, leases⟩
      refine (inv.covered seq member).imp_right fun ⟨j, inTable, covers⟩ => ?_
      have apart : j.id ≠ c.id := by
        intro own
        have same : j = c := s.jobs.inj inTable
          (Table.mem_of_find? present) own
        subst same
        exact foreign covers.1
      exact ⟨j, other inTable apart, covers⟩

theorem Inv.jobStep (inv : Inv sessionID s) (a : Jobs.Action)
    (covered : s.StaysCovered sessionID (.job a)) : Inv sessionID (s.jobStep sessionID a) := by
  cases a with
  | claimJob workerID leaseDurationMs caps locked now =>
    exact inv.claimJob workerID leaseDurationMs caps locked now
  | completeJob jobID workerID leaseGeneration now =>
    simp only [Analyses.jobStep]
    split
    · exact inv
    · rename_i foreign
      refine inv.queueStep covered nofun fun jobID' _ _ _ completes j inTable ours taken => ?_
      cases completes
      exact foreign (List.any_eq_true.mpr ⟨j, inTable, decide_eq_true ⟨taken.symm, ours⟩⟩)
  | requeueStaleJobs candidateIDs jitter now =>
    have stepped := inv.queueStep covered nofun nofun
    simp only [Analyses.jobStep]
    split
    · split
      · exact inv
      · exact stepped.setStatus .analysisFailed
    · exact stepped
  | enqueue => exact inv.queueStep covered nofun nofun
  | heartbeat => exact inv.queueStep covered nofun nofun
  | rescheduleJob => exact inv.queueStep covered nofun nofun
  | failJob => exact inv.queueStep covered nofun nofun
  | requeueDeadLetters => exact inv.queueStep covered nofun nofun

theorem Inv.start : Inv sessionID start := ⟨nofun, nofun, nofun, nofun, nofun⟩

theorem Inv.step (inv : Inv sessionID s) (a : Action) (covered : s.StaysCovered sessionID a) :
    Inv sessionID (s.step sessionID projectID a) := by
  cases a with
  | upload u => exact inv.uploads _ fun _ _ uploaded => uploaded.uploadStep u
  | closeIdleSessions idle jobID now => exact inv.closeIdleSessions idle jobID now
  | claimUnscrubbedChunk seq => exact inv.claimUnscrubbedChunk seq
  | beginMark seq => exact inv.beginMark seq
  | commitMark seq jobID now => exact inv.commitMark seq jobID now covered
  | dropMark seq => exact inv.dropMark seq
  | job a => exact inv.jobStep a covered
  | run key step now => exact inv.runStep key step now

variable (sessionID projectID)

theorem whole_truth (actions : List Action)
    (covered : (machine sessionID projectID).Guarded (StaysCovered sessionID) start actions) :
    WholeTruth sessionID ((machine sessionID projectID).run start actions) := by
  have inv := (machine sessionID projectID).invariant_guarded (Inv sessionID)
    (fun _ a inv covered => inv.step a covered) Inv.start covered
  intro idle _ seq late
  refine (inv.covered seq late).resolve_right ?_
  rintro ⟨j, inTable, covers⟩
  exact idle j inTable covers.1 covers.active

/-- Chunk `seq` is uploaded, and the scrubber claims it. -/
def scrubbing (id : UUID) (seq : Nat) : List Action :=
  [.upload (.reserveChunkSeq id seq 40 true), .upload (.move id .beginPut), .upload (.storeObject id),
    .upload (.move id (.putReturned true)), .upload (.markChunk id), .upload (.rollUp id),
    .upload (.move id .sendCommit), .upload (.applyCommit id 1), .claimUnscrubbedChunk seq]

/-- A worker claims an analysis of the session and begins it. -/
def analyzing (id : UUID) (now : Timestamp) : List Action :=
  [.job (.claimJob "worker-1" 60000 {} [] now), .run (id, 1) .analyze now]

def finishing (id : UUID) (now : Timestamp) : List Action :=
  [.run (id, 1) .finish now, .run (id, 1) .complete now]

/-- A chunk becomes readable before the analysis that the close enqueued reads its list, and
another one after that analysis is done. -/
def twoAnalyses : List Action :=
  scrubbing 1 0 ++ scrubbing 2 1 ++ [Action.closeIdleSessions true 10 5] ++ analyzing 10 6 ++
    ([.beginMark 0, .commitMark 0 11 7, .run (10, 1) .readChunks 8] : List Action) ++
    finishing 10 9 ++ ([.beginMark 1, .commitMark 1 12 20] : List Action) ++ analyzing 12 21 ++
    [Action.run (12, 1) .readChunks 22] ++
    finishing 12 23

theorem whole_truth_two :
    (machine "session" 7).Guarded (StaysCovered "session") start twoAnalyses ∧
      WholeTruth "session" ((machine "session" 7).run start twoAnalyses) := by
  have covered : (machine "session" 7).Guarded (StaysCovered "session") start twoAnalyses := by
    decide +kernel
  exact ⟨covered, whole_truth "session" 7 _ covered⟩

def scrubbedDuringAnalysis : List Action :=
  scrubbing 1 0 ++ [Action.closeIdleSessions true 10 5] ++ analyzing 10 6 ++
    ([.run (10, 1) .readChunks 7, .beginMark 0, .commitMark 0 11 8] : List Action) ++
    finishing 10 9

theorem late_chunk_unanalyzed :
    ¬WholeTruth "session" ((machine "session" 7).run start scrubbedDuringAnalysis) := by
  intro truth
  have analyzed := truth (by decide +kernel) (by decide +kernel) 0 (by decide +kernel)
  exact absurd analyzed (by decide +kernel)

end Analyses

end Opslane.Sessions
