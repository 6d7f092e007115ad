import Mathlib.Algebra.GroupWithZero.Nat
import Opslane.Sessions.Uploads

/-!
# Chunk accounting

What a session counts is what was committed to it. Two attempts never own one chunk at a
time: an attempt owns the row it reserved until its handler is done and its transaction has
ended. Three orders break the accounts: a cleanup removes the object of a chunk that its
own attempt committed; retention marks the session between the two statements of
`CommitChunk`; and an analysis gives a session under deletion another status.
-/

namespace Opslane.Sessions

namespace Uploads

/-- The session counts its committed chunks, each committed once and in storage. -/
structure Accounted (s : Uploads) : Prop where
  count : s.session.chunkCount = (committedChunks s.chunks).length
  bytes : s.session.bytesStored = ((committedChunks s.chunks).map fun c => c.sizeBytes.getD 0).sum
  next : ∀ c ∈ committedChunks s.chunks, c.seq < s.session.nextChunkSeq
  once : s.commits.Nodup
  inStorage : ∀ c ∈ committedChunks s.chunks, c.seq ∈ s.objects

/-- Every state of the run is accounted, and no step commits to a tombstoned session. -/
def ChunksAccounted (actions : List Action) : Prop :=
  ∀ before a after, actions = before ++ a :: after →
    let s := machine.run start before
    Accounted (s.step a) ∧ (s.tombstoned = true → (s.step a).commits = s.commits)

/-- No attempt both removes its object and commits, and no statement that does not ask for
the status of the session runs while the session is being deleted. -/
def Settled (s : Uploads) : Action → Prop
  | .upload (.removeObject id outcome) =>
    ∀ a ∈ s.attempts.find? id, outcome.executed → a.commit ≠ .applied
  | .upload (.applyCommit id _) => ∀ a ∈ s.attempts.find? id, a.removed = false
  | .upload (.rollUp _) => s.session.status ≠ .deleting
  | .setSessionAnalysisStatus _ => s.session.status ≠ .deleting
  | _ => True

instance (s : Uploads) (a : Action) : Decidable (Settled s a) := by
  unfold Settled
  split <;> infer_instance

end Uploads

namespace Attempt

/-- The handler or the transaction may still act on the chunk. -/
def Owns (a : Attempt) : Prop := a.handler ≠ .done ∨ a.HoldsChunk

/-- A step of an attempt that leaves its chunk and its object alone. -/
structure Continues (a a' : Attempt) : Prop where
  seq : a'.seq = a.seq
  stored : a'.stored = a.stored
  removed : a'.removed = a.removed
  owns : a'.Owns → a.Owns
  holdsSession : a'.HoldsSession → a.HoldsSession
  applied : a.commit = .applied → a'.commit = .applied
  sent : a'.handler = .committing ∨ a'.HoldsChunk →
    a.handler = .committing ∨ a.HoldsChunk ∨ a.stored = true

variable {a : Attempt}

theorem Continues.refl (a : Attempt) : a.Continues a where
  seq := rfl
  stored := rfl
  removed := rfl
  owns held := held
  holdsSession held := held
  applied applied := applied
  sent held := held.imp_right Or.inl

theorem Continues.handler {phase : HandlerPhase} (requested : Bool)
    (owned : phase = .done ∨ a.handler ≠ .done) (sent : phase = .committing → a.stored = true) :
    a.Continues { a with handler := phase, requested } where
  seq := rfl
  stored := rfl
  removed := rfl
  owns held := by
    rcases held with running | holds
    · exact Or.inl (owned.resolve_left running)
    · exact Or.inr holds
  holdsSession held := held
  applied applied := applied
  sent held := by
    rcases held with committing | holds
    · exact Or.inr (Or.inr (sent committing))
    · exact Or.inr (Or.inl holds)

theorem Continues.ite {p : Prop} [Decidable p] {a' : Attempt} (taken : p → a.Continues a') :
    a.Continues (if p then a' else a) := by
  split
  · rename_i h
    exact taken h
  · exact .refl a

theorem move_continues (m : Move) (a : Attempt) : a.Continues (a.move m) := by
  have running {phase : HandlerPhase} (at_ : a.handler = phase) (alive : phase ≠ .done) :
      a.handler ≠ .done := at_ ▸ alive
  cases m with
  | overBudget =>
    exact .ite fun reserved => .handler _ (Or.inr (running reserved nofun)) nofun
  | beginPut =>
    exact .ite fun reserved => .handler _ (Or.inr (running reserved nofun)) nofun
  | putReturned ok =>
    cases ok with
    | true => exact .ite fun put => .handler _ (Or.inr (running put.1 nofun)) fun _ => put.2
    | false => exact .ite fun putting => .handler _ (Or.inr (running putting nofun)) nofun
  | sendCommit =>
    refine .ite fun ready => ?_
    have holds : a.HoldsSession := Or.inl ready.2
    exact ⟨rfl, rfl, rfl, fun _ => Or.inr (Or.inr holds), fun _ => holds,
      fun applied => by simp [ready.2] at applied, fun _ => Or.inl ready.1⟩
  | commitReturned ok =>
    cases ok with
    | true => exact .ite fun _ => .handler _ (Or.inl rfl) nofun
    | false => exact .ite fun committing => .handler _ (Or.inr (running committing nofun)) nofun
  | rollback =>
    refine .ite fun holds => ⟨rfl, rfl, rfl, fun _ => Or.inr holds, ?_, ?_, fun held => ?_⟩
    · rintro (rolled | rolled) <;> cases rolled
    · intro applied
      simp [HoldsChunk, applied] at holds
    · rcases held with committing | locked
      · exact Or.inl committing
      · rcases locked with rolled | rolled | rolled <;> cases rolled
  | crash => exact .handler _ (Or.inl rfl) nofun

end Attempt

namespace Uploads

/-- What an attempt that owns its chunk may rely on. -/
structure AttemptOk (s : Uploads) (a : Attempt) : Prop where
  row : a.Owns → ∃ c, s.chunks.find? a.seq = some c ∧ (c.uploadedAt = none ∨ a.commit = .applied)
  sent : a.handler = .committing ∨ a.HoldsChunk → a.stored = true
  object : a.Owns → a.stored = true → a.removed = true ∨ a.seq ∈ s.objects
  live : a.HoldsSession → s.session.status ≠ .deleting

/-- The accounts, and what ties them to the commits and the tombstone. -/
structure Books (s : Uploads) : Prop where
  accounted : Accounted s
  commits : ∀ seq ∈ s.commits, ∃ c ∈ committedChunks s.chunks, c.seq = seq
  tombstone : s.tombstoned = true → s.session.status = .deleting

structure Inv (s : Uploads) : Prop where
  books : Books s
  attempt : ∀ a ∈ s.attempts.rows, AttemptOk s a
  owner : ∀ a ∈ s.attempts.rows, ∀ b ∈ s.attempts.rows, a.Owns → b.Owns → a.seq = b.seq → a.id = b.id

variable {s s' : Uploads} {a : Attempt}

theorem Books.frame (books : Books s) (session : s'.session = s.session)
    (chunks : s'.chunks = s.chunks) (objects : s'.objects = s.objects)
    (commits : s'.commits = s.commits) (tombstoned : s'.tombstoned = s.tombstoned) : Books s' := by
  obtain ⟨⟨count, bytes, next, once, inStorage⟩, committed, tombstone⟩ := books
  rw [← session, ← chunks] at count bytes next
  rw [← commits] at once committed
  rw [← chunks, ← objects] at inStorage
  rw [← chunks] at committed
  rw [← session, ← tombstoned] at tombstone
  exact ⟨⟨count, bytes, next, once, inStorage⟩, committed, tombstone⟩

theorem Inv.update (inv : Inv s) (found : s.attempts.find? a.id = some a) (f : Attempt → Attempt)
    (frame : ∀ b, (f b).id = b.id) (attempts : s'.attempts = s.attempts.updateKey a.id f frame)
    (books : Books s') (seq : (f a).seq = a.seq) (owns : (f a).Owns → a.Owns)
    (self : AttemptOk s' (f a))
    (others : ∀ b ∈ s.attempts.rows, b.id ≠ a.id → AttemptOk s' b) : Inv s' := by
  have member : ∀ b' ∈ s'.attempts.rows,
      b' = f a ∨ (b' ∈ s.attempts.rows ∧ b'.id ≠ a.id) := by
    intro b' inTable
    rw [attempts, Table.updateKey, Table.mem_updateWhere] at inTable
    obtain ⟨b, old, rfl⟩ := inTable
    by_cases own : b.id = a.id
    · have same : b = a := s.attempts.inj old (Table.mem_of_find? found) own
      left
      simp [same]
    · right
      simpa [own] using old
  have inTable := Table.mem_of_find? found
  refine ⟨books, fun b' after => ?_, fun b' afterB c' afterC ownsB ownsC same => ?_⟩
  · rcases member b' after with rfl | ⟨old, differ⟩
    · exact self
    · exact others b' old differ
  · rcases member b' afterB with rfl | ⟨oldB, differB⟩ <;>
      rcases member c' afterC with rfl | ⟨oldC, differC⟩
    · rfl
    · rw [frame]
      exact inv.owner a inTable c' oldC (owns ownsB) ownsC (seq ▸ same)
    · rw [frame]
      exact inv.owner b' oldB a inTable ownsB (owns ownsC) (seq ▸ same)
    · exact inv.owner b' oldB c' oldC ownsB ownsC same

theorem Inv.continues (inv : Inv s) (found : s.attempts.find? a.id = some a)
    (f : Attempt → Attempt) (frame : ∀ b, (f b).id = b.id) (continues : a.Continues (f a)) :
    Inv { s with attempts := s.attempts.updateKey a.id f frame } := by
  have ok := inv.attempt a (Table.mem_of_find? found)
  refine inv.update found f frame rfl (inv.books.frame rfl rfl rfl rfl rfl) continues.seq continues.owns ?_
    fun b old _ => ?_
  · refine ⟨fun owns => ?_, fun held => ?_, fun owns stored => ?_, fun holds => ?_⟩
    · obtain ⟨c, row, state⟩ := ok.row (continues.owns owns)
      exact ⟨c, continues.seq ▸ row, state.imp_right continues.applied⟩
    · rw [continues.stored]
      rcases continues.sent held with committing | holds | stored
      · exact ok.sent (Or.inl committing)
      · exact ok.sent (Or.inr holds)
      · exact stored
    · rw [continues.removed, continues.seq]
      exact ok.object (continues.owns owns) (continues.stored ▸ stored)
    · exact ok.live (continues.holdsSession holds)
  · have same := inv.attempt b old
    exact ⟨same.row, same.sent, same.object, same.live⟩

theorem Inv.move (inv : Inv s) (id : UUID) (m : Attempt.Move) : Inv (s.move id m) := by
  cases found : s.attempts.find? id with
  | none =>
    have untouched : (s.move id m).attempts.rows = s.attempts.rows :=
      Table.map_updateKey_of_ne _ ((s.attempts.find?_eq_none_iff id).mp found)
    refine ⟨inv.books.frame rfl rfl rfl rfl rfl, ?_, ?_⟩
    · rw [untouched]
      intro b old
      have same := inv.attempt b old
      exact ⟨same.row, same.sent, same.object, same.live⟩
    · rw [untouched]
      exact inv.owner
  | some a =>
    obtain rfl := Table.key_of_find? found
    exact inv.continues found (Attempt.move m) (Attempt.move_id m) (Attempt.move_continues m a)

theorem AttemptOk.frame (ok : AttemptOk s a) (session : s'.session = s.session)
    (chunks : s'.chunks = s.chunks) (objects : s'.objects = s.objects) : AttemptOk s' a := by
  obtain ⟨row, sent, object, live⟩ := ok
  rw [← chunks] at row
  rw [← objects] at object
  rw [← session] at live
  exact ⟨row, sent, object, live⟩

theorem Inv.reserveChunkSeq (inv : Inv s) (id : UUID) (seq size : Nat) (acknowledged : Bool) :
    Inv (s.reserveChunkSeq id seq size acknowledged) := by
  unfold Uploads.reserveChunkSeq
  split
  · exact inv
  split
  · rename_i live chunks attempts reserved attempted
    obtain ⟨free, rows⟩ := Table.insert?_spec reserved
    have same : committedChunks chunks = committedChunks s.chunks := by
      simp [committedChunks, Table.select, rows]
    obtain ⟨⟨count, bytes, next, once, inStorage⟩, committed, tombstone⟩ := inv.books
    have books : Books { s with chunks, attempts } := by
      refine ⟨⟨?_, ?_, ?_, once, ?_⟩, ?_, tombstone⟩ <;> rw [same] <;> assumption
    have owned : ∀ b ∈ s.attempts.rows, b.Owns → b.seq ≠ seq := by
      intro b old owns taken
      obtain ⟨c, row, -⟩ := (inv.attempt b old).row owns
      rw [taken, free] at row
      cases row
    refine ⟨books, fun b member => ?_, fun b memberB c memberC ownsB ownsC together => ?_⟩
    · rcases (Table.mem_insert? attempted).mp member with rfl | old
      · refine ⟨fun _ => ⟨_, (Table.find?_insert? reserved seq).trans (if_pos rfl), Or.inl rfl⟩,
          ?_, fun _ stored => (by cases stored), ?_⟩
        · rintro (committing | holds | holds | holds)
          · cases acknowledged <;> cases committing
          all_goals cases holds
        · rintro (holds | holds) <;> cases holds
      · have ok := inv.attempt b old
        refine ⟨fun owns => ?_, ok.sent, ok.object, ok.live⟩
        obtain ⟨c, row, state⟩ := ok.row owns
        exact ⟨c, (Table.find?_insert? reserved b.seq).trans ((if_neg (owned b old owns)).trans row),
          state⟩
    · rcases (Table.mem_insert? attempted).mp memberB with rfl | oldB <;>
        rcases (Table.mem_insert? attempted).mp memberC with rfl | oldC
      · rfl
      · exact absurd together.symm (owned c oldC ownsC)
      · exact absurd together (owned b oldB ownsB)
      · exact inv.owner b oldB c oldC ownsB ownsC together
  · exact inv

theorem Inv.storeObject (inv : Inv s) (id : UUID) : Inv (s.storeObject id) := by
  unfold Uploads.storeObject
  split
  · exact inv
  rename_i a found
  obtain rfl := Table.key_of_find? found
  split
  · obtain ⟨⟨count, bytes, next, once, inStorage⟩, committed, tombstone⟩ := inv.books
    have ok := inv.attempt a (Table.mem_of_find? found)
    refine inv.update found Attempt.store (fun _ => rfl) rfl
      ⟨⟨count, bytes, next, once, fun c member => List.mem_cons_of_mem _ (inStorage c member)⟩,
        committed, tombstone⟩ rfl id ?_ fun b old _ => ?_
    · exact ⟨ok.row, fun _ => rfl, fun _ _ => Or.inr List.mem_cons_self, ok.live⟩
    · have same := inv.attempt b old
      exact ⟨same.row, same.sent, fun owns stored =>
        (same.object owns stored).imp_right (List.mem_cons_of_mem _), same.live⟩
  · exact inv

theorem Inv.markChunk (inv : Inv s) (id : UUID) : Inv (s.markChunk id) := by
  unfold Uploads.markChunk
  split
  · exact inv
  rename_i a found
  obtain rfl := Table.key_of_find? found
  split
  · exact inv
  rename_i ready
  simp only [ne_eq, not_or, Decidable.not_not] at ready
  obtain ⟨committing, idle, -⟩ := ready
  have running : a.handler ≠ .done := by
    rw [committing]
    decide
  have fails := inv.continues found Attempt.fail (fun _ => rfl)
    (Attempt.Continues.handler a.requested (Or.inr running) (by simp))
  have ok := inv.attempt a (Table.mem_of_find? found)
  dsimp only
  split
  · exact fails
  split
  · exact fails
  split
  · refine inv.update found Attempt.mark (fun _ => rfl) rfl (inv.books.frame rfl rfl rfl rfl rfl) rfl (fun _ => Or.inl running)
      ?_ fun b old _ => (inv.attempt b old).frame rfl rfl rfl
    refine ⟨fun _ => ?_, fun _ => ok.sent (Or.inl committing), fun _ => ok.object (Or.inl running), ?_⟩
    · obtain ⟨c, row, state⟩ := ok.row (Or.inl running)
      refine ⟨c, row, Or.inl (state.resolve_right ?_)⟩
      rw [idle]
      decide
    · rintro (holds | holds) <;> cases holds
  · exact inv.continues found Attempt.finish (fun _ => rfl)
      (Attempt.Continues.handler a.requested (Or.inl rfl) (by simp))

theorem Inv.rollUp (inv : Inv s) (id : UUID) (live : s.session.status ≠ .deleting) :
    Inv (s.rollUp id) := by
  unfold Uploads.rollUp
  split
  · exact inv
  rename_i a found
  obtain rfl := Table.key_of_find? found
  split
  · rename_i ready
    have holds : a.HoldsChunk := Or.inl ready.2.1
    have ok := inv.attempt a (Table.mem_of_find? found)
    refine inv.update found Attempt.rollUp (fun _ => rfl) rfl (inv.books.frame rfl rfl rfl rfl rfl) rfl (fun _ => Or.inr holds)
      ?_ fun b old _ => (inv.attempt b old).frame rfl rfl rfl
    refine ⟨fun _ => ?_, fun _ => ok.sent (Or.inr holds), fun _ => ok.object (Or.inr holds),
      fun _ => live⟩
    obtain ⟨c, row, state⟩ := ok.row (Or.inr holds)
    refine ⟨c, row, Or.inl (state.resolve_right ?_)⟩
    rw [ready.2.1]
    decide
  · exact inv

theorem committed_commitRow {chunks : ChunkTable} {c : SessionChunk} (size : Nat) (now : Timestamp)
    (found : chunks.find? c.seq = some c) (reserved : c.uploadedAt = none) :
    (committedChunks (chunks.updateKey c.seq (commitRow size now) fun _ => rfl)).Perm
      (commitRow size now c :: committedChunks chunks) := by
  obtain ⟨others, before, after⟩ := chunks.rows_updateKey_perm found (commitRow size now) fun _ => rfl
  have rest : (committedChunks chunks).Perm (others.filter fun c => c.uploadedAt.isSome) := by
    have filtered := before.filter fun c => c.uploadedAt.isSome
    rwa [List.filter_cons_of_neg (by simp [reserved])] at filtered
  have filtered := after.filter fun c => c.uploadedAt.isSome
  rw [List.filter_cons_of_pos (by rfl)] at filtered
  exact filtered.trans (rest.symm.cons _)

theorem Books.applyCommit (books : Books s) {c : SessionChunk} (size : Nat) (now : Timestamp)
    (found : s.chunks.find? c.seq = some c) (reserved : c.uploadedAt = none)
    (stored : c.seq ∈ s.objects) (attempts : Table Attempt.id) :
    Books { s with
      session := rollUpSession c.seq size s.session
      chunks := s.chunks.updateKey c.seq (commitRow size now) fun _ => rfl
      attempts
      commits := c.seq :: s.commits } := by
  obtain ⟨⟨count, bytes, next, once, inStorage⟩, committed, tombstone⟩ := books
  have chunks := committed_commitRow size now found reserved
  have members : ∀ d ∈ committedChunks (s.chunks.updateKey c.seq (commitRow size now) fun _ => rfl),
      d = commitRow size now c ∨ d ∈ committedChunks s.chunks := fun d member =>
    List.mem_cons.mp (chunks.mem_iff.mp member)
  refine ⟨⟨?_, ?_, fun d member => ?_, ?_, fun d member => ?_⟩, fun seq member => ?_, tombstone⟩
  · rw [chunks.length_eq, List.length_cons, ← count]
    rfl
  · rw [(chunks.map _).sum_nat, List.map_cons, List.sum_cons, ← bytes]
    exact Nat.add_comm _ _
  · show d.seq < max s.session.nextChunkSeq (c.seq + 1)
    rcases members d member with rfl | old
    · exact Nat.lt_of_lt_of_le (Nat.lt_succ_self c.seq) (Nat.le_max_right _ _)
    · exact Nat.lt_of_lt_of_le (next d old) (Nat.le_max_left _ _)
  · refine List.nodup_cons.mpr ⟨fun again => ?_, once⟩
    obtain ⟨d, member, same⟩ := committed c.seq again
    obtain ⟨row, uploaded⟩ := mem_committedChunks.mp member
    have found' := s.chunks.find?_key row
    rw [same, found] at found'
    cases found'
    rw [reserved] at uploaded
    cases uploaded
  · rcases members d member with rfl | old
    · exact stored
    · exact inStorage d old
  · rcases List.mem_cons.mp member with rfl | earlier
    · exact ⟨commitRow size now c, chunks.mem_iff.mpr List.mem_cons_self, rfl⟩
    · obtain ⟨d, old, same⟩ := committed seq earlier
      exact ⟨d, chunks.mem_iff.mpr (.tail _ old), same⟩

theorem Inv.applyCommit (inv : Inv s) (id : UUID) (now : Timestamp)
    (kept : ∀ a ∈ s.attempts.find? id, a.removed = false) :
    Inv (s.applyCommit id now) ∧
      (s.tombstoned = true → (s.applyCommit id now).commits = s.commits) := by
  unfold Uploads.applyCommit
  split
  · exact ⟨inv, fun _ => rfl⟩
  rename_i a found
  obtain rfl := Table.key_of_find? found
  split
  · rename_i sent
    have holds : a.HoldsChunk := Or.inr (Or.inr sent)
    have ok := inv.attempt a (Table.mem_of_find? found)
    obtain ⟨c, row, state⟩ := ok.row (Or.inr holds)
    have reserved : c.uploadedAt = none := state.resolve_right (by simp [sent])
    have here : a.seq ∈ s.objects := by
      refine (ok.object (Or.inr holds) (ok.sent (Or.inr holds))).resolve_left ?_
      simp [kept a found]
    have own := Table.key_of_find? row
    have live := ok.live (Or.inr sent)
    refine ⟨?_, fun tombstoned => absurd (inv.books.tombstone tombstoned) live⟩
    have books := inv.books.applyCommit a.size now (own ▸ row) reserved
      (own ▸ here) (s.attempts.updateKey a.id Attempt.apply fun _ => rfl)
    rw [own] at books
    have lookup := s.chunks.find?_updateKey a.seq (commitRow a.size now) fun _ => rfl
    refine inv.update found Attempt.apply (fun _ => rfl) rfl books rfl (fun _ => Or.inr holds) ?_ fun b old differ => ?_
    · refine ⟨fun _ => ⟨commitRow a.size now c, ?_, Or.inr rfl⟩, fun _ => ok.sent (Or.inr holds),
        fun _ => ok.object (Or.inr holds), ?_⟩
      · refine (lookup a.seq).trans ?_
        rw [if_pos rfl, row]
        rfl
      · rintro (held | held) <;> cases held
    · have same := inv.attempt b old
      refine ⟨fun owns => ?_, same.sent, same.object, fun held => same.live held⟩
      obtain ⟨d, rowB, stateB⟩ := same.row owns
      have apart : b.seq ≠ a.seq := fun together =>
        differ (inv.owner b old a (Table.mem_of_find? found) owns (Or.inr holds) together)
      exact ⟨d, (lookup b.seq).trans ((if_neg apart).trans rowB), stateB⟩
  · exact ⟨inv, fun _ => rfl⟩

theorem Inv.removeObject (inv : Inv s) (id : UUID) (outcome : Outcome)
    (free : ∀ a ∈ s.attempts.find? id, outcome.executed → a.commit ≠ .applied) :
    Inv (s.removeObject id outcome) := by
  unfold Uploads.removeObject
  split
  · exact inv
  rename_i a found
  obtain rfl := Table.key_of_find? found
  split
  · rename_i removing
    have owns : a.Owns := by
      left
      rw [removing]
      decide
    have ok := inv.attempt a (Table.mem_of_find? found)
    cases executed : outcome.executed with
    | false =>
      have failed : outcome = .failed := by
        cases outcome <;> first | rfl | cases executed
      subst failed
      refine inv.continues found (Attempt.remove .failed) (fun _ => rfl) ?_
      have unremoved : Attempt.remove .failed a = { a with handler := .done } := by
        simp [Attempt.remove, Outcome.executed]
      rw [unremoved]
      exact .handler a.requested (Or.inl rfl) nofun
    | true =>
      have uncommitted := free a found executed
      obtain ⟨c, row, state⟩ := ok.row owns
      have reserved : c.uploadedAt = none := state.resolve_right uncommitted
      have others : ∀ d ∈ committedChunks s.chunks, d.seq ≠ a.seq := by
        intro d member same
        obtain ⟨inTable, uploaded⟩ := mem_committedChunks.mp member
        have found' := s.chunks.find?_key inTable
        rw [same, row] at found'
        cases found'
        rw [reserved] at uploaded
        cases uploaded
      obtain ⟨⟨count, bytes, next, once, inStorage⟩, committed, tombstone⟩ := inv.books
      rw [if_pos rfl]
      refine inv.update found (Attempt.remove outcome) (fun _ => rfl) rfl
        ⟨⟨count, bytes, next, once, fun d member => ?_⟩, committed, tombstone⟩ rfl
        (fun _ => owns) ?_ fun b old differ => ?_
      · exact List.mem_filter.mpr ⟨inStorage d member, by simpa using others d member⟩
      · refine ⟨fun _ => ⟨c, row, Or.inl reserved⟩, fun held => ?_, fun _ _ => Or.inl ?_, ok.live⟩
        · rcases held with committing | holds
          · cases outcome <;> cases committing
          · exact ok.sent (Or.inr holds)
        · simp [Attempt.remove, executed]
      · have same := inv.attempt b old
        refine ⟨same.row, same.sent, fun ownsB stored => ?_, same.live⟩
        refine (same.object ownsB stored).imp_right fun here => List.mem_filter.mpr ⟨here, ?_⟩
        have apart : b.seq ≠ a.seq := fun together =>
          differ (inv.owner b old a (Table.mem_of_find? found) ownsB owns together)
        simpa using apart
  · exact inv

theorem Inv.releaseReservation (inv : Inv s) (id : UUID) (outcome : Outcome) :
    Inv (s.releaseReservation id outcome) := by
  unfold Uploads.releaseReservation
  split
  · exact inv
  rename_i a found
  obtain rfl := Table.key_of_find? found
  split
  · rename_i ready
    have owns : a.Owns := by
      left
      rw [ready.1]
      decide
    have released : ¬a.finish.Owns := by
      rintro (running | holds)
      · exact running rfl
      · have locked : s.chunkLocked a.seq = true :=
          List.any_eq_true.mpr ⟨a, Table.mem_of_find? found, decide_eq_true ⟨rfl, holds⟩⟩
        exact ready.2 locked
    have ok := inv.attempt a (Table.mem_of_find? found)
    cases executed : outcome.executed with
    | false =>
      rw [if_neg nofun]
      exact inv.continues found Attempt.finish (fun _ => rfl)
        (Attempt.Continues.handler a.requested (Or.inl rfl) nofun)
    | true =>
      rw [if_pos rfl]
      have same : committedChunks (s.chunks.deleteWhere fun c => c.seq = a.seq ∧ c.uploadedAt = none) =
          committedChunks s.chunks := by
        simp only [committedChunks, Table.select, Table.deleteWhere, List.filter_filter]
        refine List.filter_congr fun c _ => ?_
        cases c.uploadedAt <;> simp
      obtain ⟨⟨count, bytes, next, once, inStorage⟩, committed, tombstone⟩ := inv.books
      refine inv.update found Attempt.finish (fun _ => rfl) rfl ⟨⟨?_, ?_, ?_, once, ?_⟩, ?_, tombstone⟩ rfl
        (fun _ => owns) ?_ fun b old differ => ?_
      · rw [same]
        exact count
      · rw [same]
        exact bytes
      · rw [same]
        exact next
      · rw [same]
        exact inStorage
      · rw [same]
        exact committed
      · refine ⟨fun held => absurd held released, ?_, fun held => absurd held released, ok.live⟩
        rintro (committing | holds)
        · cases committing
        · exact absurd (Or.inr holds) released
      · have sameB := inv.attempt b old
        refine ⟨fun ownsB => ?_, sameB.sent, sameB.object, sameB.live⟩
        obtain ⟨c, row, state⟩ := sameB.row ownsB
        refine ⟨c, ?_, state⟩
        have apart : b.seq ≠ a.seq := fun together =>
          differ (inv.owner b old a (Table.mem_of_find? found) ownsB owns together)
        rw [Table.find?_deleteWhere, row]
        have own := Table.key_of_find? row
        simp [own, apart]
  · exact inv

theorem Inv.setStatus (inv : Inv s) (free : s.sessionLocked = false) {status : SessionStatus}
    {tombstoned : Bool} (tombstone : tombstoned = true → status = .deleting) :
    Inv { s with session := { s.session with status }, tombstoned } := by
  obtain ⟨⟨count, bytes, next, once, inStorage⟩, committed, -⟩ := inv.books
  refine ⟨⟨⟨count, bytes, next, once, inStorage⟩, committed, tombstone⟩, fun a member => ?_, inv.owner⟩
  have ok := inv.attempt a member
  refine ⟨ok.row, ok.sent, ok.object, fun holds => ?_⟩
  have locked : s.sessionLocked = true := List.any_eq_true.mpr ⟨a, member, by simpa using holds⟩
  rw [free] at locked
  cases locked

theorem Inv.start : Inv start := by
  refine ⟨⟨⟨rfl, rfl, nofun, List.nodup_nil, nofun⟩, nofun, nofun⟩, nofun, nofun⟩

theorem Inv.uploadStep (inv : Inv s) (u : UploadAction) (settled : Settled s (.upload u)) :
    Inv (s.uploadStep u) ∧ (s.tombstoned = true → (s.uploadStep u).commits = s.commits) := by
  cases u with
  | reserveChunkSeq id seq size acknowledged =>
    refine ⟨inv.reserveChunkSeq id seq size acknowledged, fun _ => ?_⟩
    simp only [Uploads.uploadStep, Uploads.reserveChunkSeq]
    repeat' split
    all_goals rfl
  | move id m => exact ⟨inv.move id m, fun _ => rfl⟩
  | storeObject id =>
    refine ⟨inv.storeObject id, fun _ => ?_⟩
    simp only [Uploads.uploadStep, Uploads.storeObject]
    repeat' split
    all_goals rfl
  | markChunk id =>
    refine ⟨inv.markChunk id, fun _ => ?_⟩
    simp only [Uploads.uploadStep, Uploads.markChunk]
    repeat' split
    all_goals rfl
  | rollUp id =>
    refine ⟨inv.rollUp id settled, fun _ => ?_⟩
    simp only [Uploads.uploadStep, Uploads.rollUp]
    repeat' split
    all_goals rfl
  | applyCommit id now => exact inv.applyCommit id now settled
  | removeObject id outcome =>
    refine ⟨inv.removeObject id outcome settled, fun _ => ?_⟩
    simp only [Uploads.uploadStep, Uploads.removeObject]
    repeat' split
    all_goals rfl
  | releaseReservation id outcome =>
    refine ⟨inv.releaseReservation id outcome, fun _ => ?_⟩
    simp only [Uploads.uploadStep, Uploads.releaseReservation]
    repeat' split
    all_goals rfl
  | markSessionDeleting expired =>
    simp only [Uploads.uploadStep, Uploads.markSessionDeleting]
    split
    · exact ⟨inv, fun _ => rfl⟩
    · rename_i waits
      simp only [not_or, Bool.not_eq_true] at waits
      exact ⟨inv.setStatus waits.2.2 fun _ => rfl, fun _ => rfl⟩

theorem Inv.step (inv : Inv s) (a : Action) (settled : Settled s a) :
    Inv (s.step a) ∧ (s.tombstoned = true → (s.step a).commits = s.commits) := by
  cases a with
  | upload u => exact inv.uploadStep u settled
  | closeIdleSession idle =>
    simp only [Uploads.step, Uploads.closeIdleSession]
    split
    · rename_i closes
      refine ⟨inv.setStatus (by simpa using closes.2.2) fun tombstoned => ?_, fun _ => rfl⟩
      rw [inv.books.tombstone tombstoned] at closes
      cases closes.1
    · exact ⟨inv, fun _ => rfl⟩
  | setSessionAnalysisStatus status =>
    simp only [Uploads.step, Uploads.setSessionAnalysisStatus]
    split
    · exact ⟨inv, fun _ => rfl⟩
    · rename_i free
      exact ⟨inv.setStatus (by simpa using free) fun tombstoned =>
        absurd (inv.books.tombstone tombstoned) settled, fun _ => rfl⟩

theorem chunks_accounted (actions : List Action) (settled : machine.Guarded Settled start actions) :
    ChunksAccounted actions := by
  rintro before a after rfl
  obtain ⟨settledBefore, guard, -⟩ := (machine.guarded_append _ _ _ _).mp settled
  have inv := machine.invariant_guarded Inv (fun _ a inv guard => (inv.step a guard).1) Inv.start
    settledBefore
  obtain ⟨next, frozen⟩ := inv.step a guard
  exact ⟨next.books.accounted, frozen⟩

/-- The object of the attempt is put, and its transaction gets as far as its COMMIT. -/
def uploadOf (id : UUID) (seq size : Nat) : List Action :=
  [.upload (.reserveChunkSeq id seq size true), .upload (.move id .beginPut),
    .upload (.storeObject id), .upload (.move id (.putReturned true)), .upload (.markChunk id),
    .upload (.rollUp id), .upload (.move id .sendCommit)]

/-- One attempt fails after its object was stored, and cleans up; its retry and another
chunk are committed, the handler of the latter without hearing of it; then the session
is closed and deleted. -/
def retriedUpload : List Action :=
  ([.upload (.reserveChunkSeq 1 0 40 true), .upload (.move 1 .beginPut), .upload (.storeObject 1),
    .upload (.move 1 (.putReturned false)), .upload (.removeObject 1 .acknowledged),
    .upload (.releaseReservation 1 .acknowledged)] : List Action) ++
  uploadOf 2 0 40 ++ [Action.upload (.applyCommit 2 7), Action.upload (.move 2 (.commitReturned true))] ++
  uploadOf 3 1 50 ++ [Action.upload (.move 3 .crash), Action.upload (.applyCommit 3 9)] ++
  [Action.closeIdleSession true, Action.upload (.markSessionDeleting true)]

theorem chunks_accounted_retried :
    machine.Guarded Settled start retriedUpload ∧ ChunksAccounted retriedUpload := by
  have settled : machine.Guarded Settled start retriedUpload := by decide +kernel
  exact ⟨settled, chunks_accounted _ settled⟩

def unacknowledgedCommit : List Action :=
  uploadOf 1 0 40 ++
    [Action.upload (.applyCommit 1 7), Action.upload (.move 1 (.commitReturned false))]

theorem committed_object_removed :
    ¬ChunksAccounted (unacknowledgedCommit ++ [Action.upload (.removeObject 1 .acknowledged)]) := by
  intro accounted
  obtain ⟨after, -⟩ := accounted unacknowledgedCommit (.upload (.removeObject 1 .acknowledged)) [] rfl
  have gone := after.inStorage ⟨0, some 40, some 7, none⟩ (by decide +kernel)
  exact absurd gone (by decide +kernel)

end Uploads

end Opslane.Sessions
