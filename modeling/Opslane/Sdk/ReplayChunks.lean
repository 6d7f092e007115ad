import Opslane.Sdk.Replay

/-!
# Chunks of a replay

A sequence number of a session is given out once, by the counter of the session or, for
the buffer a rotation leaves behind, by the last value that counter had. The buffer and
the recorder's stream belong to the current session. The one step that can break the tie
opens the stream under an id that was handed over before it runs.
-/

namespace Opslane.Sdk

/-- Uploads of one chunk carry the same events, and each event goes to its session. -/
structure ChunkIdentity (uploads : List ChunkUpload) : Prop where
  payloads : ∀ u ∈ uploads, ∀ v ∈ uploads, u.session = v.session → u.seq = v.seq → u.events = v.events
  sessions : ∀ u ∈ uploads, ∀ e ∈ u.events, u.session = some e.session

/-- The session `registerStableSession` handed over. -/
def StartPhase.handedOver : StartPhase → Option Nat
  | .returned sessionID => sessionID
  | .registering _ => none

namespace Replay

/-- A stream opens under the id of the current session, with the capture listening for the
next one. -/
def OpensCurrent (s : Replay) : Action → Prop
  | .resumeStart generation => ∀ t ∈ s.starts.find? generation, ∀ id ∈ t.phase.handedOver,
    generation = s.startGeneration → s.replayInstalled → s.state.map SessionState.id = some id
  | .rotationRegistered generation newSessionID _ _ =>
    generation = s.rotationGeneration → s.replayInstalled →
      s.listening ∧ s.state.map SessionState.id = some newSessionID
  | _ => True

instance (s : Replay) (a : Action) : Decidable (s.OpensCurrent a) := by
  unfold OpensCurrent
  split <;> infer_instance

/-- The uploads, seen from the store: no later number of a session was used, and no later
session. -/
structure Issued (store : SessionStore) (uploads : List ChunkUpload) : Prop where
  sessions : ∀ u ∈ uploads, ∃ id, u.session = some id ∧ id < store.drawn
  seqs : ∀ current ∈ store.stored, ∀ u ∈ uploads, u.session = some current.id → u.seq < current.seq
  identity : ChunkIdentity uploads

variable {store store' : SessionStore} {uploads : List ChunkUpload} {current : SessionState}

theorem Issued.later (issued : Issued store uploads) (later : store.Later store') :
    Issued store' uploads where
  sessions u member := by
    obtain ⟨id, session, drawn⟩ := issued.sessions u member
    exact ⟨id, session, Nat.lt_of_lt_of_le drawn later.drawn⟩
  seqs found' present u member session := by
    rcases later.stored found' present with new | ⟨found, before, id, seq⟩
    · obtain ⟨id, session', drawn⟩ := issued.sessions u member
      rw [session, Option.some.injEq] at session'
      omega
    · rw [← id] at session
      exact Nat.lt_of_lt_of_le (issued.seqs found before u member session) seq
  identity := issued.identity

theorem Issued.ship (issued : Issued store uploads) (valid : store.Valid)
    (present : store.stored = some current) {events : List RecordedEvent}
    (recorded : ∀ e ∈ events, e.session = current.id) (later : store.Later store')
    (past : ∀ found ∈ store'.stored, found.id = current.id → current.seq < found.seq) :
    Issued store' (⟨some current.id, current.seq, events⟩ :: uploads) := by
  have after := issued.later later
  have drawn := valid.drawn current present
  have unused : ∀ u ∈ uploads, u.session = some current.id → u.seq < current.seq :=
    issued.seqs current present
  refine ⟨fun u member => ?_, fun found stored u member session => ?_, ⟨?_, ?_⟩⟩
  · rcases List.mem_cons.mp member with rfl | old
    · exact ⟨current.id, rfl, Nat.lt_of_lt_of_le drawn later.drawn⟩
    · exact after.sessions u old
  · rcases List.mem_cons.mp member with rfl | old
    · exact past found stored (Option.some.inj session).symm
    · exact after.seqs found stored u old session
  · intro u memberU v memberV session seq
    rcases List.mem_cons.mp memberU with rfl | oldU <;> rcases List.mem_cons.mp memberV with rfl | oldV
    · rfl
    · have below := unused v oldV session.symm
      dsimp only at seq
      omega
    · have below := unused u oldU session
      dsimp only at seq
      omega
    · exact issued.identity.payloads u oldU v oldV session seq
  · intro u member e event
    rcases List.mem_cons.mp member with rfl | old
    · rw [recorded e event]
    · exact issued.identity.sessions u old e event

theorem Issued.again (issued : Issued store uploads) {u : ChunkUpload} (member : u ∈ uploads) :
    Issued store (u :: uploads) := by
  have known : ∀ v ∈ u :: uploads, v ∈ uploads := by
    rintro v (_ | ⟨_, old⟩)
    · exact member
    · exact old
  exact ⟨fun v inList => issued.sessions v (known v inList),
    fun found stored v inList => issued.seqs found stored v (known v inList),
    fun v inList w inList' => issued.identity.payloads v (known v inList) w (known w inList'),
    fun v inList => issued.identity.sessions v (known v inList)⟩

structure Inv (s : Replay) : Prop where
  valid : s.toSessionStore.Valid
  issued : Issued s.toSessionStore s.uploads
  inlineTails : ∀ u ∈ s.inlineTails, u ∈ s.uploads
  noSeq : s.currentSeq = none
  /-- A stream that is open, or opens with the next snapshot, is the current session's. -/
  opened : s.streamReady = true ∨ s.awaitingRotationSnapshot = true →
    s.listening = true ∧ ∃ current, s.state = some current ∧ s.currentSessionID = some current.id
  buffered : s.buffer ≠ [] → s.streamReady = true
  recorded : ∀ e ∈ s.buffer, ∀ current ∈ s.state, e.session = current.id
  pending : s.streamReady = true → ∀ e ∈ s.pendingMeta, ∀ current ∈ s.state, e.session = current.id
  installed : s.listening = true → s.replayInstalled = true
  starts : ∀ t ∈ s.starts.rows, t.generation ≤ s.startGeneration ∧
    (t.generation = s.startGeneration → s.replayInstalled = true → s.listening = false)

variable {s : Replay}

theorem Inv.closed (valid : s.toSessionStore.Valid) (issued : Issued s.toSessionStore s.uploads)
    (inlineTails : ∀ u ∈ s.inlineTails, u ∈ s.uploads) (noSeq : s.currentSeq = none)
    (notReady : s.streamReady = false) (notAwaiting : s.awaitingRotationSnapshot = false)
    (empty : s.buffer = []) (installed : s.listening = true → s.replayInstalled = true)
    (starts : ∀ t ∈ s.starts.rows, t.generation ≤ s.startGeneration ∧
      (t.generation = s.startGeneration → s.replayInstalled = true → s.listening = false)) :
    Inv s where
  valid
  issued
  inlineTails
  noSeq
  opened := by
    rintro (ready | awaiting)
    · rw [notReady] at ready
      cases ready
    · rw [notAwaiting] at awaiting
      cases awaiting
  buffered held := absurd empty held
  recorded := by
    rw [empty]
    nofun
  pending ready := by
    rw [notReady] at ready
    cases ready
  installed
  starts

theorem Inv.rotate (inv : Inv s) (present : s.state = some current) (valid : store'.Valid)
    (later : s.toSessionStore.Later store') (fresh : ∀ found ∈ store'.stored, s.drawn ≤ found.id)
    (newSessionID : Nat) :
    Inv ({ s with toSessionStore := store' }.beginSessionRotation newSessionID
      ⟨current.id, current.seq⟩) := by
  have stored := inv.valid.synced current present
  unfold beginSessionRotation
  dsimp only
  split
  · exact .closed valid (inv.issued.later later) inv.inlineTails rfl rfl rfl rfl inv.installed inv.starts
  · have shipped := inv.issued.ship inv.valid stored (fun e member => inv.recorded e member current present)
      later fun found after same => by
        have new := fresh found after
        have old := inv.valid.drawn current stored
        omega
    refine .closed valid ?_ (fun u member => List.mem_cons_of_mem _ (inv.inlineTails u member)) rfl rfl rfl
      rfl inv.installed inv.starts
    simp only [shipChunk, inv.noSeq, Option.getD_none]
    exact shipped

theorem Inv.replaceStore (inv : Inv s) (valid : store'.Valid)
    (later : s.toSessionStore.Later store')
    (notOpen : ¬(s.streamReady = true ∨ s.awaitingRotationSnapshot = true)) :
    Inv { s with toSessionStore := store' } := by
  rw [not_or, Bool.not_eq_true, Bool.not_eq_true] at notOpen
  have empty : s.buffer = [] := by
    by_contra held
    rw [inv.buffered held] at notOpen
    cases notOpen.1
  exact .closed valid (inv.issued.later later) inv.inlineTails inv.noSeq notOpen.1 notOpen.2 empty
    inv.installed inv.starts

theorem Inv.loaded (inv : Inv s) (now : Int) :
    Inv { s with toSessionStore := (s.load now).1 } ∧
      (s.load now).1.state = some (s.load now).2 := by
  obtain ⟨valid, later, present⟩ := inv.valid.load now
  refine ⟨?_, present⟩
  cases before : s.state with
  | some current =>
    rw [SessionStore.load_of_state before]
    exact inv
  | none =>
    refine inv.replaceStore valid later fun isOpen => ?_
    obtain ⟨-, current, present, -⟩ := inv.opened isOpen
    rw [before] at present
    cases present

theorem Inv.refill (inv : Inv s) (ready : s.streamReady = true) (present : s.state = some current)
    (buffer : List RecordedEvent) (pendingMeta : Option RecordedEvent) {currentSeq : Option Nat}
    (bytes : Nat) (noSeq : currentSeq = none) (recorded : ∀ e ∈ buffer, e.session = current.id)
    (pending : ∀ e ∈ pendingMeta, e.session = current.id) :
    Inv { s with buffer, bufferBytes := bytes, pendingMeta, currentSeq } where
  valid := inv.valid
  issued := inv.issued
  inlineTails := inv.inlineTails
  noSeq
  opened := inv.opened
  buffered _ := ready
  recorded e member found after := by
    obtain rfl : current = found := Option.some.inj (present.symm.trans after)
    exact recorded e member
  pending _ e member found after := by
    obtain rfl : current = found := Option.some.inj (present.symm.trans after)
    exact pending e member
  installed := inv.installed
  starts := inv.starts

theorem Inv.write (inv : Inv s) (present : s.state = some current) (next : SessionState)
    {uploads : List ChunkUpload} (id : next.id = current.id)
    (issued : Issued (s.write next) uploads) (seq : current.seq ≤ next.seq)
    (more : ∀ u ∈ s.uploads, u ∈ uploads) :
    Inv { s with toSessionStore := s.write next, uploads } where
  valid := (inv.valid.write present next id seq).1
  issued
  inlineTails u member := more u (inv.inlineTails u member)
  noSeq := inv.noSeq
  opened isOpen := by
    obtain ⟨listening, found, present', session⟩ := inv.opened isOpen
    obtain rfl : current = found := Option.some.inj (present.symm.trans present')
    exact ⟨listening, next, rfl, id ▸ session⟩
  buffered := inv.buffered
  recorded e member found after := by
    obtain rfl : next = found := Option.some.inj after
    exact (inv.recorded e member current present).trans id.symm
  pending ready e member found after := by
    obtain rfl : next = found := Option.some.inj after
    exact (inv.pending ready e member current present).trans id.symm
  installed := inv.installed
  starts := inv.starts

/-- The session after it gave out a sequence number. -/
def numbered (current : SessionState) (now : Int) : SessionState :=
  { current with seq := current.seq + 1, lastActivityAt := now }

theorem takeSeq_eq (inv : Inv s) (present : s.state = some current) (now : Int) :
    s.takeSeq now = ({ s with toSessionStore := s.write (numbered current now) }, current.seq) := by
  unfold takeSeq
  rw [inv.noSeq]
  simp only [SessionStore.nextChunkSeq, SessionStore.load_of_state present]
  rfl

theorem Inv.shipBuffer (inv : Inv s) (present : s.state = some current) (now : Int) :
    Inv { s with
      toSessionStore := s.write (numbered current now)
      uploads := ⟨some current.id, current.seq, s.buffer⟩ :: s.uploads } := by
  have later := (inv.valid.write present (numbered current now) rfl (Nat.le_succ _)).2
  refine inv.write present (numbered current now) rfl ?_ (Nat.le_succ _) fun u member => List.mem_cons_of_mem _ member
  refine inv.issued.ship inv.valid (inv.valid.synced current present)
    (fun e member => inv.recorded e member current present) later ?_
  rintro found ⟨⟩ -
  exact Nat.lt_succ_self _

/-- Metadata that waits for its snapshot was recorded in the current session. -/
def MetaCurrent (s : Replay) : Prop :=
  s.awaitingRotationSnapshot = true → ∀ e ∈ s.pendingMeta, ∀ current ∈ s.state, e.session = current.id

theorem Inv.counted (inv : Inv s) (emitted : Nat) : Inv { s with emitted } :=
  ⟨inv.valid, inv.issued, inv.inlineTails, inv.noSeq, inv.opened, inv.buffered, inv.recorded, inv.pending,
    inv.installed, inv.starts⟩

theorem beginSessionRotation_awaiting (s : Replay) (newSessionID : Nat) (previous : SessionProgress) :
    (s.beginSessionRotation newSessionID previous).awaitingRotationSnapshot = false := by
  unfold beginSessionRotation
  dsimp only
  split <;> rfl

theorem Inv.onEmit (inv : Inv s) (type : EventType) (bytes : Nat) (isCheckout : Bool) (now : Int)
    (current : type = .fullSnapshot → MetaCurrent s) :
    Inv (s.onEmit type bytes isCheckout now) ∧
      (type = .metadata ∨ MetaCurrent s → MetaCurrent (s.onEmit type bytes isCheckout now)) := by
  obtain ⟨loaded, present⟩ := inv.loaded now
  have counted := loaded.counted (s.emitted + 1)
  have stillCurrent : MetaCurrent s → s.awaitingRotationSnapshot = true →
      ∀ e ∈ s.pendingMeta, e.session = (s.load now).2.id := by
    intro metaCurrent awaiting e member
    obtain ⟨-, current', before, -⟩ := inv.opened (Or.inr awaiting)
    rw [SessionStore.load_of_state before]
    exact metaCurrent awaiting e member current' before
  unfold Replay.onEmit SessionStore.rotateSessionIfIdle
  generalize s.load now = result at loaded present counted stillCurrent ⊢
  obtain ⟨store, current'⟩ := result
  dsimp only at loaded present counted stillCurrent ⊢
  have noPending {e : RecordedEvent} : e ∉ (none : Option RecordedEvent) := nofun
  by_cases expired : current'.isExpired now
  · rw [if_pos expired]
    dsimp only
    obtain ⟨valid, later⟩ := store.renew_valid current'.userId now
    refine ⟨counted.rotate present valid later ?_ store.drawn, fun _ awaiting => ?_⟩
    · rintro found ⟨⟩
      exact Nat.le_refl _
    · rw [beginSessionRotation_awaiting] at awaiting
      cases awaiting
  rw [if_neg expired]
  dsimp only
  rw [present]
  dsimp only
  have event : ∀ e ∈ some (⟨s.emitted + 1, bytes, current'.id⟩ : RecordedEvent),
      e.session = current'.id := by
    rintro e ⟨⟩
    rfl
  split
  · rename_i notReady
    split
    · refine ⟨⟨counted.valid, counted.issued, counted.inlineTails, counted.noSeq, counted.opened,
        counted.buffered, counted.recorded, fun ready => ?_, counted.installed, counted.starts⟩,
        fun _ _ e member found there => ?_⟩
      · rw [notReady] at ready
        cases ready
      · obtain rfl : current' = found := Option.some.inj (present.symm.trans there)
        exact event e member
    split
    · rename_i _ full
      have opens := counted.opened (Or.inr full.2)
      refine ⟨⟨counted.valid, counted.issued, counted.inlineTails, counted.noSeq, fun _ => opens,
        fun _ => rfl, fun e member found there => ?_, fun _ e member => absurd member noPending,
        counted.installed, counted.starts⟩, fun _ awaiting => by cases awaiting⟩
      obtain rfl : current' = found := Option.some.inj (present.symm.trans there)
      rcases List.mem_append.mp member with waiting | opening
      · exact stillCurrent (current full.1) full.2 e (Option.mem_toList.mp waiting)
      · rw [List.mem_singleton.mp opening]
    · rename_i notMeta _
      refine ⟨counted, fun metaCurrent awaiting e member found there => ?_⟩
      obtain rfl : current' = found := Option.some.inj (present.symm.trans there)
      exact stillCurrent (metaCurrent.resolve_left notMeta) awaiting e member
  rename_i ready
  have ready : s.streamReady = true := by simpa using ready
  have waiting : ∀ e ∈ s.pendingMeta, e.session = current'.id := fun e member =>
    counted.pending ready e member current' present
  have opening : ∀ e ∈ s.pendingMeta.toList ++ [⟨s.emitted + 1, bytes, current'.id⟩],
      RecordedEvent.session e = current'.id := by
    intro e member
    rcases List.mem_append.mp member with old | new
    · exact waiting e (Option.mem_toList.mp old)
    · rw [List.mem_singleton.mp new]
  have buffered : ∀ e ∈ s.buffer, e.session = current'.id := fun e member =>
    counted.recorded e member current' present
  split
  · -- the metadata of a checkout waits for its snapshot
    refine ⟨counted.refill ready present _ _ s.bufferBytes counted.noSeq buffered event,
      fun _ _ e member found there => ?_⟩
    obtain rfl : current' = found := Option.some.inj (present.symm.trans there)
    exact event e member
  split
  · refine ⟨counted, fun _ _ e member found there => ?_⟩
    obtain rfl : current' = found := Option.some.inj (present.symm.trans there)
    exact waiting e member
  split
  · -- a checkout ships the buffer
    obtain ⟨-, found, there, session⟩ := counted.opened (Or.inl ready)
    obtain rfl : current' = found := Option.some.inj (present.symm.trans there)
    rw [takeSeq_eq counted present now]
    dsimp only
    have here : s.currentSessionID = some current'.id := session
    rw [if_pos (by rw [here]; rfl)]
    have shipped := (counted.shipBuffer present now).refill ready rfl _ none
      ((s.pendingMeta.toList ++ [(⟨s.emitted + 1, bytes, current'.id⟩ : RecordedEvent)]).map
        RecordedEvent.bytes).sum rfl opening fun e member => absurd member noPending
    rw [← here] at shipped
    exact ⟨shipped, fun _ _ e member => absurd member noPending⟩
  split
  · exact ⟨counted.refill ready present _ none _ counted.noSeq opening fun e member =>
      absurd member noPending,
      fun _ _ e member => absurd member noPending⟩
  · -- an ordinary event is pushed
    have touched : store.touchSession now = store.write { current' with lastActivityAt := now } := by
      unfold SessionStore.touchSession
      rw [SessionStore.load_of_state present]
    have later := (counted.valid.write present { current' with lastActivityAt := now } rfl
      (Nat.le_refl _)).2
    have written := counted.write present { current' with lastActivityAt := now } rfl
      (counted.issued.later later) (Nat.le_refl _) fun u member => member
    have pushed : ∀ e ∈ s.buffer ++ [⟨s.emitted + 1, bytes, current'.id⟩],
        RecordedEvent.session e = current'.id := by
      intro e member
      rcases List.mem_append.mp member with old | new
      · exact buffered e old
      · rw [List.mem_singleton.mp new]
    rw [touched]
    refine ⟨written.refill ready rfl _ _ (s.bufferBytes + bytes) counted.noSeq pushed waiting,
      fun _ _ e member found there => ?_⟩
    obtain rfl := Option.some.inj there
    exact waiting e member

theorem Inv.takeFullSnapshot (inv : Inv s) (taken : Option SnapshotTaken) :
    Inv (s.takeFullSnapshot taken) ∧ (MetaCurrent s → MetaCurrent (s.takeFullSnapshot taken)) := by
  unfold Replay.takeFullSnapshot
  split
  · exact ⟨inv, fun metaCurrent => metaCurrent⟩
  rename_i taken
  obtain ⟨opened, own⟩ := inv.onEmit .metadata taken.metaBytes true taken.metaAt nofun
  have own := own (Or.inl rfl)
  dsimp only
  split
  · exact ⟨opened, fun _ => own⟩
  · rename_i bytes now _
    obtain ⟨after, still⟩ := opened.onEmit .fullSnapshot bytes true now fun _ => own
    exact ⟨after, fun _ => still (Or.inr own)⟩

theorem Inv.emit (inv : Inv s) (type : EventType) (bytes : Nat) (isCheckout : Bool) (now : Int)
    (cut : Option SnapshotTaken) (current : type = .fullSnapshot → MetaCurrent s) :
    Inv (s.emit type bytes isCheckout now cut) ∧
      (type = .metadata ∨ MetaCurrent s → MetaCurrent (s.emit type bytes isCheckout now cut)) := by
  obtain ⟨emitted, metaCurrent⟩ := inv.onEmit type bytes isCheckout now current
  unfold Replay.emit
  dsimp only
  split
  · obtain ⟨after, still⟩ := emitted.takeFullSnapshot cut
    exact ⟨after, fun own => still (metaCurrent own)⟩
  · exact ⟨emitted, metaCurrent⟩

theorem Inv.recordSnapshot (inv : Inv s) (isCheckout : Bool) (taken : SnapshotTaken)
    (cutMeta cutFull : Option SnapshotTaken) :
    Inv (s.recordSnapshot isCheckout taken cutMeta cutFull) := by
  unfold Replay.recordSnapshot
  obtain ⟨opened, own⟩ := inv.emit .metadata taken.metaBytes isCheckout taken.metaAt cutMeta nofun
  dsimp only
  split
  · exact opened
  · rename_i bytes now _
    exact (opened.emit .fullSnapshot bytes isCheckout now cutFull fun _ => own (Or.inl rfl)).1

theorem Inv.flushed (inv : Inv s) (inFlight : Bool) : Inv { s with errorFlushInFlight := inFlight } :=
  ⟨inv.valid, inv.issued, inv.inlineTails, inv.noSeq, inv.opened, inv.buffered, inv.recorded, inv.pending,
    inv.installed, inv.starts⟩

theorem Inv.flushReplayBufferForError (inv : Inv s) (now : Int) (snapshot : Option SnapshotTaken) :
    Inv (s.flushReplayBufferForError now snapshot) := by
  unfold Replay.flushReplayBufferForError
  split
  · exact inv
  rename_i flushes
  simp only [not_or, Bool.not_eq_false] at flushes
  have ready := flushes.2.1
  obtain ⟨-, current, present, session⟩ := inv.opened (Or.inl ready)
  rw [takeSeq_eq inv present now]
  dsimp only
  rw [if_pos (by rw [session]; rfl)]
  have shipped := ((inv.shipBuffer present now).refill ready rfl [] none 0 rfl nofun nofun).flushed true
  rw [← session] at shipped
  exact (shipped.takeFullSnapshot snapshot).1

theorem Inv.onVisibilityChange (inv : Inv s) (now : Int) (snapshot : Option SnapshotTaken) :
    Inv (s.onVisibilityChange now snapshot) := by
  unfold Replay.onVisibilityChange
  split
  · exact inv
  rename_i held
  have ready := inv.buffered held
  obtain ⟨-, current, present, session⟩ := inv.opened (Or.inl ready)
  rw [takeSeq_eq inv present now]
  dsimp only
  have shipped := (inv.shipBuffer present now).refill ready rfl [] s.pendingMeta 0 rfl nofun
    fun e member => inv.pending ready e member current present
  rw [← session] at shipped
  have tailed : Inv { s with
      toSessionStore := s.write (numbered current now)
      buffer := []
      bufferBytes := 0
      currentSeq := none
      inlineTails := ⟨s.currentSessionID, current.seq, s.buffer⟩ :: s.inlineTails
      uploads := ⟨s.currentSessionID, current.seq, s.buffer⟩ :: s.uploads } := by
    refine ⟨shipped.valid, shipped.issued, ?_, rfl, shipped.opened, shipped.buffered, shipped.recorded,
      shipped.pending, shipped.installed, shipped.starts⟩
    intro u member
    rcases List.mem_cons.mp member with rfl | old
    · exact List.mem_cons_self
    · exact shipped.inlineTails u old
  exact (tailed.takeFullSnapshot snapshot).1

theorem Inv.inlineReturned (inv : Inv s) (tail : ChunkUpload) (landed : Bool) :
    Inv (s.inlineReturned tail landed) := by
  unfold Replay.inlineReturned
  split
  · rename_i waiting
    have erased : Inv { s with inlineTails := s.inlineTails.erase tail } :=
      ⟨inv.valid, inv.issued, fun u member => inv.inlineTails u (List.mem_of_mem_erase member), inv.noSeq,
        inv.opened, inv.buffered, inv.recorded, inv.pending, inv.installed, inv.starts⟩
    dsimp only
    split
    · exact erased
    · refine ⟨inv.valid, inv.issued.again (inv.inlineTails tail waiting), fun u member => ?_, inv.noSeq,
        inv.opened, inv.buffered, inv.recorded, inv.pending, inv.installed, inv.starts⟩
      exact List.mem_cons_of_mem _ (erased.inlineTails u member)
  · exact inv

theorem Inv.stopReplayCapture (inv : Inv s) : Inv s.stopReplayCapture := by
  refine .closed inv.valid inv.issued inv.inlineTails rfl rfl rfl rfl nofun fun t member => ?_
  exact ⟨Nat.le_succ_of_le (inv.starts t member).1, fun _ _ => rfl⟩

theorem Inv.rotateForIdentity (inv : Inv s) (userId : Option String) (now : Int) :
    Inv (s.rotateForIdentity userId now) := by
  obtain ⟨loaded, present⟩ := inv.loaded now
  unfold Replay.rotateForIdentity SessionStore.getSessionProgress SessionStore.setSessionUser
  generalize s.load now = result at loaded present ⊢
  obtain ⟨store, current⟩ := result
  dsimp only at loaded present ⊢
  rw [SessionStore.load_of_state present]
  dsimp only
  by_cases same : current.userId = userId
  · rw [if_pos same]
    exact loaded
  rw [if_neg same]
  obtain ⟨valid, later⟩ := store.renew_valid userId now
  have fresh : ∀ found ∈ (store.renew userId now).stored, store.drawn ≤ found.id := by
    rintro found ⟨⟩
    exact Nat.le_refl _
  dsimp only
  split
  · exact loaded.rotate present valid later fresh _
  · -- nobody listens, and no stream is open
    rename_i other
    exact loaded.replaceStore valid later fun isOpen => other _ rfl (inv.opened isOpen).1 rfl

theorem Inv.rotationRegistered (inv : Inv s) (generation newSessionID : Nat) (registered : Bool)
    (snapshot : Option SnapshotTaken)
    (current : s.OpensCurrent (.rotationRegistered generation newSessionID registered snapshot)) :
    Inv (s.rotationRegistered generation newSessionID registered snapshot) := by
  unfold Replay.rotationRegistered
  split
  · have erased : Inv { s with rotations := s.rotations.erase (generation, newSessionID) } :=
      ⟨inv.valid, inv.issued, inv.inlineTails, inv.noSeq, inv.opened, inv.buffered, inv.recorded,
        inv.pending, inv.installed, inv.starts⟩
    dsimp only
    split
    · split
      · exact erased
      · exact erased.stopReplayCapture
    split
    · exact erased
    · rename_i goes
      simp only [ne_eq, not_or, Decidable.not_not, Bool.not_eq_false] at goes
      obtain ⟨listening, same⟩ := current goes.1 goes.2
      obtain ⟨found, present, id⟩ := Option.map_eq_some_iff.mp same
      refine (Inv.takeFullSnapshot ?_ snapshot).1
      refine ⟨inv.valid, inv.issued, inv.inlineTails, inv.noSeq, fun _ => ?_, inv.buffered, inv.recorded,
        inv.pending, inv.installed, inv.starts⟩
      exact ⟨listening, found, present, congrArg some id.symm⟩
  · exact inv

theorem Inv.startReplayCapture (inv : Inv s) (now : Int) : Inv (s.startReplayCapture now) := by
  unfold Replay.startReplayCapture
  split
  · exact inv
  rename_i idle
  have silent : s.listening = false := by
    cases listens : s.listening with
    | false => rfl
    | true => exact absurd (inv.installed listens) idle
  obtain ⟨loaded, -⟩ := inv.loaded now
  refine ⟨loaded.valid, loaded.issued, loaded.inlineTails, loaded.noSeq, loaded.opened, loaded.buffered,
    loaded.recorded, loaded.pending, fun _ => rfl, fun t member => ?_⟩
  rcases Table.mem_insertIgnore member with old | rfl
  · exact ⟨Nat.le_succ_of_le (inv.starts t old).1, fun _ _ => silent⟩
  · exact ⟨Nat.le_refl _, fun _ _ => silent⟩

theorem Inv.enterStart (inv : Inv s) (generation : Nat) (phase : StartPhase) :
    Inv { s with starts := s.starts.updateKey generation (StartTask.enter phase) fun _ => rfl } := by
  refine ⟨inv.valid, inv.issued, inv.inlineTails, inv.noSeq, inv.opened, inv.buffered, inv.recorded,
    inv.pending, inv.installed, fun t member => ?_⟩
  have rows := s.starts.mem_updateWhere (fun t => t.generation = generation) (StartTask.enter phase)
    fun _ => rfl
  obtain ⟨old, before, rfl⟩ := (rows t).mp member
  have same : (if decide (old.generation = generation) then StartTask.enter phase old else old).generation =
      old.generation := by
    split <;> rfl
  rw [same]
  exact inv.starts old before

theorem Inv.sessionRegistered (inv : Inv s) (generation : Nat) (registered : Bool) (now : Int) :
    Inv (s.sessionRegistered generation registered now) := by
  unfold Replay.sessionRegistered
  split
  · dsimp only
    obtain ⟨loaded, -⟩ := inv.loaded now
    split
    · exact inv.enterStart generation _
    split
    · exact loaded.enterStart generation _
    split
    · exact loaded.enterStart generation _
    · exact loaded.enterStart generation _
  · exact inv

theorem Inv.resumeStart (inv : Inv s) (generation : Nat)
    (current : s.OpensCurrent (.resumeStart generation)) : Inv (s.resumeStart generation) := by
  unfold Replay.resumeStart
  split
  · rename_i own initialSessionID found
    obtain rfl : own = generation := Table.key_of_find? found
    have others : ∀ t ∈ (s.starts.deleteWhere fun t => t.generation = own).rows,
        t ∈ s.starts.rows ∧ t.generation ≠ own := by
      intro t member
      have kept := List.mem_filter.mp member
      exact ⟨kept.1, by simpa using kept.2⟩
    dsimp only
    split
    · split
      · rename_i same
        have silent : s.replayInstalled = true → s.listening = false :=
          (inv.starts _ (Table.mem_of_find? found)).2 same
        have notListening : s.listening = false := by
          cases listens : s.listening with
          | false => rfl
          | true => exact absurd (silent (inv.installed listens)) (by rw [listens]; nofun)
        refine ⟨inv.valid, inv.issued, inv.inlineTails, inv.noSeq, inv.opened, inv.buffered, inv.recorded,
          inv.pending, fun listens => ?_, fun t member => ⟨(inv.starts t (others t member).1).1, nofun⟩⟩
        rw [notListening] at listens
        cases listens
      · exact ⟨inv.valid, inv.issued, inv.inlineTails, inv.noSeq, inv.opened, inv.buffered, inv.recorded,
          inv.pending, inv.installed, fun t member => inv.starts t (others t member).1⟩
    · rename_i goes
      simp only [ne_eq, not_or, Decidable.not_not, Bool.not_eq_false] at goes
      obtain ⟨some_, same, installed⟩ := goes
      obtain ⟨id, rfl⟩ := Option.ne_none_iff_exists'.mp some_
      obtain ⟨found', present, rfl⟩ := Option.map_eq_some_iff.mp
        (current _ found id rfl same installed)
      have silent : s.listening = false := (inv.starts _ (Table.mem_of_find? found)).2 same installed
      have notReady : s.streamReady ≠ true := by
        intro ready
        have listens := (inv.opened (Or.inl ready)).1
        rw [silent] at listens
        cases listens
      refine ⟨inv.valid, inv.issued, inv.inlineTails, inv.noSeq, fun _ => ⟨rfl, found', present, rfl⟩,
        fun held => absurd (inv.buffered held) notReady, inv.recorded, nofun, fun _ => installed,
        fun t member => ?_⟩
      obtain ⟨old, apart⟩ := others t member
      exact ⟨(inv.starts t old).1, fun again => absurd (again.trans same.symm) apart⟩
  · exact inv

theorem Inv.onPage (inv : Inv s) : Inv (.onPage s.toSessionStore.reload s.uploads s.emitted) := by
  refine .closed ⟨nofun, inv.valid.drawn⟩ ?_ nofun rfl rfl rfl rfl nofun nofun
  exact ⟨inv.issued.sessions, inv.issued.seqs, inv.issued.identity⟩

theorem Inv.start : Inv start := by
  refine .closed ⟨nofun, nofun⟩ ⟨nofun, nofun, ⟨nofun, nofun⟩⟩ nofun rfl rfl rfl rfl nofun nofun

theorem Inv.step (inv : Inv s) (a : Action) (current : s.OpensCurrent a) : Inv (s.step a) := by
  cases a with
  | emit bytes isCheckout now cut => exact (inv.emit .other bytes isCheckout now cut nofun).1
  | snapshot isCheckout taken cutMeta cutFull => exact inv.recordSnapshot isCheckout taken cutMeta cutFull
  | flushReplayBufferForError now snapshot => exact inv.flushReplayBufferForError now snapshot
  | errorFlushed => exact inv.flushed false
  | onVisibilityChange now snapshot => exact inv.onVisibilityChange now snapshot
  | inlineReturned tail landed => exact inv.inlineReturned tail landed
  | rotateForIdentity userId now => exact inv.rotateForIdentity userId now
  | rotationRegistered generation newSessionID registered snapshot =>
    exact inv.rotationRegistered generation newSessionID registered snapshot current
  | startReplayCapture now => exact inv.startReplayCapture now
  | sessionRegistered generation registered now => exact inv.sessionRegistered generation registered now
  | resumeStart generation => exact inv.resumeStart generation current
  | stopReplayCapture => exact inv.stopReplayCapture
  | reload => exact inv.onPage

theorem chunk_identity (actions : List Action) (current : machine.Guarded OpensCurrent start actions) :
    ChunkIdentity (machine.run start actions).uploads :=
  (machine.invariant_guarded Inv (fun _ a inv current => inv.step a current) Inv.start
    current).issued.identity

def snapshotAt (now : Int) : SnapshotTaken := ⟨10, now, some (100, now)⟩

/-- The capture starts, and records a snapshot and an event. -/
def recording (generation : Nat) (now : Int) : List Action :=
  [.startReplayCapture now, .sessionRegistered generation true now, .resumeStart generation,
    .snapshot false (snapshotAt now) none none, .emit 20 false now none]

/-- A checkout, an error and a hidden page cut chunks; the user signs in; the page is reloaded,
and after an idle gap the session is rotated. -/
def replayed : List Action :=
  recording 1 1000 ++
    ([.snapshot true (snapshotAt 31000) none none,
      .flushReplayBufferForError 40000 (some (snapshotAt 40000)), .errorFlushed,
      .onVisibilityChange 50000 (some (snapshotAt 50000)), .emit 20 false 51000 none,
      .rotateForIdentity (some "user-1") 52000, .rotationRegistered 1 1 true (some (snapshotAt 53000)),
      .emit 20 false 54000 none, .flushReplayBufferForError 55000 none, .reload] : List Action) ++
  recording 1 60000 ++
    ([.emit 20 false 5000000 none, .rotationRegistered 1 2 true (some (snapshotAt 5001000)),
      .flushReplayBufferForError 5002000 none] : List Action)

theorem chunk_identity_replayed :
    machine.Guarded OpensCurrent start replayed ∧ ChunkIdentity (machine.run start replayed).uploads := by
  have current : machine.Guarded OpensCurrent start replayed := by decide +kernel
  exact ⟨current, chunk_identity _ current⟩

/-- After a reload, the user signs in between the last look `registerStableSession` takes at the
session and the step of `startReplayCapture` that uses what it returned. -/
def signInUnheard : List Action :=
  recording 1 1000 ++ ([.flushReplayBufferForError 2000 none, .reload, .startReplayCapture 3000,
    .sessionRegistered 1 true 3000, .rotateForIdentity (some "user-1") 3000, .resumeStart 1,
    .snapshot false (snapshotAt 4000) none none, .flushReplayBufferForError 5000 none] : List Action)

theorem chunk_number_reused : ¬ChunkIdentity (machine.run start signInUnheard).uploads := by
  intro identity
  have same := identity.payloads ⟨some 0, 0, [⟨4, 10, 1⟩, ⟨5, 100, 1⟩]⟩ (by decide +kernel)
    ⟨some 0, 0, [⟨1, 10, 0⟩, ⟨2, 100, 0⟩, ⟨3, 20, 0⟩]⟩ (by decide +kernel) rfl rfl
  exact absurd same (by decide)

end Replay

end Opslane.Sdk
