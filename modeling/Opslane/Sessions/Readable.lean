import Opslane.Sessions.Ownership

/-!
# Readable recordings

A chunk is readable once it is marked as scrubbed. Thirty seconds after it is uploaded, no
attempt can store its object any more, so that from the first claim on only scrubbers write.
What they write is redacted where the document they read can be decoded: a valid document with
a number beyond the finite ones is returned as it is, and becomes readable with all its secrets.
-/

namespace Opslane.Sessions.Scrubbing

open Masking (CleanText Decodable redactRecording)

/-- The gzip of a document with no secret left in it. -/
def StoredObject.Redacted (gzip : Gzip) (o : StoredObject) : Prop :=
  ∃ document, o.bytes = gzip.deflate document ∧ CleanText document

namespace Chunk

/-- What can be read of the chunk is redacted. -/
def OnlyRedacted (gzip : Gzip) (s : Chunk) : Prop :=
  ∀ r, s.row = some r → r.scrubbedAt.isSome → ∀ o, s.object = some o → o.Redacted gzip

/-- There is something to read. -/
def Available (s : Chunk) : Prop :=
  ∀ r, s.row = some r → r.scrubbedAt.isSome → s.object.isSome

/-- A payload that is valid JSON can be decoded: its numbers are finite. -/
def PayloadDecodable (gzip : Gzip) (_ : Chunk) (a : Action) : Bool :=
  match a.event with
  | .reserveChunkSeq _ payload _ => ∀ plain ∈ gzip.inflate payload, Decodable plain
  | _ => true

/-- No request removes what a scrubber has stored. -/
def KeepsCopy (s : Chunk) (a : Action) : Bool :=
  match a.event with
  | .upload id .removeTakesEffect =>
    ¬(s.object.any StoredObject.scrubbed ∧ (s.attempts.find? id).any Attempt.removeSent)
  | .scrub id .removeTakesEffect =>
    ¬(s.object.any StoredObject.scrubbed ∧ (s.scrubs.find? id).any Scrub.removeSent)
  | _ => true

/-- A pass goes on with nothing new read, redacted or stored. -/
structure Settles (c c' : Scrub) : Prop where
  claimedAt : c'.claimedAt = c.claimedAt
  document : c'.document = c.document
  stored : c'.stored = c.stored
  read : ∀ raw, c'.phase ≠ .read raw
  phase : c'.phase = .stored → c.stored

inductive ScrubStepped (gzip : Gzip) (s : Chunk) (c : Scrub) (step : ScrubStep) : Chunk → Prop where
  | refused : ScrubStepped gzip s c step s
  | settles (f : Scrub → Scrub) (frame : ∀ c, (f c).id = c.id) (settles : Settles c (f c)) :
      ScrubStepped gzip s c step (s.setScrub c f frame)
  | reads (o : StoredObject) (found : s.object = some o) :
      ScrubStepped gzip s c step (s.enterScrub c (.read o.bytes))
  | redacts (raw plain : Bytes) (read : c.phase = .read raw) (inflated : gzip.inflate raw = some plain)
      (valid : GoJson.valid plain) :
      ScrubStepped gzip s c step (s.setScrub c (fun c => { c with
        phase := .putting (redactRecording plain)
        document := some (redactRecording plain) }) fun _ => rfl)
  | puts (document : Bytes) (redacted : c.document = some document) :
      ScrubStepped gzip s c step
        { s.setScrub c (fun c => { c with stored := true }) fun _ => rfl with
          object := some ⟨gzip.deflate document, true⟩ }
  | marksScrubbed (stored : c.phase = .stored) :
      ScrubStepped gzip s c step
        { s.enterScrub c .done with
          row := s.row.map fun r => { r with scrubbedAt := some s.now, scrubClaimedAt := none } }
  | marksFailed :
      ScrubStepped gzip s c step
        { s.enterScrub c .done with row := s.row.map fun r => { r with scrubClaimedAt := none } }
  | removes (removing : step = .removeTakesEffect) (sent : c.removeSent) :
      ScrubStepped gzip s c step { s with object := none }

variable {gzip : Gzip} {s : Chunk}

variable {c : Scrub}

theorem ScrubStepped.fails {step : ScrubStep} :
    ScrubStepped gzip s c step (s.enterScrub c .failed) :=
  .settles _ _ ⟨rfl, rfl, rfl, nofun, nofun⟩

theorem ScrubStepped.refuses {step : ScrubStep} :
    ScrubStepped gzip s c step (s.refuse c) :=
  .settles _ _ ⟨rfl, rfl, rfl, nofun, nofun⟩

theorem scrubStep_stepped (gzip : Gzip) {id : UUID} (found : s.scrubs.find? id = some c)
    (maxInflateBytes : Nat) (step : ScrubStep) :
    ScrubStepped gzip s c step (s.scrubStep gzip maxInflateBytes id step) := by
  unfold scrubStep
  rw [found]
  dsimp only
  split <;> rename_i phase
  · split
    · exact .refuses
    · exact .refused
  · split
    · exact .fails
    · rename_i o stored
      exact .reads o stored
  · split
    · exact .fails
    · rename_i plain inflated
      split
      · exact .refuses
      · split
        · exact .refuses
        · rename_i valid
          exact .redacts _ plain phase inflated (Bool.eq_true_of_not_eq_false valid)
  · split
    · exact .refused
    · rename_i document redacted
      exact .puts document redacted
  · split
    · split
      · rename_i stored
        exact .settles _ _ ⟨rfl, rfl, rfl, nofun, fun _ => stored⟩
      · exact .refused
    · exact .fails
  · exact .marksScrubbed phase
  · exact .marksFailed
  · split
    · rename_i sent
      exact .removes rfl sent
    · exact .refused
  · exact .fails
  · exact .fails
  · exact .fails
  · exact .refused

/-- What the scrubber makes of these bytes is redacted, if it makes anything of them. -/
def Fit (gzip : Gzip) (bytes : Bytes) : Prop :=
  ∀ plain, gzip.inflate bytes = some plain → Decodable plain ∨ CleanText plain

theorem fit_deflate {document : Bytes} (clean : CleanText document) :
    Fit gzip (gzip.deflate document) := by
  intro plain inflated
  rw [gzip.inflate_deflate] at inflated
  cases inflated
  exact Or.inr clean

theorem cleanText_redactRecording {plain : Bytes} (valid : GoJson.valid plain)
    (fit : Decodable plain ∨ CleanText plain) : CleanText (redactRecording plain) := by
  obtain ⟨document, scanned⟩ := Option.isSome_iff_exists.mp valid
  have redacts := Masking.redactRecording_valid scanned
  split at redacts
  · exact redacts
  · rename_i infinite
    rcases fit with decodable | clean
    · have decoded := decodable valid
      rw [GoJson.unmarshal, scanned, Option.bind_some, GoJson.decode_isSome] at decoded
      exact absurd decoded infinite
    · rw [redacts]
      exact clean

/-- From its first claim on, only scrubbers store the chunk's object. -/
structure Scrubs (gzip : Gzip) (s : Chunk) : Prop where
  claimed : ∀ c ∈ s.scrubs.rows, ∃ uploadedAt, s.row.map ChunkRow.uploadedAt = some (some uploadedAt) ∧
    uploadedAt + seconds 30 ≤ c.claimedAt ∧ c.claimedAt ≤ s.now
  payloads : ∀ a ∈ s.attempts.rows, Fit gzip a.payload
  fit : ∀ o, s.object = some o → Fit gzip o.bytes
  redacted : ∀ o, s.object = some o → o.scrubbed → o.Redacted gzip
  read : ∀ c ∈ s.scrubs.rows, ∀ raw, c.phase = .read raw → Fit gzip raw
  documents : ∀ c ∈ s.scrubs.rows, ∀ document, c.document = some document → CleanText document
  copied : ∀ c ∈ s.scrubs.rows, c.stored → ∀ o, s.object = some o → o.scrubbed
  stored : ∀ c ∈ s.scrubs.rows, c.phase = .stored → c.stored
  marked : ∀ r, s.row = some r → r.scrubbedAt.isSome → ∃ c ∈ s.scrubs.rows, c.stored

theorem Scrubs.kept_as_redacted (inv : Scrubs gzip s) : OnlyRedacted gzip s := by
  intro r row scrubbed o object
  obtain ⟨c, member, stored⟩ := inv.marked r row scrubbed
  exact inv.redacted o object (inv.copied c member stored o object)

theorem Scrubs.attempts {gzip : Gzip} {s : Chunk} (inv : Scrubs gzip s) {attempts : Table Attempt.id}
    (payloads : ∀ a ∈ attempts.rows, Fit gzip a.payload) : Scrubs gzip { s with attempts } :=
  ⟨inv.claimed, payloads, inv.fit, inv.redacted, inv.read, inv.documents, inv.copied, inv.stored,
    inv.marked⟩

theorem Scrubs.setAttempt (inv : Scrubs gzip s) {a : Attempt} (present : a ∈ s.attempts.rows)
    (f : Attempt → Attempt) (frame : ∀ a, (f a).id = a.id) (payload : (f a).payload = a.payload) :
    Scrubs gzip (s.setAttempt a f frame) := by
  refine inv.attempts fun b member => ?_
  rcases (mem_setAttempt present f frame).mp member with rfl | ⟨old, -⟩
  · rw [payload]
    exact inv.payloads a present
  · exact inv.payloads b old

theorem Scrubs.noObject (inv : Scrubs gzip s) :
    Scrubs gzip { s with object := none } :=
  ⟨inv.claimed, inv.payloads, nofun, nofun, inv.read, inv.documents, fun _ _ _ => nofun, inv.stored,
    inv.marked⟩

theorem Scrubs.putRaw (inv : Scrubs gzip s) {payload : Bytes} (fit : Fit gzip payload)
    (unclaimed : ∀ c, c ∉ s.scrubs.rows) :
    Scrubs gzip { s with object := some ⟨payload, false⟩ } := by
  refine ⟨inv.claimed, inv.payloads, fun o stored => ?_, fun o stored scrubbed => ?_, inv.read,
    inv.documents, fun c member => absurd member (unclaimed c), inv.stored, inv.marked⟩
  · cases stored
    exact fit
  · cases stored
    cases scrubbed

theorem Scrubs.putRedacted (inv : Scrubs gzip s) {document : Bytes} (clean : CleanText document) :
    Scrubs gzip { s with object := some ⟨gzip.deflate document, true⟩ } := by
  refine ⟨inv.claimed, inv.payloads, fun o stored => ?_, fun o stored _ => ?_, inv.read, inv.documents,
    fun c member written o stored => ?_, inv.stored, inv.marked⟩
  · cases stored
    exact fit_deflate clean
  · cases stored
    exact ⟨document, rfl, clean⟩
  · cases stored
    rfl

theorem Scrubs.setRow (inv : Scrubs gzip s) {row : Option ChunkRow}
    (uploaded : ∀ c ∈ s.scrubs.rows, row.map ChunkRow.uploadedAt = s.row.map ChunkRow.uploadedAt)
    (marked : ∀ r, row = some r → r.scrubbedAt.isSome → ∃ c ∈ s.scrubs.rows, c.stored) :
    Scrubs gzip { s with row } := by
  refine ⟨fun c member => ?_, inv.payloads, inv.fit, inv.redacted, inv.read, inv.documents, inv.copied,
    inv.stored, marked⟩
  show ∃ uploadedAt, row.map ChunkRow.uploadedAt = some (some uploadedAt) ∧ _
  rw [uploaded c member]
  exact inv.claimed c member

theorem mem_setScrub {c c' : Scrub} (present : c ∈ s.scrubs.rows) (f : Scrub → Scrub)
    (frame : ∀ c, (f c).id = c.id) :
    c' ∈ (s.setScrub c f frame).scrubs.rows ↔ c' = f c ∨ (c' ∈ s.scrubs.rows ∧ c'.id ≠ c.id) :=
  Table.mem_updateKey s.scrubs present f frame c'

theorem Scrubs.setScrub (inv : Scrubs gzip s) (present : c ∈ s.scrubs.rows) (f : Scrub → Scrub)
    (frame : ∀ c, (f c).id = c.id) (claimedAt : (f c).claimedAt = c.claimedAt)
    (read : ∀ raw, (f c).phase = .read raw → Fit gzip raw)
    (documents : ∀ document, (f c).document = some document → CleanText document)
    (copied : (f c).stored → ∀ o, s.object = some o → o.scrubbed)
    (stored : (f c).phase = .stored → (f c).stored) (grown : c.stored → (f c).stored) :
    Scrubs gzip (s.setScrub c f frame) := by
  have all : ∀ {p : Scrub → Prop}, (∀ d ∈ s.scrubs.rows, p d) → p (f c) →
      ∀ d ∈ (s.setScrub c f frame).scrubs.rows, p d := by
    intro p old new d member
    rcases (mem_setScrub present f frame).mp member with rfl | ⟨kept, -⟩
    · exact new
    · exact old d kept
  refine ⟨all inv.claimed ?_, inv.payloads, inv.fit, inv.redacted, all inv.read read,
    all inv.documents documents, all inv.copied copied, all inv.stored stored, fun r row scrubbed => ?_⟩
  · rw [claimedAt]
    exact inv.claimed c present
  · obtain ⟨d, member, written⟩ := inv.marked r row scrubbed
    by_cases same : d.id = c.id
    · have equal : d = c := by
        have found := Table.find?_key s.scrubs member
        rw [same, Table.find?_key s.scrubs present] at found
        exact (Option.some.inj found).symm
      exact ⟨f c, (mem_setScrub present f frame).mpr (Or.inl rfl), grown (equal ▸ written)⟩
    · exact ⟨d, (mem_setScrub present f frame).mpr (Or.inr ⟨member, same⟩), written⟩

theorem Scrubs.settles {gzip : Gzip} {s : Chunk} (inv : Scrubs gzip s) {c : Scrub}
    (present : c ∈ s.scrubs.rows) (f : Scrub → Scrub) (frame : ∀ c, (f c).id = c.id)
    (settles : Settles c (f c)) : Scrubs gzip (s.setScrub c f frame) :=
  inv.setScrub present f frame settles.claimedAt (fun raw read => absurd read (settles.read raw))
    (fun document redacted => inv.documents c present document (settles.document ▸ redacted))
    (fun stored => inv.copied c present (settles.stored ▸ stored))
    (fun phase => settles.stored ▸ settles.phase phase) (fun stored => settles.stored ▸ stored)

theorem Scrubs.unclaimed (inv : Scrubs gzip s) (uploading : Uploading s) {a : Attempt}
    (present : a ∈ s.attempts.rows) {putAt : Timestamp} (opened : a.putAt = some putAt)
    (inTime : s.now ≤ putAt + seconds 30) : ∀ c, c ∉ s.scrubs.rows := by
  intro c member
  obtain ⟨uploadedAt, uploaded, after, before⟩ := inv.claimed c member
  obtain ⟨r, row, isUploaded⟩ := Option.map_eq_some_iff.mp uploaded
  have earlier : putAt < uploadedAt :=
    (uploading.uploaded r uploadedAt row isUploaded a present).1 putAt opened
  have late : putAt + seconds 30 < uploadedAt + seconds 30 := Int.add_lt_add_right earlier _
  exact absurd (Int.le_trans (Int.le_trans after before) inTime) (Int.not_le.mpr late)

theorem Scrubs.uploadStep (inv : Scrubs gzip s) (uploading : Uploading s) (id : UUID)
    (step : UploadStep) : Scrubs gzip (s.uploadStep id step) := by
  cases found : s.attempts.find? id with
  | none =>
    unfold Chunk.uploadStep
    rw [found]
    exact inv
  | some a =>
    have present := Table.mem_of_find? found
    have stepped := uploadStep_stepped found (uploading.placed a present) step
    generalize s.uploadStep id step = s' at stepped
    cases stepped with
    | refused => exact inv
    | moves f frame quiet payload => exact inv.setAttempt present f frame payload
    | opens reserved => exact inv.setAttempt present _ _ rfl
    | puts putAt opened inTime =>
      exact (inv.setAttempt present _ _ rfl).putRaw (inv.payloads a present)
        (inv.unclaimed uploading present opened inTime)
    | marks committing unlocked r row unset => exact inv.setAttempt present _ _ rfl
    | applies begunAt sent =>
      -- The row is not uploaded yet, so nothing has claimed it.
      have unset := (uploading.marked a present begunAt (Or.inr sent)).1
      refine (inv.setAttempt present _ _ rfl).setRow (fun c member => ?_) fun r row scrubbed => ?_
      · obtain ⟨uploadedAt, uploaded, -⟩ := inv.claimed c member
        rw [unset] at uploaded
        cases uploaded
      · obtain ⟨r', row', rfl⟩ := Option.map_eq_some_iff.mp row
        exact inv.marked r' row' scrubbed
    | removes removing sent => exact (inv.setAttempt present _ _ rfl).noObject
    | releases sent unreleased unlocked =>
      refine (inv.setAttempt present _ _ rfl).setRow (fun c member => ?_) fun r row scrubbed => ?_
      · obtain ⟨uploadedAt, uploaded, -⟩ := inv.claimed c member
        obtain ⟨r, row, isUploaded⟩ := Option.map_eq_some_iff.mp uploaded
        show (s.row.filter _).map _ = s.row.map _
        rw [row, Option.filter_some_pos (by rw [isUploaded]; rfl)]
      · exact inv.marked r (Option.filter_eq_some_iff.mp row).1 scrubbed

theorem Scrubs.reserveChunkSeq (inv : Scrubs gzip s) (id : UUID) (payload : Bytes)
    (fit : Fit gzip payload) (acknowledged : Bool) :
    Scrubs gzip (s.reserveChunkSeq id payload acknowledged) := by
  unfold Chunk.reserveChunkSeq
  split
  · rename_i free
    split
    · exact inv
    · rename_i attempts inserted
      have payloads : ∀ a ∈ attempts.rows, Fit gzip a.payload := by
        intro a member
        rcases (Table.mem_insert? inserted).mp member with rfl | old
        · exact fit
        · exact inv.payloads a old
      refine (inv.attempts payloads).setRow (fun c member => ?_) fun r row scrubbed => ?_
      · obtain ⟨uploadedAt, uploaded, -⟩ := inv.claimed c member
        rw [free.2] at uploaded
        cases uploaded
      · cases row
        cases scrubbed
  · exact inv

theorem Scrubs.claimUnscrubbedChunk (inv : Scrubs gzip s) (id : UUID) :
    Scrubs gzip (s.claimUnscrubbedChunk id) := by
  unfold Chunk.claimUnscrubbedChunk
  split
  · rename_i r scrubs row inserted
    split
    · rename_i claimable
      obtain ⟨unscrubbed, uploaded, -⟩ := claimable
      obtain ⟨uploadedAt, isUploaded, waited⟩ := Option.any_eq_true .. |>.mp uploaded
      have new : ∀ {p : Scrub → Prop}, (∀ c ∈ s.scrubs.rows, p c) →
          p { id, claimedAt := s.now, phase := .claimed } → ∀ c ∈ scrubs.rows, p c := by
        intro p old first c member
        rcases (Table.mem_insert? inserted).mp member with rfl | kept
        · exact first
        · exact old c kept
      have claimed := inv.claimed
      rw [row, Option.map_some, isUploaded] at claimed
      refine ⟨?_, inv.payloads, inv.fit, inv.redacted, new inv.read nofun, new inv.documents nofun,
        new inv.copied nofun, new inv.stored nofun, fun r' row' scrubbed => ?_⟩
      · show ∀ c ∈ scrubs.rows, ∃ u, some r.uploadedAt = some (some u) ∧ u + seconds 30 ≤ c.claimedAt ∧
          c.claimedAt ≤ s.now
        rw [isUploaded]
        have after := Int.add_le_of_le_sub_right (of_decide_eq_true waited)
        exact new claimed ⟨uploadedAt, rfl, after, Int.le_refl _⟩
      · cases row'
        rw [show r.scrubbedAt = none from unscrubbed] at scrubbed
        cases scrubbed
    · exact inv
  · exact inv

theorem Scrubs.scrubStep (inv : Scrubs gzip s) (maxInflateBytes : Nat) (id : UUID)
    (step : ScrubStep) : Scrubs gzip (s.scrubStep gzip maxInflateBytes id step) := by
  cases found : s.scrubs.find? id with
  | none =>
    unfold Chunk.scrubStep
    rw [found]
    exact inv
  | some c =>
    have present := Table.mem_of_find? found
    have stepped := scrubStep_stepped gzip found maxInflateBytes step
    generalize s.scrubStep gzip maxInflateBytes id step = s' at stepped
    cases stepped with
    | refused => exact inv
    | settles f frame settles => exact inv.settles present f frame settles
    | reads o stored =>
      refine inv.setScrub present _ _ rfl (fun raw read => ?_) (inv.documents c present)
        (inv.copied c present) nofun fun written => written
      cases read
      exact inv.fit o stored
    | redacts raw plain read inflated valid =>
      refine inv.setScrub present _ _ rfl nofun (fun document redacted => ?_) (inv.copied c present)
        nofun fun written => written
      cases redacted
      exact cleanText_redactRecording valid (inv.read c present raw read plain inflated)
    | puts document redacted =>
      have clean := inv.documents c present document redacted
      refine (inv.putRedacted clean).setScrub present (fun c => { c with stored := true })
        (fun _ => rfl) rfl (inv.read c present) (inv.documents c present) (fun _ o stored => ?_)
        (fun _ => rfl) fun _ => rfl
      cases stored
      rfl
    | marksScrubbed stored =>
      have written := inv.stored c present stored
      have done := inv.settles present (fun c => { c with phase := .done }) (fun _ => rfl)
        ⟨rfl, rfl, rfl, nofun, nofun⟩
      refine done.setRow (fun _ _ => ?_) fun r row scrubbed =>
        ⟨{ c with phase := .done }, (mem_setScrub present _ _).mpr (Or.inl rfl), written⟩
      rw [Option.map_map]
      rfl
    | marksFailed =>
      have done := inv.settles present (fun c => { c with phase := .done }) (fun _ => rfl)
        ⟨rfl, rfl, rfl, nofun, nofun⟩
      refine done.setRow (fun _ _ => ?_) fun r row scrubbed => ?_
      · rw [Option.map_map]
        rfl
      · obtain ⟨r', row', rfl⟩ := Option.map_eq_some_iff.mp row
        exact done.marked r' row' scrubbed
    | removes removing sent => exact inv.noObject

theorem Uploading.claimUnscrubbedChunk (inv : Uploading s) (id : UUID) :
    Uploading (s.claimUnscrubbedChunk id) := by
  unfold Chunk.claimUnscrubbedChunk
  split
  · rename_i r scrubs row inserted
    split
    · refine inv.row _ ?_ scrubs
      rw [row]
      rfl
    · exact inv
  · exact inv

theorem Uploading.scrubStep (inv : Uploading s) (gzip : Gzip) (maxInflateBytes : Nat) (id : UUID)
    (step : ScrubStep) : Uploading (s.scrubStep gzip maxInflateBytes id step) := by
  cases found : s.scrubs.find? id with
  | none =>
    unfold Chunk.scrubStep
    rw [found]
    exact inv
  | some c =>
    have stepped := scrubStep_stepped gzip found maxInflateBytes step
    generalize s.scrubStep gzip maxInflateBytes id step = s' at stepped
    cases stepped with
    | refused => exact inv
    | settles | reads | redacts => exact inv.row s.row rfl _
    | puts document redacted => exact (inv.row s.row rfl _).object _
    | marksScrubbed | marksFailed =>
      refine inv.row _ ?_ _
      rw [Option.map_map]
      rfl
    | removes removing sent => exact inv.object none

/-- The copy of every pass that has stored one is there, or a later one. -/
def Kept (s : Chunk) : Prop := ∀ c ∈ s.scrubs.rows, c.stored → s.object.isSome

theorem Kept.uploadStep (kept : Kept s) (uploading : Uploading s) (scrubs : Scrubs gzip s)
    (id : UUID) (step : UploadStep) (keeps : s.KeepsCopy ⟨s.now, .upload id step⟩) :
    Kept (s.uploadStep id step) := by
  cases found : s.attempts.find? id with
  | none =>
    unfold Chunk.uploadStep
    rw [found]
    exact kept
  | some a =>
    have stepped := uploadStep_stepped found (uploading.placed a (Table.mem_of_find? found)) step
    generalize s.uploadStep id step = s' at stepped
    cases stepped with
    | refused | moves | opens | marks | applies | releases => exact kept
    | puts putAt opened inTime => exact fun _ _ _ => rfl
    | removes removing sent =>
      -- What is there has not been stored by a scrubber, so no pass has stored anything.
      intro c member stored
      obtain ⟨o, object⟩ := Option.isSome_iff_exists.mp (kept c member stored)
      subst removing
      simp [KeepsCopy, object, scrubs.copied c member stored o object, found, sent] at keeps

theorem Kept.scrubStep (kept : Kept s) (scrubs : Scrubs gzip s) (maxInflateBytes : Nat) (id : UUID)
    (step : ScrubStep) (keeps : s.KeepsCopy ⟨s.now, .scrub id step⟩) :
    Kept (s.scrubStep gzip maxInflateBytes id step) := by
  cases found : s.scrubs.find? id with
  | none =>
    unfold Chunk.scrubStep
    rw [found]
    exact kept
  | some c =>
    have present := Table.mem_of_find? found
    have set : ∀ (f : Scrub → Scrub) (frame : ∀ c, (f c).id = c.id), (f c).stored = c.stored →
        Kept (s.setScrub c f frame) := by
      intro f frame same d member stored
      rcases (mem_setScrub present f frame).mp member with rfl | ⟨old, -⟩
      · exact kept c present (same ▸ stored)
      · exact kept d old stored
    have stepped := scrubStep_stepped gzip found maxInflateBytes step
    generalize s.scrubStep gzip maxInflateBytes id step = s' at stepped
    cases stepped with
    | refused => exact kept
    | settles f frame settles => exact set f frame settles.stored
    | reads | redacts => exact set _ _ rfl
    | marksScrubbed | marksFailed => exact set (fun c => { c with phase := .done }) (fun _ => rfl) rfl
    | puts document redacted => exact fun _ _ _ => rfl
    | removes removing sent =>
      intro d member stored
      obtain ⟨o, object⟩ := Option.isSome_iff_exists.mp (kept d member stored)
      subst removing
      simp [KeepsCopy, object, scrubs.copied d member stored o object, found, sent] at keeps

/-- What holds in every state that is reached with decodable payloads. -/
structure Scrubbed (gzip : Gzip) (s : Chunk) : Prop where
  uploading : Uploading s
  scrubs : Scrubs gzip s

theorem scrubbed_start (gzip : Gzip) : Scrubbed gzip .start := by
  have attempts : ∀ a, a ∉ Chunk.start.attempts.rows := fun _ => List.not_mem_nil
  have scrubs : ∀ c, c ∉ Chunk.start.scrubs.rows := fun _ => List.not_mem_nil
  refine ⟨⟨fun a member => absurd member (attempts a), fun a member => absurd member (attempts a),
      fun _ a member => absurd member (attempts a), fun a member => absurd member (attempts a),
      fun a member => absurd member (attempts a), fun r _ row => ?_⟩,
    ⟨fun c member => absurd member (scrubs c), fun a member => absurd member (attempts a),
      fun o object => ?_, fun o object => ?_, fun c member => absurd member (scrubs c),
      fun c member => absurd member (scrubs c), fun c member => absurd member (scrubs c),
      fun c member => absurd member (scrubs c), fun r row => ?_⟩⟩
  · cases row
  · cases object
  · cases object
  · cases row

theorem Scrubbed.later {gzip : Gzip} {s : Chunk} (inv : Scrubbed gzip s) {now : Timestamp}
    (later : s.now ≤ now) : Scrubbed gzip { s with now } := by
  refine ⟨inv.uploading.later later, fun c member => ?_, inv.scrubs.payloads, inv.scrubs.fit,
    inv.scrubs.redacted, inv.scrubs.read, inv.scrubs.documents, inv.scrubs.copied, inv.scrubs.stored,
    inv.scrubs.marked⟩
  obtain ⟨uploadedAt, uploaded, after, before⟩ := inv.scrubs.claimed c member
  exact ⟨uploadedAt, uploaded, after, Int.le_trans before later⟩

theorem Scrubbed.step {gzip : Gzip} {s : Chunk} (inv : Scrubbed gzip s) (maxInflateBytes : Nat)
    (a : Action) (decodable : PayloadDecodable gzip s a) :
    Scrubbed gzip (s.step gzip maxInflateBytes a) := by
  unfold Chunk.step
  split
  · rename_i passes
    have now := inv.later (Int.le_of_lt passes)
    have fresh : ∀ b ∈ s.attempts.rows, ∀ putAt, b.putAt = some putAt → putAt < a.time :=
      fun b member putAt opened => Int.lt_of_le_of_lt (inv.uploading.past b member putAt opened) passes
    obtain ⟨time, event⟩ := a
    cases event with
    | reserveChunkSeq id payload acknowledged =>
      have fit : Fit gzip payload := fun plain inflated =>
        Or.inl (of_decide_eq_true decodable plain inflated)
      exact ⟨now.uploading.reserveChunkSeq id payload acknowledged,
        now.scrubs.reserveChunkSeq id payload fit acknowledged⟩
    | upload id step =>
      exact ⟨now.uploading.uploadStep fresh id step, now.scrubs.uploadStep now.uploading id step⟩
    | claimUnscrubbedChunk id =>
      exact ⟨now.uploading.claimUnscrubbedChunk id, now.scrubs.claimUnscrubbedChunk id⟩
    | scrub id step =>
      exact ⟨now.uploading.scrubStep gzip maxInflateBytes id step,
        now.scrubs.scrubStep maxInflateBytes id step⟩
  · exact inv

theorem Kept.step {gzip : Gzip} {s : Chunk} (kept : Kept s) (inv : Scrubbed gzip s)
    (maxInflateBytes : Nat) (a : Action) (keeps : s.KeepsCopy a) :
    Kept (s.step gzip maxInflateBytes a) := by
  unfold Chunk.step
  split
  · rename_i passes
    have now := inv.later (Int.le_of_lt passes)
    have kept : Kept { s with now := a.time } := kept
    obtain ⟨time, event⟩ := a
    cases event with
    | reserveChunkSeq id payload acknowledged =>
      show Kept (Chunk.reserveChunkSeq _ id payload acknowledged)
      unfold Chunk.reserveChunkSeq
      split
      · split <;> exact kept
      · exact kept
    | upload id step => exact kept.uploadStep now.uploading now.scrubs id step keeps
    | claimUnscrubbedChunk id =>
      show Kept (Chunk.claimUnscrubbedChunk _ id)
      unfold Chunk.claimUnscrubbedChunk
      split
      · rename_i r scrubs row inserted
        split
        · intro c member stored
          rcases (Table.mem_insert? inserted).mp member with rfl | old
          · cases stored
          · exact kept c old stored
        · exact kept
      · exact kept
    | scrub id step => exact kept.scrubStep now.scrubs maxInflateBytes id step keeps
  · exact kept

/-- While every payload can be decoded, what is readable is redacted; and while no request
removes a scrubber's copy, there is something to read. -/
theorem onlyRedacted (gzip : Gzip) (maxInflateBytes : Nat) (actions : List Action)
    (decodable : (machine gzip maxInflateBytes).Guarded (fun s a => PayloadDecodable gzip s a) .start
      actions) :
    OnlyRedacted gzip ((machine gzip maxInflateBytes).run .start actions) ∧
      ((machine gzip maxInflateBytes).Guarded (fun s a => s.KeepsCopy a) .start actions →
        Available ((machine gzip maxInflateBytes).run .start actions)) := by
  refine ⟨?_, fun keeps => ?_⟩
  · have run := (machine gzip maxInflateBytes).invariant_guarded (Scrubbed gzip)
      (fun s a inv sound => inv.step maxInflateBytes a sound) (scrubbed_start gzip) decodable
    exact run.scrubs.kept_as_redacted
  · have step : ∀ s a, Scrubbed gzip s ∧ Kept s → PayloadDecodable gzip s a ∧ s.KeepsCopy a →
        Scrubbed gzip (s.step gzip maxInflateBytes a) ∧ Kept (s.step gzip maxInflateBytes a) :=
      fun s a inv sound =>
        ⟨inv.1.step maxInflateBytes a sound.1, inv.2.step inv.1 maxInflateBytes a sound.2⟩
    have run := (machine gzip maxInflateBytes).invariant_guarded (fun s => Scrubbed gzip s ∧ Kept s) step
      ⟨scrubbed_start gzip, fun c member => absurd member List.not_mem_nil⟩ (decodable.and keeps)
    intro r row scrubbed
    obtain ⟨c, member, stored⟩ := run.1.scrubs.marked r row scrubbed
    exact run.2 c member stored

/-- Storage that keeps what it is given behind the magic bytes. -/
def plainGzip : Gzip where
  deflate data := gzipMagic ++ data
  inflate
    | 0x1f :: 0x8b :: data => some data
    | _ => none
  inflate_deflate _ := rfl

/-- A chunk is uploaded, and a scrubber claims it thirty seconds after. -/
def scrubbedOnce (payload : Bytes) : List Action :=
  [⟨seconds 1, .reserveChunkSeq 1 (gzipMagic ++ payload) true⟩, ⟨seconds 2, .upload 1 .beginPut⟩,
    ⟨seconds 3, .upload 1 .putTakesEffect⟩, ⟨seconds 4, .upload 1 (.putReturns true)⟩,
    ⟨seconds 5, .upload 1 .markChunk⟩, ⟨seconds 6, .upload 1 .sendCommit⟩,
    ⟨seconds 7, .upload 1 .commitTakesEffect⟩, ⟨seconds 40, .claimUnscrubbedChunk 1⟩,
    ⟨seconds 41, .scrub 1 .getObject⟩, ⟨seconds 42, .scrub 1 .redact⟩,
    ⟨seconds 43, .scrub 1 .putTakesEffect⟩, ⟨seconds 44, .scrub 1 (.putReturns true)⟩,
    ⟨seconds 45, .scrub 1 .markScrubbed⟩]

theorem onlyRedacted_password :
    let final := (machine plainGzip 1000).run .start
      (scrubbedOnce (Bytes.ascii "\x7b\"password\":\"hunter2\",\"z\":1\x7d"))
    final.row.any (fun r => r.scrubbedAt.isSome) ∧ OnlyRedacted plainGzip final ∧ Available final := by
  have only := onlyRedacted plainGzip 1000
    (scrubbedOnce (Bytes.ascii "\x7b\"password\":\"hunter2\",\"z\":1\x7d")) (by decide +kernel)
  exact ⟨by decide +kernel, only.1, only.2 (by decide +kernel)⟩

/-- A number past the finite ones makes a password readable. -/
theorem not_onlyRedacted :
    ¬OnlyRedacted plainGzip ((machine plainGzip 1000).run .start
      (scrubbedOnce (Bytes.ascii "\x7b\"password\":\"hunter2\",\"z\":1e400\x7d"))) := by
  intro only
  have ends : ∃ r, ((machine plainGzip 1000).run .start
      (scrubbedOnce (Bytes.ascii "\x7b\"password\":\"hunter2\",\"z\":1e400\x7d"))).row = some r ∧
        r.scrubbedAt.isSome := by
    refine ⟨⟨some (seconds 5), some (seconds 45), 1, none⟩, ?_⟩
    decide +kernel
  obtain ⟨r, row, scrubbed⟩ := ends
  have object : ((machine plainGzip 1000).run .start
      (scrubbedOnce (Bytes.ascii "\x7b\"password\":\"hunter2\",\"z\":1e400\x7d"))).object =
        some ⟨gzipMagic ++ Bytes.ascii "\x7b\"password\":\"hunter2\",\"z\":1e400\x7d", true⟩ := by
    decide +kernel
  obtain ⟨document, stored, clean⟩ := only r row scrubbed _ object
  obtain rfl := List.append_cancel_left stored
  have shown : CleanText ((JsonReader.codes "\x7b\"" ++ JsonReader.codes "password" ++
      JsonReader.codes "\":" ++ JsonReader.code '"' :: JsonReader.code 'h' ::
        JsonReader.codes "unter2\",\"z\":1e400\x7d").map Nat.toUInt8) := clean
  have first := Masking.CleanText.sensitive (by decide) (by decide +kernel) shown
  exact absurd first (by decide)

end Chunk

end Opslane.Sessions.Scrubbing
