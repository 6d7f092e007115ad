import Opslane.Sessions.Scrubbing

/-!
# Who owns a chunk

A chunk's row is released only before it is uploaded, so one attempt at a time owns it, and
every request for a raw object was opened before the time the row is uploaded at.
-/

namespace Opslane.Sessions.Scrubbing

/-- The transaction has marked the row with this time. -/
def Attempt.Marks (a : Attempt) (begunAt : Timestamp) : Prop :=
  a.commit = .marked begunAt ∨ a.commit = .sent begunAt

theorem Attempt.locksRow_iff (a : Attempt) : a.LocksRow ↔ ∃ begunAt, a.Marks begunAt := by
  unfold Attempt.LocksRow Attempt.Marks
  cases a.commit with
  | idle => simp
  | marked b => exact ⟨fun _ => ⟨b, Or.inl rfl⟩, fun _ => trivial⟩
  | sent b => exact ⟨fun _ => ⟨b, Or.inr rfl⟩, fun _ => trivial⟩
  | applied => simp
  | aborted => simp

/-- What one attempt's fields say of each other. -/
structure Attempt.Placed (a : Attempt) : Prop where
  released : a.released → a.releaseSent
  releaseSent : a.releaseSent → a.handler = .releasing ∨ a.handler = .done
  marks : ∀ begunAt, a.Marks begunAt → a.handler ≠ .reserved ∧ a.released = false

variable {a : Attempt}

theorem Attempt.Placed.not_reserved (placed : a.Placed) (released : a.released) :
    a.handler ≠ .reserved := by
  intro reserved
  have ended := placed.releaseSent (placed.released released)
  rw [reserved] at ended
  rcases ended with ended | ended <;> cases ended

theorem Attempt.Placed.unreleased (placed : a.Placed)
    (working : ¬(a.handler = .releasing ∨ a.handler = .done)) : a.released = false := by
  cases released : a.released with
  | false => rfl
  | true => exact absurd (placed.releaseSent (placed.released released)) working

/-- No request of the attempt for a raw object can be opened from a time on. -/
def Attempt.OverBy (t : Timestamp) (a : Attempt) : Prop :=
  (∀ putAt, a.putAt = some putAt → putAt < t) ∧ a.handler ≠ .reserved

namespace Chunk

/-- The attempts and the row: one attempt owns it until it is released. -/
structure Uploading (s : Chunk) : Prop where
  placed : ∀ a ∈ s.attempts.rows, a.Placed
  single : ∀ a ∈ s.attempts.rows, ∀ b ∈ s.attempts.rows, a.released = false → b.released = false → a = b
  owned : s.row = none → ∀ a ∈ s.attempts.rows, a.released
  past : ∀ a ∈ s.attempts.rows, ∀ putAt, a.putAt = some putAt → putAt ≤ s.now
  marked : ∀ a ∈ s.attempts.rows, ∀ begunAt, a.Marks begunAt →
    s.row.map ChunkRow.uploadedAt = some none ∧ ∀ b ∈ s.attempts.rows, b.OverBy begunAt
  uploaded : ∀ r uploadedAt, s.row = some r → r.uploadedAt = some uploadedAt →
    ∀ b ∈ s.attempts.rows, b.OverBy uploadedAt

variable {s : Chunk}

theorem mem_setAttempt {a a' : Attempt} (present : a ∈ s.attempts.rows) (f : Attempt → Attempt)
    (frame : ∀ a, (f a).id = a.id) :
    a' ∈ (s.setAttempt a f frame).attempts.rows ↔
      a' = f a ∨ (a' ∈ s.attempts.rows ∧ a'.id ≠ a.id) :=
  Table.mem_updateKey s.attempts present f frame a'

theorem Uploading.single_setAttempt (inv : Uploading s) (present : a ∈ s.attempts.rows)
    (f : Attempt → Attempt) (frame : ∀ a, (f a).id = a.id) (same : (f a).released = a.released) :
    ∀ b ∈ (s.setAttempt a f frame).attempts.rows, ∀ c ∈ (s.setAttempt a f frame).attempts.rows,
      b.released = false → c.released = false → b = c := by
  intro b member c member' free free'
  rcases (mem_setAttempt present f frame).mp member with rfl | ⟨old, other⟩ <;>
    rcases (mem_setAttempt present f frame).mp member' with rfl | ⟨old', other'⟩
  · rfl
  · exact absurd (congrArg Attempt.id (inv.single c old' a present free' (same ▸ free))) other'
  · exact absurd (congrArg Attempt.id (inv.single b old a present free (same ▸ free'))) other
  · exact inv.single b old c old' free free'

/-- An attempt moves on without opening a request or marking the row. -/
structure Quiet (a a' : Attempt) : Prop where
  placed : a.Placed → a'.Placed
  released : a'.released = a.released
  putAt : a'.putAt = a.putAt
  marks : ∀ begunAt, a'.Marks begunAt → a.Marks begunAt
  reserved : a'.handler = .reserved → a.handler = .reserved

theorem Quiet.overBy {a a' : Attempt} {t : Timestamp} (quiet : Quiet a a') (passed : a.OverBy t) :
    a'.OverBy t :=
  ⟨fun putAt opened => passed.1 putAt (quiet.putAt ▸ opened),
    fun reserved => passed.2 (quiet.reserved reserved)⟩

theorem Uploading.quiet {s : Chunk} (inv : Uploading s) {a : Attempt} (present : a ∈ s.attempts.rows)
    (f : Attempt → Attempt) (frame : ∀ a, (f a).id = a.id) (quiet : Quiet a (f a)) :
    Uploading (s.setAttempt a f frame) := by
  have passed : ∀ t, (∀ b ∈ s.attempts.rows, b.OverBy t) →
      ∀ b ∈ (s.setAttempt a f frame).attempts.rows, b.OverBy t := by
    intro t all b member
    rcases (mem_setAttempt present f frame).mp member with rfl | ⟨old, -⟩
    · exact quiet.overBy (all a present)
    · exact all b old
  refine ⟨fun b member => ?_, inv.single_setAttempt present f frame quiet.released,
    fun free b member => ?_, fun b member putAt opened => ?_, fun b member begunAt marks => ?_,
    fun r u row uploaded => ?_⟩
  · rcases (mem_setAttempt present f frame).mp member with rfl | ⟨old, -⟩
    · exact quiet.placed (inv.placed a present)
    · exact inv.placed b old
  · rcases (mem_setAttempt present f frame).mp member with rfl | ⟨old, -⟩
    · rw [quiet.released]
      exact inv.owned free a present
    · exact inv.owned free b old
  · rcases (mem_setAttempt present f frame).mp member with rfl | ⟨old, -⟩
    · exact inv.past a present putAt (quiet.putAt ▸ opened)
    · exact inv.past b old putAt opened
  · rcases (mem_setAttempt present f frame).mp member with rfl | ⟨old, -⟩
    · have before := inv.marked a present begunAt (quiet.marks begunAt marks)
      exact ⟨before.1, passed begunAt before.2⟩
    · have before := inv.marked b old begunAt marks
      exact ⟨before.1, passed begunAt before.2⟩
  · exact passed u (inv.uploaded r u row uploaded)

theorem Uploading.object {s : Chunk} (inv : Uploading s) (object : Option StoredObject) :
    Uploading { s with object } :=
  ⟨inv.placed, inv.single, inv.owned, inv.past, inv.marked, inv.uploaded⟩

theorem Uploading.row {s : Chunk} (inv : Uploading s) (row : Option ChunkRow)
    (same : row.map ChunkRow.uploadedAt = s.row.map ChunkRow.uploadedAt) (scrubs : Table Scrub.id) :
    Uploading { s with row, scrubs } := by
  refine ⟨inv.placed, inv.single, fun free => ?_, inv.past, fun a member begunAt marks =>
    ⟨same.trans (inv.marked a member begunAt marks).1, (inv.marked a member begunAt marks).2⟩,
    fun r u found uploaded => ?_⟩
  · rw [show row = none from free, Option.map_none] at same
    exact inv.owned (Option.map_eq_none_iff.mp same.symm)
  · rw [show row = some r from found, Option.map_some, uploaded] at same
    obtain ⟨r', found', uploaded'⟩ := Option.map_eq_some_iff.mp same.symm
    exact inv.uploaded r' u found' uploaded'

theorem Uploading.later {s : Chunk} (inv : Uploading s) {now : Timestamp} (later : s.now ≤ now) :
    Uploading { s with now } :=
  ⟨inv.placed, inv.single, inv.owned, fun a member putAt opened =>
    Int.le_trans (inv.past a member putAt opened) later, inv.marked, inv.uploaded⟩

theorem quiet_handler (handler : HandlerPhase) (removeSent releaseSent : Bool)
    (onward : handler ≠ .reserved) (sends : releaseSent → handler = .releasing ∨ handler = .done)
    (kept : a.releaseSent → releaseSent) :
    Quiet a { a with handler, removeSent, releaseSent } where
  placed placed :=
    ⟨fun released => kept (placed.released released), sends,
      fun begunAt marks => ⟨onward, (placed.marks begunAt marks).2⟩⟩
  released := rfl
  putAt := rfl
  marks _ marks := marks
  reserved reserved := absurd reserved onward

theorem quiet_commit (commit : CommitPhase)
    (marks : ∀ begunAt, commit = .marked begunAt ∨ commit = .sent begunAt → a.Marks begunAt) :
    Quiet a { a with commit } where
  placed placed :=
    ⟨placed.released, placed.releaseSent, fun begunAt now => placed.marks begunAt (marks begunAt now)⟩
  released := rfl
  putAt := rfl
  marks := marks
  reserved reserved := reserved

theorem quiet_storage (a : Attempt) (stored removed : Bool) : Quiet a { a with stored, removed } where
  placed placed := ⟨placed.released, placed.releaseSent, placed.marks⟩
  released := rfl
  putAt := rfl
  marks _ marks := marks
  reserved reserved := reserved

/-- What a step of an upload can do to the chunk. -/
inductive UploadStepped (s : Chunk) (a : Attempt) (step : UploadStep) : Chunk → Prop where
  | refused : UploadStepped s a step s
  | moves (f : Attempt → Attempt) (frame : ∀ a, (f a).id = a.id) (quiet : Quiet a (f a))
      (payload : (f a).payload = a.payload) : UploadStepped s a step (s.setAttempt a f frame)
  | opens (reserved : a.handler = .reserved) :
      UploadStepped s a step
        (s.setAttempt a (fun a => { a with handler := .putting, putAt := some s.now }) fun _ => rfl)
  | puts (putAt : Timestamp) (opened : a.putAt = some putAt) (inTime : s.now ≤ putAt + seconds 30) :
      UploadStepped s a step
        { s.setAttempt a (fun a => { a with stored := true }) fun _ => rfl with
          object := some ⟨a.payload, false⟩ }
  | marks (committing : a.handler = .committing) (unlocked : s.rowLocked = false) (r : ChunkRow)
      (row : s.row = some r) (unset : r.uploadedAt = none) :
      UploadStepped s a step (s.setCommit a (.marked s.now))
  | applies (begunAt : Timestamp) (sent : a.commit = .sent begunAt) :
      UploadStepped s a step
        { s.setCommit a .applied with
          row := s.row.map fun r => { r with uploadedAt := some begunAt } }
  | removes (removing : step = .removeTakesEffect) (sent : a.removeSent) :
      UploadStepped s a step
        { s.setAttempt a (fun a => { a with removed := true }) fun _ => rfl with object := none }
  | releases (sent : a.releaseSent) (unreleased : a.released = false) (unlocked : s.rowLocked = false) :
      UploadStepped s a step
        { s.setAttempt a (fun a => { a with released := true }) fun _ => rfl with
          row := s.row.filter fun r => r.uploadedAt.isSome }

theorem UploadStepped.goesOn {step : UploadStep} (placed : a.Placed) (handler : HandlerPhase)
    (onward : handler ≠ .reserved)
    (sends : a.handler = .releasing ∨ a.handler = .done → handler = .done) :
    UploadStepped s a step (s.goOn a handler) :=
  .moves _ _ (quiet_handler handler a.removeSent a.releaseSent onward
    (fun sent => Or.inr (sends (placed.releaseSent sent))) id) rfl

theorem UploadStepped.cleansUp {step : UploadStep} (placed : a.Placed)
    (unsent : ¬(a.handler = .releasing ∨ a.handler = .done)) : UploadStepped s a step (s.cleanUp a) :=
  .moves _ _ (quiet_handler .removing true a.releaseSent (by decide)
    (fun sent => absurd (placed.releaseSent sent) unsent) id) rfl

theorem UploadStepped.sends {step : UploadStep} :
    UploadStepped s a step (s.sendRelease a) :=
  .moves _ _ (quiet_handler .releasing a.removeSent true (by decide) (fun _ => Or.inl rfl)
    fun _ => rfl) rfl

theorem uploadStep_stepped {id : UUID} (found : s.attempts.find? id = some a) (placed : a.Placed)
    (step : UploadStep) : UploadStepped s a step (s.uploadStep id step) := by
  unfold uploadStep
  rw [found]
  dsimp only
  split <;> rename_i handler
  · exact .sends
  · exact .opens handler
  · split
    · rename_i inTime
      obtain ⟨putAt, opened, inTime⟩ := Option.any_eq_true .. |>.mp inTime
      exact .puts putAt opened (of_decide_eq_true inTime)
    · exact .refused
  · split
    · split
      · exact .goesOn placed .committing (by decide) (by rw [handler]; simp)
      · exact .refused
    · exact .cleansUp placed (by rw [handler]; simp)
  · split
    · rename_i free
      split
      · exact .cleansUp placed (by rw [handler]; simp)
      · rename_i r row
        split
        · rename_i unset
          exact .marks handler (Bool.eq_false_of_not_eq_true free.2) r row unset
        · exact .goesOn placed .done (by decide) fun _ => rfl
    · exact .refused
  · split
    · rename_i begunAt marked
      refine .moves _ _ (quiet_commit (.sent begunAt) fun t marks => ?_) rfl
      rcases marks with marks | marks
      · cases marks
      · cases marks
        exact Or.inl marked
    · exact .refused
  · split
    · rename_i begunAt sent
      exact .applies begunAt sent
    · exact .refused
  · split
    · exact .moves _ _ (quiet_commit .aborted (by simp)) rfl
    · exact .refused
  · split
    · split
      · exact .goesOn placed .done (by decide) fun _ => rfl
      · exact .refused
    · exact .cleansUp placed (by rw [handler]; simp)
  · split
    · rename_i sent
      exact .removes rfl sent
    · exact .refused
  · split
    · split
      · exact .sends
      · exact .refused
    · exact .goesOn placed .done (by decide) fun _ => rfl
  · split
    · rename_i free
      exact .releases free.1 (Bool.eq_false_of_not_eq_true free.2.1)
        (Bool.eq_false_of_not_eq_true free.2.2)
    · exact .refused
  · exact .goesOn placed .done (by decide) fun _ => rfl
  · exact .goesOn placed .done (by decide) fun _ => rfl
  · exact .refused

theorem not_marks_of_unlocked (unlocked : s.rowLocked = false) (member : a ∈ s.attempts.rows)
    (begunAt : Timestamp) : ¬a.Marks begunAt := by
  intro marks
  have free := List.any_eq_false.mp unlocked a member
  simp only [decide_eq_true_eq] at free
  exact free ((Attempt.locksRow_iff a).mpr ⟨begunAt, marks⟩)

theorem Uploading.overBy (inv : Uploading s) (present : a ∈ s.attempts.rows)
    (working : a.handler ≠ .reserved) (unreleased : a.released = false) {t : Timestamp}
    (past : ∀ b ∈ s.attempts.rows, ∀ putAt, b.putAt = some putAt → putAt < t) :
    ∀ b ∈ s.attempts.rows, b.OverBy t := by
  intro b member
  refine ⟨past b member, fun reserved => ?_⟩
  cases released : b.released with
  | true => exact (inv.placed b member).not_reserved released reserved
  | false =>
    rw [inv.single b member a present released unreleased] at reserved
    exact working reserved

theorem Uploading.opens (inv : Uploading s) (present : a ∈ s.attempts.rows)
    (reserved : a.handler = .reserved) :
    Uploading (s.setAttempt a (fun a => { a with handler := .putting, putAt := some s.now })
      fun _ => rfl) := by
  have placed := inv.placed a present
  have unreleased := placed.unreleased (by rw [reserved]; simp)
  have unsent : a.releaseSent → False := by
    intro sent
    have ended := placed.releaseSent sent
    rw [reserved] at ended
    simp at ended
  have unmarked : ∀ b ∈ s.attempts.rows, ∀ begunAt, ¬b.Marks begunAt := fun b member begunAt marks =>
    ((inv.marked b member begunAt marks).2 a present).2 reserved
  refine ⟨fun b member => ?_, inv.single_setAttempt present _ _ rfl, fun free => ?_,
    fun b member putAt opened => ?_, fun b member begunAt marks => ?_, fun r u row uploaded => ?_⟩
  · rcases (mem_setAttempt present _ _).mp member with rfl | ⟨old, -⟩
    · exact ⟨placed.released, fun sent => (unsent sent).elim, fun begunAt marks =>
        absurd marks (unmarked a present begunAt)⟩
    · exact inv.placed b old
  · rw [inv.owned free a present] at unreleased
    cases unreleased
  · rcases (mem_setAttempt present _ _).mp member with rfl | ⟨old, -⟩
    · cases opened
      exact Int.le_refl _
    · exact inv.past b old putAt opened
  · rcases (mem_setAttempt present _ _).mp member with rfl | ⟨old, -⟩
    · exact absurd marks (unmarked a present begunAt)
    · exact absurd marks (unmarked b old begunAt)
  · exact absurd reserved (inv.uploaded r u row uploaded a present).2

theorem Uploading.marks {s : Chunk} (inv : Uploading s)
    (fresh : ∀ b ∈ s.attempts.rows, ∀ putAt, b.putAt = some putAt → putAt < s.now)
    {a : Attempt} (present : a ∈ s.attempts.rows) (committing : a.handler = .committing)
    (unlocked : s.rowLocked = false) {r : ChunkRow} (row : s.row = some r)
    (unset : r.uploadedAt = none) : Uploading (s.setCommit a (.marked s.now)) := by
  have placed := inv.placed a present
  have unreleased := placed.unreleased (by rw [committing]; simp)
  have passed := inv.overBy present (by rw [committing]; decide) unreleased fresh
  refine ⟨fun b member => ?_, inv.single_setAttempt present _ _ rfl, fun free => ?_,
    fun b member putAt opened => ?_, fun b member begunAt marks => ?_, fun r' u row' uploaded => ?_⟩
  · rcases (mem_setAttempt present _ _).mp member with rfl | ⟨old, -⟩
    · exact ⟨placed.released, placed.releaseSent, fun _ _ => ⟨(passed a present).2, unreleased⟩⟩
    · exact inv.placed b old
  · rw [inv.owned free a present] at unreleased
    cases unreleased
  · rcases (mem_setAttempt present _ _).mp member with rfl | ⟨old, -⟩
    · exact inv.past a present putAt opened
    · exact inv.past b old putAt opened
  · rcases (mem_setAttempt present _ _).mp member with rfl | ⟨old, -⟩
    · have now : begunAt = s.now := by
        rcases marks with marks | marks
        · cases marks
          rfl
        · cases marks
      subst now
      refine ⟨?_, fun c member' => ?_⟩
      · show s.row.map ChunkRow.uploadedAt = some none
        rw [row, Option.map_some, unset]
      · rcases (mem_setAttempt present _ _).mp member' with rfl | ⟨old, -⟩
        · exact passed a present
        · exact passed c old
    · exact absurd marks (not_marks_of_unlocked unlocked old begunAt)
  · have same : some r' = some r := row'.symm.trans row
    cases same
    rw [unset] at uploaded
    cases uploaded

theorem Uploading.applies (inv : Uploading s) (present : a ∈ s.attempts.rows) {begunAt : Timestamp}
    (sent : a.commit = .sent begunAt) :
    Uploading { s.setCommit a .applied with
      row := s.row.map fun r => { r with uploadedAt := some begunAt } } := by
  have before := inv.marked a present begunAt (Or.inr sent)
  have unreleased := ((inv.placed a present).marks begunAt (Or.inr sent)).2
  have applied := inv.quiet present (fun a => { a with commit := .applied }) (fun _ => rfl)
    (quiet_commit .applied (by simp))
  have mem := fun b : Attempt =>
    (mem_setAttempt present (fun a => { a with commit := .applied }) fun _ => rfl : b ∈ _ ↔ _)
  refine ⟨applied.placed, applied.single, fun free => applied.owned (Option.map_eq_none_iff.mp free),
    applied.past, fun b member t marks => ?_, fun r u row uploaded => ?_⟩
  · rcases (mem b).mp member with rfl | ⟨old, other⟩
    · rcases marks with marks | marks <;> cases marks
    · have free := ((inv.placed b old).marks t marks).2
      exact absurd (congrArg Attempt.id (inv.single b old a present free unreleased)) other
  · obtain ⟨r', -, rfl⟩ := Option.map_eq_some_iff.mp row
    cases uploaded
    intro b member
    rcases (mem b).mp member with rfl | ⟨old, -⟩
    · exact before.2 a present
    · exact before.2 b old

theorem Uploading.releases (inv : Uploading s) (present : a ∈ s.attempts.rows)
    (sent : a.releaseSent) (unreleased : a.released = false) (unlocked : s.rowLocked = false) :
    Uploading { s.setAttempt a (fun a => { a with released := true }) fun _ => rfl with
      row := s.row.filter fun r => r.uploadedAt.isSome } := by
  have mem := fun b : Attempt =>
    (mem_setAttempt present (fun a => { a with released := true }) fun _ => rfl : b ∈ _ ↔ _)
  have released : ∀ b ∈ (s.setAttempt a (fun a => { a with released := true })
      fun _ => rfl).attempts.rows, b.released := by
    intro b member
    rcases (mem b).mp member with rfl | ⟨old, other⟩
    · rfl
    · cases free : b.released with
      | true => rfl
      | false => exact absurd (congrArg Attempt.id (inv.single b old a present free unreleased)) other
  refine ⟨fun b member => ?_, fun b member c member' free => ?_, fun _ => released,
    fun b member putAt opened => ?_, fun b member begunAt marks => ?_, fun r u row uploaded => ?_⟩
  · rcases (mem b).mp member with rfl | ⟨old, -⟩
    · exact ⟨fun _ => sent, (inv.placed a present).releaseSent, fun begunAt marks =>
        absurd marks (not_marks_of_unlocked unlocked present begunAt)⟩
    · exact inv.placed b old
  · rw [released b member] at free
    cases free
  · rcases (mem b).mp member with rfl | ⟨old, -⟩
    · exact inv.past a present putAt opened
    · exact inv.past b old putAt opened
  · rcases (mem b).mp member with rfl | ⟨old, -⟩
    · exact absurd marks (not_marks_of_unlocked unlocked present begunAt)
    · exact absurd marks (not_marks_of_unlocked unlocked old begunAt)
  · have passed := inv.uploaded r u (Option.filter_eq_some_iff.mp row).1 uploaded
    intro b member
    rcases (mem b).mp member with rfl | ⟨old, -⟩
    · exact passed a present
    · exact passed b old

theorem Uploading.uploadStep (inv : Uploading s)
    (fresh : ∀ b ∈ s.attempts.rows, ∀ putAt, b.putAt = some putAt → putAt < s.now) (id : UUID)
    (step : UploadStep) : Uploading (s.uploadStep id step) := by
  cases found : s.attempts.find? id with
  | none =>
    unfold Chunk.uploadStep
    rw [found]
    exact inv
  | some a =>
    have present := Table.mem_of_find? found
    have stepped := uploadStep_stepped found (inv.placed a present) step
    generalize s.uploadStep id step = s' at stepped
    cases stepped with
    | refused => exact inv
    | moves f frame quiet payload => exact inv.quiet present f frame quiet
    | opens reserved => exact inv.opens present reserved
    | puts putAt opened inTime =>
      exact (inv.quiet present _ _ (quiet_storage a true a.removed)).object _
    | marks committing unlocked r row unset =>
      exact inv.marks fresh present committing unlocked row unset
    | applies begunAt sent => exact inv.applies present sent
    | removes removing sent => exact (inv.quiet present _ _ (quiet_storage a a.stored true)).object _
    | releases sent unreleased unlocked => exact inv.releases present sent unreleased unlocked

theorem Uploading.reserveChunkSeq (inv : Uploading s) (id : UUID) (payload : Bytes)
    (acknowledged : Bool) : Uploading (s.reserveChunkSeq id payload acknowledged) := by
  unfold Chunk.reserveChunkSeq
  split
  · rename_i free
    split
    · exact inv
    · rename_i attempts inserted
      have released := inv.owned free.2
      have unmarked : ∀ b ∈ attempts.rows, ∀ begunAt, ¬b.Marks begunAt := by
        intro b member begunAt marks
        rcases (Table.mem_insert? inserted).mp member with rfl | old
        · rcases marks with marks | marks <;> cases marks
        · have unreleased := ((inv.placed b old).marks begunAt marks).2
          rw [released b old] at unreleased
          cases unreleased
      refine ⟨fun b member => ?_, fun b member c member' unreleased unreleased' => ?_,
        nofun, fun b member putAt opened => ?_,
        fun b member begunAt marks => absurd marks (unmarked b member begunAt),
        fun r u row uploaded => ?_⟩
      · rcases (Table.mem_insert? inserted).mp member with rfl | old
        · exact ⟨nofun, nofun, fun begunAt marks => absurd marks (unmarked _ member begunAt)⟩
        · exact inv.placed b old
      · rcases (Table.mem_insert? inserted).mp member with rfl | old <;>
          rcases (Table.mem_insert? inserted).mp member' with rfl | old'
        · rfl
        · rw [released c old'] at unreleased'
          cases unreleased'
        · rw [released b old] at unreleased
          cases unreleased
        · rw [released b old] at unreleased
          cases unreleased
      · rcases (Table.mem_insert? inserted).mp member with rfl | old
        · cases opened
        · exact inv.past b old putAt opened
      · cases row
        cases uploaded
  · exact inv

end Chunk

end Opslane.Sessions.Scrubbing
