import Mathlib.Data.Option.Basic
import Mathlib.Order.Basic

/-!
# The browser session

`packages/sdk/src/session.ts`: the id of the recorded session and the sequence of its
chunks, in memory and in a `sessionStorage` that works. `newId` is random and never
returns an id twice, so ids are numbered in the order they are drawn. A function that
reads the clock more than once is given one reading.
-/

namespace Opslane.Sdk

structure SessionState where
  id : Nat
  /-- Next chunk sequence number to hand out. -/
  seq : Nat
  lastActivityAt : Int
  userId : Option String
  deriving DecidableEq

structure SessionProgress where
  id : Nat
  nextSeq : Nat
  deriving DecidableEq

structure SessionRotation where
  previous : SessionProgress
  newSessionID : Nat
  deriving DecidableEq

/-- The module's variable, the storage, and the ids drawn so far. -/
structure SessionStore where
  state : Option SessionState
  stored : Option SessionState
  drawn : Nat

def idleMs : Int := 30 * 60 * 1000

def SessionState.isExpired (value : SessionState) (now : Int) : Prop :=
  idleMs < now - value.lastActivityAt
  deriving Decidable

namespace SessionStore

variable (s : SessionStore)

/-- Sets the state and writes it through. -/
def write (current : SessionState) : SessionStore :=
  { s with state := some current, stored := some current }

def freshState (userId : Option String) (now : Int) : SessionState := ⟨s.drawn, 0, now, userId⟩

def renew (userId : Option String) (now : Int) : SessionStore :=
  { s.write (s.freshState userId now) with drawn := s.drawn + 1 }

def load (now : Int) : SessionStore × SessionState :=
  match s.state with
  | some current => (s, current)
  | none =>
    match s.stored with
    | none => (s.renew none now, s.freshState none now)
    | some found =>
      if found.isExpired now then (s.renew found.userId now, s.freshState found.userId now)
      else ({ s with state := some found }, found)

def touchSession (now : Int) : SessionStore :=
  let (s, current) := s.load now
  s.write { current with lastActivityAt := now }

def nextChunkSeq (now : Int) : SessionStore × Nat :=
  let (s, current) := s.load now
  (s.write { current with seq := current.seq + 1, lastActivityAt := now }, current.seq)

def getSessionProgress (now : Int) : SessionStore × SessionProgress :=
  let (s, current) := s.load now
  (s, ⟨current.id, current.seq⟩)

/-- Rotates an already-loaded session after an idle gap. -/
def rotateSessionIfIdle (now : Int) : SessionStore × Option SessionRotation :=
  let (s, current) := s.load now
  if current.isExpired now then
    (s.renew current.userId now, some ⟨⟨current.id, current.seq⟩, s.drawn⟩)
  else (s, none)

/-- Rotates the session when its end-user identity changes. -/
def setSessionUser (userId : Option String) (now : Int) : SessionStore × Bool :=
  let (s, current) := s.load now
  if current.userId = userId then (s, false) else (s.renew userId now, true)

/-- A page reload drops what is in memory. -/
def reload : SessionStore := { s with state := none }

/-- Memory is written through, and no id is drawn twice. -/
structure Valid (s : SessionStore) : Prop where
  synced : ∀ current ∈ s.state, s.stored = some current
  drawn : ∀ found ∈ s.stored, found.id < s.drawn

/-- A later store: the same session, no chunk number taken back, or a new session. -/
structure Later (s s' : SessionStore) : Prop where
  drawn : s.drawn ≤ s'.drawn
  stored : ∀ found' ∈ s'.stored, s.drawn ≤ found'.id ∨
    ∃ found, s.stored = some found ∧ found.id = found'.id ∧ found.seq ≤ found'.seq

variable {s} {s' s'' : SessionStore} {current : SessionState}

theorem Later.refl (s : SessionStore) : s.Later s :=
  ⟨Nat.le_refl _, fun found present => Or.inr ⟨found, present, rfl, Nat.le_refl _⟩⟩

theorem renew_valid (s : SessionStore) (userId : Option String) (now : Int) :
    (s.renew userId now).Valid ∧ s.Later (s.renew userId now) := by
  refine ⟨⟨?_, ?_⟩, ⟨Nat.le_succ _, ?_⟩⟩
  · rintro current ⟨⟩
    rfl
  · rintro found ⟨⟩
    exact Nat.lt_succ_self _
  · rintro found ⟨⟩
    exact Or.inl (Nat.le_refl _)

theorem Valid.write (valid : s.Valid) (present : s.state = some current) (next : SessionState)
    (id : next.id = current.id) (seq : current.seq ≤ next.seq) :
    (s.write next).Valid ∧ s.Later (s.write next) := by
  have stored := valid.synced current present
  refine ⟨⟨?_, ?_⟩, ⟨Nat.le_refl _, ?_⟩⟩
  · rintro _ ⟨⟩
    rfl
  · rintro _ ⟨⟩
    exact id ▸ valid.drawn current stored
  · rintro _ ⟨⟩
    exact Or.inr ⟨current, stored, id.symm, seq⟩

theorem load_of_state (present : s.state = some current) (now : Int) : s.load now = (s, current) := by
  unfold load
  rw [present]

theorem Valid.load (valid : s.Valid) (now : Int) :
    (s.load now).1.Valid ∧ s.Later (s.load now).1 ∧ (s.load now).1.state = some (s.load now).2 := by
  unfold SessionStore.load
  split
  · rename_i current present
    exact ⟨valid, .refl s, present⟩
  split
  · obtain ⟨renewed, later⟩ := s.renew_valid none now
    exact ⟨renewed, later, rfl⟩
  · rename_i found stored
    split
    · obtain ⟨renewed, later⟩ := s.renew_valid found.userId now
      exact ⟨renewed, later, rfl⟩
    · refine ⟨⟨?_, valid.drawn⟩, ⟨Nat.le_refl _, (Later.refl s).stored⟩, rfl⟩
      rintro current ⟨⟩
      exact stored

end SessionStore

end Opslane.Sdk
