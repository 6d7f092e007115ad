import Mathlib.Data.List.Perm.Subperm
import Opslane.Auth.ProjectKeys
import Opslane.Lib.Table
import Opslane.Lib.Transition
import Opslane.Schema

/-!
# Capped onboarding keys

`CreateIngestKeyCapped`: a transaction starts, takes the lock of its project, inserts its key under the
time it started at and revokes all live onboarding keys but the newest five. What it writes is seen when
it commits.
-/

namespace Opslane.Auth

/-- A row of `project_api_keys`. -/
structure APIKeyRow where
  id : UUID
  keyID : Bytes
  projectID : UUID
  scope : Scope
  label : String
  createdAt : Timestamp
  revokedAt : Option Timestamp
  deriving DecidableEq

def onboardingKeyCap : Nat := 5

def APIKeyRow.LiveOnboarding (projectID : UUID) (k : APIKeyRow) : Prop :=
  k.projectID = projectID ∧ k.scope = .ingest ∧ k.label = "onboarding" ∧ k.revokedAt = none
  deriving Decidable

def liveOnboarding (rows : List APIKeyRow) (projectID : UUID) : List APIKeyRow :=
  rows.filter fun k => k.LiveOnboarding projectID

/-- `ORDER BY created_at DESC, id DESC` -/
def newerOrSame (k k' : APIKeyRow) : Bool :=
  k'.createdAt < k.createdAt || (k'.createdAt == k.createdAt && k'.id ≤ k.id)

/-- The key ids the subquery of `excessOnboardingKeysSQL` selects. -/
def newestKeyIDs (rows : List APIKeyRow) (projectID : UUID) : List Bytes :=
  (((liveOnboarding rows projectID).insertionSort fun a b => newerOrSame a b).take onboardingKeyCap).map APIKeyRow.keyID

/-- The keys `excessOnboardingKeysSQL` revokes. -/
def excessOnboardingKeys (rows : List APIKeyRow) (projectID : UUID) : List APIKeyRow :=
  (liveOnboarding rows projectID).filter fun k => k.keyID ∉ newestKeyIDs rows projectID

def APIKeyRow.revoke (now : Timestamp) (k : APIKeyRow) : APIKeyRow := { k with revokedAt := some now }

/-- A call of `CreateIngestKeyCapped`, and when its transaction started. -/
structure CreateTx where
  orgID : UUID
  projectID : UUID
  label : String
  startedAt : Timestamp
  deriving DecidableEq

def CreateTx.key (t : CreateTx) (id : UUID) (keyID : Bytes) : APIKeyRow where
  id
  keyID
  projectID := t.projectID
  scope := .ingest
  label := t.label
  createdAt := t.startedAt
  revokedAt := none

/-- What a transaction has written before it commits. -/
structure Written where
  key : APIKeyRow
  revoked : List Bytes
  deriving DecidableEq

/-- `CreateProjectKeyTx` and, for an onboarding key, `RevokeExcessOnboardingKeysTx`. -/
def CreateTx.write (t : CreateTx) (rows : List APIKeyRow) (id : UUID) (keyID : Bytes) : Written where
  key := t.key id keyID
  revoked :=
    if t.label = "onboarding" then
      (excessOnboardingKeys (t.key id keyID :: rows) t.projectID).map APIKeyRow.keyID
    else []

/-- The committed rows, the transactions that have not got their lock yet, and under each lock the one
that has. -/
structure KeyStore where
  projects : List (UUID × UUID)
  keys : Table APIKeyRow.keyID
  waiting : List CreateTx
  inside : Int → Option (CreateTx × Option Written)

inductive KeyAction where
  | start (t : CreateTx)
  | lock (t : CreateTx)
  | create (lock : Int) (id : UUID) (keyID : Bytes)
  | commit (lock : Int)
  | rollback (lock : Int)

/-- One step; `lockOf` is the lock of a project, `hashtext('keycap-' || project)`. -/
def keyStep (lockOf : UUID → Int) (s : KeyStore) : KeyAction → KeyStore
  | .start t => { s with waiting := t :: s.waiting }
  | .lock t =>
    if t ∈ s.waiting ∧ s.inside (lockOf t.projectID) = none then
      { s with
        waiting := s.waiting.erase t
        inside := Function.update s.inside (lockOf t.projectID) (some (t, none)) }
    else s
  | .create lock id keyID =>
    match s.inside lock with
    | some (t, none) =>
      if (t.projectID, t.orgID) ∈ s.projects ∧ s.keys.find? keyID = none then
        { s with inside := Function.update s.inside lock (some (t, some (t.write s.keys.rows id keyID))) }
      else { s with inside := Function.update s.inside lock none }
    | _ => s
  | .commit lock =>
    match s.inside lock with
    | some (t, some w) =>
      match s.keys.insert? w.key with
      | some keys =>
        { s with
          keys := keys.updateWhere (fun k => k.projectID = t.projectID ∧ k.keyID ∈ w.revoked)
            (APIKeyRow.revoke t.startedAt) fun _ => rfl
          inside := Function.update s.inside lock none }
      | none => { s with inside := Function.update s.inside lock none }
    | _ => s
  | .rollback lock => { s with inside := Function.update s.inside lock none }

def keyMachine (lockOf : UUID → Int) : Transition.Machine KeyStore KeyAction := ⟨keyStep lockOf⟩

instance : IsTrans APIKeyRow fun a b => newerOrSame a b where
  trans a b c first second := by
    unfold newerOrSame at *
    grind

instance : Std.Total fun a b : APIKeyRow => newerOrSame a b = true where
  total a b := by
    unfold newerOrSame
    grind

theorem mem_take_of_few {keys : List APIKeyRow} {k : APIKeyRow} {count : Nat} (member : k ∈ keys)
    (few : (keys.filter fun other => newerOrSame other k).length ≤ count) :
    k ∈ (keys.insertionSort fun a b => newerOrSame a b).take count := by
  have sorted := List.pairwise_insertionSort (fun a b => newerOrSame a b = true) keys
  have perm := List.perm_insertionSort (fun a b => newerOrSame a b = true) keys
  generalize keys.insertionSort (fun a b => newerOrSame a b) = newest at sorted perm ⊢
  obtain ⟨i, inside, rfl⟩ := List.getElem_of_mem (perm.mem_iff.mpr member)
  rw [← (perm.filter _).length_eq] at few
  have front : (newest.take (i + 1)).filter (fun other => newerOrSame other newest[i]) =
      newest.take (i + 1) := by
    refine List.filter_eq_self.mpr fun other taken => ?_
    obtain ⟨j, before, rfl⟩ := List.getElem_of_mem taken
    rw [List.length_take] at before
    rw [List.getElem_take]
    rcases Nat.lt_or_ge j i with earlier | same
    · exact List.pairwise_iff_getElem.mp sorted j i (by omega) inside earlier
    · obtain rfl : j = i := by omega
      simp [newerOrSame]
  have long := ((List.take_sublist (i + 1) newest).filter fun other =>
    newerOrSame other newest[i]).length_le
  rw [front, List.length_take] at long
  exact List.mem_take_iff_getElem.mpr ⟨i, by omega, rfl⟩

theorem liveOnboarding_revoke (rows : List APIKeyRow) (projectID project : UUID) (revoked : List Bytes)
    (now : Timestamp) :
    liveOnboarding (rows.map fun k =>
        if decide (k.projectID = projectID ∧ k.keyID ∈ revoked) = true then k.revoke now else k) project =
      (liveOnboarding rows project).filter fun k => ¬(k.projectID = projectID ∧ k.keyID ∈ revoked) := by
  unfold liveOnboarding
  induction rows with
  | nil => rfl
  | cons k rest ih =>
    by_cases hit : k.projectID = projectID ∧ k.keyID ∈ revoked
    · have gone : ¬(k.revoke now).LiveOnboarding project := fun live => by cases live.2.2.2
      rw [List.map_cons, if_pos (decide_eq_true hit), List.filter_cons_of_neg (by simpa using gone), ih]
      by_cases live : k.LiveOnboarding project
      · simp [live, hit]
      · simp [live]
    · rw [List.map_cons, if_neg (by simpa using hit), List.filter_cons, List.filter_cons, ih]
      by_cases live : k.LiveOnboarding project
      · rw [if_pos (decide_eq_true live), if_pos (decide_eq_true live), List.filter_cons,
          if_pos (decide_eq_true hit)]
      · rw [if_neg (by simpa using live), if_neg (by simpa using live)]

theorem write_congr (t : CreateTx) {rows rows' : List APIKeyRow} (id : UUID) (keyID : Bytes)
    (same : liveOnboarding rows t.projectID = liveOnboarding rows' t.projectID) :
    t.write rows id keyID = t.write rows' id keyID := by
  have cons : liveOnboarding (t.key id keyID :: rows) t.projectID =
      liveOnboarding (t.key id keyID :: rows') t.projectID := by
    unfold liveOnboarding at same ⊢
    rw [List.filter_cons, List.filter_cons, same]
  unfold CreateTx.write excessOnboardingKeys newestKeyIDs
  rw [cons]

variable {t : CreateTx}

variable {s : KeyStore} {lock : Int}

theorem step_commit (lockOf : UUID → Int) {w : Written} (inside : s.inside lock = some (t, some w))
    (free : s.keys.find? w.key.keyID = none) (project : UUID) :
    liveOnboarding (keyStep lockOf s (.commit lock)).keys.rows project =
      (liveOnboarding (w.key :: s.keys.rows) project).filter fun k =>
        ¬(k.projectID = t.projectID ∧ k.keyID ∈ w.revoked) := by
  obtain ⟨keys, inserted⟩ := s.keys.exists_insert? free
  rw [keyStep, inside]
  simp only [inserted, Table.updateWhere, (Table.insert?_spec inserted).2]
  exact liveOnboarding_revoke ..

theorem newest_of_kept (label : t.label = "onboarding") {rows : List APIKeyRow} {id : UUID}
    {keyID : Bytes} {k : APIKeyRow}
    (kept : k ∈ (liveOnboarding (t.key id keyID :: rows) t.projectID).filter fun k =>
      ¬(k.projectID = t.projectID ∧ k.keyID ∈ (t.write rows id keyID).revoked)) :
    k.keyID ∈ newestKeyIDs (t.key id keyID :: rows) t.projectID := by
  obtain ⟨live, spared⟩ := List.mem_filter.mp kept
  have own : k.projectID = t.projectID := (of_decide_eq_true (List.mem_filter.mp live).2).1
  by_contra excess
  refine of_decide_eq_true spared ⟨own, ?_⟩
  rw [CreateTx.write, if_pos label]
  exact List.mem_map_of_mem (List.mem_filter.mpr ⟨live, decide_eq_true excess⟩)

/-- Fewer live onboarding keys than the cap are as new as the key. -/
def InTime (rows : List APIKeyRow) (k : APIKeyRow) : Prop :=
  ((liveOnboarding rows k.projectID).filter fun other => newerOrSame other k).length < onboardingKeyCap

theorem live_key (label : t.label = "onboarding") (rows : List APIKeyRow) (id : UUID)
    (keyID : Bytes) : t.key id keyID ∈ liveOnboarding (t.key id keyID :: rows) t.projectID :=
  List.mem_filter.mpr ⟨List.mem_cons_self, decide_eq_true ⟨rfl, rfl, label, rfl⟩⟩

theorem kept_of_inTime (label : t.label = "onboarding") {rows : List APIKeyRow} {id : UUID}
    {keyID : Bytes} (inTime : InTime rows (t.key id keyID)) :
    keyID ∉ (t.write rows id keyID).revoked := by
  have live := live_key label rows id keyID
  have few : ((liveOnboarding (t.key id keyID :: rows) t.projectID).filter
      fun other => newerOrSame other (t.key id keyID)).length ≤ onboardingKeyCap := by
    have cons : liveOnboarding (t.key id keyID :: rows) t.projectID =
        t.key id keyID :: liveOnboarding rows t.projectID :=
      List.filter_cons_of_pos (List.mem_filter.mp live).2
    rw [cons, List.filter_cons]
    split
    · exact inTime
    · exact inTime.le
  rw [CreateTx.write, if_pos label]
  intro revoked
  obtain ⟨k, excess, same⟩ := List.mem_map.mp revoked
  refine of_decide_eq_true (List.mem_filter.mp excess).2 ?_
  rw [same]
  exact List.mem_map_of_mem (f := APIKeyRow.keyID) (mem_take_of_few live few)

variable {lockOf : UUID → Int}

/-- A transaction holds the lock of its project, and what it has written is what it would write now. -/
structure Served (lockOf : UUID → Int) (s : KeyStore) : Prop where
  ownLock : ∀ lock t w, s.inside lock = some (t, w) → lockOf t.projectID = lock
  written : ∀ lock t w, s.inside lock = some (t, some w) →
    ∃ id keyID, w = t.write s.keys.rows id keyID

theorem of_update {β : Type} {f : Int → Option β} {v : Option β} {lock lock' : Int} {b : β}
    (after : Function.update f lock' v lock = some b) :
    lock = lock' ∧ v = some b ∨ lock ≠ lock' ∧ f lock = some b := by
  rcases Decidable.eq_or_ne lock lock' with rfl | other
  · exact .inl ⟨rfl, by rwa [Function.update_self] at after⟩
  · exact .inr ⟨other, by rwa [Function.update_of_ne other] at after⟩

theorem step_commit_other (served : Served lockOf s) {w : Written}
    (inside : s.inside lock = some (t, some w)) (free : s.keys.find? w.key.keyID = none)
    {project : UUID} (other : project ≠ t.projectID) :
    liveOnboarding (keyStep lockOf s (.commit lock)).keys.rows project =
      liveOnboarding s.keys.rows project := by
  have key : w.key.projectID = t.projectID := by
    obtain ⟨id, keyID, rfl⟩ := served.written lock t w inside
    rfl
  have foreign : ¬w.key.LiveOnboarding project := fun live => other (live.1.symm.trans key)
  rw [step_commit lockOf inside free, liveOnboarding, List.filter_cons_of_neg (by simpa using foreign)]
  refine List.filter_eq_self.mpr fun k live => decide_eq_true fun hit => other ?_
  exact (of_decide_eq_true (List.mem_filter.mp live).2).1.symm.trans hit.1

theorem step_inside (served : Served lockOf s) {a : KeyAction} {w : Option Written}
    (after : (keyStep lockOf s a).inside lock = some (t, w)) :
    (s.inside lock = some (t, w) ∧
      liveOnboarding (keyStep lockOf s a).keys.rows t.projectID =
        liveOnboarding s.keys.rows t.projectID) ∨
    (w = none ∧ lockOf t.projectID = lock) ∨
    ∃ id keyID, a = .create lock id keyID ∧ s.inside lock = some (t, none) ∧
      w = some (t.write s.keys.rows id keyID) ∧ (keyStep lockOf s a).keys = s.keys := by
  cases a with
  | start u => exact .inl ⟨after, rfl⟩
  | lock u =>
    rw [keyStep] at after ⊢
    split_ifs at after ⊢ with free
    · rcases of_update after with ⟨rfl, same⟩ | ⟨-, held⟩
      · cases same
        exact .inr (.inl ⟨rfl, rfl⟩)
      · exact .inl ⟨held, rfl⟩
    · exact .inl ⟨after, rfl⟩
  | rollback lock' =>
    rcases of_update after with ⟨-, same⟩ | ⟨-, held⟩
    · cases same
    · exact .inl ⟨held, rfl⟩
  | create lock' id keyID =>
    rw [keyStep] at after ⊢
    split at after
    · rename_i u inside
      split_ifs at after ⊢ with fresh
      · rcases of_update after with ⟨rfl, same⟩ | ⟨-, held⟩
        · cases same
          exact .inr (.inr ⟨id, keyID, rfl, inside, rfl, rfl⟩)
        · exact .inl ⟨held, rfl⟩
      · rcases of_update after with ⟨-, same⟩ | ⟨-, held⟩
        · cases same
        · exact .inl ⟨held, rfl⟩
    · exact .inl ⟨after, rfl⟩
  | commit lock' =>
    cases inside : s.inside lock' with
    | none =>
      rw [keyStep, inside] at after
      exact .inl ⟨after, by rw [keyStep, inside]⟩
    | some held =>
      obtain ⟨u, written⟩ := held
      cases written with
      | none =>
        rw [keyStep, inside] at after
        exact .inl ⟨after, by rw [keyStep, inside]⟩
      | some v =>
        obtain ⟨other, held⟩ : lock ≠ lock' ∧ s.inside lock = some (t, w) := by
          rw [keyStep, inside] at after
          cases inserted : s.keys.insert? v.key with
          | none | some keys =>
            simp only [inserted] at after
            exact (of_update after).resolve_left fun same => by cases same.2
        refine .inl ⟨held, ?_⟩
        cases free : s.keys.find? v.key.keyID with
        | none =>
          refine step_commit_other served inside free fun same => other ?_
          rw [← served.ownLock lock t w held, ← served.ownLock lock' u (some v) inside, same]
        | some old =>
          rw [keyStep, inside]
          simp only [(s.keys.insert?_eq_none_iff v.key).mpr ⟨old, free⟩]

theorem Served.keyStep {s : KeyStore} (served : Served lockOf s) (a : KeyAction) :
    Served lockOf (keyStep lockOf s a) where
  ownLock lock t w after := by
    rcases step_inside served after with ⟨held, -⟩ | ⟨-, own⟩ | ⟨id, keyID, -, held, -, -⟩
    · exact served.ownLock lock t w held
    · exact own
    · exact served.ownLock lock t none held
  written lock t w after := by
    rcases step_inside served after with ⟨held, same⟩ | ⟨fresh, -⟩ | ⟨id, keyID, -, -, wrote, keys⟩
    · obtain ⟨id, keyID, rfl⟩ := served.written lock t w held
      exact ⟨id, keyID, write_congr t id keyID same.symm⟩
    · cases fresh
    · cases wrote
      exact ⟨id, keyID, by rw [keys]⟩

theorem Served.of_idle (idle : ∀ lock, s.inside lock = none) : Served lockOf s where
  ownLock lock t w inside := by rw [idle lock] at inside; cases inside
  written lock t w inside := by rw [idle lock] at inside; cases inside

/-- A transaction that writes its key is in time. -/
def WritesInTime (s : KeyStore) : KeyAction → Prop
  | .create lock id keyID =>
    ∀ t, s.inside lock = some (t, none) → t.label = "onboarding" → InTime s.keys.rows (t.key id keyID)
  | _ => True

def Timely (s : KeyStore) : Prop :=
  ∀ lock t w, t.label = "onboarding" → s.inside lock = some (t, some w) → InTime s.keys.rows w.key

theorem Timely.keyStep {s : KeyStore} (served : Served lockOf s)
    (timely : Timely s) {a : KeyAction} (guard : WritesInTime s a) : Timely (keyStep lockOf s a) := by
  intro lock t w label after
  rcases step_inside served after with ⟨held, same⟩ | ⟨fresh, -⟩ | ⟨id, keyID, rfl, held, wrote, keys⟩
  · obtain ⟨id, keyID, rfl⟩ := served.written lock t w held
    have before := timely lock t _ label held
    unfold InTime at before ⊢
    rwa [show ((t.write s.keys.rows id keyID).key).projectID = t.projectID from rfl, same]
  · cases fresh
  · cases wrote
    rw [keys]
    exact guard t held label

theorem liveOnboarding_sublist (rows : List APIKeyRow) (projectID : UUID) :
    (liveOnboarding rows projectID).Sublist rows :=
  List.filter_sublist

theorem commit_kept {t : CreateTx} {w : Written} (served : Served lockOf s)
    (inside : s.inside lock = some (t, some w)) (label : t.label = "onboarding")
    (free : s.keys.find? w.key.keyID = none) :
    (liveOnboarding (keyStep lockOf s (.commit lock)).keys.rows t.projectID).length ≤ onboardingKeyCap ∧
      (Timely s → w.key ∈ liveOnboarding (keyStep lockOf s (.commit lock)).keys.rows t.projectID) := by
  obtain ⟨id, keyID, rfl⟩ := served.written lock t w inside
  have key : (t.write s.keys.rows id keyID).key = t.key id keyID := rfl
  have live := step_commit lockOf inside free t.projectID
  rw [key] at live ⊢
  have distinct : ((liveOnboarding (keyStep lockOf s (.commit lock)).keys.rows t.projectID).map
      APIKeyRow.keyID).Nodup :=
    (keyStep lockOf s (.commit lock)).keys.unique.sublist ((liveOnboarding_sublist _ _).map _)
  generalize liveOnboarding (keyStep lockOf s (.commit lock)).keys.rows t.projectID = kept at live distinct ⊢
  subst live
  constructor
  · have newest : _ ⊆ newestKeyIDs (t.key id keyID :: s.keys.rows) t.projectID := fun _ member => by
      obtain ⟨k, inRows, rfl⟩ := List.mem_map.mp member
      exact newest_of_kept label inRows
    have fits := (List.subperm_of_subset distinct newest).length_le
    rw [List.length_map, newestKeyIDs, List.length_map, List.length_take] at fits
    exact Nat.le_trans fits (Nat.min_le_left ..)
  · intro timely
    refine List.mem_filter.mpr ⟨live_key label s.keys.rows id keyID, decide_eq_true fun hit => ?_⟩
    have inTime := timely lock t _ label inside
    rw [key] at inTime
    exact kept_of_inTime label inTime hit.2

section Example

def emptyKeys : KeyStore := ⟨[(7, 1)], Table.empty, [], fun _ => none⟩

def mint (startedAt : Nat) : CreateTx := ⟨1, 7, "onboarding", startedAt⟩

def minted (i : Nat) : List KeyAction := [.lock (mint i), .create 0 i [i.toUInt8], .commit 0]

/-- The first transaction to start waits for its lock until five others have committed. -/
def overtakenMint : List KeyAction :=
  (List.range 6).map (fun i => .start (mint i)) ++ [1, 2, 3, 4, 5].flatMap minted ++
    [.lock (mint 0), .create 0 0 [0]]

end Example

end Opslane.Auth
