import Mathlib.Data.List.Dedup
import Mathlib.Data.List.Sort
import Mathlib.Data.String.Basic
import Opslane.Identity.Store
import Opslane.Lib.Result

/-!
# Fingerprint aliases

`packages/ingestion/identity/alias.go`. The advisory locks `lockAliases` takes on
every candidate make two settlements that share a fingerprint run one after the
other; here each transaction is one step, so the locks leave no trace.
-/

namespace Opslane.Identity

/-- A fingerprint an observation can be recognized by. -/
structure CandidateAlias where
  fingerprint : String
  kind : FingerprintKind
  deriving DecidableEq

/-- One round of the loop that fills `byFingerprint`: a resolved candidate
replaces a raw one with the same fingerprint. -/
def putAlias (byFingerprint : List CandidateAlias) (c : CandidateAlias) : List CandidateAlias :=
  if c.fingerprint ∈ byFingerprint.map CandidateAlias.fingerprint then
    if c.kind = .resolved then
      byFingerprint.map fun a => if a.fingerprint = c.fingerprint then c else a
    else byFingerprint
  else c :: byFingerprint

/-- Nonempty candidates, one for each fingerprint, in fingerprint order. -/
def normalizeAliases (candidates : List CandidateAlias) : List CandidateAlias :=
  ((candidates.filter fun c => c.fingerprint ≠ "").foldl putAlias []).insertionSort
    fun a b => a.fingerprint ≤ b.fingerprint

/-- The candidates that are bound, with their issues. -/
def lookupAliases (s : Store) (identityVersion : Int) (candidates : List CandidateAlias) :
    List (String × UUID) :=
  candidates.filterMap fun c => (s.bound identityVersion c.fingerprint).map (c.fingerprint, ·)

/-- The issues some candidate is bound to, each once, in order. -/
def distinctIssues (bound : List (String × UUID)) : List UUID :=
  (bound.map Prod.snd).dedup.insertionSort (· ≤ ·)

def bindAlias (s : Store) (identityVersion : Int) (c : CandidateAlias) (issueID : UUID)
    (now : Timestamp) : Except String Store :=
  match s.fingerprints.insert? ⟨c.fingerprint, c.kind, issueID, identityVersion, .exact, now⟩ with
  | some fingerprints => .ok { s with fingerprints }
  | none =>
    if s.bound identityVersion c.fingerprint = some issueID then .ok s
    else .error "fingerprint alias was concurrently bound to a different issue"

def bindAliases (s : Store) (identityVersion : Int) (candidates : List CandidateAlias)
    (issueID : UUID) (now : Timestamp) : Except String Store :=
  match candidates with
  | [] => .ok s
  | c :: rest => do
    let s ← bindAlias s identityVersion c issueID now
    bindAliases s identityVersion rest issueID now

def recordConflict (s : Store) (eventID : UUID) (issueIDs : List UUID) : Except String Store :=
  match issueIDs with
  | [a, b] =>
    let left := if a > b then b else a
    let right := if a > b then a else b
    .ok { s with conflicts := s.conflicts.insertIgnore ⟨eventID, left, right, .opened⟩ }
  | _ => .error s!"record conflict: got {issueIDs.length} issues, want 2"

theorem mem_foldl_putAlias (candidates byFingerprint : List CandidateAlias) (f : String) :
    f ∈ (candidates.foldl putAlias byFingerprint).map CandidateAlias.fingerprint ↔
      f ∈ byFingerprint.map CandidateAlias.fingerprint ∨
        f ∈ candidates.map CandidateAlias.fingerprint := by
  have put : ∀ (m : List CandidateAlias) (c : CandidateAlias),
      f ∈ (putAlias m c).map CandidateAlias.fingerprint ↔
        f ∈ m.map CandidateAlias.fingerprint ∨ f = c.fingerprint := by
    intro m c
    unfold putAlias
    split
    · rename_i present
      have absorb : f ∈ m.map CandidateAlias.fingerprint ∨ f = c.fingerprint ↔
          f ∈ m.map CandidateAlias.fingerprint :=
        ⟨fun h => h.elim id fun h => h ▸ present, Or.inl⟩
      rw [absorb]
      split
      · have same : (m.map fun a => if a.fingerprint = c.fingerprint then c else a).map
            CandidateAlias.fingerprint = m.map CandidateAlias.fingerprint := by
          rw [List.map_map]
          refine List.map_congr_left fun a _ => ?_
          simp only [Function.comp]
          split
          · rename_i h
            exact h.symm
          · rfl
        rw [same]
      · rfl
    · simp [or_comm]
  induction candidates generalizing byFingerprint with
  | nil => simp
  | cons c rest ih =>
    refine (ih (putAlias byFingerprint c)).trans ?_
    rw [put, List.map_cons, List.mem_cons]
    tauto

theorem mem_normalizeAliases (candidates : List CandidateAlias) (f : String) :
    f ∈ (normalizeAliases candidates).map CandidateAlias.fingerprint ↔
      f ≠ "" ∧ f ∈ candidates.map CandidateAlias.fingerprint := by
  have sorted := ((candidates.filter fun c => c.fingerprint ≠ "").foldl putAlias []).perm_insertionSort
    fun a b => a.fingerprint ≤ b.fingerprint
  rw [normalizeAliases, (sorted.map CandidateAlias.fingerprint).mem_iff, mem_foldl_putAlias]
  simp only [List.map_nil, List.not_mem_nil, false_or, List.mem_map, List.mem_filter,
    decide_eq_true_eq]
  constructor
  · rintro ⟨c, ⟨member, nonempty⟩, rfl⟩
    exact ⟨nonempty, c, member, rfl⟩
  · rintro ⟨nonempty, c, member, rfl⟩
    exact ⟨c, ⟨member, nonempty⟩, rfl⟩

theorem mem_distinctIssues (s : Store) (identityVersion : Int) (candidates : List CandidateAlias)
    (i : UUID) :
    i ∈ distinctIssues (lookupAliases s identityVersion candidates) ↔
      ∃ c ∈ candidates, s.bound identityVersion c.fingerprint = some i := by
  have sorted := ((lookupAliases s identityVersion candidates).map
    Prod.snd).dedup.perm_insertionSort (· ≤ ·)
  rw [distinctIssues, sorted.mem_iff, List.mem_dedup]
  simp only [lookupAliases, List.mem_map, List.mem_filterMap, Option.map_eq_some_iff]
  constructor
  · rintro ⟨_, ⟨c, member, issue, found, rfl⟩, rfl⟩
    exact ⟨c, member, found⟩
  · rintro ⟨c, member, found⟩
    exact ⟨_, ⟨c, member, i, found, rfl⟩, rfl⟩

theorem nodup_distinctIssues (bound : List (String × UUID)) : (distinctIssues bound).Nodup :=
  ((bound.map Prod.snd).dedup.perm_insertionSort (· ≤ ·)).nodup_iff.mpr (List.nodup_dedup _)

/-- What binding does: a candidate that was free is bound to the issue, and
every other binding stays. -/
structure Binds (s s' : Store) (identityVersion : Int) (candidates : List CandidateAlias)
    (issueID : UUID) : Prop where
  frame : s' = { s with fingerprints := s'.fingerprints }
  kept : ∀ v f j, s.bound v f = some j → s'.bound v f = some j
  origin : ∀ v f j, s'.bound v f = some j → s.bound v f = some j ∨
    (s.bound v f = none ∧ j = issueID ∧ v = identityVersion ∧
      f ∈ candidates.map CandidateAlias.fingerprint)
  covers : ∀ c ∈ candidates, s'.bound identityVersion c.fingerprint = some issueID

theorem Store.bound_eq_some_iff (s : Store) (v : Int) (f : String) (i : UUID) :
    s.bound v f = some i ↔
      ∃ a, s.fingerprints.find? (v, f) = some a ∧ a.canonicalIssueID = i := by
  simp [Store.bound]

variable {identityVersion : Int}

theorem bindAlias_binds {s s' : Store} {c : CandidateAlias} {issueID : UUID} {now : Timestamp}
    (success : bindAlias s identityVersion c issueID now = .ok s') :
    Binds s s' identityVersion [c] issueID := by
  unfold bindAlias at success
  split at success
  · rename_i fingerprints inserted
    cases success
    have free : s.bound identityVersion c.fingerprint = none := by
      simp [Store.bound, show s.fingerprints.find? (identityVersion, c.fingerprint) = none from
        (Table.insert?_spec inserted).1]
    have after : ∀ v f, Store.bound { s with fingerprints } v f =
        if (v, f) = (identityVersion, c.fingerprint) then some issueID else s.bound v f := by
      intro v f
      simp only [Store.bound, Table.find?_insert? inserted, FingerprintAlias.key]
      by_cases same : (v, f) = (identityVersion, c.fingerprint)
      · simp only [same, if_true, Option.map_some]
      · simp only [same, if_false]
    refine ⟨rfl, ?_, ?_, ?_⟩
    · intro v f j h
      rw [after]
      split
      · rename_i same
        cases same
        rw [free] at h
        cases h
      · exact h
    · intro v f j h
      rw [after] at h
      split at h
      · rename_i same
        cases same
        cases h
        exact Or.inr ⟨free, rfl, rfl, by simp⟩
      · exact Or.inl h
    · simp [after]
  · split at success
    · rename_i same
      cases success
      exact ⟨rfl, fun _ _ _ h => h, fun _ _ _ h => Or.inl h, by simpa using same⟩
    · cases success

theorem bindAliases_binds {s s' : Store} {candidates : List CandidateAlias} {issueID : UUID}
    {now : Timestamp} (success : bindAliases s identityVersion candidates issueID now = .ok s') :
    Binds s s' identityVersion candidates issueID := by
  induction candidates generalizing s with
  | nil =>
    cases success
    exact ⟨rfl, fun _ _ _ h => h, fun _ _ _ h => Or.inl h, by simp⟩
  | cons c rest ih =>
    obtain ⟨s₁, first, others⟩ := Except.of_bind success
    have one := bindAlias_binds first
    have more := ih others
    refine ⟨?_, fun v f j h => more.kept v f j (one.kept v f j h), ?_, ?_⟩
    · rw [more.frame, one.frame]
    · intro v f j h
      rcases more.origin v f j h with before | ⟨free, rfl, rfl, member⟩
      · rcases one.origin v f j before with before | ⟨free, rfl, rfl, member⟩
        · exact Or.inl before
        · refine Or.inr ⟨free, rfl, rfl, ?_⟩
          simp only [List.map_cons, List.map_nil, List.mem_singleton] at member
          simp [member]
      · refine Or.inr ⟨?_, rfl, rfl, by simp [member]⟩
        cases old : s.bound v f with
        | none => rfl
        | some i => rw [one.kept v f i old] at free; cases free
    · intro d member
      rcases List.mem_cons.mp member with rfl | member
      · exact more.kept _ _ _ (one.covers d (by simp))
      · exact more.covers d member

theorem exists_bindAliases (s : Store) (identityVersion : Int) (candidates : List CandidateAlias)
    (issueID : UUID) (now : Timestamp)
    (agree : ∀ c ∈ candidates, ∀ j, s.bound identityVersion c.fingerprint = some j → j = issueID) :
    ∃ s', bindAliases s identityVersion candidates issueID now = .ok s' := by
  induction candidates generalizing s with
  | nil => exact ⟨s, rfl⟩
  | cons c rest ih =>
    have first : ∃ s₁, bindAlias s identityVersion c issueID now = .ok s₁ := by
      unfold bindAlias
      split
      · exact ⟨_, rfl⟩
      · rename_i refused
        obtain ⟨old, found⟩ := (Table.insert?_eq_none_iff _ _).mp refused
        have isBound : s.bound identityVersion c.fingerprint = some old.canonicalIssueID :=
          (s.bound_eq_some_iff _ _ _).mpr ⟨old, found, rfl⟩
        rw [if_pos (by rw [isBound, agree c (by simp) _ isBound])]
        exact ⟨s, rfl⟩
    obtain ⟨s₁, first⟩ := first
    have one := bindAlias_binds first
    obtain ⟨s', others⟩ := ih s₁ fun d member j h => by
      rcases one.origin _ _ j h with before | ⟨-, rfl, -, -⟩
      · exact agree d (by simp [member]) j before
      · rfl
    exact ⟨s', Except.bind_eq_ok_iff.mpr ⟨s₁, first, others⟩⟩

end Opslane.Identity
