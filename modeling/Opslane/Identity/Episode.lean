import Opslane.Lib.Table
import Opslane.Schema

/-!
# Work rounds

The table `issue_episodes` with its two unique constraints: one row for each
sequence number of an issue, and one open row for each issue. Rows are inserted
with `ON CONFLICT DO NOTHING` and closed by updates of `closed_at`; no statement
opens a closed row again.
-/

namespace Opslane.Identity

/-- A row of `issue_episodes`. -/
structure IssueEpisode where
  id : UUID
  canonicalIssueID : UUID
  sequence : Nat
  openedAt : Timestamp
  closedAt : Option Timestamp
  deriving DecidableEq

/-- The rows two unique constraints forbid together. -/
def IssueEpisode.Clashes (a b : IssueEpisode) : Prop :=
  a.canonicalIssueID = b.canonicalIssueID ∧
    (a.sequence = b.sequence ∨ (a.closedAt = none ∧ b.closedAt = none))
  deriving Decidable

theorem IssueEpisode.Clashes.symm {a b : IssueEpisode} (clash : a.Clashes b) : b.Clashes a :=
  ⟨clash.1.symm, clash.2.imp Eq.symm And.symm⟩

/-- `issue_episodes`: the primary key and both unique constraints hold. -/
structure Episodes where
  table : Table IssueEpisode.id
  distinct : ∀ a ∈ table.rows, ∀ b ∈ table.rows, a.Clashes b → a = b

namespace Episodes

def empty : Episodes := ⟨Table.empty, by simp [Table.empty]⟩

def rows (e : Episodes) : List IssueEpisode := e.table.rows

/-- The open row of an issue. -/
def open? (e : Episodes) (issueID : UUID) : Option IssueEpisode :=
  e.rows.find? fun ep => ep.canonicalIssueID = issueID ∧ ep.closedAt = none

/-- `COALESCE(MAX(sequence), 0)` over the rows of an issue. -/
def lastSequence (e : Episodes) (issueID : UUID) : Nat :=
  ((e.rows.filter fun ep => ep.canonicalIssueID = issueID).map IssueEpisode.sequence).foldr max 0

/-- `ORDER BY sequence DESC LIMIT 1` over the rows of an issue. -/
def latest? (e : Episodes) (issueID : UUID) : Option IssueEpisode :=
  e.rows.find? fun ep => ep.canonicalIssueID = issueID ∧ ep.sequence = e.lastSequence issueID

/-- `INSERT ... ON CONFLICT DO NOTHING`, and the row when one was inserted. -/
def insert? (e : Episodes) (ep : IssueEpisode) : Option Episodes :=
  if clash : ∃ r ∈ e.rows, r.Clashes ep then none
  else
    match inserted : e.table.insert? ep with
    | none => none
    | some table => some ⟨table, by
        have rows : table.rows = ep :: e.table.rows := (Table.insert?_spec inserted).2
        intro a memA b memB ab
        rw [rows, List.mem_cons] at memA memB
        rcases memA with rfl | memA <;> rcases memB with rfl | memB
        · rfl
        · exact absurd ⟨b, memB, ab.symm⟩ clash
        · exact absurd ⟨a, memA, ab⟩ clash
        · exact e.distinct a memA b memB ab⟩

/-- `SET closed_at = at WHERE p`; closed rows stay closed. -/
def closeWhere (e : Episodes) (p : IssueEpisode → Bool) (closed : IssueEpisode → Timestamp) :
    Episodes where
  table := e.table.updateWhere p (fun ep => { ep with closedAt := some (closed ep) }) fun _ => rfl
  distinct := by
    simp only [Table.mem_updateWhere]
    rintro _ ⟨a, memA, rfl⟩ _ ⟨b, memB, rfl⟩ clash
    have same : a = b := e.distinct a memA b memB <| by
      obtain ⟨issue, rest⟩ := clash
      refine ⟨?_, ?_⟩
      · split at issue <;> split at issue <;> exact issue
      · split at rest <;> split at rest <;> simp_all
    rw [same]

/-- Closes the open row of an issue. -/
def close (e : Episodes) (issueID : UUID) (closed : Timestamp) : Episodes :=
  e.closeWhere (fun ep => ep.canonicalIssueID = issueID ∧ ep.closedAt = none) fun _ => closed

variable {ep : IssueEpisode}

theorem mem_insert? {e e' : Episodes} (inserted : e.insert? ep = some e') :
    e'.rows = ep :: e.rows ∧ ∀ r ∈ e.rows, ¬r.Clashes ep := by
  unfold insert? at inserted
  split at inserted
  · cases inserted
  · rename_i clash
    split at inserted
    · cases inserted
    · rename_i table eq
      cases inserted
      exact ⟨(Table.insert?_spec eq).2, fun r member clashes => clash ⟨r, member, clashes⟩⟩

theorem insert?_eq_none_iff (e : Episodes) (ep : IssueEpisode) :
    e.insert? ep = none ↔
      (∃ r ∈ e.rows, r.Clashes ep) ∨ ∃ old, e.table.find? ep.id = some old := by
  unfold insert?
  split
  · rename_i clash
    simp only [true_iff]
    exact Or.inl clash
  · rename_i clash
    split
    · rename_i eq
      simp only [true_iff]
      exact Or.inr ((Table.insert?_eq_none_iff _ _).mp eq)
    · rename_i table eq
      simp only [reduceCtorEq, false_iff, not_or]
      refine ⟨clash, ?_⟩
      rintro ⟨old, taken⟩
      rw [(Table.insert?_eq_none_iff _ _).mpr ⟨old, taken⟩] at eq
      cases eq

theorem mem_closeWhere (e : Episodes) (p : IssueEpisode → Bool)
    (closed : IssueEpisode → Timestamp) (r : IssueEpisode) :
    r ∈ (e.closeWhere p closed).rows ↔
      ∃ old ∈ e.rows, (if p old then { old with closedAt := some (closed old) } else old) = r :=
  e.table.mem_updateWhere p (fun ep => { ep with closedAt := some (closed ep) }) (fun _ => rfl) r

theorem open?_eq_some_iff (e : Episodes) (issueID : UUID) (ep : IssueEpisode) :
    e.open? issueID = some ep ↔
      ep ∈ e.rows ∧ ep.canonicalIssueID = issueID ∧ ep.closedAt = none := by
  constructor
  · intro found
    exact ⟨List.mem_of_find?_eq_some found, by simpa using List.find?_some found⟩
  · rintro ⟨member, issue, isOpen⟩
    cases found : e.open? issueID with
    | none =>
      have absent := List.find?_eq_none.mp found ep member
      simp [issue, isOpen] at absent
    | some r =>
      have member' : r ∈ e.rows := List.mem_of_find?_eq_some found
      have open' : r.canonicalIssueID = issueID ∧ r.closedAt = none := by
        simpa using List.find?_some found
      rw [e.distinct r member' ep member
        ⟨open'.1.trans issue.symm, Or.inr ⟨open'.2, isOpen⟩⟩]

theorem open?_eq_none_iff (e : Episodes) (issueID : UUID) :
    e.open? issueID = none ↔
      ∀ ep ∈ e.rows, ep.canonicalIssueID = issueID → ep.closedAt ≠ none := by
  simp [open?, List.find?_eq_none]

theorem open?_cons {e e' : Episodes} (rows : e'.rows = ep :: e.rows) (i : UUID) :
    e'.open? i = if ep.canonicalIssueID = i ∧ ep.closedAt = none then some ep else e.open? i := by
  simp only [open?, rows, List.find?_cons]
  by_cases own : ep.canonicalIssueID = i ∧ ep.closedAt = none
  · simp [own]
  · simp [own]

theorem sequence_le_lastSequence {e : Episodes} (member : ep ∈ e.rows) :
    ep.sequence ≤ e.lastSequence ep.canonicalIssueID := by
  have bound : ∀ (values : List Nat) (n : Nat), n ∈ values → n ≤ values.foldr max 0 := by
    intro values n
    induction values with
    | nil => simp
    | cons v rest ih =>
      intro h
      rcases List.mem_cons.mp h with rfl | h
      · exact Nat.le_max_left _ _
      · exact Nat.le_trans (ih h) (Nat.le_max_right _ _)
  exact bound _ _ (List.mem_map.mpr ⟨ep, by simpa using member, rfl⟩)

theorem open?_closeWhere (e : Episodes) (p : IssueEpisode → Bool)
    (closed : IssueEpisode → Timestamp) (issueID : UUID) :
    (e.closeWhere p closed).open? issueID = (e.open? issueID).filter fun ep => !p ep := by
  ext ep
  simp only [open?_eq_some_iff, mem_closeWhere, Option.filter_eq_some_iff]
  constructor
  · rintro ⟨⟨old, member, rfl⟩, issue, isOpen⟩
    split at isOpen
    · cases isOpen
    · rename_i h
      rw [if_neg h] at issue ⊢
      exact ⟨⟨member, issue, isOpen⟩, by simpa using h⟩
  · rintro ⟨⟨member, issue, isOpen⟩, kept⟩
    exact ⟨⟨ep, member, if_neg (by simpa using kept)⟩, issue, isOpen⟩

theorem open?_close (e : Episodes) (issueID : UUID) (closed : Timestamp) (i : UUID) :
    (e.close issueID closed).open? i = if i = issueID then none else e.open? i := by
  rw [close, open?_closeWhere]
  cases found : e.open? i with
  | none => simp
  | some ep =>
    obtain ⟨-, issue, isOpen⟩ := (e.open?_eq_some_iff i ep).mp found
    by_cases same : i = issueID
    · simp [Option.filter, issue, isOpen, same]
    · simp [Option.filter, issue, isOpen, same]

end Episodes

end Opslane.Identity
