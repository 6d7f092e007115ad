import Opslane.Lib.Table
import Opslane.Schema

/-!
# Pull request webhooks

`ProcessPRWebhook` and `recoverReopenedMerge` of `packages/ingestion/db/queries.go`
for one repository: `groups` are the issues of the projects connected to it, which
is what the join on `projects.github_repo` leaves of `error_groups`.

A webhook first reads the receipt table without a lock (`seenReceipt`), then runs
the rest under the lock of the issue's row (`applyPRWebhook`). Two deliveries
interleave between those two parts, so they are separate functions.
-/

namespace Opslane.Delivery

/-- The column `delivery_reservations.posture`. -/
inductive Posture where
  | ready | draft
  deriving DecidableEq

/-- The column `delivery_reservations.state`. -/
inductive ReservationState where
  | reserved | pushed | opened | closed
  deriving DecidableEq

structure DeliveryReservation where
  errorGroupID : UUID
  branchName : String
  posture : Posture
  state : ReservationState
  headSha : Option String
  prURL : Option String
  prNumber : Option Nat
  deriving DecidableEq

/-- A queued `score_sync` job with its payload. -/
structure ScoreSyncJob where
  errorGroupID : UUID
  fixJobID : UUID
  outcome : PROutcomeKind
  deliveryID : String
  occurredAt : Timestamp
  maxAttempts : Nat
  deriving DecidableEq

/-- A `ci_watch` job; `live` while it is pending or claimed. -/
structure CIWatchJob where
  errorGroupID : UUID
  live : Bool
  deriving DecidableEq

/-- The tables beside `error_groups` that a delivery reads or writes. -/
structure PRTables where
  githubRepo : String
  installationID : Option Nat
  outcomes : Table PROutcome.githubDeliveryID
  reservations : Table DeliveryReservation.errorGroupID
  scoreSync : List ScoreSyncJob
  ciWatch : List CIWatchJob

structure PRWebhookResult where
  groupID : Option UUID
  duplicate : Bool
  cleanupBranch : Option String
  installationID : Option Nat
  deriving DecidableEq

def PRWebhookResult.noMatch : PRWebhookResult := ⟨none, false, none, none⟩

/-- One delivery: the payload fields the handler passes on. -/
structure PRWebhook where
  prNumber : Nat
  merged : Bool
  deliveryID : String
  occurredAt : Timestamp
  deriving DecidableEq

def PRWebhook.outcome (w : PRWebhook) : PROutcomeKind := if w.merged then .merged else .closed

def loadDraftBranchCleanup (pr : PRTables) (groupID : UUID) : Option String × Option Nat :=
  match pr.reservations.find? groupID with
  | some r => if r.posture = .draft then (some r.branchName, pr.installationID) else (none, none)
  | none => (none, none)

/-- The receipt of this delivery id, reported as a duplicate. -/
def seenReceipt (pr : PRTables) (deliveryID : String) : Option PRWebhookResult :=
  (pr.outcomes.find? deliveryID).map fun seen =>
    let cleanup := if seen.outcome = .closed then loadDraftBranchCleanup pr seen.errorGroupID
      else (none, none)
    ⟨some seen.errorGroupID, true, cleanup.1, cleanup.2⟩

/-- The states in which an issue owns its pull request. -/
def OwnsPR (g : ErrorGroup) : Prop := g.status = .prCreated ∨ g.status = .prDraft
  deriving Decidable

def matchPR (groups : Table ErrorGroup.id) (prNumber : Nat) : Option ErrorGroup :=
  groups.rows.find? fun g => g.prNumber = some prNumber ∧ g.ticketID = none ∧ OwnsPR g

/-- `SET status = 'merged', merged_at = occurredAt`. -/
def markMerged (occurredAt : Timestamp) (g : ErrorGroup) : ErrorGroup :=
  { g with status := .merged, mergedAt := some occurredAt }

@[simp] theorem markMerged_id (occurredAt : Timestamp) (g : ErrorGroup) :
    (markMerged occurredAt g).id = g.id := rfl

/-- The transition of an issue whose pull request was closed unmerged: a draft
becomes a human's, a ready one becomes fix-triggerable again. -/
def closeUnmerged (now : Timestamp) (g : ErrorGroup) : ErrorGroup :=
  if g.status = .prDraft then
    { g with status := .needsHuman, needsHumanAt := some now, prURL := none, prNumber := none,
             prFixJobID := none }
  else
    { g with status := if g.kind = .friction then .awaitingApproval else .investigated,
             prURL := none, prNumber := none, prFixJobID := none }

/-- What one webhook does to the issue it matched. -/
def transition (w : PRWebhook) (now : Timestamp) (g : ErrorGroup) : ErrorGroup :=
  if w.merged then markMerged w.occurredAt g else closeUnmerged now g

@[simp] theorem transition_id (w : PRWebhook) (now : Timestamp) (g : ErrorGroup) :
    (transition w now g).id = g.id := by
  unfold transition markMerged closeUnmerged
  split <;> try split
  all_goals rfl

def enqueueScoreSync (pr : PRTables) (groupID : UUID) (fixJobID : Option UUID)
    (outcome : PROutcomeKind) (w : PRWebhook) : PRTables :=
  match fixJobID with
  | none => pr
  | some job =>
    { pr with scoreSync := ⟨groupID, job, outcome, w.deliveryID, w.occurredAt, 10⟩ :: pr.scoreSync }

/-- Ends the delivery of an issue: a draft's watcher and the reservation. -/
def closeDelivery (pr : PRTables) (g : ErrorGroup) : PRTables :=
  { pr with
    ciWatch := if g.status = .prDraft then
        pr.ciWatch.map fun j => if j.errorGroupID = g.id then { j with live := false } else j
      else pr.ciWatch
    reservations := pr.reservations.updateKey g.id (fun r => { r with state := .closed })
      fun _ => rfl }

/-- The latest receipt for this pull request whose issue carries no ticket. -/
def latestOutcome (groups : Table ErrorGroup.id) (pr : PRTables) (prNumber : Nat) :
    Option (PROutcome × ErrorGroup) :=
  let candidates := pr.outcomes.rows.filterMap fun o =>
    if o.prNumber = prNumber then
      ((groups.find? o.errorGroupID).filter fun g => g.ticketID = none).map (o, ·)
    else none
  candidates.find? fun c => candidates.all fun d =>
    d.1.occurredAt < c.1.occurredAt ∨
      (d.1.occurredAt = c.1.occurredAt ∧ d.1.createdAt ≤ c.1.createdAt)

/-- The states a close parks a ready pull request's issue in. -/
def Parked (g : ErrorGroup) : Prop := g.status = .investigated ∨ g.status = .awaitingApproval
  deriving Decidable

/-- A merge whose issue already left its PR-owning state, recovered through the
earlier receipt of the same pull request. -/
def recoverReopenedMerge (groups : Table ErrorGroup.id) (pr : PRTables) (w : PRWebhook)
    (now : Timestamp) : Table ErrorGroup.id × PRTables × PRWebhookResult :=
  match latestOutcome groups pr w.prNumber with
  | none => (groups, pr, .noMatch)
  | some (o, g) =>
    match pr.outcomes.insert? ⟨g.id, w.prNumber, .merged, w.deliveryID, o.fixJobID, w.occurredAt,
      now, pr.githubRepo⟩ with
    | none => (groups, pr, ⟨some g.id, true, none, none⟩)
    | some outcomes =>
      let pr := enqueueScoreSync { pr with outcomes } g.id o.fixJobID .merged w
      let groups := if Parked g then
          groups.updateKey g.id (markMerged w.occurredAt) (markMerged_id w.occurredAt)
        else groups
      (groups, pr, ⟨some g.id, false, none, none⟩)

/-- The part of `ProcessPRWebhook` under the lock of the issue's row. -/
def applyPRWebhook (groups : Table ErrorGroup.id) (pr : PRTables) (w : PRWebhook)
    (now : Timestamp) : Table ErrorGroup.id × PRTables × PRWebhookResult :=
  match matchPR groups w.prNumber with
  | none =>
    -- the delivery that won the row lock may have been this one
    match seenReceipt pr w.deliveryID with
    | some result => (groups, pr, result)
    | none => if w.merged then recoverReopenedMerge groups pr w now else (groups, pr, .noMatch)
  | some g =>
    match pr.outcomes.insert? ⟨g.id, w.prNumber, w.outcome, w.deliveryID, g.prFixJobID,
      w.occurredAt, now, pr.githubRepo⟩ with
    | none => (groups, pr, ⟨some g.id, true, none, none⟩)
    | some outcomes =>
      let branch := (pr.reservations.find? g.id).map DeliveryReservation.branchName
      let pr := closeDelivery (enqueueScoreSync { pr with outcomes } g.id g.prFixJobID w.outcome w) g
      let result : PRWebhookResult :=
        if w.merged = false ∧ g.status = .prDraft ∧ branch.isSome then
          ⟨some g.id, false, branch, pr.installationID⟩
        else ⟨some g.id, false, none, none⟩
      (groups.updateKey g.id (transition w now) (transition_id w now), pr, result)

/-- `ProcessPRWebhook` run without another delivery in between. -/
def processPRWebhook (groups : Table ErrorGroup.id) (pr : PRTables) (w : PRWebhook)
    (now : Timestamp) : Table ErrorGroup.id × PRTables × PRWebhookResult :=
  match seenReceipt pr w.deliveryID with
  | some result => (groups, pr, result)
  | none => applyPRWebhook groups pr w now

theorem mem_latestOutcome {groups : Table ErrorGroup.id} {pr : PRTables} {prNumber : Nat}
    {o : PROutcome} {g : ErrorGroup} (found : latestOutcome groups pr prNumber = some (o, g)) :
    o ∈ pr.outcomes.rows ∧ o.prNumber = prNumber ∧ groups.find? o.errorGroupID = some g ∧
      g.ticketID = none := by
  have member := List.mem_of_find?_eq_some found
  obtain ⟨o', memO, some'⟩ := List.mem_filterMap.mp member
  split at some'
  · rename_i number
    obtain ⟨g', filtered, pair⟩ := Option.map_eq_some_iff.mp some'
    obtain ⟨present, ticket⟩ := Option.filter_eq_some_iff.mp filtered
    cases pair
    exact ⟨memO, number, present, by simpa using ticket⟩
  · cases some'

/-- The issue a merge webhook marks merged: the one that owns the pull request, or the
one a close parked. -/
def MergesPR (groups : Table ErrorGroup.id) (pr : PRTables) (w : PRWebhook) (g : ErrorGroup) :
    Prop :=
  matchPR groups w.prNumber = some g ∨ (matchPR groups w.prNumber = none ∧ Parked g ∧
    (latestOutcome groups pr w.prNumber).map Prod.snd = some g)
  deriving Decidable

theorem matchPR_spec {groups : Table ErrorGroup.id} {prNumber : Nat} {g : ErrorGroup}
    (found : matchPR groups prNumber = some g) :
    groups.find? g.id = some g ∧ g.prNumber = some prNumber ∧ g.ticketID = none ∧ OwnsPR g := by
  have spec := List.find?_some found
  simp only [decide_eq_true_eq] at spec
  exact ⟨groups.find?_key (List.mem_of_find?_eq_some found), spec⟩

theorem applyPRWebhook_groups (groups : Table ErrorGroup.id) (pr : PRTables) (w : PRWebhook)
    (now : Timestamp) (i : UUID) :
    (applyPRWebhook groups pr w now).1.find? i = groups.find? i ∨
      ∃ g, groups.find? i = some g ∧
        ((w.merged = false ∧ OwnsPR g ∧
            (applyPRWebhook groups pr w now).1.find? i = some (closeUnmerged now g)) ∨
          (w.merged = true ∧ MergesPR groups pr w g ∧
            (applyPRWebhook groups pr w now).1.find? i = some (markMerged w.occurredAt g))) := by
  unfold applyPRWebhook
  split
  · rename_i unmatched
    split
    · exact Or.inl rfl
    · split
      · rename_i merged
        unfold recoverReopenedMerge
        split
        · exact Or.inl rfl
        · rename_i o g found
          have present := (mem_latestOutcome found).2.2.1
          split
          · exact Or.inl rfl
          · by_cases parked : Parked g
            · by_cases same : i = g.id
              · subst same
                have self : groups.find? g.id = some g :=
                  groups.find?_key (Table.mem_of_find? present)
                refine Or.inr ⟨g, self, Or.inr ⟨merged, Or.inr ⟨unmatched, parked, ?_⟩, ?_⟩⟩
                · rw [found, Option.map_some]
                · simp [parked, Table.find?_updateKey, self]
              · left
                simp [parked, Table.find?_updateKey, same]
            · left
              simp [parked]
      · exact Or.inl rfl
  · rename_i g found
    obtain ⟨self, -, -, owns⟩ := matchPR_spec found
    split
    · exact Or.inl rfl
    · by_cases same : i = g.id
      · subst same
        refine Or.inr ⟨g, self, ?_⟩
        cases merged : w.merged with
        | true =>
          refine Or.inr ⟨rfl, Or.inl found, ?_⟩
          simp [Table.find?_updateKey, self, transition, merged]
        | false =>
          refine Or.inl ⟨rfl, owns, ?_⟩
          simp [Table.find?_updateKey, self, transition, merged]
      · left
        simp [Table.find?_updateKey, same]

theorem processPRWebhook_groups (groups : Table ErrorGroup.id) (pr : PRTables) (w : PRWebhook)
    (now : Timestamp) (i : UUID) :
    (processPRWebhook groups pr w now).1.find? i = groups.find? i ∨
      (seenReceipt pr w.deliveryID = none ∧ ∃ g, groups.find? i = some g ∧
        ((w.merged = false ∧ OwnsPR g ∧
            (processPRWebhook groups pr w now).1.find? i = some (closeUnmerged now g)) ∨
          (w.merged = true ∧ MergesPR groups pr w g ∧
            (processPRWebhook groups pr w now).1.find? i = some (markMerged w.occurredAt g)))) := by
  unfold processPRWebhook
  split
  · exact Or.inl rfl
  · rename_i unseen
    rcases applyPRWebhook_groups groups pr w now i with same | changed
    · exact Or.inl same
    · exact Or.inr ⟨unseen, changed⟩

end Opslane.Delivery
