import Mathlib.Data.Finset.Max
import Mathlib.Data.Prod.Lex
import Opslane.Delivery.GroupStatus
import Opslane.Delivery.PRWebhook
import Opslane.Lib.Transition

/-!
# Reopened pull requests

Every history of the webhooks of one pull request: GitHub delivers an event any number of
times, the servers work on several deliveries at once, and a close clears the columns a
later merge would be matched by.

A delivery is taken in three parts, between which others may commit: it looks for its own
receipt (`receive`), it takes the lock of the issue that owns the pull request (`apply`),
and a merge that finds no such issue takes the lock of the issue an earlier receipt names
(`recover`).
-/

namespace Opslane.Delivery

/-- What the handler reads of a `pull_request` event. -/
structure PullRequestEvent where
  action : String
  number : Nat
  merged : Bool
  closedAt : Option Timestamp
  deriving DecidableEq

/-- The deliveries `HandleWebhook` passes to `ProcessPRWebhook`: closes and merges. An
opened pull request goes to the ticket state machine only, and a reopened one is ignored. -/
def handleWebhook (event : PullRequestEvent) (deliveryID : String) (now : Timestamp) :
    Option PRWebhook :=
  if deliveryID = "" ∨ event.action ≠ "closed" then none
  else some ⟨event.number, event.merged, deliveryID, event.closedAt.getD now⟩

/-- The receipt a merge writes when it is recovered through the receipt `o`. -/
def recoveredOutcome (pr : PRTables) (w : PRWebhook) (o : PROutcome) (g : ErrorGroup)
    (now : Timestamp) : PROutcome :=
  ⟨g.id, w.prNumber, .merged, w.deliveryID, o.fixJobID, w.occurredAt, now, pr.githubRepo⟩

/-- The receipt a webhook writes for the issue it matched. -/
def matchedOutcome (pr : PRTables) (w : PRWebhook) (g : ErrorGroup) (now : Timestamp) : PROutcome :=
  ⟨g.id, w.prNumber, w.outcome, w.deliveryID, g.prFixJobID, w.occurredAt, now, pr.githubRepo⟩

theorem enqueueScoreSync_outcomes (pr : PRTables) (groupID : UUID) (fixJobID : Option UUID)
    (outcome : PROutcomeKind) (w : PRWebhook) :
    (enqueueScoreSync pr groupID fixJobID outcome w).outcomes = pr.outcomes := by
  unfold enqueueScoreSync
  split <;> rfl

theorem recoverReopenedMerge_cases (groups : Table ErrorGroup.id) (pr : PRTables) (w : PRWebhook)
    (now : Timestamp) :
    let after := recoverReopenedMerge groups pr w now
    (after.1 = groups ∧ after.2.1 = pr ∧
        (latestOutcome groups pr w.prNumber = none ∨ (pr.outcomes.find? w.deliveryID).isSome)) ∨
      ∃ o g outcomes, latestOutcome groups pr w.prNumber = some (o, g) ∧
        pr.outcomes.insert? (recoveredOutcome pr w o g now) = some outcomes ∧
        after.2.1.outcomes = outcomes ∧
        after.1 = if Parked g then
            groups.updateKey g.id (markMerged w.occurredAt) (markMerged_id w.occurredAt)
          else groups := by
  unfold recoverReopenedMerge
  split
  · rename_i missing
    exact Or.inl ⟨rfl, rfl, Or.inl missing⟩
  · rename_i o g found
    split
    · rename_i taken
      exact Or.inl ⟨rfl, rfl, Or.inr (Option.isSome_iff_exists.mpr
        ((Table.insert?_eq_none_iff _ _).mp taken))⟩
    · rename_i outcomes inserted
      exact Or.inr ⟨o, g, outcomes, found, inserted, enqueueScoreSync_outcomes _ _ _ _ _, rfl⟩

theorem applyPRWebhook_cases (groups : Table ErrorGroup.id) (pr : PRTables) (w : PRWebhook)
    (now : Timestamp) :
    let after := applyPRWebhook groups pr w now
    (after.1 = groups ∧ after.2.1 = pr ∧ ((pr.outcomes.find? w.deliveryID).isSome ∨
        (matchPR groups w.prNumber = none ∧ w.merged = false))) ∨
      (matchPR groups w.prNumber = none ∧ pr.outcomes.find? w.deliveryID = none ∧
        w.merged = true ∧ after = recoverReopenedMerge groups pr w now) ∨
      ∃ g outcomes, matchPR groups w.prNumber = some g ∧
        pr.outcomes.insert? (matchedOutcome pr w g now) = some outcomes ∧
        after.2.1.outcomes = outcomes ∧
        after.1 = groups.updateKey g.id (transition w now) (transition_id w now) := by
  unfold applyPRWebhook
  split
  · rename_i unmatched
    split
    · rename_i seen
      obtain ⟨o, taken, -⟩ := Option.map_eq_some_iff.mp seen
      exact Or.inl ⟨rfl, rfl, Or.inl (by rw [taken]; rfl)⟩
    · rename_i unseen
      rw [seenReceipt, Option.map_eq_none_iff] at unseen
      split
      · rename_i merged
        exact Or.inr (Or.inl ⟨unmatched, unseen, merged, rfl⟩)
      · rename_i closed
        exact Or.inl ⟨rfl, rfl, Or.inr ⟨unmatched, Bool.eq_false_iff.mpr closed⟩⟩
  · rename_i g found
    split
    · rename_i taken
      exact Or.inl ⟨rfl, rfl, Or.inl (Option.isSome_iff_exists.mpr
        ((Table.insert?_eq_none_iff _ _).mp taken))⟩
    · rename_i outcomes inserted
      exact Or.inr (Or.inr ⟨g, outcomes, found, inserted, enqueueScoreSync_outcomes _ _ _ _ _, rfl⟩)

theorem exists_latestOutcome {groups : Table ErrorGroup.id} {pr : PRTables} {o : PROutcome}
    {g : ErrorGroup} (member : o ∈ pr.outcomes.rows) (issue : groups.find? o.errorGroupID = some g)
    (ticket : g.ticketID = none) : ∃ latest, latestOutcome groups pr o.prNumber = some latest := by
  unfold latestOutcome
  dsimp only
  generalize found : List.filterMap _ _ = candidates
  have candidate : (o, g) ∈ candidates := by
    rw [← found, List.mem_filterMap]
    exact ⟨o, member, by simp [issue, ticket]⟩
  -- the receipts are ordered by two times, and a finite list has a last one
  obtain ⟨latest, memLatest, last⟩ := Finset.exists_max_image candidates.toFinset
    (fun c => toLex (c.1.occurredAt, c.1.createdAt)) ⟨(o, g), List.mem_toFinset.mpr candidate⟩
  rw [← Option.isSome_iff_exists, List.find?_isSome]
  refine ⟨latest, List.mem_toFinset.mp memLatest, ?_⟩
  simp only [List.all_eq_true, decide_eq_true_eq]
  intro c member
  have le := last c (List.mem_toFinset.mpr member)
  rwa [Prod.Lex.toLex_le_toLex] at le

/-- A repository's issues and receipts, and the deliveries in progress: those that
found no receipt of themselves, and the merges among them that no issue owns. -/
structure Deliveries where
  groups : Table ErrorGroup.id
  pr : PRTables
  received : List PRWebhook
  unmatched : List PRWebhook

namespace Deliveries

/-- The parts of a delivery, and any other write of the issues. -/
inductive Action where
  | receive (event : PullRequestEvent) (deliveryID : String) (now : Timestamp)
  | apply (w : PRWebhook) (now : Timestamp)
  | leaveUnmatched (w : PRWebhook)
  | recover (w : PRWebhook) (now : Timestamp)
  | elsewhere (groups : Table ErrorGroup.id)

/-- The deliveries an event puts in progress, beside those already there. -/
def receive (s : Deliveries) (event : PullRequestEvent) (deliveryID : String) (now : Timestamp) :
    List PRWebhook :=
  match handleWebhook event deliveryID now with
  | none => s.received
  | some w => if (seenReceipt s.pr w.deliveryID).isSome then s.received else w :: s.received

/-- A merge that no issue owns and whose receipt is still missing. -/
def Unmatched (s : Deliveries) (w : PRWebhook) : Prop :=
  w ∈ s.received ∧ matchPR s.groups w.prNumber = none ∧ seenReceipt s.pr w.deliveryID = none ∧
    w.merged = true

instance (s : Deliveries) (w : PRWebhook) : Decidable (s.Unmatched w) :=
  inferInstanceAs (Decidable (_ ∧ _))

def step (s : Deliveries) : Action → Deliveries
  | .receive event deliveryID now => { s with received := s.receive event deliveryID now }
  | .apply w now =>
    if w ∈ s.received then
      let after := applyPRWebhook s.groups s.pr w now
      ⟨after.1, after.2.1, s.received.erase w, s.unmatched⟩
    else s
  | .leaveUnmatched w =>
    if s.Unmatched w then
      { s with received := s.received.erase w, unmatched := w :: s.unmatched }
    else s
  | .recover w now =>
    if w ∈ s.unmatched then
      let after := recoverReopenedMerge s.groups s.pr w now
      ⟨after.1, after.2.1, s.received, s.unmatched.erase w⟩
    else s
  | .elsewhere groups => { s with groups }

def machine : Transition.Machine Deliveries Action := ⟨step⟩

/-- The part of a delivery that may write, of the delivery with this id. -/
def Writes (deliveryID : String) : Action → Prop
  | .apply w _ | .recover w _ => w.deliveryID = deliveryID
  | _ => False

theorem step_receipts (s : Deliveries) (a : Action) (d : String) :
    ((s.pr.outcomes.find? d).isSome → ((step s a).pr.outcomes.find? d).isSome) ∧
      (Writes d a → (step s a).groups ≠ s.groups →
        s.pr.outcomes.find? d = none ∧ ((step s a).pr.outcomes.find? d).isSome) := by
  have inserted : ∀ {o : PROutcome} {outcomes : Table PROutcome.githubDeliveryID},
      s.pr.outcomes.insert? o = some outcomes →
      ((s.pr.outcomes.find? d).isSome → (outcomes.find? d).isSome) ∧
        (o.githubDeliveryID = d → s.pr.outcomes.find? d = none ∧ (outcomes.find? d).isSome) := by
    intro o outcomes inserted
    constructor
    · intro present
      rw [Table.find?_insert? inserted]
      split
      · rfl
      · exact present
    · rintro rfl
      refine ⟨(Table.insert?_spec inserted).1, ?_⟩
      rw [Table.find?_insert? inserted, if_pos rfl]
      rfl
  have recovered : ∀ w now, (recoverReopenedMerge s.groups s.pr w now).1 = s.groups ∧
        (recoverReopenedMerge s.groups s.pr w now).2.1 = s.pr ∨
      ((s.pr.outcomes.find? d).isSome →
          ((recoverReopenedMerge s.groups s.pr w now).2.1.outcomes.find? d).isSome) ∧
        (w.deliveryID = d → s.pr.outcomes.find? d = none ∧
          ((recoverReopenedMerge s.groups s.pr w now).2.1.outcomes.find? d).isSome) := by
    intro w now
    rcases recoverReopenedMerge_cases s.groups s.pr w now with
      ⟨groups, pr, -⟩ | ⟨o, g, outcomes, -, insert, after, -⟩
    · exact Or.inl ⟨groups, pr⟩
    · rw [after]
      exact Or.inr (inserted insert)
  cases a with
  | receive event deliveryID now => exact ⟨id, fun writes => writes.elim⟩
  | leaveUnmatched w =>
    refine ⟨?_, fun writes => writes.elim⟩
    rw [step]
    split <;> exact id
  | elsewhere groups => exact ⟨id, fun writes => writes.elim⟩
  | recover w now =>
    rw [step]
    split
    · rcases recovered w now with ⟨groups, pr⟩ | effect
      · dsimp only
        rw [groups, pr]
        exact ⟨id, fun _ changed => absurd rfl changed⟩
      · exact ⟨effect.1, fun writes _ => effect.2 writes⟩
    · exact ⟨id, fun _ changed => absurd rfl changed⟩
  | apply w now =>
    rw [step]
    split
    · dsimp only
      rcases applyPRWebhook_cases s.groups s.pr w now with
        ⟨groups, pr, -⟩ | ⟨-, -, -, after⟩ | ⟨g, outcomes, -, insert, after, -⟩
      · rw [groups, pr]
        exact ⟨id, fun _ changed => absurd rfl changed⟩
      · rw [after]
        rcases recovered w now with ⟨groups, pr⟩ | effect
        · rw [groups, pr]
          exact ⟨id, fun _ changed => absurd rfl changed⟩
        · exact ⟨effect.1, fun writes _ => effect.2 writes⟩
      · rw [after]
        exact ⟨(inserted insert).1, fun writes _ => (inserted insert).2 writes⟩
    · exact ⟨id, fun _ changed => absurd rfl changed⟩

/-- Of two actions of one delivery id, the later leaves every issue as it is when the
earlier changed one. -/
def OncePerDelivery (s : Deliveries) (actions : List Action) : Prop :=
  ∀ deliveryID before a mid b after, actions = before ++ a :: mid ++ b :: after →
    Writes deliveryID a → Writes deliveryID b →
    (machine.run s (before ++ [a])).groups ≠ (machine.run s before).groups →
    (machine.run s (before ++ a :: mid ++ [b])).groups = (machine.run s (before ++ a :: mid)).groups

theorem oncePerDelivery (s : Deliveries) (actions : List Action) : OncePerDelivery s actions := by
  intro deliveryID before a mid b after _ first second changed
  refine machine.at_most_once Deliveries.groups
    (fun s => (s.pr.outcomes.find? deliveryID).isSome) (Writes deliveryID)
    (fun s a => (step_receipts s a deliveryID).1) ?_ s before mid first second changed
  intro s a writes changed
  obtain ⟨free, taken⟩ := (step_receipts s a deliveryID).2 writes changed
  refine ⟨?_, taken⟩
  rw [free]
  exact Bool.false_ne_true

/-- A pull request of the repository: the issue it was delivered for, when GitHub merged
it, and which delivery ids report the merge. -/
structure PullRequest where
  groupID : UUID
  number : Nat
  mergedAt : Timestamp
  reportsMerge : String → Bool

/-- The webhook is about this pull request, and its delivery id tells what it says. -/
def Reports (p : PullRequest) (w : PRWebhook) : Prop :=
  w.prNumber = p.number ∧ w.merged = p.reportsMerge w.deliveryID ∧
    (w.merged = true → w.occurredAt = p.mergedAt)
  deriving Decidable

/-- Only the issue of the pull request can own it. -/
def Owner (p : PullRequest) (groups : Table ErrorGroup.id) : Prop :=
  ∀ g ∈ groups.rows, g.prNumber = some p.number → g.ticketID = none → OwnsPR g → g.id = p.groupID
  deriving Decidable

/-- The history is the pull request's: its webhooks, and writes of other issues that do
not take its number. -/
def About (p : PullRequest) (s : Deliveries) : Action → Prop
  | .receive event deliveryID now =>
    (handleWebhook event deliveryID now).all fun w => Reports p w
  | .elsewhere groups => groups.find? p.groupID = s.groups.find? p.groupID ∧ Owner p groups
  | _ => True

instance (p : PullRequest) (s : Deliveries) (a : Action) : Decidable (About p s a) :=
  match a with
  | .receive .. => inferInstanceAs (Decidable (_ = true))
  | .elsewhere .. => inferInstanceAs (Decidable (_ ∧ _))
  | .apply .. | .leaveUnmatched .. | .recover .. => isTrue trivial

/-- Where a history starts: the worker delivered the pull request for an issue without
a ticket, and no webhook of it arrived yet. -/
structure Delivered (p : PullRequest) (input : DeliveryInput) (s : Deliveries) : Prop where
  number : input.prNumber = p.number
  row : ∃ g now, s.groups.find? p.groupID = some (deliver input now g) ∧ g.ticketID = none
  owner : Owner p s.groups
  receipts : ∀ o ∈ s.pr.outcomes.rows, o.prNumber = p.number → o.errorGroupID = p.groupID
  unreported : ∀ d, p.reportsMerge d = true → s.pr.outcomes.find? d = none
  received : s.received = []
  unmatched : s.unmatched = []

/-- An action of a merge that is in progress. -/
def AppliesMerge (s : Deliveries) : Action → Prop
  | .apply w _ => w.merged = true ∧ w ∈ s.received
  | .recover w _ => w.merged = true ∧ w ∈ s.unmatched
  | _ => False

instance (s : Deliveries) (a : Action) : Decidable (AppliesMerge s a) :=
  match a with
  | .apply .. | .recover .. => inferInstanceAs (Decidable (_ ∧ _))
  | .receive .. | .leaveUnmatched .. | .elsewhere .. => isFalse id

/-- The pull request is closed unmerged before any merge of it is seen, and merged
later. -/
def Reopened (s : Deliveries) (actions : List Action) : Prop :=
  ∃ before c now mid a after, actions = before ++ Action.apply c now :: mid ++ a :: after ∧
    machine.Guarded (fun s a => ¬AppliesMerge s a) s before ∧
    c.merged = false ∧ c ∈ (machine.run s before).received ∧
    AppliesMerge (machine.run s (before ++ Action.apply c now :: mid)) a

/-- The issue is merged, at the time GitHub merged the pull request. -/
def Merged (p : PullRequest) (s : Deliveries) : Prop :=
  ∃ g, s.groups.find? p.groupID = some g ∧ g.status = .merged ∧ g.mergedAt = some p.mergedAt

/-- What holds of every history: only the issue owns the pull request or has receipts
for it, and the deliveries in progress are its webhooks. -/
structure Tracks (p : PullRequest) (s : Deliveries) : Prop where
  owner : Owner p s.groups
  receipts : ∀ o ∈ s.pr.outcomes.rows, o.prNumber = p.number → o.errorGroupID = p.groupID
  received : ∀ w ∈ s.received, Reports p w
  unmatched : ∀ w ∈ s.unmatched, Reports p w ∧ w.merged = true

theorem matchPR_owner {p : PullRequest} {groups : Table ErrorGroup.id} {g : ErrorGroup}
    (owner : Owner p groups) (found : groups.find? p.groupID = some g)
    (number : g.prNumber = some p.number) (ticket : g.ticketID = none) (owns : OwnsPR g) :
    matchPR groups p.number = some g := by
  have some' : (matchPR groups p.number).isSome := by
    rw [matchPR, List.find?_isSome]
    exact ⟨g, Table.mem_of_find? found, by simp [number, ticket, owns]⟩
  obtain ⟨h, matched⟩ := Option.isSome_iff_exists.mp some'
  obtain ⟨present, number, ticket, owns⟩ := matchPR_spec matched
  rw [owner h (Table.mem_of_find? present) number ticket owns, found] at present
  rw [matched, present]

theorem matchPR_left {p : PullRequest} {groups : Table ErrorGroup.id} {g : ErrorGroup}
    (owner : Owner p groups) (found : groups.find? p.groupID = some g) (left : ¬OwnsPR g) :
    matchPR groups p.number = none := by
  cases matched : matchPR groups p.number with
  | none => rfl
  | some h =>
    obtain ⟨present, number, ticket, owns⟩ := matchPR_spec matched
    rw [owner h (Table.mem_of_find? present) number ticket owns, found, Option.some.injEq]
      at present
    rw [← present] at owns
    exact absurd owns left

theorem latestOutcome_issue {p : PullRequest} {s : Deliveries} {o : PROutcome} {g : ErrorGroup}
    (tracks : Tracks p s) (found : latestOutcome s.groups s.pr p.number = some (o, g)) :
    s.groups.find? p.groupID = some g ∧ g.id = p.groupID := by
  obtain ⟨member, number, present, -⟩ := mem_latestOutcome found
  rw [tracks.receipts o member number] at present
  exact ⟨present, Table.key_of_find? present⟩

theorem not_ownsPR_transition (w : PRWebhook) (now : Timestamp) (g : ErrorGroup) :
    ¬OwnsPR (transition w now g) := by
  unfold transition markMerged closeUnmerged OwnsPR
  split
  · simp
  · split
    · simp
    · by_cases friction : g.kind = .friction <;> simp [friction]

theorem not_ownsPR_markMerged (occurredAt : Timestamp) (g : ErrorGroup) :
    ¬OwnsPR (markMerged occurredAt g) := by
  simp [markMerged, OwnsPR]

theorem Owner.updateKey {p : PullRequest} {groups : Table ErrorGroup.id} (owner : Owner p groups)
    (id : UUID) {f : ErrorGroup → ErrorGroup} (frame : ∀ g, (f g).id = g.id)
    (left : ∀ g, ¬OwnsPR (f g)) : Owner p (groups.updateKey id f frame) := by
  intro g member number ticket owns
  have present := Table.find?_key _ member
  rw [Table.find?_updateKey] at present
  split at present
  · obtain ⟨old, -, rfl⟩ := Option.map_eq_some_iff.mp present
    exact absurd owns (left old)
  · exact owner g (Table.mem_of_find? present) number ticket owns

theorem mem_insert? {outcomes after : Table PROutcome.githubDeliveryID} {fresh o : PROutcome}
    (inserted : outcomes.insert? fresh = some after) (member : o ∈ after.rows) :
    o = fresh ∨ o ∈ outcomes.rows := by
  rw [(Table.insert?_spec inserted).2] at member
  exact List.mem_cons.mp member

theorem tracks_recover {p : PullRequest} {s : Deliveries} (tracks : Tracks p s) {w : PRWebhook}
    (reports : Reports p w) (now : Timestamp) :
    Owner p (recoverReopenedMerge s.groups s.pr w now).1 ∧
      ∀ o ∈ (recoverReopenedMerge s.groups s.pr w now).2.1.outcomes.rows,
        o.prNumber = p.number → o.errorGroupID = p.groupID := by
  rcases recoverReopenedMerge_cases s.groups s.pr w now with
    ⟨groups, pr, -⟩ | ⟨o, g, outcomes, found, insert, after, groups⟩
  · rw [groups, pr]
    exact ⟨tracks.owner, tracks.receipts⟩
  · rw [reports.1] at found
    rw [groups, after]
    refine ⟨?_, fun k member number => ?_⟩
    · split
      · exact tracks.owner.updateKey _ (markMerged_id _) (not_ownsPR_markMerged _)
      · exact tracks.owner
    · rcases mem_insert? insert member with rfl | old
      · exact (latestOutcome_issue tracks found).2
      · exact tracks.receipts k old number

theorem tracks_step {p : PullRequest} {s : Deliveries} (tracks : Tracks p s) (a : Action)
    (about : About p s a) : Tracks p (step s a) := by
  cases a with
  | receive event deliveryID now =>
    refine ⟨tracks.owner, tracks.receipts, fun w member => ?_, tracks.unmatched⟩
    simp only [step, receive] at member
    simp only [About] at about
    split at member
    · exact tracks.received w member
    · rename_i v handled
      rw [handled, Option.all_some, decide_eq_true_eq] at about
      split at member
      · exact tracks.received w member
      · rcases List.mem_cons.mp member with rfl | old
        · exact about
        · exact tracks.received w old
  | apply w now =>
    rw [step]
    split
    · rename_i inProgress
      have reports := tracks.received w inProgress
      have received : ∀ v ∈ s.received.erase w, Reports p v :=
        fun v member => tracks.received v (List.mem_of_mem_erase member)
      dsimp only
      rcases applyPRWebhook_cases s.groups s.pr w now with
        ⟨groups, pr, -⟩ | ⟨-, -, -, after⟩ | ⟨g, outcomes, found, insert, after, groups⟩
      · rw [groups, pr]
        exact ⟨tracks.owner, tracks.receipts, received, tracks.unmatched⟩
      · rw [after]
        obtain ⟨owner, receipts⟩ := tracks_recover tracks reports now
        exact ⟨owner, receipts, received, tracks.unmatched⟩
      · rw [groups]
        refine ⟨tracks.owner.updateKey _ (transition_id w now) (not_ownsPR_transition w now), fun o member number => ?_,
          received, tracks.unmatched⟩
        rw [after] at member
        rcases mem_insert? insert member with rfl | old
        · obtain ⟨present, number, ticket, owns⟩ := matchPR_spec found
          rw [reports.1] at number
          exact tracks.owner g (Table.mem_of_find? present) number ticket owns
        · exact tracks.receipts o old number
    · exact tracks
  | leaveUnmatched w =>
    rw [step]
    split
    · rename_i unmatched
      refine ⟨tracks.owner, tracks.receipts,
        fun v member => tracks.received v (List.mem_of_mem_erase member), fun v member => ?_⟩
      rcases List.mem_cons.mp member with rfl | old
      · exact ⟨tracks.received _ unmatched.1, unmatched.2.2.2⟩
      · exact tracks.unmatched v old
    · exact tracks
  | recover w now =>
    rw [step]
    split
    · rename_i inProgress
      obtain ⟨owner, receipts⟩ := tracks_recover tracks (tracks.unmatched w inProgress).1 now
      exact ⟨owner, receipts, tracks.received,
        fun v member => tracks.unmatched v (List.mem_of_mem_erase member)⟩
    · exact tracks
  | elsewhere groups => exact ⟨about.2, tracks.receipts, tracks.received, tracks.unmatched⟩

/-- The pull request is open: its issue's row is still `g`, and no delivery in progress
has a receipt. -/
structure Open (p : PullRequest) (g : ErrorGroup) (s : Deliveries) : Prop where
  row : s.groups.find? p.groupID = some g
  received : ∀ w ∈ s.received, s.pr.outcomes.find? w.deliveryID = none
  unreported : ∀ d, p.reportsMerge d = true → s.pr.outcomes.find? d = none
  unmatched : s.unmatched = []

/-- The pull request was closed unmerged: the issue's row is what the close made of `g`,
the close has a receipt, and no merge has. -/
structure Closed (p : PullRequest) (g : ErrorGroup) (s : Deliveries) : Prop where
  row : ∃ now, s.groups.find? p.groupID = some (closeUnmerged now g)
  receipt : ∃ o ∈ s.pr.outcomes.rows, o.prNumber = p.number
  unreported : ∀ d, p.reportsMerge d = true → s.pr.outcomes.find? d = none

theorem not_ownsPR_closeUnmerged (now : Timestamp) (g : ErrorGroup) :
    ¬OwnsPR (closeUnmerged now g) :=
  not_ownsPR_transition ⟨0, false, "", 0⟩ now g

@[simp] theorem closeUnmerged_ticketID (now : Timestamp) (g : ErrorGroup) :
    (closeUnmerged now g).ticketID = g.ticketID := by
  unfold closeUnmerged
  split <;> rfl

theorem parked_closeUnmerged (now : Timestamp) (g : ErrorGroup) :
    Parked (closeUnmerged now g) ↔ g.status ≠ .prDraft := by
  unfold closeUnmerged Parked
  split
  · rename_i draft
    simp [draft]
  · rename_i ready
    by_cases friction : g.kind = .friction <;> simp [friction, ready]

theorem open_apply {p : PullRequest} {g : ErrorGroup} {s : Deliveries} (tracks : Tracks p s)
    (opened : Open p g s) (number : g.prNumber = some p.number) (ticket : g.ticketID = none)
    (owns : OwnsPR g) {w : PRWebhook} (inProgress : w ∈ s.received) (now : Timestamp) :
    (w.merged = false → Closed p g (step s (.apply w now))) ∧
      (w.merged = true → Merged p (step s (.apply w now))) := by
  have reports := tracks.received w inProgress
  have free := opened.received w inProgress
  have matched := matchPR_owner tracks.owner opened.row number ticket owns
  rw [← reports.1] at matched
  simp only [step, if_pos inProgress]
  rcases applyPRWebhook_cases s.groups s.pr w now with
    ⟨-, -, taken | ⟨unmatched, -⟩⟩ | ⟨unmatched, -⟩ | ⟨h, outcomes, found, insert, after, groups⟩
  · rw [free] at taken
    cases taken
  · rw [unmatched] at matched
    cases matched
  · rw [unmatched] at matched
    cases matched
  · rw [matched, Option.some.injEq] at found
    subst found
    have row : (applyPRWebhook s.groups s.pr w now).1.find? p.groupID = some (transition w now g) := by
      have id : g.id = p.groupID := Table.key_of_find? opened.row
      rw [groups, Table.find?_updateKey, if_pos id.symm, id, opened.row, Option.map_some]
    constructor
    · intro close
      refine ⟨⟨now, ?_⟩, ⟨matchedOutcome s.pr w g now, ?_, reports.1⟩, fun d reported => ?_⟩
      · rw [row]
        simp [transition, close]
      · dsimp only
        rw [after, (Table.insert?_spec insert).2]
        exact List.mem_cons_self
      · dsimp only
        rw [after, Table.find?_insert? insert, if_neg, opened.unreported d reported]
        rintro rfl
        rw [matchedOutcome, ← reports.2.1, close] at reported
        cases reported
    · intro merge
      refine ⟨_, row, ?_, ?_⟩
      · simp [transition, merge, markMerged]
      · simp [transition, merge, markMerged, reports.2.2 merge]

theorem open_step {p : PullRequest} {g : ErrorGroup} {s : Deliveries} (tracks : Tracks p s)
    (opened : Open p g s) (number : g.prNumber = some p.number) (ticket : g.ticketID = none)
    (owns : OwnsPR g) (a : Action) (about : About p s a) :
    Open p g (step s a) ∨ Closed p g (step s a) ∨ (AppliesMerge s a ∧ Merged p (step s a)) := by
  cases a with
  | receive event deliveryID now =>
    left
    refine ⟨opened.row, fun w member => ?_, opened.unreported, opened.unmatched⟩
    simp only [step, receive] at member ⊢
    split at member
    · exact opened.received w member
    · split at member
      · exact opened.received w member
      · rename_i v _ unseen
        rcases List.mem_cons.mp member with rfl | old
        · simpa [seenReceipt] using unseen
        · exact opened.received w old
  | apply w now =>
    by_cases inProgress : w ∈ s.received
    · obtain ⟨close, merge⟩ := open_apply tracks opened number ticket owns inProgress now
      cases merged : w.merged with
      | false => exact Or.inr (Or.inl (close merged))
      | true => exact Or.inr (Or.inr ⟨⟨merged, inProgress⟩, merge merged⟩)
    · left
      simpa only [step, if_neg inProgress] using opened
  | leaveUnmatched w =>
    left
    have matched := matchPR_owner tracks.owner opened.row number ticket owns
    rw [step, if_neg]
    · exact opened
    · rintro ⟨inProgress, unmatched, -⟩
      rw [(tracks.received w inProgress).1, matched] at unmatched
      cases unmatched
  | recover w now =>
    left
    simpa only [step, opened.unmatched, List.not_mem_nil, if_false] using opened
  | elsewhere groups =>
    exact Or.inl ⟨about.1.trans opened.row, opened.received, opened.unreported, opened.unmatched⟩

theorem closed_recover {p : PullRequest} {g : ErrorGroup} {s : Deliveries} (tracks : Tracks p s)
    (closed : Closed p g s) (ready : g.status ≠ .prDraft) (ticket : g.ticketID = none)
    {w : PRWebhook} (reports : Reports p w) (merged : w.merged = true) (now : Timestamp) :
    ∃ h, (recoverReopenedMerge s.groups s.pr w now).1.find? p.groupID = some h ∧
      h.status = .merged ∧ h.mergedAt = some p.mergedAt := by
  obtain ⟨closedAt, row⟩ := closed.row
  obtain ⟨o, member, same⟩ := closed.receipt
  have issue := row
  rw [← tracks.receipts o member same] at issue
  obtain ⟨latest, found⟩ := exists_latestOutcome member issue (by simpa using ticket)
  rw [same, ← reports.1] at found
  have free := closed.unreported w.deliveryID (by rw [← reports.2.1, merged])
  rcases recoverReopenedMerge_cases s.groups s.pr w now with
    ⟨-, -, missing | taken⟩ | ⟨o, h, outcomes, found, -, -, groups⟩
  · rw [missing] at found
    cases found
  · rw [free] at taken
    cases taken
  · rw [reports.1] at found
    obtain ⟨present, id⟩ := latestOutcome_issue tracks found
    rw [row, Option.some.injEq] at present
    subst present
    refine ⟨markMerged w.occurredAt (closeUnmerged closedAt g), ?_, rfl, ?_⟩
    · rw [groups, if_pos ((parked_closeUnmerged closedAt g).mpr ready), Table.find?_updateKey,
        if_pos id.symm, id, row, Option.map_some]
    · rw [← reports.2.2 merged]
      rfl

theorem closed_step {p : PullRequest} {g : ErrorGroup} {s : Deliveries} (tracks : Tracks p s)
    (closed : Closed p g s) (a : Action) (about : About p s a) (unmerged : ¬AppliesMerge s a) :
    Closed p g (step s a) := by
  obtain ⟨closedAt, row⟩ := closed.row
  cases a with
  | receive event deliveryID now => exact ⟨closed.row, closed.receipt, closed.unreported⟩
  | apply w now =>
    rw [step]
    split
    · rename_i inProgress
      have unmatched := matchPR_left tracks.owner row (not_ownsPR_closeUnmerged _ _)
      rw [← (tracks.received w inProgress).1] at unmatched
      rcases applyPRWebhook_cases s.groups s.pr w now with
        ⟨groups, pr, -⟩ | ⟨-, -, merged, -⟩ | ⟨h, outcomes, found, -⟩
      · dsimp only
        rw [groups, pr]
        exact ⟨closed.row, closed.receipt, closed.unreported⟩
      · exact absurd ⟨merged, inProgress⟩ unmerged
      · rw [unmatched] at found
        cases found
    · exact closed
  | leaveUnmatched w =>
    rw [step]
    split
    · exact ⟨closed.row, closed.receipt, closed.unreported⟩
    · exact closed
  | recover w now =>
    rw [step]
    split
    · rename_i inProgress
      exact absurd ⟨(tracks.unmatched w inProgress).2, inProgress⟩ unmerged
    · exact closed
  | elsewhere groups => exact ⟨⟨closedAt, about.1.trans row⟩, closed.receipt, closed.unreported⟩

theorem closed_merge {p : PullRequest} {g : ErrorGroup} {s : Deliveries} (tracks : Tracks p s)
    (closed : Closed p g s) (ready : g.status ≠ .prDraft) (ticket : g.ticketID = none)
    (a : Action) (merges : AppliesMerge s a) : Merged p (step s a) := by
  obtain ⟨closedAt, row⟩ := closed.row
  cases a with
  | receive | leaveUnmatched | elsewhere => exact merges.elim
  | apply w now =>
    obtain ⟨merged, inProgress⟩ := merges
    have reports := tracks.received w inProgress
    have unmatched := matchPR_left tracks.owner row (not_ownsPR_closeUnmerged _ _)
    rw [← reports.1] at unmatched
    simp only [step, if_pos inProgress]
    rcases applyPRWebhook_cases s.groups s.pr w now with
      ⟨-, -, taken | ⟨-, close⟩⟩ | ⟨-, -, -, after⟩ | ⟨h, outcomes, found, -⟩
    · rw [closed.unreported w.deliveryID (by rw [← reports.2.1, merged])] at taken
      cases taken
    · rw [merged] at close
      cases close
    · rw [after]
      exact closed_recover tracks closed ready ticket reports merged now
    · rw [unmatched] at found
      cases found
  | recover w now =>
    obtain ⟨merged, inProgress⟩ := merges
    simp only [step, if_pos inProgress]
    exact closed_recover tracks closed ready ticket (tracks.unmatched w inProgress).1 merged now

theorem settled_step {p : PullRequest} {g : ErrorGroup} {s : Deliveries} (tracks : Tracks p s)
    (row : s.groups.find? p.groupID = some g) (left : ¬OwnsPR g) (unparked : ¬Parked g)
    (a : Action) (about : About p s a) : (step s a).groups.find? p.groupID = some g := by
  have recovered : ∀ w now, Reports p w →
      (recoverReopenedMerge s.groups s.pr w now).1.find? p.groupID = some g := by
    intro w now reports
    rcases recoverReopenedMerge_cases s.groups s.pr w now with
      ⟨groups, -⟩ | ⟨o, h, outcomes, found, -, -, groups⟩
    · rw [groups, row]
    · rw [reports.1] at found
      obtain ⟨present, -⟩ := latestOutcome_issue tracks found
      rw [row, Option.some.injEq] at present
      rw [groups, ← present, if_neg unparked, row]
  cases a with
  | receive event deliveryID now => exact row
  | apply w now =>
    rw [step]
    split
    · rename_i inProgress
      have reports := tracks.received w inProgress
      have unmatched := matchPR_left tracks.owner row left
      rw [← reports.1] at unmatched
      rcases applyPRWebhook_cases s.groups s.pr w now with
        ⟨groups, -⟩ | ⟨-, -, -, after⟩ | ⟨h, outcomes, found, -⟩
      · exact (congrArg (fun groups => groups.find? p.groupID) groups).trans row
      · dsimp only
        rw [after]
        exact recovered w now reports
      · rw [unmatched] at found
        cases found
    · exact row
  | leaveUnmatched w =>
    rw [step]
    split <;> exact row
  | recover w now =>
    rw [step]
    split
    · rename_i inProgress
      exact recovered w now (tracks.unmatched w inProgress).1
    · exact row
  | elsewhere groups => exact about.1.trans row

/-- What a reopened pull request's history promises: the issue ends merged, and every
delivery id changes it once. -/
def ReopenedMerge (p : PullRequest) (s : Deliveries) (actions : List Action) : Prop :=
  Merged p (machine.run s actions) ∧ OncePerDelivery s actions

theorem tracks_run {p : PullRequest} {s : Deliveries} (tracks : Tracks p s) {actions : List Action}
    (about : machine.Guarded (About p) s actions) : Tracks p (machine.run s actions) :=
  machine.invariant_guarded (Tracks p) (fun _ a inv about => tracks_step inv a about) tracks about

theorem settled_run {p : PullRequest} {g : ErrorGroup} {s : Deliveries} (tracks : Tracks p s)
    (row : s.groups.find? p.groupID = some g) (left : ¬OwnsPR g) (unparked : ¬Parked g)
    {actions : List Action} (about : machine.Guarded (About p) s actions) :
    (machine.run s actions).groups.find? p.groupID = some g :=
  (machine.invariant_guarded (fun s => Tracks p s ∧ s.groups.find? p.groupID = some g)
    (fun _ a inv about => ⟨tracks_step inv.1 a about, settled_step inv.1 inv.2 left unparked a about⟩)
    ⟨tracks, row⟩ about).2

theorem merged_run {p : PullRequest} {s : Deliveries} (tracks : Tracks p s) (merged : Merged p s)
    {actions : List Action} (about : machine.Guarded (About p) s actions) :
    Merged p (machine.run s actions) := by
  obtain ⟨g, row, status, mergedAt⟩ := merged
  refine ⟨g, settled_run tracks row ?_ ?_ about, status, mergedAt⟩
  · simp [OwnsPR, status]
  · simp [Parked, status]

theorem unmerged_run {p : PullRequest} {g : ErrorGroup} {s : Deliveries} (tracks : Tracks p s)
    (opened : Open p g s) (number : g.prNumber = some p.number) (ticket : g.ticketID = none)
    (owns : OwnsPR g) {actions : List Action} (about : machine.Guarded (About p) s actions)
    (unmerged : machine.Guarded (fun s a => ¬AppliesMerge s a) s actions) :
    Open p g (machine.run s actions) ∨ Closed p g (machine.run s actions) := by
  have phase : Open p g s ∨ Closed p g s := Or.inl opened
  clear opened
  induction actions generalizing s with
  | nil => exact phase
  | cons a rest ih =>
    refine ih (tracks_step tracks a about.1) about.2 unmerged.2 ?_
    rcases phase with opened | closed
    · rcases open_step tracks opened number ticket owns a about.1 with stays | closes | ⟨merges, -⟩
      · exact Or.inl stays
      · exact Or.inr closes
      · exact absurd merges unmerged.1
    · exact Or.inr (closed_step tracks closed a about.1 unmerged.1)

theorem closed_run {p : PullRequest} {g : ErrorGroup} {s : Deliveries} (tracks : Tracks p s)
    (closed : Closed p g s) (ready : g.status ≠ .prDraft) (ticket : g.ticketID = none)
    {actions : List Action} (about : machine.Guarded (About p) s actions) :
    Closed p g (machine.run s actions) ∨ Merged p (machine.run s actions) := by
  induction actions generalizing s with
  | nil => exact Or.inl closed
  | cons a rest ih =>
    have next := tracks_step tracks a about.1
    by_cases merges : AppliesMerge s a
    · exact Or.inr (merged_run next (closed_merge tracks closed ready ticket a merges) about.2)
    · exact ih next (closed_step tracks closed a about.1 merges) about.2

theorem Delivered.tracks {p : PullRequest} {input : DeliveryInput} {s : Deliveries}
    (delivered : Delivered p input s) : Tracks p s := by
  refine ⟨delivered.owner, delivered.receipts, ?_, ?_⟩
  · simp [delivered.received]
  · simp [delivered.unmatched]

theorem deliver_ownsPR (input : DeliveryInput) (now : Timestamp) (g : ErrorGroup) :
    OwnsPR (deliver input now g) := by
  unfold OwnsPR deliver DeliveryInput.status
  cases input.draft <;> simp

/-- The issue of a closed and reopened pull request ends merged exactly when the pull
request was delivered ready: the close of a draft parks the issue in `needs_human`,
where no merge is recovered. -/
theorem reopened_merge (p : PullRequest) (input : DeliveryInput) (s : Deliveries)
    (actions : List Action) (delivered : Delivered p input s)
    (about : machine.Guarded (About p) s actions) (reopened : Reopened s actions) :
    ReopenedMerge p s actions ↔ input.draft = false := by
  obtain ⟨base, deliveredAt, row, baseTicket⟩ := delivered.row
  obtain ⟨before, c, now, mid, a, after, rfl, unmerged, close, inProgress, merges⟩ := reopened
  set g := deliver input deliveredAt base with defined
  have number : g.prNumber = some p.number := by rw [← delivered.number, defined, deliver]
  have ticket : g.ticketID = none := by rw [defined, deliver, baseTicket]
  have owns : OwnsPR g := deliver_ownsPR input deliveredAt base
  have opened : Open p g s := by
    refine ⟨row, ?_, delivered.unreported, delivered.unmatched⟩
    simp [delivered.received]
  -- the history up to the close, the close, and what follows it
  rw [List.append_assoc, List.cons_append, machine.guarded_append] at about
  obtain ⟨aboutBefore, aboutClose, aboutAfter⟩ := about
  have tracks := tracks_run delivered.tracks aboutBefore
  have closes : Closed p g (step (machine.run s before) (.apply c now)) := by
    rcases unmerged_run delivered.tracks opened number ticket owns aboutBefore unmerged with
      stays | closed
    · exact (open_apply tracks stays number ticket owns inProgress now).1 close
    · refine closed_step tracks closed _ aboutClose ?_
      rintro ⟨merged, -⟩
      rw [close] at merged
      cases merged
  have tracksClose := tracks_step tracks _ aboutClose
  have final : machine.run s (before ++ Action.apply c now :: mid ++ a :: after) =
      machine.run (step (machine.run s before) (.apply c now)) (mid ++ a :: after) := by
    rw [List.append_assoc, machine.run_append]
    rfl
  constructor
  · rintro ⟨⟨h, merged, status, -⟩, -⟩
    by_contra draft
    obtain ⟨closedAt, closedRow⟩ := closes.row
    have drafted : g.status = .prDraft := by
      rw [defined, deliver, DeliveryInput.status, if_pos (by simpa using draft)]
    have settled := settled_run tracksClose closedRow (not_ownsPR_closeUnmerged _ _)
      (fun parked => (parked_closeUnmerged closedAt g).mp parked drafted) aboutAfter
    rw [← final, merged, Option.some.injEq] at settled
    rw [settled, closeUnmerged, if_pos drafted] at status
    cases status
  · intro draft
    refine ⟨?_, oncePerDelivery _ _⟩
    have ready : g.status ≠ .prDraft := by simp [defined, deliver, DeliveryInput.status, draft]
    rw [final, machine.run_append]
    obtain ⟨aboutMid, aboutMerge⟩ := (machine.guarded_append _ _ _ _).mp aboutAfter
    have tracksMid := tracks_run tracksClose aboutMid
    rcases closed_run tracksClose closes ready ticket aboutMid with closed | merged
    · rw [machine.run_append] at merges
      exact merged_run (tracks_step tracksMid a aboutMerge.1)
        (closed_merge tracksMid closed ready ticket a merges) aboutMerge.2
    · exact merged_run tracksMid merged aboutMerge

def pull : PullRequest := ⟨101, 7, 300, fun d => d == "merge"⟩

def pullInput (draft : Bool) : DeliveryInput :=
  ⟨draft, "https://github.com/acme/app/pull/7", 7, "c0ffee", "high", 301, none, none, none⟩

def fixing : ErrorGroup :=
  ⟨101, 1, .error, "canonical:101", "TypeError: x is undefined", "javascript", .fixing, none, none,
    none, 0, 0, 1, 0, none, none, none, none, none, none, none, none, none, none, none, none, none,
    none⟩

def pullDelivered (draft : Bool) : Deliveries :=
  ⟨⟨[deliver (pullInput draft) 10 fixing], by simp⟩,
    ⟨"acme/app", some 42, .empty,
      ⟨[⟨101, "opslane/fix-101", if draft then .draft else .ready, .opened, some "c0ffee",
        some "https://github.com/acme/app/pull/7", some 7⟩], by simp⟩, [], []⟩, [], []⟩

def closeWebhook : PRWebhook := ⟨7, false, "close", 100⟩

def mergeWebhook : PRWebhook := ⟨7, true, "merge", 300⟩

/-- The close is delivered twice at once, then the pull request is reopened, and its
merge is delivered twice at once; the first to arrive is the last to be recovered. -/
def reopenedHistory : List Action :=
  [.receive ⟨"closed", 7, false, some 100⟩ "close" 101,
    .receive ⟨"closed", 7, false, some 100⟩ "close" 102, .apply closeWebhook 103,
    .apply closeWebhook 104, .receive ⟨"reopened", 7, false, none⟩ "reopen" 200,
    .receive ⟨"closed", 7, true, some 300⟩ "merge" 301,
    .receive ⟨"closed", 7, true, some 300⟩ "merge" 302, .leaveUnmatched mergeWebhook,
    .apply mergeWebhook 303, .recover mergeWebhook 304]

theorem delivered_pullDelivered (draft : Bool) :
    Delivered pull (pullInput draft) (pullDelivered draft) := by
  refine ⟨rfl, ⟨fixing, 10, ?_, rfl⟩, ?_, ?_, fun _ _ => rfl, rfl, rfl⟩
  · cases draft <;> decide
  · cases draft <;> decide
  · intro o member
    cases member

theorem reopened_reopenedHistory (draft : Bool) :
    machine.Guarded (About pull) (pullDelivered draft) reopenedHistory ∧
      Reopened (pullDelivered draft) reopenedHistory := by
  refine ⟨?_, reopenedHistory.take 2, closeWebhook, 103, (reopenedHistory.take 8).drop 3,
    .apply mergeWebhook 303, [.recover mergeWebhook 304], rfl, ?_, rfl, ?_, ?_⟩
  all_goals cases draft <;> decide +kernel

theorem reopened_merge_ready : ReopenedMerge pull (pullDelivered false) reopenedHistory := by
  obtain ⟨about, reopened⟩ := reopened_reopenedHistory false
  exact (reopened_merge pull (pullInput false) (pullDelivered false) reopenedHistory
    (delivered_pullDelivered false) about reopened).mpr rfl

/-- The merge of the draft leaves the issue with a human. -/
theorem reopened_draft_unmerged :
    Delivered pull (pullInput true) (pullDelivered true) ∧
      machine.Guarded (About pull) (pullDelivered true) reopenedHistory ∧
      Reopened (pullDelivered true) reopenedHistory ∧
      ¬ReopenedMerge pull (pullDelivered true) reopenedHistory := by
  obtain ⟨about, reopened⟩ := reopened_reopenedHistory true
  refine ⟨delivered_pullDelivered true, about, reopened, ?_⟩
  rintro ⟨⟨g, row, status, -⟩, -⟩
  have left : ((machine.run (pullDelivered true) reopenedHistory).groups.find? 101).map
      ErrorGroup.status = some .needsHuman := by decide +kernel
  rw [show (101 : UUID) = pull.groupID from rfl, row, Option.map_some, status] at left
  cases left

end Deliveries

end Opslane.Delivery
