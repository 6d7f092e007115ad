import Opslane.Identity.Lifecycle
import Opslane.Lib.Forest

/-!
# Merge receipts

A receipt folds a loser into a winner for good. As long as no merge takes as its
winner an issue that already lost one, the receipts form a forest and nothing points
at a loser. `ConfirmMerge` refuses such a winner by its status, which reads `merged`
only until another writer relabels the issue.
-/

namespace Opslane.Identity

open Transition (committed committed_eq)

/-- A receipt folds the first issue into the second. -/
def Folded (s : Store) (loserID winnerID : UUID) : Prop :=
  (s.receipt? loserID).map IssueMerge.winnerID = some winnerID
  deriving Decidable

theorem lost_iff_map (s : Store) (i : UUID) :
    s.Lost i ↔ ((s.receipt? i).map IssueMerge.winnerID).isSome := by
  rw [Store.Lost, Option.isSome_map]

/-- The receipts form a forest, and what settlement reads points at its roots. -/
structure Survivors (s : Store) : Prop where
  acyclic : Acyclic (Folded s)
  lostIssue : ∀ i, s.Lost i → (s.groups.find? i).isSome
  boundLive : ∀ v f i, s.bound v f = some i → ¬s.Lost i
  settledLive : ∀ e i g, s.identities.find? e = some i → i.canonicalIssueID = some g → ¬s.Lost g

theorem survivors_empty (githubRepo : String) (installationID : Option Nat) :
    Survivors (Store.empty githubRepo installationID) := by
  refine ⟨acyclic_of_empty fun a b => ?_, ?_, ?_, ?_⟩ <;>
    simp [Folded, Store.Lost, Store.receipt?, Store.bound, Store.empty]

variable {s s' : Store}

theorem Survivors.frame (survivors : Survivors s)
    (receipts : ∀ i, s'.receipt? i = s.receipt? i) (bound : ∀ v f, s'.bound v f = s.bound v f)
    (groups : ∀ i, (s.groups.find? i).isSome → (s'.groups.find? i).isSome)
    (identities : ∀ e i' g, s'.identities.find? e = some i' → i'.canonicalIssueID = some g →
      ∃ i, s.identities.find? e = some i ∧ i.canonicalIssueID = some g) : Survivors s' := by
  have lost : ∀ i, s'.Lost i ↔ s.Lost i := by
    intro i
    rw [Store.Lost, Store.Lost, receipts]
  refine ⟨?_, ?_, ?_, ?_⟩
  · have same : Folded s' = Folded s := by
      funext a b
      rw [Folded, Folded, receipts]
    rw [same]
    exact survivors.acyclic
  · intro i h
    exact groups i (survivors.lostIssue i ((lost i).mp h))
  · intro v f i h
    rw [lost]
    exact survivors.boundLive v f i (bound v f ▸ h)
  · intro e i' g found canonical
    rw [lost]
    obtain ⟨i, found, canonical⟩ := identities e i' g found canonical
    exact survivors.settledLive e i g found canonical

variable {now : Timestamp}

theorem Survivors.settle (survivors : Survivors s) {identity : EventIdentity} {ev : ErrorEvent}
    {candidates : List CandidateAlias} {resolvedFingerprint : String}
    {issueID episodeID freshIssue freshEpisode : UUID}
    (found : s.identities.find? identity.eventID = some identity)
    (settles : Settles s s' identity ev candidates resolvedFingerprint issueID episodeID freshIssue
      freshEpisode now) : Survivors s' := by
  have receipts : ∀ i, s'.receipt? i = s.receipt? i := by
    intro i
    rw [settles.frame]
    rfl
  have lost : ∀ i, s'.Lost i ↔ s.Lost i := by
    intro i
    rw [Store.Lost, Store.Lost, receipts]
  have live : ¬s.Lost issueID := by
    rcases settles.target with ⟨_, -, -, c, -, isBound⟩ | ⟨absent, -, -⟩
    · exact survivors.boundLive _ _ _ isBound
    · intro h
      have present := survivors.lostIssue issueID h
      simp [absent] at present
  refine ⟨?_, ?_, ?_, ?_⟩
  · have same : Folded s' = Folded s := by
      funext a b
      rw [Folded, Folded, receipts]
    rw [same]
    exact survivors.acyclic
  · intro i h
    exact settles.group_isSome (survivors.lostIssue i ((lost i).mp h))
  · intro v f i h
    rw [lost]
    rcases settles.origin v f i h with before | ⟨-, rfl, -, -⟩
    · exact survivors.boundLive v f i before
    · exact live
  · intro e i' g after canonical
    rw [lost]
    rw [settles.identity_eq found] at after
    split at after
    · rw [Option.some.injEq] at after
      subst after
      cases canonical
      exact live
    · exact survivors.settledLive e i' g after canonical

theorem Survivors.merge (survivors : Survivors s) {winnerID loserID episodeID freshEpisode : UUID}
    {winner loser : ErrorGroup} (distinct : winnerID ≠ loserID)
    (loserFound : s.groups.find? loserID = some loser) (live : ¬s.Lost winnerID)
    (merges : Merges s s' winnerID loserID winner episodeID freshEpisode now) : Survivors s' := by
  have lost : ∀ i, s'.Lost i ↔ i = loserID ∨ s.Lost i := by
    intro i
    rw [lost_iff_map, lost_iff_map, merges.receipts]
    by_cases h : i = loserID <;> simp [h]
  have redirect : ∀ g, ¬s.Lost g → ¬s'.Lost (if g = loserID then winnerID else g) := by
    intro g before
    rw [lost]
    split
    · rintro (same | h)
      · exact distinct same
      · exact live h
    · rename_i other
      rintro (same | h)
      · exact other same
      · exact before h
  refine ⟨?_, ?_, ?_, ?_⟩
  · -- the new edge ends in the winner, which has no receipt
    refine survivors.acyclic.into_sink (w := winnerID) ?_ ?_
    · intro b edge
      have : s'.Lost winnerID := by
        rw [lost_iff_map, show _ = some b from edge]
        rfl
      rcases (lost winnerID).mp this with same | h
      · exact distinct same
      · exact live h
    · intro a b edge
      rw [Folded, merges.receipts] at edge
      split at edge
      · exact Or.inr (Option.some.inj edge).symm
      · exact Or.inl edge
  · intro i h
    rcases (lost i).mp h with rfl | h
    · exact merges.group_isSome (by rw [loserFound]; rfl)
    · exact merges.group_isSome (survivors.lostIssue i h)
  · intro v f i isBound
    rw [merges.bound, Option.map_eq_some_iff] at isBound
    obtain ⟨g, isBound, rfl⟩ := isBound
    exact redirect g (survivors.boundLive v f g isBound)
  · intro e i' g after canonical
    rw [merges.identities, Option.map_eq_some_iff] at after
    obtain ⟨i, before, rfl⟩ := after
    rw [requeuedIdentity_canonical, movedIdentity_canonical, Option.map_eq_some_iff] at canonical
    obtain ⟨g', canonical, rfl⟩ := canonical
    exact redirect g' (survivors.settledLive e i g' before canonical)

theorem Survivors.step (survivors : Survivors s) (wf : WellFormed s)
    (sha256 : String → Vector UInt8 32) (a : Action)
    (live : ∀ winnerID loserID confirmedBy actor freshEpisode now winner loser s',
      a = .confirmMerge winnerID loserID confirmedBy actor freshEpisode now →
      Accepted s s' winnerID loserID confirmedBy actor freshEpisode now winner loser →
      ¬s.Lost winnerID) : Survivors (step sha256 s a) := by
  refine step_induction sha256 a survivors ?_ ?_ ?_ ?_ ?_
  · intro s' eventID p now _ success
    obtain ⟨events, -, rest⟩ := Except.of_bind success
    obtain ⟨identities, inserted, rest⟩ := Except.of_bind rest
    rw [Option.orError_eq_ok_iff] at inserted
    cases rest
    refine survivors.frame (fun _ => rfl) (fun _ _ => rfl) (fun _ => id) ?_
    intro e i' g found canonical
    rw [show identities.find? e = _ from Table.find?_insert? inserted e] at found
    split at found
    · cases found
      cases canonical
    · exact ⟨i', found, canonical⟩
  · exact fun _ _ => survivors.frame (fun _ => rfl) (fun _ _ => rfl) (fun _ => id)
      fun e i g found canonical => ⟨i, found, canonical⟩
  · intro p status claimedAt _ _
    refine survivors.frame (fun _ => rfl) (fun _ _ => rfl) (fun _ => id) ?_
    intro e i' g found canonical
    rw [Table.find?_updateWhere, Option.map_eq_some_iff] at found
    obtain ⟨i, before, rfl⟩ := found
    exact ⟨i, before, by split at canonical <;> exact canonical⟩
  · intro s' eventID identity freshIssue freshEpisode now result _ found did
    have key : identity.eventID = eventID := Table.key_of_find? found
    rw [← key] at found
    cases did with
    | retried _ unchanged =>
      rw [unchanged]
      exact survivors
    | parked _ _ _ _ _ unsettled _ _ _ parks _ =>
      obtain ⟨_, _, -, rfl⟩ := parkConflict_effects parks
      refine survivors.frame (fun _ => rfl) (fun _ _ => rfl) (fun _ => id) ?_
      intro e i' g after canonical
      rw [Table.find?_updateKey, found] at after
      split at after
      · rename_i own
        cases after
        exact ⟨identity, own ▸ found, canonical⟩
      · exact ⟨i', after, canonical⟩
    | attached _ _ _ _ _ _ _ _ _ unsettled _ _ steps _ =>
      obtain ⟨ev, -, -, settles⟩ := wf.settles found unsettled steps
      exact survivors.settle found settles
  · intro s' winnerID loserID confirmedBy actor freshEpisode now winner loser same accepted
    obtain ⟨episodeID, merges⟩ := accepted.merges (wf.unopened accepted.winnerFound)
    exact survivors.merge accepted.distinct accepted.loserFound
      (live _ _ _ _ _ _ _ _ _ same accepted) merges

/-- A loser keeps the status its merge gave it. -/
def LosersMerged (s : Store) : Prop :=
  ∀ i g, s.Lost i → s.groups.find? i = some g → g.status = .merged

theorem LosersMerged.step (merged : LosersMerged s) (wf : WellFormed s) (survivors : Survivors s)
    (sha256 : String → Vector UInt8 32) (a : Action) : LosersMerged (step sha256 s a) := by
  refine step_induction sha256 a merged ?_ (fun _ _ => merged) (fun _ _ _ _ _ => merged) ?_ ?_
  · intro s' eventID p now _ success
    obtain ⟨events, -, rest⟩ := Except.of_bind success
    obtain ⟨identities, -, rest⟩ := Except.of_bind rest
    cases rest
    exact merged
  · intro s' eventID identity freshIssue freshEpisode now result _ found did
    have key : identity.eventID = eventID := Table.key_of_find? found
    rw [← key] at found
    cases did with
    | retried _ unchanged =>
      rw [unchanged]
      exact merged
    | parked _ _ _ _ _ _ _ _ _ parks _ =>
      obtain ⟨_, _, -, rfl⟩ := parkConflict_effects parks
      exact merged
    | attached _ _ _ issueID _ _ _ _ _ unsettled _ _ steps _ =>
      obtain ⟨ev, -, -, settles⟩ := wf.settles found unsettled steps
      intro i g lost present
      have before : s.Lost i := by
        rw [Store.Lost, Store.receipt?, settles.frame] at lost
        exact lost
      rw [settles.groups] at present
      split at present
      · rename_i own
        subst own
        rcases settles.target with ⟨base, baseFound, active, -⟩ | ⟨absent, -, -⟩
        · exact absurd (merged i base before baseFound) active
        · have known := survivors.lostIssue i before
          simp [absent] at known
      · exact merged i g before present
  · intro s' winnerID loserID confirmedBy actor freshEpisode now winner loser _ accepted
    obtain ⟨episodeID, merges⟩ := accepted.merges (wf.unopened accepted.winnerFound)
    intro i g lost present
    rw [lost_iff_map, merges.receipts] at lost
    rw [merges.groups] at present
    by_cases isLoser : i = loserID
    · subst isLoser
      rw [if_neg accepted.distinct.symm, if_pos rfl, accepted.loserFound] at present
      cases present
      rfl
    · rw [if_neg isLoser, ← lost_iff_map] at lost
      by_cases isWinner : i = winnerID
      · subst isWinner
        exact absurd (merged i winner lost accepted.winnerFound) accepted.winnerLive
      · rw [if_neg isWinner, if_neg isLoser] at present
        exact merged i g lost present

/-- The invariants of the identity package on its own. -/
structure IdentityInvariant (s : Store) : Prop where
  wf : WellFormed s
  survivors : Survivors s
  merged : LosersMerged s

theorem identityInvariant_empty (githubRepo : String) (installationID : Option Nat) :
    IdentityInvariant (Store.empty githubRepo installationID) :=
  ⟨wellFormed_empty _ _, survivors_empty _ _, by simp [LosersMerged, Store.empty]⟩

theorem IdentityInvariant.step (inv : IdentityInvariant s) (sha256 : String → Vector UInt8 32) (a : Action) :
    IdentityInvariant (step sha256 s a) := by
  refine ⟨inv.wf.step sha256 a, inv.survivors.step inv.wf sha256 a ?_,
    inv.merged.step inv.wf inv.survivors sha256 a⟩
  rintro winnerID _ _ _ _ _ winner _ _ - accepted lost
  exact accepted.winnerLive (inv.merged winnerID winner lost accepted.winnerFound)

namespace Lifecycle

variable (sha256 : String → Vector UInt8 32)

/-- The merge's winner, if it lost an earlier merge, still reads `merged`. -/
def LoserStillMerged (s : Store) : Action → Prop
  | .identity (.confirmMerge winnerID _ _ _ _ _) =>
    s.Lost winnerID → (s.groups.find? winnerID).all fun g => g.status = .merged
  | _ => True

instance (s : Store) (a : Action) : Decidable (LoserStillMerged s a) :=
  match a with
  | .identity (.confirmMerge winnerID _ _ _ _ _) =>
    inferInstanceAs (Decidable (s.Lost winnerID → _))
  | .identity (.capture ..) | .identity (.recordResolution ..) | .identity (.sweepResolutions ..)
  | .identity (.resetAbandoned ..) | .identity (.claim ..) | .identity (.settle ..)
  | .resolveErrorGroup .. | .archiveErrorGroup .. | .unarchiveErrorGroup ..
  | .resolveSilentMergedGroups .. | .resolveInactiveGroups .. | .processPRWebhook ..
  | .updateGroupStatus .. | .finalizeDelivery .. | .investigate .. | .publish ..
  | .deliverDigestItem .. | .recordFrictionSignal .. => isTrue trivial

theorem LoserStillMerged.winner_merged {winnerID loserID : UUID} {confirmedBy : ConfirmedBy}
    {actor : String} {freshEpisode : UUID} (guard : LoserStillMerged s
      (.identity (.confirmMerge winnerID loserID confirmedBy actor freshEpisode now)))
    (lost : s.Lost winnerID) {winner : ErrorGroup} (found : s.groups.find? winnerID = some winner) :
    winner.status = .merged := by
  have still := guard lost
  rw [found, Option.all_some, decide_eq_true_eq] at still
  exact still

theorem survivors_step (inv : WellFormed s ∧ Survivors s) (a : Action)
    (guard : LoserStillMerged s a) : WellFormed (step sha256 s a) ∧ Survivors (step sha256 s a) := by
  obtain ⟨wf, survivors⟩ := inv
  refine ⟨wellFormed_step sha256 wf a, ?_⟩
  by_cases outside : ∀ i, a ≠ .identity i
  · have writes := writesGroups_step sha256 s a outside
    refine survivors.frame (receipt?_eq writes) (bound_eq writes) (fun i h => ?_) ?_
    · rw [writes.present]
      exact h
    · intro e i g found canonical
      exact ⟨i, writes.identities ▸ found, canonical⟩
  · simp only [not_forall, not_not] at outside
    obtain ⟨i, rfl⟩ := outside
    refine survivors.step wf sha256 i ?_
    rintro winnerID loserID confirmedBy actor freshEpisode now winner loser s' rfl accepted lost
    exact accepted.winnerLive (guard.winner_merged lost accepted.winnerFound)

theorem survivors_run (start : WellFormed s ∧ Survivors s) {actions : List Action}
    (guarded : (machine sha256).Guarded LoserStillMerged s actions) :
    WellFormed ((machine sha256).run s actions) ∧ Survivors ((machine sha256).run s actions) :=
  (machine sha256).invariant_guarded (fun s => WellFormed s ∧ Survivors s)
    (fun _ a inv guard => survivors_step sha256 inv a guard) start guarded

/-- The merge wrote a receipt that folds the loser into the winner. -/
def AcceptsMerge (s : Store) (winnerID loserID : UUID) (confirmedBy : ConfirmedBy) (actor : String)
    (freshEpisode : UUID) (now : Timestamp) : Prop :=
  s.receipt? loserID = none ∧
    Folded (step sha256 s (.identity (.confirmMerge winnerID loserID confirmedBy actor freshEpisode
      now))) loserID winnerID

/-- What the receipts promise of one run: they are acyclic, no merge in the run took
a loser as its winner, and every alias and settled observation points at an issue
that is not a loser. -/
structure ReceiptsHold (s : Store) (actions : List Action) : Prop where
  acyclic : Acyclic (Folded ((machine sha256).run s actions))
  winners : ∀ before winnerID loserID confirmedBy actor freshEpisode now after,
    actions = before ++
      .identity (.confirmMerge winnerID loserID confirmedBy actor freshEpisode now) :: after →
    AcceptsMerge sha256 ((machine sha256).run s before) winnerID loserID confirmedBy actor
      freshEpisode now →
    ¬((machine sha256).run s before).Lost winnerID
  aliases : ∀ v f i, ((machine sha256).run s actions).bound v f = some i →
    ¬((machine sha256).run s actions).Lost i
  settled : ∀ i ∈ ((machine sha256).run s actions).identities.rows, i.status = .settled →
    ∃ g, i.canonicalIssueID = some g ∧ ¬((machine sha256).run s actions).Lost g

/-- A run in which every merge's winner, if it lost an earlier merge, still has the
status that merge left it keeps the receipts' promise. -/
theorem receipts_hold (githubRepo : String) (installationID : Option Nat) (actions : List Action)
    (guarded : (machine sha256).Guarded LoserStillMerged (Store.empty githubRepo installationID)
      actions) :
    ReceiptsHold sha256 (Store.empty githubRepo installationID) actions := by
  have start : WellFormed (Store.empty githubRepo installationID) ∧
      Survivors (Store.empty githubRepo installationID) :=
    ⟨wellFormed_empty _ _, survivors_empty _ _⟩
  obtain ⟨wf, survivors⟩ := survivors_run sha256 start guarded
  refine ⟨survivors.acyclic, ?_, survivors.boundLive, ?_⟩
  · rintro before winnerID loserID confirmedBy actor freshEpisode now after rfl ⟨fresh, folded⟩ lost
    obtain ⟨guardedBefore, guard, -⟩ :=
      ((machine sha256).guarded_append _ _ _ _).mp guarded
    generalize (machine sha256).run (Store.empty githubRepo installationID) before = s at *
    rw [step, Identity.step] at folded
    rcases committed_eq s (ConfirmMerge s winnerID loserID confirmedBy actor freshEpisode now)
      with same | success
    · rw [same, Folded, fresh] at folded
      cases folded
    · rcases confirmMerge_cases success with ⟨same, -⟩ | ⟨winner, loser, accepted⟩
      · rw [same, Folded, fresh] at folded
        cases folded
      · exact accepted.winnerLive (guard.winner_merged lost accepted.winnerFound)
  · intro i member status
    have found := ((machine sha256).run (Store.empty githubRepo installationID)
      actions).identities.find?_key member
    obtain ⟨g, canonical⟩ := Option.isSome_iff_exists.mp ((wf.settled _ i found).mp status)
    exact ⟨g, canonical, survivors.settledLive _ i g found canonical⟩

/-- Two issues are merged and the loser is then resolved by a human. -/
def relabelledLoser : List Action :=
  (observeRaw 1 ⟨"a", a_ne_empty⟩ none 101 201 0 ++ observeRaw 2 ⟨"b", b_ne_empty⟩ none 102 202 1 ++
    [Identity.Action.confirmMerge 101 102 .human "ops" 203 2]).map .identity ++
  [Action.resolveErrorGroup 102 3]

theorem receipts_hold_relabelledLoser :
    (machine fun _ => Vector.replicate 32 0).Guarded LoserStillMerged
      (Store.empty "acme/app" none) relabelledLoser ∧
    ReceiptsHold (fun _ => Vector.replicate 32 0) (Store.empty "acme/app" none)
      relabelledLoser := by
  have guarded : (machine fun _ => Vector.replicate 32 0).Guarded LoserStillMerged
      (Store.empty "acme/app" none) relabelledLoser := by decide +kernel
  exact ⟨guarded, receipts_hold _ _ _ _ guarded⟩

/-- The relabelled loser is accepted as the winner of its own winner, and the two
receipts form a cycle. -/
theorem receipts_cycle :
    ¬ReceiptsHold (fun _ => Vector.replicate 32 0) (Store.empty "acme/app" none)
      (relabelledLoser ++ [Action.identity (.confirmMerge 102 101 .human "ops" 204 4)]) := by
  intro hold
  refine hold.acyclic 101 (.tail (b := 102) (.single ?_) ?_)
  · decide +kernel
  · decide +kernel

end Lifecycle

end Opslane.Identity
