import Opslane.Identity.Lifecycle

/-!
# Work rounds over a history

Rounds are opened by settlement and by merges and closed by the trigger of migration
055 and by merges. The actions here are those of the identity package and every status
change to `resolved`: which issues it selects and the reason it records are free, so
each resolver of the life of an issue is one (`exists_rounds`).
-/

namespace Opslane.Identity

/-- No round is lost, renumbered or reopened, and a new round of an issue is numbered
above every earlier one. -/
structure Episodes.Advances (before after : Episodes) : Prop where
  kept : ∀ old ∈ before.rows, ∃ r ∈ after.rows, r.id = old.id ∧
    r.canonicalIssueID = old.canonicalIssueID ∧ r.sequence = old.sequence ∧
      (old.closedAt.isSome → r.closedAt = old.closedAt)
  fresh : ∀ r ∈ after.rows,
    (∃ old ∈ before.rows, old.id = r.id ∧ old.canonicalIssueID = r.canonicalIssueID ∧
      old.sequence = r.sequence) ∨
    ∀ old ∈ before.rows, old.canonicalIssueID = r.canonicalIssueID → old.sequence < r.sequence

namespace Episodes

theorem Advances.refl (e : Episodes) : e.Advances e :=
  ⟨fun old member => ⟨old, member, rfl, rfl, rfl, fun _ => rfl⟩,
    fun r member => Or.inl ⟨r, member, rfl, rfl, rfl⟩⟩

theorem Advances.trans {a b c : Episodes} (first : a.Advances b) (second : b.Advances c) :
    a.Advances c := by
  refine ⟨?_, ?_⟩
  · intro old member
    obtain ⟨mid, memMid, id, issue, sequence, closed⟩ := first.kept old member
    obtain ⟨r, memR, id', issue', sequence', closed'⟩ := second.kept mid memMid
    refine ⟨r, memR, id'.trans id, issue'.trans issue, sequence'.trans sequence, fun done => ?_⟩
    have same := closed done
    exact (closed' (same ▸ done)).trans same
  · intro r member
    rcases second.fresh r member with ⟨mid, memMid, id, issue, sequence⟩ | above
    · rcases first.fresh mid memMid with ⟨old, memOld, id', issue', sequence'⟩ | above
      · exact Or.inl ⟨old, memOld, id'.trans id, issue'.trans issue, sequence'.trans sequence⟩
      · refine Or.inr fun old memOld own => ?_
        rw [← sequence]
        exact above old memOld (own.trans issue.symm)
    · refine Or.inr fun old memOld own => ?_
      obtain ⟨mid, memMid, -, issue, sequence, -⟩ := first.kept old memOld
      rw [← sequence]
      exact above mid memMid (issue.trans own)

theorem advances_cons {before after : Episodes} {ep : IssueEpisode}
    (rows : after.rows = ep :: before.rows)
    (next : ep.sequence = before.lastSequence ep.canonicalIssueID + 1) : before.Advances after := by
  refine ⟨?_, ?_⟩
  · intro old member
    exact ⟨old, rows ▸ List.mem_cons_of_mem _ member, rfl, rfl, rfl, fun _ => rfl⟩
  · intro r member
    rw [rows, List.mem_cons] at member
    rcases member with rfl | member
    · refine Or.inr fun old memOld own => ?_
      have bound := sequence_le_lastSequence memOld
      rw [own] at bound
      omega
    · exact Or.inl ⟨r, member, rfl, rfl, rfl⟩

theorem advances_close (e : Episodes) (issueID : UUID) (closed : Timestamp) :
    e.Advances (e.close issueID closed) := by
  refine ⟨?_, ?_⟩
  · intro old member
    refine ⟨_, (mem_closeWhere e _ _ _).mpr ⟨old, member, rfl⟩, ?_⟩
    split
    · rename_i own
      simp only [decide_eq_true_eq] at own
      exact ⟨rfl, rfl, rfl, fun done => by simp [own.2] at done⟩
    · exact ⟨rfl, rfl, rfl, fun _ => rfl⟩
  · intro r member
    obtain ⟨old, earlier, rfl⟩ := (mem_closeWhere e _ _ r).mp member
    refine Or.inl ⟨old, earlier, ?_⟩
    split <;> exact ⟨rfl, rfl, rfl⟩

end Episodes

theorem OpensRound.advances {before after : Episodes} {issueID episodeID fresh : UUID}
    {now : Timestamp} (opens : OpensRound before after issueID episodeID fresh now) :
    before.Advances after := by
  cases opens with
  | reused same _ => exact same ▸ Episodes.Advances.refl before
  | opened _ _ _ rows => exact Episodes.advances_cons rows rfl

theorem WinnerRound.advances {before after : Episodes} {winner : ErrorGroup}
    {episodeID fresh : UUID} {now : Timestamp}
    (round : WinnerRound before after winner episodeID fresh now) : before.Advances after := by
  cases round with
  | told _ same _ => exact same ▸ Episodes.Advances.refl before
  | first _ _ _ rows =>
    obtain ⟨closed, rows⟩ := rows
    exact Episodes.advances_cons rows rfl
  | live _ opens => exact opens.advances

theorem advances_updateGroups (s : Store) (p : ErrorGroup → Bool) (f : ErrorGroup → ErrorGroup)
    (frame : ∀ g, (f g).id = g.id) (now : Timestamp) :
    s.episodes.Advances (s.updateGroups p f frame now).episodes := by
  have fold : ∀ (updated : List ErrorGroup) (e : Episodes),
      e.Advances (updated.foldl (Store.closeOnResolution f now) e) := by
    intro updated
    induction updated with
    | nil => exact Episodes.Advances.refl
    | cons g rest ih =>
      intro e
      refine Episodes.Advances.trans ?_ (ih _)
      unfold Store.closeOnResolution
      split
      · exact e.advances_close _ _
      · exact Episodes.Advances.refl e
  exact fold _ _

variable (sha256 : String → Vector UInt8 32)

variable {s : Store}

theorem advances_step (wf : WellFormed s) (a : Action) :
    s.episodes.Advances (step sha256 s a).episodes := by
  refine step_induction sha256 a (motive := fun s' => s.episodes.Advances s'.episodes)
    (Episodes.Advances.refl _) ?_ (fun _ _ => Episodes.Advances.refl _)
    (fun _ _ _ _ _ => Episodes.Advances.refl _) ?_ ?_
  · intro s' eventID p now _ success
    obtain ⟨events, -, rest⟩ := Except.of_bind success
    obtain ⟨identities, -, rest⟩ := Except.of_bind rest
    cases rest
    exact Episodes.Advances.refl _
  · intro s' eventID identity freshIssue freshEpisode now result _ found did
    have key : identity.eventID = eventID := Table.key_of_find? found
    rw [← key] at found
    cases did with
    | retried _ same _ => exact same ▸ Episodes.Advances.refl _
    | parked _ _ _ _ _ _ _ _ _ parks _ =>
      obtain ⟨_, _, -, rfl⟩ := parkConflict_effects parks
      exact Episodes.Advances.refl _
    | attached _ _ _ _ _ _ _ _ _ unsettled _ _ steps _ =>
      obtain ⟨ev, -, -, settles⟩ := wf.settles found unsettled steps
      cases settles.round with
      | late _ _ same _ => exact same ▸ Episodes.Advances.refl _
      | current _ opens => exact opens.advances
  · intro s' winnerID loserID confirmedBy actor freshEpisode now winner loser _ accepted
    obtain ⟨episodeID, merges⟩ := accepted.merges (wf.unopened accepted.winnerFound)
    obtain ⟨mid, round, final⟩ := merges.round
    exact final ▸ round.advances.trans (mid.advances_close loserID now)

/-- A resolution timestamp belongs to an issue that is resolved, or that was and then
lost a merge. -/
def Stamped (s : Store) : Prop :=
  ∀ i g, s.groups.find? i = some g → g.resolvedAt.isSome →
    g.status = .resolved ∨ g.status = .merged

theorem stamped_empty (githubRepo : String) (installationID : Option Nat) :
    Stamped (Store.empty githubRepo installationID) := by
  intro i g found
  cases found

theorem Stamped.step {s : Store} (stamped : Stamped s) (wf : WellFormed s) (a : Action) :
    Stamped (step sha256 s a) := by
  refine step_induction sha256 a stamped ?_ (fun _ _ => stamped) (fun _ _ _ _ _ => stamped) ?_ ?_
  · intro s' eventID p now _ success
    obtain ⟨events, -, rest⟩ := Except.of_bind success
    obtain ⟨identities, -, rest⟩ := Except.of_bind rest
    cases rest
    exact stamped
  · intro s' eventID identity freshIssue freshEpisode now result _ found did
    have key : identity.eventID = eventID := Table.key_of_find? found
    rw [← key] at found
    cases did with
    | retried _ same _ => exact same ▸ stamped
    | parked _ _ _ _ _ _ _ _ _ parks _ =>
      obtain ⟨_, _, -, rfl⟩ := parkConflict_effects parks
      exact stamped
    | attached _ _ _ issueID _ _ _ _ _ unsettled _ _ steps _ =>
      obtain ⟨ev, -, -, settles⟩ := wf.settles found unsettled steps
      intro i g' present stamp
      rw [settles.groups] at present
      split at present
      · cases present
        unfold settledGroup at stamp ⊢
        split
        · rename_i recurs
          rw [if_pos recurs] at stamp
          cases stamp
        · rename_i notRecurs
          rw [if_neg notRecurs] at stamp
          rcases settles.target with ⟨g, before, -, -⟩ | ⟨absent, -, -⟩
          · have base : baseGroup s issueID ev = g := by simp [baseGroup, before]
            rw [base] at stamp ⊢
            exact stamped issueID g before stamp
          · have base : baseGroup s issueID ev = canonicalIssue issueID ev := by
              simp [baseGroup, absent]
            rw [base] at stamp
            cases stamp
      · exact stamped i g' present stamp
  · intro s' winnerID loserID confirmedBy actor freshEpisode now winner loser _ accepted
    obtain ⟨episodeID, merges⟩ := accepted.merges (wf.unopened accepted.winnerFound)
    intro i g' present stamp
    rw [merges.groups] at present
    split at present
    · cases present
      exact stamped winnerID winner accepted.winnerFound stamp
    · split at present
      · rw [Option.map_eq_some_iff] at present
        obtain ⟨g, -, rfl⟩ := present
        exact Or.inr rfl
      · exact stamped i g' present stamp

section Settlement

variable {s s' : Store} {eventID issueID freshIssue freshEpisode : UUID} {now : Timestamp}
  {g : ErrorGroup} {ev : ErrorEvent} {resolved : Timestamp}

theorem settle_onto (wf : WellFormed s)
    (success : Settle sha256 s eventID freshIssue freshEpisode now =
      .ok (s', ⟨some issueID, .settled⟩))
    (found : s.groups.find? issueID = some g) (foundEvent : s.events.find? eventID = some ev) :
    (s' = s ∧ ev.errorGroupID.isSome) ∨ ∃ identity candidates resolvedFingerprint episodeID,
      s.identities.find? eventID = some identity ∧ identity.eventID = eventID ∧
      g.status ≠ .merged ∧ baseGroup s issueID ev = g ∧
      Settles s s' identity ev candidates resolvedFingerprint issueID episodeID freshIssue
        freshEpisode now := by
  obtain ⟨identity, present, did⟩ := settle_cases success
  have key : identity.eventID = eventID := Table.key_of_find? present
  subst key
  cases did with
  | retried _ same state =>
    refine Or.inl ⟨same, ?_⟩
    rw [wf.handle _ ev identity foundEvent present]
    exact (wf.settled _ identity present).mp state.symm
  | parked _ _ _ _ _ _ _ _ _ _ state => cases state
  | attached _ candidates resolvedFingerprint _ episodeID _ _ _ _ unsettled _ _ steps state =>
    cases state
    obtain ⟨ev', foundEvent', -, settles⟩ := wf.settles present unsettled steps
    rw [foundEvent, Option.some.injEq] at foundEvent'
    subst foundEvent'
    refine Or.inr ⟨identity, candidates, resolvedFingerprint, episodeID, present, rfl, ?_, ?_,
      settles⟩
    · rcases settles.target with ⟨g', found', active, -⟩ | ⟨absent, -, -⟩
      · rw [found, Option.some.injEq] at found'
        exact found' ▸ active
      · rw [found] at absent
        cases absent
    · simp [baseGroup, found]

theorem settle_early (wf : WellFormed s) (stamped : Stamped s)
    (success : Settle sha256 s eventID freshIssue freshEpisode now =
      .ok (s', ⟨some issueID, .settled⟩))
    (found : s.groups.find? issueID = some g) (foundEvent : s.events.find? eventID = some ev)
    (stamp : g.resolvedAt = some resolved) (early : ev.timestamp ≤ resolved) :
    s'.episodes = s.episodes ∧
      ∃ g', s'.groups.find? issueID = some g' ∧ g'.status = g.status ∧
        g'.resolvedAt = g.resolvedAt := by
  rcases settle_onto sha256 wf success found foundEvent with
    ⟨rfl, -⟩ | ⟨_, _, _, _, -, -, active, base, settles⟩
  · exact ⟨rfl, g, found, rfl, rfl⟩
  · have before : ResolvedAfter g ev.timestamp := ⟨resolved, stamp, not_lt.mpr early⟩
    have notRecurs : ¬Recurs g ev := fun recurs => recurs.2 before
    refine ⟨?_, _, by rw [settles.groups, if_pos rfl], ?_⟩
    · cases settles.round with
      | late _ _ same _ => exact same
      | current live _ =>
        rw [base] at live
        have isResolved : g.status = .resolved :=
          (stamped issueID g found (by rw [stamp]; rfl)).resolve_right active
        rcases live with unresolved | recurs
        · exact absurd isResolved unresolved
        · exact absurd recurs notRecurs
    · rw [base, settledGroup, if_neg notRecurs]
      exact ⟨rfl, rfl⟩

theorem settle_later (wf : WellFormed s)
    (success : Settle sha256 s eventID freshIssue freshEpisode now =
      .ok (s', ⟨some issueID, .settled⟩))
    (found : s.groups.find? issueID = some g) (foundEvent : s.events.find? eventID = some ev)
    (free : ev.errorGroupID = none) (isResolved : g.status = .resolved)
    (stamp : g.resolvedAt = some resolved) (later : resolved < ev.timestamp) :
    (∃ g', s'.groups.find? issueID = some g' ∧ g'.status = .new ∧ g'.resolvedAt = none) ∧
    ∃ ep, s'.episodes.rows = ep :: s.episodes.rows ∧ ep.canonicalIssueID = issueID ∧
      ep.closedAt = none ∧
      (∀ old ∈ s.episodes.rows, old.canonicalIssueID = issueID → old.sequence < ep.sequence) ∧
      ∃ i, s'.identities.find? eventID = some i ∧ i.status = .settled ∧
        i.episodeID = some ep.id := by
  rcases settle_onto sha256 wf success found foundEvent with
    ⟨-, attached⟩ | ⟨identity, _, _, episodeID, present, rfl, active, base, settles⟩
  · simp [free] at attached
  · have after : ¬ResolvedAfter g ev.timestamp := by
      rintro ⟨r, stamp', notLater⟩
      rw [stamp, Option.some.injEq] at stamp'
      exact notLater (stamp' ▸ later)
    have recurs : Recurs g ev := ⟨isResolved, after⟩
    refine ⟨⟨_, by rw [settles.groups, if_pos rfl], ?_⟩, ?_⟩
    · rw [base, settledGroup, if_pos recurs]
      exact ⟨rfl, rfl⟩
    · cases settles.round with
      | late _ before _ _ =>
        rw [base] at before
        exact absurd before after
      | current _ opens =>
        cases opens with
        | reused _ isOpen =>
          obtain ⟨ep, isOpen, -⟩ := isOpen
          rw [wf.closed issueID g found isResolved] at isOpen
          cases isOpen
        | opened _ id _ rows =>
          refine ⟨_, rows, rfl, rfl, fun old member own => ?_, _,
            by rw [settles.identity_eq present, if_pos rfl], rfl, by rw [← id]; rfl⟩
          have bound := Episodes.sequence_le_lastSequence member
          rw [own] at bound
          show old.sequence < s.episodes.lastSequence issueID + 1
          omega

end Settlement

namespace Rounds

inductive Action where
  | identity (a : Identity.Action)
  | resolve (p : ErrorGroup → Bool) (reason : String) (now : Timestamp)

def step (s : Store) : Action → Store
  | .identity a => Identity.step sha256 s a
  | .resolve p reason now =>
    s.updateGroups p (resolveGroup reason now) (resolveGroup_id reason now) now

def machine : Transition.Machine Store Action := ⟨step sha256⟩

theorem wellFormed_step (wf : WellFormed s) (a : Action) :
    WellFormed (step sha256 s a) := by
  cases a with
  | identity a => exact wf.step sha256 a
  | resolve p reason now =>
    exact (Lifecycle.writesGroups_updateGroups s p (resolveGroup reason now)
      (resolveGroup_id reason now) now fun _ => ⟨rfl, rfl, rfl, rfl⟩).wellFormed wf

theorem stamped_step (stamped : Stamped s) (wf : WellFormed s) (a : Action) :
    Stamped (step sha256 s a) := by
  cases a with
  | identity a => exact stamped.step sha256 wf a
  | resolve p reason now =>
    intro i g' found stamp
    rw [step, Store.find?_updateGroups, Option.map_eq_some_iff] at found
    obtain ⟨g, before, rfl⟩ := found
    split
    · exact Or.inl rfl
    · rename_i kept
      rw [if_neg kept] at stamp
      exact stamped i g before stamp

theorem advances_step (wf : WellFormed s) (a : Action) :
    s.episodes.Advances (step sha256 s a).episodes := by
  cases a with
  | identity a => exact Identity.advances_step sha256 wf a
  | resolve p reason now => exact advances_updateGroups s p _ _ now

theorem inv_run (start : WellFormed s ∧ Stamped s) (actions : List Action) :
    WellFormed ((machine sha256).run s actions) ∧ Stamped ((machine sha256).run s actions) :=
  (machine sha256).invariant_run (fun s => WellFormed s ∧ Stamped s)
    (fun _ a inv => ⟨wellFormed_step sha256 inv.1 a, stamped_step sha256 inv.2 inv.1 a⟩) start
    actions

theorem advances_run (wf : WellFormed s) (actions : List Action) :
    s.episodes.Advances ((machine sha256).run s actions).episodes :=
  ((machine sha256).invariant_run
    (fun t => WellFormed t ∧ s.episodes.Advances t.episodes)
    (fun _ a inv => ⟨wellFormed_step sha256 inv.1 a, inv.2.trans (advances_step sha256 inv.1 a)⟩)
    ⟨wf, Episodes.Advances.refl _⟩ actions).2

/-- The rules of work rounds, in one state and for what happens next. -/
structure WorkRounds (s : Store) : Prop where
  oneOpen : ∀ a ∈ s.episodes.rows, ∀ b ∈ s.episodes.rows,
    a.canonicalIssueID = b.canonicalIssueID → a.closedAt = none → b.closedAt = none → a = b
  closed : ∀ g ∈ s.groups.rows, g.status = .resolved → ∀ ep ∈ s.episodes.rows,
    ep.canonicalIssueID = g.id → ep.closedAt ≠ none
  distinct : ∀ a ∈ s.episodes.rows, ∀ b ∈ s.episodes.rows,
    a.canonicalIssueID = b.canonicalIssueID → a.sequence = b.sequence → a = b
  increase : ∀ later, s.episodes.Advances ((machine sha256).run s later).episodes
  early : ∀ eventID freshIssue freshEpisode now s' issueID g ev resolved,
    Settle sha256 s eventID freshIssue freshEpisode now = .ok (s', ⟨some issueID, .settled⟩) →
    s.groups.find? issueID = some g → s.events.find? eventID = some ev →
    g.resolvedAt = some resolved → ev.timestamp ≤ resolved →
    s'.episodes = s.episodes ∧ ∃ g', s'.groups.find? issueID = some g' ∧ g'.status = g.status ∧
      g'.resolvedAt = g.resolvedAt
  later : ∀ eventID freshIssue freshEpisode now s' issueID g ev resolved,
    Settle sha256 s eventID freshIssue freshEpisode now = .ok (s', ⟨some issueID, .settled⟩) →
    s.groups.find? issueID = some g → s.events.find? eventID = some ev → ev.errorGroupID = none →
    g.status = .resolved → g.resolvedAt = some resolved → resolved < ev.timestamp →
    (∃ g', s'.groups.find? issueID = some g' ∧ g'.status = .new ∧ g'.resolvedAt = none) ∧
    ∃ ep, s'.episodes.rows = ep :: s.episodes.rows ∧ ep.canonicalIssueID = issueID ∧
      ep.closedAt = none ∧
      (∀ old ∈ s.episodes.rows, old.canonicalIssueID = issueID → old.sequence < ep.sequence) ∧
      ∃ i, s'.identities.find? eventID = some i ∧ i.status = .settled ∧ i.episodeID = some ep.id

/-- Every history of settlements, merges and resolutions keeps the rules of work
rounds. -/
theorem work_rounds (githubRepo : String) (installationID : Option Nat) (actions : List Action) :
    WorkRounds sha256 ((machine sha256).run (Store.empty githubRepo installationID) actions) := by
  obtain ⟨wf, stamped⟩ :=
    inv_run sha256 ⟨wellFormed_empty githubRepo installationID, stamped_empty _ _⟩ actions
  generalize (machine sha256).run (Store.empty githubRepo installationID) actions = s at wf stamped
  refine
    { oneOpen := ?_, closed := ?_, distinct := ?_, increase := advances_run sha256 wf,
      early := ?_, later := ?_ }
  · intro a memA b memB issue openA openB
    exact s.episodes.distinct a memA b memB ⟨issue, Or.inr ⟨openA, openB⟩⟩
  · intro g member resolved ep memEp own isOpen
    have none := wf.closed g.id g (s.groups.find?_key member) resolved
    rw [Episodes.open?_eq_none_iff] at none
    exact none ep memEp own isOpen
  · intro a memA b memB issue sequence
    exact s.episodes.distinct a memA b memB ⟨issue, Or.inl sequence⟩
  · intro _ _ _ _ _ _ _ _ _ success found foundEvent stamp early
    exact settle_early sha256 wf stamped success found foundEvent stamp early
  · intro _ _ _ _ _ _ _ _ _ success found foundEvent free isResolved stamp later
    exact settle_later sha256 wf success found foundEvent free isResolved stamp later

end Rounds

end Opslane.Identity
