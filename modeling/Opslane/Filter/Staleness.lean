import Opslane.Filter.Evaluation
import Opslane.Identity.Rounds

/-!
# Settled evidence and the filter

The runs of settlements and evaluations of one project, with every other writer of an issue
between them but confirmed merges. Staleness compares two stamps: an event settled with a
stamp no later than the latest decision of its round is looked at again only when something
else makes the round stale.
-/

namespace Opslane.Filter.Staleness

open Latest (latest latest_spec)
open Transition (Machine committed committed_eq)
open Identity (EventIdentity IssueEpisode Episodes WellFormed)

/-- One transaction. -/
inductive Action where
  | lifecycle (a : Identity.Lifecycle.Action)
  | evaluate (episodeID : UUID) (clock now : Timestamp)
  | closeResolvedEpisodes (now : Timestamp)
  | setActionScope (enabled : Bool) (environments : List UUID)

/-- A confirmed merge, which moves settled events between rounds and is no part of this. -/
def Merges : Identity.Lifecycle.Action → Prop
  | .identity (.confirmMerge ..) => True
  | _ => False

instance : DecidablePred Merges := fun a => by
  unfold Merges
  split <;> infer_instance

variable (sha256 : String → Vector UInt8 32)

def step (s : FilterStore) : Action → FilterStore
  | .lifecycle a =>
    if Merges a then s else { s with identity := Identity.Lifecycle.step sha256 s.identity a }
  | .evaluate episodeID clock now => committed s (Evaluate s episodeID clock now)
  | .closeResolvedEpisodes now => Filter.closeResolvedEpisodes s now
  | .setActionScope enabled environments =>
    { s with actionScopeEnabled := enabled, actionEnvironments := environments }

def machine : Machine FilterStore Action := ⟨step sha256⟩

def start (githubRepo : String) (installationID : Option Nat) (sessionOf : UUID → Option UUID) :
    FilterStore where
  identity := Identity.Store.empty githubRepo installationID
  sessionOf
  actionScopeEnabled := false
  actionEnvironments := []
  decisions := []
  evaluations := []

/-- The issue a settlement would attach the event to, where it has one already. -/
def settlesOnto (s : Identity.Store) (eventID : UUID) : Option UUID :=
  match s.identities.find? eventID, s.resolutions.find? eventID with
  | some identity, some resolution =>
    if identity.Unsettled ∧ resolution.status.Terminal then
      match Identity.observationAliases sha256 identity resolution with
      | .ok (candidates, _) =>
        match Identity.distinctIssues
            (Identity.lookupAliases s identity.identityVersion candidates) with
        | [issueID] => if Identity.lockActiveIssue s issueID = .ok () then some issueID else none
        | _ => none
      | .error _ => none
    else none
  | _, _ => none

/-- A settlement that began at `now` joins a round whose latest decision is older, or which
holds an event settled since that decision. -/
def InOrder (s : FilterStore) : Action → Prop
  | .lifecycle (.identity (.settle eventID _ _ now)) =>
    (settlesOnto sha256 s.identity eventID).all fun issueID =>
      (s.identity.episodes.open? issueID).all fun ep =>
        (latestDecision s ep.id).all fun d => d.decidedAt < now ∨ SettledSince s ep.id d
  | _ => True

instance (s : FilterStore) : DecidablePred (InOrder sha256 s) := fun a => by
  unfold InOrder
  split <;> infer_instance

/-- The evaluation that wrote the row, or a later one of its round, read the event. -/
def ReadSince (s : FilterStore) (d : IssueDecision) (eventID : UUID) : Prop :=
  ∃ w ∈ s.evaluations, w.wrote = some d.id ∧
    ∃ e ∈ s.evaluations, e.episodeID = d.episodeID ∧ w.serial ≤ e.serial ∧ eventID ∈ e.read
  deriving Decidable

/-- The settled events of an open round have been read since its latest decision, or the
round is listed at every time: among the rounds returned, or behind a full batch of others. -/
def NothingEscapes (s : FilterStore) : Prop :=
  ∀ ep ∈ s.identity.episodes.rows, ep.closedAt = none →
    ∀ i ∈ s.identity.identities.rows, i.status = .settled → i.episodeID = some ep.id →
      (∃ d ∈ latestDecision s ep.id, ReadSince s d i.eventID) ∨
        ∀ now, ep.id ∈ staleEpisodes s now ∨ (staleEpisodes s now).length = sweepBatchLimit

variable {s : FilterStore} {episodeID : UUID}

theorem latestDecision_spec {d : IssueDecision} (found : latestDecision s episodeID = some d) :
    d ∈ s.decisions ∧ d.episodeID = episodeID := by
  obtain ⟨member, -⟩ := latest_spec found
  simpa [decisionsOf] using member

theorem round_eq {e : Episodes} {a b : IssueEpisode} (memA : a ∈ e.rows) (memB : b ∈ e.rows)
    (same : a.id = b.id) : a = b :=
  e.table.inj memA memB same

/-- What holds between the transactions of every run in order. -/
structure Covered (s : FilterStore) : Prop where
  wellFormed : WellFormed s.identity
  kinds : ∀ i g, s.identity.groups.find? i = some g → g.kind = .error
  /-- A round and the events it holds belong to one issue. -/
  owner : ∀ e i episodeID, s.identity.identities.find? e = some i →
    i.episodeID = some episodeID → ∃ ep ∈ s.identity.episodes.rows, ep.id = episodeID ∧
      i.canonicalIssueID = some ep.canonicalIssueID
  issued : ∀ ep ∈ s.identity.episodes.rows,
    (s.identity.groups.find? ep.canonicalIssueID).isSome
  decided : ∀ d ∈ s.decisions, ∃ ep ∈ s.identity.episodes.rows, ep.id = d.episodeID
  written : ∀ d ∈ s.decisions, ∃ w ∈ s.evaluations, w.wrote = some d.id
  serials : ∀ e ∈ s.evaluations, e.serial < s.evaluations.length
  /-- An event of an open round was read since the latest decision, or one of the round was
  settled since. -/
  standing : ∀ ep ∈ s.identity.episodes.rows, ep.closedAt = none →
    ∀ i ∈ s.identity.identities.rows, i.status = .settled → i.episodeID = some ep.id →
      ∀ d, latestDecision s ep.id = some d → ReadSince s d i.eventID ∨ SettledSince s ep.id d

theorem covered_start (githubRepo : String) (installationID : Option Nat)
    (sessionOf : UUID → Option UUID) : Covered (start githubRepo installationID sessionOf) where
  wellFormed := Identity.wellFormed_empty githubRepo installationID
  kinds := by simp [start, Identity.Store.empty]
  owner := by simp [start, Identity.Store.empty]
  issued := by simp [start, Identity.Store.empty, Identity.Episodes.empty, Episodes.rows,
    Table.empty]
  decided := by simp [start]
  written := by simp [start]
  serials := by simp [start]
  standing := by simp [start, Identity.Store.empty, Identity.Episodes.empty, Episodes.rows,
    Table.empty]

theorem Covered.nothingEscapes (covered : Covered s) : NothingEscapes s := by
  intro ep member isOpen i present settled episode
  have listed : (∀ now, (latestDecision s ep.id).all fun d => d.Outdated s now) →
      ∀ now, ep.id ∈ staleEpisodes s now ∨ (staleEpisodes s now).length = sweepBatchLimit := by
    intro outdated now
    refine listed_of_stale member ⟨isOpen, ?_, outdated now⟩
    obtain ⟨g, found⟩ := Option.isSome_iff_exists.mp (covered.issued ep member)
    rw [found]
    simpa using covered.kinds _ g found
  cases found : latestDecision s ep.id with
  | none => exact Or.inr (listed fun now => by rw [found]; rfl)
  | some d =>
    rcases covered.standing ep member isOpen i present settled episode d found with read | since
    · exact Or.inl ⟨d, rfl, read⟩
    · refine Or.inr (listed fun now => ?_)
      rw [found]
      have own : d.episodeID = ep.id := (latestDecision_spec found).2
      exact decide_eq_true (Or.inr (Or.inr (own ▸ since)))

theorem settledSince_carry {s s' : FilterStore} {d : IssueDecision}
    (kept : ∀ e i, s.identity.identities.find? e = some i → i.status = .settled →
      s'.identity.identities.find? e = some i) (since : SettledSince s episodeID d) :
    SettledSince s' episodeID d := by
  obtain ⟨i, member, episode, settled, later⟩ := since
  have found := kept _ i (s.identity.identities.find?_key member) settled
  exact ⟨i, Table.mem_of_find? found, episode, settled, later⟩

/-- Where an identity found after a transaction comes from: it was there, and if it is
settled it was as it is, or it belongs to no round yet, or it was settled just now. -/
inductive Origin (s s' : FilterStore) (e : UUID) (i' : EventIdentity) : Prop where
  | kept (i : EventIdentity) (found : s.identity.identities.find? e = some i)
      (episode : i'.episodeID = i.episodeID) (issue : i'.canonicalIssueID = i.canonicalIssueID)
      (settled : i'.status = .settled → i' = i)
  | waiting (free : i'.episodeID = none)
  | joined (ep : IssueEpisode) (member : ep ∈ s'.identity.episodes.rows)
      (episode : i'.episodeID = some ep.id)
      (issue : i'.canonicalIssueID = some ep.canonicalIssueID)
      (since : ep.closedAt = none → ∀ d, latestDecision s ep.id = some d →
        SettledSince s' ep.id d)

theorem open_before {before after : Episodes} (advances : before.Advances after)
    {old r : IssueEpisode} (memOld : old ∈ before.rows) (memR : r ∈ after.rows)
    (same : old.id = r.id) (isOpen : r.closedAt = none) : old.closedAt = none := by
  obtain ⟨r', memR', id, -, -, closed⟩ := advances.kept old memOld
  rw [round_eq memR' memR (id.trans same)] at closed
  cases was : old.closedAt with
  | none => rfl
  | some t =>
    rw [was, isOpen] at closed
    cases closed rfl

theorem Covered.carry {s s' : FilterStore} (covered : Covered s)
    (decisions : s'.decisions = s.decisions) (evaluations : s'.evaluations = s.evaluations)
    (wf : WellFormed s'.identity)
    (kinds : ∀ i g, s'.identity.groups.find? i = some g → g.kind = .error)
    (advances : s.identity.episodes.Advances s'.identity.episodes)
    (issued : ∀ ep ∈ s'.identity.episodes.rows,
      (s'.identity.groups.find? ep.canonicalIssueID).isSome)
    (kept : ∀ e i, s.identity.identities.find? e = some i → i.status = .settled →
      s'.identity.identities.find? e = some i)
    (origin : ∀ e i', s'.identity.identities.find? e = some i' → Origin s s' e i') :
    Covered s' := by
  have latest_eq : ∀ episodeID, latestDecision s' episodeID = latestDecision s episodeID := by
    intro episodeID
    unfold latestDecision decisionsOf
    rw [decisions]
  refine
    { wellFormed := wf, kinds, owner := ?_, issued, decided := ?_, written := ?_, serials := ?_,
      standing := ?_ }
  · intro e i' episodeID found episode
    cases origin e i' found with
    | kept i before sameEpisode sameIssue _ =>
      obtain ⟨ep, member, id, issue⟩ := covered.owner e i episodeID before (sameEpisode ▸ episode)
      obtain ⟨r, memR, idR, issueR, -⟩ := advances.kept ep member
      exact ⟨r, memR, idR.trans id, by rw [sameIssue, issue, issueR]⟩
    | waiting free =>
      rw [free] at episode
      cases episode
    | joined ep member own issue _ =>
      rw [own, Option.some.injEq] at episode
      exact ⟨ep, member, episode, issue⟩
  · intro d member
    rw [decisions] at member
    obtain ⟨ep, memEp, id⟩ := covered.decided d member
    obtain ⟨r, memR, idR, -⟩ := advances.kept ep memEp
    exact ⟨r, memR, idR.trans id⟩
  · rw [decisions, evaluations]
    exact covered.written
  · rw [evaluations]
    exact covered.serials
  · intro ep member isOpen i' present settled episode d found
    rw [latest_eq] at found
    have foundIdentity := s'.identity.identities.find?_key present
    cases origin _ i' foundIdentity with
    | kept i before sameEpisode sameIssue same =>
      cases same settled
      obtain ⟨old, memOld, id, -⟩ := covered.owner _ i' ep.id before episode
      have was := open_before advances memOld member id isOpen
      rw [← id] at episode found ⊢
      rcases covered.standing old memOld was i' (Table.mem_of_find? before) settled episode d found
        with read | since
      · refine Or.inl ?_
        unfold ReadSince
        rw [evaluations]
        exact read
      · exact Or.inr (settledSince_carry kept since)
    | waiting free =>
      rw [free] at episode
      cases episode
    | joined own memOwn ownEpisode _ since =>
      rw [ownEpisode, Option.some.injEq] at episode
      cases round_eq memOwn member episode
      exact Or.inr (since isOpen d found)

variable {resolution : Identity.EventResolution} {result : Identity.Result} {now : Timestamp}

theorem settle_terminal {s s' : Identity.Store} {eventID freshIssue freshEpisode : UUID}
    {identity : EventIdentity}
    (success : Identity.Settle sha256 s eventID freshIssue freshEpisode now = .ok (s', result))
    (found : s.identities.find? eventID = some identity) (unsettled : identity.Unsettled)
    (resolved : s.resolutions.find? eventID = some resolution) : resolution.status.Terminal := by
  unfold Identity.Settle at success
  rw [found, resolved] at success
  simp only [Option.orError, bind, Except.bind] at success
  by_contra waiting
  rcases unsettled with status | status
  · simp [status, waiting] at success
  · simp [status, waiting] at success

variable {resolvedFingerprint : String}

theorem settlesOnto_eq_some {s : Identity.Store} {eventID issueID : UUID} {identity : EventIdentity}
    {candidates : List Identity.CandidateAlias} (found : s.identities.find? eventID = some identity)
    (unsettled : identity.Unsettled) (resolved : s.resolutions.find? eventID = some resolution)
    (terminal : resolution.status.Terminal)
    (aliases : Identity.observationAliases sha256 identity resolution =
      .ok (candidates, resolvedFingerprint)) (distinct : Identity.distinctIssues
      (Identity.lookupAliases s identity.identityVersion candidates) = [issueID])
    (active : Identity.lockActiveIssue s issueID = .ok ()) :
    settlesOnto sha256 s eventID = some issueID := by
  simp only [settlesOnto, found, resolved, if_pos (And.intro unsettled terminal), aliases,
    distinct, if_pos active]

variable {s' : Identity.Store}

theorem Covered.attach (covered : Covered s) {identity : EventIdentity} {ev : ErrorEvent}
    {candidates : List Identity.CandidateAlias} {issueID episodeID freshIssue freshEpisode : UUID}
    (wf : WellFormed s') (unsettled : identity.Unsettled)
    (found : s.identity.identities.find? identity.eventID = some identity)
    (settles : Identity.Settles s.identity s' identity ev candidates resolvedFingerprint issueID
      episodeID freshIssue freshEpisode now)
    (inOrder : ∀ ep, s.identity.episodes.open? issueID = some ep →
      (s.identity.groups.find? issueID).isSome → ∀ d, latestDecision s ep.id = some d →
        d.decidedAt < now ∨ SettledSince s ep.id d) :
    Covered { s with identity := s' } := by
  have identities := settles.identity_eq found
  have kept : ∀ e i, s.identity.identities.find? e = some i → i.status = .settled →
      s'.identities.find? e = some i := by
    intro e i before settled
    rw [identities, if_neg ?_]
    · exact before
    · rintro rfl
      rw [found, Option.some.injEq] at before
      exact unsettled.ne_settled (before ▸ settled)
  have base : ∀ g, s.identity.groups.find? issueID = some g →
      Identity.baseGroup s.identity issueID ev = g := by
    intro g present
    simp [Identity.baseGroup, present]
  have kept_present : ∀ j, (s.identity.groups.find? j).isSome → (s'.groups.find? j).isSome := by
    intro j present
    rw [settles.groups]
    split
    · rfl
    · exact present
  refine covered.carry rfl rfl wf ?_ ?_ ?_ kept ?_
  · intro j g' present
    rw [settles.groups] at present
    split at present
    · cases present
      have sameKind : ∀ g, (Identity.settledGroup ev s'.affectedUsers g).kind = g.kind := by
        intro g
        unfold Identity.settledGroup
        split <;> rfl
      rw [sameKind]
      unfold Identity.baseGroup
      cases before : s.identity.groups.find? issueID with
      | none => rfl
      | some g => exact covered.kinds _ g before
    · exact covered.kinds j g' present
  · cases settles.round with
    | late _ _ same _ => exact same ▸ Episodes.Advances.refl _
    | current _ opens => exact opens.advances
  · intro ep member
    have old : ep ∈ s.identity.episodes.rows → (s'.groups.find? ep.canonicalIssueID).isSome :=
      fun memOld => kept_present _ (covered.issued ep memOld)
    have round := settles.round
    cases round with
    | late _ _ same _ => exact old (same ▸ member)
    | current _ opens =>
      cases opens with
      | reused same _ => exact old (same ▸ member)
      | opened _ _ _ rows =>
        simp only [rows, List.mem_cons] at member
        rcases member with rfl | member
        · rw [settles.groups, if_pos rfl]
          rfl
        · exact old member
  · intro e i' after
    simp only [identities] at after
    split at after
    · cases after
      have since : ∀ ep : IssueEpisode, ep.id = episodeID → ∀ d : IssueDecision,
          d.decidedAt < now → SettledSince { s with identity := s' } ep.id d := by
        intro ep id d earlier
        refine ⟨_, Table.mem_of_find? (by rw [identities, if_pos rfl]), ?_, rfl, ?_⟩
        · rw [id]
          rfl
        · simpa [Identity.settledIdentity] using earlier
      have round := settles.round
      cases round with
      | late resolved _ same last =>
        obtain ⟨ep, last, id⟩ := last
        have member : ep ∈ s.identity.episodes.rows := List.mem_of_find?_eq_some last
        have chosen := List.find?_some last
        rw [decide_eq_true_eq] at chosen
        have own := chosen.1
        refine .joined ep (same ▸ member) (id ▸ rfl) (own ▸ rfl) fun isOpen => ?_
        cases present : s.identity.groups.find? issueID with
        | none =>
          simp only [Identity.baseGroup, present, Option.getD_none] at resolved
          cases resolved
        | some g =>
          rw [base g present] at resolved
          have closed := covered.wellFormed.closed issueID g present resolved
          rw [Episodes.open?_eq_none_iff] at closed
          exact absurd isOpen (closed ep member own)
      | current _ opens =>
        cases opens with
        | reused same isOpen =>
          obtain ⟨ep, isOpen, id⟩ := isOpen
          obtain ⟨member, own, -⟩ := (Episodes.open?_eq_some_iff _ _ _).mp isOpen
          refine .joined ep (same ▸ member) (id ▸ rfl) (own ▸ rfl) fun _ d latest => ?_
          rcases inOrder ep isOpen (own ▸ covered.issued ep member) d latest with earlier | before
          · exact since ep id d earlier
          · exact settledSince_carry kept before
        | opened _ id free rows =>
          refine .joined _ (rows ▸ List.mem_cons_self) (id ▸ rfl) rfl fun _ d latest => ?_
          obtain ⟨member, own⟩ := latestDecision_spec latest
          obtain ⟨ep, memEp, taken⟩ := covered.decided d member
          have present := s.identity.episodes.table.find?_key memEp
          rw [taken, own, free] at present
          cases present
    · exact .kept i' after rfl rfl fun _ => rfl

theorem Covered.settle (covered : Covered s) {eventID freshIssue freshEpisode : UUID}
    (success : Identity.Settle sha256 s.identity eventID freshIssue freshEpisode now =
      .ok (s', result)) (wf : WellFormed s')
    (inOrder : InOrder sha256 s (.lifecycle (.identity (.settle eventID freshIssue freshEpisode
      now)))) :
    Covered { s with identity := s' } := by
  obtain ⟨identity, found, did⟩ := Identity.settle_cases success
  have key : identity.eventID = eventID := Table.key_of_find? found
  subst key
  cases did with
  | retried _ same _ =>
    rw [same]
    exact covered
  | parked resolution candidates resolvedFingerprint a b unsettled _ _ _ parks _ =>
    obtain ⟨_, _, -, rfl⟩ := Identity.parkConflict_effects parks
    refine covered.carry rfl rfl wf covered.kinds (Episodes.Advances.refl _) covered.issued ?_ ?_
    · intro e i before settled
      simp only [Table.find?_updateKey]
      split
      · rename_i own
        subst own
        rw [found, Option.some.injEq] at before
        exact absurd (before ▸ settled) unsettled.ne_settled
      · exact before
    · intro e i' after
      simp only [Table.find?_updateKey] at after
      split at after
      · rename_i own
        subst own
        rw [found, Option.map_some, Option.some.injEq] at after
        subst after
        refine .kept identity found rfl rfl fun settled => ?_
        cases settled
      · exact .kept i' after rfl rfl fun _ => rfl
  | attached resolution candidates resolvedFingerprint issueID episodeID s₁ s₂ s₃ s₄ unsettled
      resolved aliases steps _ =>
    obtain ⟨ev, -, -, settles⟩ := covered.wellFormed.settles found unsettled steps
    refine covered.attach wf unsettled found settles fun ep isOpen present d latest => ?_
    have terminal := settle_terminal sha256 success found unsettled resolved
    have bound : ∃ g, s.identity.groups.find? issueID = some g ∧ g.status ≠ .merged ∧
        ∃ c ∈ candidates,
          s.identity.bound identity.identityVersion c.fingerprint = some issueID := by
      rcases settles.target with known | ⟨absent, -, -⟩
      · exact known
      · rw [absent] at present
        cases present
    obtain ⟨g, foundGroup, active, member⟩ := bound
    have distinct : Identity.distinctIssues (Identity.lookupAliases s.identity
        identity.identityVersion candidates) = [issueID] := by
      have listed := (Identity.mem_distinctIssues s.identity identity.identityVersion candidates
        issueID).mpr member
      have single := steps.single
      generalize Identity.distinctIssues (Identity.lookupAliases s.identity
        identity.identityVersion candidates) = issues at listed single
      cases issues with
      | nil => cases listed
      | cons i rest =>
        obtain rfl := List.length_eq_zero_iff.mp (Nat.le_zero.mp (Nat.le_of_succ_le_succ single))
        rw [List.mem_singleton.mp listed]
    have onto := settlesOnto_eq_some sha256 found unsettled resolved terminal aliases distinct
      ((Identity.lockActiveIssue_eq_ok_iff _ _).mpr ⟨g, foundGroup, active⟩)
    simpa [InOrder, onto, isOpen, latest] using inOrder

/-- A write that selects issues of the same kinds and moves their rounds forward. -/
structure KeepsKinds (s s' : Identity.Store) : Prop where
  kinds : ∀ i g', s'.groups.find? i = some g' → ∃ g, s.groups.find? i = some g ∧ g'.kind = g.kind
  advances : s.episodes.Advances s'.episodes
  issued : ∀ ep ∈ s'.episodes.rows, ∃ old ∈ s.episodes.rows,
    old.canonicalIssueID = ep.canonicalIssueID

theorem KeepsKinds.refl (s : Identity.Store) : KeepsKinds s s :=
  ⟨fun _ g found => ⟨g, found, rfl⟩, Episodes.Advances.refl _, fun ep member => ⟨ep, member, rfl⟩⟩

theorem keepsKinds_updateGroups (s : Identity.Store) (p : ErrorGroup → Bool)
    (f : ErrorGroup → ErrorGroup) (frame : ∀ g, (f g).id = g.id) (now : Timestamp)
    (keeps : ∀ g, (f g).kind = g.kind) : KeepsKinds s (s.updateGroups p f frame now) := by
  refine ⟨?_, Identity.advances_updateGroups s p f frame now, ?_⟩
  · intro i g' found
    rw [Identity.Store.find?_updateGroups, Option.map_eq_some_iff] at found
    obtain ⟨g, before, rfl⟩ := found
    refine ⟨g, before, ?_⟩
    split
    · exact keeps g
    · rfl
  · have fold : ∀ (updated : List ErrorGroup) (e : Episodes),
        ∀ ep ∈ (updated.foldl (Identity.Store.closeOnResolution f now) e).rows,
          ∃ old ∈ e.rows, old.canonicalIssueID = ep.canonicalIssueID := by
      intro updated
      induction updated with
      | nil => exact fun e ep member => ⟨ep, member, rfl⟩
      | cons g rest ih =>
        intro e ep member
        obtain ⟨mid, memMid, sameMid⟩ := ih _ ep member
        unfold Identity.Store.closeOnResolution at memMid
        split at memMid
        · obtain ⟨old, memOld, rfl⟩ := (Episodes.mem_closeWhere _ _ _ _).mp memMid
          refine ⟨old, memOld, ?_⟩
          rw [← sameMid]
          split <;> rfl
        · exact ⟨mid, memMid, sameMid⟩
    exact fold _ _

theorem keepsKinds_processPRWebhook (s : Identity.Store) (w : Delivery.PRWebhook)
    (now : Timestamp) : KeepsKinds s (Identity.processPRWebhook s w now) := by
  refine ⟨?_, Episodes.Advances.refl _, fun ep member => ⟨ep, member, rfl⟩⟩
  intro i g' found
  rcases Delivery.processPRWebhook_groups s.groups s.pr w now i with same | ⟨-, g, before, h⟩
  · exact ⟨g', same ▸ found, rfl⟩
  · refine ⟨g, before, ?_⟩
    rcases h with ⟨-, -, after⟩ | ⟨-, -, after⟩
    · cases found.symm.trans after
      unfold Delivery.closeUnmerged
      split <;> rfl
    · cases found.symm.trans after
      rfl

theorem keepsKinds_step (s : Identity.Store) (a : Identity.Lifecycle.Action)
    (outside : ∀ i, a ≠ .identity i) : KeepsKinds s (Identity.Lifecycle.step sha256 s a) := by
  have self := KeepsKinds.refl s
  cases a with
  | identity i => exact absurd rfl (outside i)
  | resolveErrorGroup groupID now =>
    rw [Identity.Lifecycle.step]
    unfold Identity.ResolveErrorGroup
    split
    · exact self
    · split
      · exact self
      · split
        · exact self
        · exact keepsKinds_updateGroups _ _ _ _ _ fun _ => rfl
  | archiveErrorGroup groupID now =>
    rw [Identity.Lifecycle.step]
    unfold Identity.ArchiveErrorGroup
    split
    · exact self
    · split
      · exact self
      · split
        · exact self
        · exact keepsKinds_updateGroups _ _ _ _ _ fun _ => rfl
  | unarchiveErrorGroup groupID now =>
    rw [Identity.Lifecycle.step]
    unfold Identity.UnarchiveErrorGroup
    split
    · exact self
    · split
      · exact self
      · split
        · exact self
        · exact keepsKinds_updateGroups _ _ _ _ _ fun _ => rfl
  | resolveSilentMergedGroups now => exact keepsKinds_updateGroups _ _ _ _ _ fun _ => rfl
  | resolveInactiveGroups ageDays now => exact keepsKinds_updateGroups _ _ _ _ _ fun _ => rfl
  | processPRWebhook w now => exact keepsKinds_processPRWebhook s w now
  | updateGroupStatus groupID status fields leaseID now =>
    rcases committed_eq s (Identity.updateGroupStatus s groupID status fields leaseID now)
      with same | ok
    · rw [Identity.Lifecycle.step, same]
      exact self
    · obtain ⟨_, -, rest⟩ := Except.of_bind ok
      rw [Except.ok.injEq] at rest
      rw [Identity.Lifecycle.step, ← rest]
      exact keepsKinds_updateGroups _ _ _ _ _ fun _ => rfl
  | finalizeDelivery groupID input now =>
    rcases committed_eq s (Identity.finalizeDelivery s groupID input now) with same | ok
    · rw [Identity.Lifecycle.step, same]
      exact self
    · obtain ⟨g, -, rest⟩ := Except.of_bind ok
      rw [Except.ite_error_eq_ok_iff, Except.ok.injEq] at rest
      have writes := keepsKinds_updateGroups s (fun r => r.id = groupID)
        (Delivery.deliver input now) (Delivery.deliver_id input now) now fun _ => rfl
      rw [Identity.Lifecycle.step, ← rest.2]
      exact ⟨writes.kinds, writes.advances, writes.issued⟩
  | investigate job => exact ⟨self.kinds, self.advances, self.issued⟩
  | publish episodeID => exact ⟨self.kinds, self.advances, self.issued⟩
  | deliverDigestItem groupID => exact ⟨self.kinds, self.advances, self.issued⟩
  | recordFrictionSignal signal => exact ⟨self.kinds, self.advances, self.issued⟩

theorem Covered.writes (covered : Covered s) (identities : s'.identities = s.identity.identities)
    (present : ∀ i, (s'.groups.find? i).isSome = (s.identity.groups.find? i).isSome)
    (wf : WellFormed s') (keeps : KeepsKinds s.identity s') : Covered { s with identity := s' } := by
  refine covered.carry rfl rfl wf ?_ keeps.advances ?_ ?_ ?_
  · intro i g' found
    obtain ⟨g, before, same⟩ := keeps.kinds i g' found
    exact same.trans (covered.kinds i g before)
  · intro ep member
    obtain ⟨old, memOld, same⟩ := keeps.issued ep member
    rw [present, ← same]
    exact covered.issued old memOld
  · intro e i before _
    simpa only [identities] using before
  · intro e i' after
    simp only [identities] at after
    exact .kept i' after rfl rfl fun _ => rfl

theorem Covered.closeResolved (covered : Covered s) (now : Timestamp) :
    Covered (closeResolvedEpisodes s now) := by
  have keeps : KeepsKinds s.identity (closeResolvedEpisodes s now).identity := by
    refine ⟨fun i g found => ⟨g, found, rfl⟩, ⟨?_, ?_⟩, ?_⟩
    · intro old member
      refine ⟨_, (Episodes.mem_closeWhere _ _ _ _).mpr ⟨old, member, rfl⟩, ?_⟩
      split
      · rename_i selected
        simp only [decide_eq_true_eq] at selected
        exact ⟨rfl, rfl, rfl, fun done => by simp [selected.1] at done⟩
      · exact ⟨rfl, rfl, rfl, fun _ => rfl⟩
    · intro r member
      obtain ⟨old, memOld, rfl⟩ := (Episodes.mem_closeWhere _ _ _ _).mp member
      refine Or.inl ⟨old, memOld, ?_⟩
      split <;> exact ⟨rfl, rfl, rfl⟩
    · intro ep member
      obtain ⟨old, memOld, rfl⟩ := (Episodes.mem_closeWhere _ _ _ _).mp member
      refine ⟨old, memOld, ?_⟩
      split <;> rfl
  have wf := covered.wellFormed
  refine covered.writes rfl (fun _ => rfl) { wf with closed := ?_ } keeps
  intro i g found resolved
  simp only [Episodes.open?_closeWhere, wf.closed i g found resolved]
  rfl

theorem mem_episodeEvents (wf : WellFormed s.identity) {i : EventIdentity}
    (present : i ∈ s.identity.identities.rows) (episode : i.episodeID = some episodeID) :
    i.eventID ∈ (episodeEvents s episodeID).map EpisodeEvent.eventID := by
  obtain ⟨ev, found, -⟩ := wf.eventOf (s.identity.identities.find?_key present)
  rw [episodeEvents, List.mem_map]
  have key : ev.id = i.eventID := Table.key_of_find? found
  refine ⟨_, List.mem_filterMap.mpr ⟨i, ?_, by rw [found]; rfl⟩, key⟩
  rw [Table.mem_select]
  exact ⟨s.identity.identities.find?_key present, decide_eq_true episode⟩

theorem evaluate_spec {s s' : FilterStore} {clock now : Timestamp}
    (success : Evaluate s episodeID clock now = .ok s') :
    (∃ ep ∈ s.identity.episodes.rows, ep.id = episodeID) ∧ ∃ appended : Option IssueDecision,
      (∀ d ∈ appended, d.episodeID = episodeID) ∧
      s' = { s with
        decisions := appended.toList ++ s.decisions
        evaluations := ⟨s.evaluations.length, episodeID,
          (episodeEvents s episodeID).map EpisodeEvent.eventID,
          appended.map IssueDecision.id⟩ :: s.evaluations } := by
  unfold Evaluate at success
  split at success
  · cases success
  · rename_i present
    simp only [Option.isNone_iff_eq_none] at present
    obtain ⟨ep, found⟩ := Option.ne_none_iff_exists'.mp present
    rw [Except.ok.injEq] at success
    refine ⟨⟨ep, Table.mem_of_find? found, Table.key_of_find? found⟩, _, ?_, success.symm⟩
    intro d member
    unfold appendIfChanged at member
    split at member
    · cases member
    · cases member
      rfl

theorem Covered.evaluate {s s' : FilterStore} (covered : Covered s) {clock now : Timestamp}
    (success : Evaluate s episodeID clock now = .ok s') : Covered s' := by
  obtain ⟨known, appended, own, rfl⟩ := evaluate_spec success
  set evaluation : Evaluation := ⟨s.evaluations.length, episodeID,
    (episodeEvents s episodeID).map EpisodeEvent.eventID, appended.map IssueDecision.id⟩
  have written : ∀ d ∈ appended.toList ++ s.decisions,
      ∃ w ∈ evaluation :: s.evaluations, w.wrote = some d.id := by
    intro d member
    rcases List.mem_append.mp member with new | old
    · rw [Option.mem_toList] at new
      refine ⟨evaluation, List.mem_cons_self, ?_⟩
      show appended.map IssueDecision.id = some d.id
      rw [new]
      rfl
    · obtain ⟨w, memW, wrote⟩ := covered.written d old
      exact ⟨w, List.mem_cons_of_mem _ memW, wrote⟩
  have serials : ∀ e ∈ evaluation :: s.evaluations, e.serial < s.evaluations.length + 1 := by
    intro e member
    rcases List.mem_cons.mp member with rfl | old
    · exact Nat.lt_succ_self _
    · exact Nat.lt_succ_of_lt (covered.serials e old)
  refine
    { wellFormed := covered.wellFormed, kinds := covered.kinds, owner := covered.owner,
      issued := covered.issued, decided := ?_, written, serials, standing := ?_ }
  · intro d member
    rcases List.mem_append.mp member with new | old
    · rw [Option.mem_toList] at new
      rw [own d new]
      exact known
    · exact covered.decided d old
  · intro ep member isOpen i present settled episode d found
    by_cases mine : ep.id = episodeID
    · -- the evaluation just made read the event, and it is the last of all
      obtain ⟨memD, ownD⟩ := latestDecision_spec found
      obtain ⟨w, memW, wrote⟩ := written d memD
      refine Or.inl ⟨w, memW, wrote, evaluation, List.mem_cons_self, ?_, ?_, ?_⟩
      · exact mine.symm.trans ownD.symm
      · exact Nat.lt_succ_iff.mp (serials w memW)
      · exact mem_episodeEvents covered.wellFormed present (mine ▸ episode)
    · have others : appended.toList.filter (fun d => d.episodeID = ep.id) = [] := by
        rw [List.filter_eq_nil_iff]
        intro d' new
        rw [Option.mem_toList] at new
        simpa [own d' new] using Ne.symm mine
      have same : latestDecision s ep.id = some d := by
        rw [← found]
        simp only [latestDecision, decisionsOf, List.filter_append, others, List.nil_append]
      rcases covered.standing ep member isOpen i present settled episode d same with read | since
      · obtain ⟨w, memW, wrote, e, memE, rest⟩ := read
        exact Or.inl ⟨w, List.mem_cons_of_mem _ memW, wrote, e, List.mem_cons_of_mem _ memE, rest⟩
      · exact Or.inr since

theorem Covered.identity {s : FilterStore} (covered : Covered s) (a : Identity.Action)
    (wf : WellFormed (Identity.step sha256 s.identity a)) (single : ¬Merges (.identity a))
    (unsettling : ∀ eventID freshIssue freshEpisode now,
      a ≠ .settle eventID freshIssue freshEpisode now) :
    Covered { s with identity := Identity.step sha256 s.identity a } := by
  revert wf
  refine Identity.step_induction sha256 a
    (motive := fun t => WellFormed t → Covered { s with identity := t }) (fun _ => covered)
    ?_ ?_ ?_ ?_ ?_
  · intro s' eventID p now _ success wf
    obtain ⟨events, -, rest⟩ := Except.of_bind success
    obtain ⟨identities, inserted, rest⟩ := Except.of_bind rest
    rw [Option.orError_eq_ok_iff] at inserted
    cases rest
    have after := Table.find?_insert? inserted
    have free := (Table.insert?_spec inserted).1
    refine covered.carry rfl rfl wf covered.kinds (Episodes.Advances.refl _) covered.issued ?_ ?_
    · intro e j before _
      rw [after, if_neg ?_]
      · exact before
      · intro same
        rw [same, Identity.CaptureParams.identity_eventID] at before
        rw [Identity.CaptureParams.identity_eventID, before] at free
        cases free
    · intro e j' found
      simp only [after] at found
      split at found
      · cases found
        exact .waiting rfl
      · exact .kept j' found rfl rfl fun _ => rfl
  · intro t _ wf
    exact covered.carry rfl rfl wf covered.kinds (Episodes.Advances.refl _) covered.issued
      (fun _ _ before _ => before) fun _ j' found => .kept j' found rfl rfl fun _ => rfl
  · intro p status claimedAt waiting kinds wf
    have unsettled : status ≠ .settled := by
      rcases kinds with rfl | rfl <;> simp
    refine covered.carry rfl rfl wf covered.kinds (Episodes.Advances.refl _) covered.issued ?_ ?_
    · intro e j before settled
      simp only [Table.find?_updateWhere, before, Option.map_some]
      rw [if_neg fun selected => (waiting j selected).ne_settled settled]
    · intro e j' found
      simp only [Table.find?_updateWhere, Option.map_eq_some_iff] at found
      obtain ⟨j, before, rfl⟩ := found
      refine .kept j before ?_ ?_ ?_
      · split <;> rfl
      · split <;> rfl
      · split
        · exact fun settled => absurd settled unsettled
        · exact fun _ => rfl
  · intro s' eventID identity freshIssue freshEpisode now result settles
    exact absurd settles (unsettling eventID freshIssue freshEpisode now)
  · rintro s' winnerID loserID confirmedBy actor freshEpisode now winner loser rfl
    exact absurd trivial single

theorem Covered.step {s : FilterStore} (covered : Covered s) (a : Action)
    (inOrder : InOrder sha256 s a) : Covered (step sha256 s a) := by
  cases a with
  | lifecycle a =>
    rw [Staleness.step]
    by_cases merges : Merges a
    · rw [if_pos merges]
      exact covered
    rw [if_neg merges]
    have wf := Identity.Lifecycle.wellFormed_step sha256 covered.wellFormed a
    by_cases outside : ∀ i, a ≠ .identity i
    · have writes := Identity.Lifecycle.writesGroups_step sha256 s.identity a outside
      exact covered.writes writes.identities writes.present wf
        (keepsKinds_step sha256 s.identity a outside)
    simp only [not_forall, not_not] at outside
    obtain ⟨i, rfl⟩ := outside
    by_cases settles : ∃ eventID freshIssue freshEpisode now,
        i = .settle eventID freshIssue freshEpisode now
    · obtain ⟨eventID, freshIssue, freshEpisode, now, rfl⟩ := settles
      rw [Identity.Lifecycle.step, Identity.step] at wf ⊢
      cases success : Identity.Settle sha256 s.identity eventID freshIssue freshEpisode now with
      | error message => exact covered
      | ok pair =>
        rw [success] at wf
        exact covered.settle sha256 success wf inOrder
    · simp only [not_exists] at settles
      exact covered.identity sha256 i wf merges settles
  | evaluate episodeID clock now =>
    rcases committed_eq s (Evaluate s episodeID clock now) with same | success
    · rw [Staleness.step, same]
      exact covered
    · exact covered.evaluate success
  | closeResolvedEpisodes now => exact covered.closeResolved now
  | setActionScope enabled environments =>
    exact ⟨covered.wellFormed, covered.kinds, covered.owner, covered.issued, covered.decided,
      covered.written, covered.serials, covered.standing⟩

/-- Where every settlement is in order, every settled event of an open round has been read
since the round's latest decision or the sweep lists the round. -/
theorem settled_evidence_read (githubRepo : String) (installationID : Option Nat)
    (sessionOf : UUID → Option UUID) (actions : List Action)
    (guarded : (machine sha256).Guarded (InOrder sha256)
      (start githubRepo installationID sessionOf) actions) :
    NothingEscapes ((machine sha256).run (start githubRepo installationID sessionOf) actions) :=
  ((machine sha256).invariant_guarded Covered
    (fun _ a covered inOrder => covered.step sha256 a inOrder)
    (covered_start githubRepo installationID sessionOf) guarded).nothingEscapes

/-- An event without a source map, as far as the claim of its settlement. -/
def observe (eventID : UUID) (now : Timestamp) : List Action :=
  [.lifecycle (.identity (.capture eventID
      ⟨1, none, "TypeError", "x is undefined", "javascript", some eventID,
        ⟨"fingerprint", by decide⟩⟩ now)),
    .lifecycle (.identity (.recordResolution eventID .noMap none now)),
    .lifecycle (.identity (.claim [] now))]

def settleAt (eventID freshIssue freshEpisode : UUID) (now : Timestamp) : Action :=
  .lifecycle (.identity (.settle eventID freshIssue freshEpisode now))

def inTurn : List Action :=
  observe 1 10 ++ [settleAt 1 100 200 20, .evaluate 200 30 30] ++ observe 2 40 ++
    [settleAt 2 101 201 50, .evaluate 200 60 60]

theorem settled_evidence_read_in_turn :
    NothingEscapes ((machine fun _ => Vector.replicate 32 0).run
      (start "acme/shop" none fun _ => none) inTurn) :=
  settled_evidence_read _ "acme/shop" none _ inTurn (by decide +kernel)

/-- The second settlement begins at 50 and commits after an evaluation that began at 60. -/
def overtaken : List Action :=
  observe 1 10 ++ [settleAt 1 100 200 20] ++ observe 2 40 ++
    [.evaluate 200 60 60, settleAt 2 101 201 50]

/-- Nothing lists the round of an event settled across an evaluation. -/
theorem settled_evidence_escapes : ¬∀ actions, NothingEscapes
    ((machine fun _ => Vector.replicate 32 0).run (start "acme/shop" none fun _ => none)
      actions) := by
  intro all
  have escaped := all overtaken
  generalize reached : (machine fun _ => Vector.replicate 32 0).run
    (start "acme/shop" none fun _ => none) overtaken = s at escaped
  have unread : ∃ ep ∈ s.identity.episodes.rows, ep.closedAt = none ∧
      ∃ i ∈ s.identity.identities.rows, i.status = .settled ∧ i.episodeID = some ep.id ∧
        (¬∃ d ∈ latestDecision s ep.id, ReadSince s d i.eventID) ∧
        ep.id ∉ staleEpisodes s 70 ∧ (staleEpisodes s 70).length ≠ sweepBatchLimit := by
    subst reached
    decide +kernel
  obtain ⟨ep, member, isOpen, i, present, settled, episode, unseen, unlisted, spare⟩ := unread
  rcases escaped ep member isOpen i present settled episode with read | listed
  · exact unseen read
  · exact (listed 70).elim unlisted spare

end Opslane.Filter.Staleness
