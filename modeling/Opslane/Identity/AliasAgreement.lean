import Opslane.Identity.WellFormed

/-!
# Alias agreement

Every observation a run settles stays bound, under each of its fingerprints, to the
issue it counts for, through late symbolication, conflicts and chained merges; and a
settlement touches the identity of its own observation only.
-/

namespace Opslane.Identity

variable (sha256 : String → Vector UInt8 32)

/-- A database of projects: each action goes to one project's store. -/
def database : Transition.Machine (UUID → Store) (UUID × Action) := (machine sha256).pi

/-- No issue and no observation in any project. -/
def emptyDatabase (githubRepo : UUID → String) (installationID : UUID → Option Nat) :
    UUID → Store :=
  fun projectID => Store.empty (githubRepo projectID) (installationID projectID)

variable {s : Store}

theorem wellFormed_run (start : WellFormed s) (actions : List Action) :
    WellFormed ((machine sha256).run s actions) :=
  (machine sha256).invariant_run WellFormed (fun _ a wf => wf.step sha256 a) start actions

theorem wellFormed_database (githubRepo : UUID → String) (installationID : UUID → Option Nat)
    (actions : List (UUID × Action)) (projectID : UUID) :
    WellFormed ((database sha256).run (emptyDatabase githubRepo installationID) actions
      projectID) := by
  rw [database, Transition.Machine.pi_run_apply]
  exact wellFormed_run sha256 (wellFormed_empty _ _) _

theorem step_settle_retry {i : EventIdentity} (member : i ∈ s.identities.rows)
    (done : i.status = .settled ∨ i.status = .conflict) (freshIssue freshEpisode : UUID)
    (now : Timestamp) : step sha256 s (.settle i.eventID freshIssue freshEpisode now) = s := by
  have found := s.identities.find?_key member
  rw [step]
  cases success : Settle sha256 s i.eventID freshIssue freshEpisode now with
  | error e => rfl
  | ok pair =>
    obtain ⟨s', result⟩ := pair
    obtain ⟨identity, found', did⟩ := settle_cases success
    rw [found, Option.some.injEq] at found'
    subst found'
    have notUnsettled : ¬i.Unsettled := by
      rintro (h | h) <;> rcases done with d | d <;> simp [h] at d
    cases did with
    | retried _ same _ => exact same
    | parked _ _ _ _ _ unsettled => exact absurd unsettled notUnsettled
    | attached _ _ _ _ _ _ _ _ _ unsettled => exact absurd unsettled notUnsettled

theorem step_settle_other (wf : WellFormed s) (eventID freshIssue freshEpisode : UUID)
    (now : Timestamp) {other : UUID} (differ : other ≠ eventID) :
    (step sha256 s (.settle eventID freshIssue freshEpisode now)).identities.find? other =
      s.identities.find? other := by
  rw [step]
  cases success : Settle sha256 s eventID freshIssue freshEpisode now with
  | error e => rfl
  | ok pair =>
    obtain ⟨s', result⟩ := pair
    obtain ⟨identity, found, did⟩ := settle_cases success
    have key : identity.eventID = eventID := Table.key_of_find? found
    rw [← key] at found differ
    show s'.identities.find? other = _
    cases did with
    | retried _ same _ => rw [same]
    | parked _ _ _ _ _ _ _ _ _ parks _ =>
      obtain ⟨_, _, -, rfl⟩ := parkConflict_effects parks
      rw [Table.find?_updateKey, if_neg differ]
    | attached _ _ _ _ _ _ _ _ _ unsettled _ _ steps _ =>
      obtain ⟨ev, -, -, settles⟩ := wf.settles found unsettled steps
      rw [settles.identity_eq found, if_neg differ]

/-- In every reachable state a fingerprint names one issue, a settled observation's
fingerprints name its own, a retried settlement is a no-op, and no settlement
changes the issue of another observation. -/
theorem aliases_agree (githubRepo : UUID → String) (installationID : UUID → Option Nat)
    (actions : List (UUID × Action)) (projectID : UUID) :
    let s := (database sha256).run (emptyDatabase githubRepo installationID) actions projectID
    (∀ a ∈ s.fingerprints.rows, ∀ b ∈ s.fingerprints.rows,
      a.identityVersion = b.identityVersion → a.fingerprint = b.fingerprint →
        a.canonicalIssueID = b.canonicalIssueID) ∧
    (∀ i ∈ s.identities.rows, i.status = .settled → ∃ issueID,
      i.canonicalIssueID = some issueID ∧
        s.bound i.identityVersion i.rawFingerprint = some issueID ∧
        ∀ f, i.resolvedFingerprint = some f → s.bound i.identityVersion f = some issueID) ∧
    (∀ i ∈ s.identities.rows, i.status = .settled ∨ i.status = .conflict →
      ∀ freshIssue freshEpisode now,
        step sha256 s (.settle i.eventID freshIssue freshEpisode now) = s) ∧
    (∀ eventID freshIssue freshEpisode now other, other ≠ eventID →
      ((step sha256 s (.settle eventID freshIssue freshEpisode now)).identities.find? other).map
          EventIdentity.canonicalIssueID =
        (s.identities.find? other).map EventIdentity.canonicalIssueID) := by
  intro s
  have wf : WellFormed s := wellFormed_database sha256 githubRepo installationID actions projectID
  refine ⟨?_, ?_, ?_, ?_⟩
  · intro a memA b memB version fingerprint
    have sameKey : a.key = b.key := Prod.ext version fingerprint
    rw [s.fingerprints.inj memA memB sameKey]
  · intro i member settled
    have found := s.identities.find?_key member
    obtain ⟨issueID, canonical⟩ :=
      Option.isSome_iff_exists.mp ((wf.settled _ i found).mp settled)
    exact ⟨issueID, canonical, wf.agree _ i issueID found canonical⟩
  · intro i member done freshIssue freshEpisode now
    exact step_settle_retry sha256 member done freshIssue freshEpisode now
  · intro eventID freshIssue freshEpisode now other differ
    rw [step_settle_other sha256 wf eventID freshIssue freshEpisode now differ]

end Opslane.Identity
