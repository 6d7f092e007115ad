import Opslane.Identity.WellFormed

/-!
# Parked observations

A conflict row names the two issues an observation's fingerprints were bound to when
it was parked. A merge puts an observation back into settlement when such a row names
exactly the two issues being merged, while earlier merges may have redirected either
fingerprint since. On the runs where the rows still name them, no observation stays
parked once its fingerprints agree.
-/

namespace Opslane.Identity

variable (sha256 : String → Vector UInt8 32)

/-- The issue the raw fingerprint of an observation is bound to. -/
def rawIssue (s : Store) (i : EventIdentity) : Option UUID := s.bound i.identityVersion i.rawFingerprint

/-- The issue its resolved fingerprint is bound to. -/
def resolvedIssue (s : Store) (i : EventIdentity) : Option UUID :=
  i.resolvedFingerprint.bind (s.bound i.identityVersion)

/-- Both fingerprints point at one issue. -/
def AliasesAgree (s : Store) (i : EventIdentity) : Prop :=
  (rawIssue s i).isSome ∧ rawIssue s i = resolvedIssue s i
  deriving Decidable

/-- One fingerprint points at each of the two issues. -/
def Splits (s : Store) (i : EventIdentity) (winnerID loserID : UUID) : Prop :=
  (rawIssue s i = some winnerID ∧ resolvedIssue s i = some loserID) ∨
    (rawIssue s i = some loserID ∧ resolvedIssue s i = some winnerID)
  deriving Decidable

/-- A conflict row of the observation names the two issues. -/
def NamedFor (t : Table AliasConflict.key) (winnerID loserID eventID : UUID) : Prop :=
  ∃ c ∈ t.rows, c.eventID = eventID ∧ c.status ≠ .dismissed ∧ Names c winnerID loserID
  deriving Decidable

/-- Every parked observation a merge is about to unite is named by its conflict row. -/
def NamesUnited (s : Store) : Action → Prop
  | .confirmMerge winnerID loserID _ _ _ _ => ∀ i ∈ s.identities.rows, i.status = .conflict →
    Splits s i winnerID loserID → NamedFor s.conflicts winnerID loserID i.eventID
  | _ => True

instance (s : Store) (a : Action) : Decidable (NamesUnited s a) :=
  match a with
  | .confirmMerge .. => inferInstanceAs (Decidable (∀ i ∈ s.identities.rows, _))
  | .capture .. | .recordResolution .. | .sweepResolutions .. | .resetAbandoned .. | .claim ..
  | .settle .. => isTrue trivial

/-- The fingerprints of a parked observation are bound to two issues. -/
def Divided (s : Store) : Prop :=
  ∀ e i, s.identities.find? e = some i → i.status = .conflict →
    ∃ a b, rawIssue s i = some a ∧ resolvedIssue s i = some b ∧ a ≠ b

theorem divided_empty (githubRepo : String) (installationID : Option Nat) :
    Divided (Store.empty githubRepo installationID) := by
  intro e i found
  cases found

theorem Divided.not_agree {s : Store} (divided : Divided s) {e : UUID} {i : EventIdentity}
    (found : s.identities.find? e = some i) (parked : i.status = .conflict) :
    ¬AliasesAgree s i := by
  obtain ⟨a, b, raw, resolved, differ⟩ := divided e i found parked
  rintro ⟨-, same⟩
  rw [raw, resolved, Option.some.injEq] at same
  exact differ same

variable {t : Table AliasConflict.key}

theorem mooted_of_namedFor {winnerID loserID eventID : UUID}
    (named : NamedFor t winnerID loserID eventID) :
    Mooted (resolveConflicts t winnerID loserID) winnerID loserID eventID := by
  obtain ⟨c, member, event, kept, names⟩ := named
  cases status : c.status with
  | dismissed => exact absurd status kept
  | resolved =>
    refine ⟨c, ?_, event, status, names⟩
    refine (Table.mem_updateWhere t _ _ resolveConflict_key c).mpr ⟨c, member, if_neg ?_⟩
    simp [status]
  | opened =>
    refine ⟨resolveConflict c, ?_, event, rfl, names⟩
    refine (Table.mem_updateWhere t _ _ resolveConflict_key _).mpr ⟨c, member, if_pos ?_⟩
    simp [status, names]

theorem namedFor_of_mooted {winnerID loserID eventID : UUID}
    (mooted : Mooted (resolveConflicts t winnerID loserID) winnerID loserID eventID) :
    NamedFor t winnerID loserID eventID := by
  obtain ⟨c, member, event, status, names⟩ := mooted
  obtain ⟨old, earlier, update⟩ := (Table.mem_updateWhere t _ _ resolveConflict_key c).mp member
  split at update
  · rename_i fires
    simp only [decide_eq_true_eq] at fires
    subst update
    exact ⟨old, earlier, event, by simp [fires.1], fires.2⟩
  · subst update
    exact ⟨old, earlier, event, by simp [status], names⟩

variable {s s' : Store}

theorem Divided.park (divided : Divided s) (wf : WellFormed s) {identity : EventIdentity}
    {resolution : EventResolution} {candidates : List CandidateAlias}
    {resolvedFingerprint : String} {a b : UUID}
    (found : s.identities.find? identity.eventID = some identity)
    (aliases : observationAliases sha256 identity resolution =
      .ok (candidates, resolvedFingerprint))
    (distinct : distinctIssues (lookupAliases s identity.identityVersion candidates) = [a, b])
    (success : parkConflict s identity.eventID [a, b] resolvedFingerprint = .ok s') :
    Divided s' := by
  obtain ⟨_, _, -, rfl⟩ := parkConflict_effects success
  intro e i after parked
  rw [Table.find?_updateKey, found] at after
  split at after
  · cases after
    obtain ⟨fingerprints, -⟩ :=
      observationAliases_fingerprints aliases (wf.fingerprint _ identity found).1
    have differ : a ≠ b := by
      have nodup := nodup_distinctIssues (lookupAliases s identity.identityVersion candidates)
      rw [distinct] at nodup
      simpa using nodup
    -- each of the two issues is the one some fingerprint of the observation is bound to
    have source : ∀ j, j = a ∨ j = b → rawIssue s identity = some j ∨
        ∃ f, nullIfEmpty resolvedFingerprint = some f ∧
          s.bound identity.identityVersion f = some j := by
      intro j named
      have member : j ∈ distinctIssues (lookupAliases s identity.identityVersion candidates) := by
        rw [distinct]
        simpa using named
      obtain ⟨c, member, isBound⟩ := (mem_distinctIssues s _ candidates j).mp member
      rcases (fingerprints c.fingerprint).mp (List.mem_map_of_mem member) with raw | resolved
      · rw [raw] at isBound
        exact Or.inl isBound
      · exact Or.inr ⟨c.fingerprint, resolved, isBound⟩
    have park : ∀ f j, nullIfEmpty resolvedFingerprint = some f →
        s.bound identity.identityVersion f = some j →
        (nullIfEmpty resolvedFingerprint).bind (s.bound identity.identityVersion) = some j := by
      intro f j resolved isBound
      rw [resolved]
      exact isBound
    rcases source a (Or.inl rfl) with rawA | ⟨f, resolved, boundA⟩
    · rcases source b (Or.inr rfl) with rawB | ⟨f, resolved, boundB⟩
      · rw [rawA, Option.some.injEq] at rawB
        exact absurd rawB differ
      · exact ⟨a, b, rawA, park f b resolved boundB, differ⟩
    · rcases source b (Or.inr rfl) with rawB | ⟨f', resolved', boundB⟩
      · exact ⟨b, a, rawB, park f a resolved boundA, differ.symm⟩
      · rw [resolved, Option.some.injEq] at resolved'
        rw [← resolved', boundA, Option.some.injEq] at boundB
        exact absurd boundB differ
  · exact divided e i after parked

theorem Divided.grow (divided : Divided s)
    (kept : ∀ v f j, s.bound v f = some j → s'.bound v f = some j)
    (origin : ∀ e i, s'.identities.find? e = some i → i.status = .conflict →
      s.identities.find? e = some i) : Divided s' := by
  intro e i found parked
  obtain ⟨a, b, raw, resolved, differ⟩ := divided e i (origin e i found parked) parked
  obtain ⟨f, recorded, isBound⟩ := Option.bind_eq_some_iff.mp resolved
  exact ⟨a, b, kept _ _ a raw, Option.bind_eq_some_iff.mpr ⟨f, recorded, kept _ _ b isBound⟩, differ⟩

section Merging

variable {winnerID loserID episodeID freshEpisode : UUID} {now : Timestamp} {winner : ErrorGroup}

theorem Merges.issues
    (merges : Merges s s' winnerID loserID winner episodeID freshEpisode now) (i : EventIdentity) :
    let i' := requeuedIdentity s'.conflicts winnerID loserID (movedIdentity winnerID loserID episodeID i)
    rawIssue s' i' = (rawIssue s i).map (fun g => if g = loserID then winnerID else g) ∧
      resolvedIssue s' i' =
        (resolvedIssue s i).map fun g => if g = loserID then winnerID else g := by
  intro i'
  obtain ⟨raw, resolved, version⟩ := mergedIdentity_keeps s'.conflicts winnerID loserID episodeID i
  refine ⟨?_, ?_⟩
  · rw [rawIssue, raw, version, merges.bound]
    rfl
  · rw [resolvedIssue, resolved, version, resolvedIssue]
    cases i.resolvedFingerprint with
    | none => rfl
    | some f => exact merges.bound _ f

theorem redirect_eq_iff {a b : UUID} (differ : a ≠ b) :
    (if a = loserID then winnerID else a) = (if b = loserID then winnerID else b) ↔
      (a = winnerID ∧ b = loserID) ∨ (a = loserID ∧ b = winnerID) := by
  by_cases lostA : a = loserID
  · by_cases lostB : b = loserID
    · exact absurd (lostA.trans lostB.symm) differ
    · rw [if_pos lostA, if_neg lostB]
      constructor
      · intro same
        exact Or.inr ⟨lostA, same.symm⟩
      · rintro (⟨-, lost⟩ | ⟨-, won⟩)
        · exact absurd lost lostB
        · exact won.symm
  · by_cases lostB : b = loserID
    · rw [if_neg lostA, if_pos lostB]
      constructor
      · intro same
        exact Or.inl ⟨same, lostB⟩
      · rintro (⟨won, -⟩ | ⟨lost, -⟩)
        · exact won
        · exact absurd lost lostA
    · rw [if_neg lostA, if_neg lostB]
      constructor
      · intro same
        exact absurd same differ
      · rintro (⟨-, lost⟩ | ⟨lost, -⟩)
        · exact absurd lost lostB
        · exact absurd lost lostA

theorem Divided.merge (divided : Divided s)
    (merges : Merges s s' winnerID loserID winner episodeID freshEpisode now)
    (named : ∀ i ∈ s.identities.rows, i.status = .conflict → Splits s i winnerID loserID →
      NamedFor s.conflicts winnerID loserID i.eventID) : Divided s' := by
  intro e i' after parked
  rw [merges.identities, Option.map_eq_some_iff] at after
  obtain ⟨i, before, rfl⟩ := after
  obtain ⟨raw', resolved'⟩ := merges.issues i
  have key : i.eventID = e := Table.key_of_find? before
  -- the merge did not requeue it, so no row names the two issues for it
  obtain ⟨was, unnamed⟩ : i.status = .conflict ∧
      ¬NamedFor s.conflicts winnerID loserID i.eventID := by
    unfold requeuedIdentity at parked
    split at parked
    · cases parked
    · rename_i kept
      rw [movedIdentity_status] at parked
      refine ⟨parked, fun row => kept ⟨by rw [movedIdentity_status]; exact parked, ?_⟩⟩
      rw [merges.conflicts, show (movedIdentity winnerID loserID episodeID i).eventID = i.eventID by
        unfold movedIdentity; split <;> rfl]
      exact mooted_of_namedFor row
  obtain ⟨a, b, raw, resolved, differ⟩ := divided e i before was
  rw [raw, Option.map_some] at raw'
  rw [resolved, Option.map_some] at resolved'
  refine ⟨_, _, raw', resolved', fun united => unnamed ?_⟩
  refine named i (Table.mem_of_find? before) was ?_
  rcases (redirect_eq_iff differ).mp united with ⟨rfl, rfl⟩ | ⟨rfl, rfl⟩
  · exact Or.inl ⟨raw, resolved⟩
  · exact Or.inr ⟨raw, resolved⟩

end Merging

theorem Divided.step (divided : Divided s) (wf : WellFormed s) (a : Action)
    (guard : NamesUnited s a) : Divided (step sha256 s a) := by
  refine step_induction sha256 a divided ?_ (fun _ _ => divided) ?_ ?_ ?_
  · intro s' eventID p now _ success
    obtain ⟨events, insertedEvent, rest⟩ := Except.of_bind success
    obtain ⟨identities, inserted, rest⟩ := Except.of_bind rest
    rw [Option.orError_eq_ok_iff] at inserted
    cases rest
    refine divided.grow (fun _ _ _ h => h) fun e i found parked => ?_
    simp only [Table.find?_insert? inserted] at found
    split at found
    · cases found
      cases parked
    · exact found
  · intro p status claimedAt unsettled target
    refine divided.grow (fun _ _ _ h => h) fun e i found parked => ?_
    rw [Table.find?_updateWhere, Option.map_eq_some_iff] at found
    obtain ⟨i₀, before, rfl⟩ := found
    split at parked
    · rcases target with rfl | rfl <;> cases parked
    · rename_i other
      rw [if_neg other]
      exact before
  · intro s' eventID identity freshIssue freshEpisode now result _ found did
    have key : identity.eventID = eventID := Table.key_of_find? found
    rw [← key] at found
    cases did with
    | retried _ same _ => exact same ▸ divided
    | parked _ _ _ _ _ _ _ aliases distinct parks _ =>
      exact divided.park sha256 wf found aliases distinct parks
    | attached _ _ _ _ _ _ _ _ _ unsettled _ _ steps _ =>
      obtain ⟨ev, -, -, settles⟩ := wf.settles found unsettled steps
      refine divided.grow settles.kept fun e i after parked => ?_
      rw [settles.identity_eq found] at after
      split at after
      · cases after
        cases parked
      · exact after
  · rintro s' winnerID loserID confirmedBy actor freshEpisode now winner loser rfl accepted
    obtain ⟨episodeID, merges⟩ := accepted.merges (wf.unopened accepted.winnerFound)
    exact divided.merge merges guard

theorem step_parked (wf : WellFormed s) (a : Action) {e : UUID} {i i' : EventIdentity}
    (before : s.identities.find? e = some i) (parked : i.status = .conflict)
    (after : (step sha256 s a).identities.find? e = some i') :
    i'.status = .conflict ∨ i'.status = .pending := by
  refine step_induction sha256 a
    (motive := fun s' => ∀ i', s'.identities.find? e = some i' →
      i'.status = .conflict ∨ i'.status = .pending) ?_ ?_ ?_ ?_ ?_ ?_ i' after
  · intro i' same
    rw [before, Option.some.injEq] at same
    exact Or.inl (same ▸ parked)
  · intro s' eventID p now _ success i' found
    obtain ⟨events, insertedEvent, rest⟩ := Except.of_bind success
    obtain ⟨identities, inserted, rest⟩ := Except.of_bind rest
    rw [Option.orError_eq_ok_iff] at inserted
    cases rest
    simp only [Table.find?_insert? inserted] at found
    split at found
    · cases found
      exact Or.inr rfl
    · rw [before, Option.some.injEq] at found
      exact Or.inl (found ▸ parked)
  · intro resolutions _ i' same
    rw [before, Option.some.injEq] at same
    exact Or.inl (same ▸ parked)
  · intro p status claimedAt unsettled target i' found
    rw [Table.find?_updateWhere, before, Option.map_some, Option.some.injEq] at found
    subst found
    split
    · rename_i selected
      rcases unsettled i selected with h | h <;> rw [parked] at h <;> cases h
    · exact Or.inl parked
  · intro s' eventID identity freshIssue freshEpisode now result _ found did i' after'
    have key : identity.eventID = eventID := Table.key_of_find? found
    rw [← key] at found
    cases did with
    | retried _ same _ =>
      rw [same, before, Option.some.injEq] at after'
      exact Or.inl (after' ▸ parked)
    | parked _ _ _ _ _ _ _ _ _ parks _ =>
      obtain ⟨_, _, -, rfl⟩ := parkConflict_effects parks
      rw [Table.find?_updateKey, found] at after'
      split at after'
      · cases after'
        exact Or.inl rfl
      · rw [before, Option.some.injEq] at after'
        exact Or.inl (after' ▸ parked)
    | attached _ _ _ _ _ _ _ _ _ unsettled _ _ steps _ =>
      obtain ⟨ev, -, -, settles⟩ := wf.settles found unsettled steps
      rw [settles.identity_eq found] at after'
      split at after'
      · rename_i own
        rw [own, found, Option.some.injEq] at before
        subst before
        rcases unsettled with h | h <;> rw [parked] at h <;> cases h
      · rw [before, Option.some.injEq] at after'
        exact Or.inl (after' ▸ parked)
  · intro s' winnerID loserID confirmedBy actor freshEpisode now winner loser _ accepted i' after'
    obtain ⟨episodeID, merges⟩ := accepted.merges (wf.unopened accepted.winnerFound)
    rw [merges.identities, before, Option.map_some, Option.some.injEq] at after'
    subst after'
    unfold requeuedIdentity
    split
    · exact Or.inr rfl
    · rw [movedIdentity_status]
      exact Or.inl parked

/-- What a run promises of parked observations: none stays parked with fingerprints
that agree, and the step that made them agree put it back to pending. -/
structure ConflictsRequeue (s : Store) (actions : List Action) : Prop where
  settled : ∀ i ∈ ((machine sha256).run s actions).identities.rows, i.status = .conflict →
    ¬AliasesAgree ((machine sha256).run s actions) i
  requeued : ∀ before a after e i i', actions = before ++ a :: after →
    ((machine sha256).run s before).identities.find? e = some i → i.status = .conflict →
    ((machine sha256).run s (before ++ [a])).identities.find? e = some i' →
    AliasesAgree ((machine sha256).run s (before ++ [a])) i' → i'.status = .pending

theorem divided_run (start : WellFormed s ∧ Divided s) {actions : List Action}
    (guarded : (machine sha256).Guarded NamesUnited s actions) :
    WellFormed ((machine sha256).run s actions) ∧ Divided ((machine sha256).run s actions) :=
  (machine sha256).invariant_guarded (fun s => WellFormed s ∧ Divided s)
    (fun _ a inv guard => ⟨inv.1.step sha256 a, inv.2.step sha256 inv.1 a guard⟩) start guarded

/-- A run in which every merge's parked observations are named by their conflict rows
leaves none of them parked once its fingerprints agree. -/
theorem conflicts_requeue (githubRepo : String) (installationID : Option Nat)
    (actions : List Action)
    (guarded : (machine sha256).Guarded NamesUnited (Store.empty githubRepo installationID)
      actions) :
    ConflictsRequeue sha256 (Store.empty githubRepo installationID) actions := by
  have start : WellFormed (Store.empty githubRepo installationID) ∧
      Divided (Store.empty githubRepo installationID) :=
    ⟨wellFormed_empty _ _, divided_empty _ _⟩
  refine ⟨?_, ?_⟩
  · intro i member parked
    obtain ⟨-, divided⟩ := divided_run sha256 start guarded
    exact divided.not_agree (Table.find?_key _ member) parked
  · rintro before a after e i i' rfl foundBefore parked found agree
    have split : before ++ a :: after = (before ++ [a]) ++ after := by simp
    rw [split, (machine sha256).guarded_append] at guarded
    obtain ⟨-, divided⟩ := divided_run sha256 start guarded.1
    rw [(machine sha256).guarded_append] at guarded
    obtain ⟨wf, -⟩ := divided_run sha256 start guarded.1.1
    rcases step_parked sha256 wf a foundBefore parked
        ((machine sha256).run_append _ before [a] ▸ found) with stuck | pending
    · exact absurd agree (divided.not_agree found stuck)
    · exact pending

def cartDigest : Vector UInt8 32 :=
  #v[174, 103, 200, 188, 61, 177, 11, 153, 62, 129, 64, 220, 144, 244, 167, 80,
    246, 130, 207, 199, 212, 32, 225, 8, 195, 157, 18, 36, 194, 145, 72, 134]

def cartEnvelope : Envelope := ⟨2, [⟨"src/cart.ts", "total", 12, ⟨1, 4096⟩⟩]⟩

/-- One observation with a source map, from its capture to its settlement. -/
def observeResolved (eventID : UUID) (rawFingerprint : { f : String // f ≠ "" }) (env : Envelope)
    (freshIssue freshEpisode : UUID) (now : Timestamp) : List Action :=
  [.capture eventID ⟨1, none, "TypeError", "x is undefined", "javascript", none, rawFingerprint⟩ now,
    .recordResolution eventID .resolved (some (.envelope env)) now,
    .claim [] now,
    .settle eventID freshIssue freshEpisode now]

/-- Three issues, and an observation whose raw fingerprint is bound to the first and
whose resolved fingerprint is bound to the second. -/
def parkedBetween : List Action :=
  observeRaw 1 ⟨"a", by decide⟩ none 101 201 0 ++
    observeResolved 2 ⟨"b", by decide⟩ cartEnvelope 102 202 1 ++
    observeRaw 3 ⟨"c", by decide⟩ none 103 203 2 ++
    observeResolved 4 ⟨"a", by decide⟩ cartEnvelope 104 204 3

theorem conflicts_requeue_pair :
    (machine fun _ => cartDigest).Guarded NamesUnited (Store.empty "acme/app" none)
      (parkedBetween ++ [Action.confirmMerge 101 102 .human "ops" 205 4]) ∧
    ConflictsRequeue (fun _ => cartDigest) (Store.empty "acme/app" none)
      (parkedBetween ++ [Action.confirmMerge 101 102 .human "ops" 205 4]) := by
  have guarded : (machine fun _ => cartDigest).Guarded NamesUnited (Store.empty "acme/app" none)
      (parkedBetween ++ [Action.confirmMerge 101 102 .human "ops" 205 4]) := by decide +kernel
  exact ⟨guarded, conflicts_requeue _ _ _ _ guarded⟩

/-- Merging both issues into a third unites the fingerprints, but no merge names the
pair on the conflict row: the observation stays parked. -/
theorem conflicts_stuck :
    ¬ConflictsRequeue (fun _ => cartDigest) (Store.empty "acme/app" none)
      (parkedBetween ++ [Action.confirmMerge 103 101 .human "ops" 205 4,
        Action.confirmMerge 103 102 .human "ops" 206 5]) := by
  intro requeue
  have stuck : ∃ i ∈ ((machine fun _ => cartDigest).run (Store.empty "acme/app" none)
      (parkedBetween ++ [Action.confirmMerge 103 101 .human "ops" 205 4,
        Action.confirmMerge 103 102 .human "ops" 206 5])).identities.rows,
      i.status = .conflict ∧ AliasesAgree ((machine fun _ => cartDigest).run
        (Store.empty "acme/app" none)
        (parkedBetween ++ [Action.confirmMerge 103 101 .human "ops" 205 4,
          Action.confirmMerge 103 102 .human "ops" 206 5])) i := by decide +kernel
  obtain ⟨i, member, parked, agree⟩ := stuck
  exact requeue.settled i member parked agree

end Opslane.Identity
