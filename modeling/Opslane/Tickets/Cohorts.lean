import Mathlib.Tactic.NormNum
import Opslane.Tickets.Generations
import Opslane.Tickets.Stranded

/-!
# The cohort of a ticket, counted three times

`cohortStats` of `packages/worker/src/friction/tickets-db.ts` counts the finalized checks of a
ticket, `friction_reconcile_after_delete` of migration 078 counts them again after a purge,
and `previewCohort` counts them together with the staged checks of a batch, before the batch
is finalized. The three come to the same publication bar.
-/

namespace Opslane.Tickets

open Transition (Machine)

/-- What a count reads of a row of the cohort. -/
def countedCheck (r : Check × TicketMatch) : CountedCheck := (r.1.outcome, r.2.endUserID)

/-- The row a check contributes to its ticket's cohort. -/
def cohortRow (e : Evidence) (t : FrictionTicket) (c : Check) : Option (Check × TicketMatch) := do
  let m ← e.ticketMatches.find? c.key
  let a ← e.attempts.find? c.attemptID
  let b ← e.batches.find? a.batchID
  if c.ticketID = t.id ∧ b.status = .finalized ∧ InCohort t m then some (c, m) else none

theorem cohortRows_eq (e : Evidence) (t : FrictionTicket) :
    cohortRows e t = e.checks.rows.filterMap (cohortRow e t) := rfl

theorem cohortStats_eq (e : Evidence) (t : FrictionTicket) :
    cohortStats e t = summarizeChecks ((cohortRows e t).map countedCheck) := by
  simp only [cohortStats, summarizeChecks, countOutcome, countedCheck, List.length_map,
    List.countP_map, List.filter_map, List.filterMap_map, Function.comp_def]
  rfl

theorem summarizeChecks_perm {rows rows' : List CountedCheck} (perm : rows.Perm rows') :
    summarizeChecks rows = summarizeChecks rows' := by
  have users : ((rows.filter fun r => r.1 = .confirmed).filterMap Prod.snd).Perm
      ((rows'.filter fun r => r.1 = .confirmed).filterMap Prod.snd) :=
    (perm.filter _).filterMap _
  have known : ((rows.filter fun r => r.1 = .confirmed).filterMap Prod.snd = []) ↔
      ((rows'.filter fun r => r.1 = .confirmed).filterMap Prod.snd = []) := by
    constructor
    · intro none_
      exact (none_ ▸ users).nil_eq.symm
    · intro none_
      exact (none_ ▸ users).eq_nil
  simp only [summarizeChecks, perm.length_eq, perm.countP_eq, users.dedup.length_eq, ne_eq, known]

/-- The check is of a finalized batch. -/
def Check.Finalized (e : Evidence) (c : Check) : Prop :=
  ((e.attempts.find? c.attemptID).bind fun a => e.batches.find? a.batchID).any fun b =>
    b.status = .finalized
  deriving Decidable

variable {c : Check}

theorem Check.finalized_iff {e : Evidence} : c.Finalized e ↔
    ∃ a b, e.attempts.find? c.attemptID = some a ∧ e.batches.find? a.batchID = some b ∧
      b.status = .finalized := by
  simp only [Check.Finalized, Option.any_eq_true, Option.bind_eq_some_iff, decide_eq_true_eq]
  constructor
  · rintro ⟨b, ⟨a, attempt, batch⟩, status⟩
    exact ⟨a, b, attempt, batch, status⟩
  · rintro ⟨a, b, attempt, batch, status⟩
    exact ⟨b, ⟨a, attempt, batch⟩, status⟩

variable {t : FrictionTicket}

theorem purgedCohort_eq {e : Evidence}
    (finalized : ∀ c ∈ e.checks.rows, c.ticketID = t.id → c.Finalized e) :
    purgedCohort e t = cohortRows e t := by
  refine List.filterMap_congr fun c member => ?_
  cases e.ticketMatches.find? c.key with
  | none => rfl
  | some m =>
    by_cases own : c.ticketID = t.id
    · obtain ⟨a, b, attempt, batch, status⟩ := Check.finalized_iff.mp (finalized c member own)
      simp [attempt, batch, status]
    · cases attempt : e.attempts.find? c.attemptID with
      | none => simp [own]
      | some a => cases batch : e.batches.find? a.batchID <;> simp [own]

theorem evaluateBar_fails_iff {stats : CohortStats} {fixSubstate : Option FixSubstate} :
    evaluateBar stats .published fixSubstate = .fails ↔ fixSubstate ≠ some .resolved ∧
      (stats.confirmed < 3 ∨ (stats.identityKnown = true ∧ stats.confirmedUsers < 2) ∨
        (10 ≤ stats.counted ∧ (stats.confirmed : ℚ) / stats.counted < 1 / 4)) := by
  have ratio : (if stats.counted = 0 then 0 else (stats.confirmed : ℚ) / stats.counted) =
      stats.confirmed / stats.counted := by
    split
    · rename_i none_
      rw [none_, Nat.cast_zero, div_zero]
    · rfl
  have alike : ¬(¬stats.identityKnown = true ∨ 2 ≤ stats.confirmedUsers) ↔
      stats.identityKnown = true ∧ stats.confirmedUsers < 2 := by
    rw [not_or, not_not, not_le]
  simp only [evaluateBar, ratio, true_and]
  split
  · rename_i passes
    obtain ⟨confirmed, diverse, high⟩ := passes
    refine iff_of_false (fun same => nomatch same) ?_
    rintro ⟨-, few | one | ⟨-, low⟩⟩
    · omega
    · exact alike.mpr one diverse
    · exact absurd (high.trans_lt low) (by norm_num)
  · split
    · rename_i fails
      obtain ⟨substate, fails⟩ := fails
      rw [alike] at fails
      exact iff_of_true rfl ⟨substate, fails⟩
    · rename_i passes_not holds
      refine iff_of_false (fun same => nomatch same) fun fails => holds ⟨fails.1, ?_⟩
      rw [alike]
      exact fails.2

theorem failsBar_iff {e : Evidence} : FailsBar (cohortRows e t) ↔
    (cohortStats e t).confirmed < 3 ∨
      ((cohortStats e t).identityKnown = true ∧ (cohortStats e t).confirmedUsers < 2) ∨
      (10 ≤ (cohortStats e t).counted ∧
        ((cohortStats e t).confirmed : ℚ) / (cohortStats e t).counted < 1 / 4) := by
  simp only [FailsBar, cohortStats, decide_eq_true_eq]

theorem Sound.find_live {s : TicketStore} (sound : Sound s) (member : t ∈ s.tickets.rows)
    (published : t.status = .published) :
    ∃ g, liveIncident s t = some g ∧
      (s.incidents.table.rows.find? fun g => g.ticketID = t.id ∧ g.status ≠ .archived) = some g := by
  obtain ⟨g, row, own, generation, live⟩ := sound.live_incident member published
  have only : ∀ p : Incident → Bool, p g = true →
      (∀ h ∈ s.incidents.table.rows, p h = true → h.ticketID = t.id ∧ h.status ≠ .archived) →
      s.incidents.table.rows.find? p = some g := by
    intro p chosen fits
    cases found : s.incidents.table.rows.find? p with
    | none => exact absurd chosen (List.find?_eq_none.mp found g row)
    | some h =>
      have memH := List.mem_of_find?_eq_some found
      obtain ⟨ownH, liveH⟩ := fits h memH (List.find?_some found)
      exact congrArg some (s.incidents.table.inj memH row
        (single_live sound memH row liveH live (ownH.trans own.symm)))
  refine ⟨g, ?_, ?_⟩
  · refine only _ (by simp [own, generation, live]) fun h _ chosen => ?_
    obtain ⟨ownH, -, liveH⟩ := of_decide_eq_true chosen
    exact ⟨ownH, liveH⟩
  · exact only _ (by simp [own, live]) fun h _ chosen => of_decide_eq_true chosen

/-- The reconciliation after a purge takes the ticket off publication. -/
def Unpublishes (s : TicketStore) (ticketID : UUID) (now : Timestamp) : Prop :=
  ((frictionReconcileAfterDelete s ticketID now).tickets.find? ticketID).any fun t =>
    t.status = .unpublished
  deriving Decidable

theorem unpublishes_iff {s : TicketStore} (found : s.tickets.find? t.id = some t)
    (published : t.status = .published) {g : Incident}
    (live : (s.incidents.table.rows.find? fun g => g.ticketID = t.id ∧ g.status ≠ .archived) = some g)
    (now : Timestamp) :
    Unpublishes s t.id now ↔ g.fixSubstate ≠ .resolved ∧ FailsBar (purgedCohort s.evidence t) := by
  let count := (s.evidence.ticketMatches.select fun m => m.ticketID = t.id).length
  let s₁ := s.updateTicket t.id (FrictionTicket.recount count) fun _ => ⟨rfl, rfl, rfl⟩
  have closed : frictionReconcileAfterDelete s t.id now =
      if g.fixSubstate = .resolved then s₁
      else if FailsBar (purgedCohort s.evidence t) then
        (retireIncidents s₁ [g.id] now).updateTicket t.id FrictionTicket.unpublish
          fun _ => ⟨rfl, rfl, rfl⟩
      else s₁ := by
    have live' : (s₁.incidents.table.rows.find? fun g => g.ticketID = t.id ∧ g.status ≠ .archived) =
        some g := live
    rw [frictionReconcileAfterDelete, found]
    dsimp only
    rw [if_neg (not_not.mpr published), live']
    rfl
  have recounted : s₁.tickets.find? t.id = some (t.recount count) := by
    refine (Table.find?_updateKey s.tickets t.id (FrictionTicket.recount count) (fun _ => rfl)
      t.id).trans ?_
    rw [if_pos rfl, found, Option.map_some]
  have kept : ¬(s₁.tickets.find? t.id).any (fun t => t.status = .unpublished) = true := by
    rw [recounted]
    simp [FrictionTicket.recount, published]
  unfold Unpublishes
  rw [closed]
  split
  · rename_i resolved
    exact iff_of_false kept fun both => both.1 resolved
  · rename_i unresolved
    split
    · rename_i fails
      refine iff_of_true ?_ ⟨unresolved, fails⟩
      have retired : (((retireIncidents s₁ [g.id] now).updateTicket t.id FrictionTicket.unpublish
          fun _ => ⟨rfl, rfl, rfl⟩).tickets.find? t.id) = some (t.recount count).unpublish := by
        refine (Table.find?_updateKey s₁.tickets t.id FrictionTicket.unpublish (fun _ => rfl)
          t.id).trans ?_
        rw [if_pos rfl, recounted, Option.map_some]
      rw [retired]
      rfl
    · rename_i passes
      exact iff_of_false kept fun both => passes both.2

theorem unpublishes_iff_fails {s : TicketStore} (sound : Sound s) (member : t ∈ s.tickets.rows)
    (published : t.status = .published)
    (finalized : ∀ c ∈ s.evidence.checks.rows, c.ticketID = t.id → c.Finalized s.evidence)
    (now : Timestamp) :
    Unpublishes s t.id now ↔ evaluateBar (cohortStats s.evidence t) .published
      ((liveIncident s t).map Incident.fixSubstate) = .fails := by
  obtain ⟨g, live, purged⟩ := sound.find_live member published
  rw [unpublishes_iff (s.tickets.find?_key member) published purged, evaluateBar_fails_iff, live,
    purgedCohort_eq finalized, failsBar_iff, Option.map_some]
  exact and_congr_left fun _ => not_congr Option.some_inj.symm

namespace Confirmations

/-- Every check is of a finalized batch, and every attempt of a batch of its ticket, which has
one attempt of a recording. -/
structure ChecksHold (e : Evidence) : Prop where
  checked : ∀ c ∈ e.checks.rows, ∃ a b, e.attempts.find? c.attemptID = some a ∧
    a.sessionID = c.sessionID ∧ e.batches.find? a.batchID = some b ∧ b.status = .finalized
  placed : ∀ a ∈ e.attempts.rows, ∃ b, e.batches.find? a.batchID = some b ∧ b.ticketID = a.ticketID
  once : ∀ a ∈ e.attempts.rows, ∀ a' ∈ e.attempts.rows, a.batchID = a'.batchID →
    a.sessionID = a'.sessionID → a = a'

theorem checksHold_empty : ChecksHold TicketStore.empty.evidence where
  checked c member := by cases member
  placed a member := by cases member
  once a member := by cases member

/-- Batches stay where they are, and stay finalized. -/
def BatchesKept (e e' : Evidence) : Prop :=
  ∀ id b, e.batches.find? id = some b → ∃ b', e'.batches.find? id = some b' ∧
    b'.ticketID = b.ticketID ∧ (b.status = .finalized → b'.status = .finalized)

variable {e e' : Evidence}

theorem BatchesKept.of_eq (batches : e'.batches = e.batches) : BatchesKept e e' :=
  fun _ b found => ⟨b, batches ▸ found, rfl, id⟩

theorem ChecksHold.purge (holds : ChecksHold e) (gone : String → Bool)
    (checks : e'.checks.rows = e.checks.rows.filter fun c => !gone c.sessionID)
    (attempts : e'.attempts.rows = e.attempts.rows.filter fun a => !gone a.sessionID)
    (batches : BatchesKept e e') : ChecksHold e' where
  checked c member := by
    rw [checks, List.mem_filter] at member
    obtain ⟨a, b, attempt, session, batch, status⟩ := holds.checked c member.1
    obtain ⟨b', batch', -, still⟩ := batches _ b batch
    refine ⟨a, b', ?_, session, batch', still status⟩
    rw [Table.find?_eq_some_iff, attempts, List.mem_filter, session]
    exact ⟨⟨Table.mem_of_find? attempt, member.2⟩, Table.key_of_find? attempt⟩
  placed a member := by
    rw [attempts, List.mem_filter] at member
    obtain ⟨b, batch, own⟩ := holds.placed a member.1
    obtain ⟨b', batch', own', -⟩ := batches _ b batch
    exact ⟨b', batch', own'.trans own⟩
  once a member a' member' := by
    rw [attempts, List.mem_filter] at member member'
    exact holds.once a member.1 a' member'.1

/-- Of checks, only the batches change. -/
structure ChecksRest (e e' : Evidence) : Prop where
  checks : e'.checks = e.checks
  attempts : e'.attempts = e.attempts
  batches : BatchesKept e e'

theorem ChecksRest.of_eq (same : e' = e) : ChecksRest e e' :=
  ⟨by rw [same], by rw [same], .of_eq (by rw [same])⟩

theorem ChecksRest.trans {e e' e'' : Evidence} (first : ChecksRest e e') (second : ChecksRest e' e'') :
    ChecksRest e e'' where
  checks := second.checks.trans first.checks
  attempts := second.attempts.trans first.attempts
  batches id b found := by
    obtain ⟨b', found', own', still'⟩ := first.batches id b found
    obtain ⟨b'', found'', own'', still''⟩ := second.batches id b' found'
    exact ⟨b'', found'', own''.trans own', fun status => still'' (still' status)⟩

theorem ChecksHold.rest {e e' : Evidence} (holds : ChecksHold e) (rest : ChecksRest e e') :
    ChecksHold e' :=
  holds.purge (fun _ => false) (by simp [rest.checks]) (by simp [rest.attempts]) rest.batches

theorem EvidenceAside.batchesKept {gone : String → Bool} {s s' : TicketStore}
    (aside : EvidenceAside gone s s') : BatchesKept s.evidence s'.evidence := by
  intro id b found
  obtain ⟨q, chosen, rows⟩ := aside.batches
  refine ⟨if q b then b.discard else b, ?_, ?_, fun status => ?_⟩
  · rw [Table.find?_eq_some_iff, rows]
    refine ⟨List.mem_map.mpr ⟨b, Table.mem_of_find? found, rfl⟩, ?_⟩
    have key : b.id = id := Table.key_of_find? found
    split <;> exact key
  · split <;> rfl
  · split
    · rename_i discards
      exact absurd ((chosen b discards).1.symm.trans status) (by decide)
    · exact status

theorem ChecksHold.aside {gone : String → Bool} {s s' : TicketStore} (holds : ChecksHold s.evidence)
    (aside : EvidenceAside gone s s') : ChecksHold s'.evidence :=
  holds.purge gone aside.checks aside.attempts aside.batchesKept

theorem checksRest_discardBatch (s : TicketStore) (batchID : UUID) :
    ChecksRest s.evidence (discardBatch s batchID).evidence := by
  obtain ⟨batches, evidence, lookup⟩ := discardBatch_evidence s batchID
  refine ⟨by rw [evidence], by rw [evidence], fun id b found => ?_⟩
  refine ⟨_, by rw [evidence, lookup, found, Option.map_some], ?_, fun status => ?_⟩
  · split <;> rfl
  · rw [if_neg fun discards => absurd (discards.2.symm.trans status) (by decide)]
    exact status

theorem attemptFailed_evidence (s : TicketStore) (jobID projectID : UUID) :
    (attemptFailed s jobID projectID).1.evidence = s.evidence ∨
      ∃ batchID, (attemptFailed s jobID projectID).1.evidence = (discardBatch s batchID).evidence := by
  refine attemptFailed_keeps (P := fun s' => s'.evidence = s.evidence ∨
    ∃ batchID, s'.evidence = (discardBatch s batchID).evidence) (Or.inl rfl)
    (fun _ batchID _ _ => Or.inr ⟨batchID, rfl⟩) ?_ ?_
  · intro s₁ job ticketID current kept
    unfold failFix
    dsimp only
    split <;> exact kept
  · intro s₁ job ticketID kept
    unfold failInvestigation
    split
    · exact kept
    · split
      · exact kept
      · split <;> exact kept

theorem checksRest_attemptFailed (s : TicketStore) (jobID projectID : UUID) :
    ChecksRest s.evidence (attemptFailed s jobID projectID).1.evidence := by
  rcases attemptFailed_evidence s jobID projectID with same | ⟨batchID, discards⟩
  · exact .of_eq same
  · rw [discards]
    exact checksRest_discardBatch s batchID

theorem checksRest_cleanUp (s : TicketStore) (j : Jobs.Job) :
    ChecksRest s.evidence (cleanUp s j).evidence := by
  unfold cleanUp
  split
  · exact checksRest_attemptFailed ..
  · exact .of_eq rfl

theorem checksRest_foldl (ended : List Jobs.Job) : ∀ s : TicketStore,
    ChecksRest s.evidence (ended.foldl cleanUp s).evidence := by
  induction ended with
  | nil => exact fun s => .of_eq rfl
  | cons j rest ih => exact fun s => (checksRest_cleanUp s j).trans (ih _)

theorem Fails.checksRest {dies : Jobs.Job → Prop} {s s' : TicketStore} {jobs : Jobs.JobTable}
    {ended : List Jobs.Job} (fails : Fails dies s jobs ended s') : ChecksRest s.evidence s'.evidence := by
  rw [fails.cleaned]
  exact checksRest_foldl ended { s with jobs }

theorem checksRest_settleTerminal (s : TicketStore) (jobID ticketID : UUID) :
    ChecksRest s.evidence (settleTerminal s jobID ticketID).evidence := by
  unfold settleTerminal
  cases jobBatch s jobID with
  | none => exact .of_eq rfl
  | some id => exact checksRest_discardBatch s id

theorem checksRest_abandonBatch (s : TicketStore) (t : FrictionTicket) (batchID : UUID) :
    ChecksRest s.evidence (abandonBatch s t batchID).evidence := by
  unfold abandonBatch
  dsimp only
  split <;> exact checksRest_discardBatch s batchID

theorem Selects.checksRest {s s' : ConfirmStore} {jobID batchID : UUID} {now : Timestamp}
    (selects : Selects s t jobID batchID now s') :
    ChecksRest s.store.evidence s'.store.evidence := by
  refine ⟨by rw [selects.evidence], by rw [selects.evidence], fun id b found => ⟨b, ?_, rfl, fun h => h⟩⟩
  rw [Table.find?_insert? selects.batches, if_neg]
  · exact found
  · rintro rfl
    rw [(Table.insert?_spec selects.batches).1] at found
    cases found

variable {batchID : UUID}

theorem Begins.checksRest {s s' : ConfirmStore} {job : FrictionJob} {now : Timestamp}
    (begins : Begins s job batchID now s') : ChecksRest s.store.evidence s'.store.evidence := by
  cases begins with
  | gone | lost | idle | resumed => exact .of_eq rfl
  | @terminal t => exact checksRest_settleTerminal s.store job.id t.id
  | selected _ _ _ selects => exact selects.checksRest

theorem StagesMember.holds {s s' : ConfirmStore} {job : FrictionJob} {t : FrictionTicket}
    {batchID : UUID} {member : BatchMember} {left : List BatchMember} {r : CheckResult}
    {attemptID : UUID} {now : Timestamp} (holds : ChecksHold s.store.evidence)
    (stages : StagesMember s job t batchID member left r attemptID now s') :
    ChecksHold s'.store.evidence := by
  cases stages with
  | torn | kept => exact holds
  | @staged b attempts intact found stages inserted =>
    have none_ : ∀ a ∈ s.store.evidence.attempts.rows, ¬(a.batchID = batchID ∧
        a.sessionID = member.sessionID) := by
      intro a present same
      exact stages.2.2 (List.any_eq_true.mpr ⟨a, present, decide_eq_true same⟩)
    have rows : ∀ a, a ∈ attempts.rows ↔
        a = r.attempt attemptID batchID b.ticketID member.sessionID ∨
          a ∈ s.store.evidence.attempts.rows := fun a => Table.mem_insert? inserted
    refine ⟨fun c checked => ?_, fun a present => ?_, fun a present a' present' batch session => ?_⟩
    · obtain ⟨a, b', attempt, rest⟩ := holds.checked c checked
      refine ⟨a, b', ?_, rest⟩
      change attempts.find? c.attemptID = some a
      rw [Table.find?_insert? inserted, if_neg]
      · exact attempt
      · intro taken
        rw [taken, (Table.insert?_spec inserted).1] at attempt
        cases attempt
    · rcases (rows a).mp present with rfl | old
      · exact ⟨b, found, rfl⟩
      · exact holds.placed a old
    · rcases (rows a).mp present with rfl | old <;> rcases (rows a').mp present' with rfl | old'
      · rfl
      · exact absurd ⟨batch.symm, session.symm⟩ (none_ a' old')
      · exact absurd ⟨batch, session⟩ (none_ a old)
      · exact holds.once a old a' old' batch session

theorem mem_foldl_insertIgnore {cs : List Check} {checks : Table Check.key}
    (member : c ∈ (cs.foldl Table.insertIgnore checks).rows) : c ∈ checks.rows ∨ c ∈ cs := by
  have found := Table.find?_key _ member
  rw [Table.find?_foldl_insertIgnore, Option.or_eq_some_iff] at found
  rcases found with old | ⟨-, new⟩
  · exact Or.inl (Table.mem_of_find? old)
  · exact Or.inr (List.mem_of_find?_eq_some new)

variable {s x : ConfirmStore}

theorem Finalizes.find_batch (finalizes : Finalizes s t batchID x) (id : UUID) :
    x.store.evidence.batches.find? id =
      if id = batchID then (s.store.evidence.batches.find? batchID).map ConfirmBatch.finalize
      else s.store.evidence.batches.find? id := by
  rw [finalizes.evidence]
  exact Table.find?_updateKey s.store.evidence.batches batchID ConfirmBatch.finalize (fun _ => rfl) id

theorem Finalizes.batchesKept (finalizes : Finalizes s t batchID x) :
    BatchesKept s.store.evidence x.store.evidence := by
  intro id b found
  rw [finalizes.find_batch]
  split
  · rename_i own
    exact ⟨b.finalize, by rw [← own, found, Option.map_some], rfl, fun _ => rfl⟩
  · exact ⟨b, found, rfl, fun status => status⟩

theorem Finalizes.attempts (finalizes : Finalizes s t batchID x) :
    x.store.evidence.attempts = s.store.evidence.attempts := by rw [finalizes.evidence]

theorem Finalizes.holds {s x : ConfirmStore} {t : FrictionTicket} {batchID : UUID}
    (holds : ChecksHold s.store.evidence) (finalizes : Finalizes s t batchID x) :
    ChecksHold x.store.evidence := by
  have kept := finalizes.batchesKept
  have attempts := finalizes.attempts
  refine ⟨fun c member => ?_, fun a present => ?_, ?_⟩
  · rw [finalizes.evidence] at member
    rcases mem_foldl_insertIgnore member with old | new
    · obtain ⟨a, b, attempt, session, batch, status⟩ := holds.checked c old
      obtain ⟨b', batch', -, still⟩ := kept _ b batch
      exact ⟨a, b', attempts ▸ attempt, session, batch', still status⟩
    · obtain ⟨a, chosen, rfl⟩ := List.mem_map.mp new
      obtain ⟨present, conclusive⟩ := List.mem_filter.mp chosen
      obtain ⟨b, batch, -⟩ := holds.placed a present
      refine ⟨a, b.finalize, attempts ▸ s.store.evidence.attempts.find?_key present, rfl, ?_, rfl⟩
      have own := (of_decide_eq_true conclusive).1
      rw [finalizes.find_batch, if_pos own, ← own, batch, Option.map_some]
  · obtain ⟨b, batch, own⟩ := holds.placed a (attempts ▸ present)
    obtain ⟨b', batch', own', -⟩ := kept _ b batch
    exact ⟨b', batch', own'.trans own⟩
  · rw [attempts]
    exact holds.once

theorem Prepares.holds {s x : ConfirmStore} {job : FrictionJob} {m : Memory} {plan : TransitionPlan}
    {t : FrictionTicket} (holds : ChecksHold s.store.evidence) (prepares : Prepares s job m plan x t) :
    ChecksHold x.store.evidence := by
  cases prepares with
  | finalized _ _ _ finalizes => exact finalizes.holds holds
  | counted => exact holds

theorem Concludes.holds {c : ConfirmSettings} {s s₁ : ConfirmStore} {job : FrictionJob}
    {d : FinalDraws} {m : Memory} {next : Bool} (holds : ChecksHold s.store.evidence)
    (concludes : Concludes c s job d m next s₁) : ChecksHold s₁.store.evidence := by
  cases concludes with
  | gone | again | unknown | terminal | outdated => exact holds
  | stale => exact holds.rest (checksRest_abandonBatch ..)
  | applied prepares applied =>
    exact (prepares.holds holds).aside (carried_carryOut c prepares.known applied).evidence

theorem checksHold_finish {c : ConfirmSettings} {s s' : ConfirmStore} {job : FrictionJob}
    {d : FinalDraws} {m : Memory} (holds : ChecksHold s.store.evidence) (final : Memory.Final m)
    (done : finish c s job d m = .ok s') : ChecksHold s'.store.evidence := by
  obtain ⟨-, next, s₁, concludes, -, last⟩ := finish_concludes final done
  have after := concludes.holds holds
  have same : s'.store.evidence = s₁.store.evidence := by
    split at last
    · cases last with
      | gone | terminal | finished | queued => rfl
    · rw [last]
      rfl
  rw [same]
  exact after

theorem checksHold_step (c : ConfirmSettings) (a : Action) (holds : ChecksHold s.store.evidence) :
    ChecksHold (step c s a).store.evidence := by
  cases a with
  | ticket a =>
    unfold step
    dsimp only
    split
    · rename_i beside
      exact holds.aside (besides_step beside).evidence
    · exact holds
  | scheduleFrictionReconciliation => exact holds
  | beginConfirm job batchID now clock clock' =>
    unfold step
    dsimp only
    split
    · exact holds
    · cases done : Tickets.beginConfirm s job batchID now clock clock' with
      | error e => exact holds
      | ok s' => exact holds.rest (beginConfirm_begins done).2.checksRest
  | beginReconcile job clock =>
    unfold step
    dsimp only
    split
    · exact holds
    · rw [store_beginReconcile]
      exact holds
  | read job =>
    unfold step
    dsimp only
    split <;> exact holds
  | stageMember job r attemptID now clock clock' =>
    unfold step
    dsimp only
    split
    · rename_i t batchID member left remembered
      cases done : Tickets.stageMember s job t batchID member left r attemptID now clock clock' with
      | error e => exact holds
      | ok s' => exact (stageMember_stages done).2.holds holds
    · exact holds
  | readGate job clock =>
    unfold step
    dsimp only
    split <;> exact holds
  | answerGate job answer decisionID now =>
    unfold step
    dsimp only
    split
    · rename_i plan batchID n left remembered
      cases done : Tickets.answerGate s job plan batchID n left decisionID now answer with
      | error e => exact holds
      | ok s' =>
        have same := store_answerGate done
        change ChecksHold s'.store.evidence
        rw [same]
        exact holds
    · exact holds
  | finish job d =>
    unfold step
    dsimp only
    split
    · rename_i m chosen
      obtain ⟨-, final⟩ := Option.filter_eq_some_iff.mp chosen
      cases done : finish c s job d m with
      | error e => exact holds
      | ok s' =>
        have after : ChecksHold s'.store.evidence :=
          checksHold_finish holds (of_decide_eq_true final) done
        exact after
    · exact holds
  | failJob jobID workerID leaseGeneration error options jitter now clock =>
    obtain ⟨jobs, ended, fails⟩ :=
      fails_failJob s.store jobID workerID leaseGeneration error options jitter now clock
    exact holds.rest fails.checksRest
  | requeueStaleJobs candidateIDs jitter now =>
    obtain ⟨jobs, ended, fails⟩ := fails_requeueStaleJobs s.store candidateIDs jitter now
    exact holds.rest fails.checksRest

theorem checksHold_run (c : ConfirmSettings) (actions : List Action) :
    ChecksHold ((machine c).run .empty actions).store.evidence :=
  Machine.invariant_run (machine c) (fun s : ConfirmStore => ChecksHold s.store.evidence)
    (fun _ a holds => checksHold_step c a holds) checksHold_empty actions

/-- What `finalizeBatch` answers. -/
structure FinalizedBatch where
  finalized : Bool
  evidenceVersion : Nat
  stats : CohortStats
  deriving DecidableEq

/-- `finalizeBatch` with its answer, under the lock of the ticket. -/
def finalizedBatch (s : ConfirmStore) (ticket : FrictionTicket) (batchID : UUID) :
    Except String (ConfirmStore × FinalizedBatch) := do
  let t ← lockTicket s.store ticket
  let (s', finalized) ← finalizeBatch s t batchID
  .ok (s', {
    finalized
    evidenceVersion := if finalized then t.evidenceVersion + 1 else t.evidenceVersion
    stats := cohortStats s'.store.evidence t })

/-- The batch of the ticket is staging, with an attempt of each of its recordings. -/
def CompleteBatch (s : ConfirmStore) (t : FrictionTicket) (batchID : UUID) : Prop :=
  ((getBatch s t.id batchID).any fun b => b.status = .staging) ∧
    (s.store.evidence.attempts.select fun a => a.batchID = batchID).length =
      (s.selection batchID).manifest.length
  deriving Decidable

theorem finalizeBatch_complete (complete : CompleteBatch s t batchID) :
    ∃ x, finalizeBatch s t batchID = .ok (x, true) := by
  obtain ⟨staged, all_⟩ := complete
  obtain ⟨b, own, staging⟩ := (Option.any_eq_true ..).mp staged
  unfold finalizeBatch
  rw [own]
  dsimp only
  rw [if_neg (not_not.mpr (of_decide_eq_true staging)), if_neg (not_not.mpr all_)]
  exact ⟨_, rfl⟩

theorem finalizedBatch_complete (known : s.store.tickets.find? t.id = some t)
    (finalized : finalizeBatch s t batchID = .ok (x, true)) :
    finalizedBatch s t batchID =
      .ok (x, ⟨true, t.evidenceVersion + 1, cohortStats x.store.evidence t⟩) := by
  have locked : lockTicket s.store t = .ok t := by
    rw [lockTicket, known, Option.filter_some_pos (by simp)]
    rfl
  rw [finalizedBatch, locked]
  change (finalizeBatch s t batchID >>= _) = _
  rw [finalized]
  rfl

section Preview

variable {s x : ConfirmStore} {t : FrictionTicket} {batchID : UUID}

theorem cohortRow_kept (holds : ChecksHold s.store.evidence)
    (known : s.store.tickets.find? t.id = some t) (finalizes : Finalizes s t batchID x)
    (member : c ∈ s.store.evidence.checks.rows) :
    (cohortRow x.store.evidence t c).map countedCheck = finalizedRow s t.id c := by
  obtain ⟨a, b, attempt, -, batch, status⟩ := holds.checked c member
  obtain ⟨b', batch', -, still⟩ := finalizes.batchesKept _ b batch
  have arrivals : x.store.evidence.ticketMatches = s.store.evidence.ticketMatches := by
    rw [finalizes.evidence]
  by_cases own : c.ticketID = t.id
  · have key : c.key = (t.id, c.sessionID) := by rw [Check.key, own]
    cases found : s.store.evidence.ticketMatches.find? (t.id, c.sessionID) with
    | none =>
      simp [cohortRow, finalizedRow, previewRow, arrivals, key, found, known, attempt, own]
    | some m =>
      by_cases recent : InCohort t m <;>
        simp [cohortRow, finalizedRow, previewRow, arrivals, finalizes.attempts, key, found, known,
          attempt, batch, batch', own, status, still status, recent, countedCheck]
  · cases found : s.store.evidence.ticketMatches.find? c.key <;>
      simp [cohortRow, finalizedRow, arrivals, finalizes.attempts, found, attempt, own]

theorem cohortRow_staged (holds : ChecksHold s.store.evidence) (known : s.store.tickets.find? t.id = some t)
    (finalizes : Finalizes s t batchID x) {a : CheckAttempt} (member : a ∈ s.store.evidence.attempts.rows) :
    (if Conclusive s batchID a ∧
        (s.store.evidence.checks.find? (a.check (s.outcome a.id)).key).isNone then
      (cohortRow x.store.evidence t (a.check (s.outcome a.id))).map countedCheck else none) =
      stagedRow s t.id batchID a := by
  obtain ⟨b, own, staging⟩ := finalizes.batch
  obtain ⟨batch, ticket⟩ := Option.filter_eq_some_iff.mp own
  have ticketID : b.ticketID = t.id := of_decide_eq_true ticket
  have arrivals : x.store.evidence.ticketMatches = s.store.evidence.ticketMatches := by
    rw [finalizes.evidence]
  obtain ⟨b', placed, same⟩ := holds.placed a member
  by_cases inBatch : a.batchID = batchID
  · obtain rfl : b' = b := by
      rw [inBatch, batch, Option.some.injEq] at placed
      exact placed.symm
    have place : a.ticketID = t.id := same.symm.trans ticketID
    have attempt : x.store.evidence.attempts.find? a.id = some a := by
      rw [finalizes.attempts]
      exact s.store.evidence.attempts.find?_key member
    have finalized : x.store.evidence.batches.find? batchID = some b'.finalize := by
      rw [finalizes.find_batch, if_pos rfl, batch, Option.map_some]
    have status : b'.finalize.status = .finalized := rfl
    by_cases conclusive : s.outcome a.id = .unavailable
    · simp [Conclusive, stagedRow, conclusive]
    · cases free : s.store.evidence.checks.find? (t.id, a.sessionID) with
      | some c => simp [stagedRow, CheckAttempt.check, Check.key, place, free]
      | none =>
        cases found : s.store.evidence.ticketMatches.find? (t.id, a.sessionID) with
        | none =>
          simp [stagedRow, previewRow, cohortRow, CheckAttempt.check, Check.key, place, arrivals, found,
            known]
        | some m =>
          by_cases recent : InCohort t m <;>
            simp [Conclusive, stagedRow, previewRow, cohortRow, CheckAttempt.check, Check.key, place,
              arrivals, found, known, free, attempt, finalized, status, conclusive, batch, staging,
              inBatch, recent, countedCheck]
  · simp [Conclusive, stagedRow, inBatch]

theorem batchChecks_distinct (holds : ChecksHold s.store.evidence) :
    ((batchChecks s batchID).map Check.key).Nodup := by
  rw [batchChecks, List.map_map]
  refine List.Nodup.map_on (fun a chosen a' chosen' same => ?_) (Table.nodup_select ..)
  obtain ⟨present, conclusive⟩ := List.mem_filter.mp chosen
  obtain ⟨present', conclusive'⟩ := List.mem_filter.mp chosen'
  exact holds.once a present a' present'
    ((of_decide_eq_true conclusive).1.trans (of_decide_eq_true conclusive').1.symm)
    (congrArg Prod.snd same)

theorem previewCohort_finalizes (holds : ChecksHold s.store.evidence)
    (known : s.store.tickets.find? t.id = some t) (finalizes : Finalizes s t batchID x) :
    cohortStats x.store.evidence t = previewCohort s t.id (some batchID) := by
  rw [cohortStats_eq, cohortRows_eq, List.map_filterMap, previewCohort]
  refine summarizeChecks_perm ?_
  have rows : x.store.evidence.checks.rows.Perm (s.store.evidence.checks.rows ++
      (batchChecks s batchID).filter fun c => (s.store.evidence.checks.find? c.key).isNone) := by
    rw [finalizes.evidence]
    exact Table.foldl_insertIgnore_perm _ _ (batchChecks_distinct holds)
  refine (rows.filterMap _).trans (List.Perm.of_eq ?_)
  rw [List.filterMap_append]
  refine congrArg₂ (· ++ ·) (List.filterMap_congr fun c member => ?_) ?_
  · exact cohortRow_kept holds known finalizes member
  · rw [batchChecks, List.filter_map, List.filterMap_map, Table.select, List.filter_filter,
      List.filterMap_filter]
    refine List.filterMap_congr fun a member => ?_
    rw [← cohortRow_staged holds known finalizes member]
    refine if_congr ?_ rfl rfl
    rw [Bool.and_eq_true, decide_eq_true_eq]
    exact and_comm

end Preview

/-- A purge takes a published ticket of finalized checks off publication where the worker's bar
fails. -/
def PurgeAgrees (s : TicketStore) : Prop :=
  ∀ t ∈ s.tickets.rows, t.status = .published →
    (∀ c ∈ s.evidence.checks.rows, c.ticketID = t.id → c.Finalized s.evidence) →
    ∀ now, Unpublishes s t.id now ↔ evaluateBar (cohortStats s.evidence t) .published
      ((liveIncident s t).map Incident.fixSubstate) = .fails

/-- A complete batch is finalized with the counts of its preview. -/
def PreviewAgrees (s : ConfirmStore) : Prop :=
  ∀ t ∈ s.store.tickets.rows, ∀ batchID, CompleteBatch s t batchID →
    ∃ s' answer, finalizedBatch s t batchID = .ok (s', answer) ∧ answer.finalized = true ∧
      answer.stats = previewCohort s t.id (some batchID)

/-- The bar is one, after every run of transactions on tickets and in every run of confirmations. -/
theorem barsAgree_run (c : ConfirmSettings) (transactions : List Tickets.Action)
    (confirmations : List Action) :
    PurgeAgrees (Tickets.machine.run .empty transactions) ∧
      PreviewAgrees ((machine c).run .empty confirmations) := by
  constructor
  · intro t member published finalized now
    exact unpublishes_iff_fails (sound_run transactions) member published finalized now
  · intro t member batchID complete
    obtain ⟨x, finalized⟩ := finalizeBatch_complete complete
    have known := Table.find?_key _ member
    refine ⟨x, _, finalizedBatch_complete known finalized, rfl, ?_⟩
    exact previewCohort_finalizes (checksHold_run c confirmations) known
      (finalizeBatch_finalizes finalized)

section Example

/-- The second ticket of the fold is left with two checks. -/
def fewerChecks : Tickets.Action :=
  .confirm 11 ⟨0, 0, 0, false, false⟩
    ⟨[⟨11, "a", 21, .confirmed⟩, ⟨11, "b", 21, .confirmed⟩], by decide⟩
    ⟨[⟨21, 31, 11, "a", [], "", none⟩], by decide⟩ ⟨[⟨31, 11, .finalized⟩], by decide⟩

theorem barsAgree_run_fewerChecks :
    (∃ t ∈ (Tickets.machine.run .empty (foldedRun ++ [fewerChecks])).tickets.rows,
      t.status = .published ∧
        Unpublishes (Tickets.machine.run .empty (foldedRun ++ [fewerChecks])) t.id 0) ∧
    ∃ t ∈ ((machine farSettings).run .empty oneUnavailable.dropLast).store.tickets.rows,
      ∃ s' answer, finalizedBatch ((machine farSettings).run .empty oneUnavailable.dropLast) t 30 =
        .ok (s', answer) ∧ answer.stats = ⟨2, 2, 0, 0, 0, false⟩ := by
  have agree := barsAgree_run farSettings (foldedRun ++ [fewerChecks]) oneUnavailable.dropLast
  constructor
  · have fails : ∃ t ∈ (Tickets.machine.run .empty (foldedRun ++ [fewerChecks])).tickets.rows,
        t.status = .published ∧
        (∀ c ∈ (Tickets.machine.run .empty (foldedRun ++ [fewerChecks])).evidence.checks.rows,
          c.ticketID = t.id →
            c.Finalized (Tickets.machine.run .empty (foldedRun ++ [fewerChecks])).evidence) ∧
        evaluateBar (cohortStats
            (Tickets.machine.run .empty (foldedRun ++ [fewerChecks])).evidence t) .published
          ((liveIncident (Tickets.machine.run .empty (foldedRun ++ [fewerChecks])) t).map
            Incident.fixSubstate) = .fails := by
      decide +kernel
    obtain ⟨t, member, published, finalized, fails⟩ := fails
    exact ⟨t, member, published, (agree.1 t member published finalized 0).mpr fails⟩
  · have staged : ∃ t ∈ ((machine farSettings).run .empty oneUnavailable.dropLast).store.tickets.rows,
        CompleteBatch ((machine farSettings).run .empty oneUnavailable.dropLast) t 30 ∧
        previewCohort ((machine farSettings).run .empty oneUnavailable.dropLast) t.id (some 30) =
          ⟨2, 2, 0, 0, 0, false⟩ := by
      decide +kernel
    obtain ⟨t, member, complete, preview⟩ := staged
    obtain ⟨s', answer, done, -, stats⟩ := agree.2 t member 30 complete
    exact ⟨t, member, s', answer, done, stats.trans preview⟩

end Example

end Confirmations

end Opslane.Tickets
