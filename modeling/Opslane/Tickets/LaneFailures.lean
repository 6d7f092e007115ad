import Opslane.Tickets.StepRows

/-!
# The cleanup of dead letters

A dead letter of one of the two jobs gives up its batch: a staging one is discarded, and its
ticket flagged. Nothing else of the checks changes with a failure, and the queue is written
before the cleanup.
-/

namespace Opslane.Tickets.Confirmations

open Jobs (Job)

theorem discardBatch_jobs (s : TicketStore) (batchID : UUID) : (discardBatch s batchID).jobs = s.jobs := by
  unfold discardBatch
  split
  · rfl
  · split <;> rfl

theorem discardBatch_evidence (s : TicketStore) (batchID : UUID) :
    ∃ batches, (discardBatch s batchID).evidence = { s.evidence with batches } ∧
      ∀ id, batches.find? id = (s.evidence.batches.find? id).map fun b =>
        if id = batchID ∧ b.status = .staging then b.discard else b := by
  unfold discardBatch
  split
  · rename_i absent
    refine ⟨s.evidence.batches, rfl, fun id => ?_⟩
    cases found : s.evidence.batches.find? id with
    | none => rfl
    | some b =>
      have other : id ≠ batchID := fun same => by
        rw [same, absent] at found
        cases found
      simp [other]
  · rename_i b found
    split
    · rename_i staging
      refine ⟨s.evidence.batches.updateKey batchID ConfirmBatch.discard fun _ => rfl, rfl, fun id => ?_⟩
      refine (Table.find?_updateKey s.evidence.batches batchID ConfirmBatch.discard (fun _ => rfl)
        id).trans ?_
      by_cases own : id = batchID
      · simp [own, found, staging]
      · simp [own]
    · rename_i over_
      refine ⟨s.evidence.batches, rfl, fun id => ?_⟩
      by_cases own : id = batchID
      · simp [own, found, over_]
      · simp [own]

variable {s : TicketStore}

theorem discardBatch_flags {batchID : UUID} {b : ConfirmBatch}
    (found : s.evidence.batches.find? batchID = some b) (staging : b.status = .staging)
    {t : FrictionTicket} (member : t ∈ (discardBatch s batchID).tickets.rows)
    (own : t.id = b.ticketID) : t.reconcileNeeded = true := by
  unfold discardBatch at member
  rw [found] at member
  dsimp only at member
  rw [if_pos staging] at member
  obtain ⟨u, -, rfl⟩ := (Table.mem_updateWhere s.tickets _ FrictionTicket.needReconcile
    (fun _ => rfl) t).mp member
  have named : u.id = b.ticketID := by
    split at own
    · exact own
    · exact own
  simp [named, FrictionTicket.needReconcile]

theorem failFix_jobs (s : TicketStore) (j : Job) (ticketID : UUID) (current : Bool) :
    (failFix s j ticketID current).jobs = s.jobs := by
  unfold failFix
  dsimp only
  split <;> rfl

theorem failInvestigation_jobs (s : TicketStore) (j : Job) (ticketID : UUID) :
    (failInvestigation s j ticketID).jobs = s.jobs := by
  unfold failInvestigation
  split
  · rfl
  · split
    · rfl
    · split <;> rfl

theorem attemptFailed_jobs (s : TicketStore) (jobID projectID : UUID) :
    (attemptFailed s jobID projectID).1.jobs = s.jobs := by
  apply attemptFailed_keeps (P := fun s' => s'.jobs = s.jobs) rfl
  · exact fun _ batchID _ _ => discardBatch_jobs s batchID
  · exact fun _ _ _ _ same => (failFix_jobs ..).trans same
  · exact fun _ _ _ same => (failInvestigation_jobs ..).trans same

theorem cleanUp_jobs (s : TicketStore) (j : Job) : (cleanUp s j).jobs = s.jobs := by
  unfold cleanUp
  split
  · exact attemptFailed_jobs ..
  · rfl

/-- The batch a job gives up. -/
def giveUp (s : TicketStore) (j : Job) : TicketStore := j.batchID.elim s (discardBatch s)

variable {j : Job}

theorem cleanUp_lane (found : s.jobs.find? j.id = some j) (lane : Lane j) (fits : OfTicket s j)
    (confirms : ∀ id, j.batchID = some id → j.jobType = .frictionConfirm) :
    cleanUp s j = if j.status = .deadLetter then giveUp s j else s := by
  unfold cleanUp
  split
  · obtain ⟨t, member, own, project⟩ := fits
    have row : s.getTicket j.projectID t.id = some t :=
      getTicket_eq_some_iff.mpr ⟨s.tickets.find?_key member, project⟩
    have kept : (s.jobs.find? j.id).filter (fun k => k.projectID = j.projectID) = some j :=
      Option.filter_eq_some_iff.mpr ⟨found, decide_eq_true rfl⟩
    have notOther : j.jobType ≠ .fix ∧ j.jobType ≠ .investigate := by
      rcases lane with type | type <;> rw [type] <;> decide
    simp only [attemptFailed, kept, own, row, notOther.1, if_false, notOther.2, false_and]
    unfold giveUp
    cases batch : j.batchID with
    | none => cases j.jobType <;> rfl
    | some id =>
      rw [confirms id batch]
      rfl
  · rfl

theorem cleanUp_other (found : s.jobs.find? j.id = some j) (other : ¬Lane j) :
    (cleanUp s j).evidence = s.evidence := by
  unfold cleanUp
  split
  · refine (ticketsAside_attemptFailed s j.projectID ?_).2
    rw [found, Option.all_some]
    exact decide_eq_true other
  · rfl

/-- One of the jobs gives up this batch. -/
def GivesUp (ended : List Job) (id : UUID) : Prop :=
  ∃ j ∈ ended, Lane j ∧ j.status = .deadLetter ∧ j.batchID = some id
  deriving Decidable

/-- The jobs of a transaction are as they are in the queue. -/
structure Listed (s : TicketStore) (ended : List Job) : Prop where
  found : ∀ j ∈ ended, s.jobs.find? j.id = some j
  placed : ∀ j ∈ ended, Lane j → OfTicket s j
  confirms : ∀ j ∈ ended, Lane j → ∀ id, j.batchID = some id → j.jobType = .frictionConfirm

/-- What becomes of a batch. -/
def givenUp (ended : List Job) (id : UUID) (b : ConfirmBatch) : ConfirmBatch :=
  if GivesUp ended id ∧ b.status = .staging then b.discard else b

structure CleansUp (ended : List Job) (s s' : TicketStore) : Prop where
  jobs : s'.jobs = s.jobs
  rows : RowsAside s s'
  evidence : ∃ batches, s'.evidence = { s.evidence with batches } ∧
    ∀ id, batches.find? id = (s.evidence.batches.find? id).map (givenUp ended id)
  flags : ∀ id b, s.evidence.batches.find? id = some b → b.status = .staging → GivesUp ended id →
    ∀ t ∈ s.tickets.rows, t.id = b.ticketID →
      ∃ t' ∈ s'.tickets.rows, t'.id = t.id ∧ (t'.reconcileNeeded = true ∨ t'.status.Terminal)

theorem RowsAside.ofTicket {s s' : TicketStore} (aside : RowsAside s s') (fits : OfTicket s j) :
    OfTicket s' j := by
  obtain ⟨t, member, own, project⟩ := fits
  obtain ⟨t', member', row⟩ := aside.forth t member
  exact ⟨t', member', own.trans (congrArg some row.place.1.symm), row.place.2.1.trans project⟩

theorem not_givesUp_nil (id : UUID) : ¬GivesUp [] id := by
  rintro ⟨j, member, -⟩
  cases member

theorem givesUp_cons (j : Job) (ended : List Job) (id : UUID) :
    GivesUp (j :: ended) id ↔ GivesUp [j] id ∨ GivesUp ended id := by
  constructor
  · rintro ⟨k, member, gives⟩
    rcases List.mem_cons.mp member with rfl | later
    · exact Or.inl ⟨k, List.mem_singleton_self k, gives⟩
    · exact Or.inr ⟨k, later, gives⟩
  · rintro (⟨k, member, gives⟩ | ⟨k, member, gives⟩)
    · rw [List.mem_singleton.mp member] at gives
      exact ⟨j, List.mem_cons_self .., gives⟩
    · exact ⟨k, List.mem_cons_of_mem j member, gives⟩

theorem CleansUp.of_evidence {ended : List Job} {s s' : TicketStore} (jobs : s'.jobs = s.jobs)
    (rows : RowsAside s s') (evidence : s'.evidence = s.evidence)
    (none_ : ∀ id, ¬GivesUp ended id) : CleansUp ended s s' where
  jobs := jobs
  rows := rows
  evidence := by
    refine ⟨s.evidence.batches, evidence, fun id => ?_⟩
    have same : givenUp ended id = fun b => b := funext fun b => if_neg fun both => none_ id both.1
    rw [same]
    exact Option.map_id'.symm
  flags id _ _ _ gives := absurd gives (none_ id)

theorem cleansUp_cleanUp (listed : Listed s [j]) :
    CleansUp [j] s (cleanUp s j) := by
  have member := List.mem_singleton_self j
  have found := listed.found j member
  by_cases gives : ∃ id, GivesUp [j] id
  · obtain ⟨id, k, same, lane, dead, batch⟩ := gives
    rw [List.mem_singleton.mp same] at lane dead batch
    have eq : cleanUp s j = discardBatch s id := by
      rw [cleanUp_lane found lane (listed.placed j member lane) (listed.confirms j member lane),
        if_pos dead, giveUp, batch]
      rfl
    have only : ∀ id', GivesUp [j] id' ↔ id' = id := by
      intro id'
      constructor
      · rintro ⟨k, same, -, -, batch'⟩
        rw [List.mem_singleton.mp same, batch, Option.some.injEq] at batch'
        exact batch'.symm
      · rintro rfl
        exact ⟨j, member, lane, dead, batch⟩
    refine ⟨cleanUp_jobs s j, rowsAside_cleanUp s j, ?_, ?_⟩
    · obtain ⟨batches, evidence, lookup⟩ := discardBatch_evidence s id
      refine ⟨batches, eq ▸ evidence, fun id' => ?_⟩
      rw [lookup id']
      refine congrArg (Option.map · _) (funext fun b => ?_)
      exact if_congr (and_congr (only id').symm Iff.rfl) rfl rfl
    · intro id' b known staging gives t present own
      rw [(only id').mp gives] at known
      obtain ⟨t', present', row⟩ := (rowsAside_cleanUp s j).forth t present
      refine ⟨t', present', row.place.1, Or.inl ?_⟩
      rw [eq] at present'
      exact discardBatch_flags known staging present' (row.place.1.trans own)
  · have none_ : ∀ id, ¬GivesUp [j] id := fun id gives' => gives ⟨id, gives'⟩
    refine .of_evidence (cleanUp_jobs s j) (rowsAside_cleanUp s j) ?_ none_
    by_cases lane : Lane j
    · rw [cleanUp_lane found lane (listed.placed j member lane) (listed.confirms j member lane)]
      split
      · rename_i dead
        unfold giveUp
        cases batch : j.batchID with
        | none => rfl
        | some id => exact absurd ⟨j, member, lane, dead, batch⟩ (none_ id)
      · rfl
    · exact cleanUp_other found lane

theorem CleansUp.cons {ended : List Job} {s s₁ s' : TicketStore} (first : CleansUp [j] s s₁)
    (rest : CleansUp ended s₁ s') : CleansUp (j :: ended) s s' where
  jobs := rest.jobs.trans first.jobs
  rows := first.rows.trans rest.rows
  evidence := by
    obtain ⟨batches₁, evidence₁, lookup₁⟩ := first.evidence
    obtain ⟨batches, evidence, lookup⟩ := rest.evidence
    refine ⟨batches, by rw [evidence, evidence₁], fun id => ?_⟩
    rw [lookup id, evidence₁, lookup₁ id, Option.map_map]
    congr 1
    funext b
    change givenUp ended id (givenUp [j] id b) = givenUp (j :: ended) id b
    by_cases now : GivesUp [j] id ∧ b.status = .staging
    · have first : givenUp [j] id b = b.discard := if_pos now
      have both : givenUp (j :: ended) id b = b.discard :=
        if_pos ⟨(givesUp_cons ..).mpr (Or.inl now.1), now.2⟩
      rw [first, both]
      exact if_neg fun again => by cases again.2
    · have first : givenUp [j] id b = b := if_neg now
      rw [first]
      refine if_congr ⟨fun ⟨gives, staging⟩ => ?_, fun ⟨gives, staging⟩ => ?_⟩ rfl rfl
      · exact ⟨(givesUp_cons ..).mpr (Or.inr gives), staging⟩
      · exact ⟨((givesUp_cons ..).mp gives).resolve_left fun early => now ⟨early, staging⟩, staging⟩
  flags := by
    intro id b found staging gives t member own
    by_cases now : GivesUp [j] id
    · -- the first one flags the ticket, and it stays flagged
      obtain ⟨t₁, member₁, same, woken⟩ := first.flags id b found staging now t member own
      obtain ⟨t', member', row⟩ := rest.rows.forth t₁ member₁
      refine ⟨t', member', row.place.1.trans same, ?_⟩
      rcases woken with flagged | terminal
      · exact row.flag (Or.inl flagged)
      · exact Or.inr (row.terminal terminal)
    · obtain ⟨batches₁, evidence₁, lookup₁⟩ := first.evidence
      obtain ⟨t₁, member₁, row⟩ := first.rows.forth t member
      have still : s₁.evidence.batches.find? id = some b := by
        rw [evidence₁, lookup₁ id, found, Option.map_some]
        exact congrArg some (if_neg fun both => now both.1)
      obtain ⟨t', member', same, woken⟩ := rest.flags id b still staging
        (((givesUp_cons ..).mp gives).resolve_left now) t₁ member₁ (row.place.1.trans own)
      exact ⟨t', member', same.trans row.place.1, woken⟩

theorem cleansUp_foldl (ended : List Job) : ∀ s, Listed s ended →
    CleansUp ended s (ended.foldl cleanUp s) := by
  induction ended with
  | nil => exact fun s _ => .of_evidence rfl (.refl s) rfl not_givesUp_nil
  | cons j rest ih =>
    intro s listed
    have first : CleansUp [j] s (cleanUp s j) := by
      refine cleansUp_cleanUp ⟨?_, ?_, ?_⟩ <;> intro k same <;>
        rw [List.mem_singleton.mp same]
      · exact listed.found j (List.mem_cons_self ..)
      · exact listed.placed j (List.mem_cons_self ..)
      · exact listed.confirms j (List.mem_cons_self ..)
    refine first.cons (ih _ ⟨?_, ?_, ?_⟩)
    · exact fun k member => first.jobs ▸ listed.found k (List.mem_cons_of_mem j member)
    · exact fun k member lane => first.rows.ofTicket (listed.placed k (List.mem_cons_of_mem j member) lane)
    · exact fun k member => listed.confirms k (List.mem_cons_of_mem j member)

/-- A transaction fails jobs, some of them for good, and cleans up after those. -/
structure Fails (dies : Job → Prop) (s : TicketStore) (jobs : Jobs.JobTable) (ended : List Job)
    (s' : TicketStore) : Prop where
  aside : JobsAside dies (fun _ => False) s.jobs jobs
  cleaned : s' = ended.foldl cleanUp { s with jobs }
  found : ∀ j ∈ ended, jobs.find? j.id = some j
  dead : ∀ j ∈ s.jobs.rows, dies j → ∃ j' ∈ ended, Goes j j' ∧ j'.status = .deadLetter

theorem fails_failJob (s : TicketStore) (jobID : UUID) (workerID : String) (leaseGeneration : Nat)
    (error : String) (options : Jobs.FailOptions) (jitter : Nat) (now clock : Timestamp) :
    ∃ jobs ended, Fails
      (fun j => j.Owned jobID workerID leaseGeneration clock ∧ Exhausted options.exhaust j) s jobs ended
      (failJob s jobID workerID leaseGeneration error options jitter now clock) := by
  let failed := Jobs.failJob s.jobs jobID workerID leaseGeneration error options jitter now clock
  by_cases held : ∃ j, s.jobs.find? jobID = some j ∧ j.Owned jobID workerID leaseGeneration clock
  · obtain ⟨j, row, owned⟩ := held
    have member := Table.mem_of_find? row
    have any : failed.2 = true := List.any_eq_true.mpr ⟨j, member, decide_eq_true owned⟩
    have found : failed.1.find? jobID = some (Jobs.fail error options jitter now j) := by
      refine (Table.find?_updateWhere s.jobs (fun j => j.Owned jobID workerID leaseGeneration clock)
        (Jobs.fail error options jitter now) (Jobs.fail_id error options jitter now) jobID).trans ?_
      rw [row, Option.map_some, if_pos (decide_eq_true owned)]
    obtain ⟨goes, ends⟩ := fail_cases error options jitter now owned.2.2.2.1
    refine ⟨failed.1, [Jobs.fail error options jitter now j], jobsAside_failJob .., ?_, ?_, ?_⟩
    · rw [failJob]
      change (if failed.2 then (failed.1.find? jobID).elim _ (cleanUp _) else _) = _
      rw [any, if_pos rfl, found]
      rfl
    · intro k same
      rw [List.mem_singleton.mp same, goes.id, owned.1]
      exact found
    · rintro k present ⟨ownedK, exhausted⟩
      obtain rfl : k = j := s.jobs.inj present member
        (ownedK.1.trans owned.1.symm)
      refine ⟨_, List.mem_singleton_self _, goes, ?_⟩
      rcases ends with ⟨-, dead⟩ | ⟨left, -⟩
      · exact dead
      · exact absurd exhausted left
  · have none_ : ∀ j ∈ s.jobs.rows, ¬j.Owned jobID workerID leaseGeneration clock :=
      fun j present owned => held ⟨j, owned.1 ▸ s.jobs.find?_key present, owned⟩
    have any : failed.2 = false := by
      refine List.any_eq_false.mpr fun j present owned => ?_
      exact none_ j present (of_decide_eq_true owned)
    refine ⟨failed.1, [], jobsAside_failJob .., ?_, fun j member => (nomatch member), ?_⟩
    · rw [failJob]
      change (if failed.2 then (failed.1.find? jobID).elim _ (cleanUp _) else _) = _
      rw [any]
      rfl
    · exact fun j present dies => absurd dies.1 (none_ j present)

theorem fails_requeueStaleJobs (s : TicketStore) (candidateIDs : List UUID) (jitter : UUID → Nat)
    (now : Timestamp) : ∃ jobs ended, Fails (Reaped candidateIDs now) s jobs ended
      (requeueStaleJobs s candidateIDs jitter now) := by
  refine ⟨_, _, jobsAside_requeueStaleJobs s.jobs candidateIDs jitter now, rfl, ?_, ?_⟩
  · intro k member
    obtain ⟨j, stale, rfl⟩ := List.mem_map.mp member
    obtain ⟨present, taken⟩ := List.mem_filter.mp stale
    rw [Jobs.reap_id]
    refine (Table.find?_updateWhere s.jobs (fun j => j.id ∈ candidateIDs ∧ Jobs.Stale now j)
      (fun j => Jobs.reap (jitter j.id) now j) (fun j => Jobs.reap_id (jitter j.id) now j) j.id).trans ?_
    rw [s.jobs.find?_key present, Option.map_some, if_pos taken]
  · rintro j present ⟨taken, exhausted⟩
    obtain ⟨goes, ends⟩ := reap_cases (jitter j.id) now taken.2.1
    refine ⟨_, List.mem_map.mpr ⟨j, List.mem_filter.mpr ⟨present, decide_eq_true taken⟩, rfl⟩, goes, ?_⟩
    rcases ends with ⟨-, dead⟩ | ⟨left, -⟩
    · exact dead
    · exact absurd exhausted left

end Opslane.Tickets.Confirmations
