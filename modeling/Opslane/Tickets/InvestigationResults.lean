import Opslane.Tickets.InvestigationRuns

/-!
# Results of investigations

What holds of the results in every run: the execution of an incident's applied result only
grows, only the newest execution applies its result, a job applies one result at most, and a
finished investigation shows the result that was applied.
-/

namespace Opslane.Tickets.Investigations

open Jobs (Job JobTable)

theorem incident_inj {s : TicketStore} {g h : Incident} (member : g ∈ s.incidents.table.rows)
    (member' : h ∈ s.incidents.table.rows) (same : g.id = h.id) : g = h :=
  s.incidents.table.inj member member' same

theorem job_inj {jobs : JobTable} {j k : Job} (member : j ∈ jobs.rows) (member' : k ∈ jobs.rows)
    (same : j.id = k.id) : j = k :=
  jobs.inj member member' same

/-- The job is there, and is about this incident. -/
def JobOn (jobs : JobTable) (jobID errorGroupID : UUID) : Prop :=
  ∃ j ∈ jobs.rows, j.id = jobID ∧ j.errorGroupID = some errorGroupID

theorem JobOn.kept {jobs jobs' : JobTable} (queue : QueueKept jobs jobs') {jobID errorGroupID : UUID}
    (on : JobOn jobs jobID errorGroupID) : JobOn jobs' jobID errorGroupID := by
  obtain ⟨j, member, id, group⟩ := on
  obtain ⟨j', member', same⟩ := queue.forth j member
  exact ⟨j', member', same.id.trans id, same.errorGroupID.trans group⟩

theorem JobOn.inj {jobs : JobTable} {jobID group group' : UUID} (on : JobOn jobs jobID group)
    (on' : JobOn jobs jobID group') : group = group' := by
  obtain ⟨j, member, id, own⟩ := on
  obtain ⟨k, member', id', own'⟩ := on'
  obtain rfl := job_inj member member' (id.trans id'.symm)
  exact Option.some.inj (own.symm.trans own')

/-- The execution has begun on the incident, which may have begun newer ones. -/
def BegunOn (s : TicketStore) (errorGroupID : UUID) (execution : Nat) : Prop :=
  ∃ g ∈ s.incidents.table.rows, g.id = errorGroupID ∧ execution ≤ g.investigationExecution

/-- The incident shows one applied result, of the execution that was applied last and began
last, and every signal it explains was among the confirmed ones of its snapshot. -/
def FromResult (s : InvestigationStore) (g : Incident) : Prop :=
  ∃ r ∈ s.results.rows, r.applied = true ∧ r.errorGroupID = g.id ∧
    r.execution = s.resultExecution g.id ∧ r.execution = g.investigationExecution ∧
    ∃ v, r.result = .verdict v ∧ g.rootCause = some v.reason ∧
      g.explainedSignalIDs = some v.explains ∧ g.evidenceVersionUsed = some r.evidenceVersion ∧
      ∃ b ∈ s.begun, b.job.id = r.jobID ∧ b.job.errorGroupID = g.id ∧ b.execution = r.execution ∧
        b.evidenceVersion = r.evidenceVersion ∧ ∀ id ∈ v.explains, id ∈ b.signalIDs

structure Ordered (s : InvestigationStore) : Prop where
  begun : ∀ b ∈ s.begun, JobOn s.store.jobs b.job.id b.job.errorGroupID ∧
    BegunOn s.store b.job.errorGroupID b.execution
  applied : ∀ r ∈ s.results.rows, r.applied = true →
    JobOn s.store.jobs r.jobID r.errorGroupID ∧ r.execution ≤ s.resultExecution r.errorGroupID
  order : ∀ b ∈ s.begun, ∀ r ∈ s.results.rows, r.applied = true → r.jobID = b.job.id →
    b.execution ≤ r.execution
  once : ∀ r ∈ s.results.rows, ∀ r' ∈ s.results.rows, r.applied = true → r'.applied = true →
    r.jobID = r'.jobID → r = r'
  done : ∀ g ∈ s.store.incidents.table.rows, g.investigationStatus = some .done → FromResult s g

theorem ordered_empty : Ordered .empty where
  begun := by simp [InvestigationStore.empty]
  applied := by simp [InvestigationStore.empty, Table.empty]
  order := by simp [InvestigationStore.empty]
  once := by simp [InvestigationStore.empty, Table.empty]
  done := by simp [InvestigationStore.empty, TicketStore.empty, IncidentTable.empty, Table.empty]

variable {s : InvestigationStore}

theorem fromResult_of_spared {flies : UUID → Prop} {g g' : Incident} (spared : g.Spared flies g')
    (done : g'.investigationStatus = some .done)
    (shown : g.investigationStatus = some .done → FromResult s g) : FromResult s g' := by
  rcases spared.status with ⟨same, evidence⟩ | ⟨-, undone⟩
  · obtain ⟨r, member, applied, group, newest, current, v, result, cause, explained, version, b, begun,
      job, own, rest⟩ := shown (same.symm.trans done)
    refine ⟨r, member, applied, group.trans spared.key.1.symm, ?_, current.trans spared.execution.symm,
      v, result, spared.cause.trans cause, spared.explained.trans explained, evidence.trans version, b,
      begun, job, own.trans spared.key.1.symm, rest⟩
    rw [spared.key.1]
    exact newest
  · exact absurd done undone

theorem Ordered.rests {s s' : InvestigationStore} (ordered : Ordered s) (rests : Rests s s') :
    Ordered s' := by
  have old : ∀ r ∈ s'.results.rows, r.applied = true → r ∈ s.results.rows := by
    intro r member applied
    rcases rests.results r member with before | unapplied
    · exact before
    · simp [applied] at unapplied
  refine ⟨fun b member => ?_, fun r member applied => ?_, fun b member r fact applied job => ?_,
    fun r member r' member' applied applied' same => ?_, fun g' member done => ?_⟩
  · rw [rests.begun] at member
    obtain ⟨on, g, row, id, past⟩ := ordered.begun b member
    obtain ⟨g', row', spared⟩ := rests.store.kept g row
    exact ⟨on.kept rests.store.queue, g', row', spared.key.1.trans id, spared.execution ▸ past⟩
  · obtain ⟨on, past⟩ := ordered.applied r (old r member applied) applied
    rw [rests.resultExecution]
    exact ⟨on.kept rests.store.queue, past⟩
  · exact ordered.order b (rests.begun ▸ member) r (old r fact applied) applied job
  · exact ordered.once r (old r member applied) r' (old r' member' applied') applied applied' same
  · have carried : ∀ g, FromResult s g → FromResult s' g := by
      rintro g ⟨r, fact, applied, group, newest, current, v, result, cause, explained, version, b, begun,
        rest⟩
      exact ⟨r, rests.kept r fact, applied, group, rests.resultExecution ▸ newest, current, v, result,
        cause, explained, version, b, rests.begun ▸ begun, rest⟩
    rcases rests.store.origin g' member with ⟨g, row, spared⟩ | ⟨undone, -⟩
    · exact carried g' (fromResult_of_spared spared done (ordered.done g row))
    · exact absurd done undone

theorem Ordered.begins {s s' : InvestigationStore} (ordered : Ordered s) {b : InvestigationSnapshot}
    {g : Incident} (begins : Begins s s' b g) : Ordered s' := by
  have rows : ∀ h', h' ∈ s'.store.incidents.table.rows ↔ ∃ h ∈ s.store.incidents.table.rows,
      (if h.id = g.id then h.beginInvestigation else h) = h' := by
    intro h'
    rw [begins.incidents]
    refine (Table.mem_updateWhere s.store.incidents.table (fun h => h.id = g.id)
      Incident.beginInvestigation (fun _ => rfl) h').trans ?_
    simp only [decide_eq_true_eq]
  have past : ∀ errorGroupID execution, BegunOn s.store errorGroupID execution →
      BegunOn s'.store errorGroupID execution := by
    rintro errorGroupID execution ⟨h, row, id, past⟩
    refine ⟨_, (rows _).mpr ⟨h, row, rfl⟩, ?_⟩
    split
    · exact ⟨id, Nat.le_succ_of_le past⟩
    · exact ⟨id, past⟩
  refine ⟨fun c member => ?_, fun r member applied => ?_, fun c member r fact applied job => ?_,
    fun r member r' member' => ?_, fun h' member done => ?_⟩
  · rcases List.mem_cons.mp (begins.begun ▸ member : c ∈ b :: s.begun) with rfl | old
    · refine ⟨JobOn.kept begins.queue begins.job, _, (rows _).mpr ⟨g, begins.member, rfl⟩, ?_⟩
      rw [if_pos rfl, begins.execution]
      exact ⟨begins.accepts.1, Nat.le_refl _⟩
    · obtain ⟨on, begun⟩ := ordered.begun c old
      exact ⟨on.kept begins.queue, past _ _ begun⟩
  · rw [begins.results] at member
    obtain ⟨on, newest⟩ := ordered.applied r member applied
    rw [begins.resultExecution]
    exact ⟨on.kept begins.queue, newest⟩
  · rw [begins.results] at fact
    rcases List.mem_cons.mp (begins.begun ▸ member : c ∈ b :: s.begun) with rfl | old
    · exact absurd ⟨r, fact, job, applied⟩ begins.fresh
    · exact ordered.order c old r fact applied job
  · rw [begins.results] at member member'
    exact ordered.once r member r' member'
  · obtain ⟨h, row, rfl⟩ := (rows h').mp member
    split at done
    · simp [Incident.beginInvestigation] at done
    · rename_i other
      obtain ⟨r, fact, applied, group, newest, current, v, result, cause, explained, version, c, begun,
        rest⟩ := ordered.done h row done
      rw [if_neg other]
      exact ⟨r, begins.results ▸ fact, applied, group, begins.resultExecution ▸ newest, current, v,
        result, cause, explained, version, c, begins.begun ▸ List.mem_cons_of_mem b begun, rest⟩

variable {b : InvestigationSnapshot}

theorem doneVerdict_spec {result : InvestigationOutcome} {v : FrictionVerdict}
    (found : doneVerdict b result = some v) :
    result = .verdict v ∧ ∀ id ∈ v.explains, id ∈ b.signalIDs := by
  obtain ⟨verdict, valid⟩ := Option.filter_eq_some_iff.mp found
  obtain ⟨⟨-, -, known⟩, -⟩ := of_decide_eq_true valid
  refine ⟨?_, fun id member => known id (List.mem_append_left _ member)⟩
  cases result with
  | verdict w =>
    cases verdict
    rfl
  | incomplete | failed => cases verdict

theorem Ordered.applies {s s' : InvestigationStore} (ordered : Ordered s) {b : InvestigationSnapshot}
    {result : InvestigationOutcome} {g : Incident} {clock : Timestamp}
    (applies : Applies s s' b result g clock) : Ordered s' := by
  obtain ⟨F, rows, shape⟩ := applies.concluded
  have work : ∀ h, SameWork h (F h) := by
    intro h
    by_cases own : h.id = g.id
    · exact ((shape h).2 own).same
    · rw [(shape h).1 own]
      exact ⟨⟨rfl, rfl, rfl⟩, rfl, rfl⟩
  obtain ⟨onBegun, g', row', id', past'⟩ := ordered.begun b applies.begun
  obtain rfl : g' = g := incident_inj row' applies.member (id'.trans applies.incident.symm)
  have current : b.execution = g'.investigationExecution := Nat.le_antisymm past' applies.newest.1
  have fact : ∀ r, r ∈ s'.results.rows ↔ r = (b.fact result).apply ∨ r ∈ s.results.rows := by
    intro r
    rw [applies.results, List.mem_cons]
  -- Every execution of the job that began is at most this one.
  have last : ∀ c ∈ s.begun, c.job.id = b.job.id → c.execution ≤ b.execution := by
    intro c begun same
    obtain ⟨on, h, row, id, past⟩ := ordered.begun c begun
    have group : c.job.errorGroupID = b.job.errorGroupID := (same ▸ on).inj onBegun
    obtain rfl : h = g' := incident_inj row row' (id.trans (group.trans id'.symm))
    exact past.trans applies.newest.1
  -- No result of the job was applied before.
  have first : ∀ r ∈ s.results.rows, r.applied = true → r.jobID ≠ b.job.id := by
    intro r member applied same
    obtain ⟨on, newest⟩ := ordered.applied r member applied
    have group : r.errorGroupID = g'.id := ((same ▸ on).inj onBegun).trans id'.symm
    rw [group] at newest
    have below := ordered.order b applies.begun r member applied same
    have above := applies.newest.2
    omega
  refine ⟨fun c member => ?_, fun r member applied => ?_, fun c member r known applied job => ?_,
    fun r member r' member' applied applied' same => ?_, fun h' member done => ?_⟩
  · rw [applies.begun'] at member
    obtain ⟨on, h, row, id, past⟩ := ordered.begun c member
    refine ⟨on.kept applies.queue, F h, ?_, (work h).1.1.trans id, (work h).2.1 ▸ past⟩
    rw [rows]
    exact List.mem_map_of_mem row
  · rw [applies.resultExecution]
    rcases (fact r).mp member with rfl | old
    · refine ⟨onBegun.kept applies.queue, ?_⟩
      rw [show (b.fact result).apply.errorGroupID = g'.id from id'.symm, Function.update_self]
      exact Nat.le_refl _
    · obtain ⟨on, newest⟩ := ordered.applied r old applied
      refine ⟨on.kept applies.queue, ?_⟩
      by_cases own : r.errorGroupID = g'.id
      · rw [own, Function.update_self]
        rw [own] at newest
        exact newest.trans (Nat.le_of_lt applies.newest.2)
      · rw [Function.update_of_ne own]
        exact newest
  · rw [applies.begun'] at member
    rcases (fact r).mp known with rfl | old
    · exact last c member job.symm
    · exact ordered.order c member r old applied job
  · rcases (fact r).mp member with rfl | old
    · rcases (fact r').mp member' with rfl | old'
      · rfl
      · exact absurd same.symm (first r' old' applied')
    · rcases (fact r').mp member' with rfl | old'
      · exact absurd same (first r old applied)
      · exact ordered.once r old r' old' applied applied' same
  · rw [rows] at member
    obtain ⟨h, row, rfl⟩ := List.mem_map.mp member
    by_cases own : h.id = g'.id
    · have ended := (shape h).2 own
      obtain ⟨v, found⟩ := Option.isSome_iff_exists.mp (ended.status done)
      obtain ⟨verdict, known⟩ := doneVerdict_spec found
      obtain rfl : h = g' := incident_inj row row' own
      refine ⟨_, (fact _).mpr (Or.inl rfl), rfl, id'.symm.trans (work h).1.1.symm, ?_,
        current.trans (work h).2.1.symm, v, verdict, ?_, ?_, ended.evidence, b,
        applies.begun' ▸ applies.begun, rfl, id'.symm.trans (work h).1.1.symm, rfl, rfl, known⟩
      · rw [(work h).1.1, applies.resultExecution, Function.update_self]
        rfl
      · rw [ended.cause, found, Option.map_some]
      · rw [ended.explained, found, Option.elim_some]
    · rw [(shape h).1 own] at done ⊢
      obtain ⟨r, known, applied, group, newest, now, v, verdict, cause, explained, version, c, begun,
        rest⟩ := ordered.done h row done
      refine ⟨r, (fact r).mpr (Or.inr known), applied, group, ?_, now, v, verdict, cause, explained,
        version, c, applies.begun' ▸ begun, rest⟩
      rw [applies.resultExecution, Function.update_of_ne own]
      exact newest

theorem Ordered.step {s : InvestigationStore} (ordered : Ordered s) (a : Action) :
    Ordered (step s a) := by
  cases effect_step s a with
  | begins b g _ begins => exact ordered.begins begins
  | applies b result g clock _ applies => exact ordered.applies applies
  | rests rests => exact ordered.rests rests

theorem ordered_run (actions : List Action) : Ordered (machine.run .empty actions) :=
  machine.invariant_run Ordered (fun _ a ordered => ordered.step a) ordered_empty actions

/-- No publication has more investigations than its share. -/
def Shared (s : InvestigationStore) : Prop :=
  ∀ groupID generation,
    (investigations s.store.jobs groupID generation).length ≤ maxInvestigationsPerGeneration

theorem Effect.queue {a : Action} {s s' : InvestigationStore} (effect : Effect a s s') :
    QueueKept s.store.jobs s'.store.jobs := by
  cases effect with
  | begins b g _ begins => exact begins.queue
  | applies b result g clock _ applies => exact applies.queue
  | rests rests => exact rests.store.queue

theorem shared_run (actions : List Action) : Shared (machine.run .empty actions) := by
  refine machine.invariant_run Shared (fun s a shared groupID generation => ?_) ?_ actions
  · exact ((effect_step s a).queue.capped groupID generation).trans
      (Nat.max_le.mpr ⟨shared groupID generation, Nat.le_refl _⟩)
  · intro groupID generation
    exact Nat.zero_le _

/-- The result was applied just now: to the newest execution that began on its incident, by a
job that holds its lease at the last time its transaction looks, under the live generation. -/
def Earned (s : InvestigationStore) (a : Action) (r : InvestigationResult) : Prop :=
  ∃ b ∈ s.begun, r.jobID = b.job.id ∧ r.errorGroupID = b.job.errorGroupID ∧
    r.execution = b.execution ∧
    (∀ c ∈ s.begun, c.job.errorGroupID = r.errorGroupID → c.execution ≤ r.execution) ∧
    (∃ g ∈ s.store.incidents.table.rows, g.id = r.errorGroupID ∧
      g.investigationExecution = r.execution ∧ g.status ≠ .archived) ∧
    (∃ clock, a.commitClock = some clock ∧ LeaseHeld s.store b.job clock) ∧
    ∃ t, s.store.getTicket b.job.projectID b.job.ticketID = some t ∧ Live b.job t

/-- The execution began just now, on the confirmed signals of its ticket. -/
def Snapshotted (s : InvestigationStore) (b : InvestigationSnapshot) : Prop :=
  ∃ t now, s.store.getTicket b.job.projectID b.job.ticketID = some t ∧ Live b.job t ∧
    b.evidenceVersion = t.evidenceVersion ∧
    b.signalIDs = (verifiedEvidence s.store.evidence t (some 7) now).signalIDs

theorem resultExecution_le_step (s : InvestigationStore) (a : Action) (groupID : UUID) :
    s.resultExecution groupID ≤ (step s a).resultExecution groupID := by
  cases effect_step s a with
  | begins b g _ begins => rw [begins.resultExecution]
  | applies b result g clock _ applies =>
    rw [applies.resultExecution]
    by_cases own : groupID = g.id
    · rw [own, Function.update_self]
      exact Nat.le_of_lt applies.newest.2
    · rw [Function.update_of_ne own]
  | rests rests => rw [rests.resultExecution]

theorem earned_step (ordered : Ordered s) (a : Action) {r : InvestigationResult}
    (member : r ∈ (step s a).results.rows) (applied : r.applied = true) :
    r ∈ s.results.rows ∨ Earned s a r := by
  cases effect_step s a with
  | begins b g _ begins => exact Or.inl (begins.results ▸ member)
  | applies b result g clock last applies =>
    rw [applies.results] at member
    rcases List.mem_cons.mp member with rfl | old
    · have newest : ∀ c ∈ s.begun, c.job.errorGroupID = b.job.errorGroupID →
          c.execution ≤ g.investigationExecution := by
        intro c begun same
        obtain ⟨-, h, row, id, past⟩ := ordered.begun c begun
        obtain rfl : h = g := incident_inj row applies.member
          (id.trans (same.trans applies.incident.symm))
        exact past
      refine Or.inr ⟨b, applies.begun, rfl, rfl, rfl, fun c begun same =>
        (newest c begun same).trans applies.newest.1, ⟨g, applies.member, applies.incident, ?_,
        applies.open_⟩, ⟨clock, last, applies.lease⟩, applies.live⟩
      exact Nat.le_antisymm applies.newest.1 (newest b applies.begun rfl)
    · exact Or.inl old
  | rests rests =>
    rcases rests.results r member with old | unapplied
    · exact Or.inl old
    · simp [applied] at unapplied

theorem snapshotted_step (s : InvestigationStore) (a : Action) (member : b ∈ (step s a).begun) :
    b ∈ s.begun ∨ Snapshotted s b := by
  cases effect_step s a with
  | begins c g _ begins =>
    rcases List.mem_cons.mp (begins.begun ▸ member : b ∈ c :: s.begun) with rfl | old
    · exact Or.inr begins.ticket
    · exact Or.inl old
  | applies c result g clock _ applies => exact Or.inl (applies.begun' ▸ member)
  | rests rests => exact Or.inl (rests.begun ▸ member)

/-- In every run, whatever step comes next: the execution of the applied result never
decreases, a result that is applied was earned, a job applies one result at most, a finished
incident shows the one applied result of its execution, which explains signals its snapshot
found confirmed, and no publication has more than three investigations. -/
theorem investigation_results (actions : List Action) (a : Action) :
    let s := machine.run .empty actions
    (∀ groupID, s.resultExecution groupID ≤ (step s a).resultExecution groupID) ∧
    (∀ r ∈ (step s a).results.rows, r.applied = true → r ∈ s.results.rows ∨ Earned s a r) ∧
    (∀ r ∈ s.results.rows, ∀ r' ∈ s.results.rows, r.applied = true → r'.applied = true →
      r.jobID = r'.jobID → r = r') ∧
    (∀ g ∈ s.store.incidents.table.rows, g.investigationStatus = some .done → FromResult s g) ∧
    (∀ b ∈ (step s a).begun, b ∈ s.begun ∨ Snapshotted s b) ∧
    ∀ groupID generation, (investigations s.store.jobs groupID generation).length ≤ 3 := by
  have ordered := ordered_run actions
  exact ⟨resultExecution_le_step _ a, fun r => earned_step ordered a, ordered.once, ordered.done,
    fun b => snapshotted_step _ a, shared_run actions⟩

end Opslane.Tickets.Investigations
