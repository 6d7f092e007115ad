import Opslane.Resolve.Store

/-!
# The rows of a store

What ties the tables together in every run: a resolver job and its executions belong to one
captured event, a claimed job is executed under its generation, and an event whose job is done
has a resolution. Settled resolutions are kept.
-/

namespace Opslane.Resolve

open Jobs (Job JobTable)

namespace Store

/-- What a step of the queue does to a resolver job. -/
inductive Change (s s' : Store) (j j' : Job) : Prop where
  | keeps (status : j'.status = j.status) (generation : j'.leaseGeneration = j.leaseGeneration)
  | claims (pending : j.status = .pending) (claimed : j'.status = .claimed)
      (generation : j'.leaseGeneration = j.leaseGeneration + 1)
      (run : ∃ r ∈ s'.runs.rows, r.key = (j'.id, j'.leaseGeneration) ∧ r.phase = .claimed)
  | drops (claimed : j.status = .claimed) (waits : j'.status = .pending ∨ j'.status = .deadLetter)
      (generation : j'.leaseGeneration = j.leaseGeneration)
  | completes (claimed : j.status = .claimed) (completed : j'.status = .completed)
      (generation : j'.leaseGeneration = j.leaseGeneration)
      (returned : ∃ r ∈ s.runs.rows, r.key = (j.id, j.leaseGeneration) ∧ r.phase = .returned)

structure JobMoves (s s' : Store) (j j' : Job) : Prop where
  id : j'.id = j.id
  jobType : j'.jobType = j.jobType
  projectID : j'.projectID = j.projectID
  change : Change s s' j j'

theorem JobMoves.refl (s s' : Store) (j : Job) : JobMoves s s' j j := ⟨rfl, rfl, rfl, .keeps rfl rfl⟩

theorem JobMoves.generation_le {s s' : Store} {j j' : Job} (moves : JobMoves s s' j j') :
    j.leaseGeneration ≤ j'.leaseGeneration := by
  cases moves.change with
  | keeps _ generation => omega
  | claims _ _ generation _ => omega
  | drops _ _ generation => omega
  | completes _ _ generation _ => omega

/-- Every resolver job moves on, and a new execution is one of a claimed job. -/
structure QueueMoves (s s' : Store) : Prop where
  rest : s' = { s with jobs := s'.jobs, runs := s'.runs }
  forth : ∀ j ∈ s.jobs.rows, j.jobType = .stackResolve → ∃ j' ∈ s'.jobs.rows, JobMoves s s' j j'
  back : ∀ j' ∈ s'.jobs.rows, j'.jobType = .stackResolve → ∃ j ∈ s.jobs.rows, JobMoves s s' j j'
  runs : ∀ r ∈ s.runs.rows, r ∈ s'.runs.rows
  newRuns : ∀ r ∈ s'.runs.rows, r ∈ s.runs.rows ∨ (r.phase = .claimed ∧
    s.eventOf r.job.id = some r.eventID ∧ r.job ∈ s'.jobs.rows ∧ r.job.jobType = .stackResolve)

theorem queueMoves_refl (s : Store) : QueueMoves s s where
  rest := rfl
  forth j member _ := ⟨j, member, .refl s s j⟩
  back j member _ := ⟨j, member, .refl s s j⟩
  runs _ member := member
  newRuns _ member := Or.inl member

theorem queueMoves_updateWhere (s : Store) (p : Job → Bool) (f : Job → Job)
    (frame : ∀ j, (f j).id = j.id) (types : ∀ j, (f j).jobType = j.jobType)
    (moves : ∀ j ∈ s.jobs.rows, p j → j.jobType = .stackResolve →
      JobMoves s { s with jobs := s.jobs.updateWhere p f frame } j (f j)) :
    QueueMoves s { s with jobs := s.jobs.updateWhere p f frame } := by
  have each : ∀ j ∈ s.jobs.rows, j.jobType = .stackResolve →
      JobMoves s { s with jobs := s.jobs.updateWhere p f frame } j (if p j then f j else j) := by
    intro j member own
    split
    · rename_i selected
      exact moves j member selected own
    · exact .refl ..
  refine ⟨rfl, fun j member own => ?_, fun j' member own => ?_, fun _ member => member,
    fun _ member => Or.inl member⟩
  · exact ⟨_, (Table.mem_updateWhere s.jobs p f frame _).mpr ⟨j, member, rfl⟩, each j member own⟩
  · obtain ⟨j, old, rfl⟩ := (Table.mem_updateWhere s.jobs p f frame _).mp member
    refine ⟨j, old, each j old ?_⟩
    split at own
    · exact (types j).symm.trans own
    · exact own

theorem Owned.claimed {id : UUID} {workerID : String} {generation : Nat} {now : Timestamp} {j : Job}
    (owned : j.Owned id workerID generation now) : j.status = .claimed := owned.2.2.2.1

theorem fail_moves (s s' : Store) (error : String) (options : Jobs.FailOptions) (jitter : Nat)
    (now : Timestamp) {j : Job} (claimed : j.status = .claimed) :
    JobMoves s s' j (Jobs.fail error options jitter now j) := by
  unfold Jobs.fail
  split
  · exact ⟨rfl, rfl, rfl, .drops claimed (Or.inr rfl) rfl⟩
  · exact ⟨rfl, rfl, rfl, .drops claimed (Or.inl rfl) rfl⟩

theorem reap_moves (s s' : Store) (jitter : Nat) (now : Timestamp) {j : Job}
    (claimed : j.status = .claimed) : JobMoves s s' j (Jobs.reap jitter now j) := by
  unfold Jobs.reap
  split
  · exact ⟨rfl, rfl, rfl, .drops claimed (Or.inr rfl) rfl⟩
  · exact ⟨rfl, rfl, rfl, .drops claimed (Or.inl rfl) rfl⟩

theorem fail_jobType (error : String) (options : Jobs.FailOptions) (jitter : Nat) (now : Timestamp)
    (j : Job) : (Jobs.fail error options jitter now j).jobType = j.jobType := by
  unfold Jobs.fail
  split <;> rfl

theorem reap_jobType (jitter : Nat) (now : Timestamp) (j : Job) :
    (Jobs.reap jitter now j).jobType = j.jobType := by
  unfold Jobs.reap
  split <;> rfl

def HasRow (s : Store) (projectID eventID : UUID) : Prop :=
  (s.resolutions.find? (projectID, eventID)).isSome

end Store

/-- The execution has published its wait state and has not failed since. -/
def RunPhase.Published : RunPhase → Prop
  | .claimed | .threw => False
  | _ => True

namespace Store

structure Keyed (s : Store) : Prop where
  jobs : ∀ j ∈ s.jobs.rows, j.jobType = .stackResolve →
    ∃ e ∈ s.events.rows, s.eventOf j.id = some e.id ∧ j.projectID = e.projectID
  runs : ∀ r ∈ s.runs.rows, s.eventOf r.job.id = some r.eventID ∧ ∃ j ∈ s.jobs.rows,
    j.id = r.job.id ∧ j.jobType = .stackResolve ∧ j.projectID = r.job.projectID ∧
      r.job.leaseGeneration ≤ j.leaseGeneration
  current : ∀ j ∈ s.jobs.rows, j.jobType = .stackResolve → j.status = .claimed →
    ∃ r ∈ s.runs.rows, r.key = (j.id, j.leaseGeneration)
  written : ∀ r ∈ s.runs.rows, r.phase.Published → s.HasRow r.job.projectID r.eventID
  completed : ∀ j ∈ s.jobs.rows, j.jobType = .stackResolve → j.status = .completed →
    ∀ eventID, s.eventOf j.id = some eventID → s.HasRow j.projectID eventID
  versions : ∀ r ∈ s.resolutions.rows, r.resolverVersion = resolverVersion
  woken : ∀ u ∈ s.uploads.rows, ∀ eventIDs, u.phase = .waking eventIDs → ∀ id ∈ eventIDs,
    ∃ e ∈ s.events.rows, e.id = id ∧ e.projectID = u.projectID

theorem Keyed.fresh {s : Store} (keyed : Keyed s) {j : Job} (member : j ∈ s.jobs.rows) :
    s.runs.find? (j.id, j.leaseGeneration + 1) = none := by
  refine (s.runs.find?_eq_none_iff _).mpr fun r old same => ?_
  obtain ⟨-, k, present, own, -, -, bound⟩ := keyed.runs r old
  have ids : r.job.id = j.id := congrArg Prod.fst same
  have generations : r.job.leaseGeneration = j.leaseGeneration + 1 := congrArg Prod.snd same
  obtain rfl : k = j := s.jobs.inj present member (own.trans ids)
  omega

theorem queueMoves_claimJob {s : Store} (keyed : Keyed s) (workerID : String) (leaseDurationMs : Int)
    (caps : Jobs.ClaimCaps) (locked : List UUID) (now : Timestamp) :
    QueueMoves s (s.jobStep (.claimJob workerID leaseDurationMs caps locked now)) := by
  rw [jobStep, Jobs.claimJob]
  cases chosen : Jobs.candidate s.jobs caps locked now with
  | none => exact queueMoves_refl s
  | some c =>
    obtain ⟨present, pending⟩ := Jobs.candidate_spec chosen
    have only : ∀ j ∈ s.jobs.rows, j.id = c.id → j = c := fun j member same =>
      s.jobs.inj member (Table.mem_of_find? present) same
    have claimedJob : Jobs.claim workerID leaseDurationMs now c ∈ (s.jobs.updateKey c.id
        (Jobs.claim workerID leaseDurationMs now) (Jobs.claim_id workerID leaseDurationMs now)).rows := by
      refine (Table.mem_updateWhere ..).mpr ⟨c, Table.mem_of_find? present, ?_⟩
      rw [if_pos (decide_eq_true rfl)]
    by_cases own : c.jobType = .stackResolve
    · obtain ⟨e, -, ofEvent, -⟩ := keyed.jobs c (Table.mem_of_find? present) own
      simp only [show (Jobs.claim workerID leaseDurationMs now c).jobType = .stackResolve from own,
        if_true, show s.eventOf (Jobs.claim workerID leaseDurationMs now c).id = some e.id from ofEvent]
      have free : s.runs.find? (c.id, c.leaseGeneration + 1) = none :=
        keyed.fresh (Table.mem_of_find? present)
      obtain ⟨runs, inserted⟩ := s.runs.exists_insert? (show s.runs.find? (ResolveRun.key
        ⟨Jobs.claim workerID leaseDurationMs now c, workerID, e.id, .claimed⟩) = none from free)
      rw [Table.insertIgnore, inserted, Option.getD_some]
      have claims : ∀ s' : Store, s'.runs = runs →
          JobMoves s s' c (Jobs.claim workerID leaseDurationMs now c) := fun s' same =>
        ⟨rfl, rfl, rfl, .claims pending rfl rfl
          ⟨_, same ▸ (Table.mem_insert? inserted).mpr (Or.inl rfl), rfl, rfl⟩⟩
      refine ⟨rfl, fun j member _ => ?_, fun j' member _ => ?_, fun r member => ?_, fun r member => ?_⟩
      · refine ⟨_, (Table.mem_updateWhere s.jobs _ _ (Jobs.claim_id workerID leaseDurationMs now) _).mpr
          ⟨j, member, rfl⟩, ?_⟩
        split
        · rename_i same
          obtain rfl := only j member (of_decide_eq_true same)
          exact claims _ rfl
        · exact .refl ..
      · obtain ⟨j, old, rfl⟩ := (Table.mem_updateWhere s.jobs _ _ (Jobs.claim_id workerID leaseDurationMs now) _).mp member
        refine ⟨j, old, ?_⟩
        split
        · rename_i same
          obtain rfl := only j old (of_decide_eq_true same)
          exact claims _ rfl
        · exact .refl ..
      · exact (Table.mem_insert? inserted).mpr (Or.inr member)
      · rcases (Table.mem_insert? inserted).mp member with rfl | old
        · exact Or.inr ⟨rfl, ofEvent, claimedJob, own⟩
        · exact Or.inl old
    · simp only [show (Jobs.claim workerID leaseDurationMs now c).jobType ≠ .stackResolve from own,
        if_false]
      refine queueMoves_updateWhere s _ _ (Jobs.claim_id workerID leaseDurationMs now) (fun _ => rfl)
        fun j member same stack => absurd stack ?_
      obtain rfl := only j member (of_decide_eq_true same)
      exact own

theorem queueMoves_jobStep {s : Store} (keyed : Keyed s) (a : Jobs.Action) :
    QueueMoves s (s.jobStep a) := by
  cases a with
  | enqueue id projectID jobType columns availableAt now =>
    rw [jobStep]
    split
    · exact queueMoves_refl s
    · rename_i other
      rw [Jobs.step]
      cases inserted : s.jobs.insert? (Job.new id projectID jobType columns availableAt now) with
      | none => exact queueMoves_refl s
      | some jobs =>
        refine ⟨rfl, fun j member _ => ⟨j, (Table.mem_insert? inserted).mpr (Or.inr member), .refl ..⟩,
          fun j' member own => ?_, fun _ member => member, fun _ member => Or.inl member⟩
        rcases (Table.mem_insert? inserted).mp member with rfl | old
        · exact absurd own other
        · exact ⟨j', old, .refl ..⟩
  | claimJob workerID leaseDurationMs caps locked now =>
    exact queueMoves_claimJob keyed workerID leaseDurationMs caps locked now
  | heartbeat jobID workerID leaseGeneration leaseDurationMs now =>
    exact queueMoves_updateWhere s _ (Jobs.extendLease leaseDurationMs now) (fun _ => rfl)
      (fun _ => rfl) fun j _ _ _ => ⟨rfl, rfl, rfl, .keeps rfl rfl⟩
  | rescheduleJob lease availableAt payload now =>
    rw [jobStep, Jobs.step]
    · unfold Jobs.rescheduleJob
      dsimp only
      split
      · rename_i rescheduled eq
        split at eq
        · cases eq
          refine queueMoves_updateWhere s _ (Jobs.reschedule availableAt payload) (fun _ => rfl)
            (fun _ => rfl) fun j _ owns _ => ⟨rfl, rfl, rfl, .drops ?_ (Or.inl rfl) rfl⟩
          exact Owned.claimed (of_decide_eq_true owns).1
        · cases eq
      · exact queueMoves_refl s
    all_goals
      intros
      contradiction
  | completeJob jobID workerID leaseGeneration now =>
    rw [jobStep]
    split
    · exact queueMoves_refl s
    · rename_i other
      refine queueMoves_updateWhere s _ Jobs.complete (fun _ => rfl) (fun _ => rfl)
        fun j member owned stack => absurd ?_ other
      exact List.any_eq_true.mpr ⟨j, member, decide_eq_true ⟨(of_decide_eq_true owned).1, stack⟩⟩
  | failJob jobID workerID leaseGeneration error options jitter now clock =>
    rw [jobStep]
    split
    · exact queueMoves_refl s
    · refine queueMoves_updateWhere s _ _ (Jobs.fail_id error options jitter now)
        (fail_jobType error options jitter now) fun j _ owned _ => ?_
      exact fail_moves _ _ error options jitter now (Owned.claimed (of_decide_eq_true owned))
  | requeueStaleJobs candidateIDs jitter now =>
    refine queueMoves_updateWhere s _ _ (fun j => Jobs.reap_id (jitter j.id) now j)
      (fun j => reap_jobType (jitter j.id) now j) fun j _ stale _ => ?_
    exact reap_moves _ _ (jitter j.id) now (of_decide_eq_true stale).2.1
  | requeueDeadLetters trigger locked now =>
    refine queueMoves_updateWhere s _ (Jobs.requeue now) (fun _ => rfl) (fun _ => rfl)
      fun j _ due stack => absurd (of_decide_eq_true due).1 fun due => ?_
    simp only [Jobs.Due, decide_eq_true_eq] at due
    rcases due.2.1 with type | type | type <;> exact absurd (stack.symm.trans type) (by decide)

theorem Keyed.queueMoves {s s' : Store} (keyed : Keyed s) (moves : QueueMoves s s') : Keyed s' := by
  have events : s'.events = s.events := by rw [moves.rest]
  have eventOf : s'.eventOf = s.eventOf := by rw [moves.rest]
  have resolutions : s'.resolutions = s.resolutions := by rw [moves.rest]
  have uploads : s'.uploads = s.uploads := by rw [moves.rest]
  have rows : ∀ projectID eventID, s.HasRow projectID eventID → s'.HasRow projectID eventID := by
    intro projectID eventID row
    rw [HasRow, resolutions]
    exact row
  refine ⟨?_, ?_, ?_, ?_, ?_, ?_, ?_⟩
  · intro j' member own
    obtain ⟨j, old, moved⟩ := moves.back j' member own
    obtain ⟨e, known, ofEvent, project⟩ := keyed.jobs j old (moved.jobType ▸ own)
    refine ⟨e, events ▸ known, ?_, moved.projectID.trans project⟩
    rw [eventOf, moved.id, ofEvent]
  · intro r member
    rcases moves.newRuns r member with old | ⟨-, ofEvent, present, own⟩
    · obtain ⟨ofEvent, j, present, id, own, project, bound⟩ := keyed.runs r old
      obtain ⟨j', present', moved⟩ := moves.forth j present own
      exact ⟨by rw [eventOf, ofEvent], j', present', moved.id.trans id, moved.jobType.trans own,
        moved.projectID.trans project, Nat.le_trans bound moved.generation_le⟩
    · exact ⟨by rw [eventOf, ofEvent], r.job, present, rfl, own, rfl, Nat.le_refl _⟩
  · intro j' member own claimed
    obtain ⟨j, old, moved⟩ := moves.back j' member own
    cases moved.change with
    | keeps status generation =>
      obtain ⟨r, run, key⟩ := keyed.current j old (moved.jobType ▸ own) (status ▸ claimed)
      exact ⟨r, moves.runs r run, by rw [key, moved.id, generation]⟩
    | claims _ _ _ run =>
      obtain ⟨r, run, key, -⟩ := run
      exact ⟨r, run, key⟩
    | drops _ waits _ =>
      rw [claimed] at waits
      rcases waits with waits | waits <;> cases waits
    | completes _ completed _ _ =>
      rw [claimed] at completed
      cases completed
  · intro r member published
    rcases moves.newRuns r member with old | ⟨phase, -⟩
    · exact rows _ _ (keyed.written r old published)
    · rw [phase] at published
      exact published.elim
  · intro j' member own completed eventID ofEvent
    obtain ⟨j, old, moved⟩ := moves.back j' member own
    rw [eventOf, moved.id] at ofEvent
    rw [moved.projectID]
    refine rows _ _ ?_
    cases moved.change with
    | keeps status _ => exact keyed.completed j old (moved.jobType ▸ own) (status ▸ completed) _ ofEvent
    | claims _ claimed _ _ =>
      rw [completed] at claimed
      cases claimed
    | drops _ waits _ =>
      rw [completed] at waits
      rcases waits with waits | waits <;> cases waits
    | completes _ _ _ returned =>
      obtain ⟨r, run, key, phase⟩ := returned
      obtain ⟨runOf, k, present, id, -, project, -⟩ := keyed.runs r run
      have ids : r.job.id = j.id := congrArg Prod.fst key
      obtain rfl : k = j := s.jobs.inj present old (id.trans ids)
      have written := keyed.written r run (by rw [phase]; trivial)
      rw [ids, ofEvent, Option.some.injEq] at runOf
      rwa [← project, ← runOf] at written
  · rw [resolutions]
    exact keyed.versions
  · rw [uploads, events]
    exact keyed.woken

/-- New resolver jobs of captured events, all pending. -/
structure Enqueues (s s' : Store) : Prop where
  rest : s' = { s with events := s'.events, jobs := s'.jobs, eventOf := s'.eventOf }
  events : ∀ e ∈ s.events.rows, e ∈ s'.events.rows
  eventOf : ∀ j ∈ s.jobs.rows, s'.eventOf j.id = s.eventOf j.id
  old : ∀ j ∈ s.jobs.rows, j ∈ s'.jobs.rows
  new : ∀ j ∈ s'.jobs.rows, j ∈ s.jobs.rows ∨ (j.status = .pending ∧
    ∃ e ∈ s'.events.rows, s'.eventOf j.id = some e.id ∧ j.projectID = e.projectID)

theorem enqueues_refl (s : Store) : Enqueues s s :=
  ⟨rfl, fun _ known => known, fun _ _ => rfl, fun _ member => member, fun _ member => Or.inl member⟩

theorem enqueues_capture (s : Store) (e : Event) (jobID : UUID) (now : Timestamp) :
    Enqueues s (s.capture e jobID now) := by
  unfold capture
  split
  · rename_i events jobs known inserted
    refine ⟨rfl, fun _ old => (Table.mem_insert? known).mpr (Or.inr old), fun j member => ?_,
      fun _ old => (Table.mem_insert? inserted).mpr (Or.inr old), fun j member => ?_⟩
    · refine Function.update_of_ne (fun same => ?_) _ _
      have free := (Table.insert?_spec inserted).1
      exact (s.jobs.find?_eq_none_iff _).mp free j member same
    · rcases (Table.mem_insert? inserted).mp member with rfl | old
      · refine Or.inr ⟨rfl, e, (Table.mem_insert? known).mpr (Or.inl rfl), ?_, rfl⟩
        exact Function.update_self ..
      · exact Or.inl old
  · exact enqueues_refl s

theorem enqueueWoken_spec {s woken : Store} {projectID : UUID} {eventIDs : List UUID}
    {jobID : UUID → UUID} {now : Timestamp}
    (done : s.enqueueWoken projectID eventIDs jobID now = some woken) :
    (∀ j, j ∈ woken.jobs.rows ↔
      (∃ id ∈ eventIDs, j = stackJob (jobID id) projectID now) ∨ j ∈ s.jobs.rows) ∧
    (∀ id ∈ eventIDs, woken.eventOf (jobID id) = some id) ∧
    (∀ j ∈ s.jobs.rows, woken.eventOf j.id = s.eventOf j.id) ∧
    woken = { s with jobs := woken.jobs, eventOf := woken.eventOf } := by
  obtain ⟨jobs, inserted, rfl⟩ := Option.map_eq_some_iff.mp done
  have rows := Table.rows_insertAll? inserted
  have distinct := jobs.unique
  rw [rows, List.map_append, List.nodup_append, List.map_reverse, List.map_map] at distinct
  obtain ⟨own, -, apart⟩ := distinct
  refine ⟨fun j => ?_, fun id listed => ?_, fun j member => ?_, rfl⟩
  · rw [rows, List.mem_append, List.mem_reverse, List.mem_map]
    constructor
    · rintro (⟨id, listed, rfl⟩ | old)
      · exact Or.inl ⟨id, listed, rfl⟩
      · exact Or.inr old
    · rintro (⟨id, listed, rfl⟩ | old)
      · exact Or.inl ⟨id, listed, rfl⟩
      · exact Or.inr old
  · cases found : eventIDs.find? fun eventID => jobID eventID = jobID id with
    | none => exact absurd (decide_eq_true rfl) (List.find?_eq_none.mp found id listed)
    | some id' =>
      have same : jobID id' = jobID id := by simpa using List.find?_some found
      have equal : id' = id := List.inj_on_of_nodup_map (List.nodup_reverse.mp own)
        (List.mem_of_find?_eq_some found) listed same
      simp only [found, equal, Option.some_or]
  · have missing : eventIDs.find? (fun eventID => jobID eventID = j.id) = none := by
      refine List.find?_eq_none.mpr fun id listed same => ?_
      refine apart (jobID id) ?_ j.id (List.mem_map_of_mem member) (of_decide_eq_true same)
      exact List.mem_reverse.mpr (List.mem_map.mpr ⟨id, listed, rfl⟩)
    simp only [missing, Option.none_or]

theorem enqueues_woken {s woken : Store} {projectID : UUID} {eventIDs : List UUID}
    {jobID : UUID → UUID} {now : Timestamp}
    (known : ∀ id ∈ eventIDs, ∃ e ∈ s.events.rows, e.id = id ∧ e.projectID = projectID)
    (done : s.enqueueWoken projectID eventIDs jobID now = some woken) : Enqueues s woken := by
  obtain ⟨rows, news, olds, rest⟩ := enqueueWoken_spec done
  have events : woken.events = s.events := by rw [rest]
  refine ⟨by rw [rest], fun e old => events ▸ old, olds, fun j old => (rows j).mpr (Or.inr old),
    fun j member => ?_⟩
  rcases (rows j).mp member with ⟨id, listed, rfl⟩ | old
  · obtain ⟨e, present, rfl, project⟩ := known id listed
    exact Or.inr ⟨rfl, e, events ▸ present, news _ listed, project.symm⟩
  · exact Or.inl old

theorem Keyed.enqueues {s s' : Store} (keyed : Keyed s) (enqueues : Enqueues s s') : Keyed s' := by
  have resolutions : s'.resolutions = s.resolutions := by rw [enqueues.rest]
  have runs : s'.runs = s.runs := by rw [enqueues.rest]
  have uploads : s'.uploads = s.uploads := by rw [enqueues.rest]
  have rows : ∀ projectID eventID, s.HasRow projectID eventID → s'.HasRow projectID eventID := by
    intro projectID eventID row
    rw [HasRow, resolutions]
    exact row
  refine ⟨fun j member own => ?_, fun r member => ?_, fun j member own claimed => ?_,
    fun r member published => ?_, fun j member own completed eventID ofEvent => ?_, ?_, ?_⟩
  · rcases enqueues.new j member with old | ⟨-, new⟩
    · obtain ⟨e, known, ofEvent, project⟩ := keyed.jobs j old own
      exact ⟨e, enqueues.events e known, (enqueues.eventOf j old).trans ofEvent, project⟩
    · exact new
  · obtain ⟨ofEvent, j, present, id, rest⟩ := keyed.runs r (runs ▸ member)
    refine ⟨?_, j, enqueues.old j present, id, rest⟩
    rw [← id, enqueues.eventOf j present, id, ofEvent]
  · rw [runs]
    rcases enqueues.new j member with old | ⟨pending, -⟩
    · exact keyed.current j old own claimed
    · rw [claimed] at pending
      cases pending
  · exact rows _ _ (keyed.written r (runs ▸ member) published)
  · rcases enqueues.new j member with old | ⟨pending, -⟩
    · rw [enqueues.eventOf j old] at ofEvent
      exact rows _ _ (keyed.completed j old own completed eventID ofEvent)
    · rw [completed] at pending
      cases pending
  · rw [resolutions]
    exact keyed.versions
  · rw [uploads]
    intro u present eventIDs phase id listed
    obtain ⟨e, known, rest⟩ := keyed.woken u present eventIDs phase id listed
    exact ⟨e, enqueues.events e known, rest⟩

theorem mem_enter {s : Store} {r r' : ResolveRun} {phase : RunPhase} (present : r ∈ s.runs.rows) :
    r' ∈ (s.enter r.key phase).runs.rows ↔
      r' = r.enter phase ∨ (r' ∈ s.runs.rows ∧ r'.key ≠ r.key) :=
  Table.mem_updateKey s.runs present (ResolveRun.enter phase) (fun _ => rfl) r'

theorem Keyed.enter {s : Store} (keyed : Keyed s) {r : ResolveRun} (present : r ∈ s.runs.rows)
    (phase : RunPhase) (row : phase.Published → s.HasRow r.job.projectID r.eventID) :
    Keyed (s.enter r.key phase) := by
  refine ⟨keyed.jobs, fun r' member => ?_, fun j member own claimed => ?_, fun r' member published => ?_,
    keyed.completed, keyed.versions, keyed.woken⟩
  · rcases (mem_enter present).mp member with rfl | ⟨old, -⟩
    · exact keyed.runs r present
    · exact keyed.runs r' old
  · obtain ⟨r', old, key⟩ := keyed.current j member own claimed
    by_cases same : r'.key = r.key
    · exact ⟨r.enter phase, (mem_enter present).mpr (Or.inl rfl), same.symm.trans key⟩
    · exact ⟨r', (mem_enter present).mpr (Or.inr ⟨old, same⟩), key⟩
  · rcases (mem_enter present).mp member with rfl | ⟨old, -⟩
    · exact row published
    · exact keyed.written r' old published

theorem Keyed.resolutions {s : Store} (keyed : Keyed s) {resolutions : ResolutionTable}
    (rows : ∀ key, (s.resolutions.find? key).isSome → (resolutions.find? key).isSome)
    (versions : ∀ r ∈ resolutions.rows, r.resolverVersion = resolverVersion) :
    Keyed { s with resolutions } :=
  ⟨keyed.jobs, keyed.runs, keyed.current, fun r member published =>
    rows _ (keyed.written r member published), fun j member own completed eventID ofEvent =>
    rows _ (keyed.completed j member own completed eventID ofEvent), versions, keyed.woken⟩

theorem Keyed.moveUpload {s : Store} (keyed : Keyed s) (id : UUID) (phase : UploadPhase)
    (known : ∀ u ∈ s.uploads.rows, u.id = id → ∀ eventIDs, phase = .waking eventIDs →
      ∀ eventID ∈ eventIDs, ∃ e ∈ s.events.rows, e.id = eventID ∧ e.projectID = u.projectID) :
    Keyed (s.moveUpload id phase) := by
  refine ⟨keyed.jobs, keyed.runs, keyed.current, keyed.written, keyed.completed, keyed.versions,
    fun u member eventIDs waking => ?_⟩
  obtain ⟨old, present, rfl⟩ :=
    (Table.mem_updateWhere s.uploads _ (Upload.enter phase) (fun _ => rfl) u).mp member
  split at waking
  · rename_i same
    rw [if_pos same]
    exact known old present (of_decide_eq_true same) eventIDs waking
  · rename_i other
    rw [if_neg other]
    exact keyed.woken old present eventIDs waking

theorem find?_recordResolution (resolutions : ResolutionTable) (projectID eventID : UUID)
    (status : ResolutionStatus) (envelope : Option Envelope) (now : Timestamp) (key : UUID × UUID) :
    (recordResolution resolutions projectID eventID status envelope now).find? key =
      if key = (projectID, eventID) then
        some ((resolutions.find? key).elim
          ⟨projectID, eventID, status, envelope, resolverVersion, now⟩
          (EventResolution.overwrite ⟨projectID, eventID, status, envelope, resolverVersion, now⟩))
      else resolutions.find? key :=
  Table.find?_upsert ..

theorem overwrite_version {excluded r : EventResolution}
    (version : excluded.resolverVersion = resolverVersion) (own : r.resolverVersion = resolverVersion) :
    (excluded.overwrite r).resolverVersion = resolverVersion := by
  unfold EventResolution.overwrite
  split
  · exact own
  · exact version

theorem Keyed.record {s : Store} (keyed : Keyed s) {r : ResolveRun} (present : r ∈ s.runs.rows)
    (status : ResolutionStatus) (envelope : Option Envelope) (phase : RunPhase) (now : Timestamp) :
    Keyed (s.record r status envelope phase now) := by
  have recorded := find?_recordResolution s.resolutions r.job.projectID r.eventID status envelope now
  let resolutions := recordResolution s.resolutions r.job.projectID r.eventID status envelope now
  have grown : Keyed { s with resolutions } := by
    refine keyed.resolutions (fun key some_ => ?_) fun row member => ?_
    · rw [show resolutions.find? key = _ from recorded key]
      split
      · rfl
      · exact some_
    · have found := (recorded row.key).symm.trans (Table.find?_key _ member)
      split at found
      · rw [Option.some.injEq] at found
        cases old : s.resolutions.find? row.key with
        | none =>
          rw [← found, old]
          rfl
        | some was =>
          rw [← found, old]
          exact overwrite_version rfl (keyed.versions was (Table.mem_of_find? old))
      · exact keyed.versions row (Table.mem_of_find? found)
  have row : HasRow { s with resolutions } r.job.projectID r.eventID := by
    show (resolutions.find? (r.job.projectID, r.eventID)).isSome
    rw [show resolutions.find? _ = _ from recorded _, if_pos rfl]
    rfl
  exact @Keyed.enter { s with resolutions } grown r present phase fun _ => row

theorem Keyed.conclude {s : Store} (keyed : Keyed s) {r : ResolveRun} (present : r ∈ s.runs.rows)
    (result : StackResolution) (now : Timestamp) : Keyed (s.conclude r result now) := by
  cases result <;> exact keyed.record present ..

/-- What a step of an execution does. -/
inductive RunStepped (reader : MapReader) (s : Store) (key : UUID × Nat) (step : RunStep) :
    Store → Prop where
  | idle : RunStepped reader s key step s
  | queue (s' : Store) (moves : QueueMoves s s') : RunStepped reader s key step s'
  | publishes (r : ResolveRun) (found : s.runs.find? key = some r) (phase : r.phase = .claimed)
      (now : Timestamp) : RunStepped reader s key step (s.record r .pending none .waiting now)
  | throws (r : ResolveRun) (found : s.runs.find? key = some r) (phase : r.phase ≠ .returned) :
      RunStepped reader s key step (s.enter r.key .threw)
  | reads (r : ResolveRun) (found : s.runs.find? key = some r) (phase : r.phase = .waiting) (e : Event)
      (event : s.errorEvent r = some e) (rows : Option (List SourceMapFile))
      (catalog : rows = none ∨ rows = some (s.sourceMapRows e)) :
      RunStepped reader s key step (s.enter r.key (.read rows))
  | concludes (r : ResolveRun) (found : s.runs.find? key = some r) (rows : Option (List SourceMapFile))
      (phase : r.phase = .read rows) (e : Event) (event : s.errorEvent r = some e)
      (answers : List FrameAnswers) (action : step = .conclude answers) (now : Timestamp) :
      RunStepped reader s key step
        (s.conclude r (resolveEventStack reader e rows s.fetchMap answers) now)

theorem queueMoves_complete {s : Store} {key : UUID × Nat} {r : ResolveRun}
    (found : s.runs.find? key = some r) (phase : r.phase = .returned) (now : Timestamp) :
    QueueMoves s { s with
      jobs := (Jobs.completeJob s.jobs r.job.id r.workerID r.job.leaseGeneration now).1 } := by
  refine queueMoves_updateWhere s _ Jobs.complete (fun _ => rfl) (fun _ => rfl) fun j _ owned _ => ?_
  obtain ⟨id, -, generation, claimed, -⟩ := of_decide_eq_true owned
  refine ⟨rfl, rfl, rfl, .completes claimed rfl rfl ⟨r, Table.mem_of_find? found, ?_, phase⟩⟩
  rw [ResolveRun.key, id, generation]

theorem queueMoves_fail (s : Store) (jobID : UUID) (workerID : String) (leaseGeneration : Nat)
    (error : String) (options : Jobs.FailOptions) (jitter : Nat) (now clock : Timestamp) :
    QueueMoves s { s with
      jobs := (Jobs.failJob s.jobs jobID workerID leaseGeneration error options jitter now clock).1 } := by
  refine queueMoves_updateWhere s _ _ (Jobs.fail_id error options jitter now)
    (fail_jobType error options jitter now) fun j _ owned _ => ?_
  exact fail_moves _ _ error options jitter now (Owned.claimed (of_decide_eq_true owned))

theorem runStepped (reader : MapReader) (s : Store) (key : UUID × Nat) (step : RunStep)
    (now : Timestamp) : RunStepped reader s key step (s.runStep reader key step now) := by
  unfold runStep
  cases found : s.runs.find? key with
  | none => exact .idle
  | some r =>
    obtain rfl : r.key = key := Table.key_of_find? found
    dsimp only
    split
    · rename_i phase
      exact .publishes r found phase now
    · rename_i phase
      split
      · exact .throws r found (by rw [phase]; nofun)
      · exact .idle
    · rename_i e fails event phase
      refine .reads r found phase e event _ ?_
      split
      · exact Or.inl rfl
      · exact Or.inr rfl
    · rename_i e answers rows event phase
      exact .concludes r found rows phase e event answers rfl now
    · rename_i phase
      exact .throws r found (by rw [phase]; nofun)
    · rename_i phase
      exact .throws r found (by rw [phase]; nofun)
    · rename_i phase
      exact .throws r found (by rw [phase]; nofun)
    · rename_i phase
      exact .queue _ (queueMoves_complete found phase now)
    · exact .queue _ (queueMoves_fail ..)
    · exact .idle

theorem Keyed.runStep {s : Store} (keyed : Keyed s) (reader : MapReader) (key : UUID × Nat)
    (step : RunStep) (now : Timestamp) : Keyed (s.runStep reader key step now) := by
  generalize s.runStep reader key step now = s', runStepped reader s key step now = stepped
  cases stepped with
  | idle => exact keyed
  | queue _ moves => exact keyed.queueMoves moves
  | publishes r found phase now => exact keyed.record (Table.mem_of_find? found) ..
  | throws r found phase => exact keyed.enter (Table.mem_of_find? found) .threw nofun
  | reads r found phase e event rows catalog =>
    exact keyed.enter (Table.mem_of_find? found) (.read rows) fun _ =>
      keyed.written r (Table.mem_of_find? found) (by rw [phase]; trivial)
  | concludes r found rows phase e event answers action now =>
    exact keyed.conclude (Table.mem_of_find? found) ..

theorem waitingEvents_known {s : Store} {u : Upload} {id : UUID} (listed : id ∈ s.waitingEvents u) :
    ∃ e ∈ s.events.rows, e.id = id ∧ e.projectID = u.projectID := by
  obtain ⟨r, chosen, rfl⟩ := List.mem_map.mp listed
  obtain ⟨project, -, known, -⟩ := of_decide_eq_true (List.mem_filter.mp chosen).2
  obtain ⟨e, found, holds⟩ := (Option.any_eq_true ..).mp known
  obtain ⟨same, -⟩ := of_decide_eq_true holds
  exact ⟨e, Table.mem_of_find? found, Table.key_of_find? found, same.trans project⟩

theorem Keyed.moveUpload_plain {s : Store} (keyed : Keyed s) (id : UUID) {phase : UploadPhase}
    (plain : ∀ eventIDs, phase ≠ .waking eventIDs) : Keyed (s.moveUpload id phase) :=
  keyed.moveUpload id phase fun _ _ _ eventIDs waking => absurd waking (plain eventIDs)

theorem Keyed.files {s : Store} (keyed : Keyed s) (files : Table SourceMapFile.key)
    (objects : Table StoredObject.key) : Keyed { s with files, objects } :=
  ⟨keyed.jobs, keyed.runs, keyed.current, keyed.written, keyed.completed, keyed.versions, keyed.woken⟩

theorem Keyed.uploadStep {s : Store} (keyed : Keyed s) (id : UUID) (step : UploadStep)
    (now : Timestamp) : Keyed (s.uploadStep id step now) := by
  unfold Store.uploadStep
  cases found : s.uploads.find? id with
  | none => exact keyed
  | some u =>
    dsimp only
    split
    · split
      · exact keyed.moveUpload_plain id (by simp)
      · split <;> exact keyed.moveUpload_plain id (by simp)
    · split
      · exact keyed
      · split
        · exact keyed.moveUpload_plain id (by simp)
        · exact (keyed.files s.files _).moveUpload_plain id (by simp)
    · exact (keyed.files s.files _).moveUpload_plain id (by simp)
    · split
      · rename_i files _
        exact (keyed.files files s.objects).moveUpload_plain id (by simp)
      · split <;> exact keyed.moveUpload_plain id (by simp)
    · refine keyed.moveUpload id _ fun u' present same eventIDs waking eventID listed => ?_
      cases waking
      obtain rfl : u' = u := s.uploads.inj present
        (Table.mem_of_find? found) (same.trans (Table.key_of_find? found).symm)
      exact waitingEvents_known listed
    · rename_i eventIDs phase
      split
      · exact keyed
      · rename_i woken done
        exact (keyed.enqueues (enqueues_woken
          (keyed.woken u (Table.mem_of_find? found) eventIDs phase) done)).moveUpload_plain id (by simp)
    · exact keyed

theorem Keyed.receive {s : Store} (keyed : Keyed s) (u : Upload) : Keyed (s.receive u) := by
  unfold Store.receive
  split
  · rename_i received
    refine ⟨keyed.jobs, keyed.runs, keyed.current, keyed.written, keyed.completed, keyed.versions,
      fun u' member eventIDs waking => ?_⟩
    rcases Table.mem_insertIgnore member with old | rfl
    · exact keyed.woken u' old eventIDs waking
    · rw [received] at waking
      cases waking
  · exact keyed

theorem find?_sweep (s : Store) (status : ResolutionStatus) (boundary : Int) (now : Timestamp)
    (key : UUID × UUID) : (s.sweep status boundary now).resolutions.find? key =
      (s.resolutions.find? key).map fun r =>
        if r.status = status ∧ r.resolvedAt < now - boundary then settleRaw now r else r := by
  refine (Table.find?_updateWhere s.resolutions _ (settleRaw now) (fun _ => rfl) key).trans ?_
  simp only [decide_eq_true_eq]

theorem Keyed.sweep {s : Store} (keyed : Keyed s) (status : ResolutionStatus) (boundary : Int)
    (now : Timestamp) : Keyed (s.sweep status boundary now) := by
  refine keyed.resolutions (fun key some_ => ?_) fun r member => ?_
  · refine (congrArg Option.isSome (find?_sweep s status boundary now key)).trans ?_
    rw [Option.isSome_map]
    exact some_
  · obtain ⟨old, present, rfl⟩ :=
      (Table.mem_updateWhere s.resolutions _ (settleRaw now) (fun _ => rfl) r).mp member
    split <;> exact keyed.versions old present

theorem find?_sweepOrphans (s : Store) (boundary : Int) (now : Timestamp) (key : UUID × UUID) :
    (s.sweepOrphans boundary now).resolutions.find? key = s.resolutions.find? key ∨
      (s.resolutions.find? key = none ∧
        (s.sweepOrphans boundary now).resolutions.find? key =
          some ⟨key.1, key.2, .noMap, none, resolverVersion, now⟩) := by
  unfold sweepOrphans
  dsimp only
  generalize s.events.select _ = orphans
  generalize s.resolutions = resolutions
  induction orphans generalizing resolutions with
  | nil => exact Or.inl rfl
  | cons e rest ih =>
    have first := Table.find?_insertIgnore resolutions
      ⟨e.projectID, e.id, .noMap, none, resolverVersion, now⟩ key
    rw [List.foldl_cons]
    rcases ih (resolutions.insertIgnore ⟨e.projectID, e.id, .noMap, none, resolverVersion, now⟩) with
      same | ⟨none_, some_⟩
    · rw [same, first]
      cases old : resolutions.find? key with
      | some r => exact Or.inl rfl
      | none =>
        split
        · rename_i own
          subst own
          exact Or.inr ⟨rfl, rfl⟩
        · exact Or.inl rfl
    · rw [first, Option.or_eq_none_iff] at none_
      exact Or.inr ⟨none_.1, some_⟩

theorem Keyed.sweepOrphans {s : Store} (keyed : Keyed s) (boundary : Int) (now : Timestamp) :
    Keyed (s.sweepOrphans boundary now) := by
  refine keyed.resolutions (fun key some_ => ?_) fun r member => ?_
  · rcases find?_sweepOrphans s boundary now key with same | ⟨none_, -⟩
    · exact (congrArg Option.isSome same).trans some_
    · rw [none_] at some_
      cases some_
  · have found := Table.find?_key (s.sweepOrphans boundary now).resolutions member
    rcases find?_sweepOrphans s boundary now r.key with same | ⟨-, new⟩
    · exact keyed.versions r (Table.mem_of_find? (same.symm.trans found))
    · exact congrArg EventResolution.resolverVersion (Option.some.inj (found.symm.trans new))

theorem keyed_step (reader : MapReader) (s : Store) (a : Action) (keyed : Keyed s) :
    Keyed (s.step reader a) := by
  cases a with
  | capture e jobID now => exact keyed.enqueues (enqueues_capture s e jobID now)
  | job a => exact keyed.queueMoves (queueMoves_jobStep keyed a)
  | run key step now => exact keyed.runStep reader key step now
  | receive u => exact keyed.receive u
  | upload id step now => exact keyed.uploadStep id step now
  | sweepPending boundary now => exact keyed.sweep .pending boundary now
  | sweepFailed boundary now => exact keyed.sweep .failed boundary now
  | sweepOrphans boundary now => exact keyed.sweepOrphans boundary now

theorem keyed_start : Keyed .start where
  jobs _ member := nomatch member
  runs _ member := nomatch member
  current _ member := nomatch member
  written _ member := nomatch member
  completed _ member := nomatch member
  versions _ member := nomatch member
  woken _ member := nomatch member

/-- Every job of a resolution is about an event of its project: once it is completed the event has
a resolution, and while it is claimed an execution under its lease works on the event. -/
def JobsRecorded (s : Store) : Prop :=
  ∀ j ∈ s.jobs.rows, j.jobType = .stackResolve → ∃ e ∈ s.events.rows,
    s.eventOf j.id = some e.id ∧ j.projectID = e.projectID ∧
      (j.status = .completed → s.HasRow e.projectID e.id) ∧
      (j.status = .claimed → ∃ r ∈ s.runs.rows, r.key = (j.id, j.leaseGeneration) ∧ r.eventID = e.id)

theorem jobsRecorded_run (reader : MapReader) (actions : List Action) :
    JobsRecorded ((machine reader).run .start actions) := by
  have keyed := (machine reader).invariant_run Keyed (keyed_step reader) keyed_start actions
  intro j member type
  obtain ⟨e, known, own, project⟩ := keyed.jobs j member type
  refine ⟨e, known, own, project, fun completed => ?_, fun claimed => ?_⟩
  · rw [← project]
    exact keyed.completed j member type completed e.id own
  · obtain ⟨r, present, key⟩ := keyed.current j member type claimed
    have ran := (keyed.runs r present).1
    rw [show r.job.id = j.id from congrArg Prod.fst key, own, Option.some.injEq] at ran
    exact ⟨r, present, key, ran.symm⟩

end Store

end Opslane.Resolve
