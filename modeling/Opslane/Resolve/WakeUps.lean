import Opslane.Resolve.StoreRows

/-!
# Lost wake-ups

An event that waits for its maps has a reason to: a map it needs is not stored, or an upload
is about to wake it, or a job of it is pending, given up, or executed by a run that has yet to
read the catalog or has read all the maps. Every statement keeps such a reason, whatever the
order, with two exceptions. A run that has read all the maps and resolves some frames only
parks the event, although no upload is left to wake it. And a run that has lost its lease can
write a failure over the wait of the execution that took its job over; the upload that comes
then wakes nobody, and the execution parks the event on the older catalog.
-/

namespace Opslane.Resolve

open Jobs (Job JobTable)

/-- The row of the upload is durable and its wake has not run. -/
def UploadPhase.Wakes : UploadPhase → Prop
  | .toWake | .waking _ => True
  | _ => False

instance (phase : UploadPhase) : Decidable phase.Wakes := by
  cases phase <;> unfold UploadPhase.Wakes <;> infer_instance

namespace Store

/-- Nothing of the event is left to do: every wake has run, every job is done, and the maps
are stored. -/
structure Quiet (s : Store) (e : Event) : Prop where
  woken : ∀ u ∈ s.uploads.rows, ¬u.phase.Wakes
  idle : ∀ j ∈ s.jobs.rows, s.StackJob e.id j → j.status ≠ .pending ∧ j.status ≠ .claimed
  alive : ∀ j ∈ s.jobs.rows, s.StackJob e.id j → j.status ≠ .deadLetter
  maps : ∀ debugID ∈ e.debugIDs, (s.files.find? (e.projectID, debugID)).any fun f =>
    (s.objects.find? f.objectKey).isSome

/-- The status of the event's resolution. -/
def statusOf (s : Store) (e : Event) : Option ResolutionStatus :=
  (s.resolutions.find? (e.projectID, e.id)).map EventResolution.status

/-- No quiet event waits. -/
def NoLostWakeUp (s : Store) : Prop :=
  ∀ e ∈ s.events.rows, s.Quiet e → s.statusOf e ≠ some .pending

/-- Settled rows are kept: a resolved one as it is, and a raw fallback but for a resolution. -/
structure SettledKept (s s' : Store) : Prop where
  resolved : ∀ key r, s.resolutions.find? key = some r → r.status = .resolved →
    resolverVersion ≤ r.resolverVersion → s'.resolutions.find? key = some r
  noMap : ∀ key r, s.resolutions.find? key = some r → r.status = .noMap →
    ∃ r', s'.resolutions.find? key = some r' ∧ (r'.status = .noMap ∨ r'.status = .resolved)

/-- What the resolver's statements promise of every run. -/
structure WakeUps (reader : MapReader) (actions : List Action) : Prop where
  noLostWakeUp : ((machine reader).run .start actions).NoLostWakeUp
  settled : ∀ s, SettledKept s ((machine reader).run s actions)

/-- The job is claimed under the generation of this execution. -/
def HoldsLease (s : Store) (r : ResolveRun) : Prop :=
  ∃ j ∈ s.jobs.rows, (j.id, j.leaseGeneration) = r.key ∧ j.status = .claimed

instance (s : Store) (r : ResolveRun) : Decidable (s.HoldsLease r) :=
  inferInstanceAs (Decidable (∃ j ∈ s.jobs.rows, _))

/-- The catalog as it was read has every map the event needs, if it could be read. -/
def Complete (e : Event) : Option (List SourceMapFile) → Prop
  | none => True
  | some rows => ∀ debugID ∈ e.debugIDs, ∃ row ∈ rows, row.debugID = debugID

instance (e : Event) : ∀ rows, Decidable (Complete e rows)
  | none => isTrue trivial
  | some rows => inferInstanceAs (Decidable (∀ debugID ∈ e.debugIDs, ∃ row ∈ rows, _))

/-- The run may end with this result: it does not park the event on a complete catalog, and
writes a failure only under its lease. -/
def SoundResult (s : Store) (r : ResolveRun) (e : Event) (rows : Option (List SourceMapFile)) :
    StackResolution → Bool
  | .partlyResolved _ => ¬(s.HoldsLease r ∧ Complete e rows)
  | .invalidMap | .resolutionFailed => s.HoldsLease r ∨ r.finalAttempt
  | _ => true

def Sound (reader : MapReader) (s : Store) : Action → Bool
  | .run key (.conclude answers) _ =>
    match s.runs.find? key with
    | none => true
    | some r =>
      match s.errorEvent r, r.phase with
      | some e, .read rows =>
        s.SoundResult r e rows (resolveEventStack reader e rows s.fetchMap answers)
      | _, _ => true
  | _ => true

end Store

/-- The execution publishes the wait state before it does anything else, or its job is tried
again. -/
def RunPhase.Restarts : RunPhase → Prop
  | .claimed | .threw => True
  | _ => False

/-- The execution has yet to read the catalog, or has read all the maps. -/
def RunPhase.Decides (e : Event) : RunPhase → Prop
  | .claimed | .waiting | .threw => True
  | .read rows => Store.Complete e rows
  | .returned => False

variable {phase : RunPhase}

theorem RunPhase.Restarts.decides (restarts : phase.Restarts) (e : Event) :
    phase.Decides e := by
  cases phase with
  | claimed => trivial
  | threw => trivial
  | waiting => exact restarts.elim
  | read rows => exact restarts.elim
  | returned => exact restarts.elim

namespace Store

/-- A job of the event is pending or given up, or its current execution is in a good phase. -/
def Held (s : Store) (e : Event) (good : RunPhase → Prop) : Prop :=
  ∃ j ∈ s.jobs.rows, s.StackJob e.id j ∧ (j.status = .pending ∨ j.status = .deadLetter ∨
    (j.status = .claimed ∧ ∃ r ∈ s.runs.rows, r.key = (j.id, j.leaseGeneration) ∧ good r.phase))

/-- Why an event may wait. -/
inductive Awaits (s : Store) (e : Event) : Prop where
  | missing (debugID : String) (needed : debugID ∈ e.debugIDs)
      (absent : s.files.find? (e.projectID, debugID) = none)
  | toWake (u : Upload) (present : u ∈ s.uploads.rows) (phase : u.phase = .toWake)
      (project : u.projectID = e.projectID) (image : u.debugID ∈ e.images.map DebugImage.debugID)
  | waking (u : Upload) (present : u ∈ s.uploads.rows) (eventIDs : List UUID)
      (phase : u.phase = .waking eventIDs) (listed : e.id ∈ eventIDs)
  | held (held : Held s e (RunPhase.Decides e))

/-- An event that waits has a reason to, and one that is undecided is tried again. -/
structure Waits (s : Store) : Prop where
  pending : ∀ e ∈ s.events.rows, s.statusOf e = some .pending → Awaits s e
  undecided : ∀ e ∈ s.events.rows, s.statusOf e = none ∨ s.statusOf e = some .failed →
    Held s e RunPhase.Restarts

section Held

variable {s s' : Store} {e : Event} {good weaker : RunPhase → Prop}

theorem Held.mono (implies : ∀ phase, good phase → weaker phase) (held : Held s e good) :
    Held s e weaker := by
  obtain ⟨j, member, own, pending | dead | ⟨claimed, r, run, key, phase⟩⟩ := held
  · exact ⟨j, member, own, Or.inl pending⟩
  · exact ⟨j, member, own, Or.inr (Or.inl dead)⟩
  · exact ⟨j, member, own, Or.inr (Or.inr ⟨claimed, r, run, key, implies _ phase⟩)⟩

theorem Held.queueMoves (moves : QueueMoves s s') (start : good .claimed) (ended : ¬good .returned)
    (held : Held s e good) : Held s' e good := by
  obtain ⟨j, member, own, holds⟩ := held
  obtain ⟨j', member', moved⟩ := moves.forth j member own.1
  have eventOf : s'.eventOf = s.eventOf := by rw [moves.rest]
  refine ⟨j', member', ⟨moved.jobType.trans own.1, by rw [eventOf, moved.id, own.2]⟩, ?_⟩
  cases moved.change with
  | keeps status generation =>
    rw [status, moved.id, generation]
    rcases holds with pending | dead | ⟨claimed, r, run, key, phase⟩
    · exact Or.inl pending
    · exact Or.inr (Or.inl dead)
    · exact Or.inr (Or.inr ⟨claimed, r, moves.runs r run, key, phase⟩)
  | claims _ claimed _ run =>
    obtain ⟨r, run, key, phase⟩ := run
    exact Or.inr (Or.inr ⟨claimed, r, run, key, phase ▸ start⟩)
  | drops _ waits _ =>
    rcases waits with pending | dead
    · exact Or.inl pending
    · exact Or.inr (Or.inl dead)
  | completes claimed _ _ returned =>
    obtain ⟨r', run', key', phase'⟩ := returned
    rcases holds with pending | dead | ⟨-, r, run, key, phase⟩
    · rw [claimed] at pending
      cases pending
    · rw [claimed] at dead
      cases dead
    · obtain rfl : r = r' := s.runs.inj run run' (key.trans key'.symm)
      rw [phase'] at phase
      exact absurd phase ended

theorem Held.enqueues (enqueues : Enqueues s s') (held : Held s e good) : Held s' e good := by
  obtain ⟨j, member, own, holds⟩ := held
  have runs : s'.runs = s.runs := by rw [enqueues.rest]
  refine ⟨j, enqueues.old j member, ⟨own.1, (enqueues.eventOf j member).trans own.2⟩, ?_⟩
  rw [runs]
  exact holds

theorem Held.enter (keyed : Keyed s) {r : ResolveRun} (present : r ∈ s.runs.rows)
    (keeps : r.eventID = e.id → s.HoldsLease r → good r.phase → good phase) (held : Held s e good) :
    Held (s.enter r.key phase) e good := by
  obtain ⟨j, member, own, holds⟩ := held
  refine ⟨j, member, own, ?_⟩
  rcases holds with pending | dead | ⟨claimed, r', run, key, fine⟩
  · exact Or.inl pending
  · exact Or.inr (Or.inl dead)
  · refine Or.inr (Or.inr ⟨claimed, ?_⟩)
    by_cases same : r'.key = r.key
    · obtain rfl := s.runs.inj run present same
      have ids : r'.job.id = j.id := congrArg Prod.fst key
      have event : r'.eventID = e.id := by
        have ofRun := (keyed.runs r' present).1
        rw [ids, own.2, Option.some.injEq] at ofRun
        exact ofRun.symm
      exact ⟨r'.enter phase, (mem_enter present).mpr (Or.inl rfl), key,
        keeps event ⟨j, member, key.symm, claimed⟩ fine⟩
    · exact ⟨r', (mem_enter present).mpr (Or.inr ⟨run, same⟩), key, fine⟩

theorem Held.of_pending {j : Job} (member : j ∈ s.jobs.rows) (own : s.StackJob e.id j)
    (pending : j.status = .pending) : Held s e good :=
  ⟨j, member, own, Or.inl pending⟩

end Held

variable {e : Event}

theorem Awaits.mono {s s' : Store} (awaits : Awaits s e)
    (files : ∀ debugID ∈ e.debugIDs, s.files.find? (e.projectID, debugID) = none →
      s'.files.find? (e.projectID, debugID) = none ∨ Awaits s' e)
    (uploads : ∀ u ∈ s.uploads.rows, u.phase.Wakes → u ∈ s'.uploads.rows)
    (held : Held s e (RunPhase.Decides e) → Held s' e (RunPhase.Decides e)) : Awaits s' e := by
  cases awaits with
  | missing debugID needed absent =>
    rcases files debugID needed absent with absent | awaits
    · exact .missing debugID needed absent
    · exact awaits
  | toWake u present phase project image =>
    exact .toWake u (uploads u present (by rw [phase]; trivial)) phase project image
  | waking u present eventIDs phase listed =>
    exact .waking u (uploads u present (by rw [phase]; trivial)) eventIDs phase listed
  | held holds => exact .held (held holds)

theorem Awaits.of_held {s s' : Store} (awaits : Awaits s e) (files : s'.files = s.files)
    (uploads : s'.uploads = s.uploads)
    (held : Held s e (RunPhase.Decides e) → Held s' e (RunPhase.Decides e)) : Awaits s' e :=
  awaits.mono (fun _ _ absent => Or.inl (files ▸ absent)) (fun _ present _ => uploads ▸ present) held

variable {s : Store}

theorem Waits.awaits (waits : Waits s) (known : e ∈ s.events.rows)
    (open_ : s.statusOf e ≠ some .resolved ∧ s.statusOf e ≠ some .noMap) : Awaits s e := by
  have retried : s.statusOf e = none ∨ s.statusOf e = some .failed → Awaits s e := fun undecided =>
    .held ((waits.undecided e known undecided).mono fun _ restarts => restarts.decides e)
  cases status : s.statusOf e with
  | none => exact retried (Or.inl status)
  | some status' =>
    cases status' with
    | resolved => exact absurd status open_.1
    | noMap => exact absurd status open_.2
    | failed => exact retried (Or.inr status)
    | pending => exact waits.pending e known status

theorem Waits.queueMoves {s s' : Store} (waits : Waits s) (moves : QueueMoves s s') : Waits s' := by
  have events : s'.events = s.events := by rw [moves.rest]
  have status : ∀ e, s'.statusOf e = s.statusOf e := fun e => by
    rw [statusOf, statusOf, moves.rest]
  constructor
  · intro e known pending
    refine (waits.pending e (events ▸ known) (status e ▸ pending)).of_held (by rw [moves.rest])
      (by rw [moves.rest]) ?_
    exact Held.queueMoves moves trivial id
  · intro e known undecided
    exact (waits.undecided e (events ▸ known) (status e ▸ undecided)).queueMoves moves trivial id

theorem Waits.capture (waits : Waits s) (e : Event) (jobID : UUID) (now : Timestamp) :
    Waits (s.capture e jobID now) := by
  have enqueues := enqueues_capture s e jobID now
  have status : ∀ e', (s.capture e jobID now).statusOf e' = s.statusOf e' := fun e' => by
    rw [statusOf, statusOf, enqueues.rest]
  have news : ∀ e' ∈ (s.capture e jobID now).events.rows, e' ∈ s.events.rows ∨
      ∀ good, Held (s.capture e jobID now) e' good := by
    unfold Store.capture
    split
    · rename_i events jobs known inserted
      intro e' member
      rcases (Table.mem_insert? known).mp member with rfl | old
      · refine Or.inr fun good => Held.of_pending ((Table.mem_insert? inserted).mpr (Or.inl rfl))
          ⟨rfl, ?_⟩ rfl
        exact Function.update_self ..
      · exact Or.inl old
    · exact fun e' member => Or.inl member
  constructor
  · intro e' known pending
    rcases news e' known with old | held
    · refine (waits.pending e' old (status e' ▸ pending)).of_held (by rw [enqueues.rest])
        (by rw [enqueues.rest]) ?_
      exact Held.enqueues enqueues
    · exact .held (held _)
  · intro e' known undecided
    rcases news e' known with old | held
    · exact (waits.undecided e' old (status e' ▸ undecided)).enqueues enqueues
    · exact held _

theorem Keyed.eventOfRun (keyed : Keyed s) {r : ResolveRun} (present : r ∈ s.runs.rows)
    (known : e ∈ s.events.rows) (own : e.id = r.eventID) :
    e.projectID = r.job.projectID := by
  obtain ⟨ofRun, j, member, id, stack, project, -⟩ := keyed.runs r present
  obtain ⟨e', known', ofEvent, project'⟩ := keyed.jobs j member stack
  rw [id, ofRun, Option.some.injEq] at ofEvent
  obtain rfl : e = e' := s.events.inj known known' (own.trans ofEvent)
  exact project'.symm.trans project

theorem Waits.enter (waits : Waits s) (keyed : Keyed s) {r : ResolveRun} (present : r ∈ s.runs.rows)
    (restarts : r.phase.Restarts → phase.Restarts)
    (decides : ∀ e ∈ s.events.rows, e.id = r.eventID → Awaits s e → Awaits (s.enter r.key phase) e) :
    Waits (s.enter r.key phase) := by
  constructor
  · intro e known pending
    have awaits := waits.pending e known pending
    by_cases own : e.id = r.eventID
    · exact decides e known own awaits
    · exact awaits.of_held rfl rfl (Held.enter keyed present fun same => absurd same.symm own)
  · intro e known undecided
    exact (waits.undecided e known undecided).enter keyed present fun _ _ => restarts

theorem statusOf_record (keyed : Keyed s) {r : ResolveRun} (present : r ∈ s.runs.rows)
    (status : ResolutionStatus) (envelope : Option Envelope) (phase : RunPhase) (now : Timestamp)
    (known : e ∈ s.events.rows) :
    (e.id = r.eventID ∧ (s.record r status envelope phase now).statusOf e = some status ∧
        s.statusOf e ≠ some .resolved ∧ (s.statusOf e = some .noMap → status ≠ .pending ∧ status ≠ .failed)) ∨
      ((s.record r status envelope phase now).statusOf e = s.statusOf e ∧
        (e.id = r.eventID → s.statusOf e = some .resolved ∨ s.statusOf e = some .noMap)) := by
  have after := find?_recordResolution s.resolutions r.job.projectID r.eventID status envelope now
    (e.projectID, e.id)
  have shown : (s.record r status envelope phase now).statusOf e = (((recordResolution s.resolutions
      r.job.projectID r.eventID status envelope now).find? (e.projectID, e.id)).map
        EventResolution.status) := rfl
  by_cases own : e.id = r.eventID
  · have project := keyed.eventOfRun present known own
    rw [if_pos (Prod.ext project own)] at after
    rw [shown, after, statusOf]
    cases old : s.resolutions.find? (e.projectID, e.id) with
    | none => exact Or.inl ⟨own, rfl, nofun, nofun⟩
    | some was =>
      have version := keyed.versions was (Table.mem_of_find? old)
      simp only [Option.elim_some, Option.map_some, Option.some.injEq, ne_eq]
      unfold EventResolution.overwrite
      split
      · rename_i settled
        refine Or.inr ⟨rfl, fun _ => ?_⟩
        rcases settled with ⟨resolved, -⟩ | ⟨noMap, -⟩
        · exact Or.inl resolved
        · exact Or.inr noMap
      · rename_i unsettled
        refine Or.inl ⟨own, rfl, fun resolved => ?_, fun noMap => ⟨fun pending => ?_, fun failed => ?_⟩⟩
        · exact unsettled (Or.inl ⟨resolved, Nat.le_of_eq version.symm⟩)
        · exact unsettled (Or.inr ⟨noMap, Or.inl pending⟩)
        · exact unsettled (Or.inr ⟨noMap, Or.inr failed⟩)
  · rw [if_neg fun same => own (congrArg Prod.snd same)] at after
    exact Or.inr ⟨by rw [shown, after]; rfl, fun same => absurd same own⟩

variable {now : Timestamp}

theorem Waits.record (waits : Waits s) (keyed : Keyed s) {r : ResolveRun}
    (present : r ∈ s.runs.rows) {status : ResolutionStatus} {envelope : Option Envelope}
    (pending : status = .pending → ∀ e ∈ s.events.rows, e.id = r.eventID → Awaits s e →
      Awaits (s.enter r.key phase) e)
    (failed : status = .failed → ∀ e ∈ s.events.rows, e.id = r.eventID →
      Held (s.enter r.key phase) e RunPhase.Restarts) :
    Waits (s.record r status envelope phase now) := by
  have rests : ∀ e, Awaits (s.enter r.key phase) e → Awaits (s.record r status envelope phase now) e :=
    fun e awaits => awaits.of_held rfl rfl id
  constructor
  · intro e known waiting
    rcases statusOf_record keyed present status envelope phase now known with
      ⟨own, after, resolved, noMap⟩ | ⟨same, settled⟩
    · obtain rfl := Option.some.inj (after.symm.trans waiting)
      refine rests e (pending rfl e known own (waits.awaits known ⟨resolved, fun raw => ?_⟩))
      exact (noMap raw).1 rfl
    · have old := same.symm.trans waiting
      have other : r.eventID ≠ e.id := fun own => by
        rcases settled own.symm with status | status <;> rw [old] at status <;> cases status
      exact rests e ((waits.pending e known old).of_held rfl rfl
        (Held.enter keyed present fun own => absurd own other))
  · intro e known undecided
    rcases statusOf_record keyed present status envelope phase now known with
      ⟨own, after, -, -⟩ | ⟨same, settled⟩
    · rw [after] at undecided
      rcases undecided with none_ | some_
      · cases none_
      · exact failed (Option.some.inj some_) e known own
    · rw [same] at undecided
      have other : r.eventID ≠ e.id := fun own => by
        rcases settled own.symm with status | status <;> rw [status] at undecided <;>
          rcases undecided with undecided | undecided <;> cases undecided
      exact (waits.undecided e known undecided).enter keyed present fun own => absurd own other

theorem missing_of_incomplete (incomplete : ¬Complete e (some (s.sourceMapRows e))) :
    ∃ debugID ∈ e.debugIDs, s.files.find? (e.projectID, debugID) = none := by
  by_contra stored
  refine incomplete fun debugID needed => ?_
  cases found : s.files.find? (e.projectID, debugID) with
  | none => exact absurd ⟨debugID, needed, found⟩ stored
  | some f =>
    have key := Table.key_of_find? found
    refine ⟨f, List.mem_filter.mpr ⟨Table.mem_of_find? found, ?_⟩, congrArg Prod.snd key⟩
    have own : f.debugID = debugID := congrArg Prod.snd key
    exact decide_eq_true ⟨congrArg Prod.fst key, own ▸ needed⟩

variable {rows : Option (List SourceMapFile)} {reader : MapReader}

theorem complete_of_mapNotFound {fetchMap : String → Option String} {answers : List FrameAnswers}
    (result : resolveEventStack reader e rows fetchMap answers = .mapNotFound) :
    ¬Complete e rows := by
  unfold resolveEventStack at result
  split at result
  · cases result
  · rename_i some_
    split at result
    · cases result
    · intro complete
      refine some_ (Or.inr ?_)
      cases matched : e.matched with
      | nil => rfl
      | cons entry rest =>
        obtain ⟨row, absent, -⟩ := complete entry.2 (by simp [Event.debugIDs, matched])
        cases absent
    · split at result
      · cases result
      · split at result
        · cases result
        · split at result
          · cases result
          · split at result <;> cases result

theorem Waits.parks (waits : Waits s) (keyed : Keyed s) {r : ResolveRun} (present : r ∈ s.runs.rows)
    (phase : r.phase = .read rows) (known : e ∈ s.events.rows) (own : e.id = r.eventID)
    (incomplete : ¬(s.HoldsLease r ∧ Complete e rows)) (now : Timestamp) :
    Waits (s.record r .pending none .returned now) := by
  refine waits.record keyed present (fun _ e' known' own' awaits => ?_) nofun
  obtain rfl : e' = e := s.events.inj known' known (own'.trans own.symm)
  refine awaits.of_held rfl rfl (Held.enter keyed present fun _ lease decides => ?_)
  rw [phase] at decides
  exact absurd ⟨lease, decides⟩ incomplete

theorem held_of_threw (keyed : Keyed s) {r : ResolveRun} (present : r ∈ s.runs.rows)
    (lease : s.HoldsLease r) (own : e.id = r.eventID) :
    Held (s.enter r.key .threw) e RunPhase.Restarts := by
  obtain ⟨j, member, key, claimed⟩ := lease
  obtain ⟨ofRun, k, present', id, stack, -⟩ := keyed.runs r present
  have ids : j.id = r.job.id := congrArg Prod.fst key
  obtain rfl : k = j := s.jobs.inj present' member (id.trans ids.symm)
  refine ⟨k, member, ⟨stack, ?_⟩, Or.inr (Or.inr ⟨claimed, r.enter .threw, ?_, key.symm, trivial⟩)⟩
  · show s.eventOf k.id = some e.id
    rw [ids, ofRun, own]
  · exact (mem_enter present).mpr (Or.inl rfl)

theorem Waits.conclude (waits : Waits s) (keyed : Keyed s) {r : ResolveRun}
    (present : r ∈ s.runs.rows) (phase : r.phase = .read rows) (known : e ∈ s.events.rows)
    (own : e.id = r.eventID) {result : StackResolution} (sound : s.SoundResult r e rows result)
    (absent : result = .mapNotFound → ¬Complete e rows) (now : Timestamp) :
    Waits (s.conclude r result now) := by
  have fails : s.HoldsLease r ∨ r.finalAttempt →
      Waits (s.record r (if r.finalAttempt then .noMap else .failed) none .threw now) := by
    intro fine
    refine waits.record keyed present (fun waiting => ?_) fun failed e' _ own' => ?_
    · split at waiting <;> cases waiting
    · split at failed
      · cases failed
      · rename_i more
        exact held_of_threw keyed present (fine.resolve_right more) own'
  cases result with
  | resolved frames => exact waits.record keyed present nofun nofun
  | noDebugIDs => exact waits.record keyed present nofun nofun
  | partlyResolved frames =>
    exact waits.parks keyed present phase known own (of_decide_eq_true sound) now
  | mapNotFound =>
    exact waits.parks keyed present phase known own (fun both => absent rfl both.2) now
  | invalidMap => exact fails (of_decide_eq_true sound)
  | resolutionFailed => exact fails (of_decide_eq_true sound)

theorem Waits.runStep (waits : Waits s) (keyed : Keyed s) {key : UUID × Nat} {step : RunStep}
    (sound : Sound reader s (.run key step now)) :
    Waits (s.runStep reader key step now) := by
  generalize s.runStep reader key step now = s', runStepped reader s key step now = stepped
  cases stepped with
  | idle => exact waits
  | queue _ moves => exact waits.queueMoves moves
  | publishes r found phase now =>
    refine waits.record keyed (Table.mem_of_find? found) (fun _ e _ _ awaits => ?_) nofun
    exact awaits.of_held rfl rfl (Held.enter keyed (Table.mem_of_find? found) fun _ _ _ => trivial)
  | throws r found phase =>
    refine waits.enter keyed (Table.mem_of_find? found) (fun _ => trivial) fun e _ _ awaits => ?_
    exact awaits.of_held rfl rfl (Held.enter keyed (Table.mem_of_find? found) fun _ _ _ => trivial)
  | reads r found phase e event rows catalog =>
    refine waits.enter keyed (Table.mem_of_find? found) (fun restarts => ?_) fun e' known own awaits => ?_
    · rw [phase] at restarts
      exact restarts.elim
    · obtain ⟨found', -⟩ := Option.filter_eq_some_iff.mp event
      obtain rfl : e' = e := s.events.inj known (Table.mem_of_find? found')
        (own.trans (Table.key_of_find? found').symm)
      by_cases complete : Complete e' rows
      · exact awaits.of_held rfl rfl
          (Held.enter keyed (Table.mem_of_find? found) fun _ _ _ => complete)
      · rcases catalog with rfl | rfl
        · exact absurd trivial complete
        · obtain ⟨debugID, needed, absent⟩ := missing_of_incomplete complete
          exact .missing debugID needed absent
  | concludes r found rows phase e event answers action now =>
    obtain ⟨found', -⟩ := Option.filter_eq_some_iff.mp event
    subst action
    simp only [Sound, found, event, phase] at sound
    exact waits.conclude keyed (Table.mem_of_find? found) phase (Table.mem_of_find? found')
      (Table.key_of_find? found') sound (fun result => complete_of_mapNotFound result) now

theorem mem_moveUpload {u u' : Upload} {phase : UploadPhase} (present : u ∈ s.uploads.rows) :
    u' ∈ (s.moveUpload u.id phase).uploads.rows ↔
      u' = u.enter phase ∨ (u' ∈ s.uploads.rows ∧ u'.id ≠ u.id) :=
  Table.mem_updateKey s.uploads present (Upload.enter phase) (fun _ => rfl) u'

theorem wakes_moveUpload {u u' : Upload} {phase : UploadPhase} (present : u ∈ s.uploads.rows)
    (idle : ¬u.phase.Wakes) (present' : u' ∈ s.uploads.rows) (wakes : u'.phase.Wakes) :
    u' ∈ (s.moveUpload u.id phase).uploads.rows := by
  refine (mem_moveUpload present).mpr (Or.inr ⟨present', fun same => ?_⟩)
  obtain rfl := s.uploads.inj present' present same
  exact idle wakes

theorem Waits.of_awaits {s s' : Store} (waits : Waits s)
    (rest : s' = { s with files := s'.files, objects := s'.objects, uploads := s'.uploads })
    (awaits : ∀ e ∈ s.events.rows, s.statusOf e = some .pending → Awaits s e → Awaits s' e) :
    Waits s' := by
  have events : s'.events = s.events := by rw [rest]
  have status : ∀ e, s'.statusOf e = s.statusOf e := fun e => by rw [statusOf, statusOf, rest]
  have held : ∀ e good, Held s e good → Held s' e good := fun e good held => by
    rw [rest]
    exact held
  constructor
  · intro e known pending
    rw [events] at known
    rw [status] at pending
    exact awaits e known pending (waits.pending e known pending)
  · intro e known undecided
    exact held e _ (waits.undecided e (events ▸ known) (status e ▸ undecided))

variable {u : Upload}

theorem Waits.moveUpload (waits : Waits s) (present : u ∈ s.uploads.rows) (idle : ¬u.phase.Wakes)
    (phase : UploadPhase) (objects : Table StoredObject.key) :
    Waits ({ s with objects }.moveUpload u.id phase) := by
  refine waits.of_awaits rfl fun e _ _ awaits => ?_
  exact awaits.mono (fun _ _ absent => Or.inl absent)
    (fun u' present' wakes => wakes_moveUpload present idle present' wakes) id

theorem Waits.insertRow (waits : Waits s) (present : u ∈ s.uploads.rows) (idle : ¬u.phase.Wakes)
    {files : Table SourceMapFile.key} (inserted : s.files.insert? u.row = some files) :
    Waits ({ s with files }.moveUpload u.id .toWake) := by
  refine waits.of_awaits rfl fun e _ _ awaits => awaits.mono (fun debugID needed absent => ?_)
    (fun u' present' wakes => wakes_moveUpload present idle present' wakes) id
  by_cases own : (e.projectID, debugID) = u.row.key
  · refine Or.inr (.toWake (u.enter .toWake) ((mem_moveUpload present).mpr (Or.inl rfl)) rfl ?_ ?_)
    · exact (congrArg Prod.fst own).symm
    · have named : u.debugID = debugID := (congrArg Prod.snd own).symm
      rw [show (u.enter .toWake).debugID = debugID from named]
      exact Event.mem_images_of_debugIDs needed
  · exact Or.inl ((Table.find?_insert? inserted _).trans ((if_neg own).trans absent))

theorem mem_waitingEvents (known : e ∈ s.events.rows) (project : u.projectID = e.projectID)
    (image : u.debugID ∈ e.images.map DebugImage.debugID) (pending : s.statusOf e = some .pending) :
    e.id ∈ s.waitingEvents u ∨ ∀ good, Held s e good := by
  obtain ⟨r, found, status⟩ := Option.map_eq_some_iff.mp pending
  have key := Table.key_of_find? found
  have rowProject : r.projectID = e.projectID := congrArg Prod.fst key
  have rowEvent : r.eventID = e.id := congrArg Prod.snd key
  by_cases queued : s.jobs.any fun j => j.projectID = r.projectID ∧ s.StackJob r.eventID j ∧
      j.status = .pending
  · obtain ⟨j, member, holds⟩ := List.any_eq_true.mp queued
    obtain ⟨-, own, waiting⟩ := of_decide_eq_true holds
    exact Or.inr fun good => .of_pending member (rowEvent ▸ own) waiting
  · refine Or.inl (List.mem_map.mpr ⟨r, List.mem_filter.mpr ⟨Table.mem_of_find? found, ?_⟩, rowEvent⟩)
    refine decide_eq_true ⟨rowProject.trans project.symm, status, ?_, queued⟩
    rw [rowEvent, Table.find?_key s.events known, Option.any_some]
    exact decide_eq_true ⟨rowProject.symm, image⟩

theorem Waits.readWaiting (waits : Waits s) (present : u ∈ s.uploads.rows)
    (phase : u.phase = .toWake) :
    Waits (s.moveUpload u.id (.waking (s.waitingEvents u))) := by
  refine waits.of_awaits rfl fun e known pending awaits => ?_
  have moved : u.enter (.waking (s.waitingEvents u)) ∈
      (s.moveUpload u.id (.waking (s.waitingEvents u))).uploads.rows :=
    (mem_moveUpload present).mpr (Or.inl rfl)
  cases awaits with
  | missing debugID needed absent => exact .missing debugID needed absent
  | toWake u' present' phase' project image =>
    by_cases same : u'.id = u.id
    · obtain rfl := s.uploads.inj present' present same
      rcases mem_waitingEvents known project image pending with listed | held
      · exact .waking _ moved _ rfl listed
      · exact .held (held _)
    · exact .toWake u' ((mem_moveUpload present).mpr (Or.inr ⟨present', same⟩)) phase' project image
  | waking u' present' eventIDs phase' listed =>
    refine .waking u' ((mem_moveUpload present).mpr (Or.inr ⟨present', fun same => ?_⟩)) eventIDs phase' listed
    obtain rfl := s.uploads.inj present' present same
    rw [phase] at phase'
    cases phase'
  | held held => exact .held held

theorem Waits.commitWake {s woken : Store} (waits : Waits s) (keyed : Keyed s)
    (present : u ∈ s.uploads.rows) {eventIDs : List UUID} (phase : u.phase = .waking eventIDs)
    {jobID : UUID → UUID} (done : s.enqueueWoken u.projectID eventIDs jobID now = some woken) :
    Waits (woken.moveUpload u.id .finished) := by
  obtain ⟨rows, news, -, rest⟩ := enqueueWoken_spec done
  have enqueues := enqueues_woken (keyed.woken u present eventIDs phase) done
  have events : woken.events = s.events := by rw [rest]
  have uploads : woken.uploads = s.uploads := by rw [rest]
  have files : woken.files = s.files := by rw [rest]
  have status : ∀ e, (woken.moveUpload u.id .finished).statusOf e = s.statusOf e := fun e => by
    show woken.statusOf e = _
    rw [statusOf, statusOf, rest]
  have member : u ∈ woken.uploads.rows := uploads ▸ present
  constructor
  · intro e known pending
    cases waits.pending e (events ▸ known) (status e ▸ pending) with
    | missing debugID needed absent => exact .missing debugID needed (files ▸ absent)
    | toWake u' present' phase' project image =>
      refine .toWake u' ((mem_moveUpload member).mpr (Or.inr ⟨uploads ▸ present', fun same => ?_⟩)) phase'
        project image
      obtain rfl := s.uploads.inj present' present same
      rw [phase] at phase'
      cases phase'
    | waking u' present' eventIDs' phase' listed =>
      by_cases same : u'.id = u.id
      · obtain rfl := s.uploads.inj present' present same
        obtain rfl : eventIDs = eventIDs' := UploadPhase.waking.inj (phase.symm.trans phase')
        exact .held (.of_pending ((rows _).mpr (Or.inl ⟨e.id, listed, rfl⟩)) ⟨rfl, news _ listed⟩ rfl)
      · exact .waking u' ((mem_moveUpload member).mpr (Or.inr ⟨uploads ▸ present', same⟩)) eventIDs' phase'
          listed
    | held held => exact .held (show Held woken e _ from held.enqueues enqueues)
  · intro e known undecided
    show Held woken e _
    exact (waits.undecided e (events ▸ known) (status e ▸ undecided)).enqueues enqueues

theorem Waits.uploadStep (waits : Waits s) (keyed : Keyed s) (id : UUID) (step : UploadStep)
    (now : Timestamp) : Waits (s.uploadStep id step now) := by
  unfold Store.uploadStep
  cases found : s.uploads.find? id with
  | none => exact waits
  | some u =>
    have present := Table.mem_of_find? found
    obtain rfl : u.id = id := Table.key_of_find? found
    dsimp only
    split
    · rename_i phase
      split <;> exact waits.moveUpload present (by rw [phase]; exact id) _ s.objects
    · rename_i phase
      split
      · exact waits
      · split <;> exact waits.moveUpload present (by rw [phase]; exact id) _ _
    · rename_i phase
      exact waits.moveUpload present (by rw [phase]; exact id) _ _
    · rename_i phase
      split
      · rename_i files inserted
        exact waits.insertRow present (by rw [phase]; exact id) inserted
      · exact waits.moveUpload present (by rw [phase]; exact id) _ s.objects
    · rename_i phase
      exact waits.readWaiting present phase
    · rename_i eventIDs phase
      split
      · exact waits
      · rename_i woken done
        exact waits.commitWake keyed present phase done
    · exact waits

theorem Waits.receive (waits : Waits s) (u : Upload) : Waits (s.receive u) := by
  unfold Store.receive
  split
  · refine waits.of_awaits rfl fun e _ _ awaits => awaits.mono (fun _ _ absent => Or.inl absent) ?_ id
    exact fun u' present _ => Table.mem_insertIgnore_of_mem u present
  · exact waits

theorem Waits.settles {s : Store} (waits : Waits s) (resolutions : ResolutionTable)
    (settles : ∀ e, statusOf { s with resolutions } e = s.statusOf e ∨
      statusOf { s with resolutions } e = some .noMap) : Waits { s with resolutions } := by
  constructor
  · intro e known pending
    rcases settles e with same | raw
    · exact (waits.pending e known (same.symm.trans pending)).of_held rfl rfl id
    · rw [pending] at raw
      cases raw
  · intro e known undecided
    rcases settles e with same | raw
    · exact waits.undecided e known (same ▸ undecided)
    · rw [raw] at undecided
      rcases undecided with undecided | undecided <;> cases undecided

theorem Waits.sweep (waits : Waits s) (status : ResolutionStatus) (boundary : Int)
    (now : Timestamp) : Waits (s.sweep status boundary now) := by
  refine waits.settles _ fun e => ?_
  have after := find?_sweep s status boundary now (e.projectID, e.id)
  show ((s.sweep status boundary now).resolutions.find? _).map _ = _ ∨
    ((s.sweep status boundary now).resolutions.find? _).map _ = _
  rw [after, statusOf]
  cases s.resolutions.find? (e.projectID, e.id) with
  | none => exact Or.inl rfl
  | some r =>
    simp only [Option.map_some]
    split
    · exact Or.inr rfl
    · exact Or.inl rfl

theorem Waits.sweepOrphans (waits : Waits s) (boundary : Int) (now : Timestamp) :
    Waits (s.sweepOrphans boundary now) := by
  refine waits.settles _ fun e => ?_
  rcases find?_sweepOrphans s boundary now (e.projectID, e.id) with same | ⟨-, new⟩
  · exact Or.inl (congrArg (Option.map EventResolution.status) same)
  · exact Or.inr (congrArg (Option.map EventResolution.status) new)

theorem waits_step {a : Action} (waits : Waits s) (keyed : Keyed s) (sound : Sound reader s a) :
    Waits (s.step reader a) := by
  cases a with
  | capture e jobID now => exact waits.capture e jobID now
  | job a => exact waits.queueMoves (queueMoves_jobStep keyed a)
  | run key step now => exact waits.runStep keyed sound
  | receive u => exact waits.receive u
  | upload id step now => exact waits.uploadStep keyed id step now
  | sweepPending boundary now => exact waits.sweep .pending boundary now
  | sweepFailed boundary now => exact waits.sweep .failed boundary now
  | sweepOrphans boundary now => exact waits.sweepOrphans boundary now

theorem waits_start : Waits .start where
  pending _ known := nomatch known
  undecided _ known := nomatch known

theorem waits_run {actions : List Action}
    (sound : (machine reader).Guarded (fun s a => Sound reader s a) .start actions) :
    Waits ((machine reader).run .start actions) := by
  have both : Keyed ((machine reader).run .start actions) ∧ Waits ((machine reader).run .start actions) :=
    (machine reader).invariant_guarded (fun s => Keyed s ∧ Waits s)
      (fun s a inv sound => ⟨keyed_step reader s a inv.1, waits_step inv.2 inv.1 sound⟩)
      ⟨keyed_start, waits_start⟩ sound
  exact both.2

theorem Waits.noLostWakeUp (waits : Waits s) : s.NoLostWakeUp := by
  intro e known quiet pending
  cases waits.pending e known pending with
  | missing debugID needed absent =>
    have stored := quiet.maps debugID needed
    rw [absent] at stored
    cases stored
  | toWake u present phase project image => exact quiet.woken u present (by rw [phase]; trivial)
  | waking u present eventIDs phase listed => exact quiet.woken u present (by rw [phase]; trivial)
  | held held =>
    obtain ⟨j, member, own, waiting | dead | ⟨claimed, -⟩⟩ := held
    · exact (quiet.idle j member own).1 waiting
    · exact quiet.alive j member own dead
    · exact (quiet.idle j member own).2 claimed

/-- A row that no later write of this resolver version takes back. -/
def Final (r : EventResolution) : Prop :=
  r.status = .noMap ∨ (r.status = .resolved ∧ resolverVersion ≤ r.resolverVersion)

/-- What one statement does to a settled row. -/
structure Kept (r r' : EventResolution) : Prop where
  final : Final r'
  resolved : r.status = .resolved → r' = r

theorem Kept.refl {r : EventResolution} (final : Final r) : Kept r r := ⟨final, fun _ => rfl⟩

/-- Every final row is kept. -/
def KeepsFinal (before after : ResolutionTable) : Prop :=
  ∀ key r, before.find? key = some r → Final r → ∃ r', after.find? key = some r' ∧ Kept r r'

theorem keepsFinal_refl (resolutions : ResolutionTable) : KeepsFinal resolutions resolutions :=
  fun _ r found final => ⟨r, found, .refl final⟩

theorem kept_overwrite {excluded r : EventResolution} (final : Final r)
    (version : excluded.resolverVersion = resolverVersion) : Kept r (excluded.overwrite r) := by
  unfold EventResolution.overwrite
  split
  · exact .refl final
  · rename_i unsettled
    rcases final with noMap | ⟨resolved, current⟩
    · refine ⟨?_, fun resolved => ?_⟩
      · cases status : excluded.status with
        | noMap => exact Or.inl rfl
        | resolved => exact Or.inr ⟨rfl, Nat.le_of_eq version.symm⟩
        | pending => exact absurd (Or.inr ⟨noMap, Or.inl status⟩) unsettled
        | failed => exact absurd (Or.inr ⟨noMap, Or.inr status⟩) unsettled
      · rw [noMap] at resolved
        cases resolved
    · exact absurd (Or.inl ⟨resolved, version ▸ current⟩) unsettled

theorem keepsFinal_record (resolutions : ResolutionTable) (projectID eventID : UUID)
    (status : ResolutionStatus) (envelope : Option Envelope) (now : Timestamp) :
    KeepsFinal resolutions (recordResolution resolutions projectID eventID status envelope now) := by
  intro key r found final
  rw [find?_recordResolution, found]
  split
  · exact ⟨_, rfl, kept_overwrite final rfl⟩
  · exact ⟨r, rfl, .refl final⟩

theorem keepsFinal_sweep (s : Store) {status : ResolutionStatus} (boundary : Int) (now : Timestamp)
    (open_ : status ≠ .resolved) : KeepsFinal s.resolutions (s.sweep status boundary now).resolutions := by
  intro key r found final
  rw [find?_sweep, found]
  refine ⟨_, rfl, ?_⟩
  dsimp only
  split
  · rename_i swept
    exact ⟨Or.inl rfl, fun resolved => absurd (swept.1.symm.trans resolved) open_⟩
  · exact .refl final

theorem keepsFinal_conclude (s : Store) (r : ResolveRun) (result : StackResolution) (now : Timestamp) :
    KeepsFinal s.resolutions (s.conclude r result now).resolutions := by
  cases result <;> exact keepsFinal_record s.resolutions _ _ _ _ now

theorem keepsFinal_step (reader : MapReader) (s : Store) (a : Action) :
    KeepsFinal s.resolutions (s.step reader a).resolutions := by
  cases a with
  | capture e jobID now =>
    rw [show (s.step reader (.capture e jobID now)).resolutions = s.resolutions by
      rw [step, (enqueues_capture s e jobID now).rest]]
    exact keepsFinal_refl _
  | job a =>
    have same : (s.jobStep a).resolutions = s.resolutions := by
      unfold jobStep
      split
      · split <;> rfl
      · split
        · rfl
        · split
          · split <;> rfl
          · rfl
      · split <;> rfl
      · split <;> rfl
      · rfl
    rw [step, same]
    exact keepsFinal_refl _
  | run key step now =>
    rw [Store.step]
    generalize s.runStep reader key step now = s', runStepped reader s key step now = stepped
    cases stepped with
    | idle => exact keepsFinal_refl _
    | queue _ moves =>
      rw [moves.rest]
      exact keepsFinal_refl _
    | publishes r found phase now => exact keepsFinal_record s.resolutions _ _ _ _ now
    | throws r found phase => exact keepsFinal_refl _
    | reads r found phase e event rows catalog => exact keepsFinal_refl _
    | concludes r found rows phase e event answers action now => exact keepsFinal_conclude s r _ now
  | receive u =>
    rw [step, receive]
    split <;> exact keepsFinal_refl _
  | upload id step now =>
    have same : (s.uploadStep id step now).resolutions = s.resolutions := by
      unfold uploadStep
      split
      · rfl
      · split
        · split <;> rfl
        · split
          · rfl
          · split <;> rfl
        · rfl
        · split <;> rfl
        · rfl
        · split
          · rfl
          · rename_i done
            rw [(enqueueWoken_spec done).2.2.2]
            rfl
        · rfl
    rw [Store.step, same]
    exact keepsFinal_refl _
  | sweepPending boundary now => exact keepsFinal_sweep s boundary now (by simp)
  | sweepFailed boundary now => exact keepsFinal_sweep s boundary now (by simp)
  | sweepOrphans boundary now =>
    intro key r found final
    rcases find?_sweepOrphans s boundary now key with same | ⟨none_, -⟩
    · exact ⟨r, same.trans found, .refl final⟩
    · rw [found] at none_
      cases none_

theorem keepsFinal_run (reader : MapReader) (s : Store) (actions : List Action) :
    KeepsFinal s.resolutions ((machine reader).run s actions).resolutions := by
  induction actions generalizing s with
  | nil => exact keepsFinal_refl _
  | cons a rest ih =>
    intro key r found final
    obtain ⟨mid, foundMid, first⟩ := keepsFinal_step reader s a key r found final
    obtain ⟨r', found', others⟩ := ih (s.step reader a) key mid foundMid first.final
    refine ⟨r', found', others.final, fun resolved => ?_⟩
    obtain rfl := first.resolved resolved
    exact others.resolved resolved

theorem settledKept_run (reader : MapReader) (s : Store) (actions : List Action) :
    SettledKept s ((machine reader).run s actions) := by
  constructor
  · intro key r found resolved version
    obtain ⟨r', found', kept⟩ :=
      keepsFinal_run reader s actions key r found (Or.inr ⟨resolved, version⟩)
    rwa [kept.resolved resolved] at found'
  · intro key r found noMap
    obtain ⟨r', found', kept⟩ := keepsFinal_run reader s actions key r found (Or.inl noMap)
    exact ⟨r', found', kept.final.imp_right And.left⟩

/-- Settled resolutions are kept in every run, and no wake-up is lost in a run where no
execution parks its event on a complete catalog or writes a failure without its lease. -/
theorem wakeUps (reader : MapReader) (actions : List Action)
    (sound : (machine reader).Guarded (fun s a => Sound reader s a) .start actions) :
    WakeUps reader actions :=
  ⟨(waits_run sound).noLostWakeUp, fun s => settledKept_run reader s actions⟩

/-- A reader that finds a position for the first line of a bundle, and for no other. -/
def firstLine : MapReader where
  contentSHA256 text := some text
  resolveFrame frame _ := if frame.line = 1 then some ⟨"src/app.ts", "load", 7⟩ else none
  isParseableMap _ := true

def bundleID : String := "5e3b0f60-6a3c-4e5d-9d1e-0a4f2c7b8d19"

def crash : Event :=
  ⟨1, 1, [⟨"app.js", 1, 5⟩, ⟨"app.js", 2, 5⟩], [⟨"sourcemap", "app.js", bundleID⟩], 0⟩

def upload : Upload := ⟨1, 1, bundleID, "map", "map", .received⟩

/-- The map is stored before the event is captured, and the event is parked for good. -/
def parked : List Action :=
  [.receive upload, .upload 1 .lookUp 0, .upload 1 .putObject 0, .upload 1 .insertRow 0,
    .upload 1 .readWaiting 0, .upload 1 (.commitWake id) 0, .capture crash 7 1,
    .job (.claimJob "worker" 60000 {} [] 2), .run (7, 1) .publishWait 3,
    .run (7, 1) (.readCatalog false) 4,
    .run (7, 1) (.conclude [⟨.ok none, true, true⟩, ⟨.ok none, true, true⟩]) 5,
    .run (7, 1) .completeJob 6]

theorem not_wakeUps : ¬∀ reader actions, WakeUps reader actions := by
  intro kept
  have quiet : ((machine firstLine).run .start parked).Quiet crash :=
    ⟨by decide +kernel, by decide +kernel, by decide +kernel, by decide +kernel⟩
  exact (kept firstLine parked).noLostWakeUp crash (by decide +kernel) quiet (by decide +kernel)

/-- With the frame of the first line alone, the event is captured first: its job parks it, the
upload wakes it, and the new job resolves it. -/
def woken : List Action :=
  [.capture { crash with frames := [⟨"app.js", 1, 5⟩] } 7 1, .job (.claimJob "worker" 60000 {} [] 2),
    .run (7, 1) .publishWait 3, .run (7, 1) (.readCatalog false) 4, .receive upload, .upload 1 .lookUp 5,
    .upload 1 .putObject 6, .upload 1 .insertRow 7, .run (7, 1) (.conclude []) 8,
    .run (7, 1) .completeJob 9, .upload 1 .readWaiting 10, .upload 1 (.commitWake fun _ => 8) 11,
    .job (.claimJob "worker" 60000 {} [] 12), .run (8, 1) .publishWait 13,
    .run (8, 1) (.readCatalog false) 14, .run (8, 1) (.conclude [⟨.ok none, true, true⟩]) 15,
    .run (8, 1) .completeJob 16]

theorem wakeUps_woken : WakeUps firstLine woken ∧
    ((machine firstLine).run .start woken).statusOf { crash with frames := [⟨"app.js", 1, 5⟩] } =
      some .resolved :=
  ⟨wakeUps firstLine woken (by decide +kernel), by decide +kernel⟩

end Store

end Opslane.Resolve
