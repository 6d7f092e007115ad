import Opslane.Filter.Inquiry

/-!
# Work behind a yes

The runs of the inquiry jobs of a project's episodes, with every step of the queue between
them. A call that answers, or finds the answer, to investigate leaves a job of its round,
unless the insert gave way to another round's job that is still active: then nothing is
left once that job ends.
-/

namespace Opslane.Filter

open Jobs (Job JobTable)
open Transition (Machine committed committed_eq)

/-- One transaction. -/
inductive Action where
  | openEpisode (ep : Episode)
  | closeEpisode (episodeID : UUID) (closedAt : Timestamp)
  | decide (episodeID : UUID) (outcome : FilterOutcome)
  | admitOne (projectID episodeID : UUID) (inputVersion : Nat) (jobID : UUID) (now : Timestamp)
  | requestIssueReview (projectID issueID jobID : UUID) (now : Timestamp)
  | persistInquiryDecision (args : InquiryPersistInput) (jobID : UUID) (now : Timestamp)
  | enqueue (j : Job)
  | queue (a : Jobs.Action)

def Episode.close (closedAt : Timestamp) (ep : Episode) : Episode :=
  { ep with closedAt := some closedAt }

/-- Jobs of other kinds come through `enqueue`, inquiries through their own statements. -/
def step (s : InquiryStore) : Action → InquiryStore
  | .openEpisode ep => { s with episodes := s.episodes.insertIgnore ep }
  | .closeEpisode episodeID closedAt =>
    { s with
      episodes := s.episodes.updateKey episodeID (Episode.close closedAt) fun _ => rfl }
  | .decide episodeID outcome =>
    { s with factual := Function.update s.factual episodeID (some outcome) }
  | .admitOne projectID episodeID inputVersion jobID now =>
    committed s (Filter.admitOne s projectID episodeID inputVersion jobID now)
  | .requestIssueReview projectID issueID jobID now =>
    committed s (RequestIssueReview s projectID issueID jobID now)
  | .persistInquiryDecision args jobID now =>
    committed s ((Filter.persistInquiryDecision s args jobID now).map Prod.fst)
  | .enqueue j =>
    if j.jobType = .issueInquiry then s else { s with jobs := Jobs.enqueueJobTx s.jobs j }
  | .queue a => if Jobs.Inserts a then s else { s with jobs := Jobs.step s.jobs a }

def machine : Machine InquiryStore Action := ⟨step⟩

/-- A step that answers nothing: decisions stay, jobs and episodes keep what they are, and a
new inquiry is one of an episode. -/
structure Moves (s s' : InquiryStore) : Prop where
  inquiries : s'.inquiries = s.inquiries
  lastCall : s'.lastCall = s.lastCall
  episodes : ∀ ep ∈ s.episodes.rows, ∃ ep' ∈ s'.episodes.rows, ep'.id = ep.id ∧
    ep'.projectID = ep.projectID
  jobs : ∀ j ∈ s.jobs.rows, ∃ j' ∈ s'.jobs.rows, j'.origin = j.origin
  inquiring : ∀ j' ∈ s'.jobs.rows, j'.jobType = .issueInquiry →
    (∃ j ∈ s.jobs.rows, j'.origin = j.origin) ∨
      ∃ ep ∈ s.episodes.rows, j'.episodeID = some ep.id ∧ j'.projectID = ep.projectID

theorem Moves.refl (s : InquiryStore) : Moves s s :=
  ⟨rfl, rfl, fun ep member => ⟨ep, member, rfl, rfl⟩, fun j member => ⟨j, member, rfl⟩,
    fun j member _ => Or.inl ⟨j, member, rfl⟩⟩

/-- A call that committed: the stored answer to its evidence, and the jobs after it. -/
structure Calls (s s' : InquiryStore) (args : InquiryPersistInput) (jobID : UUID)
    (now : Timestamp) (job : Job) (groupID : UUID) (inputVersion : Nat) (stored : InquiryDecision) :
    Prop where
  leased : job ∈ s.jobs.rows ∧ args.Leases now job ∧ job.inputVersion = some inputVersion
  found : (s.inquiries.insertIgnore (args.row now)).find? (args.row now).key = some stored
  after : s' = { s with
    inquiries := s.inquiries.insertIgnore (args.row now)
    jobs := s'.jobs
    lastCall := Function.update s.lastCall args.episodeID (some ⟨inputVersion, stored.decision⟩) }
  jobs : if stored.decision = .investigate then
      ensureInvestigation s.jobs args groupID inputVersion jobID now = .ok s'.jobs
    else s'.jobs = s.jobs

variable {args : InquiryPersistInput} {now : Timestamp} {jobID : UUID}

theorem persist_cases {s s' : InquiryStore} {held : Bool}
    (success : persistInquiryDecision s args jobID now = .ok (s', held)) :
    (held = false ∧ s' = s) ∨
      (held = true ∧ ∃ job groupID inputVersion stored,
        Calls s s' args jobID now job groupID inputVersion stored) := by
  unfold persistInquiryDecision at success
  split at success
  · cases success
    exact Or.inl ⟨rfl, rfl⟩
  · rename_i job found
    split at success
    · rename_i groupID inputVersion group version
      obtain ⟨stored, row, success⟩ := Except.of_bind success
      rw [Option.orError_eq_ok_iff] at row
      obtain ⟨jobs, queued, success⟩ := Except.of_bind success
      cases success
      refine Or.inr ⟨rfl, job, groupID, inputVersion, stored, ?_⟩
      refine ⟨⟨List.mem_of_find?_eq_some found, ?_, version⟩, row, rfl, ?_⟩
      · simpa using List.find?_some found
      · split at queued
        · rename_i yes
          rw [if_pos yes]
          exact queued
        · rename_i no
          rw [if_neg no]
          exact (Except.ok.inj queued).symm
    · cases success

variable {inputVersion : Nat}

theorem ensure_eq_ok {jobs jobs' : JobTable} {groupID : UUID}
    (success : ensureInvestigation jobs args groupID inputVersion jobID now = .ok jobs') :
    jobs' = Jobs.enqueueJobTx jobs (args.investigateJob groupID inputVersion jobID now) ∧
      HasWork jobs' args inputVersion := by
  unfold ensureInvestigation at success
  dsimp only at success
  split at success
  · rename_i work
    cases success
    exact ⟨rfl, work⟩
  · cases success

variable {s : InquiryStore}

theorem moves_enqueue {j : Job}
    (own : j.jobType = .issueInquiry → ∃ ep ∈ s.episodes.rows, j.episodeID = some ep.id ∧
      j.projectID = ep.projectID) {jobs : JobTable} (kept : ∀ k ∈ s.jobs.rows, k ∈ jobs.rows)
    (only : ∀ k ∈ jobs.rows, k ∈ s.jobs.rows ∨ k = j) :
    Moves s { s with jobs } where
  inquiries := rfl
  lastCall := rfl
  episodes := fun ep member => ⟨ep, member, rfl, rfl⟩
  jobs := fun k member => ⟨k, kept k member, rfl⟩
  inquiring := by
    intro k member inquiry
    rcases only k member with old | rfl
    · exact Or.inl ⟨k, old, rfl⟩
    · exact Or.inr (own inquiry)

theorem moves_admitOne {s s' : InquiryStore} {projectID episodeID : UUID}
    (success : admitOne s projectID episodeID inputVersion jobID now = .ok s') : Moves s s' := by
  obtain ⟨ep, found, success⟩ := Except.of_bind success
  rw [Option.orError_eq_ok_iff, openEpisode, Option.filter_eq_some_iff] at found
  obtain ⟨-, success⟩ := Except.of_guard success
  cases success
  exact moves_enqueue (j := inquiryJob ep inputVersion none jobID now)
    (fun _ => ⟨ep, Table.mem_of_find? found.1, rfl, rfl⟩)
    (fun k member => Jobs.mem_enqueueJobTx_of_mem _ member) fun k member => Jobs.mem_enqueueJobTx member

theorem mem_insertJob? {jobs jobs' : JobTable} {j : Job} (inserted : Jobs.insertJob? jobs j = some jobs')
    (k : Job) : k ∈ jobs'.rows ↔ k = j ∨ k ∈ jobs.rows := by
  unfold Jobs.insertJob? at inserted
  split at inserted
  · cases inserted
  · exact Table.mem_insert? inserted

theorem moves_requestIssueReview {s s' : InquiryStore} {projectID issueID jobID : UUID}
    (success : RequestIssueReview s projectID issueID jobID now = .ok s') :
    Moves s s' := by
  obtain ⟨ep, found, success⟩ := Except.of_bind success
  rw [Option.orError_eq_ok_iff] at found
  have known : ep ∈ s.episodes.rows := List.mem_of_mem_filter (Latest.latest_spec found).1
  split at success
  · cases success
    exact .refl s
  · obtain ⟨jobs, inserted, success⟩ := Except.of_bind success
    rw [Option.orError_eq_ok_iff] at inserted
    cases success
    exact moves_enqueue (fun _ => ⟨ep, known, rfl, rfl⟩)
      (fun k member => (mem_insertJob? inserted k).mpr (Or.inr member))
      fun k member => ((mem_insertJob? inserted k).mp member).symm

theorem moves_queue (s : InquiryStore) {a : Jobs.Action} (moves : ¬Jobs.Inserts a) :
    Moves s { s with jobs := Jobs.step s.jobs a } where
  inquiries := rfl
  lastCall := rfl
  episodes := fun ep member => ⟨ep, member, rfl, rfl⟩
  jobs := by
    intro j member
    obtain ⟨j', after, -, origin⟩ := (Jobs.sameOrigins_step s.jobs moves).forth member
    exact ⟨j', after, origin⟩
  inquiring := by
    intro j' member _
    obtain ⟨j, before, -, origin⟩ := (Jobs.sameOrigins_step s.jobs moves).back member
    exact Or.inl ⟨j, before, origin⟩

theorem step_cases (s : InquiryStore) (a : Action) :
    Moves s (step s a) ∨ ∃ args jobID now job groupID inputVersion stored,
      a = .persistInquiryDecision args jobID now ∧
        Calls s (step s a) args jobID now job groupID inputVersion stored := by
  cases a with
  | openEpisode ep =>
    refine Or.inl ⟨rfl, rfl, fun ep' member => ?_, fun j member => ⟨j, member, rfl⟩,
      fun j member _ => Or.inl ⟨j, member, rfl⟩⟩
    exact ⟨ep', Table.mem_insertIgnore_of_mem ep member, rfl, rfl⟩
  | closeEpisode episodeID closedAt =>
    refine Or.inl ⟨rfl, rfl, fun ep member => ?_, fun j member => ⟨j, member, rfl⟩,
      fun j member _ => Or.inl ⟨j, member, rfl⟩⟩
    refine ⟨_, (Table.mem_updateWhere s.episodes (fun ep => ep.id = episodeID)
      (Episode.close closedAt) (fun _ => rfl) _).mpr ⟨ep, member, rfl⟩, ?_⟩
    split <;> exact ⟨rfl, rfl⟩
  | decide episodeID outcome =>
    exact Or.inl ⟨rfl, rfl, fun ep member => ⟨ep, member, rfl, rfl⟩, fun j member => ⟨j, member, rfl⟩,
      fun j member _ => Or.inl ⟨j, member, rfl⟩⟩
  | admitOne projectID episodeID inputVersion jobID now =>
    left
    rcases committed_eq s (admitOne s projectID episodeID inputVersion jobID now) with same | success
    · rw [step, same]
      exact .refl s
    · exact moves_admitOne success
  | requestIssueReview projectID issueID jobID now =>
    left
    rcases committed_eq s (RequestIssueReview s projectID issueID jobID now) with same | success
    · rw [step, same]
      exact .refl s
    · exact moves_requestIssueReview success
  | persistInquiryDecision args jobID now =>
    rw [step]
    cases called : persistInquiryDecision s args jobID now with
    | error e => exact Or.inl (.refl s)
    | ok pair =>
      obtain ⟨s', held⟩ := pair
      rcases persist_cases called with ⟨-, rfl⟩ | ⟨-, job, groupID, inputVersion, stored, calls⟩
      · exact Or.inl (.refl _)
      · exact Or.inr ⟨args, jobID, now, job, groupID, inputVersion, stored, rfl, calls⟩
  | enqueue j =>
    left
    rw [step]
    split
    · exact .refl s
    · rename_i other
      exact moves_enqueue (fun inquiry => absurd inquiry other)
        (fun k member => Jobs.mem_enqueueJobTx_of_mem _ member)
        fun k member => Jobs.mem_enqueueJobTx member
  | queue a =>
    left
    rw [step]
    split
    · exact .refl s
    · rename_i moves
      exact moves_queue s moves

/-- Every inquiry and every answer is of an episode, in the episode's project. -/
structure InScope (s : InquiryStore) : Prop where
  inquiring : ∀ j ∈ s.jobs.rows, j.jobType = .issueInquiry →
    ∃ ep ∈ s.episodes.rows, j.episodeID = some ep.id ∧ j.projectID = ep.projectID
  decided : ∀ d ∈ s.inquiries.rows,
    ∃ ep ∈ s.episodes.rows, d.episodeID = ep.id ∧ d.projectID = ep.projectID

theorem inScope_empty : InScope .empty := ⟨by simp [InquiryStore.empty, Table.empty],
  by simp [InquiryStore.empty, Table.empty]⟩

theorem InScope.moves {s s' : InquiryStore} (scope : InScope s) (moves : Moves s s') : InScope s' where
  inquiring := by
    intro j' member inquiry
    have known : ∃ ep ∈ s.episodes.rows, j'.episodeID = some ep.id ∧ j'.projectID = ep.projectID := by
      rcases moves.inquiring j' member inquiry with ⟨j, old, origin⟩ | fresh
      · obtain ⟨project, jobType, -, episode, -⟩ := Jobs.origin_eq origin
        rw [episode, project]
        exact scope.inquiring j old (jobType.symm.trans inquiry)
      · exact fresh
    obtain ⟨ep, row, episode, project⟩ := known
    obtain ⟨ep', row', id, same⟩ := moves.episodes ep row
    exact ⟨ep', row', id ▸ episode, same ▸ project⟩
  decided := by
    intro d member
    rw [moves.inquiries] at member
    obtain ⟨ep, row, episode, project⟩ := scope.decided d member
    obtain ⟨ep', row', id, same⟩ := moves.episodes ep row
    exact ⟨ep', row', id ▸ episode, same ▸ project⟩

theorem InScope.calls {s s' : InquiryStore} (scope : InScope s) {args : InquiryPersistInput}
    {jobID : UUID} {now : Timestamp} {job : Job} {groupID : UUID} {inputVersion : Nat}
    {stored : InquiryDecision} (calls : Calls s s' args jobID now job groupID inputVersion stored) :
    InScope s' := by
  obtain ⟨member, ⟨-, project, episode, inquiry⟩, -⟩ := calls.leased
  obtain ⟨ep, row, episode', project'⟩ := scope.inquiring job member inquiry
  have own : args.episodeID = ep.id := Option.some.inj (episode.symm.trans episode')
  rw [calls.after]
  constructor
  · intro j' after inquiry'
    have jobs := calls.jobs
    split at jobs
    · rw [(ensure_eq_ok jobs).1] at after
      rcases Jobs.mem_enqueueJobTx after with old | rfl
      · exact scope.inquiring j' old inquiry'
      · cases inquiry'
    · rw [jobs] at after
      exact scope.inquiring j' after inquiry'
  · intro d after
    rcases Table.mem_insertIgnore after with old | rfl
    · exact scope.decided d old
    · exact ⟨ep, row, own, project.symm.trans project'⟩

theorem inScope_run (actions : List Action) : InScope (machine.run .empty actions) := by
  refine machine.invariant_run InScope (fun s a scope => ?_) inScope_empty actions
  rcases step_cases s a with moves | ⟨args, jobID, now, job, groupID, inputVersion, stored, -, calls⟩
  · exact scope.moves moves
  · exact scope.calls calls

theorem InScope.single (scope : InScope s) {d d' : InquiryDecision} (member : d ∈ s.inquiries.rows)
    (member' : d' ∈ s.inquiries.rows) (episode : d.episodeID = d'.episodeID)
    (version : d.promptVersion = d'.promptVersion)
    (signature : d.evidenceSignature = d'.evidenceSignature) : d = d' := by
  obtain ⟨ep, row, own, project⟩ := scope.decided d member
  obtain ⟨ep', row', own', project'⟩ := scope.decided d' member'
  have same : ep = ep' := s.episodes.inj row row'
    (own.symm.trans (episode.trans own'))
  refine s.inquiries.inj member member' ?_
  simp only [InquiryDecision.key, episode, version, signature, project, project', same]

theorem persist_without_lease (lost : ∀ j ∈ s.jobs.rows,
      ¬j.Owned args.jobID args.workerID args.leaseGeneration now) :
    persistInquiryDecision s args jobID now = .ok (s, false) := by
  have none : s.jobs.rows.find? (fun j => args.Leases now j) = none := by
    rw [List.find?_eq_none]
    intro j member leased
    exact lost j member (of_decide_eq_true leased).1
  unfold persistInquiryDecision
  rw [none]

/-- A call that is to investigate finds a job of its own round, or no active investigation. -/
def Unsuppressed (s : InquiryStore) : Action → Prop
  | .persistInquiryDecision args _ now =>
    effectiveDecision s args now = .investigate → ∀ job ∈ s.jobs.rows, args.Leases now job →
      ∀ j ∈ s.jobs.rows, args.Investigates j → j.Active →
        ∃ k ∈ s.jobs.rows, args.Investigates k ∧ k.inputVersion = job.inputVersion
  | _ => True

instance (s : InquiryStore) (a : Action) : Decidable (Unsuppressed s a) := by
  cases a <;> unfold Unsuppressed <;> infer_instance

/-- The last call of an episode said to investigate, and work of it exists. -/
def YesHasWork (s : InquiryStore) : Prop :=
  ∀ episodeID inputVersion, s.lastCall episodeID = some ⟨inputVersion, .investigate⟩ →
    ∃ j ∈ s.jobs.rows, j.episodeID = some episodeID ∧ j.jobType = .investigate ∧
      (j.Active ∨ j.inputVersion = some inputVersion)

/-- A job of the round of each last call that said to investigate. -/
def RoundQueued (s : InquiryStore) : Prop :=
  ∀ episodeID inputVersion, s.lastCall episodeID = some ⟨inputVersion, .investigate⟩ →
    ∃ j ∈ s.jobs.rows, j.episodeID = some episodeID ∧ j.jobType = .investigate ∧
      j.inputVersion = some inputVersion

theorem RoundQueued.hasWork (queued : RoundQueued s) : YesHasWork s := by
  intro episodeID inputVersion called
  obtain ⟨j, member, episode, jobType, version⟩ := queued episodeID inputVersion called
  exact ⟨j, member, episode, jobType, Or.inr version⟩

theorem RoundQueued.grow {s s' : InquiryStore} (queued : RoundQueued s)
    (jobs : ∀ j ∈ s.jobs.rows, ∃ j' ∈ s'.jobs.rows, j'.origin = j.origin) {episodeID : UUID}
    (called : s.lastCall episodeID = some ⟨inputVersion, .investigate⟩) :
    ∃ j ∈ s'.jobs.rows, j.episodeID = some episodeID ∧ j.jobType = .investigate ∧
      j.inputVersion = some inputVersion := by
  obtain ⟨j, member, episode, jobType, version⟩ := queued episodeID inputVersion called
  obtain ⟨j', member', origin⟩ := jobs j member
  obtain ⟨-, jobType', -, episode', -, -, -, version'⟩ := Jobs.origin_eq origin
  exact ⟨j', member', episode'.trans episode, jobType'.trans jobType, version'.trans version⟩

theorem round_queued {jobs jobs' : JobTable} {groupID : UUID}
    (success : ensureInvestigation jobs args groupID inputVersion jobID now = .ok jobs')
    (unsuppressed : ∀ j ∈ jobs.rows, args.Investigates j → j.Active →
      ∃ k ∈ jobs.rows, args.Investigates k ∧ k.inputVersion = some inputVersion) :
    ∃ j ∈ jobs'.rows, args.Investigates j ∧ j.inputVersion = some inputVersion := by
  obtain ⟨rfl, work⟩ := ensure_eq_ok success
  obtain ⟨j, member, selected⟩ := List.any_eq_true.mp work
  obtain ⟨own, round | active⟩ := of_decide_eq_true selected
  · exact ⟨j, member, own, round⟩
  · rcases Jobs.mem_enqueueJobTx member with old | rfl
    · obtain ⟨k, known, own', round⟩ := unsuppressed j old own active
      exact ⟨k, Jobs.mem_enqueueJobTx_of_mem _ known, own', round⟩
    · exact ⟨_, member, own, rfl⟩

theorem effective_of_stored {stored : InquiryDecision}
    (found : (s.inquiries.insertIgnore (args.row now)).find? (args.row now).key = some stored) :
    effectiveDecision s args now = stored.decision := by
  rw [Table.find?_insertIgnore, if_pos rfl] at found
  unfold effectiveDecision
  cases before : s.inquiries.find? (args.row now).key with
  | none =>
    rw [before, Option.none_or] at found
    cases found
    rfl
  | some d =>
    rw [before, Option.some_or] at found
    cases found
    rfl

theorem RoundQueued.step {s : InquiryStore} (queued : RoundQueued s) (a : Action)
    (unsuppressed : Unsuppressed s a) : RoundQueued (step s a) := by
  rcases step_cases s a with moves | ⟨args, jobID, now, job, groupID, inputVersion, stored, rfl, calls⟩
  · intro episodeID inputVersion called
    rw [moves.lastCall] at called
    exact queued.grow moves.jobs called
  · generalize Filter.step s (.persistInquiryDecision args jobID now) = s' at calls ⊢
    have jobs := calls.jobs
    have grown : ∀ j ∈ s.jobs.rows, j ∈ s'.jobs.rows := by
      intro j member
      split at jobs
      · rw [(ensure_eq_ok jobs).1]
        exact Jobs.mem_enqueueJobTx_of_mem _ member
      · rw [jobs]
        exact member
    intro episodeID version called
    have last : s'.lastCall = Function.update s.lastCall args.episodeID
        (some ⟨inputVersion, stored.decision⟩) := by rw [calls.after]
    rw [last] at called
    by_cases own : episodeID = args.episodeID
    · subst own
      rw [Function.update_self, Option.some.injEq, Call.mk.injEq] at called
      obtain ⟨rfl, yes⟩ := called
      rw [if_pos yes] at jobs
      obtain ⟨member, leased, carries⟩ := calls.leased
      have effective := (effective_of_stored calls.found).trans yes
      obtain ⟨j, after, ⟨-, episode, jobType⟩, round⟩ := round_queued jobs fun j known own active =>
        carries ▸ unsuppressed effective job member leased j known own active
      exact ⟨j, after, episode, jobType, round⟩
    · rw [Function.update_of_ne own] at called
      exact queued.grow (fun j member => ⟨j, grown j member, rfl⟩) called

/-- What the ledger of inquiries promises in a state. -/
structure InquiryLedger (s : InquiryStore) : Prop where
  /-- One decision for each episode, prompt version and evidence signature. -/
  single : ∀ d ∈ s.inquiries.rows, ∀ d' ∈ s.inquiries.rows, d.episodeID = d'.episodeID →
    d.promptVersion = d'.promptVersion → d.evidenceSignature = d'.evidenceSignature → d = d'
  /-- A worker without its lease writes nothing. -/
  fenced : ∀ args jobID now,
    (∀ j ∈ s.jobs.rows, ¬j.Owned args.jobID args.workerID args.leaseGeneration now) →
      persistInquiryDecision s args jobID now = .ok (s, false)
  /-- A yes has work. -/
  work : YesHasWork s

/-- Where no round's investigation gives way to another's, the ledger holds in every state. -/
theorem inquiry_ledger (actions : List Action)
    (guarded : machine.Guarded Unsuppressed .empty actions) :
    InquiryLedger (machine.run .empty actions) where
  single := fun _ member _ member' episode version signature =>
    (inScope_run actions).single member member' episode version signature
  fenced := fun _ _ _ lost => persist_without_lease lost
  work := by
    have start : RoundQueued .empty := by simp [RoundQueued, InquiryStore.empty]
    exact (machine.invariant_guarded RoundQueued (fun s a queued guard => queued.step a guard)
      start guarded).hasWork

/-- The answer of the worker `w` to the evidence `signature`, under the first claim of a job. -/
def answer (inquiryID : UUID) (decision : InquiryOutcome) (signature : String) : InquiryPersistInput where
  projectID := 1
  episodeID := 3
  jobID := inquiryID
  workerID := "w"
  leaseGeneration := 1
  decision
  reason := "checkout fails"
  brief := some "start at checkout"
  relatedIssues := []
  affectedUnits := 4
  evidenceSignature := signature
  productUnderstandingVersion := none
  model := "claude-sonnet-5"
  promptVersion := 2

def firstRound : List Action :=
  [.openEpisode ⟨3, 1, 2, 1, none⟩, .decide 3 .openInquiry, .admitOne 1 3 1 10 0,
    .queue (.claimJob "w" 300000 {} [] 1),
    .persistInquiryDecision (answer 10 .investigate "a") 20 2,
    .queue (.completeJob 10 "w" 1 3)]

/-- A second round by hand while the investigation of the first one runs, which ends after. -/
def secondRound : List Action :=
  [.queue (.claimJob "w" 300000 {} [] 4), .requestIssueReview 1 2 11 5,
    .queue (.claimJob "w" 300000 {} [] 6),
    .persistInquiryDecision (answer 11 .investigate "b") 21 7,
    .queue (.completeJob 11 "w" 1 8), .queue (.completeJob 20 "w" 1 9)]

theorem inquiry_ledger_first : InquiryLedger (machine.run .empty firstRound) :=
  inquiry_ledger firstRound (by decide +kernel)

/-- The second yes ends without work: its insert gave way to the first round's job. -/
theorem yes_without_work : ¬∀ actions, InquiryLedger (machine.run .empty actions) := by
  intro all
  have called : (machine.run .empty (firstRound ++ secondRound)).lastCall 3 =
      some ⟨2, .investigate⟩ := by decide +kernel
  have idle : ∀ j ∈ (machine.run .empty (firstRound ++ secondRound)).jobs.rows,
      j.jobType = .investigate → ¬j.Active ∧ j.inputVersion = some 1 := by decide +kernel
  obtain ⟨j, member, -, jobType, work⟩ := (all (firstRound ++ secondRound)).work 3 2 called
  obtain ⟨ended, round⟩ := idle j member jobType
  rcases work with active | version
  · exact ended active
  · rw [round] at version
    cases version

end Opslane.Filter
