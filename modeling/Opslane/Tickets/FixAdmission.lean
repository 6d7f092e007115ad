import Opslane.Lib.Result
import Opslane.Tickets.Store

/-!
# Admission of a ticket's fix

A human asks for the fix of a ticket through the API (`requestTicketFix` of
`packages/ingestion/db/ticket_fix.go`), the worker asks through `requestFix` of
`packages/worker/src/friction/fix-attempts.ts`. Both run under the publication, project,
ticket and issue locks, so each is one function of the store; they read the evidence
through different queries, and the diagnosis and the root cause under different rules.
-/

namespace Opslane.Tickets

open Jobs (Job RequestedBy)

open Latest (latest latest_spec latest_filter)

/-- An attempt of this generation is active or has a pull request open. -/
def OutstandingAttempt (s : TicketStore) (ticketID : UUID) (generation : Nat) : Prop :=
  ∃ a ∈ s.attempts.rows, a.ticketID = ticketID ∧ a.generation = generation ∧ a.Outstanding
  deriving Decidable

/-- A fix job of the issue is pending or claimed. -/
def OutstandingJob (s : TicketStore) (projectID groupID : UUID) : Prop :=
  ∃ j ∈ s.jobs.rows, j.errorGroupID = some groupID ∧ j.projectID = projectID ∧ j.jobType = .fix ∧
    j.Active
  deriving Decidable

/-- A new attempt. -/
def FixAttempt.new (id ticketID groupID : UUID) (generation : Nat) (requestedBy : RequestedBy)
    (now : Timestamp) : FixAttempt where
  id
  ticketID
  errorGroupID := groupID
  generation
  status := .active
  requestedBy
  prURL := none
  prNumber := none
  githubRepo := none
  deliveryReservedAt := none
  createdAt := now

/-- The incident goes to `fixing`. -/
def Incident.startFix (g : Incident) : Incident :=
  { g with status := .fixing, fixSubstate := .fixing, terminalFixJobID := none }

/-- The payload of a fix job. -/
def diagnosisPayload (d : Option DiagnosisDecision) : Json :=
  .object [("diagnosis", (d.bind DiagnosisDecision.diagnosis).getD .null)]

/-- What `btrim` takes off a text. -/
def isSpace (c : Char) : Bool := c = ' '

def btrim (s : String) : String := Text.trimmed isSpace s

structure TicketIncidentState where
  ticketID : UUID
  kind : TicketKind
  generation : Nat
  fixSubstate : FixSubstate
  investigationStatus : InvestigationStatus
  causeCoverage : ℚ
  ticketStatus : TicketStatus
  groupStatus : GroupStatus
  liveGeneration : Nat
  cause : String
  brief : String
  sourceJobID : Option UUID
  diagnosis : Option Json

inductive TicketFixError where
  | notInvestigated
  | scan
  | insert
  deriving DecidableEq

/-- The brief of a decision, trimmed, and empty where there is none. -/
def agentTaskBrief (d : Option DiagnosisDecision) : String :=
  ((d.bind DiagnosisDecision.diagnosis).bind (Json.textField "agentTaskBrief")).elim "" btrim

/-- The row of the admission query for an issue and its ticket. -/
def incidentState (s : TicketStore) (g : Incident) (t : FrictionTicket)
    (investigationStatus : InvestigationStatus) (now : Timestamp) : TicketIncidentState :=
  let d := latestDecision s.decisions g.id [.codeFix, .notActionable]
  { ticketID := t.id
    kind := t.kind
    generation := g.publicationGeneration
    fixSubstate := g.fixSubstate
    investigationStatus
    causeCoverage := coverageValue g.explainedSignalIDs (confirmedSignals s.evidence t now)
    ticketStatus := t.status
    groupStatus := g.status
    liveGeneration := t.liveGeneration
    cause := g.rootCause.elim "" btrim
    brief := agentTaskBrief d
    sourceJobID := d.bind DiagnosisDecision.jobID
    diagnosis := d.bind DiagnosisDecision.diagnosis }

/-- The admission state of an issue. One that was never investigated has no status to
scan. -/
def ticketIncidentState (s : TicketStore) (projectID groupID : UUID) (now : Timestamp) :
    Except TicketFixError (Option TicketIncidentState) :=
  match s.getIncident projectID groupID with
  | none => .ok none
  | some (g, t) =>
    match g.investigationStatus with
    | none => .error .scan
    | some investigationStatus => .ok (some (incidentState s g t investigationStatus now))

def lockTicketIncident (s : TicketStore) (projectID groupID : UUID) (now : Timestamp) :
    Except TicketFixError TicketIncidentState := do
  match ← ticketIncidentState s projectID groupID now with
  | none => .error .notInvestigated
  | some state =>
    if state.ticketStatus ≠ .published ∨ state.groupStatus = .archived ∨
        state.generation ≠ state.liveGeneration ∨ state.fixSubstate = .resolved then
      .error .notInvestigated
    else .ok state

/-- Binds a signed digest action to the attempt it displayed; `expiresAt` in seconds. -/
structure TicketFixExpectation where
  ticketID : UUID
  generation : Nat
  latestAttemptID : Option UUID
  expiresAt : Int
  deriving DecidableEq

def latestAttempt (s : TicketStore) (ticketID : UUID) (generation : Nat) : Option UUID :=
  (latest (fun a : FixAttempt => toLex (a.createdAt, a.id))
    (s.attempts.select fun a => a.ticketID = ticketID ∧ a.generation = generation)).map FixAttempt.id

def nilIfEmpty (s : String) : Option String := if s = "" then none else some s

/-- The job a request through the API queues. -/
def ticketFixJob (s : TicketStore) (state : TicketIncidentState)
    (projectID groupID attemptID jobID : UUID) (guidance : String) (now : Timestamp) : Job :=
  Job.new jobID projectID .fix
    { errorGroupID := some groupID
      ticketID := some state.ticketID
      publicationGeneration := some state.generation
      fixAttemptID := some attemptID
      sourceID := some groupID
      sourceJobID := state.sourceJobID
      guidance := nilIfEmpty guidance
      triggeredBy := some .human
      platform := (s.incidents.table.find? groupID).bind Incident.platform
      payload := some (.object [("diagnosis", state.diagnosis.getD .null)]) } now now

def requestTicketFix (s : TicketStore) (projectID groupID : UUID) (guidance : String)
    (expected : Option TicketFixExpectation) (attemptID jobID : UUID) (now clock : Timestamp) :
    Except TicketFixError TicketStore := do
  let state ← lockTicketIncident s projectID groupID now
  if state.kind ≠ .defect then .error .notInvestigated
  else if expected.any (fun want => want.ticketID ≠ state.ticketID ∨
      want.generation ≠ state.generation ∨
      want.latestAttemptID ≠ latestAttempt s state.ticketID state.generation ∨
      want.expiresAt ≤ clock / 1000000) then .error .notInvestigated
  else if OutstandingAttempt s state.ticketID state.generation ∨
      OutstandingJob s projectID groupID then .error .notInvestigated
  else if state.investigationStatus ≠ .done ∨ state.causeCoverage < 1 / 2 ∨ state.cause = "" ∨
      state.brief = "" then .error .notInvestigated
  else do
    let attempts ← (s.attempts.insert? (FixAttempt.new attemptID state.ticketID groupID
      state.generation .human now)).orError .insert
    let jobs ← (Jobs.insertJob? s.jobs (ticketFixJob s state projectID groupID attemptID jobID
      guidance now)).orError .insert
    .ok ({ s with attempts, jobs }.updateIncident groupID Incident.startFix
      fun _ => ⟨rfl, rfl, rfl⟩)

inductive FixRequest where
  | created (attemptID jobID : UUID)
  | notReady | notFixable | stale | outstanding | cap | disabled
  deriving DecidableEq

/-- What the database answers to a second row under a unique key. -/
def duplicateKey : String := "duplicate key value violates unique constraint"

/-- The brief of a decision, where it is a string. -/
def stringBrief (d : Option DiagnosisDecision) : Option String :=
  match (d.bind DiagnosisDecision.diagnosis).bind (Json.field "agentTaskBrief") with
  | some (.string s) => some s
  | _ => none

/-- `!text?.trim()`. -/
def BlankText (text : Option String) : Prop := text.all (fun s => trim s = "")
  deriving Decidable

/-- Attempts of the project's tickets that meet a condition. -/
def countAttempts (s : TicketStore) (projectID : UUID) (p : FixAttempt → Bool) : Nat :=
  (s.attempts.select fun a => p a ∧ (s.getTicket projectID a.ticketID).isSome).length

/-- The job a request of the worker queues. -/
def fixJob (diagnosis : Option DiagnosisDecision) (projectID ticketID groupID : UUID)
    (generation : Nat) (requestedBy : RequestedBy) (guidance : Option String)
    (attemptID jobID : UUID) (now : Timestamp) : Job :=
  Job.new jobID projectID .fix
    { errorGroupID := some groupID
      ticketID := some ticketID
      publicationGeneration := some generation
      fixAttemptID := some attemptID
      sourceID := some groupID
      sourceJobID := diagnosis.bind DiagnosisDecision.jobID
      guidance
      triggeredBy := some requestedBy
      payload := some (diagnosisPayload diagnosis) } now now

def requestFix (s : TicketStore) (projectID ticketID : UUID) (generation : Nat)
    (requestedBy : RequestedBy) (guidance : Option String) (maxOpenFixPrs : Nat)
    (attemptID jobID : UUID) (now : Timestamp) : Except String (TicketStore × FixRequest) :=
  match s.getTicket projectID ticketID with
  | none => .ok (s, .stale)
  | some ticket =>
    if ticket.status ≠ .published ∨ ticket.liveGeneration ≠ generation then .ok (s, .stale)
    else if ticket.kind ≠ .defect then .ok (s, .notFixable)
    else
      match s.incidents.table.rows.find? fun g => g.ticketID = ticketID ∧
          g.publicationGeneration = generation ∧ g.status ≠ .archived with
      | none => .ok (s, .stale)
      | some group =>
        let diagnosis := latestDecision s.decisions group.id [.codeFix]
        let confirmed := verifiedEvidence s.evidence ticket (some 7) now
        if group.fixSubstate = .resolved then .ok (s, .stale)
        else if OutstandingAttempt s ticketID generation then .ok (s, .outstanding)
        else if OutstandingJob s projectID group.id then .ok (s, .outstanding)
        else if group.investigationStatus ≠ some .done ∨ BlankText group.rootCause ∨
            BlankText (stringBrief diagnosis) ∨
            causeCoverage (group.explainedSignalIDs.getD []) confirmed.signalIDs < 1 / 2 then
          .ok (s, .notReady)
        else if requestedBy = .auto ∧ s.frictionAutonomy projectID ≠ .autoFix then
          .ok (s, .disabled)
        else if requestedBy = .auto ∧
            maxOpenFixPrs ≤ countAttempts s projectID (fun a => a.status = .prOpen) then
          .ok (s, .cap)
        else do
          let attempts ← (s.attempts.insert? (FixAttempt.new attemptID ticketID group.id generation
            requestedBy now)).orError duplicateKey
          let jobs := Jobs.enqueueJobTx s.jobs (fixJob diagnosis projectID ticketID group.id
            generation requestedBy guidance attemptID jobID now)
          .ok ({ s with attempts, jobs }.updateIncident group.id Incident.startFix
            fun _ => ⟨rfl, rfl, rfl⟩, .created attemptID jobID)

/-- The checks the two sides share: the ticket is a published defect, the issue is its
live one and not yet fixed, and the investigation explains half of the evidence. -/
def SharedChecks (s : TicketStore) (g : Incident) (t : FrictionTicket) (now : Timestamp) : Prop :=
  t.status = .published ∧ t.liveGeneration = g.publicationGeneration ∧ t.kind = .defect ∧
    g.status ≠ .archived ∧ g.fixSubstate ≠ .resolved ∧ g.investigationStatus = some .done ∧
    1 / 2 ≤ causeCoverage (g.explainedSignalIDs.getD [])
      (verifiedEvidence s.evidence t (some 7) now).signalIDs

/-- The API finds a root cause and a brief: texts of more than spaces, and the text of a
brief of any type. -/
def APIReads (g : Incident) (d : Option DiagnosisDecision) : Prop :=
  g.rootCause.elim "" btrim ≠ "" ∧ agentTaskBrief d ≠ ""

/-- The worker finds a root cause and a brief: strings of more than white space. -/
def WorkerReads (g : Incident) (d : Option DiagnosisDecision) : Prop :=
  ¬BlankText g.rootCause ∧ ¬BlankText (stringBrief d)

/-- The payload of a job. -/
def payloadOf (s : TicketStore) (jobID : UUID) : Option Json := (s.jobs.find? jobID).bind (·.payload)

theorem isJSSpace_of_isSpace (c : Char) (space : isSpace c = true) : isJSSpace c = true := by
  obtain rfl : c = ' ' := by simpa [isSpace] using space
  decide

theorem btrim_of_trim {s : String} (empty : btrim s = "") : trim s = "" := by
  rw [btrim, Text.trimmed_eq_empty_iff] at empty
  rw [trim, Text.trimmed_eq_empty_iff]
  exact empty.mono isJSSpace_of_isSpace

variable {g : Incident}

theorem WorkerReads.api {d : Option DiagnosisDecision} (reads : WorkerReads g d) :
    APIReads g d := by
  obtain ⟨cause, brief⟩ := reads
  constructor
  · intro blank
    apply cause
    cases root : g.rootCause with
    | none => rfl
    | some text =>
      rw [root] at blank
      simpa [BlankText] using btrim_of_trim blank
  · intro blank
    apply brief
    unfold stringBrief
    split
    · rename_i text field
      obtain ⟨diagnosis, present, field⟩ := Option.bind_eq_some_iff.mp field
      rw [agentTaskBrief, present, Option.bind_some, Json.textField_of_string field] at blank
      simpa [BlankText] using btrim_of_trim blank
    · rfl

variable {now : Timestamp}

variable {s : TicketStore} {projectID groupID : UUID}

theorem lockTicketIncident_eq_ok_iff {state : TicketIncidentState} :
    lockTicketIncident s projectID groupID now = .ok state ↔
      ∃ g t investigationStatus, s.getIncident projectID groupID = some (g, t) ∧
        g.investigationStatus = some investigationStatus ∧ t.status = .published ∧
        g.status ≠ .archived ∧ g.publicationGeneration = t.liveGeneration ∧
        g.fixSubstate ≠ .resolved ∧ state = incidentState s g t investigationStatus now := by
  unfold lockTicketIncident ticketIncidentState
  rw [Except.bind_eq_ok_iff]
  constructor
  · rintro ⟨row, read, checked⟩
    split at read
    · cases read
      cases checked
    · rename_i g t found
      split at read
      · cases read
      · rename_i investigationStatus investigated
        cases read
        obtain ⟨passed, same⟩ := Except.of_guard checked
        cases same
        simp only [incidentState, not_or, not_not] at passed
        exact ⟨g, t, investigationStatus, found, investigated, passed.1, passed.2.1, passed.2.2.1,
          passed.2.2.2, rfl⟩
  · rintro ⟨g, t, investigationStatus, found, investigated, published, live, generation, unresolved,
      rfl⟩
    simp only [found, investigated]
    refine ⟨_, rfl, Except.ite_error_eq_ok_iff.mpr ⟨?_, rfl⟩⟩
    simp [incidentState, published, live, generation, unresolved]

variable {t : FrictionTicket}

theorem coverageValue_eq_causeCoverage (known : t ∈ s.tickets.rows) (g : Incident)
    (now : Timestamp) :
    coverageValue g.explainedSignalIDs (confirmedSignals s.evidence t now) =
      causeCoverage (g.explainedSignalIDs.getD [])
        (verifiedEvidence s.evidence t (some 7) now).signalIDs :=
  coverage_agree s.scope known _ now

theorem insertJob?_ticketFixJob (s : TicketStore) (state : TicketIncidentState)
    (projectID groupID attemptID jobID : UUID) (guidance : String) (now : Timestamp)
    (jobs : Jobs.JobTable) :
    Jobs.insertJob? jobs (ticketFixJob s state projectID groupID attemptID jobID guidance now) =
      jobs.insert? (ticketFixJob s state projectID groupID attemptID jobID guidance now) :=
  Jobs.insertJob?_fix rfl rfl rfl jobs

variable {attemptID jobID : UUID} {now clock : Timestamp}

theorem requestTicketFix_effect {s s' : TicketStore} {guidance : String}
    {expected : Option TicketFixExpectation}
    (admitted : requestTicketFix s projectID groupID guidance expected attemptID jobID now clock =
      .ok s') :
    ∃ g t attempts jobs, s.getIncident projectID groupID = some (g, t) ∧ SharedChecks s g t now ∧
      APIReads g (latestDecision s.decisions g.id [.codeFix, .notActionable]) ∧
      ¬OutstandingAttempt s t.id g.publicationGeneration ∧ ¬OutstandingJob s projectID groupID ∧
      s.attempts.insert? (FixAttempt.new attemptID t.id groupID g.publicationGeneration .human now) =
        some attempts ∧
      s.jobs.insert? (ticketFixJob s (incidentState s g t .done now) projectID groupID attemptID jobID
        guidance now) = some jobs ∧
      s' = { s with attempts, jobs }.updateIncident groupID Incident.startFix
        fun _ => ⟨rfl, rfl, rfl⟩ := by
  obtain ⟨state, locked, admitted⟩ := Except.of_bind admitted
  obtain ⟨g, t, investigationStatus, found, investigated, published, live, generation, unresolved,
    rfl⟩ := lockTicketIncident_eq_ok_iff.mp locked
  obtain ⟨defect, admitted⟩ := Except.of_guard admitted
  obtain ⟨-, admitted⟩ := Except.of_guard admitted
  obtain ⟨free, admitted⟩ := Except.of_guard admitted
  obtain ⟨ready, admitted⟩ := Except.of_guard admitted
  obtain ⟨attempts, attempt, admitted⟩ := Except.of_bind admitted
  obtain ⟨jobs, job, same⟩ := Except.of_bind admitted
  rw [Option.orError_eq_ok_iff] at attempt job
  have ticket := (TicketStore.getIncident_eq_some_iff.mp found).2.1
  simp only [incidentState, not_or, not_not, not_lt,
    coverageValue_eq_causeCoverage (Table.mem_of_find? ticket)] at defect free ready
  obtain ⟨rfl, covered, cause, brief⟩ := ready
  rw [insertJob?_ticketFixJob] at job
  cases same
  exact ⟨g, t, attempts, jobs, found, ⟨published, generation.symm, defect, live, unresolved,
    investigated, covered⟩, ⟨cause, brief⟩, free.1, free.2, attempt, job, rfl⟩

theorem exists_requestTicketFix (found : s.getIncident projectID g.id = some (g, t))
    (noAttempt : ¬OutstandingAttempt s t.id g.publicationGeneration)
    (noJob : ¬OutstandingJob s projectID g.id) (freshAttempt : s.attempts.find? attemptID = none)
    (freshJob : s.jobs.find? jobID = none) (checks : SharedChecks s g t now)
    (reads : APIReads g (latestDecision s.decisions g.id [.codeFix, .notActionable]))
    (guidance : String) (clock : Timestamp) :
    ∃ s', requestTicketFix s projectID g.id guidance none attemptID jobID now clock = .ok s' := by
  obtain ⟨published, generation, defect, live, unresolved, done, covered⟩ := checks
  have locked : lockTicketIncident s projectID g.id now = .ok (incidentState s g t .done now) :=
    lockTicketIncident_eq_ok_iff.mpr
      ⟨g, t, .done, found, done, published, live, generation.symm, unresolved, rfl⟩
  obtain ⟨attempts, attempt⟩ := s.attempts.exists_insert? freshAttempt
    (r := FixAttempt.new attemptID t.id g.id g.publicationGeneration .human now)
  obtain ⟨jobs, job⟩ := s.jobs.exists_insert? freshJob
    (r := ticketFixJob s (incidentState s g t .done now) projectID g.id attemptID jobID guidance now)
  have ticket := (TicketStore.getIncident_eq_some_iff.mp found).2.1
  unfold requestTicketFix
  simp only [locked, bind, Except.bind]
  rw [if_neg, if_neg, if_neg, if_neg]
  · simp only [insertJob?_ticketFixJob, job]
    simp only [incidentState, attempt, Option.orError]
    exact ⟨_, rfl⟩
  · simp only [incidentState, not_or, not_not, not_lt,
      coverageValue_eq_causeCoverage (Table.mem_of_find? ticket)]
    exact ⟨trivial, covered, reads.1, reads.2⟩
  · simp only [incidentState, not_or]
    exact ⟨noAttempt, noJob⟩
  · simp
  · simp [incidentState, defect]

variable {guidance : Option String}

theorem requestFix_cases {s s' : TicketStore} {projectID ticketID : UUID} {generation : Nat}
    {requestedBy : RequestedBy} {maxOpenFixPrs : Nat} {r : FixRequest}
    (returned : requestFix s projectID ticketID generation requestedBy guidance maxOpenFixPrs
      attemptID jobID now = .ok (s', r)) :
    (s' = s ∧ ∀ attemptID jobID, r ≠ .created attemptID jobID) ∨
      (r = .created attemptID jobID ∧ ∃ g t attempts,
        s.getIncident projectID g.id = some (g, t) ∧ g.ticketID = ticketID ∧
        g.publicationGeneration = generation ∧ SharedChecks s g t now ∧
        WorkerReads g (latestDecision s.decisions g.id [.codeFix]) ∧
        ¬OutstandingAttempt s ticketID generation ∧ ¬OutstandingJob s projectID g.id ∧
        (requestedBy = .auto → s.frictionAutonomy projectID = .autoFix ∧
          countAttempts s projectID (fun a => a.status = .prOpen) < maxOpenFixPrs) ∧
        s.attempts.insert? (FixAttempt.new attemptID ticketID g.id generation requestedBy now) =
          some attempts ∧
        s' = { s with
          attempts
          jobs := s.jobs.insertIgnore (fixJob (latestDecision s.decisions g.id [.codeFix]) projectID
            ticketID g.id generation requestedBy guidance attemptID jobID now) }.updateIncident g.id
              Incident.startFix fun _ => ⟨rfl, rfl, rfl⟩) := by
  have unchanged : ∀ r', (∀ attemptID jobID, r' ≠ .created attemptID jobID) →
      (Except.ok (s, r') : Except String (TicketStore × FixRequest)) = .ok (s', r) →
      s' = s ∧ ∀ attemptID jobID, r ≠ .created attemptID jobID := by
    intro r' other same
    cases same
    exact ⟨rfl, other⟩
  unfold requestFix at returned
  split at returned
  · exact Or.inl (unchanged _ (by simp) returned)
  · rename_i t ticket
    obtain ⟨row, project⟩ := TicketStore.getTicket_eq_some_iff.mp ticket
    rcases ite_eq_iff.mp returned with ⟨-, returned⟩ | ⟨lifecycle, returned⟩
    · exact Or.inl (unchanged _ (by simp) returned)
    rcases ite_eq_iff.mp returned with ⟨-, returned⟩ | ⟨defect, returned⟩
    · exact Or.inl (unchanged _ (by simp) returned)
    split at returned
    · exact Or.inl (unchanged _ (by simp) returned)
    rename_i g first
    have member := List.mem_of_find?_eq_some first
    have own := List.find?_some first
    simp only [decide_eq_true_eq] at own
    dsimp only at returned
    rcases ite_eq_iff.mp returned with ⟨-, returned⟩ | ⟨unresolved, returned⟩
    · exact Or.inl (unchanged _ (by simp) returned)
    rcases ite_eq_iff.mp returned with ⟨-, returned⟩ | ⟨noAttempt, returned⟩
    · exact Or.inl (unchanged _ (by simp) returned)
    rcases ite_eq_iff.mp returned with ⟨-, returned⟩ | ⟨noJob, returned⟩
    · exact Or.inl (unchanged _ (by simp) returned)
    rcases ite_eq_iff.mp returned with ⟨-, returned⟩ | ⟨ready, returned⟩
    · exact Or.inl (unchanged _ (by simp) returned)
    rcases ite_eq_iff.mp returned with ⟨-, returned⟩ | ⟨enabled, returned⟩
    · exact Or.inl (unchanged _ (by simp) returned)
    rcases ite_eq_iff.mp returned with ⟨-, returned⟩ | ⟨capped, returned⟩
    · exact Or.inl (unchanged _ (by simp) returned)
    obtain ⟨attempts, attempt, same⟩ := Except.of_bind returned
    rw [Option.orError_eq_ok_iff] at attempt
    cases same
    simp only [not_or, not_not, not_lt] at lifecycle defect ready
    refine Or.inr ⟨rfl, g, t, attempts, ?_, own.1, own.2.1, ⟨lifecycle.1, ?_, defect, own.2.2,
      unresolved, ready.1, ready.2.2.2⟩, ⟨ready.2.1, ready.2.2.1⟩, noAttempt, noJob, ?_, attempt, ?_⟩
    · exact TicketStore.getIncident_eq_some_iff.mpr
        ⟨s.incidents.table.find?_key member, own.1.symm ▸ row, project⟩
    · exact lifecycle.2.trans own.2.1.symm
    · rintro rfl
      simpa using And.intro enabled capped
    · rw [Jobs.enqueueJobTx_fix rfl rfl rfl]

theorem exists_requestFix (found : s.getIncident projectID g.id = some (g, t))
    (noAttempt : ¬OutstandingAttempt s g.ticketID g.publicationGeneration)
    (noJob : ¬OutstandingJob s projectID g.id) (freshAttempt : s.attempts.find? attemptID = none)
    (checks : SharedChecks s g t now)
    (reads : WorkerReads g (latestDecision s.decisions g.id [.codeFix])) (guidance : Option String)
    (maxOpenFixPrs : Nat) (jobID : UUID) :
    ∃ s', requestFix s projectID g.ticketID g.publicationGeneration .human guidance maxOpenFixPrs
      attemptID jobID now = .ok (s', .created attemptID jobID) := by
  obtain ⟨row, ticket, project⟩ := TicketStore.getIncident_eq_some_iff.mp found
  obtain ⟨published, generation, defect, live, unresolved, done, covered⟩ := checks
  have inProject : s.getTicket projectID g.ticketID = some t :=
    TicketStore.getTicket_eq_some_iff.mpr ⟨ticket, project⟩
  have first : (s.incidents.table.rows.find? fun h => h.ticketID = g.ticketID ∧
      h.publicationGeneration = g.publicationGeneration ∧ h.status ≠ .archived) = some g := by
    cases other : s.incidents.table.rows.find? fun h => h.ticketID = g.ticketID ∧
        h.publicationGeneration = g.publicationGeneration ∧ h.status ≠ .archived with
    | none => simpa [live] using List.find?_eq_none.mp other g (Table.mem_of_find? row)
    | some h =>
      have own := List.find?_some other
      simp only [decide_eq_true_eq] at own
      rw [s.incidents.single h (List.mem_of_find?_eq_some other) g (Table.mem_of_find? row) own.1
        own.2.1]
  obtain ⟨attempts, attempt⟩ := s.attempts.exists_insert? freshAttempt
    (r := FixAttempt.new attemptID g.ticketID g.id g.publicationGeneration .human now)
  unfold requestFix
  simp only [inProject, first]
  rw [if_neg (by simp [published, generation]), if_neg (by simp [defect]), if_neg unresolved,
    if_neg noAttempt, if_neg noJob, if_neg, if_neg (by simp), if_neg (by simp), attempt]
  · exact ⟨_, rfl⟩
  · simp only [not_or, not_not, not_lt]
    exact ⟨done, reads.1, reads.2, covered⟩

/-- Both sides admit the request or neither does, and what they queue carries the same
diagnosis. -/
structure FixesAgree (s : TicketStore) (projectID : UUID) (g : Incident) (guidance : String)
    (maxOpenFixPrs : Nat) (attemptID jobID : UUID) (now clock : Timestamp) : Prop where
  admitted :
    (∃ s', requestTicketFix s projectID g.id guidance none attemptID jobID now clock = .ok s') ↔
      ∃ s', requestFix s projectID g.ticketID g.publicationGeneration .human (nilIfEmpty guidance)
        maxOpenFixPrs attemptID jobID now = .ok (s', .created attemptID jobID)
  diagnosis : ∀ s' s'',
    requestTicketFix s projectID g.id guidance none attemptID jobID now clock = .ok s' →
    requestFix s projectID g.ticketID g.publicationGeneration .human (nilIfEmpty guidance)
      maxOpenFixPrs attemptID jobID now = .ok (s'', .created attemptID jobID) →
    payloadOf s' jobID = payloadOf s'' jobID

/-- The two readings of the decision history coincide for a ticket that passes the shared
checks. A newest decision to fix is read by both, so only its texts matter; a newer "not
actionable" one is read by the API alone. -/
def ReadingsCoincide (s : TicketStore) (g : Incident) : Prop :=
  let newest := latestDecision s.decisions g.id [.codeFix, .notActionable]
  let newestFix := latestDecision s.decisions g.id [.codeFix]
  if newest.any (fun d => d.outcome = .notActionable) then
    (APIReads g newest ↔ WorkerReads g newestFix) ∧
      (APIReads g newest → diagnosisPayload newest = diagnosisPayload newestFix)
  else APIReads g newest → WorkerReads g newest

def Aligned (s : TicketStore) (projectID : UUID) (g : Incident) (now : Timestamp) : Prop :=
  ∀ t, s.getIncident projectID g.id = some (g, t) → SharedChecks s g t now → ReadingsCoincide s g

theorem select_codeFix (decisions : Table DiagnosisDecision.id) (groupID : UUID) :
    (decisions.select fun d => d.errorGroupID = groupID ∧ d.outcome ∈ [.codeFix]) =
      (decisions.select fun d => d.errorGroupID = groupID ∧
        d.outcome ∈ [.codeFix, .notActionable]).filter fun d => d.outcome = .codeFix := by
  rw [Table.select, Table.select, List.filter_filter]
  refine List.filter_congr fun d _ => ?_
  cases d.outcome <;> simp

theorem DiagnosisDecision.order_inj {decisions : Table DiagnosisDecision.id}
    {c d : DiagnosisDecision} (memC : c ∈ decisions.rows) (memD : d ∈ decisions.rows)
    (same : c.order = d.order) : c = d := by
  have ids : c.id = d.id := congrArg (fun k => (ofLex k).2) same
  exact decisions.inj memC memD ids

theorem latestDecision_codeFix (decisions : Table DiagnosisDecision.id) (groupID : UUID)
    (fix : ¬(latestDecision decisions groupID [.codeFix, .notActionable]).any
      fun d => d.outcome = .notActionable) :
    latestDecision decisions groupID [.codeFix] =
      latestDecision decisions groupID [.codeFix, .notActionable] := by
  unfold latestDecision at fix ⊢
  rw [select_codeFix]
  cases newest : latest DiagnosisDecision.order (decisions.select fun d =>
      d.errorGroupID = groupID ∧ d.outcome ∈ [.codeFix, .notActionable]) with
  | none =>
    have empty : (decisions.select fun d =>
        d.errorGroupID = groupID ∧ d.outcome ∈ [.codeFix, .notActionable]) = [] := by
      rw [List.eq_nil_iff_forall_not_mem]
      intro d member
      obtain ⟨last, found⟩ := Latest.exists_latest DiagnosisDecision.order member
      rw [newest] at found
      cases found
    rw [empty, List.filter_nil, Latest.latest_nil]
  | some d =>
    rw [newest] at fix
    obtain ⟨member, -⟩ := latest_spec newest
    have outcome : d.outcome = .codeFix := by
      have admitted := ((decisions.mem_select _ d).mp member).2
      simp only [List.mem_cons, List.not_mem_nil, or_false, decide_eq_true_eq] at admitted
      exact admitted.2.resolve_right (by simpa using fix)
    refine latest_filter newest (fun c other same => ?_) (by simpa using outcome)
    exact DiagnosisDecision.order_inj (List.mem_of_mem_filter other) (List.mem_of_mem_filter member)
      same

section Agreement

variable {s : TicketStore} {projectID : UUID} {g : Incident} {attemptID jobID : UUID}

theorem requestTicketFix_payload {s' : TicketStore} {guidance : String}
    (admitted : requestTicketFix s projectID groupID guidance none attemptID jobID now clock =
      .ok s') :
    payloadOf s' jobID =
      some (diagnosisPayload (latestDecision s.decisions groupID [.codeFix, .notActionable])) := by
  obtain ⟨h, t, attempts, jobs, found, -, -, -, -, -, job, rfl⟩ := requestTicketFix_effect admitted
  have id : h.id = groupID := Table.key_of_find? (TicketStore.getIncident_eq_some_iff.mp found).1
  have queued : jobs.find? jobID = some _ := (Table.find?_insert? job jobID).trans (if_pos rfl)
  simp only [payloadOf, TicketStore.updateIncident, queued, Option.bind_some]
  rw [← id]
  rfl

theorem requestFix_payload {s' : TicketStore} (known : s.incidents.table.find? g.id = some g)
    (freshJob : s.jobs.find? jobID = none) {maxOpenFixPrs : Nat}
    (created : requestFix s projectID g.ticketID g.publicationGeneration .human guidance
      maxOpenFixPrs attemptID jobID now = .ok (s', .created attemptID jobID)) :
    payloadOf s' jobID = some (diagnosisPayload (latestDecision s.decisions g.id [.codeFix])) := by
  rcases requestFix_cases created with ⟨-, other⟩ | ⟨-, h, t, attempts, found, ticket, generation, -,
    -, -, -, -, -, rfl⟩
  · exact absurd rfl (other attemptID jobID)
  · have row := (TicketStore.getIncident_eq_some_iff.mp found).1
    obtain rfl : h = g := s.incidents.single h (Table.mem_of_find? row) g (Table.mem_of_find? known)
      ticket generation
    simp only [payloadOf, TicketStore.updateIncident, Table.find?_insertIgnore, freshJob]
    rw [Option.none_or, if_pos (by rfl)]
    rfl

variable (known : s.incidents.table.find? g.id = some g)
  (noAttempt : ¬OutstandingAttempt s g.ticketID g.publicationGeneration)
  (noJob : ¬OutstandingJob s projectID g.id) (freshAttempt : s.attempts.find? attemptID = none)

include known noAttempt noJob freshAttempt

theorem requestTicketFix_iff (freshJob : s.jobs.find? jobID = none) (guidance : String)
    (now clock : Timestamp) :
    (∃ s', requestTicketFix s projectID g.id guidance none attemptID jobID now clock = .ok s') ↔
      ∃ t, s.getIncident projectID g.id = some (g, t) ∧ SharedChecks s g t now ∧
        APIReads g (latestDecision s.decisions g.id [.codeFix, .notActionable]) := by
  constructor
  · rintro ⟨s', admitted⟩
    obtain ⟨h, t, -, -, found, checks, reads, -⟩ := requestTicketFix_effect admitted
    have row := (TicketStore.getIncident_eq_some_iff.mp found).1
    rw [known, Option.some.injEq] at row
    subst row
    exact ⟨t, found, checks, reads⟩
  · rintro ⟨t, found, checks, reads⟩
    have id : t.id = g.ticketID :=
      Table.key_of_find? (TicketStore.getIncident_eq_some_iff.mp found).2.1
    exact exists_requestTicketFix found (id ▸ noAttempt) noJob freshAttempt freshJob checks reads
      guidance clock

theorem requestFix_iff (jobID : UUID) (guidance : Option String) (maxOpenFixPrs : Nat)
    (now : Timestamp) :
    (∃ s', requestFix s projectID g.ticketID g.publicationGeneration .human guidance maxOpenFixPrs
      attemptID jobID now = .ok (s', .created attemptID jobID)) ↔
      ∃ t, s.getIncident projectID g.id = some (g, t) ∧ SharedChecks s g t now ∧
        WorkerReads g (latestDecision s.decisions g.id [.codeFix]) := by
  constructor
  · rintro ⟨s', created⟩
    rcases requestFix_cases created with ⟨-, other⟩ | ⟨-, h, t, -, found, ticket, generation, checks,
      reads, -⟩
    · exact absurd rfl (other attemptID jobID)
    · have row := (TicketStore.getIncident_eq_some_iff.mp found).1
      obtain rfl : h = g := s.incidents.single h (Table.mem_of_find? row) g
        (Table.mem_of_find? known) ticket generation
      exact ⟨t, found, checks, reads⟩
  · rintro ⟨t, found, checks, reads⟩
    exact exists_requestFix found noAttempt noJob freshAttempt checks reads guidance maxOpenFixPrs
      jobID

/-- The two admissions agree on a request exactly when their readings of the decision
history coincide. -/
theorem fixes_agree (freshJob : s.jobs.find? jobID = none) (guidance : String)
    (maxOpenFixPrs : Nat) (now clock : Timestamp) :
    FixesAgree s projectID g guidance maxOpenFixPrs attemptID jobID now clock ↔
      Aligned s projectID g now := by
  have api := requestTicketFix_iff known noAttempt noJob freshAttempt freshJob guidance now clock
  have worker := requestFix_iff known noAttempt noJob freshAttempt jobID (nilIfEmpty guidance)
    maxOpenFixPrs now
  constructor
  · rintro ⟨admitted, diagnosis⟩ t found checks
    have same : APIReads g (latestDecision s.decisions g.id [.codeFix, .notActionable]) ↔
        WorkerReads g (latestDecision s.decisions g.id [.codeFix]) := by
      constructor
      · intro reads
        obtain ⟨t', found', -, reads'⟩ := worker.mp (admitted.mp (api.mpr ⟨t, found, checks, reads⟩))
        exact reads'
      · intro reads
        obtain ⟨t', found', -, reads'⟩ := api.mp (admitted.mpr (worker.mpr ⟨t, found, checks, reads⟩))
        exact reads'
    unfold ReadingsCoincide
    dsimp only
    split
    · refine ⟨same, fun reads => ?_⟩
      obtain ⟨s', go⟩ := api.mpr ⟨t, found, checks, reads⟩
      obtain ⟨s'', ts⟩ := admitted.mp ⟨s', go⟩
      have payloads := diagnosis s' s'' go ts
      rw [requestTicketFix_payload go, requestFix_payload known freshJob ts] at payloads
      exact Option.some.inj payloads
    · rename_i fix
      rw [latestDecision_codeFix s.decisions g.id fix] at same
      exact same.mp
  · intro aligned
    have same : ∀ t, s.getIncident projectID g.id = some (g, t) → SharedChecks s g t now →
        (APIReads g (latestDecision s.decisions g.id [.codeFix, .notActionable]) ↔
          WorkerReads g (latestDecision s.decisions g.id [.codeFix])) ∧
        (APIReads g (latestDecision s.decisions g.id [.codeFix, .notActionable]) →
          diagnosisPayload (latestDecision s.decisions g.id [.codeFix, .notActionable]) =
            diagnosisPayload (latestDecision s.decisions g.id [.codeFix])) := by
      intro t found checks
      have coincide := aligned t found checks
      unfold ReadingsCoincide at coincide
      dsimp only at coincide
      split at coincide
      · exact coincide
      · rename_i fix
        rw [latestDecision_codeFix s.decisions g.id fix]
        exact ⟨⟨coincide, WorkerReads.api⟩, fun _ => rfl⟩
    refine ⟨?_, fun s' s'' go ts => ?_⟩
    · rw [api, worker]
      constructor
      · rintro ⟨t, found, checks, reads⟩
        exact ⟨t, found, checks, (same t found checks).1.mp reads⟩
      · rintro ⟨t, found, checks, reads⟩
        exact ⟨t, found, checks, (same t found checks).1.mpr reads⟩
    · obtain ⟨t, found, checks, reads⟩ := api.mp ⟨s', go⟩
      rw [requestTicketFix_payload go, requestFix_payload known freshJob ts,
        (same t found checks).2 reads]

end Agreement

def explainedIncident : Incident where
  id := 301
  ticketID := 201
  publicationGeneration := 1
  status := .awaitingApproval
  statusBeforeArchive := none
  archivedAt := none
  fixSubstate := .none
  investigationStatus := some .done
  investigationExecution := 1
  evidenceVersionUsed := some 1
  explainedSignalIDs := some ["f1"]
  rootCause := some "the total is read before it is set"
  occurrenceCount := 1
  affectedUsersCount := 0
  platform := none
  terminalFixJobID := none
  prFixJobID := none
  prURL := none
  prNumber := none
  prCreatedAt := none
  mergedAt := none

/-- A published ticket with one recording, confirmed and fully explained, and one decision
on its incident. -/
def explained (outcome : DecisionOutcome) : TicketStore :=
  { TicketStore.empty with
    tickets := ⟨[⟨201, 1, 11, .defect, .published, 1, 1, 1, 1, 1, 0, none, none, false, false,
      none⟩], by decide⟩
    evidence :=
      { sessions := ⟨[⟨"s1", 11, none, 5⟩], by decide⟩
        signals := ⟨[⟨"f1", "s1", 11⟩], by decide⟩
        endUsers := Table.empty
        ticketMatches := ⟨[⟨201, "s1", 11, none, 1, .cheap, 5⟩], by decide⟩
        observations := [⟨201, "s1", "f1"⟩]
        checks := ⟨[⟨201, "s1", 401, .confirmed⟩], by decide⟩
        attempts := ⟨[⟨401, 501, 201, "s1", ["f1"], "", none⟩], by decide⟩
        batches := ⟨[⟨501, 201, .finalized⟩], by decide⟩ }
    scope := ⟨by decide, by decide⟩
    incidents := ⟨⟨[explainedIncident], by decide⟩, by decide⟩
    decisions := ⟨[⟨601, 301, none, outcome,
      some (.object [("agentTaskBrief", .string "set the total first")]), 3⟩], by simp⟩ }

/-- A decision to fix is read alike by both. -/
theorem fixes_agree_codeFix :
    FixesAgree (explained .codeFix) 1 explainedIncident "" 5 701 801 10 10 := by
  refine (fixes_agree (by decide +kernel) (by decide +kernel) (by decide +kernel)
    (by decide +kernel) (by decide +kernel) "" 5 10 10).mpr fun t found checks => ?_
  rw [ReadingsCoincide, if_neg (by decide +kernel)]
  intro reads
  exact ⟨by decide +kernel, by decide +kernel⟩

/-- A decision that nothing can be done in code is a diagnosis to the API and none to the
worker. -/
theorem fixes_disagree :
    ¬FixesAgree (explained .notActionable) 1 explainedIncident "" 5 701 801 10 10 := by
  rintro ⟨admitted, -⟩
  have go : (requestTicketFix (explained .notActionable) 1 301 "" none 701 801 10 10).isOk := by
    decide +kernel
  have ts : (requestFix (explained .notActionable) 1 201 1 .human none 5 701 801 10).map Prod.snd =
      .ok .notReady := by decide +kernel
  cases result : requestTicketFix (explained .notActionable) 1 301 "" none 701 801 10 10 with
  | error e =>
    rw [result] at go
    cases go
  | ok s' =>
    obtain ⟨s'', created⟩ := admitted.mp ⟨s', result⟩
    rw [show requestFix (explained .notActionable) 1 201 1 .human none 5 701 801 10 =
      .ok (s'', .created 701 801) from created] at ts
    cases ts

end Opslane.Tickets
