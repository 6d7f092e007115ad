import Mathlib.Data.List.Sort
import Opslane.Tickets.Publication

/-!
# Matching and folding

A recording is matched to a ticket with the observations that show its problem
(`recordMatch`), under the decision on each observation
(`reserveDecision`, `commitDecision`), and a ticket found to be the duplicate of a published
one is folded into it (`foldInto`). A match aimed at a folded ticket goes to the end of its
chain (`resolveMatchTicket`). All of `packages/worker/src/friction/tickets-db.ts`;
`matchObservation` is the body of the loop of `match-job.ts`, whose transaction is a
sequence of them.
-/

namespace Opslane.Tickets

open Jobs (Job)

structure MatchInput where
  ticket : FrictionTicket
  sessionID : String
  source : MatchSource
  occurredAt : Timestamp
  signalIDs : List String

/-- The recording, its user and every signal are in the ticket's scope. -/
def MatchInput.InScope (e : Evidence) (t : FrictionTicket) (input : MatchInput) : Prop :=
  ((e.sessions.find? input.sessionID).any fun recording =>
    recording.environmentID = t.environmentID ∧
      recording.endUserID.all fun user =>
        (e.endUsers.find? user).any fun u => u.projectID = t.projectID) ∧
  ∀ id ∈ input.signalIDs, (e.signals.find? id).any fun f =>
    f.sessionID = input.sessionID ∧ f.environmentID = t.environmentID
  deriving Decidable

/-- The row a match would add. -/
def MatchInput.row (e : Evidence) (t : FrictionTicket) (input : MatchInput) : TicketMatch where
  ticketID := t.id
  sessionID := input.sessionID
  environmentID := t.environmentID
  endUserID := (e.sessions.find? input.sessionID).bind Session.endUserID
  arrivalNumber := t.nextArrivalNumber + 1
  source := input.source
  occurredAt := input.occurredAt

/-- The observations a match would add. -/
def MatchInput.observations (t : FrictionTicket) (input : MatchInput) : List MatchObservation :=
  input.signalIDs.map fun id => ⟨t.id, input.sessionID, id⟩

def Evidence.addMatch (e : Evidence) (t : FrictionTicket) (input : MatchInput) : Evidence :=
  { e with
    ticketMatches := e.ticketMatches.insertIgnore (input.row e t)
    observations := e.observations ++
      ((input.observations t).filter (· ∉ e.observations)).dedup }

variable {e : Evidence}

theorem Evidence.addMatch_observations {t : FrictionTicket} {input : MatchInput}
    {o : MatchObservation} :
    o ∈ (e.addMatch t input).observations ↔ o ∈ e.observations ∨ o ∈ input.observations t := by
  simp only [Evidence.addMatch, List.mem_append, List.mem_dedup, List.mem_filter, decide_eq_true_eq]
  tauto

theorem Evidence.addMatch_find? (e : Evidence) (t : FrictionTicket) (input : MatchInput) :
    ∃ m ∈ (e.addMatch t input).ticketMatches.rows, m.key = (t.id, input.sessionID) := by
  cases found : e.ticketMatches.find? (t.id, input.sessionID) with
  | some m =>
    exact ⟨m, Table.mem_insertIgnore_of_mem _ (Table.mem_of_find? found), Table.key_of_find? found⟩
  | none =>
    refine ⟨input.row e t, Table.mem_of_find? (k := (t.id, input.sessionID)) ?_, rfl⟩
    rw [Evidence.addMatch, Table.find?_insertIgnore, found, if_pos (by rfl)]
    rfl

theorem Evidence.Scoped.addMatch {tickets : Table FrictionTicket.id} (scope : e.Scoped tickets)
    {t : FrictionTicket} (known : t ∈ tickets.rows) {input : MatchInput}
    (valid : input.InScope e t) : (e.addMatch t input).Scoped tickets where
  matched := by
    intro m member
    rcases Table.mem_insertIgnore member with old | rfl
    · exact scope.matched m old
    · exact ⟨t, known, rfl, rfl⟩
  observed := by
    intro o member
    rcases Evidence.addMatch_observations.mp member with old | new
    · obtain ⟨m, present, own, signal⟩ := scope.observed o old
      exact ⟨m, Table.mem_insertIgnore_of_mem _ present, own, signal⟩
    · obtain ⟨id, named, rfl⟩ := List.mem_map.mp new
      obtain ⟨m, present, own⟩ := e.addMatch_find? t input
      obtain ⟨f, found, signal⟩ := (Option.any_eq_true ..).mp (valid.2 id named)
      simp only [decide_eq_true_eq] at signal
      have environment : m.environmentID = t.environmentID := by
        rcases Table.mem_insertIgnore present with old | rfl
        · exact scope.environment old known (congrArg Prod.fst own).symm
        · rfl
      exact ⟨m, present, own, f, Table.mem_of_find? found, Table.key_of_find? found,
        signal.1.trans (congrArg Prod.snd own).symm, signal.2.trans environment.symm⟩

variable {ticket t : FrictionTicket}

variable {s : TicketStore}

theorem mem_of_lockTicket (locked : lockTicket s ticket = .ok t) :
    t ∈ s.tickets.rows := by
  rw [lockTicket, Option.orError_eq_ok_iff, Option.filter_eq_some_iff] at locked
  exact Table.mem_of_find? locked.1

theorem id_of_lockTicket (locked : lockTicket s ticket = .ok t) :
    t.id = ticket.id := by
  rw [lockTicket, Option.orError_eq_ok_iff, Option.filter_eq_some_iff] at locked
  exact Table.key_of_find? locked.1

theorem find?_of_lockTicket (locked : lockTicket s ticket = .ok t) :
    s.tickets.find? t.id = some t ∧ t.projectID = ticket.projectID ∧
      t.environmentID = ticket.environmentID := by
  rw [lockTicket, Option.orError_eq_ok_iff, Option.filter_eq_some_iff] at locked
  obtain ⟨found, place⟩ := locked
  rw [Table.key_of_find? found]
  exact ⟨found, of_decide_eq_true place⟩

def FrictionTicket.count (newRecordings : Nat) (t : FrictionTicket) : FrictionTicket :=
  { t with
    matchedCount := t.matchedCount + newRecordings
    nextArrivalNumber := t.nextArrivalNumber + newRecordings }

/-- Puts a recording on a ticket once, and says whether it is new there. -/
def recordMatch (s : TicketStore) (input : MatchInput) : Except String (TicketStore × Bool) :=
  match locked : lockTicket s input.ticket with
  | .error e => .error e
  | .ok t =>
    if t.status = .merged ∨ t.status = .archived then .error "Cannot match a terminal ticket"
    else if valid : input.InScope s.evidence t then
      let newRecording := (s.evidence.ticketMatches.find? (t.id, input.sessionID)).isNone
      .ok ({ s with
        evidence := s.evidence.addMatch t input
        scope := s.scope.addMatch (mem_of_lockTicket locked) valid }.updateTicket t.id
          (FrictionTicket.count (if newRecording then 1 else 0)) fun _ => ⟨rfl, rfl, rfl⟩,
        newRecording)
    else .error "Match evidence outside ticket scope"

def foldChainError : String := "Invalid match target fold chain"

def missingTarget : String := "Match target missing, archived, or outside scope; retry lookup"

/-- The loop of `resolveMatchTicket`; it sees no ticket twice, so `fuel` bounds its turns by
the number of tickets. -/
def resolveFrom (s : TicketStore) (environmentID : UUID) : Nat → List UUID → UUID →
    Except String FrictionTicket
  | 0, _, _ => .error foldChainError
  | fuel + 1, seen, id =>
    if id ∈ seen then .error foldChainError
    else
      match (s.tickets.find? id).filter fun t => t.environmentID = environmentID with
      | none => .error missingTarget
      | some t =>
        if t.status = .archived then .error missingTarget
        else if t.status ≠ .merged then .ok t
        else
          match t.mergedInto with
          | none => .error foldChainError
          | some next => resolveFrom s environmentID fuel (id :: seen) next

/-- The ticket a match aimed at `id` belongs to. -/
def resolveMatchTicket (s : TicketStore) (environmentID id : UUID) : Except String FrictionTicket :=
  resolveFrom s environmentID (s.tickets.rows.length + 1) [] id

/-- A new decision, reserved. -/
def ObservationDecision.reserve (signalID sessionID : String) (environmentID : UUID)
    (now : Timestamp) : ObservationDecision :=
  ⟨signalID, environmentID, sessionID, .reserved, none, .cheap, now⟩

def ObservationDecision.renew (now : Timestamp) (d : ObservationDecision) : ObservationDecision :=
  { d with decidedAt := now }

/-- Reserves the decision on an observation: a new one, or one whose owner went silent for
`leaseMs` milliseconds. -/
def reserveDecision (s : TicketStore) (signalID : String) (environmentID : UUID) (leaseMs : Int)
    (now : Timestamp) : TicketStore × Bool :=
  match (s.evidence.signals.find? signalID).filter (fun f => f.environmentID = environmentID ∧
      (s.evidence.sessions.find? f.sessionID).any fun r => r.environmentID = environmentID) with
  | none => (s, false)
  | some f =>
    match s.observationDecisions.find? signalID with
    | none =>
      ({ s with
        observationDecisions := s.observationDecisions.insertIgnore
          (ObservationDecision.reserve signalID f.sessionID environmentID now) }, true)
    | some d =>
      if d.decision = .reserved ∧ d.decidedAt < now - Jobs.millis leaseMs then
        ({ s with
          observationDecisions := s.observationDecisions.updateKey signalID
            (ObservationDecision.renew now) fun _ => rfl }, true)
      else (s, false)

def ObservationDecision.commit (decision : ObservationOutcome) (ticketID : Option UUID)
    (decidedBy : DecidedBy) (now : Timestamp) (d : ObservationDecision) : ObservationDecision :=
  { d with decision, ticketID, decidedBy, decidedAt := now }

/-- The reserved decision on the observation, for a ticket of its environment. -/
def Commits (s : TicketStore) (signalID : String) (decision : ObservationOutcome)
    (ticketID : Option UUID) (d : ObservationDecision) : Bool :=
  d.signalID = signalID ∧ d.decision = .reserved ∧
    (decision = .notAProblem ∨ (ticketID.bind s.tickets.find?).any fun t =>
      t.environmentID = d.environmentID)

/-- Commits a reserved decision. -/
def commitDecision (s : TicketStore) (signalID : String) (decision : ObservationOutcome)
    (ticketID : Option UUID) (decidedBy : DecidedBy) (now : Timestamp) : TicketStore × Bool :=
  ({ s with
    observationDecisions := s.observationDecisions.updateWhere (Commits s signalID decision ticketID)
      (ObservationDecision.commit decision ticketID decidedBy now) fun _ => rfl },
    s.observationDecisions.any (Commits s signalID decision ticketID))

/-- A new ticket. -/
def FrictionTicket.new (id projectID environmentID : UUID) (kind : TicketKind) : FrictionTicket where
  id
  projectID
  environmentID
  kind
  status := .tracking
  matchedCount := 0
  nextArrivalNumber := 0
  arrivalBoundary := 0
  evidenceVersion := 0
  liveGeneration := 0
  foldRetries := 0
  fixedAt := none
  cohortCutoff := none
  reconcileNeeded := false
  reinvestigateNeeded := false
  mergedInto := none

theorem Evidence.Scoped.grow {tickets tickets' : Table FrictionTicket.id} (scope : e.Scoped tickets)
    (more : ∀ t ∈ tickets.rows, t ∈ tickets'.rows) : e.Scoped tickets' where
  matched := by
    intro m member
    obtain ⟨t, known, own⟩ := scope.matched m member
    exact ⟨t, more t known, own⟩
  observed := scope.observed

/-- A new ticket under a fresh uuid. -/
def createTicket (s : TicketStore) (t : FrictionTicket) : Except String TicketStore :=
  match inserted : s.tickets.insert? t with
  | none => .error duplicateKey
  | some tickets =>
    .ok { s with
      tickets
      scope := s.scope.grow fun _ known => (Table.mem_insert? inserted).mpr (Or.inr known) }

/-- What the models said of an observation: it shows the problem of a known ticket, of a
new one, or none. Only the cheap model's own match is recorded as cheap. -/
inductive MatchDecision where
  | known (ticketID : UUID) (decidedBy : DecidedBy)
  | create (ticketID : UUID) (kind : TicketKind)
  | notAProblem

/-- The ticket of a decision, and what the ledger calls it. -/
def decisionTicket (s : TicketStore) (projectID environmentID : UUID) :
    MatchDecision → Except String (TicketStore × Option (FrictionTicket × DecidedBy) × ObservationOutcome)
  | .create ticketID kind => do
    let t := FrictionTicket.new ticketID projectID environmentID kind
    let s ← createTicket s t
    .ok (s, some (t, .strong), .created)
  | .known ticketID decidedBy => do
    let t ← resolveMatchTicket s environmentID ticketID
    .ok (s, some (t, decidedBy), .matched)
  | .notAProblem => .ok (s, none, .notAProblem)

/-- The ticket of a reserved observation, and the decision on it. -/
def decideObservation (s : TicketStore) (projectID environmentID : UUID) (signalID : String)
    (decision : MatchDecision) (now : Timestamp) :
    Except String (TicketStore × Option (FrictionTicket × DecidedBy)) := do
  let (s, ticket, outcome) ← decisionTicket s projectID environmentID decision
  let (s, committed) := commitDecision s signalID outcome (ticket.map fun t => t.1.id)
    ((ticket.map Prod.snd).getD .strong) now
  if committed then .ok (s, ticket)
  else .error "Observation decision could not be committed"

/-- The ticket an earlier decision on the observation is for, at the end of its chain now. -/
def decidedTicket (s : TicketStore) (environmentID : UUID) (signalID : String) :
    Except String (Option (FrictionTicket × DecidedBy)) :=
  match (s.observationDecisions.find? signalID).filter fun d => d.environmentID = environmentID with
  | none => .error "Observation decision is reserved; retry after its owner completes"
  | some d =>
    if d.decision = .reserved then
      .error "Observation decision is reserved; retry after its owner completes"
    else
      match d.ticketID with
      | none => .ok none
      | some ticketID => do
        let t ← resolveMatchTicket s environmentID ticketID
        .ok (some (t, if d.decidedBy = .cheap then .cheap else .strong))

def DecidedBy.source : DecidedBy → MatchSource
  | .cheap => .cheap
  | .strong | .fold => .strong

/-- The ticket of an observation: decided now where the decision could be reserved, else the
one an earlier decision names. -/
def observationTicket (s : TicketStore) (projectID environmentID : UUID) (signalID : String)
    (decision : MatchDecision) (leaseMs : Int) (now : Timestamp) :
    Except String (TicketStore × Option (FrictionTicket × DecidedBy)) :=
  match reserveDecision s signalID environmentID leaseMs now with
  | (s, true) => decideObservation s projectID environmentID signalID decision now
  | (s, false) => (decidedTicket s environmentID signalID).map fun ticket => (s, ticket)

/-- One observation of a recording: decided, and the recording matched to its ticket. -/
def matchObservation (s : TicketStore) (projectID environmentID : UUID) (sessionID signalID : String)
    (startedAt : Timestamp) (backfill : Bool) (decision : MatchDecision) (leaseMs : Int)
    (now : Timestamp) : Except String TicketStore := do
  let (s, ticket) ← observationTicket s projectID environmentID signalID decision leaseMs now
  match ticket with
  | none => .ok s
  | some (t, decidedBy) => do
    let source := if backfill then MatchSource.backfill else decidedBy.source
    let (s, _) ← recordMatch s ⟨t, sessionID, source, startedAt, [signalID]⟩
    .ok s

/-- The match of a folded recording. -/
def foldMatch (e : Evidence) (target : FrictionTicket) (m : TicketMatch) : MatchInput where
  ticket := target
  sessionID := m.sessionID
  source := .fold
  occurredAt := m.occurredAt
  signalIDs := (e.observations.filter fun o => o.ticketID = m.ticketID ∧
    o.sessionID = m.sessionID).map MatchObservation.signalID

/-- `ORDER BY arrival_number`. -/
def recordings (e : Evidence) (ticketID : UUID) : List TicketMatch :=
  (e.ticketMatches.select fun m => m.ticketID = ticketID).insertionSort fun m m' =>
    m.arrivalNumber ≤ m'.arrivalNumber

/-- Matches every recording of a list to the target. -/
def foldMatches (target : FrictionTicket) (source : Evidence) : TicketStore → List TicketMatch →
    Except String TicketStore
  | s, [] => .ok s
  | s, m :: rest => do
    let (s, _) ← recordMatch s (foldMatch source target m)
    foldMatches target source s rest

def FrictionTicket.absorb (t : FrictionTicket) : FrictionTicket :=
  { t with evidenceVersion := t.evidenceVersion + 1, reconcileNeeded := true }

def FrictionTicket.mergeInto (target : UUID) (t : FrictionTicket) : FrictionTicket :=
  { t with status := .merged, mergedInto := some target }

def ObservationDecision.fold (target : UUID) (now : Timestamp) (d : ObservationDecision) :
    ObservationDecision :=
  { d with ticketID := some target, decidedBy := .fold, decidedAt := now }

def cancelMerged (j : Job) : Job := { j with status := .failed, lastError := some "ticket merged" }

/-- The confirmation the target may now need. -/
def confirmJob (t : FrictionTicket) (jobID : UUID) (now : Timestamp) : Job :=
  Job.new jobID t.projectID .frictionConfirm { ticketID := some t.id } now now

def confirmNeeded (t : FrictionTicket) : Bool :=
  if t.arrivalBoundary = 0 then 3 ≤ t.matchedCount
  else 10 ≤ (t.nextArrivalNumber : Int) - t.arrivalBoundary

/-- Folds a ticket into a published one of its environment. -/
def foldInto (s : TicketStore) (source target : FrictionTicket) (jobID : UUID) (now : Timestamp) :
    Except String TicketStore := do
  if source.id = target.id ∨ source.projectID ≠ target.projectID ∨
      source.environmentID ≠ target.environmentID then .error "Invalid fold scope"
  else do
    let f ← lockTicket s source
    let t ← lockTicket s target
    if (f.status ≠ .tracking ∧ f.status ≠ .unpublished) ∨ t.status ≠ .published then
      .error "Invalid fold lifecycle"
    else if ¬s.incidents.table.any (fun g => g.ticketID = t.id ∧ g.status ≠ .archived ∧
        g.fixSubstate ≠ .resolved) then .error "Cannot fold into a resolved ticket"
    else do
      let s ← foldMatches t s.evidence s (recordings s.evidence f.id)
      let s := s.updateTicket t.id FrictionTicket.absorb fun _ => ⟨rfl, rfl, rfl⟩
      let s := { s with
        observationDecisions := s.observationDecisions.updateWhere (fun d => d.ticketID = some f.id)
          (ObservationDecision.fold t.id now) fun _ => rfl }
      let s := s.updateTicket f.id (FrictionTicket.mergeInto t.id) fun _ => ⟨rfl, rfl, rfl⟩
      let s := { s with
        jobs := s.jobs.updateWhere (fun j => j.ticketID = some f.id ∧ j.jobType = .frictionConfirm ∧
          j.status = .pending) cancelMerged fun _ => rfl }
      let updated ← lockTicket s t
      .ok (if confirmNeeded updated then
        { s with jobs := Jobs.enqueueJobTx s.jobs (confirmJob updated jobID now) }
      else s)

end Opslane.Tickets
