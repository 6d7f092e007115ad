import Mathlib.Data.Prod.Lex
import Opslane.Jobs.Indexes
import Opslane.Lib.Latest
import Opslane.Tickets.Evidence

/-!
# The ticket store

The tables a friction ticket's life is kept in: the ticket and its evidence, one issue for
each publication of it (an incident), the diagnoses of an incident, the attempts to fix
it, the pull-request events of the attempts, the decision on each observation, and the
queue.

Every operation on a ticket holds the publication lock of the ticket's environment and,
where it touches attempts, the row lock of the project. Each is one transaction here, a
function of the store, with the uuids it draws and the clocks it reads as arguments.
-/

namespace Opslane.Tickets

open Jobs (JobTable RequestedBy)

inductive DecisionOutcome where
  | codeFix | notActionable | needsMoreContext | incomplete | verifiedFix | needsHuman
  | unableToEstablishCause
  deriving DecidableEq

/-- A row of `diagnosis_decisions`, the append-only record of what was concluded. -/
structure DiagnosisDecision where
  id : UUID
  errorGroupID : UUID
  jobID : Option UUID
  outcome : DecisionOutcome
  diagnosis : Option Json
  decidedAt : Timestamp
  deriving DecidableEq

/-- `ORDER BY decided_at DESC, id DESC`. -/
def DiagnosisDecision.order (d : DiagnosisDecision) : Timestamp ×ₗ UUID := toLex (d.decidedAt, d.id)

/-- The newest decision of an issue among those of some outcomes. -/
def latestDecision (decisions : Table DiagnosisDecision.id) (groupID : UUID)
    (outcomes : List DecisionOutcome) : Option DiagnosisDecision :=
  Latest.latest DiagnosisDecision.order
    (decisions.select fun d => d.errorGroupID = groupID ∧ d.outcome ∈ outcomes)

inductive FixSubstate where
  | none | fixing | prOpen | resolved
  deriving DecidableEq

inductive InvestigationStatus where
  | pending | done | failed
  deriving DecidableEq

/-- A ticket's row of `error_groups`, one publication of it. Its project and environment
are copied from the ticket, and its substate is never null. -/
structure Incident where
  id : UUID
  ticketID : UUID
  publicationGeneration : Nat
  status : GroupStatus
  statusBeforeArchive : Option GroupStatus
  archivedAt : Option Timestamp
  fixSubstate : FixSubstate
  investigationStatus : Option InvestigationStatus
  investigationExecution : Nat
  evidenceVersionUsed : Option Nat
  explainedSignalIDs : Option (List String)
  rootCause : Option String
  occurrenceCount : Nat
  affectedUsersCount : Nat
  platform : Option String
  terminalFixJobID : Option UUID
  prFixJobID : Option UUID
  prURL : Option String
  prNumber : Option Nat
  prCreatedAt : Option Timestamp
  mergedAt : Option Timestamp
  deriving DecidableEq

/-- An update never moves an incident to another ticket or publication. -/
def Incident.SameKey (g g' : Incident) : Prop :=
  g'.id = g.id ∧ g'.ticketID = g.ticketID ∧ g'.publicationGeneration = g.publicationGeneration

/-- The incidents, with `idx_error_groups_ticket_generation`. -/
structure IncidentTable where
  table : Table Incident.id
  single : ∀ g ∈ table.rows, ∀ h ∈ table.rows, g.ticketID = h.ticketID →
    g.publicationGeneration = h.publicationGeneration → g = h

namespace IncidentTable

def empty : IncidentTable := ⟨Table.empty, by simp [Table.empty]⟩

def updateWhere (incidents : IncidentTable) (p : Incident → Bool) (f : Incident → Incident)
    (frame : ∀ g : Incident, g.SameKey (f g)) : IncidentTable where
  table := incidents.table.updateWhere p f fun g => (frame g).1
  single := by
    intro g memG h memH sameTicket sameGeneration
    obtain ⟨g', memG', rfl⟩ := (Table.mem_updateWhere ..).mp memG
    obtain ⟨h', memH', rfl⟩ := (Table.mem_updateWhere ..).mp memH
    have key : ∀ i : Incident, i.SameKey (if p i then f i else i) := by
      intro i
      split
      · exact frame i
      · exact ⟨rfl, rfl, rfl⟩
    rw [incidents.single g' memG' h' memH'
      ((key g').2.1.symm.trans (sameTicket.trans (key h').2.1))
      ((key g').2.2.symm.trans (sameGeneration.trans (key h').2.2))]

/-- A plain insert, refused when the id or the publication is taken, or by
`idx_error_groups_live_ticket`. -/
def insert? (incidents : IncidentTable) (g : Incident) : Option IncidentTable :=
  if incidents.table.any fun h => h.ticketID = g.ticketID ∧ h.status ≠ .archived ∧
      g.status ≠ .archived then none
  else if free : ∀ h ∈ incidents.table.rows, h.ticketID = g.ticketID →
      h.publicationGeneration ≠ g.publicationGeneration then
    match inserted : incidents.table.insert? g with
    | none => none
    | some table =>
      some
        { table
          single := by
            intro a memA b memB sameTicket sameGeneration
            rcases (Table.mem_insert? inserted).mp memA with rfl | oldA <;>
              rcases (Table.mem_insert? inserted).mp memB with rfl | oldB
            · rfl
            · exact absurd sameGeneration.symm (free b oldB sameTicket.symm)
            · exact absurd sameGeneration (free a oldA sameTicket)
            · exact incidents.single a oldA b oldB sameTicket sameGeneration }
  else none

variable {incidents incidents' : IncidentTable}

theorem insert?_spec {g : Incident} (inserted : incidents.insert? g = some incidents') :
    incidents'.table.rows = g :: incidents.table.rows ∧ incidents.table.find? g.id = none := by
  unfold insert? at inserted
  split at inserted
  · cases inserted
  · split at inserted
    · split at inserted
      · cases inserted
      · rename_i table row
        cases inserted
        exact (Table.insert?_spec row).symm
    · cases inserted

theorem find?_insert? {g : Incident} (inserted : incidents.insert? g = some incidents') (k : UUID) :
    incidents'.table.find? k = if k = g.id then some g else incidents.table.find? k := by
  simp only [Table.find?, (insert?_spec inserted).1, List.find?_cons]
  by_cases same : g.id = k
  · simp [same]
  · simp [same, Ne.symm same]

end IncidentTable

inductive AttemptStatus where
  | active | prOpen | failed | merged | closed | superseded
  deriving DecidableEq

/-- A row of `friction_fix_attempts`. -/
structure FixAttempt where
  id : UUID
  ticketID : UUID
  errorGroupID : UUID
  generation : Nat
  status : AttemptStatus
  requestedBy : RequestedBy
  prURL : Option String
  prNumber : Option Nat
  githubRepo : Option String
  deliveryReservedAt : Option Timestamp
  createdAt : Timestamp
  deriving DecidableEq

/-- The attempt is active or has its pull request open. -/
def FixAttempt.Outstanding (a : FixAttempt) : Prop := a.status = .active ∨ a.status = .prOpen

instance (a : FixAttempt) : Decidable a.Outstanding := inferInstanceAs (Decidable (_ ∨ _))

inductive PREventKind where
  | opened | closed | merged | orphan
  deriving DecidableEq

/-- What a pull-request event says. -/
structure PrEvent where
  ticketID : UUID
  errorGroupID : UUID
  generation : Nat
  attemptID : UUID
  event : PREventKind
  deliveryID : String
  occurredAt : Timestamp
  prURL : Option String
  prNumber : Option Nat
  githubRepo : Option String
  deriving DecidableEq

/-- A row of `friction_pr_events`, whose delivery id is unique. -/
structure PrEventFact extends PrEvent where
  id : UUID
  applied : Bool
  processedAt : Option Timestamp
  deriving DecidableEq

/-- The unique key of a fact. -/
def PrEventFact.key (f : PrEventFact) : String := f.deliveryID

inductive ObservationOutcome where
  | reserved | matched | created | notAProblem
  deriving DecidableEq

inductive DecidedBy where
  | cheap | strong | fold
  deriving DecidableEq

/-- A row of `friction_observation_decisions`. -/
structure ObservationDecision where
  signalID : String
  environmentID : UUID
  sessionID : String
  decision : ObservationOutcome
  ticketID : Option UUID
  decidedBy : DecidedBy
  decidedAt : Timestamp
  deriving DecidableEq

inductive FrictionAutonomy where
  | askFirst | autoFix
  deriving DecidableEq

structure TicketStore where
  frictionAutonomy : UUID → FrictionAutonomy
  tickets : Table FrictionTicket.id
  evidence : Evidence
  scope : evidence.Scoped tickets
  incidents : IncidentTable
  decisions : Table DiagnosisDecision.id
  attempts : Table FixAttempt.id
  prEvents : Table PrEventFact.key
  observationDecisions : Table ObservationDecision.signalID
  jobs : JobTable

namespace TicketStore

def empty : TicketStore where
  frictionAutonomy _ := .askFirst
  tickets := Table.empty
  evidence := ⟨Table.empty, Table.empty, Table.empty, Table.empty, [], Table.empty, Table.empty,
    Table.empty⟩
  scope := ⟨by simp [Table.empty], by simp⟩
  incidents := IncidentTable.empty
  decisions := Table.empty
  attempts := Table.empty
  prEvents := Table.empty
  observationDecisions := Table.empty
  jobs := Table.empty

/-- An update never moves a ticket to another environment. -/
def updateTicket (s : TicketStore) (id : UUID) (f : FrictionTicket → FrictionTicket)
    (frame : ∀ t : FrictionTicket, t.SamePlace (f t)) : TicketStore :=
  { s with
    tickets := s.tickets.updateKey id f fun t => (frame t).1
    scope := s.scope.updateTicket id frame }

/-- An update of one incident. -/
def updateIncident (s : TicketStore) (id : UUID) (f : Incident → Incident)
    (frame : ∀ g : Incident, g.SameKey (f g)) : TicketStore :=
  { s with incidents := s.incidents.updateWhere (fun g => g.id = id) f frame }

/-- An update of one attempt. -/
def updateAttempt (s : TicketStore) (id : UUID) (f : FixAttempt → FixAttempt)
    (frame : ∀ a, (f a).id = a.id) : TicketStore :=
  { s with attempts := s.attempts.updateKey id f frame }

/-- The scoped reader of a ticket. -/
def getTicket (s : TicketStore) (projectID ticketID : UUID) : Option FrictionTicket :=
  (s.tickets.find? ticketID).filter fun t => t.projectID = projectID

/-- An incident of the project, with its ticket. -/
def getIncident (s : TicketStore) (projectID groupID : UUID) : Option (Incident × FrictionTicket) := do
  let g ← s.incidents.table.find? groupID
  let t ← s.getTicket projectID g.ticketID
  return (g, t)

theorem getTicket_eq_some_iff {s : TicketStore} {projectID ticketID : UUID} {t : FrictionTicket} :
    s.getTicket projectID ticketID = some t ↔
      s.tickets.find? ticketID = some t ∧ t.projectID = projectID := by
  simp [getTicket, Option.filter_eq_some_iff]

theorem getIncident_eq_some_iff {s : TicketStore} {projectID groupID : UUID} {g : Incident}
    {t : FrictionTicket} :
    s.getIncident projectID groupID = some (g, t) ↔
      s.incidents.table.find? groupID = some g ∧ s.tickets.find? g.ticketID = some t ∧
        t.projectID = projectID := by
  unfold getIncident
  constructor
  · intro found
    obtain ⟨g', row, found⟩ := Option.bind_eq_some_iff.mp found
    obtain ⟨t', ticket, found⟩ := Option.bind_eq_some_iff.mp found
    cases found
    exact ⟨row, getTicket_eq_some_iff.mp ticket⟩
  · rintro ⟨row, ticket⟩
    simp [row, getTicket_eq_some_iff.mpr ticket]

end TicketStore

end Opslane.Tickets
