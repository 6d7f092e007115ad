import Mathlib.Data.Prod.Lex
import Opslane.Filter.Inquiry
import Opslane.Identity.Lifecycle

/-!
# The filter's evaluation

`packages/ingestion/filter/evaluate.go` and the two statements of `dispatch.go` that choose
what is evaluated. An evaluation locks the row of its episode for update, which excludes
every settlement that has named the episode and not committed, so each of the two is one
step, taken when it commits; both stamp their rows with the time they began.
-/

namespace Opslane.Filter

open Latest (latest)
open Identity (EventIdentity IssueEpisode)

def RuleVersion : Nat := 1

def admitUnits : Nat := 2

/-- Seven days. -/
def livenessWindow : Int := 604800000000

def sweepBatchLimit : Nat := 500

/-- `Decision` of the filter package. -/
structure Decision where
  outcome : FilterOutcome
  reason : String
  users7d : Nat
  anon7d : Nat
  deriving DecidableEq

/-- A row of `issue_decisions`. -/
structure IssueDecision where
  id : Nat
  episodeID : UUID
  decision : FilterOutcome
  reason : String
  users7d : Nat
  anon7d : Nat
  ruleVersion : Nat
  decidedAt : Timestamp
  deriving DecidableEq

/-- An evaluation that committed: its place in the order of commits, the events it read and
the row it appended. No statement reads these. -/
structure Evaluation where
  serial : Nat
  episodeID : UUID
  read : List UUID
  wrote : Option Nat
  deriving DecidableEq

/-- One project. -/
structure FilterStore where
  identity : Identity.Store
  /-- The column `error_events.session_id`. -/
  sessionOf : UUID → Option UUID
  actionScopeEnabled : Bool
  /-- `project_action_environments`. -/
  actionEnvironments : List UUID
  decisions : List IssueDecision
  evaluations : List Evaluation

/-- A row of the common table `episode_events`. -/
structure EpisodeEvent where
  eventID : UUID
  endUserID : Option UUID
  sessionID : Option UUID
  createdAt : Timestamp
  inScope : Bool
  deriving DecidableEq

structure EpisodeFacts where
  users7d : Nat
  anon7d : Nat
  lastSeen : Option Timestamp
  hasInScope : Bool
  deriving DecidableEq

def episodeEvents (s : FilterStore) (episodeID : UUID) : List EpisodeEvent :=
  (s.identity.identities.select fun i => i.episodeID = some episodeID).filterMap fun i =>
    (s.identity.events.find? i.eventID).map fun e =>
      { eventID := e.id
        endUserID := e.endUserID
        sessionID := s.sessionOf e.id
        createdAt := e.createdAt
        inScope := !s.actionScopeEnabled || s.actionEnvironments.contains e.environmentID }

/-- Sessions none of whose recent events names a user. -/
def anonymousSessions (recent : List EpisodeEvent) : List UUID :=
  (recent.filterMap EpisodeEvent.sessionID).dedup.filter fun session =>
    recent.all fun e => e.sessionID ≠ some session || e.endUserID.isNone

def loadEpisodeFacts (s : FilterStore) (episodeID : UUID) (now : Timestamp) : EpisodeFacts :=
  let events := (episodeEvents s episodeID).filter fun e => e.inScope ∧ e.createdAt ≤ now
  let recent := events.filter fun e => now - livenessWindow < e.createdAt
  { users7d := (recent.filterMap EpisodeEvent.endUserID).dedup.length
    anon7d := (anonymousSessions recent).length
    lastSeen := (events.map EpisodeEvent.createdAt).max?
    hasInScope := !events.isEmpty }

/-- A decimal, padded to a width with zeros. -/
def padded (width : Nat) (n : Int) : String :=
  let digits := toString n.toNat
  String.ofList (List.replicate (width - digits.length) '0') ++ digits

/-- `Format(time.RFC3339)` in UTC; the fraction of the second is dropped. -/
def rfc3339 (t : Timestamp) : String :=
  let seconds := t / 1000000
  let clock := seconds % 86400
  -- days since 1 March of the year 0, whose leap day is the last of its year
  let days := seconds / 86400 + 719468
  let era := days / 146097
  let dayOfEra := days % 146097
  let yearOfEra :=
    (dayOfEra - dayOfEra / 1460 + dayOfEra / 36524 - dayOfEra / 146096) / 365
  let dayOfYear := dayOfEra - (365 * yearOfEra + yearOfEra / 4 - yearOfEra / 100)
  let month := (5 * dayOfYear + 2) / 153
  let day := dayOfYear - (153 * month + 2) / 5 + 1
  let calendarMonth := if month < 10 then month + 3 else month - 9
  let year := yearOfEra + era * 400 + (if calendarMonth ≤ 2 then 1 else 0)
  padded 4 year ++ "-" ++ padded 2 calendarMonth ++ "-" ++ padded 2 day ++ "T" ++
    padded 2 (clock / 3600) ++ ":" ++ padded 2 (clock / 60 % 60) ++ ":" ++
    padded 2 (clock % 60) ++ "Z"

example : rfc3339 1709210096123456 = "2024-02-29T12:34:56Z" := by decide +kernel

def evaluateAt (s : FilterStore) (episodeID : UUID) (now : Timestamp) : Decision :=
  let facts := loadEpisodeFacts s episodeID now
  let units := facts.users7d + facts.anon7d
  let answer (outcome : FilterOutcome) (reason : String) : Decision :=
    ⟨outcome, reason, facts.users7d, facts.anon7d⟩
  if ¬facts.hasInScope then answer .watch "no error events linked to this episode yet"
  else
    match facts.lastSeen with
    | none => answer .inactive "no in-scope occurrence recorded"
    | some lastSeen =>
      if lastSeen < now - livenessWindow then
        answer .inactive ("no occurrence since " ++ rfc3339 lastSeen)
      else if units ≥ admitUnits then
        answer .openInquiry (toString units ++ " affected units in seven days")
      else
        answer .watch
          (toString units ++ " affected unit in seven days, below " ++ toString admitUnits)

/-- `ORDER BY decided_at DESC, id DESC`. -/
def IssueDecision.order (d : IssueDecision) : Timestamp ×ₗ Nat := toLex (d.decidedAt, d.id)

def decisionsOf (s : FilterStore) (episodeID : UUID) : List IssueDecision :=
  s.decisions.filter fun d => d.episodeID = episodeID

def latestDecision (s : FilterStore) (episodeID : UUID) : Option IssueDecision :=
  latest IssueDecision.order (decisionsOf s episodeID)

/-- The row says what the decision says, under the rule in force. -/
def IssueDecision.Repeats (d : IssueDecision) (decision : Decision) : Prop :=
  d.decision = decision.outcome ∧ d.reason = decision.reason ∧ d.users7d = decision.users7d ∧
    d.anon7d = decision.anon7d ∧ d.ruleVersion = RuleVersion
  deriving Decidable

/-- The row appended, if the answer differs from the latest one. -/
def appendIfChanged (s : FilterStore) (episodeID : UUID) (decision : Decision) (now : Timestamp) :
    Option IssueDecision :=
  if (latestDecision s episodeID).any fun d => d.Repeats decision then none
  else some
    { id := s.decisions.length + 1
      episodeID
      decision := decision.outcome
      reason := decision.reason
      users7d := decision.users7d
      anon7d := decision.anon7d
      ruleVersion := RuleVersion
      decidedAt := now }

/-- `clock` is the process's time once it holds the lock, `now` the transaction's. -/
def Evaluate (s : FilterStore) (episodeID : UUID) (clock now : Timestamp) :
    Except String FilterStore :=
  if (s.identity.episodes.table.find? episodeID).isNone then
    .error ("episode " ++ toString episodeID ++ " not found in project")
  else
    let appended := appendIfChanged s episodeID (evaluateAt s episodeID clock) now
    .ok { s with
      decisions := appended.toList ++ s.decisions
      evaluations :=
        { serial := s.evaluations.length
          episodeID
          read := (episodeEvents s episodeID).map EpisodeEvent.eventID
          wrote := appended.map IssueDecision.id } :: s.evaluations }

/-- Closes the rounds of issues that are over. -/
def closeResolvedEpisodes (s : FilterStore) (now : Timestamp) : FilterStore :=
  let over? (ep : IssueEpisode) : Option ErrorGroup :=
    (s.identity.groups.find? ep.canonicalIssueID).filter fun g =>
      g.status = .resolved ∨ g.status = .merged ∨ g.status = .archived
  { s with
    identity := { s.identity with
      episodes := s.identity.episodes.closeWhere
        (fun ep => ep.closedAt = none ∧ (over? ep).isSome)
        fun ep => ((over? ep).bind ErrorGroup.resolvedAt).getD now } }

/-- An event of the round was settled after the decision was stamped. -/
def SettledSince (s : FilterStore) (episodeID : UUID) (d : IssueDecision) : Prop :=
  ∃ i ∈ s.identity.identities.rows, i.episodeID = some episodeID ∧ i.status = .settled ∧
    i.settledAt.any fun settledAt => d.decidedAt < settledAt
  deriving Decidable

/-- The latest decision no longer stands for what the round holds. -/
def IssueDecision.Outdated (d : IssueDecision) (s : FilterStore) (now : Timestamp) : Prop :=
  d.ruleVersion < RuleVersion ∨
    (d.decidedAt < now - livenessWindow ∧ d.decision ≠ .inactive) ∨ SettledSince s d.episodeID d
  deriving Decidable

/-- The `WHERE` clause of `staleEpisodes`. -/
def Stale (s : FilterStore) (now : Timestamp) (ep : IssueEpisode) : Prop :=
  ep.closedAt = none ∧
    ((s.identity.groups.find? ep.canonicalIssueID).any fun g => g.kind = .error) ∧
    (latestDecision s ep.id).all fun d => d.Outdated s now
  deriving Decidable

/-- `ORDER BY ep.opened_at, ep.id`. -/
def openedBefore (a b : IssueEpisode) : Prop :=
  a.openedAt < b.openedAt ∨ (a.openedAt = b.openedAt ∧ a.id ≤ b.id)

instance : DecidableRel openedBefore := fun a b =>
  inferInstanceAs (Decidable (a.openedAt < b.openedAt ∨ (a.openedAt = b.openedAt ∧ a.id ≤ b.id)))

def staleEpisodes (s : FilterStore) (now : Timestamp) : List UUID :=
  (((s.identity.episodes.rows.filter fun ep => Stale s now ep).insertionSort openedBefore).take
    sweepBatchLimit).map IssueEpisode.id

theorem listed_of_stale {s : FilterStore} {now : Timestamp} {ep : IssueEpisode}
    (member : ep ∈ s.identity.episodes.rows) (stale : Stale s now ep) :
    ep.id ∈ staleEpisodes s now ∨ (staleEpisodes s now).length = sweepBatchLimit := by
  have ordered : ep ∈ (s.identity.episodes.rows.filter fun ep => Stale s now ep).insertionSort
      openedBefore := by
    rw [List.mem_insertionSort, List.mem_filter]
    exact ⟨member, by simpa using stale⟩
  unfold staleEpisodes
  generalize (s.identity.episodes.rows.filter fun ep => Stale s now ep).insertionSort
    openedBefore = rows at ordered
  by_cases fits : rows.length ≤ sweepBatchLimit
  · rw [List.take_of_length_le fits]
    exact Or.inl (List.mem_map_of_mem ordered)
  · refine Or.inr ?_
    rw [List.length_map, List.length_take]
    omega

end Opslane.Filter
