import Opslane.Tickets.StepRows

/-!
# The one-fix gate before a publication

A waiting ticket with retries left is published only where every near published ticket was
answered to be another problem, and folded only into the first one answered to be the same:
as long as no answer of a pair is recorded beside a different one. The plan is judged by the
answers of its own time, and what holds it together is that they do not change.

Nothing stops a second answer: a confirmation and a reconciliation of one ticket may both
find a pair without an answer, ask, and record what they are told.
-/

namespace Opslane.Tickets.Confirmations

open Transition (Machine committed)

/-- All stored answers about a pair are one. -/
def Agrees (s : ConfirmStore) : Prop :=
  ∀ d ∈ s.gateDecisions.rows, ∀ d' ∈ s.gateDecisions.rows, d.ticketID = d'.ticketID →
    d.candidateID = d'.candidateID → d.oneFix = d'.oneFix

/-- The answer is stored for the pair. -/
def Stored (s : ConfirmStore) (ticketID candidateID : UUID) (oneFix : Bool) : Prop :=
  ∃ d ∈ s.gateDecisions.rows, d.ticketID = ticketID ∧ d.candidateID = candidateID ∧
    d.oneFix = oneFix

variable {ticketID candidateID : UUID} {oneFix : Bool}

theorem Stored.of_latest {s : ConfirmStore}
    (latest : latestGateDecision s ticketID candidateID = some oneFix) :
    Stored s ticketID candidateID oneFix := by
  obtain ⟨d, found, answer⟩ := Option.map_eq_some_iff.mp latest
  obtain ⟨member, -⟩ := Latest.latest_spec found
  obtain ⟨present, pair⟩ := List.mem_filter.mp member
  obtain ⟨ticket, candidate⟩ := of_decide_eq_true pair
  exact ⟨d, present, ticket, candidate, answer⟩

theorem Stored.latest {s : ConfirmStore} (agrees : Agrees s)
    (stored : Stored s ticketID candidateID oneFix) :
    latestGateDecision s ticketID candidateID = some oneFix := by
  obtain ⟨d, present, rfl, rfl, rfl⟩ := stored
  have member : d ∈ s.gateDecisions.select fun d' => d'.ticketID = d.ticketID ∧
      d'.candidateID = d.candidateID :=
    List.mem_filter.mpr ⟨present, decide_eq_true ⟨rfl, rfl⟩⟩
  obtain ⟨last, found⟩ := Latest.exists_latest GateDecision.order member
  obtain ⟨member, -⟩ := Latest.latest_spec found
  obtain ⟨present', pair⟩ := List.mem_filter.mp member
  obtain ⟨ticket, candidate⟩ := of_decide_eq_true pair
  rw [latestGateDecision, found, Option.map_some, agrees last present' d present ticket candidate]

variable {s s' : ConfirmStore}

theorem Stored.grow (grows : ∀ d ∈ s.gateDecisions.rows, d ∈ s'.gateDecisions.rows)
    (stored : Stored s ticketID candidateID oneFix) :
    Stored s' ticketID candidateID oneFix := by
  obtain ⟨d, present, pair⟩ := stored
  exact ⟨d, grows d present, pair⟩

/-- An answer is recorded where the pair has none yet, or the same. -/
def Repeats (s : ConfirmStore) : Action → Prop
  | .answerGate job (.oneFix yes) _ _ =>
    match s.memory job with
    | some (.asking plan _ n _) => ∀ d ∈ s.gateDecisions.rows, d.ticketID = plan.ticket.id →
        d.candidateID = n.id → d.oneFix = yes
    | _ => True
  | _ => True

/-- All of these neighbors are other problems. -/
def Others (s : ConfirmStore) (ticketID : UUID) (neighbors : List Neighbor) : Prop :=
  ∀ n ∈ neighbors, Stored s ticketID n.id false

/-- What the gate said of the neighbors of a plan. -/
structure Asked (s : ConfirmStore) (ticketID : UUID) (plan : TransitionPlan)
    (asked left : List Neighbor) : Prop where
  ticket : plan.ticket.id = ticketID
  judged : plan.judged = true
  target : plan.targetID = none
  neighbors : plan.neighbors = some (asked ++ left)
  others : Others s ticketID asked

/-- A judged plan has no target only where all its neighbors are other problems; otherwise its
target is the first that is not. -/
structure Judged (s : ConfirmStore) (ticketID : UUID) (plan : TransitionPlan) : Prop where
  ticket : plan.ticket.id = ticketID
  answers : plan.judged = true → ∃ neighbors, plan.neighbors = some neighbors ∧
    ((plan.targetID = none ∧ Others s ticketID neighbors) ∨
      ∃ (before : List Neighbor) (n : Neighbor) (after : List Neighbor),
        neighbors = before ++ n :: after ∧ plan.targetID = some n.id ∧
        Others s ticketID before ∧ Stored s ticketID n.id true)

/-- What an execution of a ticket's job knows of its plan. -/
def Knows (s : ConfirmStore) (ticketID : UUID) : Memory → Prop
  | .selected t _ | .staging t .. | .reading t .. | .planning t _ | .sawIncident t .. |
    .previewed t .. => t.id = ticketID
  | .judging plan _ left => ∃ asked, Asked s ticketID plan asked left
  | .asking plan _ n left => ∃ asked, Asked s ticketID plan asked (n :: left)
  | .planned plan _ => Judged s ticketID plan
  | .unplanned | .ended => True

variable {plan : TransitionPlan} {ticketID : UUID} {asked left : List Neighbor}

theorem Asked.grow (grows : ∀ d ∈ s.gateDecisions.rows, d ∈ s'.gateDecisions.rows)
    (knows : Asked s ticketID plan asked left) :
    Asked s' ticketID plan asked left :=
  { knows with others := fun n member => (knows.others n member).grow grows }

theorem Judged.grow (grows : ∀ d ∈ s.gateDecisions.rows, d ∈ s'.gateDecisions.rows)
    (knows : Judged s ticketID plan) : Judged s' ticketID plan where
  ticket := knows.ticket
  answers judged := by
    obtain ⟨neighbors, planned, ⟨none_, others⟩ | ⟨before, n, after, split, target, others, yes⟩⟩ :=
      knows.answers judged
    · exact ⟨neighbors, planned, Or.inl ⟨none_, fun n member => (others n member).grow grows⟩⟩
    · exact ⟨neighbors, planned, Or.inr ⟨before, n, after, split, target,
        fun n member => (others n member).grow grows, yes.grow grows⟩⟩

variable {m : Memory}

theorem Knows.grow (grows : ∀ d ∈ s.gateDecisions.rows, d ∈ s'.gateDecisions.rows)
    (knows : Knows s ticketID m) : Knows s' ticketID m := by
  cases m with
  | judging | asking =>
    obtain ⟨asked, known⟩ := knows
    exact ⟨asked, known.grow grows⟩
  | planned => exact Judged.grow grows knows
  | selected | staging | reading | planning | sawIncident | previewed | unplanned | ended =>
    exact knows

variable {batchID : Option UUID}

theorem knows_judge (knows : Asked s ticketID plan asked left) :
    Knows s ticketID (judge plan batchID left) := by
  cases left with
  | nil =>
    refine ⟨knows.ticket, fun _ => ⟨asked, ?_, Or.inl ⟨knows.target, knows.others⟩⟩⟩
    rw [knows.neighbors, List.append_nil]
  | cons n left => exact ⟨asked, knows⟩

variable {n : Neighbor}

theorem knows_answered (knows : Asked s ticketID plan asked (n :: left))
    (stored : Stored s ticketID n.id oneFix) :
    Knows s ticketID (answered plan batchID n left oneFix) := by
  cases oneFix with
  | true =>
    refine ⟨knows.ticket, fun _ => ⟨asked ++ n :: left, knows.neighbors, Or.inr ?_⟩⟩
    exact ⟨asked, n, left, rfl, rfl, knows.others, stored⟩
  | false =>
    have more : Asked s ticketID plan (asked ++ [n]) left := by
      refine ⟨knows.ticket, knows.judged, knows.target, ?_, ?_⟩
      · rw [knows.neighbors, List.append_assoc, List.singleton_append]
      · intro n' member
        rcases List.mem_append.mp member with earlier | last
        · exact knows.others n' earlier
        · rw [List.mem_singleton.mp last]
          exact stored
    exact knows_judge more

variable {c : ConfirmSettings} {t : FrictionTicket}

theorem knows_startJudging {incident : Option Incident} {stats : CohortStats} :
    Knows s t.id (startJudging c s.store t batchID incident stats) := by
  unfold startJudging
  dsimp only
  split
  · exact ⟨rfl, fun judged => (nomatch judged)⟩
  · split
    · exact ⟨rfl, fun judged => (nomatch judged)⟩
    · refine knows_judge (?_ : Asked s t.id _ [] _)
      exact ⟨rfl, rfl, rfl, rfl, fun _ member => (nomatch member)⟩

theorem knows_readNext (knows : Knows s ticketID m) :
    Knows s ticketID (readNext c s m) := by
  cases m with
  | staging t batchID left =>
    cases left with
    | nil => exact knows
    | cons member left =>
      rw [readNext]
      split <;> exact knows
  | previewed t =>
    have own : t.id = ticketID := knows
    rw [← own]
    exact knows_startJudging
  | selected | reading | planning | sawIncident | judging | asking | planned | unplanned | ended =>
    exact knows

structure Heeds (s : ConfirmStore) : Prop where
  agrees : Agrees s
  knows : ∀ job m, s.memory job = some m → Knows s job.ticketID m

theorem heeds_empty : Heeds .empty where
  agrees d present := by cases present
  knows _ _ remembered := by cases remembered

theorem Heeds.of_same (heeds : Heeds s) (gateDecisions : s'.gateDecisions = s.gateDecisions)
    (knows : ∀ job m, s'.memory job = some m → s.memory job = some m ∨ Knows s job.ticketID m) :
    Heeds s' where
  agrees := by
    rw [Agrees, gateDecisions]
    exact heeds.agrees
  knows job m remembered := by
    have known : Knows s job.ticketID m := by
      rcases knows job m remembered with old | known
      · exact heeds.knows job m old
      · exact known
    exact known.grow fun d present => gateDecisions ▸ present

variable {job : FrictionJob}

theorem Heeds.remember (heeds : Heeds s) (gateDecisions : s'.gateDecisions = s.gateDecisions)
    (memory : s'.memory = Function.update s.memory job (some m)) (known : Knows s job.ticketID m) :
    Heeds s' := by
  refine heeds.of_same gateDecisions fun job' m' remembered => ?_
  rw [memory] at remembered
  by_cases own : job' = job
  · rw [own, Function.update_self, Option.some.injEq] at remembered
    rw [own, ← remembered]
    exact Or.inr known
  · rw [Function.update_of_ne own] at remembered
    exact Or.inl remembered

variable {now : Timestamp}

theorem heeds_beginConfirm {batchID : UUID} (heeds : Heeds s)
    (begins : Begins s job batchID now s') : Heeds s' := by
  cases begins with
  | gone | terminal | lost | idle => exact heeds.of_same rfl fun _ _ same => Or.inl same
  | resumed found => exact heeds.remember rfl rfl (id_of_getTicket found)
  | @selected t s₁ found live unused selects =>
    have known : Knows s job.ticketID (.selected t batchID) := id_of_getTicket found
    exact heeds.remember selects.gateDecisions (congrArg (Function.update · job _) selects.memory) known

theorem heeds_beginReconcile {clock : Timestamp} (heeds : Heeds s) :
    Heeds (beginReconcile s job clock) := by
  unfold beginReconcile
  split
  · exact heeds.remember rfl rfl trivial
  · split
    · exact heeds.remember rfl rfl trivial
    · rename_i t chosen
      exact heeds.remember rfl rfl (id_of_getTicket (Option.filter_eq_some_iff.mp chosen).1)

theorem heeds_stageMember {batchID : UUID} {member : BatchMember} {left : List BatchMember}
    {r : CheckResult} {attemptID : UUID} (heeds : Heeds s)
    (remembered : s.memory job = some (.reading t batchID member left))
    (stages : StagesMember s job t batchID member left r attemptID now s') : Heeds s' := by
  have own : t.id = job.ticketID := heeds.knows job _ remembered
  cases stages <;> exact heeds.remember rfl rfl own

theorem heeds_readGate {clock : Timestamp} (heeds : Heeds s)
    (remembered : s.memory job = some (.judging plan batchID (n :: left))) :
    Heeds (s.remember job (some ((readGate s job plan batchID n left clock).getD .ended))) := by
  obtain ⟨asked, known⟩ := heeds.knows job _ remembered
  refine heeds.remember rfl rfl ?_
  unfold readGate
  split
  · rename_i oneFix latest
    exact knows_answered known (.of_latest (known.ticket ▸ latest))
  · split
    · exact ⟨asked, known⟩
    · trivial

theorem heeds_recorded {decisionID : UUID} {yes : Bool} {gateDecisions : Table GateDecision.id}
    (heeds : Heeds s) (remembered : s.memory job = some (.asking plan batchID n left))
    (repeats : ∀ d ∈ s.gateDecisions.rows, d.ticketID = plan.ticket.id → d.candidateID = n.id →
      d.oneFix = yes) (inserted : s.gateDecisions.insert?
      ⟨decisionID, plan.ticket.id, n.id, n.similarity, yes, now⟩ = some gateDecisions) :
    Heeds (({ s with gateDecisions } : ConfirmStore).remember job
      (some (answered plan batchID n left yes))) := by
  obtain ⟨asked, known⟩ := heeds.knows job _ remembered
  have grows : ∀ d ∈ s.gateDecisions.rows, d ∈ gateDecisions.rows :=
    fun d present => (Table.mem_insert? inserted).mpr (Or.inr present)
  have recorded : Heeds { s with gateDecisions } := by
    constructor
    · intro d present d' present' ticket candidate
      rcases (Table.mem_insert? inserted).mp present with rfl | old <;>
        rcases (Table.mem_insert? inserted).mp present' with rfl | old'
      · rfl
      · exact (repeats d' old' ticket.symm candidate.symm).symm
      · exact repeats d old ticket candidate
      · exact heeds.agrees d old d' old' ticket candidate
    · exact fun job' m same => (heeds.knows job' m same).grow grows
  refine recorded.remember rfl rfl (knows_answered (known.grow grows) ?_)
  exact ⟨_, (Table.mem_insert? inserted).mpr (Or.inl rfl), known.ticket, rfl, rfl⟩

theorem heeds_answerGate {decisionID : UUID} {answer : GateAnswer} (heeds : Heeds s)
    (remembered : s.memory job = some (.asking plan batchID n left))
    (repeats : Repeats s (.answerGate job answer decisionID now))
    (done : answerGate s job plan batchID n left decisionID now answer = .ok s') : Heeds s' := by
  cases answer with
  | invalid =>
    cases done
    obtain ⟨asked, known⟩ := heeds.knows job _ remembered
    exact heeds.remember rfl rfl ⟨known.ticket, fun judged => (nomatch judged)⟩
  | oneFix yes =>
    obtain ⟨s₁, recorded, done⟩ := Except.of_bind done
    obtain ⟨gateDecisions, inserted, recorded⟩ := Except.of_bind recorded
    rw [Option.orError_eq_ok_iff] at inserted
    cases recorded
    cases done
    rw [Repeats, remembered] at repeats
    exact heeds_recorded heeds remembered repeats inserted

theorem heeds_step (c : ConfirmSettings) {a : Action} (heeds : Heeds s) (repeats : Repeats s a) :
    Heeds (step c s a) := by
  cases a with
  | ticket =>
    rw [step]
    split
    · exact heeds.of_same rfl fun _ _ same => Or.inl same
    · exact heeds
  | scheduleFrictionReconciliation | failJob | requeueStaleJobs =>
    exact heeds.of_same rfl fun _ _ same => Or.inl same
  | beginConfirm job batchID now clock clock' =>
    rw [step]
    split
    · exact heeds
    · cases begun : Tickets.beginConfirm s job batchID now clock clock' with
      | error => exact heeds.remember rfl rfl trivial
      | ok s' => exact heeds_beginConfirm heeds (beginConfirm_begins begun).2
  | beginReconcile job clock =>
    rw [step]
    split
    · exact heeds
    · exact heeds_beginReconcile heeds
  | read job =>
    rw [step]
    split
    · rename_i m remembered
      exact heeds.remember rfl rfl (knows_readNext (heeds.knows job m remembered))
    · exact heeds
  | stageMember job r attemptID now clock clock' =>
    rw [step]
    split
    · rename_i t batchID member left remembered
      cases staged : Tickets.stageMember s job t batchID member left r attemptID now clock clock' with
      | error => exact heeds.remember rfl rfl trivial
      | ok s' => exact heeds_stageMember heeds remembered (stageMember_stages staged).2
    · exact heeds
  | readGate job clock =>
    rw [step]
    split
    · rename_i plan batchID n left remembered
      exact heeds_readGate heeds remembered
    · exact heeds
  | answerGate job answer decisionID now =>
    rw [step]
    split
    · rename_i plan batchID n left remembered
      cases answers : Tickets.answerGate s job plan batchID n left decisionID now answer with
      | error => exact heeds.remember rfl rfl trivial
      | ok s' => exact heeds_answerGate heeds remembered repeats answers
    · exact heeds
  | finish job d =>
    rw [step]
    split
    · rename_i m chosen
      obtain ⟨-, final⟩ := Option.filter_eq_some_iff.mp chosen
      cases done : finish c s job d m with
      | error => exact heeds.remember rfl rfl trivial
      | ok s' =>
        obtain ⟨decisions, memory⟩ := same_finish (of_decide_eq_true final) done
        have still : Heeds s' := heeds.of_same decisions fun job' m' same => Or.inl (memory ▸ same)
        exact still.remember rfl rfl trivial
    · exact heeds

/-- The first of the neighbors that is the same problem. -/
def FirstDuplicate (s : ConfirmStore) (ticketID : UUID) (neighbors : List Neighbor)
    (targetID : UUID) : Prop :=
  ∃ (before : List Neighbor) (n : Neighbor) (after : List Neighbor),
    neighbors = before ++ n :: after ∧ targetID = n.id ∧
    latestGateDecision s ticketID n.id = some true ∧
    ∀ n' ∈ before, latestGateDecision s ticketID n'.id ≠ some true

/-- A ticket that one step publishes or folds: the gate said so of the tickets near it. -/
structure HeedsGate (c : ConfirmSettings) (s s' : ConfirmStore) (t t' : FrictionTicket) : Prop where
  published : t'.status = .published → ∀ n ∈ publishedNeighbors c s.store t,
    latestGateDecision s' t.id n.id = some false
  folded : t'.status = .merged → ∃ targetID, t'.mergedInto = some targetID ∧
    FirstDuplicate s' t.id (publishedNeighbors c s.store t) targetID

theorem publishedNeighbors_update (c : ConfirmSettings) {s s' : TicketStore} {id : UUID}
    {f : FrictionTicket → FrictionTicket} {frame : ∀ u, (f u).id = u.id}
    (tickets : s'.tickets = s.tickets.updateKey id f frame) (incidents : s'.incidents = s.incidents)
    (place : ∀ u : FrictionTicket, u.SamePlace (f u)) (status : ∀ u, (f u).status = u.status)
    (generation : ∀ u, (f u).liveGeneration = u.liveGeneration) (t : FrictionTicket) :
    publishedNeighbors c s' (f t) = publishedNeighbors c s t := by
  have incident : ∀ n, liveIncident s' (f n) = liveIncident s n := by
    intro n
    rw [liveIncident, liveIncident, incidents, frame n, generation n]
  have incident' : ∀ n, liveIncident s' n = liveIncident s n := by
    intro n
    rw [liveIncident, liveIncident, incidents]
  have near : ∀ n n', (n' = f n ∨ n' = n) → (OpenNeighbor s' (f t) n' ↔ OpenNeighbor s t n) := by
    rintro n n' (rfl | rfl)
    · simp only [OpenNeighbor, frame, status, (place t).2, (place n).2, incident]
    · simp only [OpenNeighbor, frame, (place t).2, incident']
  have each : ∀ n n', (n' = f n ∨ n' = n) → neighbor? c s' (f t) n' = neighbor? c s t n := by
    intro n n' same
    have own : n'.id = n.id := by
      rcases same with rfl | rfl
      · exact frame n
      · rfl
    rw [neighbor?, neighbor?, own, frame t]
    cases c.similarity t.id n.id with
    | none => rfl
    | some similarity => exact if_congr (and_congr (near n n' same) Iff.rfl) rfl rfl
  have rows : s'.tickets.rows.filterMap (neighbor? c s' (f t)) =
      s.tickets.rows.filterMap (neighbor? c s t) := by
    rw [tickets, Table.updateKey, Table.updateWhere, List.filterMap_map]
    refine List.filterMap_congr fun n _ => each n _ ?_
    dsimp only
    split
    · exact Or.inl rfl
    · exact Or.inr rfl
  rw [publishedNeighbors, publishedNeighbors, rows]

theorem confirmationTransition_classified {status : TicketStatus} (waits : status.Classified)
    (substate : Option FixSubstate) (bar : BarVerdict) :
    confirmationTransition status substate bar = if bar = .passes then .classify else .none := by
  rcases waits with rfl | rfl <;> simp [confirmationTransition]

theorem lockedTransition_classified {s : TicketStore} (waits : t.status.Classified) :
    lockedTransition s t = .classify ∨ lockedTransition s t = .none := by
  rw [lockedTransition, confirmationTransition_classified waits]
  split
  · exact Or.inl rfl
  · exact Or.inr rfl

theorem appliedTransition_cases {s : TicketStore} (waits : t.status.Classified)
    (retries : t.foldRetries < foldRetryLimit)
    (active : appliedTransition c s t plan = .activated ∨
      ∃ targetID, appliedTransition c s t plan = .folded targetID) :
    plan.neighbors = some (publishedNeighbors c s t) ∧
      (plan.judged = true ∨ publishedNeighbors c s t = []) ∧
      ((appliedTransition c s t plan = .activated ∧
          ∀ id, plan.targetID = some id → id ∉ (publishedNeighbors c s t).map Neighbor.id) ∨
        ∃ id, appliedTransition c s t plan = .folded id ∧ plan.targetID = some id ∧
          id ∈ (publishedNeighbors c s t).map Neighbor.id) := by
  unfold appliedTransition at active ⊢
  rcases lockedTransition_classified (s := s) waits with classify | none_
  · rw [classify] at active ⊢
    dsimp only at active ⊢
    rw [if_pos retries] at active ⊢
    by_cases changed : some (publishedNeighbors c s t) ≠ plan.neighbors
    · rw [if_pos changed] at active
      rcases active with same | ⟨id, same⟩ <;> cases same
    · rw [if_neg changed] at active ⊢
      by_cases unasked : ¬plan.judged ∧ publishedNeighbors c s t ≠ []
      · rw [if_pos unasked] at active
        rcases active with same | ⟨id, same⟩ <;> cases same
      · rw [if_neg unasked]
        refine ⟨(not_not.mp changed).symm, ?_, ?_⟩
        · by_cases judged : plan.judged = true
          · exact Or.inl judged
          · refine Or.inr ?_
            by_contra some_
            exact unasked ⟨judged, some_⟩
        · cases chosen : plan.targetID.filter fun id => id ∈ (publishedNeighbors c s t).map Neighbor.id with
          | none =>
            refine Or.inl ⟨rfl, fun id target near => ?_⟩
            exact Option.filter_eq_none_iff.mp chosen id target (decide_eq_true near)
          | some id =>
            obtain ⟨target, near⟩ := Option.filter_eq_some_iff.mp chosen
            exact Or.inr ⟨id, rfl, target, of_decide_eq_true near⟩
  · rw [none_] at active
    rcases active with same | ⟨id, same⟩ <;> cases same

variable {t t' : FrictionTicket}

theorem heedsGate_aside (waits : t.status.Classified) (row : RowAside t t' ∨ t' = t.cover) :
    HeedsGate c s s' t t' := by
  have rests : t'.status = t.status ∨ t'.status = .archived := by
    rcases row with aside | rfl
    · rcases aside.status with same | ⟨published, -⟩ | ended
      · exact Or.inl same
      · rw [published] at waits
        exact absurd waits (by decide)
      · exact Or.inr ended
    · exact Or.inl rfl
  constructor
  · intro published
    rcases rests with same | ended
    · rw [← same, published] at waits
      exact absurd waits (by decide)
    · rw [ended] at published
      cases published
  · intro merged
    rcases rests with same | ended
    · rw [← same, merged] at waits
      exact absurd waits (by decide)
    · rw [ended] at merged
      cases merged

theorem ownRows_status {t u : FrictionTicket} {a : AppliedTransition} (waits : t.status.Classified)
    (row : u ∈ ownRows t a) :
    (u.status = .published → a = .activated) ∧
      (u.status = .merged → ∃ targetID, a = .folded targetID ∧ u.mergedInto = some targetID) := by
  have other : t.status ≠ .published ∧ t.status ≠ .merged := by
    rcases waits with status | status <;> rw [status] <;> decide
  cases a with
  | activated =>
    rw [List.mem_singleton.mp row]
    exact ⟨fun _ => rfl, fun merged => (nomatch merged)⟩
  | folded targetID =>
    rw [List.mem_singleton.mp row]
    exact ⟨fun published => (nomatch published), fun _ => ⟨targetID, rfl, rfl⟩⟩
  | deferred | unchanged =>
    rw [List.mem_singleton.mp row]
    exact ⟨fun published => absurd published other.1, fun merged => absurd merged other.2⟩
  | unpublished =>
    rcases List.mem_pair.mp row with rfl | rfl
    · exact ⟨fun published => absurd published other.1, fun merged => absurd merged other.2⟩
    · exact ⟨fun published => (nomatch published), fun merged => (nomatch merged)⟩
  | refreshed =>
    rcases List.mem_pair.mp row with rfl | rfl <;>
      exact ⟨fun published => absurd published other.1, fun merged => absurd merged other.2⟩

theorem heedsGate_applied {t u : FrictionTicket} {store : TicketStore} {row : FrictionTicket}
    (agrees : Agrees s) (gateDecisions : s'.gateDecisions = s.gateDecisions)
    (knows : Judged s t.id plan)
    (neighbors : publishedNeighbors c store row = publishedNeighbors c s.store t)
    (waits : row.status.Classified) (retries : row.foldRetries < foldRetryLimit)
    (own : u ∈ ownRows row (appliedTransition c store row plan)) : HeedsGate c s s' t u := by
  have latest : ∀ id yes, Stored s t.id id yes → latestGateDecision s' t.id id = some yes := by
    intro id yes stored
    rw [latestGateDecision, gateDecisions]
    exact stored.latest agrees
  obtain ⟨publishes, folds⟩ := ownRows_status waits own
  constructor
  · intro published n near
    have activated := publishes published
    obtain ⟨planned, judged, ⟨-, target⟩ | ⟨id, same, -⟩⟩ :=
      appliedTransition_cases waits retries (Or.inl activated)
    · rw [neighbors] at planned judged target
      rcases judged with judged | none_
      · obtain ⟨ns, known, ⟨-, others⟩ | ⟨before, n', after, split, chosen, -⟩⟩ := knows.answers judged
        · rw [planned, Option.some.injEq] at known
          exact latest n.id false (others n (known ▸ near))
        · rw [planned, Option.some.injEq] at known
          refine absurd (List.mem_map_of_mem (f := Neighbor.id) ?_) (target n'.id chosen)
          rw [known, split]
          exact List.mem_append_right before (List.mem_cons_self ..)
      · rw [none_] at near
        cases near
    · rw [activated] at same
      cases same
  · intro merged
    obtain ⟨targetID, folded, into⟩ := folds merged
    refine ⟨targetID, into, ?_⟩
    obtain ⟨planned, judged, ⟨activated, -⟩ | ⟨id, same, chosen, near⟩⟩ :=
      appliedTransition_cases waits retries (Or.inr ⟨targetID, folded⟩)
    · rw [folded] at activated
      cases activated
    · rw [folded, AppliedTransition.folded.injEq] at same
      rw [neighbors] at planned judged
      rcases judged with judged | none_
      · obtain ⟨ns, known, ⟨noTarget, -⟩ | ⟨before, n, after, split, target, others, yes⟩⟩ :=
          knows.answers judged
        · rw [chosen] at noTarget
          cases noTarget
        · rw [planned, Option.some.injEq] at known
          rw [chosen, Option.some.injEq] at target
          refine ⟨before, n, after, known.trans split, same.trans target, latest n.id true yes, ?_⟩
          intro n' earlier
          rw [latest n'.id false (others n' earlier)]
          decide
      · rw [neighbors, none_] at near
        cases near

theorem heedsGate_step (c : ConfirmSettings) {a : Action} (heeds : Heeds s)
    (member : t ∈ s.store.tickets.rows) (member' : t' ∈ (step c s a).store.tickets.rows)
    (own : t'.id = t.id) (waits : t.status.Classified) (retries : t.foldRetries < foldRetryLimit) :
    HeedsGate c s (step c s a) t t' := by
  have only : ∀ u ∈ (step c s a).store.tickets.rows, u.id = t.id → u = t' := fun u present same =>
    List.inj_on_of_nodup_map (step c s a).store.tickets.unique present member' (same.trans own.symm)
  rcases rows_step c s a with moves | ⟨job, m, plan, x, u, applies⟩
  · obtain ⟨u, present, row⟩ := moves.forth member
    have place : u.id = t.id := by
      rcases row with aside | rfl
      · exact aside.place.1
      · rfl
    exact only u present place ▸ heedsGate_aside waits row
  · obtain ⟨current, f, frame, found, rfl, tickets, incidents, kind⟩ := applies.prepares.row
    by_cases same : t.id = current.id
    · obtain rfl : t = current := ticket_of_id found member same
      obtain ⟨u', row, found'⟩ := applies.rows.own (f t) applies.known
      rw [frame] at found'
      obtain rfl : u' = t' := only u' (Table.mem_of_find? found') (Table.key_of_find? found')
      have judged : Judged s t.id plan := by
        obtain ⟨batchID, rfl⟩ := applies.prepares.planned
        have known : Judged s job.ticketID plan := heeds.knows job _ applies.remembered
        have place : t.id = job.ticketID := by
          rcases kind with ⟨-, planned⟩ | ⟨-, own⟩
          · exact planned.trans known.ticket
          · exact own
        rwa [place]
      have kept : (∀ u : FrictionTicket, u.SamePlace (f u)) ∧ (∀ u, (f u).status = u.status) ∧
          (∀ u, (f u).liveGeneration = u.liveGeneration) ∧
          ∀ u, (f u).foldRetries = u.foldRetries := by
        rcases kind with ⟨rfl, -⟩ | ⟨⟨count, rfl⟩, -⟩ <;>
          exact ⟨fun _ => ⟨rfl, rfl, rfl⟩, fun _ => rfl, fun _ => rfl, fun _ => rfl⟩
      obtain ⟨place, status, generation, retried⟩ := kept
      exact heedsGate_applied heeds.agrees applies.gateDecisions judged
        (publishedNeighbors_update c tickets incidents place status generation t)
        ((status t).symm ▸ waits) ((retried t).symm ▸ retries) row
    · have still : t ∈ x.store.tickets.rows := by
        rw [tickets]
        exact (Table.mem_updateWhere ..).mpr ⟨t, member, by simp [same]⟩
      obtain ⟨u, present, row⟩ := applies.rows.others t still ((frame current).symm ▸ same)
      exact only u present row.place.1 ▸ heedsGate_aside waits (Or.inl row)

/-- Every waiting ticket with retries left heeds the gate where a step publishes or folds it. -/
def GateHolds (c : ConfirmSettings) (s s' : ConfirmStore) : Prop :=
  ∀ t ∈ s.store.tickets.rows, ∀ t' ∈ s'.store.tickets.rows, t'.id = t.id → t.status.Classified →
    t.foldRetries < foldRetryLimit → HeedsGate c s s' t t'

instance (s : ConfirmStore) (a : Action) : Decidable (Repeats s a) := by
  unfold Repeats
  split
  · split <;> infer_instance
  · infer_instance

/-- In a run in which the answers about a pair agree, a ticket that waits to be published is
published past no neighbor that is not another problem, and folded into the first duplicate. -/
theorem gateHolds_run (c : ConfirmSettings) {actions : List Action}
    (repeats : (machine c).Guarded (fun s a => Repeats s a) .empty actions) (a : Action) :
    GateHolds c ((machine c).run .empty actions) ((machine c).run .empty (actions ++ [a])) := by
  have heeds : Heeds ((machine c).run .empty actions) :=
    (machine c).invariant_guarded Heeds (fun _ _ heeds repeats => heeds_step c heeds repeats)
      heeds_empty repeats
  rw [Machine.run_append]
  exact fun t member t' member' own waits retries =>
    heedsGate_step c heeds member member' own waits retries

section Example

def nearSettings : ConfirmSettings := ⟨fun _ _ => some 1, 1, 5⟩

def second : Timestamp := 1000000

/-- A ticket of some recordings. -/
def recorded (id : UUID) (sessions : List String) : List Action :=
  sessions.map (fun r => Action.ticket (.session ⟨r, 2, none, 0⟩)) ++
    sessions.map (fun r => Action.ticket (.signal ⟨r, r, 2⟩)) ++
    sessions.map fun r => Action.ticket (.matchObservation 1 2 r r 0 false
      (if sessions.head? = some r then .create id .defect else .known id .strong) 0 0)

/-- An execution begins, stages its checks and comes to the gate. -/
def confirmedChecks (job : FrictionJob) (batchID : UUID) (attemptIDs : List UUID)
    (now : Timestamp) : List Action :=
  [Action.beginConfirm job batchID now now now, Action.read job] ++
    (attemptIDs.flatMap fun id =>
      [Action.read job, Action.stageMember job ⟨.confirmed, [], "", none⟩ id now now now]) ++
    [Action.read job, Action.read job, Action.read job, Action.read job]

def lateJob : FrictionJob := ⟨300, 1, 11, "w", 1⟩
def nextJob : FrictionJob := ⟨300, 1, 11, "v", 2⟩

/-- Ticket 10 is published. The confirmation of ticket 11 asks whether it is the same problem,
loses its lease, and another execution asks again: it is not. -/
def askedTwice : List Action :=
  recorded 10 ["a", "b", "c"] ++ recorded 11 ["d", "e", "f"] ++
    ([.ticket (.enqueue (confirmJob (FrictionTicket.new 10 1 2 .defect) 200 0)),
    .ticket (.enqueue (confirmJob (FrictionTicket.new 11 1 2 .defect) 300 0)),
    .ticket (.queue (.claimJob "w" 1000 {} [300] 0))] : List Action) ++
    confirmedChecks ⟨200, 1, 10, "w", 1⟩ 30 [40, 41, 42] 0 ++
    ([.finish ⟨200, 1, 10, "w", 1⟩ ⟨⟨100, 201, 202, 203⟩, 204, 0, 0, 0⟩,
    .ticket (.queue (.claimJob "w" 1000 {} [201] 0))] : List Action) ++
    confirmedChecks lateJob 31 [43, 44, 45] 0 ++
    ([.readGate lateJob 0, .requeueStaleJobs [300] (fun _ => 0) (2 * second),
    .ticket (.queue (.claimJob "v" 1000 {} [201] (100 * second)))] : List Action) ++
    confirmedChecks nextJob 32 [] (100 * second) ++
    ([.readGate nextJob (100 * second), .answerGate nextJob (.oneFix false) 50 (100 * second)] : List Action)

def lastTransaction : Action :=
  .finish nextJob ⟨⟨101, 301, 302, 303⟩, 304, 100 * second, 100 * second, 100 * second⟩

theorem gateHolds_run_askedTwice :
    (machine nearSettings).Guarded (fun s a => Repeats s a) .empty askedTwice ∧
      GateHolds nearSettings ((machine nearSettings).run .empty askedTwice)
        ((machine nearSettings).run .empty (askedTwice ++ [lastTransaction])) :=
  have repeats : (machine nearSettings).Guarded (fun s a => Repeats s a) .empty askedTwice := by
    decide +kernel
  ⟨repeats, gateHolds_run nearSettings repeats lastTransaction⟩

/-- The answer of the first execution comes late, and says that it is the same problem. -/
def answeredLate : List Action :=
  askedTwice ++ [Action.answerGate lateJob (.oneFix true) 51 (101 * second)]

/-- The second execution publishes the ticket past that answer. -/
theorem published_past_duplicate : ¬∀ (c : ConfirmSettings) (actions : List Action) (a : Action),
    GateHolds c ((machine c).run .empty actions) ((machine c).run .empty (actions ++ [a])) := by
  intro holds
  have ends : ∀ t ∈ ((machine nearSettings).run .empty answeredLate).store.tickets.rows,
      ∀ t' ∈ ((machine nearSettings).run .empty (answeredLate ++ [lastTransaction])).store.tickets.rows,
      t'.id = t.id → t.status.Classified → t.foldRetries < foldRetryLimit →
      t'.status = .published → ∀ n ∈ publishedNeighbors nearSettings
        ((machine nearSettings).run .empty answeredLate).store t,
      latestGateDecision ((machine nearSettings).run .empty (answeredLate ++ [lastTransaction])) t.id
        n.id = some false :=
    fun t member t' member' own waits retries =>
      (holds nearSettings answeredLate lastTransaction t member t' member' own waits retries).published
  revert ends
  decide +kernel

end Example

end Opslane.Tickets.Confirmations
