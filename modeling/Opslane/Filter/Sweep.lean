import Mathlib.Algebra.Order.BigOperators.Group.List
import Opslane.Filter.Staleness

/-!
# The filter's sweep

`Tick` of `packages/ingestion/filter/dispatch.go` over the projects of an installation, while no
event settles and no round opens or closes. A tick evaluates the oldest 500 stale rounds. An
evaluation that repeats the latest decision of its round appends nothing, so the decision stays
older than the evidence it has now read and the round stays stale: it is returned by every tick,
and 500 such rounds keep the batch from all the others.
-/

namespace Opslane.Filter.Sweep

open Latest (latest latest_eq_some latest_spec)
open Identity (IssueEpisode)
open Staleness (latestDecision_spec)

/-- The stores of the projects. -/
structure Fleet where
  projects : List UUID
  distinct : projects.Nodup
  store : UUID → FilterStore

/-- `episodeRef` -/
structure EpisodeRef where
  projectID : UUID
  episode : IssueEpisode
  deriving DecidableEq

def EpisodeRef.key (ref : EpisodeRef) : UUID × UUID := (ref.projectID, ref.episode.id)

/-- `ORDER BY ep.opened_at, ep.id` -/
def EpisodeRef.openedBefore (a b : EpisodeRef) : Prop := Filter.openedBefore a.episode b.episode

instance : DecidableRel EpisodeRef.openedBefore := fun a b =>
  inferInstanceAs (Decidable (Filter.openedBefore a.episode b.episode))

/-- The times of one tick: when it closes and lists, the process's time and the transaction's in
the evaluation of each round, and its end. -/
structure Times where
  listed : Timestamp
  clock : UUID → Timestamp
  now : UUID → Timestamp
  ended : Timestamp
  clock_le (id : UUID) : listed ≤ clock id
  now_le (id : UUID) : listed ≤ now id ∧ now id ≤ ended

namespace Fleet

/-- The rounds of all projects. -/
def refs (f : Fleet) : List EpisodeRef :=
  f.projects.flatMap fun p => (f.store p).identity.episodes.rows.map (⟨p, ·⟩)

def stale (f : Fleet) (now : Timestamp) : List EpisodeRef :=
  f.refs.filter fun ref => Stale (f.store ref.projectID) now ref.episode

def staleEpisodes (f : Fleet) (now : Timestamp) : List EpisodeRef :=
  ((f.stale now).insertionSort EpisodeRef.openedBefore).take sweepBatchLimit

def evaluate (t : Times) (f : Fleet) (ref : EpisodeRef) : Fleet :=
  { f with
    store := Function.update f.store ref.projectID
      (Transition.committed (f.store ref.projectID)
        (Evaluate (f.store ref.projectID) ref.episode.id (t.clock ref.episode.id)
          (t.now ref.episode.id))) }

def closeResolvedEpisodes (f : Fleet) (now : Timestamp) : Fleet :=
  { f with store := fun p => Filter.closeResolvedEpisodes (f.store p) now }

/-- `Tick`, as far as the evaluations. -/
def tick (f : Fleet) (t : Times) : Fleet :=
  let f := f.closeResolvedEpisodes t.listed
  (f.staleEpisodes t.listed).foldl (evaluate t) f

/-- The fleet after the first `k` ticks. -/
def after (f : Fleet) (ticks : Nat → Times) : Nat → Fleet
  | 0 => f
  | k + 1 => (f.after ticks k).tick (ticks k)

end Fleet

def repeats (f : Fleet) (t : Times) (ref : EpisodeRef) : Bool :=
  (latestDecision (f.store ref.projectID) ref.episode.id).any fun d =>
    d.Repeats (evaluateAt (f.store ref.projectID) ref.episode.id (t.clock ref.episode.id))

/-- The latest decision of the round is due for its liveness flip. -/
def FlipDue (f : Fleet) (now : Timestamp) (ref : EpisodeRef) : Prop :=
  ∃ d ∈ latestDecision (f.store ref.projectID) ref.episode.id,
    d.decidedAt < now - livenessWindow ∧ d.decision ≠ .inactive

/-- A round that is stale at some tick is evaluated within finitely many ticks, and one that has
been evaluated is not listed again before its liveness flip is due. -/
structure Drains (f : Fleet) (ticks : Nat → Times) : Prop where
  evaluated (m : Nat) (ref : EpisodeRef) :
    ref ∈ (f.after ticks m).stale (ticks m).listed →
      ∃ k, m ≤ k ∧ k ≤ m + 2 * f.refs.length ∧ ref ∈ (f.after ticks k).staleEpisodes (ticks k).listed
  once (j k : Nat) (ref : EpisodeRef) : j < k →
    ref ∈ (f.after ticks j).staleEpisodes (ticks j).listed →
      ref ∈ (f.after ticks k).staleEpisodes (ticks k).listed →
        FlipDue (f.after ticks k) (ticks k).listed ref

/-- No tick closes a round. -/
def NoneOver (s : Identity.Store) : Prop :=
  ∀ ep ∈ s.episodes.rows, ep.closedAt = none → ∀ g ∈ s.groups.find? ep.canonicalIssueID,
    g.status ≠ .resolved ∧ g.status ≠ .merged ∧ g.status ≠ .archived

/-- No open round is over, and what the store holds was written by `epoch`. -/
structure Quiet (s : FilterStore) (epoch : Timestamp) : Prop where
  noneOver : NoneOver s.identity
  created : ∀ e ∈ s.identity.events.rows, e.createdAt ≤ epoch
  settled : ∀ i ∈ s.identity.identities.rows, ∀ settledAt ∈ i.settledAt, settledAt ≤ epoch
  decided : ∀ d ∈ s.decisions, d.decidedAt ≤ epoch
  numbered : ∀ d ∈ s.decisions, d.id ≤ s.decisions.length

/-- No round repeats a decision that is older than an event of the round, and a full batch has a
round whose decision changes. -/
def Moves (f : Fleet) (t : Times) : Prop :=
  (∀ ref ∈ f.staleEpisodes t.listed, repeats f t ref →
    ∀ d ∈ latestDecision (f.store ref.projectID) ref.episode.id,
      ¬SettledSince (f.store ref.projectID) ref.episode.id d) ∧
  ((f.staleEpisodes t.listed).length = sweepBatchLimit →
    ∃ ref ∈ f.staleEpisodes t.listed, ¬repeats f t ref)

/-- What an evaluation leaves as the latest decision of its round. -/
inductive Redecided (old : Option IssueDecision) (answer : Decision) (floor : Nat) (now : Timestamp) :
    Option IssueDecision → Prop where
  | repeats (same : old.any fun d => d.Repeats answer) : Redecided old answer floor now old
  | appends (d : IssueDecision) (differs : ¬(old.any fun d => d.Repeats answer) = true)
      (fresh : floor < d.id) (answers : d.Repeats answer) (stamped : d.decidedAt = now) :
    Redecided old answer floor now (some d)

theorem latestDecision_cons {s s' : FilterStore} {row : IssueDecision}
    (decisions : s'.decisions = row :: s.decisions)
    (numbered : ∀ d ∈ s.decisions, d.id < row.id)
    (stamped : ∀ d ∈ s.decisions, d.episodeID = row.episodeID → d.decidedAt ≤ row.decidedAt) :
    latestDecision s' row.episodeID = some row ∧
      ∀ id, id ≠ row.episodeID → latestDecision s' id = latestDecision s id := by
  constructor
  · refine latest_eq_some ?_ ?_ ?_
    · rw [decisionsOf, decisions]
      exact List.mem_filter.mpr ⟨List.mem_cons_self, by simp⟩
    · intro d member
      rw [decisionsOf, decisions] at member
      obtain ⟨member, own⟩ := List.mem_filter.mp member
      rcases List.mem_cons.mp member with rfl | old
      · exact le_refl _
      · have below := stamped d old (of_decide_eq_true own)
        rw [IssueDecision.order, IssueDecision.order, Prod.Lex.toLex_le_toLex]
        rcases lt_or_eq_of_le below with less | same
        · exact Or.inl less
        · exact Or.inr ⟨same, le_of_lt (numbered d old)⟩
    · intro d member same
      rw [decisionsOf, decisions] at member
      obtain ⟨member, -⟩ := List.mem_filter.mp member
      rcases List.mem_cons.mp member with rfl | old
      · rfl
      · have ids : d.id = row.id := congrArg (fun order => (ofLex order).2) same
        exact absurd ids (Nat.ne_of_lt (numbered d old))
  · intro id other
    rw [latestDecision, latestDecision, decisionsOf, decisionsOf, decisions,
      List.filter_cons_of_neg (by simpa using Ne.symm other)]

/-- The store after ticks, from the store before them: only decisions were appended, each the
answer of an evaluation since `epoch`. -/
structure Kept (base s : FilterStore) (epoch now : Timestamp) : Prop where
  rest : s = { base with decisions := s.decisions, evaluations := s.evaluations }
  floor : base.decisions.length ≤ s.decisions.length
  numbered : ∀ d ∈ s.decisions, d.id ≤ s.decisions.length
  decided : ∀ d ∈ s.decisions, d.decidedAt ≤ now
  fresh : ∀ d ∈ s.decisions, base.decisions.length < d.id →
    d.ruleVersion = RuleVersion ∧ epoch ≤ d.decidedAt ∧
      ∃ clock, epoch ≤ clock ∧ d.Repeats (evaluateAt base d.episodeID clock)

theorem Kept.evaluateAt_eq {base s : FilterStore} {epoch now : Timestamp} (kept : Kept base s epoch now)
    (id : UUID) (clock : Timestamp) : evaluateAt s id clock = evaluateAt base id clock := by
  rw [kept.rest]
  rfl

theorem Kept.evaluate {base s : FilterStore} {epoch last : Timestamp} (kept : Kept base s epoch last)
    {ep : IssueEpisode} (present : ep ∈ base.identity.episodes.rows) {clock now : Timestamp}
    (begun : epoch ≤ clock) (since : epoch ≤ now) (before : now ≤ last)
    (own : ∀ d ∈ s.decisions, d.episodeID = ep.id → d.decidedAt ≤ now) :
    let s' := Transition.committed s (Evaluate s ep.id clock now)
    Kept base s' epoch last ∧
      Redecided (latestDecision s ep.id) (evaluateAt base ep.id clock) base.decisions.length now
        (latestDecision s' ep.id) ∧
      (∀ id, id ≠ ep.id → latestDecision s' id = latestDecision s id) ∧
      ∀ d ∈ s'.decisions, d ∈ s.decisions ∨ d.episodeID = ep.id := by
  have known : (s.identity.episodes.table.find? ep.id).isNone = false := by
    have found : s.identity.episodes.table.find? ep.id = some ep := by
      rw [kept.rest]
      exact base.identity.episodes.table.find?_key present
    rw [found]
    rfl
  have answer := kept.evaluateAt_eq ep.id clock
  unfold Evaluate appendIfChanged
  rw [known, answer]
  dsimp only [Bool.false_eq_true, if_false, Transition.committed]
  rw [if_neg Bool.false_ne_true]
  by_cases same : ((latestDecision s ep.id).any fun d => d.Repeats (evaluateAt base ep.id clock)) = true
  · rw [if_pos same]
    refine ⟨?_, .repeats same, fun _ _ => rfl, fun d old => Or.inl old⟩
    exact { rest := by rw [kept.rest]
            floor := kept.floor
            numbered := kept.numbered
            decided := kept.decided
            fresh := kept.fresh }
  · rw [if_neg same]
    generalize written : ({ id := s.decisions.length + 1
                            episodeID := ep.id
                            decision := (evaluateAt base ep.id clock).outcome
                            reason := (evaluateAt base ep.id clock).reason
                            users7d := (evaluateAt base ep.id clock).users7d
                            anon7d := (evaluateAt base ep.id clock).anon7d
                            ruleVersion := RuleVersion
                            decidedAt := now } : IssueDecision) = row
    have number : row.id = s.decisions.length + 1 := by rw [← written]
    have round : row.episodeID = ep.id := by rw [← written]
    have stamp : row.decidedAt = now := by rw [← written]
    have answers : row.Repeats (evaluateAt base ep.id clock) := by
      rw [← written]
      exact ⟨rfl, rfl, rfl, rfl, rfl⟩
    have later := fun s' decisions => @latestDecision_cons s s' row decisions
      (fun d member => number ▸ Nat.lt_succ_of_le (kept.numbered d member))
      (fun d member same => stamp ▸ own d member (same.trans round))
    rw [round] at later
    rw [Option.toList_some, List.singleton_append]
    generalize appended : ({ s with decisions := row :: s.decisions, evaluations := _ } : FilterStore) = s'
    obtain ⟨here, others⟩ := later s' (by rw [← appended])
    subst appended
    refine ⟨?_, ?_, others, ?_⟩
    · refine { rest := by rw [kept.rest]
               floor := Nat.le_succ_of_le kept.floor
               numbered := ?_
               decided := ?_
               fresh := ?_ }
      · intro d member
        rcases List.mem_cons.mp member with rfl | old
        · exact Nat.le_of_eq number
        · exact Nat.le_succ_of_le (kept.numbered d old)
      · intro d member
        rcases List.mem_cons.mp member with rfl | old
        · exact stamp ▸ before
        · exact kept.decided d old
      · intro d member later
        rcases List.mem_cons.mp member with rfl | old
        · rw [round]
          exact ⟨answers.2.2.2.2, stamp ▸ since, clock, begun, answers⟩
        · exact kept.fresh d old later
    · rw [here]
      exact .appends row same (number ▸ Nat.lt_succ_of_le kept.floor) answers stamp
    · intro d member
      rcases List.mem_cons.mp member with rfl | old
      · exact Or.inr round
      · exact Or.inl old

/-- The fleet after ticks, from the fleet before them. -/
structure AllKept (base f : Fleet) (epoch now : Timestamp) : Prop where
  projects : f.projects = base.projects
  stores (p : UUID) : Kept (base.store p) (f.store p) epoch now

theorem Kept.mono {base s : FilterStore} {epoch now later : Timestamp} (kept : Kept base s epoch now)
    (le : now ≤ later) : Kept base s epoch later :=
  { kept with decided := fun d member => (kept.decided d member).trans le }

theorem Fleet.evaluate_of_ne (t : Times) (f : Fleet) (ref : EpisodeRef) {p : UUID}
    (other : p ≠ ref.projectID) : (f.evaluate t ref).store p = f.store p :=
  Function.update_of_ne other ..

theorem evaluateAll_spec {base : Fleet} {epoch : Timestamp} (t : Times) (begun : epoch ≤ t.listed)
    (refs : List EpisodeRef) (distinct : (refs.map EpisodeRef.key).Nodup)
    (known : ∀ ref ∈ refs, ref.episode ∈ (base.store ref.projectID).identity.episodes.rows)
    {f : Fleet} (kept : AllKept base f epoch t.ended)
    (own : ∀ ref ∈ refs, ∀ d ∈ (f.store ref.projectID).decisions, d.episodeID = ref.episode.id →
      d.decidedAt ≤ t.listed) :
    AllKept base (refs.foldl (Fleet.evaluate t) f) epoch t.ended ∧
      (∀ ref ∈ refs, Redecided (latestDecision (f.store ref.projectID) ref.episode.id)
        (evaluateAt (base.store ref.projectID) ref.episode.id (t.clock ref.episode.id))
        (base.store ref.projectID).decisions.length (t.now ref.episode.id)
        (latestDecision ((refs.foldl (Fleet.evaluate t) f).store ref.projectID) ref.episode.id)) ∧
      ∀ p id, (p, id) ∉ refs.map EpisodeRef.key →
        latestDecision ((refs.foldl (Fleet.evaluate t) f).store p) id = latestDecision (f.store p) id := by
  induction refs generalizing f with
  | nil => exact ⟨kept, nofun, fun _ _ _ => rfl⟩
  | cons ref rest ih =>
    obtain ⟨first, distinct⟩ := List.nodup_cons.mp distinct
    have stamps := t.now_le ref.episode.id
    obtain ⟨keeps, redecided, others, added⟩ := (kept.stores ref.projectID).evaluate
      (known ref List.mem_cons_self) (begun.trans (t.clock_le ref.episode.id)) (begun.trans stamps.1)
      stamps.2 fun d member same => (own ref List.mem_cons_self d member same).trans stamps.1
    have here : (f.evaluate t ref).store ref.projectID = Transition.committed (f.store ref.projectID)
        (Evaluate (f.store ref.projectID) ref.episode.id (t.clock ref.episode.id)
          (t.now ref.episode.id)) := Function.update_self ..
    rw [← here] at keeps redecided others added
    have kept' : AllKept base (f.evaluate t ref) epoch t.ended := by
      refine ⟨kept.projects, fun p => ?_⟩
      by_cases mine : p = ref.projectID
      · rw [mine]
        exact keeps
      · rw [f.evaluate_of_ne t ref mine]
        exact kept.stores p
    have aside : ∀ p id, (p, id) ≠ ref.key →
        latestDecision ((f.evaluate t ref).store p) id = latestDecision (f.store p) id := by
      intro p id other
      by_cases mine : p = ref.projectID
      · rw [mine]
        exact others id fun same => other (Prod.ext mine same)
      · rw [f.evaluate_of_ne t ref mine]
    have own' : ∀ r ∈ rest, ∀ d ∈ ((f.evaluate t ref).store r.projectID).decisions,
        d.episodeID = r.episode.id → d.decidedAt ≤ t.listed := by
      intro r member d held same
      by_cases mine : r.projectID = ref.projectID
      · rw [mine] at held
        rcases added d held with old | round
        · exact own r (List.mem_cons_of_mem _ member) d (mine ▸ old) same
        · have keys : r.key = ref.key := Prod.ext mine (same.symm.trans round)
          exact absurd (keys ▸ List.mem_map_of_mem member) first
      · rw [f.evaluate_of_ne t ref mine] at held
        exact own r (List.mem_cons_of_mem _ member) d held same
    obtain ⟨keptAll, redecidedAll, asideAll⟩ := ih distinct
      (fun r member => known r (List.mem_cons_of_mem _ member)) kept' own'
    refine ⟨keptAll, fun r member => ?_, fun p id free => ?_⟩
    · rcases List.mem_cons.mp member with rfl | later
      · rw [List.foldl_cons, asideAll _ _ first]
        exact redecided
      · have other : r.key ≠ ref.key := fun same => first (same ▸ List.mem_map_of_mem later)
        rw [← aside r.projectID r.episode.id other]
        exact redecidedAll r later
    · rw [List.map_cons, List.mem_cons, not_or] at free
      rw [List.foldl_cons, asideAll p id free.2, aside p id free.1]

theorem Fleet.refs_distinct (f : Fleet) : (f.refs.map EpisodeRef.key).Nodup := by
  rw [Fleet.refs, List.map_flatMap]
  simp only [List.map_map]
  refine List.nodup_flatMap.mpr ⟨fun p _ => ?_, ?_⟩
  · exact List.Nodup.of_map Prod.snd (by
      rw [List.map_map]
      exact (f.store p).identity.episodes.table.unique)
  · refine f.distinct.imp fun {p q} other => ?_
    intro key here there
    obtain ⟨_, -, rfl⟩ := List.mem_map.mp here
    obtain ⟨_, -, same⟩ := List.mem_map.mp there
    exact other (congrArg Prod.fst same).symm

theorem Fleet.mem_refs {f : Fleet} {ref : EpisodeRef} (member : ref ∈ f.refs) :
    ref.episode ∈ (f.store ref.projectID).identity.episodes.rows := by
  obtain ⟨p, -, here⟩ := List.mem_flatMap.mp member
  obtain ⟨ep, present, rfl⟩ := List.mem_map.mp here
  exact present

theorem Fleet.mem_stale_of_listed {f : Fleet} {now : Timestamp} {ref : EpisodeRef}
    (listed : ref ∈ f.staleEpisodes now) : ref ∈ f.stale now :=
  (List.mem_insertionSort EpisodeRef.openedBefore).mp (List.mem_of_mem_take listed)

theorem Fleet.staleEpisodes_distinct (f : Fleet) (now : Timestamp) :
    ((f.staleEpisodes now).map EpisodeRef.key).Nodup := by
  have sorted := (List.perm_insertionSort EpisodeRef.openedBefore (f.stale now)).map EpisodeRef.key
  have all : ((f.stale now).map EpisodeRef.key).Nodup :=
    f.refs_distinct.sublist (List.filter_sublist.map _)
  exact (sorted.nodup_iff.mpr all).sublist ((List.take_sublist _ _).map _)

theorem Fleet.listed_of_stale {f : Fleet} {now : Timestamp} {ref : EpisodeRef}
    (stale : ref ∈ f.stale now) :
    ref ∈ f.staleEpisodes now ∨ (f.staleEpisodes now).length = sweepBatchLimit := by
  have ordered := (List.mem_insertionSort EpisodeRef.openedBefore).mpr stale
  unfold Fleet.staleEpisodes
  generalize (f.stale now).insertionSort EpisodeRef.openedBefore = rows at ordered
  by_cases fits : rows.length ≤ sweepBatchLimit
  · rw [List.take_of_length_le fits]
    exact Or.inl ordered
  · refine Or.inr ?_
    rw [List.length_take]
    omega

theorem closeResolvedEpisodes_eq {s : FilterStore} (noneOver : NoneOver s.identity)
    (now : Timestamp) : Filter.closeResolvedEpisodes s now = s := by
  have none_ : ∀ ep ∈ s.identity.episodes.table.rows, decide (ep.closedAt = none ∧
      ((s.identity.groups.find? ep.canonicalIssueID).filter fun g =>
        g.status = .resolved ∨ g.status = .merged ∨ g.status = .archived).isSome) = false := by
    intro ep member
    refine decide_eq_false fun both => ?_
    obtain ⟨g, ended⟩ := Option.isSome_iff_exists.mp both.2
    obtain ⟨found, status⟩ := Option.filter_eq_some_iff.mp ended
    have live := noneOver ep member both.1 g found
    simp [live] at status
  unfold Filter.closeResolvedEpisodes Identity.Episodes.closeWhere
  dsimp only
  simp only [Table.updateWhere_none s.identity.episodes.table _ _ none_]

theorem AllKept.refs {base f : Fleet} {epoch now : Timestamp} (kept : AllKept base f epoch now) :
    f.refs = base.refs := by
  rw [Fleet.refs, Fleet.refs, kept.projects]
  congr 1
  funext p
  rw [(kept.stores p).rest]

theorem tick_spec {base f : Fleet} {epoch : Timestamp} (quiet : ∀ p, Quiet (base.store p) epoch)
    (t : Times) (begun : epoch ≤ t.listed) (kept : AllKept base f epoch t.listed) :
    AllKept base (f.tick t) epoch t.ended ∧
      (∀ ref ∈ f.staleEpisodes t.listed,
        Redecided (latestDecision (f.store ref.projectID) ref.episode.id)
          (evaluateAt (base.store ref.projectID) ref.episode.id (t.clock ref.episode.id))
          (base.store ref.projectID).decisions.length (t.now ref.episode.id)
          (latestDecision ((f.tick t).store ref.projectID) ref.episode.id)) ∧
      ∀ ref ∈ base.refs, ref ∉ f.staleEpisodes t.listed →
        latestDecision ((f.tick t).store ref.projectID) ref.episode.id =
          latestDecision (f.store ref.projectID) ref.episode.id := by
  have unclosed : f.closeResolvedEpisodes t.listed = f := by
    unfold Fleet.closeResolvedEpisodes
    congr 1
    funext p
    refine closeResolvedEpisodes_eq ?_ _
    rw [(kept.stores p).rest]
    exact (quiet p).noneOver
  have ends := t.now_le 0
  have listed_refs : ∀ ref ∈ f.staleEpisodes t.listed, ref ∈ base.refs := fun ref listed =>
    kept.refs ▸ List.mem_of_mem_filter (Fleet.mem_stale_of_listed listed)
  obtain ⟨keeps, redecided, aside⟩ := evaluateAll_spec t begun (f.staleEpisodes t.listed)
    (f.staleEpisodes_distinct t.listed)
    (fun ref listed => Fleet.mem_refs (listed_refs ref listed))
    ⟨kept.projects, fun p => (kept.stores p).mono (ends.1.trans ends.2)⟩
    fun ref _ d member _ => (kept.stores ref.projectID).decided d member
  unfold Fleet.tick
  rw [unclosed]
  refine ⟨keeps, redecided, fun ref member unlisted => aside _ _ fun key => ?_⟩
  obtain ⟨other, listed, same⟩ := List.mem_map.mp key
  have alone := List.inj_on_of_nodup_map base.refs_distinct (listed_refs other listed) member same
  exact unlisted (alone ▸ listed)

/-- How often the decision of a round can still change: once to be fresh and, from a decision that
is not inactive, once more. -/
def phase (floor : Nat) : Option IssueDecision → Nat
  | none => 2
  | some d => if floor < d.id then if d.decision = .inactive then 0 else 1 else 2

theorem phase_le_two (floor : Nat) (latest : Option IssueDecision) : phase floor latest ≤ 2 := by
  unfold phase
  split
  · exact le_refl 2
  · split_ifs <;> decide

theorem episodeEvents_past {s : FilterStore} {epoch : Timestamp} (quiet : Quiet s epoch) (id : UUID)
    {clock : Timestamp} (since : epoch ≤ clock) :
    ((episodeEvents s id).filter fun e => e.inScope ∧ e.createdAt ≤ clock) =
      (episodeEvents s id).filter fun e => e.inScope := by
  refine List.filter_congr fun e member => ?_
  obtain ⟨i, -, found⟩ := List.mem_filterMap.mp member
  obtain ⟨event, stored, rfl⟩ := Option.map_eq_some_iff.mp found
  have created := quiet.created event (Table.mem_of_find? stored)
  simp [created.trans since]

theorem evaluateAt_week {s : FilterStore} {epoch : Timestamp} (quiet : Quiet s epoch) (id : UUID)
    {earlier clock : Timestamp} (since : epoch ≤ earlier) (week : epoch < clock - livenessWindow) :
    (evaluateAt s id clock).outcome = .inactive ∨ evaluateAt s id clock = evaluateAt s id earlier := by
  have past : epoch ≤ clock := le_of_lt (week.trans (Int.sub_lt_self clock (by decide)))
  unfold evaluateAt loadEpisodeFacts
  dsimp only
  rw [episodeEvents_past quiet id past, episodeEvents_past quiet id since]
  have created : ∀ e ∈ (episodeEvents s id).filter (fun e => e.inScope), e.createdAt ≤ epoch := by
    intro e member
    obtain ⟨i, -, found⟩ := List.mem_filterMap.mp (List.mem_of_mem_filter member)
    obtain ⟨event, stored, rfl⟩ := Option.map_eq_some_iff.mp found
    exact quiet.created event (Table.mem_of_find? stored)
  generalize (episodeEvents s id).filter (fun e => e.inScope) = events at created
  cases events with
  | nil => exact Or.inr rfl
  | cons e rest =>
    refine Or.inl ?_
    rw [if_neg (by simp)]
    cases last : ((e :: rest).map EpisodeEvent.createdAt).max? with
    | none => rfl
    | some lastSeen =>
      obtain ⟨event, member, rfl⟩ := List.mem_map.mp (List.max?_mem last)
      dsimp only
      rw [if_pos (lt_of_le_of_lt (created event member) week)]

theorem Kept.identity {base s : FilterStore} {epoch now : Timestamp} (kept : Kept base s epoch now) :
    s.identity = base.identity := by
  rw [kept.rest]

theorem settledSince_congr {s s' : FilterStore} (same : s.identity = s'.identity) (id : UUID)
    (d : IssueDecision) : SettledSince s id d ↔ SettledSince s' id d := by
  unfold SettledSince
  rw [same]

theorem not_settledSince {s : FilterStore} {epoch : Timestamp} (quiet : Quiet s epoch) {id : UUID}
    {d : IssueDecision} (since : epoch ≤ d.decidedAt) : ¬SettledSince s id d := by
  rintro ⟨i, present, -, -, later⟩
  obtain ⟨settledAt, stamped, after⟩ := (Option.any_eq_true ..).mp later
  exact absurd (of_decide_eq_true after)
    (not_lt_of_ge ((quiet.settled i present settledAt stamped).trans since))

theorem Kept.due_of_outdated {base s : FilterStore} {epoch last now : Timestamp}
    (kept : Kept base s epoch last) (quiet : Quiet base epoch) {id : UUID} {d : IssueDecision}
    (found : latestDecision s id = some d) (fresh : base.decisions.length < d.id)
    (outdated : d.Outdated s now) : d.decidedAt < now - livenessWindow ∧ d.decision ≠ .inactive := by
  obtain ⟨rule, since, -⟩ := kept.fresh d (latestDecision_spec found).1 fresh
  rcases outdated with old | due | settled
  · exact absurd old (by rw [rule]; exact lt_irrefl _)
  · exact due
  · exact absurd ((settledSince_congr kept.identity ..).mp settled) (not_settledSince quiet since)

theorem phase_redecided {base s : FilterStore} {epoch : Timestamp} {ep : IssueEpisode} {t : Times}
    (quiet : Quiet base epoch) (kept : Kept base s epoch t.listed) (stale : Stale s t.listed ep)
    {new : Option IssueDecision}
    (redecided : Redecided (latestDecision s ep.id) (evaluateAt base ep.id (t.clock ep.id))
      base.decisions.length (t.now ep.id) new)
    (differs : ¬((latestDecision s ep.id).any fun d =>
      d.Repeats (evaluateAt base ep.id (t.clock ep.id))) = true) :
    phase base.decisions.length new < phase base.decisions.length (latestDecision s ep.id) := by
  have outdated := stale.2.2
  cases redecided with
  | repeats same => exact absurd same differs
  | appends d _ fresh answers stamped =>
    have atMost : (if d.decision = FilterOutcome.inactive then 0 else 1) < 2 := by
      split_ifs <;> decide
    rw [phase, if_pos fresh]
    cases found : latestDecision s ep.id with
    | none => exact atMost
    | some o =>
      rw [phase]
      by_cases old : base.decisions.length < o.id
      · rw [found, Option.all_some, decide_eq_true_eq] at outdated
        obtain ⟨due, active⟩ := kept.due_of_outdated quiet found old outdated
        obtain ⟨held, round⟩ := latestDecision_spec found
        obtain ⟨-, since, earlier, begun, said⟩ := kept.fresh o held old
        have week : epoch < t.clock ep.id - livenessWindow :=
          lt_of_le_of_lt since (lt_of_lt_of_le due (Int.sub_le_sub_right (t.clock_le _) _))
        rw [if_pos old, if_neg active]
        rcases evaluateAt_week quiet ep.id begun week with inactive | same
        · rw [if_pos (answers.1.trans inactive)]
          exact Nat.zero_lt_one
        · rw [round] at said
          refine absurd ?_ differs
          rw [found, Option.any_some, same]
          exact decide_eq_true said
      · rw [if_neg old]
        exact atMost

/-- The changes that are left to the rounds of the fleet. -/
def remaining (base f : Fleet) : Nat :=
  (base.refs.map fun ref => phase (base.store ref.projectID).decisions.length
    (latestDecision (f.store ref.projectID) ref.episode.id)).sum

theorem remaining_le (base f : Fleet) : remaining base f ≤ 2 * base.refs.length := by
  have bound := List.sum_le_card_nsmul (base.refs.map fun ref =>
    phase (base.store ref.projectID).decisions.length
      (latestDecision (f.store ref.projectID) ref.episode.id)) 2 (by
        intro n member
        obtain ⟨ref, -, rfl⟩ := List.mem_map.mp member
        exact phase_le_two ..)
  rw [List.length_map] at bound
  exact bound.trans (Nat.le_of_eq (Nat.mul_comm ..))

/-- A tick begins after the one before it, and the first one after `epoch`. -/
structure Ordered (epoch : Timestamp) (ticks : Nat → Times) : Prop where
  first : epoch ≤ (ticks 0).listed
  next (k : Nat) : (ticks k).ended ≤ (ticks (k + 1)).listed

theorem Ordered.since {epoch : Timestamp} {ticks : Nat → Times} (ordered : Ordered epoch ticks)
    (k : Nat) : epoch ≤ (ticks k).listed := by
  induction k with
  | zero => exact ordered.first
  | succ k ih =>
    have within := (ticks k).now_le 0
    exact ih.trans ((within.1.trans within.2).trans (ordered.next k))

theorem kept_base {base : FilterStore} {epoch now : Timestamp} (quiet : Quiet base epoch)
    (since : epoch ≤ now) : Kept base base epoch now where
  rest := rfl
  floor := le_refl _
  numbered := quiet.numbered
  decided d member := (quiet.decided d member).trans since
  fresh d member later := absurd (quiet.numbered d member) (Nat.not_le_of_lt later)

theorem kept_after {base : Fleet} {epoch : Timestamp} {ticks : Nat → Times}
    (quiet : ∀ p, Quiet (base.store p) epoch) (ordered : Ordered epoch ticks) (k : Nat) :
    AllKept base (base.after ticks k) epoch (ticks k).listed := by
  induction k with
  | zero => exact ⟨rfl, fun p => kept_base (quiet p) ordered.first⟩
  | succ k ih =>
    have ticked := (tick_spec quiet (ticks k) (ordered.since k) ih).1
    exact ⟨ticked.projects, fun p => (ticked.stores p).mono (ordered.next k)⟩

theorem stale_later {s s' : FilterStore} {ep : IssueEpisode} {now later : Timestamp}
    (stale : Stale s now ep) (same : s.identity = s'.identity)
    (unread : latestDecision s' ep.id = latestDecision s ep.id) (le : now ≤ later) :
    Stale s' later ep := by
  refine ⟨stale.1, same ▸ stale.2.1, ?_⟩
  rw [unread]
  cases found : latestDecision s ep.id with
  | none => rfl
  | some d =>
    have outdated := stale.2.2
    rw [found, Option.all_some, decide_eq_true_eq] at outdated
    rw [Option.all_some, decide_eq_true_eq]
    rcases outdated with old | due | settled
    · exact Or.inl old
    · exact Or.inr (Or.inl ⟨lt_of_lt_of_le due.1 (Int.sub_le_sub_right le _), due.2⟩)
    · exact Or.inr (Or.inr ((settledSince_congr same ..).mp settled))

theorem stale_next {base : Fleet} {epoch : Timestamp} {ticks : Nat → Times}
    (quiet : ∀ p, Quiet (base.store p) epoch) (ordered : Ordered epoch ticks) {m : Nat}
    {ref : EpisodeRef} (stale : ref ∈ (base.after ticks m).stale (ticks m).listed)
    (unlisted : ref ∉ (base.after ticks m).staleEpisodes (ticks m).listed) :
    ref ∈ (base.after ticks (m + 1)).stale (ticks (m + 1)).listed := by
  have kept := kept_after quiet ordered m
  have kept' := kept_after quiet ordered (m + 1)
  obtain ⟨member, outdated⟩ := List.mem_filter.mp stale
  rw [kept.refs] at member
  have listed : ref ∈ (base.after ticks (m + 1)).refs := by
    rw [kept'.refs]
    exact member
  refine List.mem_filter.mpr ⟨listed, decide_eq_true ?_⟩
  have unread := (tick_spec quiet (ticks m) (ordered.since m) kept).2.2 ref member unlisted
  have within := (ticks m).now_le 0
  exact stale_later (of_decide_eq_true outdated)
    ((kept.stores _).identity.trans (kept'.stores _).identity.symm) unread
    ((within.1.trans within.2).trans (ordered.next m))

theorem remaining_tick {base : Fleet} {epoch : Timestamp} {ticks : Nat → Times}
    (quiet : ∀ p, Quiet (base.store p) epoch) (ordered : Ordered epoch ticks) {m : Nat}
    {ref : EpisodeRef} (listed : ref ∈ (base.after ticks m).staleEpisodes (ticks m).listed)
    (changes : ¬repeats (base.after ticks m) (ticks m) ref) :
    remaining base (base.after ticks (m + 1)) < remaining base (base.after ticks m) := by
  have kept := kept_after quiet ordered m
  obtain ⟨-, redecided, aside⟩ := tick_spec quiet (ticks m) (ordered.since m) kept
  have drops : ∀ r ∈ (base.after ticks m).staleEpisodes (ticks m).listed,
      ¬repeats (base.after ticks m) (ticks m) r →
        phase (base.store r.projectID).decisions.length
            (latestDecision ((base.after ticks (m + 1)).store r.projectID) r.episode.id) <
          phase (base.store r.projectID).decisions.length
            (latestDecision ((base.after ticks m).store r.projectID) r.episode.id) := by
    intro r listed changes
    have stale := of_decide_eq_true (List.mem_filter.mp (Fleet.mem_stale_of_listed listed)).2
    rw [repeats, (kept.stores r.projectID).evaluateAt_eq] at changes
    exact phase_redecided (quiet _) (kept.stores _) stale (redecided r listed) changes
  refine List.sum_lt_sum _ _ (fun r member => ?_) ⟨ref, ?_, drops ref listed changes⟩
  · by_cases chosen : r ∈ (base.after ticks m).staleEpisodes (ticks m).listed
    · by_cases same : repeats (base.after ticks m) (ticks m) r
      · rw [repeats, (kept.stores r.projectID).evaluateAt_eq] at same
        refine le_of_eq (congrArg _ ?_)
        have after := redecided r chosen
        rw [Fleet.after]
        generalize latestDecision (((base.after ticks m).tick (ticks m)).store r.projectID)
          r.episode.id = new at after
        cases after with
        | repeats _ => rfl
        | appends _ differs => exact absurd same differs
      · exact le_of_lt (drops r chosen same)
    · exact le_of_eq (congrArg _ (aside r member chosen))
  · exact kept.refs ▸ List.mem_of_mem_filter (Fleet.mem_stale_of_listed listed)

theorem evaluated_within {base : Fleet} {epoch : Timestamp} {ticks : Nat → Times}
    (quiet : ∀ p, Quiet (base.store p) epoch) (ordered : Ordered epoch ticks)
    (moves : ∀ k, Moves (base.after ticks k) (ticks k)) (ref : EpisodeRef) (n m : Nat)
    (left : remaining base (base.after ticks m) ≤ n)
    (stale : ref ∈ (base.after ticks m).stale (ticks m).listed) :
    ∃ k, m ≤ k ∧ k ≤ m + n ∧ ref ∈ (base.after ticks k).staleEpisodes (ticks k).listed := by
  induction n generalizing m with
  | zero =>
    by_cases listed : ref ∈ (base.after ticks m).staleEpisodes (ticks m).listed
    · exact ⟨m, le_refl m, le_refl m, listed⟩
    · obtain ⟨r, chosen, changes⟩ := (moves m).2 ((Fleet.listed_of_stale stale).resolve_left listed)
      have fewer := remaining_tick quiet ordered chosen changes
      omega
  | succ n ih =>
    by_cases listed : ref ∈ (base.after ticks m).staleEpisodes (ticks m).listed
    · exact ⟨m, le_refl m, Nat.le_add_right m _, listed⟩
    · obtain ⟨r, chosen, changes⟩ := (moves m).2 ((Fleet.listed_of_stale stale).resolve_left listed)
      have fewer := remaining_tick quiet ordered chosen changes
      obtain ⟨k, after, within, found⟩ := ih (m + 1) (by omega) (stale_next quiet ordered stale listed)
      exact ⟨k, by omega, by omega, found⟩

/-- The latest decision of the round stands until its flip. -/
def Stands (base f : Fleet) (ref : EpisodeRef) : Prop :=
  ∃ d, latestDecision (f.store ref.projectID) ref.episode.id = some d ∧ d.ruleVersion = RuleVersion ∧
    ¬SettledSince (base.store ref.projectID) ref.episode.id d

theorem stands_of_redecided {base : FilterStore} {epoch : Timestamp} {ep : IssueEpisode}
    {t : Times} (quiet : Quiet base epoch) (begun : epoch ≤ t.listed) {old new : Option IssueDecision}
    (redecided : Redecided old (evaluateAt base ep.id (t.clock ep.id)) base.decisions.length
      (t.now ep.id) new)
    (current : ∀ d ∈ old, d.Repeats (evaluateAt base ep.id (t.clock ep.id)) → ¬SettledSince base ep.id d) :
    ∃ d, new = some d ∧ d.ruleVersion = RuleVersion ∧ ¬SettledSince base ep.id d := by
  cases redecided with
  | repeats same =>
    obtain ⟨d, held, repeated⟩ := (Option.any_eq_true ..).mp same
    have answers := of_decide_eq_true repeated
    exact ⟨d, held, answers.2.2.2.2, current d held answers⟩
  | appends d _ _ answers stamped =>
    refine ⟨d, rfl, answers.2.2.2.2, not_settledSince quiet ?_⟩
    rw [stamped]
    exact begun.trans (t.now_le ep.id).1

theorem stands_after {base : Fleet} {epoch : Timestamp} {ticks : Nat → Times}
    (quiet : ∀ p, Quiet (base.store p) epoch) (ordered : Ordered epoch ticks)
    (moves : ∀ k, Moves (base.after ticks k) (ticks k)) {j : Nat} {ref : EpisodeRef}
    (listed : ref ∈ (base.after ticks j).staleEpisodes (ticks j).listed) (n : Nat) :
    Stands base (base.after ticks (j + n + 1)) ref := by
  have known := List.mem_of_mem_filter (Fleet.mem_stale_of_listed listed)
  have evaluates : ∀ k, ref ∈ (base.after ticks k).staleEpisodes (ticks k).listed →
      Stands base (base.after ticks (k + 1)) ref := by
    intro k chosen
    have kept := kept_after quiet ordered k
    have redecided := (tick_spec quiet (ticks k) (ordered.since k) kept).2.1 ref chosen
    refine stands_of_redecided (quiet _) (ordered.since k) redecided fun d held answers settled => ?_
    refine (moves k).1 ref chosen ?_ d held ((settledSince_congr (kept.stores _).identity ..).mpr settled)
    rw [repeats, (kept.stores ref.projectID).evaluateAt_eq, held, Option.any_some]
    exact decide_eq_true answers
  induction n with
  | zero => exact evaluates j listed
  | succ n ih =>
    rw [← Nat.add_assoc]
    by_cases chosen : ref ∈ (base.after ticks (j + n + 1)).staleEpisodes (ticks (j + n + 1)).listed
    · exact evaluates _ chosen
    · have kept := kept_after quiet ordered (j + n + 1)
      have member : ref ∈ base.refs := (kept_after quiet ordered j).refs ▸ known
      have unread := (tick_spec quiet _ (ordered.since _) kept).2.2 ref member chosen
      obtain ⟨d, held, rest⟩ := ih
      rw [Fleet.after, Stands, unread]
      exact ⟨d, held, rest⟩

/-- The sweep drains where no evaluation repeats a decision older than its evidence and no full
batch repeats all its decisions. -/
theorem sweep_drains {base : Fleet} {epoch : Timestamp} {ticks : Nat → Times}
    (quiet : ∀ p, Quiet (base.store p) epoch) (ordered : Ordered epoch ticks)
    (moves : ∀ k, Moves (base.after ticks k) (ticks k)) : Drains base ticks where
  evaluated m ref stale :=
    evaluated_within quiet ordered moves ref _ m (remaining_le base _) stale
  once j k ref before listed again := by
    obtain ⟨n, rfl⟩ := Nat.exists_eq_add_of_lt before
    obtain ⟨d, held, rule, settled⟩ := stands_after quiet ordered moves listed n
    have kept := kept_after quiet ordered (j + n + 1)
    have outdated := (of_decide_eq_true (List.mem_filter.mp (Fleet.mem_stale_of_listed again)).2).2.2
    rw [held, Option.all_some, decide_eq_true_eq] at outdated
    rcases outdated with old | due | since
    · exact absurd old (by rw [rule]; exact lt_irrefl _)
    · exact ⟨d, held, due⟩
    · refine absurd ((settledSince_congr (kept.stores _).identity ..).mp since) ?_
      rw [(latestDecision_spec held).2]
      exact settled

theorem Fleet.tick_idle {f : Fleet} {t : Times} (noneOver : ∀ p, NoneOver (f.store p).identity)
    (idle : f.staleEpisodes t.listed = []) : f.tick t = f := by
  have unclosed : f.closeResolvedEpisodes t.listed = f := by
    unfold Fleet.closeResolvedEpisodes
    congr 1
    funext p
    exact closeResolvedEpisodes_eq (noneOver p) _
  unfold Fleet.tick
  rw [unclosed]
  dsimp only
  rw [idle, List.foldl_nil]

theorem fingerprint_ne_empty : "fingerprint" ≠ "" := by decide

/-- An event of the one user, settled. -/
def reported (eventID : UUID) (now : Timestamp) : List Staleness.Action :=
  [.lifecycle (.identity (.capture eventID
      ⟨1, none, "TypeError", "x is undefined", "javascript", some 7, ⟨"fingerprint", fingerprint_ne_empty⟩⟩ now)),
    .lifecycle (.identity (.recordResolution eventID .noMap none now)),
    .lifecycle (.identity (.claim [] now)),
    Staleness.settleAt eventID 100 200 now]

def storeOf (actions : List Staleness.Action) : FilterStore :=
  (Staleness.machine fun _ => Vector.replicate 32 0).run (Staleness.start "acme/shop" none fun _ => none)
    actions

/-- One project. -/
def fleetOf (actions : List Staleness.Action) : Fleet where
  projects := [1]
  distinct := by decide
  store _ := storeOf actions

/-- A tick that takes no time. -/
def instant (now : Timestamp) : Times where
  listed := now
  clock _ := now
  now _ := now
  ended := now
  clock_le _ := le_refl _
  now_le _ := ⟨le_refl _, le_refl _⟩

theorem sweep_drains_once : Drains (fleetOf (reported 1 10)) fun _ => instant 60 := by
  have noneOver : NoneOver (storeOf (reported 1 10)).identity := by
    unfold NoneOver
    decide +kernel
  have idle : ((fleetOf (reported 1 10)).after (fun _ => instant 60) 1).staleEpisodes 60 = [] := by
    decide +kernel
  have quiet : Quiet (storeOf (reported 1 10)) 60 :=
    ⟨noneOver, by decide +kernel, by decide +kernel, by decide +kernel, by decide +kernel⟩
  have ordered : Ordered 60 fun _ => instant 60 := ⟨le_refl _, fun _ => le_refl _⟩
  have kept := @kept_after (fleetOf (reported 1 10)) _ _ (fun _ => quiet) ordered
  have settled : ∀ k, (fleetOf (reported 1 10)).after (fun _ => instant 60) (k + 1) =
      (fleetOf (reported 1 10)).after (fun _ => instant 60) 1 := by
    intro k
    induction k with
    | zero => rfl
    | succ k ih =>
      rw [Fleet.after, ih]
      refine Fleet.tick_idle (fun p => ?_) idle
      rw [((kept 1).stores p).identity]
      exact noneOver
  refine sweep_drains (fun _ => quiet) ordered fun k => ?_
  cases k with
  | zero =>
    have first : ∀ ref ∈ ((fleetOf (reported 1 10)).after (fun _ => instant 60) 0).staleEpisodes 60,
        ¬repeats ((fleetOf (reported 1 10)).after (fun _ => instant 60) 0) (instant 60) ref := by
      decide +kernel
    have few : (((fleetOf (reported 1 10)).after (fun _ => instant 60) 0).staleEpisodes 60).length ≠
        sweepBatchLimit := by decide +kernel
    exact ⟨fun ref listed same => absurd same (first ref listed), fun full => absurd full few⟩
  | succ k =>
    rw [settled k]
    refine ⟨fun ref listed => ?_, fun full => ?_⟩
    · rw [show (instant 60).listed = 60 from rfl, idle] at listed
      cases listed
    · rw [show (instant 60).listed = 60 from rfl, idle] at full
      cases full

def watched : List Staleness.Action :=
  reported 1 10 ++ [Staleness.Action.evaluate 200 20 20] ++ reported 2 30

/-- The round of a second event of the same user is listed for ever. -/
theorem sweep_relists : ¬∀ (base : Fleet) (epoch : Timestamp) (ticks : Nat → Times),
    (∀ p, Quiet (base.store p) epoch) → Ordered epoch ticks → Drains base ticks := by
  intro drains
  have quiet : Quiet (storeOf watched) 60 :=
    ⟨by unfold NoneOver; decide +kernel, by decide +kernel, by decide +kernel, by decide +kernel,
      by decide +kernel⟩
  have drained := drains (fleetOf watched) 60 (fun _ => instant 60) (fun _ => quiet)
    ⟨le_refl 60, fun _ => le_refl _⟩
  have again : ∃ ref ∈ ((fleetOf watched).after (fun _ => instant 60) 0).staleEpisodes 60,
      ref ∈ ((fleetOf watched).after (fun _ => instant 60) 1).staleEpisodes 60 ∧
      ∀ d ∈ latestDecision (((fleetOf watched).after (fun _ => instant 60) 1).store ref.projectID)
        ref.episode.id, ¬(d.decidedAt < 60 - livenessWindow ∧ d.decision ≠ .inactive) := by
    decide +kernel
  obtain ⟨ref, listed, relisted, standing⟩ := again
  obtain ⟨d, held, due⟩ := drained.once 0 1 ref Nat.zero_lt_one listed relisted
  exact standing d held due

end Opslane.Filter.Sweep
