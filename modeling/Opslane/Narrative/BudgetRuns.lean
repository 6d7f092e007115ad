import Opslane.Narrative.Budget

/-!
# The budget in every run

A call counts its session once, on the day its transaction began, and the counter of that day
is the number of sessions stamped on it. What carries this through the interleavings is what
a call knows while it holds its rows: the session has no stamp, and the count it is about to
commit is one more than the committed one.
-/

namespace Opslane.Narrative

open Transition (Machine)

/-- The sessions of the project that were stamped for the stage on the day. -/
def stampedOn (s : BudgetStore) (key : BudgetKey) : Nat :=
  s.narratives.rows.countP fun n => n.projectID = key.1 ∧ n.stamped key.2.2 = some key.2.1

/-- The row of the session is there, without a stamp. -/
def Unstamped (s : BudgetStore) (c : Call) : Prop :=
  ∃ n, s.narratives.find? c.sessionID = some n ∧ n.projectID = c.projectID ∧ n.stamped c.stage = none

/-- What a call knows at a phase of its transaction. -/
def Knows (cap : Int) (s : BudgetStore) (c : Call) : Phase → Prop
  | .begun => True
  | .unstamped => Unstamped s c
  | .present inserted => Unstamped s c ∧ (s.budget.find? c.key).isSome = !inserted
  | .counted inserted used | .stamped inserted used =>
    Unstamped s c ∧ (s.budget.find? c.key).isSome = !inserted ∧ used = s.used c.key + 1 ∧ used ≤ cap

structure Consistent (cap : Int) (s : BudgetStore) : Prop where
  counts : ∀ key, s.used key = stampedOn s key
  capped : ∀ b ∈ s.budget.rows, b.used ≤ cap
  knows : ∀ c ∈ s.calls.rows, Knows cap s c c.phase
  sessions : ∀ c ∈ s.calls.rows, ∀ c' ∈ s.calls.rows, c.LocksSession → c'.LocksSession →
    c.sessionID = c'.sessionID → c = c'
  counters : ∀ c ∈ s.calls.rows, ∀ c' ∈ s.calls.rows, c.LocksBudget → c'.LocksBudget →
    c.key = c'.key → c = c'

theorem consistent_empty (cap : Int) : Consistent cap .empty where
  counts _ := rfl
  capped b member := by cases member
  knows c member := by cases member
  sessions c member := by cases member
  counters c member := by cases member

variable {cap : Int} {c c' : Call}

theorem Knows.of_eq {s s' : BudgetStore} (narratives : s'.narratives = s.narratives)
    (budget : s'.budget = s.budget) (session : c'.sessionID = c.sessionID)
    (project : c'.projectID = c.projectID) (stage : c'.stage = c.stage) (day : c'.day = c.day)
    {phase : Phase} (knows : Knows cap s c phase) : Knows cap s' c' phase := by
  have unstamped : Unstamped s c → Unstamped s' c' := by
    rintro ⟨n, found, own, none_⟩
    exact ⟨n, by rw [narratives, session, found], own.trans project.symm, by rw [stage, none_]⟩
  have key : c'.key = c.key := by rw [Call.key, Call.key, project, stage, day]
  cases phase with
  | begun => trivial
  | unstamped => exact unstamped knows
  | present => exact ⟨unstamped knows.1, by rw [budget, key]; exact knows.2⟩
  | counted | stamped =>
    refine ⟨unstamped knows.1, by rw [budget, key]; exact knows.2.1, ?_, knows.2.2.2⟩
    rw [knows.2.2.1, key, BudgetStore.used, BudgetStore.used, budget]

variable {s : BudgetStore}

theorem Consistent.of_calls (inv : Consistent cap s) {calls : Table Call.id}
    (fewer : ∀ c ∈ calls.rows, c ∈ s.calls.rows ∨ c.phase = .begun) :
    Consistent cap { s with calls } where
  counts := inv.counts
  capped := inv.capped
  knows c member := by
    rcases fewer c member with old | new
    · exact (inv.knows c old).of_eq rfl rfl rfl rfl rfl rfl
    · rw [new]
      trivial
  sessions c member c' member' locks locks' := by
    rcases fewer c member with old | new
    · rcases fewer c' member' with old' | new'
      · exact inv.sessions c old c' old' locks locks'
      · exact absurd new' locks'
    · exact absurd new locks
  counters c member c' member' locks locks' := by
    rcases fewer c member with old | new
    · rcases fewer c' member' with old' | new'
      · exact inv.counters c old c' old' locks locks'
      · rw [Call.LocksBudget, new'] at locks'
        exact locks'.elim
    · rw [Call.LocksBudget, new] at locks
      exact locks.elim

theorem Consistent.finish (inv : Consistent cap s) (c : Call) :
    Consistent cap (s.finish c) :=
  inv.of_calls fun _ member => Or.inl (List.mem_filter.mp member).1

theorem not_sessionLocked (free : ¬s.SessionLocked c) (member : c' ∈ s.calls.rows)
    (other : c'.id ≠ c.id) (locks : c'.LocksSession) :
    c'.sessionID ≠ c.sessionID :=
  fun same => free (List.any_eq_true.mpr ⟨c', member, decide_eq_true ⟨other, locks, same⟩⟩)

theorem not_budgetLocked (free : ¬s.BudgetLocked c) (member : c' ∈ s.calls.rows)
    (other : c'.id ≠ c.id) (locks : c'.LocksBudget) : c'.key ≠ c.key :=
  fun same => free (List.any_eq_true.mpr ⟨c', member, decide_eq_true ⟨other, locks, same⟩⟩)

theorem Consistent.goTo (inv : Consistent cap s) (member : c ∈ s.calls.rows) {phase : Phase}
    (knows : Knows cap s c phase) (session : c.LocksSession ∨ ¬s.SessionLocked c)
    (counter : (c.goTo phase).LocksBudget → c.LocksBudget ∨ ¬s.BudgetLocked c) :
    Consistent cap (s.goTo c phase) := by
  have rows : ∀ c', c' ∈ (s.goTo c phase).calls.rows ↔
      c' = c.goTo phase ∨ (c' ∈ s.calls.rows ∧ c'.id ≠ c.id) :=
    fun c' => s.calls.mem_updateKey member (Call.goTo phase) (fun _ => rfl) c'
  have alone : ∀ c' ∈ s.calls.rows, c'.id ≠ c.id → c'.LocksSession → c'.sessionID ≠ c.sessionID := by
    intro c' member' other locks same
    rcases session with own | free
    · exact other (congrArg Call.id (inv.sessions c' member' c member locks own same))
    · exact not_sessionLocked free member' other locks same
  have only : (c.goTo phase).LocksBudget → ∀ c' ∈ s.calls.rows, c'.id ≠ c.id → c'.LocksBudget →
      c'.key ≠ c.key := by
    intro holds c' member' other locks same
    rcases counter holds with own | free
    · exact other (congrArg Call.id (inv.counters c' member' c member locks own same))
    · exact not_budgetLocked free member' other locks same
  refine ⟨inv.counts, inv.capped, ?_, ?_, ?_⟩
  · intro c' present
    rcases (rows c').mp present with rfl | ⟨old, -⟩
    · exact knows.of_eq rfl rfl rfl rfl rfl rfl
    · exact (inv.knows c' old).of_eq rfl rfl rfl rfl rfl rfl
  · intro a memA b memB locksA locksB same
    rcases (rows a).mp memA with rfl | ⟨oldA, otherA⟩ <;> rcases (rows b).mp memB with rfl | ⟨oldB, otherB⟩
    · rfl
    · exact absurd same.symm (alone b oldB otherB locksB)
    · exact absurd same (alone a oldA otherA locksA)
    · exact inv.sessions a oldA b oldB locksA locksB same
  · intro a memA b memB locksA locksB same
    rcases (rows a).mp memA with rfl | ⟨oldA, otherA⟩ <;> rcases (rows b).mp memB with rfl | ⟨oldB, otherB⟩
    · rfl
    · exact absurd same.symm (only locksA b oldB otherB locksB)
    · exact absurd same (only locksB a oldA otherA locksA)
    · exact inv.counters a oldA b oldB locksA locksB same

section

variable {cap : Int} {s : BudgetStore} {c : Call} {inserted : Bool} {used : Int}

theorem used_publish (key : BudgetKey) :
    (s.publish c used).used key = if key = c.key then used else s.used key := by
  have found : (s.publish c used).budget.find? key =
      if key = c.key then some ((s.budget.find? key).elim ⟨c.projectID, c.day, c.stage, used⟩
        fun b => { b with used }) else s.budget.find? key :=
    Table.find?_upsert s.budget ⟨c.projectID, c.day, c.stage, used⟩ (fun b => { b with used })
      (fun _ => rfl) key
  rw [BudgetStore.used, found]
  split
  · cases s.budget.find? key <;> rfl
  · rfl

theorem stampedOn_publish (unstamped : Unstamped s c) (key : BudgetKey) :
    stampedOn (s.publish c used) key = stampedOn s key + if key = c.key then 1 else 0 := by
  obtain ⟨n, found, project, none_⟩ := unstamped
  obtain ⟨others, before, after⟩ := s.narratives.rows_updateKey_perm found
    (SessionNarrative.stamp c.stage c.day) fun _ => by simp
  have rows : (s.publish c used).narratives.rows.Perm (n.stamp c.stage c.day :: others) := after
  obtain ⟨projectID, day, stage⟩ := key
  rw [stampedOn, stampedOn, rows.countP_eq, before.countP_eq, List.countP_cons, List.countP_cons]
  simp only [SessionNarrative.stamp_projectID, SessionNarrative.stamped_stamp, project, Call.key,
    Prod.mk.injEq]
  by_cases same : stage = c.stage
  · rw [if_pos same, same, none_]
    by_cases own : projectID = c.projectID ∧ day = c.day
    · simp [own.1, own.2]
    · have other : ¬(c.projectID = projectID ∧ c.day = day) := fun both =>
        own ⟨both.1.symm, both.2.symm⟩
      simp [own, other]
  · simp [same]

theorem narratives_publish {sessionID : String} (other : sessionID ≠ c.sessionID) :
    (s.publish c used).narratives.find? sessionID = s.narratives.find? sessionID := by
  refine (Table.find?_updateKey s.narratives c.sessionID (SessionNarrative.stamp c.stage c.day)
    (fun _ => by simp) sessionID).trans ?_
  rw [if_neg other]

theorem isSome_publish (key : BudgetKey) : ((s.publish c used).budget.find? key).isSome =
    ((s.budget.find? key).isSome || decide (key = c.key)) := by
  refine (congrArg Option.isSome (Table.find?_upsert s.budget ⟨c.projectID, c.day, c.stage, used⟩
    (fun b => { b with used }) (fun _ => rfl) key)).trans ?_
  change (if key = c.key then _ else _ : Option CallBudget).isSome = _
  by_cases same : key = c.key <;> simp [same]

theorem Knows.publish {phase : Phase} (knows : Knows cap s c' phase)
    (session : phase ≠ .begun → c'.sessionID ≠ c.sessionID)
    (counter : (c'.goTo phase).LocksBudget → c'.key ≠ c.key) :
    Knows cap (s.publish c used) c' phase := by
  have unstamped : phase ≠ .begun → Unstamped s c' → Unstamped (s.publish c used) c' := by
    rintro holds ⟨n, found, rest⟩
    exact ⟨n, (narratives_publish (session holds)).trans found, rest⟩
  cases phase with
  | begun => trivial
  | unstamped => exact unstamped (fun same => nomatch same) knows
  | present inserted =>
    refine ⟨unstamped (fun same => nomatch same) knows.1, ?_⟩
    rw [isSome_publish, knows.2]
    cases inserted with
    | true => simp [counter trivial]
    | false => rfl
  | counted inserted count | stamped inserted count =>
    have other : c'.key ≠ c.key := counter trivial
    refine ⟨unstamped (fun same => nomatch same) knows.1, ?_, ?_, knows.2.2.2⟩
    · rw [isSome_publish, knows.2.1, decide_eq_false other, Bool.or_false]
    · rw [used_publish, if_neg other]
      exact knows.2.2.1

theorem Consistent.publish (inv : Consistent cap s) (member : c ∈ s.calls.rows)
    (phase : c.phase = .stamped inserted used) : Consistent cap ((s.publish c used).finish c) := by
  have knows : Knows cap s c (.stamped inserted used) := phase ▸ inv.knows c member
  have locks : c.LocksSession := fun begun => by rw [phase] at begun; cases begun
  have locksBudget : c.LocksBudget := by
    rw [Call.LocksBudget, phase]
    trivial
  obtain ⟨unstamped, -, count, low⟩ := knows
  have calls : ∀ c', c' ∈ ((s.publish c used).finish c).calls.rows →
      c' ∈ s.calls.rows ∧ c'.id ≠ c.id := by
    intro c' present
    obtain ⟨old, other⟩ := List.mem_filter.mp present
    exact ⟨old, by simpa using other⟩
  refine ⟨fun key => ?_, fun b present => ?_, fun c' present => ?_, ?_, ?_⟩
  · change (s.publish c used).used key = stampedOn (s.publish c used) key
    rw [used_publish, stampedOn_publish unstamped, count]
    split
    · rename_i own
      rw [own, inv.counts]
      rfl
    · rw [inv.counts]
      rfl
  · have found := Table.find?_key _ present
    have row : b.used = ((s.publish c used).used b.key) := by
      change (s.publish c used).budget.find? b.key = some b at found
      rw [BudgetStore.used, found]
      rfl
    rw [row, used_publish]
    split
    · exact low
    · rename_i other
      have old : s.budget.find? b.key = some b := by
        refine Eq.trans ?_ found
        refine Eq.symm ((Table.find?_upsert s.budget ⟨c.projectID, c.day, c.stage, used⟩
          (fun b => { b with used }) (fun _ => rfl) b.key).trans ?_)
        exact if_neg other
      rw [BudgetStore.used, old]
      exact inv.capped b (Table.mem_of_find? old)
  · obtain ⟨old, other⟩ := calls c' present
    refine (Knows.publish (inv.knows c' old) (fun holds same => ?_) fun holds same => ?_).of_eq rfl rfl
      rfl rfl rfl rfl
    · exact other (congrArg Call.id (inv.sessions c' old c member holds locks same))
    · exact other (congrArg Call.id (inv.counters c' old c member holds locksBudget same))
  · exact fun a memA b memB => inv.sessions a (calls a memA).1 b (calls b memB).1
  · exact fun a memA b memB => inv.counters a (calls a memA).1 b (calls b memB).1

end

theorem consistent_statement (inv : Consistent cap s) (member : c ∈ s.calls.rows) :
    Consistent cap (s.statement cap c).1 := by
  have knows := inv.knows c member
  have holds : c.phase ≠ .begun → c.LocksSession := fun locks => locks
  unfold BudgetStore.statement
  cases phase : c.phase with
  | begun =>
    dsimp only
    split
    · exact inv
    · rename_i free
      split
      · exact inv.finish c
      · rename_i n found
        split
        · exact inv.finish c
        · rename_i stamp
          obtain ⟨row, project⟩ := Option.filter_eq_some_iff.mp found
          refine inv.goTo member ?_ (Or.inr free) fun locks => locks.elim
          exact ⟨n, row, of_decide_eq_true project, Option.not_isSome_iff_eq_none.mp stamp⟩
  | unstamped =>
    rw [phase] at knows
    have own : c.LocksSession := holds fun same => by rw [phase] at same; cases same
    dsimp only
    split
    · rename_i there
      exact inv.goTo member ⟨knows, there⟩ (Or.inl own) fun locks => locks.elim
    · rename_i absent
      split
      · exact inv
      · rename_i free
        exact inv.goTo member ⟨knows, Bool.eq_false_iff.mpr absent⟩ (Or.inl own) fun _ => Or.inr free
  | present inserted =>
    rw [phase] at knows
    obtain ⟨unstamped, there⟩ := knows
    have own : c.LocksSession := holds fun same => by rw [phase] at same; cases same
    dsimp only
    split
    · exact inv
    · rename_i free
      split
      · exact inv.finish c
      · rename_i count read
        split
        · rename_i less
          refine inv.goTo member ⟨unstamped, there, ?_, Int.add_one_le_of_lt less⟩ (Or.inl own)
            fun _ => Or.inr free
          have committed : s.used c.key = count := by
            cases inserted with
            | true =>
              have absent : s.budget.find? c.key = none := Option.not_isSome_iff_eq_none.mp (by simp [there])
              rw [BudgetStore.used, absent]
              exact Option.some.inj read
            | false =>
              obtain ⟨b, found, same⟩ := Option.map_eq_some_iff.mp read
              rw [BudgetStore.used, found]
              exact same
          rw [committed]
        · exact inv.finish c
  | counted inserted count =>
    rw [phase] at knows
    have own : c.LocksSession := holds fun same => by rw [phase] at same; cases same
    refine inv.goTo member knows (Or.inl own) fun _ => Or.inl ?_
    rw [Call.LocksBudget, phase]
    trivial
  | stamped inserted count => exact inv.publish member phase

theorem consistent_enqueue (inv : Consistent cap s) (sessionID : String) (projectID : UUID) :
    Consistent cap (step cap s (.enqueueNarrative sessionID projectID)) where
  counts key := by
    refine (inv.counts key).trans (congrArg Int.ofNat ?_)
    change stampedOn s key = (s.narratives.insertIgnore ⟨sessionID, projectID, none, none⟩).rows.countP _
    rw [stampedOn, Table.insertIgnore]
    cases inserted : s.narratives.insert? ⟨sessionID, projectID, none, none⟩ with
    | none => rfl
    | some narratives =>
      rw [Option.getD_some, (Table.insert?_spec inserted).2, List.countP_cons_of_neg]
      rw [decide_eq_true_eq]
      rintro ⟨-, stamp⟩
      cases stage : key.2.2 <;> rw [stage] at stamp <;> cases stamp
  capped := inv.capped
  knows c member := by
    have kept : ∀ {n}, s.narratives.find? c.sessionID = some n →
        (s.narratives.insertIgnore ⟨sessionID, projectID, none, none⟩).find? c.sessionID = some n := by
      intro n found
      rw [Table.find?_insertIgnore, found, Option.some_or]
    have unstamped : Unstamped s c → Unstamped (step cap s (.enqueueNarrative sessionID projectID)) c := by
      rintro ⟨n, found, rest⟩
      exact ⟨n, kept found, rest⟩
    have knows := inv.knows c member
    revert knows
    cases c.phase with
    | begun => exact fun _ => trivial
    | unstamped => exact unstamped
    | present => exact fun knows => ⟨unstamped knows.1, knows.2⟩
    | counted | stamped => exact fun knows => ⟨unstamped knows.1, knows.2⟩
  sessions := inv.sessions
  counters := inv.counters

theorem consistent_step (cap : Int) (inv : Consistent cap s) (a : Action) :
    Consistent cap (step cap s a) := by
  cases a with
  | enqueueNarrative sessionID projectID => exact consistent_enqueue inv sessionID projectID
  | begin id sessionID projectID stage day =>
    refine inv.of_calls fun c member => ?_
    rcases Table.mem_insertIgnore member with old | rfl
    · exact Or.inl old
    · exact Or.inr rfl
  | statement id =>
    rw [step]
    cases found : s.calls.find? id with
    | none => exact inv
    | some c => exact consistent_statement inv (Table.mem_of_find? found)
  | rollback id =>
    rw [step]
    cases s.calls.find? id with
    | none => exact inv
    | some c => exact inv.finish c

/-- The session has a stamp of the stage. -/
def Stamped (s : BudgetStore) (x : String × Stage) : Prop :=
  ∃ n, s.narratives.find? x.1 = some n ∧ (n.stamped x.2).isSome

theorem stamped_step (cap : Int) {x : String × Stage} (stamped : Stamped s x) (a : Action) :
    Stamped (step cap s a) x := by
  have publish : ∀ (c : Call) (used : Int), Stamped ((s.publish c used).finish c) x := by
    intro c used
    obtain ⟨n, found, stamp⟩ := stamped
    by_cases own : x.1 = c.sessionID
    · refine ⟨n.stamp c.stage c.day, ?_, ?_⟩
      · refine (Table.find?_updateKey s.narratives c.sessionID
          (SessionNarrative.stamp c.stage c.day) (fun _ => by simp) x.1).trans ?_
        rw [if_pos own, ← own, found, Option.map_some]
      · rw [SessionNarrative.stamped_stamp]
        split
        · rfl
        · exact stamp
    · have kept : (s.publish c used).narratives.find? x.1 = s.narratives.find? x.1 :=
        narratives_publish own
      exact ⟨n, kept.trans found, stamp⟩
  cases a with
  | enqueueNarrative sessionID projectID =>
    obtain ⟨n, found, stamp⟩ := stamped
    refine ⟨n, ?_, stamp⟩
    refine (Table.find?_insertIgnore s.narratives _ x.1).trans ?_
    rw [found, Option.some_or]
  | begin => exact stamped
  | statement id =>
    rw [step]
    cases s.calls.find? id with
    | none => exact stamped
    | some c =>
      change Stamped (s.statement cap c).1 x
      unfold BudgetStore.statement
      cases c.phase with
      | begun =>
        dsimp only
        split
        · exact stamped
        · split
          · exact stamped
          · split <;> exact stamped
      | unstamped =>
        dsimp only
        split
        · exact stamped
        · split <;> exact stamped
      | present inserted =>
        dsimp only
        split
        · exact stamped
        · split
          · exact stamped
          · split <;> exact stamped
      | counted => exact stamped
      | stamped inserted used => exact publish c used
  | rollback id =>
    rw [step]
    cases s.calls.find? id <;> exact stamped

theorem stamped_charge (inv : Consistent cap s) {a : Action} {x : String × Stage}
    (charged : charge s a = some x) : ¬Stamped s x ∧ Stamped (step cap s a) x := by
  cases a with
  | enqueueNarrative | begin | rollback => cases charged
  | statement id =>
    obtain ⟨c, found, charged⟩ := Option.bind_eq_some_iff.mp charged
    have knows := inv.knows c (Table.mem_of_find? found)
    split at charged
    · rename_i inserted used phase
      cases charged
      rw [phase] at knows
      obtain ⟨⟨n, row, -, none_⟩, -⟩ := knows
      constructor
      · rintro ⟨n', row', stamp⟩
        rw [row, Option.some.injEq] at row'
        rw [← row', none_] at stamp
        cases stamp
      · have next : step cap s (.statement id) = (s.publish c used).finish c := by
          rw [step, found]
          dsimp only [Option.elim]
          rw [BudgetStore.statement, phase]
        rw [next]
        refine ⟨n.stamp c.stage c.day, ?_, by simp [SessionNarrative.stamped_stamp]⟩
        refine (Table.find?_updateKey s.narratives c.sessionID
          (SessionNarrative.stamp c.stage c.day) (fun _ => by simp) c.sessionID).trans ?_
        rw [if_pos rfl, row, Option.map_some]
    · cases charged

theorem charges_nodup (inv : Consistent cap s) (actions : List Action) :
    (charges cap s actions).Nodup ∧ ∀ x ∈ charges cap s actions, ¬Stamped s x := by
  induction actions generalizing s with
  | nil => exact ⟨List.nodup_nil, fun x member => nomatch member⟩
  | cons a rest ih =>
    obtain ⟨distinct, fresh⟩ := ih (consistent_step cap inv a)
    have before : ∀ x ∈ charges cap (step cap s a) rest, ¬Stamped s x :=
      fun x member stamped => fresh x member (stamped_step cap stamped a)
    rw [charges]
    cases charged : charge s a with
    | none => exact ⟨distinct, before⟩
    | some x =>
      obtain ⟨free, stamped⟩ := stamped_charge inv charged
      refine ⟨List.nodup_cons.mpr ⟨fun again => fresh x again stamped, distinct⟩, fun y member => ?_⟩
      rcases List.mem_cons.mp member with rfl | later
      · exact free
      · exact before y later

/-- In every run the recorded use of a project, day and stage stays within the cap and is the
number of sessions stamped for the stage on that day, and each session is charged at most once
for a stage. -/
theorem budget_run (cap : Int) (actions : List Action) :
    (∀ b ∈ ((machine cap).run .empty actions).budget.rows, b.used ≤ cap) ∧
      (∀ key, ((machine cap).run .empty actions).used key =
        stampedOn ((machine cap).run .empty actions) key) ∧
      (charges cap .empty actions).Nodup := by
  have inv := Machine.invariant_run (machine cap) (Consistent cap)
    (fun _ a inv => consistent_step cap inv a) (consistent_empty cap) actions
  exact ⟨inv.capped, inv.counts, (charges_nodup (consistent_empty cap) actions).1⟩

/-- Two sessions compete for the last call of a day, and the second one waits in vain. -/
example : charges 1 .empty [.enqueueNarrative "a" 1, .enqueueNarrative "b" 1, .begin 1 "a" 1 .narrate 5,
    .begin 2 "b" 1 .narrate 5, .statement 1, .statement 2, .statement 1, .statement 2, .statement 1,
    .statement 1, .statement 1, .statement 2, .statement 2] = [("a", .narrate)] := by
  decide +kernel

end Opslane.Narrative
