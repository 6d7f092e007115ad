import Opslane.Lib.Table
import Opslane.Lib.Transition
import Opslane.Schema

/-!
# The budget of narrative calls

`reserveNarrativeBudget` of `packages/worker/src/db.ts`, over the stamps of
`session_narratives` and the counters of `narrative_call_budget`. Any number of calls are
under way at once, and an action is one statement of one of them: a transaction holds the
rows it has written or read for update until it ends, a statement that comes to a row of
another transaction waits, and what a transaction has not committed only it can see.

`current_date` is the date at which a transaction began. A statement that has to wait
leaves everything as it is.
-/

namespace Opslane.Narrative

open Transition (Machine)

abbrev Day := Int

inductive Stage where
  | narrate | verify
  deriving DecidableEq

/-- A row of `session_narratives`. -/
structure SessionNarrative where
  sessionID : String
  projectID : UUID
  budgetReservedOn : Option Day
  verifyBudgetReservedOn : Option Day
  deriving DecidableEq

namespace SessionNarrative

/-- The stamp column of a stage. -/
def stamped (stage : Stage) (n : SessionNarrative) : Option Day :=
  match stage with
  | .narrate => n.budgetReservedOn
  | .verify => n.verifyBudgetReservedOn

def stamp (stage : Stage) (day : Day) (n : SessionNarrative) : SessionNarrative :=
  match stage with
  | .narrate => { n with budgetReservedOn := some day }
  | .verify => { n with verifyBudgetReservedOn := some day }

@[simp] theorem stamp_sessionID (stage : Stage) (day : Day) (n : SessionNarrative) :
    (n.stamp stage day).sessionID = n.sessionID := by cases stage <;> rfl

@[simp] theorem stamp_projectID (stage : Stage) (day : Day) (n : SessionNarrative) :
    (n.stamp stage day).projectID = n.projectID := by cases stage <;> rfl

theorem stamped_stamp (stage stage' : Stage) (day : Day) (n : SessionNarrative) :
    (n.stamp stage day).stamped stage' = if stage' = stage then some day else n.stamped stage' := by
  cases stage <;> cases stage' <;> rfl

end SessionNarrative

/-- A row of `narrative_call_budget`. -/
structure CallBudget where
  projectID : UUID
  day : Day
  stage : Stage
  used : Int
  deriving DecidableEq

abbrev BudgetKey := UUID × Day × Stage

def CallBudget.key (b : CallBudget) : BudgetKey := (b.projectID, b.day, b.stage)

/-- How far the transaction of a call is. -/
inductive Phase where
  | begun
  /-- The row of the session is locked, and has no stamp. -/
  | unstamped
  /-- The counter row is there; the call may have inserted it. -/
  | present (inserted : Bool)
  | counted (inserted : Bool) (used : Int)
  | stamped (inserted : Bool) (used : Int)
  deriving DecidableEq

/-- A call whose transaction has begun. -/
structure Call where
  id : Nat
  sessionID : String
  projectID : UUID
  stage : Stage
  day : Day
  phase : Phase
  deriving DecidableEq

namespace Call

def key (c : Call) : BudgetKey := (c.projectID, c.day, c.stage)

/-- The call holds the row of its session. -/
def LocksSession (c : Call) : Prop := c.phase ≠ .begun

instance (c : Call) : Decidable c.LocksSession := inferInstanceAs (Decidable (¬_))

/-- The call holds its counter row, which it inserted or has counted up. -/
def LocksBudget (c : Call) : Prop :=
  match c.phase with
  | .begun | .unstamped | .present false => False
  | .present true | .counted .. | .stamped .. => True

instance (c : Call) : Decidable c.LocksBudget := by
  unfold LocksBudget
  split <;> infer_instance

def goTo (phase : Phase) (c : Call) : Call := { c with phase }

end Call

structure BudgetStore where
  narratives : Table SessionNarrative.sessionID
  budget : Table CallBudget.key
  calls : Table Call.id

namespace BudgetStore

def empty : BudgetStore := ⟨Table.empty, Table.empty, Table.empty⟩

/-- The recorded use. -/
def used (s : BudgetStore) (key : BudgetKey) : Int := (s.budget.find? key).elim 0 CallBudget.used

/-- Another call holds the row of the session. -/
def SessionLocked (s : BudgetStore) (c : Call) : Prop :=
  s.calls.any fun c' => c'.id ≠ c.id ∧ c'.LocksSession ∧ c'.sessionID = c.sessionID

instance (s : BudgetStore) (c : Call) : Decidable (s.SessionLocked c) :=
  inferInstanceAs (Decidable (_ = true))

/-- Another call holds the counter row. -/
def BudgetLocked (s : BudgetStore) (c : Call) : Prop :=
  s.calls.any fun c' => c'.id ≠ c.id ∧ c'.LocksBudget ∧ c'.key = c.key

instance (s : BudgetStore) (c : Call) : Decidable (s.BudgetLocked c) :=
  inferInstanceAs (Decidable (_ = true))

def goTo (s : BudgetStore) (c : Call) (phase : Phase) : BudgetStore :=
  { s with calls := s.calls.updateKey c.id (Call.goTo phase) fun _ => rfl }

/-- The call is over: what it has not committed is gone. -/
def finish (s : BudgetStore) (c : Call) : BudgetStore :=
  { s with calls := s.calls.deleteWhere fun c' => c'.id = c.id }

/-- The writes of a call become visible. -/
def publish (s : BudgetStore) (c : Call) (used : Int) : BudgetStore :=
  { s with
    narratives := s.narratives.updateKey c.sessionID (SessionNarrative.stamp c.stage c.day) fun _ => by
      simp
    budget := s.budget.upsert ⟨c.projectID, c.day, c.stage, used⟩ (fun b => { b with used }) fun _ => rfl }

/-- The row of the session in the project. -/
def narrative (s : BudgetStore) (c : Call) : Option SessionNarrative :=
  (s.narratives.find? c.sessionID).filter fun n => n.projectID = c.projectID

/-- The next statement of a call, and what the call returns with it. -/
def statement (cap : Int) (s : BudgetStore) (c : Call) : BudgetStore × Option Bool :=
  match c.phase with
  | .begun =>
    if s.SessionLocked c then (s, none)
    else
      match s.narrative c with
      | none => (s.finish c, some false)
      | some n =>
        if (n.stamped c.stage).isSome then (s.finish c, some true) else (s.goTo c .unstamped, none)
  | .unstamped =>
    if (s.budget.find? c.key).isSome then (s.goTo c (.present false), none)
    else if s.BudgetLocked c then (s, none)
    else (s.goTo c (.present true), none)
  | .present inserted =>
    if s.BudgetLocked c then (s, none)
    else
      match if inserted then some 0 else (s.budget.find? c.key).map CallBudget.used with
      | none => (s.finish c, some false)
      | some used =>
        if used < cap then (s.goTo c (.counted inserted (used + 1)), none)
        else (s.finish c, some false)
  | .counted inserted used => (s.goTo c (.stamped inserted used), none)
  | .stamped _ used => ((s.publish c used).finish c, some true)

end BudgetStore

inductive Action where
  /-- A session gets its row, without a stamp. -/
  | enqueueNarrative (sessionID : String) (projectID : UUID)
  | begin (id : Nat) (sessionID : String) (projectID : UUID) (stage : Stage) (day : Day)
  | statement (id : Nat)
  /-- The call fails, and is rolled back. -/
  | rollback (id : Nat)
  deriving DecidableEq

def step (cap : Int) (s : BudgetStore) : Action → BudgetStore
  | .enqueueNarrative sessionID projectID =>
    { s with narratives := s.narratives.insertIgnore ⟨sessionID, projectID, none, none⟩ }
  | .begin id sessionID projectID stage day =>
    { s with calls := s.calls.insertIgnore ⟨id, sessionID, projectID, stage, day, .begun⟩ }
  | .statement id => (s.calls.find? id).elim s fun c => (s.statement cap c).1
  | .rollback id => (s.calls.find? id).elim s s.finish

def machine (cap : Int) : Machine BudgetStore Action := ⟨step cap⟩

/-- What an action charges: the session and the stage of a call that commits its count. -/
def charge (s : BudgetStore) : Action → Option (String × Stage)
  | .statement id => (s.calls.find? id).bind fun c =>
    match c.phase with
    | .stamped .. => some (c.sessionID, c.stage)
    | _ => none
  | _ => none

/-- What a run charges, in order. -/
def charges (cap : Int) : BudgetStore → List Action → List (String × Stage)
  | _, [] => []
  | s, a :: rest => (charge s a).toList ++ charges cap (step cap s a) rest

end Opslane.Narrative
