import Opslane.Schema
import Opslane.Lib.Transition

/-!
# Waiting ages

An issue that waits for a human has a waiting age, and may be snoozed. Triggers on `error_groups` keep
both columns: `actionable_since` starts over when the ask changes, and both are cleared when the issue
leaves the human's lane. A ticket's issue is an exception, since the ticket owns its clock.

The rule came with several migrations, and a boot replays every file: each reinstalls its own trigger
bodies and runs its repair sweeps under the triggers then installed, while other replicas write.
-/

namespace Opslane.Migrations

@[ext]
structure Stamps where
  actionableSince : Option Timestamp
  snoozedUntil : Option Timestamp
  deriving DecidableEq

def Stamps.cleared : Stamps := ⟨none, none⟩

/-- A row of `error_groups`. -/
structure Incident where
  ticketID : Option UUID
  status : GroupStatus
  candidateDiff : Option String
  prURL : Option String
  terminalFixJobID : Option UUID
  needsHumanAt : Option Timestamp
  stamps : Stamps
  updatedAt : Timestamp
  deriving DecidableEq

namespace Incident

def stamped (r : Incident) (stamps : Stamps) : Incident := { r with stamps }

@[simp] theorem stamped_stamps (r : Incident) (s : Stamps) : (r.stamped s).stamps = s := rfl

@[simp] theorem stamped_ticketID (r : Incident) (s : Stamps) :
    (r.stamped s).ticketID = r.ticketID := rfl

@[simp] theorem stamped_status (r : Incident) (s : Stamps) : (r.stamped s).status = r.status := rfl

@[simp] theorem stamped_updatedAt (r : Incident) (s : Stamps) :
    (r.stamped s).updatedAt = r.updatedAt := rfl

@[simp] theorem stamped_stamped (r : Incident) (s t : Stamps) :
    (r.stamped s).stamped t = r.stamped t := rfl

@[simp] theorem stamped_self (r : Incident) : r.stamped r.stamps = r := rfl

end Incident

/-- What the reader is asked to do. -/
inductive Ask where
  | approveFix | reviewInvestigation | decideHow | reviewPR | reviewIssue
  deriving DecidableEq

/-- `NULLIF(btrim(COALESCE(text,'')),'') IS NOT NULL`. -/
def filled (text : Option String) : Bool := text.any fun s => s.toList.any (· ≠ ' ')

/-- `error_groups_action_class` with three arguments, which 066 keeps for itself. -/
def actionClass066 (r : Incident) : Option Ask :=
  match r.status with
  | .awaitingApproval => some (if filled r.candidateDiff then .approveFix else .reviewInvestigation)
  | .prCreated | .prDraft => some (if filled r.prURL then .reviewPR else .reviewIssue)
  | .needsHuman => some .reviewInvestigation
  | _ => none

/-- `error_groups_action_class` with four arguments, which 073 replaced. -/
def actionClass (r : Incident) : Option Ask :=
  match r.status with
  | .awaitingApproval => some (if filled r.candidateDiff then .approveFix else .decideHow)
  | .prCreated | .prDraft => some (if filled r.prURL then .reviewPR else .reviewIssue)
  | .needsHuman => some .decideHow
  | _ => none

@[simp] theorem actionClass_stamped (r : Incident) (s : Stamps) :
    actionClass (r.stamped s) = actionClass r := rfl

/-- The two statuses of 064. -/
def isActionable064 (status : GroupStatus) : Bool :=
  status = .awaitingApproval || status = .needsHuman

def isReview (status : GroupStatus) : Bool := status = .prCreated || status = .prDraft

/-- `error_groups_actionable_lifecycle` of 064; there is no old row on an insert. -/
def actionableLifecycle064 (now : Timestamp) (old : Option Incident) (new : Incident) : Incident :=
  let wasActionable := old.any fun old => isActionable064 old.status
  let isActionable := isActionable064 new.status
  if isActionable && !wasActionable then new.stamped ⟨some now, none⟩
  else if isActionable && wasActionable then
    if new.stamps.actionableSince = none then
      new.stamped { new.stamps with
        actionableSince := some ((old.bind (·.stamps.actionableSince)).getD now) }
    else new
  else new.stamped .cleared

/-- `error_groups_hold_pending_action`. -/
def holdPendingAction (now : Timestamp) (wasClass isClass : Option Ask) (new old : Stamps) : Stamps :=
  if isClass = none then new
  else if wasClass ≠ isClass then
    if new.actionableSince = old.actionableSince then ⟨some now, none⟩ else new
  else if new.actionableSince = none then
    if old.actionableSince ≠ none then
      ⟨old.actionableSince, new.snoozedUntil <|> old.snoozedUntil⟩
    else if new.snoozedUntil ≠ none then { new with actionableSince := some now }
    else new
  else new

/-- `error_groups_actionable_lifecycle` of 066 and 072, with the class function each calls. -/
def actionableLifecycle (actionClass : Incident → Option Ask) (now : Timestamp) (old : Option Incident)
    (new : Incident) : Incident :=
  let wasClass := old.bind actionClass
  let isClass := actionClass new
  if isClass = none then new.stamped .cleared
  else if wasClass ≠ isClass then new.stamped ⟨some now, none⟩
  else
    match old with
    | some old => new.stamped (holdPendingAction now wasClass isClass new.stamps old.stamps)
    | none => new

/-- `error_groups_pending_action_guard` of 066 and 072; `none` cancels the update. -/
def pendingActionGuard (actionClass : Incident → Option Ask) (now : Timestamp) (old new : Incident) :
    Option Incident :=
  let new := new.stamped
    (holdPendingAction now (actionClass old) (actionClass new) new.stamps old.stamps)
  if new = old then none else some new

/-- `error_groups_ticket_stamps_guard`. -/
def ticketStampsGuard (old new : Incident) : Option Incident :=
  let new :=
    if new.stamps = .cleared ∧ old.stamps.actionableSince ≠ none then new.stamped old.stamps
    else if old.stamps.actionableSince = none ∧ new.stamps.actionableSince ≠ none ∧
        new.status = old.status ∧ new.stamps.snoozedUntil = old.stamps.snoozedUntil then
      { new with stamps := { new.stamps with actionableSince := none }, updatedAt := old.updatedAt }
    else new
  if new = old then none else some new

inductive Column where
  | status | candidateDiff | prURL | terminalFixJobID | actionableSince | snoozedUntil
  deriving DecidableEq

/-- A migration that replaces a trigger function. -/
inductive Body where
  | m064 | m066 | m072 | m078
  deriving DecidableEq

/-- What is installed: the lifecycle function, the columns its update trigger watches, and the
guard. The guard on tickets has no other version. -/
structure Installed where
  lifecycle : Body
  watched : List Column
  guard : Body
  deriving DecidableEq

def Body.lifecycle (body : Body) (now : Timestamp) (old : Option Incident) (new : Incident) : Incident :=
  match body with
  | .m064 => actionableLifecycle064 now old new
  | .m066 => actionableLifecycle actionClass066 now old new
  | .m072 => actionableLifecycle actionClass now old new
  | .m078 => if new.ticketID ≠ none then new else actionableLifecycle actionClass now old new

def Body.guard (body : Body) (now : Timestamp) (old new : Incident) : Option Incident :=
  match body with
  | .m064 => some new
  | .m066 => pendingActionGuard actionClass066 now old new
  | .m072 => pendingActionGuard actionClass now old new
  | .m078 => if new.ticketID ≠ none then some new else pendingActionGuard actionClass now old new

def guardColumns : List Column := [.status, .candidateDiff, .prURL, .actionableSince, .snoozedUntil]

def ticketColumns : List Column := [.status, .actionableSince, .snoozedUntil]

/-- The update sets a watched column. -/
def fires (watched columns : List Column) : Bool := columns.any fun c => c ∈ watched

/-- The triggers before an update, in the order of their names. -/
def Installed.beforeUpdate (i : Installed) (now : Timestamp) (columns : List Column)
    (old new : Incident) : Option Incident := do
  let new := if fires i.watched columns then i.lifecycle.lifecycle now (some old) new else new
  let new ← if fires guardColumns columns then i.guard.guard now old new else some new
  if new.ticketID ≠ none ∧ fires ticketColumns columns then ticketStampsGuard old new else some new

/-- An update of a row. -/
def Installed.update (i : Installed) (now : Timestamp) (columns : List Column) (old new : Incident) :
    Incident :=
  (i.beforeUpdate now columns old new).getD old

def Installed.insert (i : Installed) (now : Timestamp) (new : Incident) : Incident :=
  i.lifecycle.lifecycle now none new

inductive File where
  | m064 | m066 | m072 | m073 | m078
  deriving DecidableEq

/-- A boot starts over with the first file. -/
def File.next : File → File
  | .m064 => .m066
  | .m066 => .m072
  | .m072 => .m073
  | .m073 => .m078
  | .m078 => .m064

/-- The update trigger is recreated when it does not watch all of the columns. -/
def rewatch (needed columns watched : List Column) : List Column :=
  if needed.all (· ∈ watched) then watched else columns

def File.install (file : File) (i : Installed) : Installed :=
  match file with
  | .m064 => { i with lifecycle := .m064, watched := [.status, .actionableSince, .snoozedUntil] }
  | .m066 =>
    { lifecycle := .m066, guard := .m066
      watched := rewatch [.candidateDiff, .prURL]
        [.status, .candidateDiff, .prURL, .actionableSince, .snoozedUntil] i.watched }
  | .m072 =>
    { lifecycle := .m072, guard := .m072
      watched := rewatch [.candidateDiff, .prURL, .terminalFixJobID]
        [.status, .candidateDiff, .prURL, .terminalFixJobID, .actionableSince, .snoozedUntil] i.watched }
  | .m073 => i
  | .m078 => { i with lifecycle := .m078, guard := .m078 }

/-- What the last file leaves. -/
def Installed.final : Installed where
  lifecycle := .m078
  watched := [.status, .candidateDiff, .prURL, .terminalFixJobID, .actionableSince, .snoozedUntil]
  guard := .m078

/-- A backfill of `actionable_since`. -/
def Installed.backfill (i : Installed) (now : Timestamp) (covers : GroupStatus → Bool)
    (since : Incident → Timestamp) (r : Incident) : Incident :=
  if covers r.status ∧ r.stamps.actionableSince = none then
    i.update now [.actionableSince] r
      { r with stamps := { r.stamps with actionableSince := some (since r) } }
  else r

/-- The repair of rows that left the covered statuses. -/
def Installed.repair (i : Installed) (now : Timestamp) (covers : GroupStatus → Bool) (r : Incident) :
    Incident :=
  if ¬covers r.status ∧ r.stamps ≠ .cleared then
    i.update now [.actionableSince, .snoozedUntil] r (r.stamped .cleared)
  else r

/-- The sweeps of a file, under the triggers then installed. -/
def File.sweep (file : File) (i : Installed) (now : Timestamp) (r : Incident) : Incident :=
  match file with
  | .m064 => i.repair now isActionable064 (i.backfill now isActionable064
      (fun r => if r.status = .needsHuman then r.needsHumanAt.getD r.updatedAt else r.updatedAt) r)
  | .m066 => i.repair now (fun status => isActionable064 status || isReview status)
      (i.backfill now isReview (·.updatedAt) r)
  | _ => r

/-- The columns a write sets; `updated_at` is watched by no trigger. -/
structure Write where
  status : Option GroupStatus := none
  candidateDiff : Option (Option String) := none
  prURL : Option (Option String) := none
  terminalFixJobID : Option (Option UUID) := none
  needsHumanAt : Option (Option Timestamp) := none
  snoozedUntil : Option (Option Timestamp) := none
  updatedAt : Option Timestamp := none
  deriving DecidableEq

namespace Write

def columns (w : Write) : List Column :=
  (w.status.map fun _ => Column.status).toList ++ (w.candidateDiff.map fun _ => Column.candidateDiff).toList ++
    (w.prURL.map fun _ => Column.prURL).toList ++
    (w.terminalFixJobID.map fun _ => Column.terminalFixJobID).toList ++
    (w.snoozedUntil.map fun _ => Column.snoozedUntil).toList

def apply (w : Write) (r : Incident) : Incident where
  ticketID := r.ticketID
  status := w.status.getD r.status
  candidateDiff := w.candidateDiff.getD r.candidateDiff
  prURL := w.prURL.getD r.prURL
  terminalFixJobID := w.terminalFixJobID.getD r.terminalFixJobID
  needsHumanAt := w.needsHumanAt.getD r.needsHumanAt
  stamps := { r.stamps with snoozedUntil := w.snoozedUntil.getD r.stamps.snoozedUntil }
  updatedAt := w.updatedAt.getD r.updatedAt

variable (w : Write) (r : Incident)

@[simp] theorem apply_ticketID : (w.apply r).ticketID = r.ticketID := rfl

@[simp] theorem apply_status : (w.apply r).status = w.status.getD r.status := rfl

@[simp] theorem apply_actionableSince :
    (w.apply r).stamps.actionableSince = r.stamps.actionableSince := rfl

@[simp] theorem apply_snoozedUntil :
    (w.apply r).stamps.snoozedUntil = w.snoozedUntil.getD r.stamps.snoozedUntil := rfl

theorem apply_stamped (s : Stamps) : w.apply (r.stamped s) =
    (w.apply r).stamped ⟨s.actionableSince, w.snoozedUntil.getD s.snoozedUntil⟩ := rfl

end Write

abbrev Rows := UUID → Option Incident

structure Database where
  installed : Installed
  /-- The next file of the boot; between two boots the first one. -/
  next : File
  rows : Rows

inductive Act where
  /-- The next file, as one transaction. -/
  | replay (now : Timestamp)
  | insert (id : UUID) (row : Incident) (now : Timestamp)
  | update (id : UUID) (write : Write) (now : Timestamp)

def Rows.insert (rows : Rows) (i : Installed) (id : UUID) (row : Incident) (now : Timestamp) : Rows :=
  if rows id = none then Function.update rows id (some (i.insert now row)) else rows

def Rows.write (rows : Rows) (i : Installed) (id : UUID) (write : Write) (now : Timestamp) : Rows :=
  match rows id with
  | some row => Function.update rows id (some (i.update now write.columns row (write.apply row)))
  | none => rows

def Database.step (s : Database) : Act → Database
  | .replay now =>
    let installed := s.next.install s.installed
    { installed, next := s.next.next, rows := fun id => (s.rows id).map (s.next.sweep installed now) }
  | .insert id row now => { s with rows := s.rows.insert s.installed id row now }
  | .update id write now => { s with rows := s.rows.write s.installed id write now }

/-- The same writes under the final triggers, with no replay. -/
def Rows.step (rows : Rows) : Act → Rows
  | .replay _ => rows
  | .insert id row now => rows.insert .final id row now
  | .update id write now => rows.write .final id write now

def bootReplay : Transition.Machine Database Act := ⟨Database.step⟩

def noReplay : Transition.Machine Rows Act := ⟨Rows.step⟩

/-- Between two boots. -/
def Database.booted (rows : Rows) : Database := ⟨.final, .m064, rows⟩

end Opslane.Migrations
