import Opslane.Migrations.Actionable

/-!
# Writes during a boot replay

The replayed database is run beside one that keeps the final triggers, on the same writes. A row stays
the same in both, but for one case: an issue that enters a review status between 064 and 066 has no
waiting age until 066's backfill.
-/

namespace Opslane.Migrations

@[simp] theorem fires_guardColumns (w : Write) : fires guardColumns w.columns =
    (w.status.isSome || w.candidateDiff.isSome || w.prURL.isSome || w.snoozedUntil.isSome) := by
  cases w with
  | mk status diff url job _ snoozed _ =>
    cases status <;> cases diff <;> cases url <;> cases job <;> cases snoozed <;> rfl

@[simp] theorem fires_ticketColumns (w : Write) :
    fires ticketColumns w.columns = (w.status.isSome || w.snoozedUntil.isSome) := by
  cases w with
  | mk status diff url job _ snoozed _ =>
    cases status <;> cases diff <;> cases url <;> cases job <;> cases snoozed <;> rfl

theorem unfired_of_subset {few more columns : List Column} (subset : few ⊆ more)
    (unfired : fires more columns = false) : fires few columns = false := by
  simp only [fires, List.any_eq_false, decide_eq_true_eq] at unfired ⊢
  exact fun c h member => unfired c h (subset member)

theorem actionClass_eq_none (r : Incident) :
    actionClass r = none ↔ isActionable064 r.status = false ∧ isReview r.status = false := by
  cases h : r.status <;> simp [actionClass, isActionable064, isReview, h]

/-- The ask as 066 words it. -/
def Ask.worded066 : Ask → Ask
  | .decideHow => .reviewInvestigation
  | .reviewInvestigation => .decideHow
  | ask => ask

theorem Ask.worded066_injective : Function.Injective Ask.worded066 := by
  intro a b h
  cases a <;> cases b <;> first | rfl | cases h

theorem actionClass066_eq (r : Incident) : actionClass066 r = (actionClass r).map Ask.worded066 := by
  cases h : r.status <;> simp only [actionClass066, actionClass, h] <;> first | rfl | (split <;> rfl)

theorem actionClass066_eq_none (r : Incident) : actionClass066 r = none ↔ actionClass r = none := by
  rw [actionClass066_eq, Option.map_eq_none_iff]

theorem actionClass066_congr (r r' : Incident) :
    actionClass066 r = actionClass066 r' ↔ actionClass r = actionClass r' := by
  rw [actionClass066_eq, actionClass066_eq]
  exact (Option.map_injective Ask.worded066_injective).eq_iff

/-- A class function that tells the same rows apart as the final one. -/
structure Classifies (c : Incident → Option Ask) : Prop where
  eq_none : ∀ r, c r = none ↔ actionClass r = none
  congr : ∀ r r', c r = c r' ↔ actionClass r = actionClass r'

theorem classifies_actionClass : Classifies actionClass :=
  ⟨fun _ => Iff.rfl, fun _ _ => Iff.rfl⟩

theorem classifies_actionClass066 : Classifies actionClass066 :=
  ⟨actionClass066_eq_none, actionClass066_congr⟩

variable {c : Incident → Option Ask}

theorem Classifies.stamped (h : Classifies c) (r : Incident) (stamps : Stamps) :
    c (r.stamped stamps) = c r :=
  (h.congr _ _).mpr rfl

/-- The stamps of a row outside a boot. -/
def Incident.Stamped (r : Incident) : Prop :=
  if r.ticketID ≠ none then r.stamps.actionableSince = none → r.stamps.snoozedUntil = none
  else if actionClass r = none then r.stamps = .cleared
  else r.stamps.actionableSince ≠ none

instance (r : Incident) : Decidable r.Stamped := by
  unfold Incident.Stamped
  infer_instance

theorem Incident.stamped_issue {r : Incident} (issue : r.ticketID = none) :
    r.Stamped ↔ (actionClass r = none → r.stamps = .cleared) ∧
      (actionClass r ≠ none → r.stamps.actionableSince ≠ none) := by
  by_cases asks : actionClass r = none <;> simp [Incident.Stamped, issue, asks]

theorem Incident.stamped_ticket {r : Incident} (ticket : r.ticketID ≠ none) :
    r.Stamped ↔ (r.stamps.actionableSince = none → r.stamps.snoozedUntil = none) := by
  rw [Incident.Stamped, if_pos ticket]

/-- The stamps of an issue that keeps its age while its ask stays the same. -/
def carried (now : Timestamp) (old new : Incident) : Stamps :=
  if actionClass new = none then .cleared
  else if actionClass old ≠ actionClass new then ⟨some now, none⟩
  else new.stamps

/-- An issue that asks the same as before brings its age along. -/
def Aged (old new : Incident) : Prop :=
  actionClass new ≠ none → actionClass old = actionClass new → new.stamps.actionableSince = none →
    new.stamps.snoozedUntil = none ∧ old.stamps.actionableSince = none

variable {was is : Option Ask}

theorem holdPendingAction_aged {now : Timestamp} {new old : Stamps}
    (aged : is ≠ none → was = is → new.actionableSince = none →
      new.snoozedUntil = none ∧ old.actionableSince = none)
    (fresh : is ≠ none → was ≠ is → new = ⟨some now, none⟩) :
    holdPendingAction now was is new old = new := by
  simp only [holdPendingAction]
  by_cases asks : is = none
  · simp [asks]
  · by_cases same : was = is
    · by_cases unaged : new.actionableSince = none
      · simp [same, unaged, aged asks same unaged]
      · simp [same, unaged]
    · simp only [asks, same, if_false, if_true, ne_eq, not_false_eq_true]
      split
      · exact (fresh asks same).symm
      · rfl

section Classes

variable {c : Incident → Option Ask} (classifies : Classifies c) {now : Timestamp} {old new : Incident}

include classifies

theorem holdPendingAction_carried (aged : Aged old new) :
    holdPendingAction now (c old) (c new) (carried now old new) old.stamps = carried now old new := by
  refine holdPendingAction_aged (fun asks same => ?_) (fun asks changed => ?_)
  · rw [ne_eq, classifies.eq_none] at asks
    rw [classifies.congr] at same
    simpa [carried, asks, same] using aged asks same
  · rw [ne_eq, classifies.eq_none] at asks
    rw [ne_eq, classifies.congr] at changed
    simp [carried, asks, changed]

theorem actionableLifecycle_eq (aged : Aged old new) :
    actionableLifecycle c now (some old) new = new.stamped (carried now old new) := by
  simp only [actionableLifecycle, Option.bind_some]
  by_cases asks : actionClass new = none
  · simp [(classifies.eq_none _).mpr asks, carried, asks]
  · by_cases same : actionClass old = actionClass new
    · have held : new.stamps = carried now old new := by simp [carried, asks, same]
      rw [if_neg (mt (classifies.eq_none _).mp asks), if_neg (by simpa [classifies.congr] using same)]
      rw [held, holdPendingAction_carried classifies aged]
    · rw [if_neg (mt (classifies.eq_none _).mp asks), if_pos (by simpa [classifies.congr] using same)]
      simp [carried, asks, same]

end Classes

theorem getD_unless_same (r old : Incident) :
    (if r = old then none else some r).getD old = r := by
  split
  · next same => exact same.symm
  · rfl

theorem pendingActionGuard_getD (c : Incident → Option Ask) (now : Timestamp) (old new : Incident) :
    (pendingActionGuard c now old new).getD old =
      new.stamped (holdPendingAction now (c old) (c new) new.stamps old.stamps) :=
  getD_unless_same _ _

/-- The row the guard on tickets leaves. -/
def ticketStamps (old new : Incident) : Incident :=
  if new.stamps = .cleared ∧ old.stamps.actionableSince ≠ none then new.stamped old.stamps
  else if old.stamps.actionableSince = none ∧ new.stamps.actionableSince ≠ none ∧
      new.status = old.status ∧ new.stamps.snoozedUntil = old.stamps.snoozedUntil then
    { new with stamps := { new.stamps with actionableSince := none }, updatedAt := old.updatedAt }
  else new

theorem ticketStampsGuard_getD (old new : Incident) :
    (ticketStampsGuard old new).getD old = ticketStamps old new :=
  getD_unless_same _ _

theorem ticketStamps_self (r : Incident) : ticketStamps r r = r := by
  rw [ticketStamps, if_neg, if_neg]
  · exact fun h => h.2.1 h.1
  · rintro ⟨cleared, aged⟩
    exact aged (by rw [cleared]; rfl)

theorem update_eq (i : Installed) (now : Timestamp) (columns : List Column) (old new : Incident)
    {passed guarded : Incident}
    (lifecycle : (if fires i.watched columns then i.lifecycle.lifecycle now (some old) new else new) =
      passed)
    (guard : (if fires guardColumns columns then (i.guard.guard now old passed).getD old else passed) =
      guarded) :
    i.update now columns old new =
      if guarded.ticketID ≠ none ∧ fires ticketColumns columns then ticketStamps old guarded
      else guarded := by
  simp only [Installed.update, Installed.beforeUpdate, lifecycle]
  have last (row : Incident) : (if row.ticketID ≠ none ∧ fires ticketColumns columns then
      ticketStampsGuard old row else some row).getD old =
        if row.ticketID ≠ none ∧ fires ticketColumns columns then ticketStamps old row else row := by
    split
    · exact ticketStampsGuard_getD old row
    · rfl
  by_cases fired : fires guardColumns columns = true
  · simp only [fired, if_true] at guard ⊢
    cases outcome : i.guard.guard now old passed with
    | some row =>
      rw [outcome] at guard
      subst guard
      exact last row
    | none =>
      rw [outcome] at guard
      subst guard
      simp [ticketStamps_self]
  · simp only [fired, if_false, Bool.false_eq_true] at guard ⊢
    subst guard
    exact last _

/-- What is installed when `file` comes next. -/
def File.standing : File → Installed
  | .m064 => .final
  | .m066 =>
    { lifecycle := .m064, watched := [.status, .actionableSince, .snoozedUntil], guard := .m078 }
  | .m072 => { lifecycle := .m066, watched := guardColumns, guard := .m066 }
  | .m073 | .m078 => { Installed.final with lifecycle := .m072, guard := .m072 }

theorem install_standing (file : File) : file.install file.standing = file.next.standing := by
  cases file <;> rfl

/-- The installed functions classify with `c`: all rows, or those without a ticket. -/
structure Installed.Classes (i : Installed) (c : Incident → Option Ask) (tickets : Prop) : Prop where
  classifies : Classifies c
  lifecycle : ∀ now old new, tickets ∨ new.ticketID = none →
    i.lifecycle.lifecycle now old new = actionableLifecycle c now old new
  guard : ∀ now old new, tickets ∨ new.ticketID = none →
    i.guard.guard now old new = pendingActionGuard c now old new
  watches : guardColumns ⊆ i.watched

theorem classes_final : Installed.final.Classes actionClass False where
  classifies := classifies_actionClass
  lifecycle _ _ new h := if_neg (by simpa using h)
  guard _ _ new h := if_neg (by simpa using h)
  watches := by decide

theorem classes_after066 : File.m072.standing.Classes actionClass066 True where
  classifies := classifies_actionClass066
  lifecycle _ _ _ _ := rfl
  guard _ _ _ _ := rfl
  watches := by decide

theorem classes_after072 : File.m073.standing.Classes actionClass True where
  classifies := classifies_actionClass
  lifecycle _ _ _ _ := rfl
  guard _ _ _ _ := rfl
  watches := by decide

section Classes

variable {i : Installed} {c : Incident → Option Ask} {tickets : Prop} {now : Timestamp} {r : Incident}
  {w : Write}

theorem actionClass_apply (untouched : fires guardColumns w.columns = false) :
    actionClass (w.apply r) = actionClass r ∧ (w.apply r).stamps = r.stamps := by
  simp only [fires_guardColumns, Bool.or_eq_false_iff, Option.isSome_eq_false_iff,
    Option.isNone_iff_eq_none] at untouched
  obtain ⟨⟨⟨status, diff⟩, url⟩, snoozed⟩ := untouched
  simp [actionClass, Write.apply, status, diff, url, snoozed]

theorem carried_apply (issue : r.ticketID = none) (stamped : r.Stamped)
    (untouched : fires guardColumns w.columns = false) :
    carried now r (w.apply r) = (w.apply r).stamps := by
  obtain ⟨same, stamps⟩ := actionClass_apply (r := r) untouched
  simp only [Incident.Stamped, issue] at stamped
  by_cases asks : actionClass r = none
  · simp_all [carried]
  · simp [carried, same, asks]

theorem Installed.Classes.update {columns : List Column} {new : Incident} (classes : i.Classes c tickets)
    (covered : tickets ∨ new.ticketID = none) (aged : Aged r new)
    (fired : fires i.watched columns = true) :
    i.update now columns r new =
      if new.ticketID ≠ none ∧ fires ticketColumns columns then
        ticketStamps r (new.stamped (carried now r new))
      else new.stamped (carried now r new) := by
  have lifecycle : (if fires i.watched columns then i.lifecycle.lifecycle now (some r) new else new) =
      new.stamped (carried now r new) := by
    rw [if_pos fired, classes.lifecycle now (some r) new covered,
      actionableLifecycle_eq classes.classifies aged]
  have guard : (if fires guardColumns columns then
      (i.guard.guard now r (new.stamped (carried now r new))).getD r
      else new.stamped (carried now r new)) = new.stamped (carried now r new) := by
    split
    · rw [classes.guard now r (new.stamped (carried now r new)) covered, pendingActionGuard_getD,
        classes.classifies.stamped]
      exact congrArg _ (holdPendingAction_carried classes.classifies aged)
    · rfl
  exact update_eq i now columns r new lifecycle guard

theorem Installed.Classes.update_unwatched (classes : i.Classes c tickets)
    (fired : fires i.watched w.columns = false) :
    i.update now w.columns r (w.apply r) = w.apply r := by
  have guard := unfired_of_subset classes.watches fired
  have ticket : fires ticketColumns w.columns = false := unfired_of_subset (by decide) guard
  rw [update_eq i now w.columns r (w.apply r) (if_neg (by simp [fired])) (if_neg (by simp [guard]))]
  simp [ticket]

theorem Installed.Classes.update_issue (classes : i.Classes c tickets) (issue : r.ticketID = none)
    (stamped : r.Stamped) :
    i.update now w.columns r (w.apply r) = (w.apply r).stamped (carried now r (w.apply r)) := by
  by_cases fired : fires i.watched w.columns = true
  · have aged : Aged r (w.apply r) := by
      intro asks same unaged
      simp only [Incident.Stamped, issue, same, asks, if_false] at stamped
      exact absurd unaged stamped
    rw [classes.update (.inr (by exact issue)) aged fired]
    simp [issue]
  · rw [Bool.not_eq_true] at fired
    have untouched := unfired_of_subset classes.watches fired
    rw [classes.update_unwatched fired, carried_apply issue stamped untouched]
    rfl

theorem carried_stamped (issue : r.ticketID = none) (stamped : r.Stamped) :
    ((w.apply r).stamped (carried now r (w.apply r))).Stamped := by
  rw [Incident.stamped_issue issue] at stamped
  rw [Incident.stamped_issue (by simpa using issue)]
  by_cases asks : actionClass (w.apply r) = none
  · simp [carried, asks]
  · by_cases same : actionClass r = actionClass (w.apply r)
    · simpa [carried, asks, same] using stamped.2 (same ▸ asks)
    · simp [carried, asks, same]

end Classes

/-- The ask a lifecycle function compares; 064 knows one. -/
def Body.ask (body : Body) (r : Incident) : Option Ask :=
  match body with
  | .m064 => if isActionable064 r.status then some .decideHow else none
  | _ => actionClass r

/-- A lifecycle function that treats a ticket's issue like any other leaves its stamps, or the guard on
tickets puts them back. -/
def TicketHeld (lifecycle : Body) (now : Timestamp) (w : Write) (r : Incident) : Prop :=
  if r.stamps.actionableSince = none then
    lifecycle.ask (w.apply r) = none ∨
      (lifecycle ≠ .m064 ∧ lifecycle.ask r = lifecycle.ask (w.apply r)) ∨
      (fires ticketColumns w.columns ∧ (w.apply r).status = r.status)
  else if lifecycle.ask (w.apply r) = none then
    fires ticketColumns w.columns ∧ (w.apply r).stamps.snoozedUntil = r.stamps.snoozedUntil
  else lifecycle.ask r = lifecycle.ask (w.apply r) ∨
    (r.stamps.actionableSince = some now ∧ (w.apply r).stamps.snoozedUntil = none)
  deriving Decidable

/-- An update of a ticket's issue that keeps its stamps. -/
def TicketKept (i : Installed) (now : Timestamp) (w : Write) (r : Incident) : Prop :=
  (r.stamps.actionableSince = none → (w.apply r).stamps.snoozedUntil = none) ∧
    (i.lifecycle ≠ .m078 → fires i.watched w.columns → TicketHeld i.lifecycle now w r)
  deriving Decidable

/-- An update, between 064 and 066, of an issue that is then in review: 064 clears the stamps whenever
it fires, the guard brings the old ones back when the ask stays, and 066 fills in `updated_at`. -/
def ReviewKept (i : Installed) (now : Timestamp) (w : Write) (r : Incident) : Prop :=
  if actionClass r ≠ actionClass (w.apply r) then
    r.stamps.actionableSince ≠ none → fires i.watched w.columns → (w.apply r).updatedAt = now
  else if r.stamps.actionableSince = none then
    (w.apply r).updatedAt = r.updatedAt ∧ (w.apply r).stamps.snoozedUntil = none
  else (w.apply r).stamps.snoozedUntil = r.stamps.snoozedUntil
  deriving Decidable

section Tickets

variable {i : Installed} {c : Incident → Option Ask} {now : Timestamp} {r new : Incident} {w : Write}

theorem ticketStamps_of_aged (aged : r.stamps.actionableSince ≠ none)
    (new_aged : new.stamps.actionableSince ≠ none) : ticketStamps r new = new := by
  rw [ticketStamps, if_neg, if_neg]
  · exact fun h => aged h.1
  · rintro ⟨cleared, -⟩
    exact new_aged (by rw [cleared]; rfl)

theorem ticketStamps_of_cleared (aged : r.stamps.actionableSince ≠ none)
    (cleared : new.stamps = .cleared) : ticketStamps r new = new.stamped r.stamps :=
  if_pos ⟨cleared, aged⟩

theorem ticketStamps_of_unaged (unaged : r.stamps.actionableSince = none)
    (new_unaged : new.stamps.actionableSince = none) : ticketStamps r new = new := by
  simp [ticketStamps, unaged, new_unaged]

theorem ticketStamps_of_swept (unaged : r.stamps = .cleared)
    (new_aged : new.stamps.actionableSince ≠ none) (status : new.status = r.status)
    (snoozed : new.stamps.snoozedUntil = none) :
    ticketStamps r new = { new.stamped .cleared with updatedAt := r.updatedAt } := by
  rw [ticketStamps, if_neg (by simp [unaged, Stamps.cleared]), if_pos]
  · simp [Incident.stamped, Stamps.cleared, snoozed]
  · simp [unaged, Stamps.cleared, new_aged, status, snoozed]

theorem update_ticket_final (ticket : r.ticketID ≠ none) :
    Installed.final.update now w.columns r (w.apply r) = w.apply r := by
  have guard : (if fires guardColumns w.columns then
      (Installed.final.guard.guard now r (w.apply r)).getD r else w.apply r) = w.apply r := by
    split
    · simp [Installed.final, Body.guard, ticket]
    · rfl
  have lifecycle : (if fires Installed.final.watched w.columns then
      Installed.final.lifecycle.lifecycle now (some r) (w.apply r) else w.apply r) = w.apply r := by
    simp [Installed.final, Body.lifecycle, ticket]
  rw [update_eq .final now w.columns r (w.apply r) lifecycle guard]
  split
  · by_cases aged : r.stamps.actionableSince = none
    · exact ticketStamps_of_unaged aged aged
    · exact ticketStamps_of_aged aged aged
  · rfl

/-- Stamps that the guard on tickets turns into those of the write. -/
inductive Recoverable (now : Timestamp) (w : Write) (r : Incident) : Stamps → Prop
  | kept : Recoverable now w r (w.apply r).stamps
  | cleared (aged : r.stamps.actionableSince ≠ none) (fired : fires ticketColumns w.columns = true)
      (snoozed : (w.apply r).stamps.snoozedUntil = r.stamps.snoozedUntil) :
      Recoverable now w r .cleared
  | fresh (unaged : r.stamps = .cleared) (snoozed : (w.apply r).stamps.snoozedUntil = none)
      (fired : fires ticketColumns w.columns = true) (status : (w.apply r).status = r.status) :
      Recoverable now w r ⟨some now, none⟩

theorem Recoverable.recovered {stamps : Stamps} (shape : Recoverable now w r stamps)
    (ticket : r.ticketID ≠ none) :
    ∃ t, (if r.ticketID ≠ none ∧ fires ticketColumns w.columns then
      ticketStamps r ((w.apply r).stamped stamps) else (w.apply r).stamped stamps) =
        { w.apply r with updatedAt := t } := by
  cases shape with
  | kept =>
    refine ⟨(w.apply r).updatedAt, ?_⟩
    rw [Incident.stamped_self]
    split
    · by_cases aged : r.stamps.actionableSince = none
      · exact ticketStamps_of_unaged aged aged
      · exact ticketStamps_of_aged aged aged
    · rfl
  | cleared aged fired snoozed =>
    have same : (w.apply r).stamps = r.stamps := Stamps.ext rfl snoozed
    refine ⟨(w.apply r).updatedAt, ?_⟩
    rw [if_pos ⟨ticket, fired⟩, ticketStamps_of_cleared aged rfl, Incident.stamped_stamped, ← same,
      Incident.stamped_self]
  | fresh unaged snoozed fired status =>
    have same : (w.apply r).stamps = .cleared := Stamps.ext (congrArg (·.actionableSince) unaged) snoozed
    refine ⟨r.updatedAt, ?_⟩
    rw [if_pos ⟨ticket, fired⟩,
      ticketStamps_of_swept unaged (by simp) (by simpa using status) (by simp),
      Incident.stamped_stamped, ← same, Incident.stamped_self]

section Held

variable {body : Body} (stamped : r.stamps.actionableSince = none → r.stamps.snoozedUntil = none)
  (snoozed : r.stamps.actionableSince = none → (w.apply r).stamps.snoozedUntil = none)
  (held : TicketHeld body now w r)

include snoozed held

theorem recoverable_of_left (left : body.ask (w.apply r) = none) : Recoverable now w r .cleared := by
  cases aged : r.stamps.actionableSince with
  | none =>
    have kept : (w.apply r).stamps = .cleared := Stamps.ext aged (snoozed aged)
    exact kept ▸ .kept
  | some since =>
    simp only [TicketHeld, left, aged, reduceCtorEq, if_false, if_true] at held
    exact .cleared (by simp [aged]) held.1 held.2

include stamped

theorem recoverable_of_changed (asks : body.ask (w.apply r) ≠ none)
    (changed : body.ask r ≠ body.ask (w.apply r)) : Recoverable now w r ⟨some now, none⟩ := by
  by_cases unaged : r.stamps.actionableSince = none
  · simp only [TicketHeld, asks, unaged, changed, if_true, and_false, false_or] at held
    exact .fresh (Stamps.ext unaged (stamped unaged)) (snoozed unaged) held.1 held.2
  · simp only [TicketHeld, asks, unaged, changed, if_false, false_or] at held
    have kept : (w.apply r).stamps = ⟨some now, none⟩ := Stamps.ext held.1 held.2
    exact kept ▸ .kept

theorem recoverable_carried (ask : ∀ r, body.ask r = actionClass r) :
    Recoverable now w r (carried now r (w.apply r)) := by
  by_cases asks : actionClass (w.apply r) = none
  · rw [carried, if_pos asks]
    exact recoverable_of_left snoozed held (by rw [ask, asks])
  · by_cases same : actionClass r = actionClass (w.apply r)
    · rw [carried, if_neg asks, if_neg (not_not.mpr same)]
      exact .kept
    · rw [carried, if_neg asks, if_pos same]
      exact recoverable_of_changed stamped snoozed held (by rwa [ask]) (by rwa [ask, ask])

end Held

section Lifecycle064

theorem lifecycle064_left (left : isActionable064 new.status = false) :
    actionableLifecycle064 now (some r) new = new.stamped .cleared := by
  simp [actionableLifecycle064, left]

theorem lifecycle064_entered (is : isActionable064 new.status = true)
    (was : isActionable064 r.status = false) :
    actionableLifecycle064 now (some r) new = new.stamped ⟨some now, none⟩ := by
  simp [actionableLifecycle064, is, was]

theorem lifecycle064_aged (is : isActionable064 new.status = true)
    (was : isActionable064 r.status = true) (aged : new.stamps.actionableSince ≠ none) :
    actionableLifecycle064 now (some r) new = new := by
  simp [actionableLifecycle064, is, was, aged]

theorem lifecycle064_unaged (is : isActionable064 new.status = true)
    (was : isActionable064 r.status = true) (unaged : r.stamps.actionableSince = none)
    (new_unaged : new.stamps.actionableSince = none) :
    actionableLifecycle064 now (some r) new = new.stamped ⟨some now, new.stamps.snoozedUntil⟩ := by
  simp [actionableLifecycle064, is, was, unaged, new_unaged]

end Lifecycle064

theorem recoverable_lifecycle064
    (stamped : r.stamps.actionableSince = none → r.stamps.snoozedUntil = none)
    (snoozed : r.stamps.actionableSince = none → (w.apply r).stamps.snoozedUntil = none)
    (held : TicketHeld .m064 now w r) :
    ∃ stamps, actionableLifecycle064 now (some r) (w.apply r) = (w.apply r).stamped stamps ∧
      Recoverable now w r stamps := by
  cases is : isActionable064 (w.apply r).status with
  | false =>
    exact ⟨_, lifecycle064_left is, recoverable_of_left snoozed held (by simp only [Body.ask, is]; rfl)⟩
  | true =>
    cases was : isActionable064 r.status with
    | false =>
      have asks : Body.ask .m064 (w.apply r) = some .decideHow := by simp only [Body.ask, is, if_true]
      have changed : Body.ask .m064 r ≠ Body.ask .m064 (w.apply r) := by
        rw [asks]
        simp [Body.ask, was]
      exact ⟨_, lifecycle064_entered is was,
        recoverable_of_changed stamped snoozed held (by simp [asks]) changed⟩
    | true =>
      cases aged : r.stamps.actionableSince with
      | none =>
        simp only [TicketHeld, Body.ask, is, was, aged, if_true, ne_eq, not_true_eq_false,
          false_and, false_or, reduceCtorEq] at held
        refine ⟨_, lifecycle064_unaged is was aged aged, ?_⟩
        rw [snoozed aged]
        exact .fresh (Stamps.ext aged (stamped aged)) (snoozed aged) held.1 held.2
      | some since =>
        exact ⟨_, lifecycle064_aged is was (by simp [aged]), .kept⟩

theorem update_ticket_classes (classes : i.Classes c True) (earlier : i.lifecycle ≠ .m078)
    (ask : ∀ r, i.lifecycle.ask r = actionClass r) (ticket : r.ticketID ≠ none) (stamped : r.Stamped)
    (kept : TicketKept i now w r) :
    ∃ t, i.update now w.columns r (w.apply r) = { w.apply r with updatedAt := t } := by
  rw [Incident.stamped_ticket ticket] at stamped
  cases fired : fires i.watched w.columns with
  | false => exact ⟨_, classes.update_unwatched fired⟩
  | true =>
    have aged : Aged r (w.apply r) := fun _ _ unaged => ⟨kept.1 unaged, unaged⟩
    rw [classes.update (.inl trivial) aged fired]
    exact (recoverable_carried stamped kept.1 (kept.2 earlier fired) ask).recovered ticket

theorem update_ticket_after064 (ticket : r.ticketID ≠ none) (stamped : r.Stamped)
    (kept : TicketKept File.m066.standing now w r) :
    ∃ t, File.m066.standing.update now w.columns r (w.apply r) = { w.apply r with updatedAt := t } := by
  rw [Incident.stamped_ticket ticket] at stamped
  have passes (row : Incident) (row_ticket : row.ticketID ≠ none) :
      (if fires guardColumns w.columns then
        (File.m066.standing.guard.guard now r row).getD r else row) = row := by
    simp [File.standing, Body.guard, row_ticket]
  cases fired : fires File.m066.standing.watched w.columns with
  | false =>
    have unfired : fires ticketColumns w.columns = false := fired
    rw [update_eq _ now w.columns r (w.apply r) (if_neg (by simp [fired])) (passes _ ticket)]
    exact ⟨_, if_neg (by simp [unfired])⟩
  | true =>
    obtain ⟨stamps, passed, shape⟩ :=
      recoverable_lifecycle064 stamped kept.1 (kept.2 (by decide) fired)
    rw [update_eq _ now w.columns r (w.apply r) ((if_pos fired).trans passed) (passes _ ticket)]
    exact shape.recovered ticket

theorem update_ticket (file : File) (ticket : r.ticketID ≠ none) (stamped : r.Stamped)
    (kept : TicketKept file.standing now w r) :
    ∃ t, file.standing.update now w.columns r (w.apply r) = { w.apply r with updatedAt := t } := by
  cases file with
  | m064 => exact ⟨_, update_ticket_final ticket⟩
  | m066 => exact update_ticket_after064 ticket stamped kept
  | m072 =>
    exact update_ticket_classes classes_after066 (by decide) (fun _ => rfl) ticket stamped kept
  | m073 | m078 =>
    exact update_ticket_classes classes_after072 (by decide) (fun _ => rfl) ticket stamped kept

end Tickets

section Reviews

variable {now : Timestamp} {r : Incident} {w : Write}

/-- An issue in review whose age 066 fills in. -/
structure Pending (r : Incident) : Prop where
  issue : r.ticketID = none
  review : isReview r.status = true
  unaged : r.stamps = .cleared

/-- The stamps after an update between 064 and 066, of an issue that is then in review. -/
def reviewStamps (fired : Bool) (now : Timestamp) (old new : Incident) : Stamps :=
  if actionClass old = actionClass new then old.stamps
  else if old.stamps.actionableSince = none ∨ fired = false then ⟨some now, none⟩
  else .cleared

theorem cleared_of_unaged (issue : r.ticketID = none) (known : r.Stamped ∨ Pending r)
    (unaged : r.stamps.actionableSince = none) : r.stamps = .cleared := by
  obtain stamped | pending := known
  · rw [Incident.stamped_issue issue] at stamped
    by_cases asks : actionClass r = none
    · exact stamped.1 asks
    · exact absurd unaged (stamped.2 asks)
  · exact pending.unaged

theorem update_after064 {passed : Incident}
    (lifecycle : (if fires File.m066.standing.watched w.columns then
      actionableLifecycle064 now (some r) (w.apply r) else w.apply r) = passed)
    (passed_issue : passed.ticketID = none) :
    File.m066.standing.update now w.columns r (w.apply r) =
      if fires guardColumns w.columns then
        passed.stamped (holdPendingAction now (actionClass r) (actionClass passed) passed.stamps r.stamps)
      else passed := by
  have guard : (if fires guardColumns w.columns then
      (File.m066.standing.guard.guard now r passed).getD r else passed) =
        if fires guardColumns w.columns then passed.stamped
          (holdPendingAction now (actionClass r) (actionClass passed) passed.stamps r.stamps)
        else passed := by
    simp only [File.standing, Body.guard, passed_issue, ne_eq, not_true_eq_false, if_false,
      pendingActionGuard_getD]
  rw [update_eq File.m066.standing now w.columns r (w.apply r) lifecycle guard]
  split <;> simp [passed_issue]

theorem apply_of_unfired (unfired : fires File.m066.standing.watched w.columns = false) :
    (w.apply r).status = r.status ∧ (w.apply r).stamps = r.stamps := by
  have watched : fires File.m066.standing.watched w.columns = fires ticketColumns w.columns := rfl
  rw [watched, fires_ticketColumns, Bool.or_eq_false_iff, Option.isSome_eq_false_iff,
    Option.isSome_eq_false_iff, Option.isNone_iff_eq_none, Option.isNone_iff_eq_none] at unfired
  exact ⟨by simp [unfired.1], Stamps.ext rfl (by simp [unfired.2])⟩

theorem guard_of_fired (fired : fires File.m066.standing.watched w.columns = true) :
    fires guardColumns w.columns = true := by
  by_contra unfired
  have none : fires File.m066.standing.watched w.columns = false :=
    unfired_of_subset (by decide) (Bool.eq_false_iff.mpr unfired)
  rw [fired] at none
  cases none

theorem holdPendingAction_self {old : Stamps} (asks : is ≠ none)
    (lone : old.actionableSince = none → old = .cleared) :
    holdPendingAction now was is old old = if was = is then old else ⟨some now, none⟩ := by
  by_cases unaged : old.actionableSince = none
  · rw [lone unaged]
    by_cases same : was = is <;> simp [holdPendingAction, asks, same, Stamps.cleared]
  · by_cases same : was = is <;> simp [holdPendingAction, asks, same, unaged]

theorem holdPendingAction_cleared {old : Stamps} (asks : is ≠ none)
    (lone : old.actionableSince = none → old = .cleared) :
    holdPendingAction now was is .cleared old =
      if was = is then old
      else if old.actionableSince = none then ⟨some now, none⟩ else .cleared := by
  by_cases unaged : old.actionableSince = none
  · rw [lone unaged]
    by_cases same : was = is <;> simp [holdPendingAction, asks, same, Stamps.cleared]
  · by_cases same : was = is <;>
      simp [holdPendingAction, asks, same, unaged, Stamps.cleared, eq_comm]

theorem update_review (issue : r.ticketID = none) (known : r.Stamped ∨ Pending r)
    (review : isReview (w.apply r).status = true) :
    File.m066.standing.update now w.columns r (w.apply r) = (w.apply r).stamped
      (reviewStamps (fires File.m066.standing.watched w.columns) now r (w.apply r)) := by
  have asks : actionClass (w.apply r) ≠ none := by
    simp [actionClass_eq_none, -Write.apply_status, review]
  have lone := cleared_of_unaged issue known
  cases fired : fires File.m066.standing.watched w.columns with
  | false =>
    obtain ⟨-, stamps⟩ := apply_of_unfired (r := r) fired
    rw [update_after064 (if_neg (by simp [fired])) issue]
    cases guarded : fires guardColumns w.columns with
    | false =>
      have same := (actionClass_apply (r := r) guarded).1
      simp [reviewStamps, same, ← stamps]
    | true =>
      rw [stamps, holdPendingAction_self asks lone]
      simp [reviewStamps]
  | true =>
    have left : isActionable064 (w.apply r).status = false := by
      cases h : (w.apply r).status <;> simp_all [isReview, isActionable064]
    rw [update_after064 ((if_pos fired).trans (lifecycle064_left left)) issue,
      if_pos (guard_of_fired fired), actionClass_stamped, Incident.stamped_stamps,
      holdPendingAction_cleared asks lone]
    simp [reviewStamps]

theorem holdPendingAction_brought {new old : Stamps} (asks : is ≠ none)
    (aged : old.actionableSince ≠ none) (brought : new.actionableSince = old.actionableSince) :
    holdPendingAction now was is new old = if was = is then new else ⟨some now, none⟩ := by
  by_cases same : was = is <;> simp [holdPendingAction, asks, same, aged, brought]

theorem carried_asks {old new : Incident} (asks : actionClass new ≠ none) : carried now old new =
    if actionClass old = actionClass new then new.stamps else ⟨some now, none⟩ := by
  by_cases same : actionClass old = actionClass new <;> simp [carried, asks, same]

theorem actionClass_ne {old new : Incident} (was : isActionable064 old.status = false)
    (is : isActionable064 new.status = true) : actionClass old ≠ actionClass new := by
  cases h : old.status <;> cases h' : new.status <;> simp_all [isActionable064, actionClass] <;>
    cases filled old.prURL <;> cases filled new.candidateDiff <;> simp

theorem update_unreviewed (issue : r.ticketID = none) (known : r.Stamped ∨ Pending r)
    (review : isReview (w.apply r).status = false) :
    File.m066.standing.update now w.columns r (w.apply r) =
      (w.apply r).stamped (carried now r (w.apply r)) := by
  have lone := cleared_of_unaged issue known
  cases fired : fires File.m066.standing.watched w.columns with
  | false =>
    obtain ⟨status, stamps⟩ := apply_of_unfired (r := r) fired
    have stamped : r.Stamped := known.resolve_right fun pending => by
      rw [status, pending.review] at review
      cases review
    rw [update_after064 (if_neg (by simp [fired])) issue]
    cases guarded : fires guardColumns w.columns with
    | false => simp [carried_apply issue stamped guarded]
    | true =>
      by_cases asks : actionClass (w.apply r) = none
      · have left : actionClass r = none := by
          rw [actionClass_eq_none, status, ← actionClass_eq_none] at asks
          exact asks
        have cleared := ((Incident.stamped_issue issue).mp stamped).1 left
        simp [carried, asks, holdPendingAction, stamps, cleared]
      · simp only [if_true, carried_asks asks, stamps, holdPendingAction_self asks lone]
  | true =>
    by_cases asks : actionClass (w.apply r) = none
    · have left := ((actionClass_eq_none _).mp asks).1
      rw [update_after064 ((if_pos fired).trans (lifecycle064_left left)) issue,
        if_pos (guard_of_fired fired)]
      simp [carried, asks, holdPendingAction]
    · have is : isActionable064 (w.apply r).status = true := by
        rw [actionClass_eq_none, review] at asks
        simpa [-Write.apply_status] using asks
      cases was : isActionable064 r.status with
      | false =>
        have changed := actionClass_ne was is
        rw [update_after064 ((if_pos fired).trans (lifecycle064_entered is was)) issue,
          if_pos (guard_of_fired fired), carried_asks asks, if_neg changed, actionClass_stamped,
          Incident.stamped_stamps, holdPendingAction_aged (fun _ same => absurd same changed) (fun _ _ => rfl)]
        rfl
      | true =>
        have aged : r.stamps.actionableSince ≠ none := by
          obtain stamped | pending := known
          · refine ((Incident.stamped_issue issue).mp stamped).2 ?_
            simp [actionClass_eq_none, was]
          · have review := pending.review
            cases h : r.status <;> simp_all [isReview, isActionable064]
        rw [update_after064 ((if_pos fired).trans (lifecycle064_aged is was aged)) issue,
          if_pos (guard_of_fired fired), carried_asks asks]
        exact congrArg _ (holdPendingAction_brought asks aged rfl)

end Reviews

/-- A row of the replayed database and the row without replays. -/
inductive Agrees (next : File) : Incident → Incident → Prop
  | issue {r : Incident} (issue : r.ticketID = none) (stamped : r.Stamped) : Agrees next r r
  | pending {r : Incident} (window : next = .m066) (pending : Pending r) :
      Agrees next r (r.stamped ⟨some r.updatedAt, none⟩)
  | ticket {r : Incident} (t : Timestamp) (ticket : r.ticketID ≠ none) (stamped : r.Stamped) :
      Agrees next { r with updatedAt := t } r

/-- An update that keeps the age of the row it meets. -/
def UpdateKept (i : Installed) (now : Timestamp) (w : Write) (r : Incident) : Prop :=
  if r.ticketID ≠ none then TicketKept i now w r
  else i.lifecycle = .m064 → isReview (w.apply r).status = true → ReviewKept i now w r
  deriving Decidable

/-- An inserted row that gets the stamps of the final functions. -/
def InsertKept (i : Installed) (now : Timestamp) (r : Incident) : Prop :=
  if r.ticketID ≠ none then
    r.Stamped ∧ (i.lifecycle ≠ .m078 →
      r.stamps = if i.lifecycle.ask r = none then .cleared else ⟨some now, none⟩)
  else i.lifecycle = .m064 → isReview r.status = true → r.updatedAt = now
  deriving Decidable

/-- The condition on a step of the replayed database. -/
def Kept (s : Database) : Act → Prop
  | .replay _ => True
  | .insert id row now => s.rows id = none → InsertKept s.installed now row
  | .update id write now => ∀ row, s.rows id = some row → UpdateKept s.installed now write row

instance (s : Database) (a : Act) : Decidable (Kept s a) :=
  match a with
  | .replay _ => .isTrue trivial
  | .insert id row now => inferInstanceAs (Decidable (s.rows id = none → InsertKept s.installed now row))
  | .update id write now =>
    match found : s.rows id with
    | none => .isTrue fun row known => by rw [found] at known; cases known
    | some row => decidable_of_iff (UpdateKept s.installed now write row)
        ⟨fun kept _ known => by rw [found] at known; cases known; exact kept,
          fun kept => kept row found⟩

section Updates

variable {file : File} {now : Timestamp} {r ref : Incident} {w : Write}

theorem update_issue_final (issue : r.ticketID = none) (stamped : r.Stamped) :
    Installed.final.update now w.columns r (w.apply r) =
      (w.apply r).stamped (carried now r (w.apply r)) :=
  classes_final.update_issue issue stamped

theorem update_issue_standing (file : File) (later : file ≠ .m066) (issue : r.ticketID = none)
    (stamped : r.Stamped) : file.standing.update now w.columns r (w.apply r) =
      Installed.final.update now w.columns r (w.apply r) := by
  rw [update_issue_final issue stamped]
  cases file with
  | m064 => exact classes_final.update_issue issue stamped
  | m066 => exact absurd rfl later
  | m072 => exact classes_after066.update_issue issue stamped
  | m073 | m078 => exact classes_after072.update_issue issue stamped

theorem Pending.reference (pending : Pending r) :
    (r.stamped ⟨some r.updatedAt, none⟩).Stamped := by
  rw [Incident.stamped_issue (by simpa using pending.issue)]
  refine ⟨fun left => ?_, fun _ => by simp⟩
  rw [actionClass_eq_none, Incident.stamped_status, pending.review] at left
  cases left.2

theorem carried_reference {s : Stamps} : carried now (r.stamped s) (w.apply (r.stamped s)) =
    if actionClass (w.apply r) = none then .cleared
    else if actionClass r ≠ actionClass (w.apply r) then ⟨some now, none⟩
    else ⟨s.actionableSince, w.snoozedUntil.getD s.snoozedUntil⟩ := rfl

theorem Agrees.update_reviewed (issue : r.ticketID = none) (stamped : r.Stamped)
    (review : isReview (w.apply r).status = true) (kept : ReviewKept File.m066.standing now w r) :
    Agrees .m066 (File.m066.standing.update now w.columns r (w.apply r))
      (Installed.final.update now w.columns r (w.apply r)) := by
  have asks : actionClass (w.apply r) ≠ none := by
    simp [actionClass_eq_none, -Write.apply_status, review]
  have still : ((w.apply r).stamped (carried now r (w.apply r))).Stamped := carried_stamped issue stamped
  rw [update_review issue (.inl stamped) review, update_issue_final issue stamped]
  by_cases same : actionClass r = actionClass (w.apply r)
  · have aged := ((Incident.stamped_issue issue).mp stamped).2 (same ▸ asks)
    simp only [ReviewKept, same, ne_eq, not_true_eq_false, if_false, aged] at kept
    have stamps : (w.apply r).stamps = r.stamps := Stamps.ext rfl kept
    rw [carried_asks asks, if_pos same] at still ⊢
    rw [reviewStamps, if_pos same, ← stamps]
    exact .issue issue still
  · rw [carried_asks asks, if_neg same] at still ⊢
    rw [reviewStamps, if_neg same]
    split
    · exact .issue issue still
    · next cleared =>
      rw [not_or, Bool.not_eq_false] at cleared
      simp only [ReviewKept, same, ne_eq, not_false_eq_true, if_true] at kept
      have touched : (w.apply r).updatedAt = now := kept cleared.1 cleared.2
      rw [← touched]
      exact .pending (r := (w.apply r).stamped .cleared) rfl ⟨issue, review, rfl⟩

theorem Agrees.update_pending (pending : Pending r)
    (kept : isReview (w.apply r).status = true → ReviewKept File.m066.standing now w r)
    (reference : ref = r.stamped ⟨some r.updatedAt, none⟩) :
    Agrees .m066 (File.m066.standing.update now w.columns r (w.apply r))
      (Installed.final.update now w.columns ref (w.apply ref)) := by
  have issue : ref.ticketID = none := by rw [reference]; exact pending.issue
  have stamped : ref.Stamped := reference ▸ pending.reference
  have still : ((w.apply ref).stamped (carried now ref (w.apply ref))).Stamped :=
    carried_stamped issue stamped
  rw [update_issue_final issue stamped]
  subst reference
  rw [carried_reference] at still ⊢
  cases review : isReview (w.apply r).status with
  | false =>
    have changed : actionClass (w.apply r) ≠ none → actionClass r ≠ actionClass (w.apply r) := by
      intro asks
      refine actionClass_ne ?_ ?_
      · have review := pending.review
        cases h : r.status <;> simp_all [isReview, isActionable064]
      · rw [ne_eq, actionClass_eq_none, review] at asks
        simpa [-Write.apply_status] using asks
    rw [update_unreviewed pending.issue (.inr pending) review, carried]
    by_cases asks : actionClass (w.apply r) = none
    · rw [if_pos asks] at still ⊢
      rw [if_pos asks]
      exact .issue (by exact issue) still
    · rw [if_neg asks, if_pos (changed asks)] at still ⊢
      rw [if_neg asks, if_pos (changed asks)]
      exact .issue (by exact issue) still
  | true =>
    have asks : actionClass (w.apply r) ≠ none := by
      simp [actionClass_eq_none, -Write.apply_status, review]
    have unaged : r.stamps.actionableSince = none := by rw [pending.unaged]; rfl
    rw [update_review pending.issue (.inr pending) review, reviewStamps]
    rw [if_neg asks] at still ⊢
    by_cases same : actionClass r = actionClass (w.apply r)
    · have held := kept review
      simp only [ReviewKept, same, unaged, ne_eq, not_true_eq_false, if_false, if_true] at held
      have snoozed : w.snoozedUntil.getD none = none := by
        simpa [pending.unaged, Stamps.cleared] using held.2
      rw [if_pos same, if_neg (not_not.mpr same), snoozed, ← held.1, pending.unaged]
      exact .pending (r := (w.apply r).stamped .cleared) rfl ⟨pending.issue, review, rfl⟩
    · rw [if_neg same, if_pos (.inl unaged)]
      rw [if_pos same] at still ⊢
      exact .issue (by exact issue) still

theorem Agrees.update (agrees : Agrees file r ref) (kept : UpdateKept file.standing now w r) :
    Agrees file (file.standing.update now w.columns r (w.apply r))
      (Installed.final.update now w.columns ref (w.apply ref)) := by
  cases agrees with
  | issue issue stamped =>
    rw [UpdateKept, if_neg (not_not.mpr issue)] at kept
    by_cases window : file = .m066
    · subst window
      cases review : isReview (w.apply r).status with
      | true => exact .update_reviewed issue stamped review (kept rfl review)
      | false =>
        rw [update_unreviewed issue (.inl stamped) review, update_issue_final issue stamped]
        exact .issue issue (carried_stamped issue stamped)
    · rw [update_issue_standing file window issue stamped, update_issue_final issue stamped]
      exact .issue issue (carried_stamped issue stamped)
  | pending window pending =>
    subst window
    rw [UpdateKept, if_neg (not_not.mpr pending.issue)] at kept
    exact .update_pending pending (kept rfl) rfl
  | ticket t ticket stamped =>
    rw [UpdateKept, if_pos ticket] at kept
    obtain ⟨t', updated⟩ :=
      update_ticket (r := { ref with updatedAt := t }) file ticket stamped kept
    rw [updated, update_ticket_final ticket]
    have still : (w.apply ref).Stamped := (Incident.stamped_ticket (by exact ticket)).mpr kept.1
    exact .ticket t' (by exact ticket) still

end Updates

section Sweeps

variable {file : File} {now : Timestamp} {r ref : Incident}

theorem insert_class (classifies : Classifies c) :
    actionableLifecycle c now none r =
      r.stamped (if actionClass r = none then .cleared else ⟨some now, none⟩) := by
  cases asks : c r with
  | none => simp [actionableLifecycle, asks, (classifies.eq_none r).mp asks]
  | some ask =>
    have : actionClass r ≠ none := (classifies.eq_none r).not.mp (by simp [asks])
    simp [actionableLifecycle, asks, this]

theorem insert_ask (file : File) (covered : file ≠ .m064 ∨ r.ticketID = none) :
    file.standing.insert now r =
      r.stamped (if file.standing.lifecycle.ask r = none then .cleared else ⟨some now, none⟩) := by
  cases file with
  | m064 =>
    have issue := covered.resolve_left (not_not.mpr rfl)
    exact (if_neg (not_not.mpr issue)).trans (insert_class classifies_actionClass)
  | m066 =>
    cases is : isActionable064 r.status <;>
      simp [Installed.insert, File.standing, Body.lifecycle, actionableLifecycle064, Body.ask, is]
  | m072 => exact insert_class classifies_actionClass066
  | m073 | m078 => exact insert_class classifies_actionClass

theorem insert_ticket_final (ticket : r.ticketID ≠ none) : Installed.final.insert now r = r :=
  if_pos ticket

theorem insert_issue_final (issue : r.ticketID = none) : Installed.final.insert now r =
    r.stamped (if actionClass r = none then .cleared else ⟨some now, none⟩) :=
  insert_ask .m064 (.inr issue)

theorem insert_stamped (issue : r.ticketID = none) :
    (r.stamped (if actionClass r = none then .cleared else ⟨some now, none⟩)).Stamped := by
  rw [Incident.stamped_issue (by exact issue)]
  by_cases asks : actionClass r = none <;> simp [asks]

theorem Agrees.insert_issue (issue : r.ticketID = none) (kept : InsertKept file.standing now r) :
    Agrees file (file.standing.insert now r) (Installed.final.insert now r) := by
  have still : (r.stamped (if actionClass r = none then .cleared else ⟨some now, none⟩)).Stamped :=
    insert_stamped issue
  rw [insert_ask file (.inr issue), insert_issue_final issue]
  by_cases window : file = .m066
  · subst window
    rw [InsertKept, if_neg (not_not.mpr issue)] at kept
    cases is : isActionable064 r.status with
    | true =>
      have asks : actionClass r ≠ none := by simp [actionClass_eq_none, is]
      rw [if_neg asks] at still ⊢
      simpa [File.standing, Body.ask, is] using Agrees.issue (by exact issue) still
    | false =>
      cases review : isReview r.status with
      | true =>
        have asks : actionClass r ≠ none := by simp [actionClass_eq_none, review]
        have touched : r.updatedAt = now := kept rfl review
        rw [if_neg asks, ← touched]
        simpa [File.standing, Body.ask, is] using
          Agrees.pending (r := r.stamped .cleared) rfl ⟨issue, review, rfl⟩
      | false =>
        have asks : actionClass r = none := (actionClass_eq_none r).mpr ⟨is, review⟩
        rw [if_pos asks] at still ⊢
        simpa [File.standing, Body.ask, is] using Agrees.issue (by exact issue) still
  · have ask : file.standing.lifecycle.ask r = actionClass r := by
      cases file with
      | m066 => exact absurd rfl window
      | m064 | m072 | m073 | m078 => rfl
    rw [ask]
    exact .issue (by exact issue) still

theorem Agrees.insert (kept : InsertKept file.standing now r) :
    Agrees file (file.standing.insert now r) (Installed.final.insert now r) := by
  by_cases ticket : r.ticketID = none
  · exact .insert_issue ticket kept
  · rw [InsertKept, if_pos ticket] at kept
    have untouched : file.standing.insert now r = r := by
      cases file with
      | m064 => exact insert_ticket_final ticket
      | m066 | m072 | m073 | m078 =>
        rw [insert_ask _ (.inl (by decide)), ← kept.2 (by decide), Incident.stamped_self]
    rw [untouched, insert_ticket_final ticket]
    exact .ticket r.updatedAt ticket kept.1

variable {covers : GroupStatus → Bool}

theorem backfill_eq {i : Installed} {since : Incident → Timestamp}
    (updated : covers r.status = true → r.stamps.actionableSince = none →
      i.update now [.actionableSince] r
        { r with stamps := { r.stamps with actionableSince := some (since r) } } = r) :
    i.backfill now covers since r = r := by
  rw [Installed.backfill]
  split
  · next covered => exact updated covered.1 covered.2
  · rfl

theorem repair_eq {i : Installed} (updated : covers r.status = false → r.stamps ≠ .cleared →
      i.update now [.actionableSince, .snoozedUntil] r (r.stamped .cleared) = r) :
    i.repair now covers r = r := by
  rw [Installed.repair]
  split
  · next left => exact updated (by simpa using left.1) left.2
  · rfl

theorem repair064_review (issue : r.ticketID = none) (asks : actionClass r ≠ none)
    (aged : r.stamps.actionableSince ≠ none) (left : isActionable064 r.status = false) :
    File.m066.standing.update now [.actionableSince, .snoozedUntil] r (r.stamped .cleared) = r := by
  have guard : (if fires guardColumns [.actionableSince, .snoozedUntil] then
      (File.m066.standing.guard.guard now r (r.stamped .cleared)).getD r else r.stamped .cleared) = r := by
    have held : holdPendingAction now (actionClass r) (actionClass r) .cleared r.stamps = r.stamps := by
      rw [holdPendingAction_cleared asks (fun unaged => absurd unaged aged), if_pos rfl]
    rw [if_pos (by decide)]
    simp only [File.standing, Body.guard, Incident.stamped_ticketID, issue, ne_eq, not_true_eq_false,
      if_false, pendingActionGuard_getD, actionClass_stamped, Incident.stamped_stamps, held,
      Incident.stamped_stamped, Incident.stamped_self]
  have lifecycle : (if fires File.m066.standing.watched [.actionableSince, .snoozedUntil] then
      File.m066.standing.lifecycle.lifecycle now (some r) (r.stamped .cleared)
      else r.stamped .cleared) = r.stamped .cleared :=
    (if_pos (by decide)).trans (lifecycle064_left left)
  rw [update_eq _ now _ r _ lifecycle guard]
  simp [issue]

theorem sweep_issue (issue : r.ticketID = none) (stamped : r.Stamped) :
    file.sweep file.next.standing now r = r := by
  rw [Incident.stamped_issue issue] at stamped
  have unasked (unaged : r.stamps.actionableSince = none) :
      isActionable064 r.status = false ∧ isReview r.status = false :=
    (actionClass_eq_none r).mp (by_contra fun asks => stamped.2 asks unaged)
  cases file with
  | m064 =>
    have backfilled : File.m066.standing.backfill now isActionable064 (fun r =>
        if r.status = .needsHuman then r.needsHumanAt.getD r.updatedAt else r.updatedAt) r = r := by
      refine backfill_eq fun covered unaged => ?_
      rw [(unasked unaged).1] at covered
      cases covered
    simp only [File.sweep, File.next, backfilled]
    refine repair_eq fun left marked => ?_
    have asks : actionClass r ≠ none := fun none => marked (stamped.1 none)
    exact repair064_review issue asks (stamped.2 asks) left
  | m066 =>
    have backfilled : File.m072.standing.backfill now isReview (·.updatedAt) r = r := by
      refine backfill_eq fun covered unaged => ?_
      rw [(unasked unaged).2] at covered
      cases covered
    simp only [File.sweep, File.next, backfilled]
    refine repair_eq fun left marked => ?_
    rw [Bool.or_eq_false_iff] at left
    exact absurd (stamped.1 ((actionClass_eq_none r).mpr left)) marked
  | m072 | m073 | m078 => rfl

theorem sweep_pending (pending : Pending r) :
    File.m066.sweep File.m072.standing now r = r.stamped ⟨some r.updatedAt, none⟩ := by
  have unaged : r.stamps.actionableSince = none := by rw [pending.unaged]; rfl
  have filled : File.m072.standing.update now [.actionableSince] r
      (r.stamped ⟨some r.updatedAt, none⟩) = r.stamped ⟨some r.updatedAt, none⟩ := by
    rw [classes_after066.update (.inl trivial) (fun _ _ none => by simp at none) (by decide)]
    simp [pending.issue, carried, actionClass_eq_none, pending.review]
  have backfilled : File.m072.standing.backfill now isReview (·.updatedAt) r =
      r.stamped ⟨some r.updatedAt, none⟩ := by
    rw [Installed.backfill, if_pos ⟨pending.review, unaged⟩, ← filled, pending.unaged]
    rfl
  simp only [File.sweep, backfilled]
  refine repair_eq fun left _ => ?_
  rw [Incident.stamped_status, pending.review, Bool.or_true] at left
  cases left

/-- A stamp on a ticket's issue without an age, or the removal of one. -/
def Swept (r : Incident) (stamps : Stamps) : Prop :=
  r.stamps.actionableSince ≠ none ∧ stamps = .cleared ∨
    r.stamps = .cleared ∧ stamps.actionableSince ≠ none ∧ stamps.snoozedUntil = none

theorem ticketStamps_swept {stamps : Stamps} (swept : Swept r stamps) :
    ticketStamps r (r.stamped stamps) = r := by
  obtain ⟨aged, cleared⟩ | ⟨unaged, aged, snoozed⟩ := swept
  · exact ticketStamps_of_cleared aged cleared
  · rw [ticketStamps_of_swept unaged (by exact aged) (by rfl) (by exact snoozed),
      Incident.stamped_stamped, ← unaged]
    rfl

theorem swept_backfill {since : Timestamp} (unaged : r.stamps.actionableSince = none)
    (stamped : r.stamps.actionableSince = none → r.stamps.snoozedUntil = none) :
    Swept r { r.stamps with actionableSince := some since } :=
  .inr ⟨Stamps.ext unaged (stamped unaged), by simp, stamped unaged⟩

theorem swept_repair (marked : r.stamps ≠ .cleared)
    (stamped : r.stamps.actionableSince = none → r.stamps.snoozedUntil = none) :
    Swept r .cleared :=
  .inl ⟨fun unaged => marked (Stamps.ext unaged (stamped unaged)), rfl⟩

theorem update_swept064 {columns : List Column} {stamps : Stamps} (ticket : r.ticketID ≠ none)
    (fired : fires ticketColumns columns = true) (swept : Swept r stamps)
    (lifecycle : actionableLifecycle064 now (some r) (r.stamped stamps) = r.stamped stamps) :
    File.m066.standing.update now columns r (r.stamped stamps) = r := by
  have passed : (if fires File.m066.standing.watched columns then
      File.m066.standing.lifecycle.lifecycle now (some r) (r.stamped stamps) else r.stamped stamps) =
        r.stamped stamps := by
    split
    · exact lifecycle
    · rfl
  have guarded : (if fires guardColumns columns then
      (File.m066.standing.guard.guard now r (r.stamped stamps)).getD r else r.stamped stamps) =
        r.stamped stamps := by
    simp [File.standing, Body.guard, ticket]
  rw [update_eq _ now columns r _ passed guarded, if_pos ⟨by exact ticket, fired⟩]
  exact ticketStamps_swept swept

theorem update_swept066 {columns : List Column} {stamps : Stamps} (ticket : r.ticketID ≠ none)
    (fired : fires ticketColumns columns = true) (swept : Swept r stamps)
    (aged : Aged r (r.stamped stamps)) (kept : carried now r (r.stamped stamps) = stamps) :
    File.m072.standing.update now columns r (r.stamped stamps) = r := by
  have watched : fires File.m072.standing.watched columns = true := by
    by_contra unfired
    rw [unfired_of_subset (by decide) (Bool.eq_false_iff.mpr unfired)] at fired
    cases fired
  rw [classes_after066.update (.inl trivial) aged watched, kept, if_pos ⟨by exact ticket, fired⟩]
  exact ticketStamps_swept swept

theorem sweep_ticket (ticket : r.ticketID ≠ none) (stamped : r.Stamped) :
    file.sweep file.next.standing now r = r := by
  rw [Incident.stamped_ticket ticket] at stamped
  cases file with
  | m064 =>
    have backfilled : File.m066.standing.backfill now isActionable064 (fun r =>
        if r.status = .needsHuman then r.needsHumanAt.getD r.updatedAt else r.updatedAt) r = r :=
      backfill_eq fun covered unaged => update_swept064 ticket (by decide)
        (swept_backfill unaged stamped) (lifecycle064_aged covered covered (by simp))
    simp only [File.sweep, File.next, backfilled]
    exact repair_eq fun left marked => update_swept064 ticket (by decide)
      (swept_repair marked stamped) (lifecycle064_left left)
  | m066 =>
    have backfilled : File.m072.standing.backfill now isReview (·.updatedAt) r = r := by
      refine backfill_eq fun covered unaged => update_swept066 ticket (by decide)
        (swept_backfill unaged stamped) (fun _ _ none => by simp at none) ?_
      simp [carried, actionClass_eq_none, covered]
    simp only [File.sweep, File.next, backfilled]
    refine repair_eq fun left marked => update_swept066 ticket (by decide)
      (swept_repair marked stamped) ?_ ?_
    all_goals
      rw [Bool.or_eq_false_iff, ← actionClass_eq_none] at left
      simp [Aged, carried, left]
  | m072 | m073 | m078 => rfl

theorem Agrees.replay (agrees : Agrees file r ref) :
    Agrees file.next (file.sweep file.next.standing now r) ref := by
  cases agrees with
  | issue issue stamped =>
    rw [sweep_issue issue stamped]
    exact .issue issue stamped
  | pending window pending =>
    subst window
    rw [show File.m066.next = .m072 from rfl, sweep_pending pending]
    exact .issue pending.issue pending.reference
  | ticket t ticket stamped =>
    rw [sweep_ticket (by exact ticket) (by exact stamped)]
    exact .ticket t ticket stamped

end Sweeps

/-- Every row of one table, and the same row of the other. -/
def RowsAgree (next : File) : Option Incident → Option Incident → Prop
  | some r, some ref => Agrees next r ref
  | none, none => True
  | _, _ => False

structure DatabasesAgree (s : Database) (rows : Rows) : Prop where
  installed : s.installed = s.next.standing
  rows : ∀ id, RowsAgree s.next (s.rows id) (rows id)

theorem RowsAgree.row {next : File} {r : Incident} {ref : Option Incident}
    (agree : RowsAgree next (some r) ref) : ∃ row, ref = some row ∧ Agrees next r row := by
  cases ref with
  | some row => exact ⟨row, rfl, agree⟩
  | none => cases agree

theorem RowsAgree.none_iff {next : File} {r ref : Option Incident} (agree : RowsAgree next r ref) :
    r = none ↔ ref = none := by
  cases r <;> cases ref <;> simp_all [RowsAgree]

theorem rowsAgree_update {next : File} {srows rows : Rows} (agree : ∀ id, RowsAgree next (srows id) (rows id))
    {id : UUID} {r ref : Incident} (row : Agrees next r ref) (other : UUID) :
    RowsAgree next (Function.update srows id (some r) other) (Function.update rows id (some ref) other) := by
  by_cases same : other = id
  · subst same
    simpa [RowsAgree] using row
  · simpa [Function.update_of_ne same] using agree other

theorem DatabasesAgree.step {s : Database} {rows : Rows} {a : Act} (agree : DatabasesAgree s rows)
    (kept : Kept s a) : DatabasesAgree (s.step a) (rows.step a) := by
  have same := agree.rows
  cases a with
  | replay now =>
    refine ⟨by simp [Database.step, agree.installed, install_standing], fun id => ?_⟩
    have row := same id
    simp only [Database.step, Rows.step, agree.installed, install_standing]
    cases found : s.rows id with
    | none =>
      rw [row.none_iff.mp found]
      trivial
    | some r =>
      rw [found] at row
      obtain ⟨ref, known, agrees⟩ := row.row
      rw [known]
      exact agrees.replay
  | insert id row now =>
    refine ⟨agree.installed, ?_⟩
    simp only [Database.step, Rows.step, Rows.insert, agree.installed]
    cases found : s.rows id with
    | none =>
      rw [if_pos rfl, if_pos ((same id).none_iff.mp found)]
      have inserts := kept found
      rw [agree.installed] at inserts
      exact rowsAgree_update same (.insert inserts)
    | some r =>
      rw [if_neg (by simp), if_neg ((same id).none_iff.not.mp (by simp [found]))]
      exact same
  | update id write now =>
    refine ⟨agree.installed, ?_⟩
    simp only [Database.step, Rows.step, Rows.write, agree.installed]
    cases found : s.rows id with
    | none =>
      rw [(same id).none_iff.mp found]
      exact same
    | some r =>
      have row := same id
      rw [found] at row
      obtain ⟨ref, known, agrees⟩ := row.row
      have updates := kept r found
      rw [agree.installed] at updates
      rw [known]
      exact rowsAgree_update same (agrees.update updates)

/-- Outside the window between 064 and 066, every issue has the stamps it would have without the
replays. -/
theorem ages_kept (rows : Rows) (acts : List Act)
    (stamped : ∀ id r, rows id = some r → r.Stamped)
    (kept : bootReplay.Guarded Kept (.booted rows) acts)
    (outside : (bootReplay.run (.booted rows) acts).next ≠ .m066) (id : UUID) :
    ((bootReplay.run (.booted rows) acts).rows id).map (·.stamps) =
      (noReplay.run rows acts id).map (·.stamps) := by
  have start : DatabasesAgree (.booted rows) rows := by
    refine ⟨rfl, fun id => ?_⟩
    cases found : rows id with
    | none => simp [Database.booted, found, RowsAgree]
    | some r =>
      simp only [Database.booted, found, RowsAgree]
      by_cases issue : r.ticketID = none
      · exact .issue issue (stamped id r found)
      · exact .ticket r.updatedAt issue (stamped id r found)
  have agree := bootReplay.lockstep noReplay DatabasesAgree
    (fun _ _ _ => DatabasesAgree.step) start kept
  have row := agree.rows id
  cases found : (bootReplay.run (.booted rows) acts).rows id with
  | none => rw [row.none_iff.mp found]
  | some r =>
    rw [found] at row
    obtain ⟨ref, known, agrees⟩ := row.row
    rw [known]
    cases agrees with
    | issue => rfl
    | pending window => exact absurd window outside
    | ticket => rfl

/-- One issue in review, snoozed. -/
def snoozedReview : Incident where
  ticketID := none
  status := .prCreated
  candidateDiff := none
  prURL := some "https://github.com/acme/shop/pull/4"
  terminalFixJobID := none
  needsHumanAt := none
  stamps := ⟨some 5, some 90⟩
  updatedAt := 5

def oneReview : Rows := fun id => if id = 1 then some snoozedReview else none

theorem oneReview_stamped (id : UUID) (r : Incident) (known : oneReview id = some r) : r.Stamped := by
  rw [oneReview] at known
  split at known
  · cases known
    decide
  · cases known

/-- A boot during which the reader asks again for the issue and a ticket's issue appears. -/
def boot : List Act :=
  [.replay 10,
    .update 1 { status := some .needsHuman, updatedAt := some 11 } 11,
    .replay 13, .replay 14, .replay 15, .replay 16,
    .insert 2 { snoozedReview with ticketID := some 7, status := .queued, stamps := ⟨some 17, none⟩ } 17,
    .update 1 { snoozedUntil := some (some 99) } 18]

theorem ages_kept_boot : ((bootReplay.run (.booted oneReview) boot).rows 1).map (·.stamps) =
    (noReplay.run oneReview boot 1).map (·.stamps) :=
  ages_kept oneReview boot oneReview_stamped (by decide +kernel) (by decide +kernel) 1

def wokenInBoot : List Act :=
  [.replay 10, .update 1 { snoozedUntil := some none } 11, .replay 12, .replay 13, .replay 14, .replay 15]

theorem woken_in_boot : ¬∀ (rows : Rows) (acts : List Act) (id : UUID),
    (∀ id r, rows id = some r → r.Stamped) → (bootReplay.run (.booted rows) acts).next = .m064 →
      ((bootReplay.run (.booted rows) acts).rows id).map (·.stamps) =
        (noReplay.run rows acts id).map (·.stamps) := by
  intro claim
  have same := claim oneReview wokenInBoot 1 oneReview_stamped (by decide +kernel)
  revert same
  decide +kernel

end Opslane.Migrations
