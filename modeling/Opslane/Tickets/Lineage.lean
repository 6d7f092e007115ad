import Opslane.Tickets.Store

/-!
# Lineages

What the publications of tickets are for, without how they are stored. A ticket is
published as one incident at a time; each publication is a new generation, and retires the
one before it together with the work on its fix. A fix is attempted once at a time, and a
merged pull request resolves its incident for good.

`Move` lists what can happen to a lineage. `Coherent` is what holds throughout, and one
lemma a move shows that it is kept.
-/

namespace Opslane.Tickets

structure TicketState where
  published : Bool
  live : Nat
  deriving DecidableEq

structure IncidentState where
  ticketID : UUID
  generation : Nat
  archived : Bool
  substate : FixSubstate
  deriving DecidableEq

structure AttemptState where
  ticketID : UUID
  groupID : UUID
  generation : Nat
  status : AttemptStatus
  deriving DecidableEq

def AttemptStatus.Outstanding (status : AttemptStatus) : Prop := status = .active ∨ status = .prOpen

instance (status : AttemptStatus) : Decidable status.Outstanding :=
  inferInstanceAs (Decidable (_ ∨ _))

/-- The substate an attempt leaves its incident in. -/
def AttemptStatus.substate : AttemptStatus → FixSubstate
  | .active => .fixing
  | .prOpen => .prOpen
  | .merged => .resolved
  | _ => .none

theorem AttemptStatus.Outstanding.substate_ne {status : AttemptStatus}
    (outstanding : status.Outstanding) : status.substate ≠ .resolved := by
  rcases outstanding with rfl | rfl <;> decide

/-- Every ticket, incident and attempt there has been. -/
@[ext]
structure Lineage where
  tickets : UUID → Option TicketState
  incidents : UUID → Option IncidentState
  attempts : UUID → Option AttemptState

namespace Lineage

def empty : Lineage := ⟨fun _ => none, fun _ => none, fun _ => none⟩

def withdraw (p : TicketState) : TicketState := { p with published := false }

def archive (t : UUID) (i : IncidentState) : IncidentState :=
  { i with archived := i.archived || i.ticketID = t }

def supersede (t : UUID) (x : AttemptState) : AttemptState :=
  { x with status := if x.ticketID = t ∧ x.status.Outstanding then .superseded else x.status }

/-- A new ticket, not published. -/
def create (l : Lineage) (t : UUID) : Lineage :=
  { l with tickets := fun u => if u = t then some ⟨false, 0⟩ else l.tickets u }

/-- The live publication of the ticket is over. -/
def retire (l : Lineage) (t : UUID) : Lineage where
  tickets u := if u = t then (l.tickets u).map withdraw else l.tickets u
  incidents g := (l.incidents g).map (archive t)
  attempts a := (l.attempts a).map (supersede t)

/-- The ticket is published as a new incident. -/
def publish (l : Lineage) (t g : UUID) (live : Nat) : Lineage :=
  { l with
    tickets := fun u => if u = t then some ⟨true, live + 1⟩ else l.tickets u
    incidents := fun h => if h = g then some ⟨t, live + 1, false, .none⟩ else l.incidents h }

/-- The attempt is in a state, and its incident in the substate of it. -/
def settle (l : Lineage) (a : UUID) (x : AttemptState) (i : IncidentState) : Lineage :=
  { l with
    incidents := fun h =>
      if h = x.groupID then some { i with substate := x.status.substate } else l.incidents h
    attempts := fun b => if b = a then some x else l.attempts b }

/-- One thing happens to one ticket. -/
inductive Move (l : Lineage) : Lineage → Prop
  | create (t : UUID) (fresh : l.tickets t = none) : Move l (l.create t)
  | retire (t : UUID) : Move l (l.retire t)
  | publish (t g : UUID) (live : Nat) (found : l.tickets t = some ⟨false, live⟩)
      (fresh : l.incidents g = none) : Move l (l.publish t g live)
  | startFix (g a : UUID) (i : IncidentState) (found : l.incidents g = some i)
      (live : i.archived = false) (unresolved : i.substate ≠ .resolved)
      (alone : ∀ b y, l.attempts b = some y → y.groupID = g → ¬y.status.Outstanding)
      (fresh : l.attempts a = none) :
      Move l (l.settle a ⟨i.ticketID, g, i.generation, .active⟩ i)
  | advance (a : UUID) (x : AttemptState) (i : IncidentState) (status : AttemptStatus)
      (found : l.attempts a = some x) (incident : l.incidents x.groupID = some i)
      (outstanding : x.status.Outstanding) (left : status ≠ .active) :
      Move l (l.settle a { x with status } i)

structure Coherent (l : Lineage) : Prop where
  /-- An incident belongs to a ticket that has reached its generation. -/
  placed : ∀ g i, l.incidents g = some i → ∃ p, l.tickets i.ticketID = some p ∧ i.generation ≤ p.live
  /-- A generation is one incident. -/
  single : ∀ g h i j, l.incidents g = some i → l.incidents h = some j → i.ticketID = j.ticketID →
    i.generation = j.generation → g = h
  /-- A published ticket has an incident that is not archived, of its live generation. -/
  shown : ∀ t p, l.tickets t = some p → p.published = true →
    ∃ g i, l.incidents g = some i ∧ i.ticketID = t ∧ i.generation = p.live ∧ i.archived = false
  /-- An incident that is not archived is the live one of a published ticket. -/
  live : ∀ g i, l.incidents g = some i → i.archived = false →
    ∃ p, l.tickets i.ticketID = some p ∧ p.published = true ∧ i.generation = p.live
  /-- An attempt is on an incident of its ticket and generation. -/
  linked : ∀ a x, l.attempts a = some x →
    ∃ i, l.incidents x.groupID = some i ∧ i.ticketID = x.ticketID ∧ i.generation = x.generation
  /-- An outstanding attempt is on a live incident, whose substate it gives. -/
  outstanding : ∀ a x i, l.attempts a = some x → x.status.Outstanding →
    l.incidents x.groupID = some i → i.archived = false ∧ i.substate = x.status.substate
  /-- An incident has one outstanding attempt. -/
  alone : ∀ a b x y, l.attempts a = some x → l.attempts b = some y → x.groupID = y.groupID →
    x.status.Outstanding → y.status.Outstanding → a = b
  /-- A live incident has a substate by an attempt, and a resolved one by a merge. -/
  witnessed : ∀ g i, l.incidents g = some i → i.archived = false ∨ i.substate = .resolved →
    i.substate ≠ .none → ∃ a x, l.attempts a = some x ∧ x.groupID = g ∧ x.status.substate = i.substate

theorem coherent_empty : Coherent empty := by
  constructor <;> simp [empty]

variable {l : Lineage}

theorem Coherent.create (coherent : l.Coherent) {t : UUID} (fresh : l.tickets t = none) :
    (l.create t).Coherent := by
  have kept : ∀ u p, l.tickets u = some p → (l.create t).tickets u = some p := by
    intro u p found
    have differ : u ≠ t := fun same => by rw [same, fresh] at found; cases found
    simp [Lineage.create, differ, found]
  exact
    { coherent with
      placed := by
        intro g i found
        obtain ⟨p, ticket, bound⟩ := coherent.placed g i found
        exact ⟨p, kept _ p ticket, bound⟩
      shown := by
        intro u p found published
        by_cases same : u = t
        · subst same
          simp only [Lineage.create, if_pos, Option.some.injEq] at found
          subst found
          cases published
        · simp only [Lineage.create, if_neg same] at found
          exact coherent.shown u p found published
      live := by
        intro g i found live
        obtain ⟨p, ticket, rest⟩ := coherent.live g i found live
        exact ⟨p, kept _ p ticket, rest⟩ }

theorem Coherent.retire (coherent : l.Coherent) (t : UUID) : (l.retire t).Coherent where
  placed := by
    intro g i found
    obtain ⟨j, old, rfl⟩ := Option.map_eq_some_iff.mp found
    obtain ⟨p, ticket, bound⟩ := coherent.placed g j old
    by_cases same : j.ticketID = t
    · refine ⟨withdraw p, ?_, bound⟩
      rw [same] at ticket
      simp [Lineage.retire, archive, same, ticket]
    · exact ⟨p, by simp [Lineage.retire, archive, same, ticket], bound⟩
  single := by
    intro g h i j found found' sameTicket sameGeneration
    obtain ⟨i, old, rfl⟩ := Option.map_eq_some_iff.mp found
    obtain ⟨j, old', rfl⟩ := Option.map_eq_some_iff.mp found'
    exact coherent.single g h i j old old' sameTicket sameGeneration
  shown := by
    intro u p found published
    by_cases same : u = t
    · subst same
      simp only [Lineage.retire, if_pos] at found
      obtain ⟨q, -, rfl⟩ := Option.map_eq_some_iff.mp found
      cases published
    · simp only [Lineage.retire, if_neg same] at found
      obtain ⟨g, i, old, own, generation, live⟩ := coherent.shown u p found published
      refine ⟨g, archive t i, by simp [Lineage.retire, old], own, generation, ?_⟩
      simp [archive, live, own, same]
  live := by
    intro g i found live
    obtain ⟨j, old, rfl⟩ := Option.map_eq_some_iff.mp found
    simp only [archive, Bool.or_eq_false_iff, decide_eq_false_iff_not] at live
    obtain ⟨p, ticket, rest⟩ := coherent.live g j old live.1
    exact ⟨p, by simp [Lineage.retire, archive, live.2, ticket], rest⟩
  linked := by
    intro a x found
    obtain ⟨y, old, rfl⟩ := Option.map_eq_some_iff.mp found
    obtain ⟨i, incident, own⟩ := coherent.linked a y old
    exact ⟨archive t i, by simp [Lineage.retire, supersede, incident], own⟩
  outstanding := by
    intro a x i found outstanding incident
    obtain ⟨y, old, rfl⟩ := Option.map_eq_some_iff.mp found
    obtain ⟨j, oldIncident, rfl⟩ := Option.map_eq_some_iff.mp incident
    obtain ⟨k, link, own, -⟩ := coherent.linked a y old
    obtain rfl : j = k := Option.some.inj (oldIncident.symm.trans link)
    simp only [supersede] at outstanding ⊢
    split at outstanding
    · rcases outstanding with h | h <;> cases h
    · rename_i kept
      have elsewhere : y.ticketID ≠ t := fun same => kept ⟨same, outstanding⟩
      obtain ⟨live, substate⟩ := coherent.outstanding a y j old outstanding link
      rw [if_neg kept]
      exact ⟨by simp [archive, live, own, elsewhere], substate⟩
  alone := by
    intro a b x y found found' sameGroup outstanding outstanding'
    obtain ⟨x, old, rfl⟩ := Option.map_eq_some_iff.mp found
    obtain ⟨y, old', rfl⟩ := Option.map_eq_some_iff.mp found'
    have before : ∀ z : AttemptState, (supersede t z).status.Outstanding → z.status.Outstanding := by
      intro z after
      simp only [supersede] at after
      split at after
      · rename_i h
        exact h.2
      · exact after
    exact coherent.alone a b x y old old' sameGroup (before x outstanding) (before y outstanding')
  witnessed := by
    intro g i found concerned some_
    obtain ⟨j, old, rfl⟩ := Option.map_eq_some_iff.mp found
    have concerned' : j.archived = false ∨ j.substate = .resolved := by
      rcases concerned with live | resolved
      · exact Or.inl (Bool.or_eq_false_iff.mp live).1
      · exact Or.inr resolved
    obtain ⟨a, x, attempt, own, substate⟩ := coherent.witnessed g j old concerned' some_
    refine ⟨a, supersede t x, by simp [Lineage.retire, attempt], own, ?_⟩
    simp only [supersede]
    split
    · rename_i h
      -- An attempt superseded here was outstanding on an incident that is archived now.
      obtain ⟨k, link, ownTicket, -⟩ := coherent.linked a x attempt
      rw [own, old, Option.some.injEq] at link
      subst link
      exfalso
      rcases concerned with live | resolved
      · simp [archive, ownTicket, h.1] at live
      · exact h.2.substate_ne (substate.trans resolved)
    · exact substate

theorem Coherent.publish (coherent : l.Coherent) {t g : UUID} {live : Nat}
    (found : l.tickets t = some ⟨false, live⟩) (fresh : l.incidents g = none) :
    (l.publish t g live).Coherent := by
  have kept : ∀ h i, l.incidents h = some i → (l.publish t g live).incidents h = some i := by
    intro h i old
    have differ : h ≠ g := fun same => by rw [same, fresh] at old; cases old
    simp [Lineage.publish, differ, old]
  have cases : ∀ h i, (l.publish t g live).incidents h = some i →
      (h = g ∧ i = ⟨t, live + 1, false, .none⟩) ∨ l.incidents h = some i := by
    intro h i new
    by_cases same : h = g
    · simp only [Lineage.publish, if_pos same, Option.some.injEq] at new
      exact Or.inl ⟨same, new.symm⟩
    · simp only [Lineage.publish, if_neg same] at new
      exact Or.inr new
  have below : ∀ h i, l.incidents h = some i → i.ticketID = t → i.generation ≤ live := by
    intro h i old own
    obtain ⟨p, ticket, bound⟩ := coherent.placed h i old
    rw [own, found, Option.some.injEq] at ticket
    subst ticket
    exact bound
  have gone : ∀ h i, l.incidents h = some i → i.archived = false → i.ticketID ≠ t := by
    intro h i old notArchived own
    obtain ⟨p, ticket, published, -⟩ := coherent.live h i old notArchived
    rw [own, found, Option.some.injEq] at ticket
    subst ticket
    cases published
  refine ⟨?_, ?_, ?_, ?_, ?_, ?_, coherent.alone, ?_⟩
  · intro h i new
    rcases cases h i new with ⟨rfl, rfl⟩ | old
    · exact ⟨⟨true, live + 1⟩, by simp [Lineage.publish], le_refl _⟩
    · by_cases own : i.ticketID = t
      · have bound := below h i old own
        exact ⟨⟨true, live + 1⟩, by simp [Lineage.publish, own], by simp; omega⟩
      · obtain ⟨p, ticket, bound⟩ := coherent.placed h i old
        exact ⟨p, by simp [Lineage.publish, own, ticket], bound⟩
  · intro h h' i j new new' sameTicket sameGeneration
    rcases cases h i new with ⟨rfl, rfl⟩ | old <;> rcases cases h' j new' with ⟨rfl, rfl⟩ | old'
    · rfl
    · have bound := below h' j old' sameTicket.symm
      simp only at sameGeneration
      omega
    · have bound := below h i old sameTicket
      simp only at sameGeneration
      omega
    · exact coherent.single h h' i j old old' sameTicket sameGeneration
  · intro u p ticket published
    by_cases same : u = t
    · subst same
      simp only [Lineage.publish, if_pos, Option.some.injEq] at ticket
      subst ticket
      exact ⟨g, ⟨u, live + 1, false, .none⟩, by simp [Lineage.publish], rfl, rfl, rfl⟩
    · simp only [Lineage.publish, if_neg same] at ticket
      obtain ⟨h, i, old, rest⟩ := coherent.shown u p ticket published
      exact ⟨h, i, kept h i old, rest⟩
  · intro h i new notArchived
    rcases cases h i new with ⟨rfl, rfl⟩ | old
    · exact ⟨⟨true, live + 1⟩, by simp [Lineage.publish], rfl, rfl⟩
    · obtain ⟨p, ticket, rest⟩ := coherent.live h i old notArchived
      exact ⟨p, by simp [Lineage.publish, gone h i old notArchived, ticket], rest⟩
  · intro a x attempt
    obtain ⟨i, incident, own⟩ := coherent.linked a x attempt
    exact ⟨i, kept _ i incident, own⟩
  · intro a x i attempt outstanding incident
    obtain ⟨j, link, -⟩ := coherent.linked a x attempt
    rw [kept _ j link, Option.some.injEq] at incident
    subst incident
    exact coherent.outstanding a x j attempt outstanding link
  · intro h i new concerned some_
    rcases cases h i new with ⟨-, rfl⟩ | old
    · exact absurd rfl some_
    · exact coherent.witnessed h i old concerned some_

theorem Coherent.settle (coherent : l.Coherent) {a : UUID} {x : AttemptState} {i : IncidentState}
    (incident : l.incidents x.groupID = some i) (live : i.archived = false)
    (own : i.ticketID = x.ticketID ∧ i.generation = x.generation)
    (same : ∀ y, l.attempts a = some y → y.groupID = x.groupID)
    (alone : ∀ b y, l.attempts b = some y → y.groupID = x.groupID → y.status.Outstanding → b = a) :
    (l.settle a x i).Coherent := by
  have placed : ∀ h j, (l.settle a x i).incidents h = some j →
      ∃ k, l.incidents h = some k ∧ k.ticketID = j.ticketID ∧ k.generation = j.generation ∧
        k.archived = j.archived := by
    intro h j new
    by_cases here : h = x.groupID
    · simp only [Lineage.settle, if_pos here, Option.some.injEq] at new
      subst new
      exact ⟨i, here ▸ incident, rfl, rfl, rfl⟩
    · simp only [Lineage.settle, if_neg here] at new
      exact ⟨j, new, rfl, rfl, rfl⟩
  have kept : ∀ h k, l.incidents h = some k →
      ∃ j, (l.settle a x i).incidents h = some j ∧ k.ticketID = j.ticketID ∧
        k.generation = j.generation ∧ k.archived = j.archived := by
    intro h k old
    by_cases here : h = x.groupID
    · rw [here, incident, Option.some.injEq] at old
      subst old
      exact ⟨{ i with substate := x.status.substate }, by simp only [Lineage.settle, if_pos here],
        rfl, rfl, rfl⟩
    · exact ⟨k, by simp only [Lineage.settle, if_neg here, old], rfl, rfl, rfl⟩
  have attempts : ∀ b y, (l.settle a x i).attempts b = some y →
      (b = a ∧ y = x) ∨ (b ≠ a ∧ l.attempts b = some y) := by
    intro b y new
    by_cases here : b = a
    · simp only [Lineage.settle, if_pos here, Option.some.injEq] at new
      exact Or.inl ⟨here, new.symm⟩
    · simp only [Lineage.settle, if_neg here] at new
      exact Or.inr ⟨here, new⟩
  refine ⟨?_, ?_, ?_, ?_, ?_, ?_, ?_, ?_⟩
  · intro h j new
    obtain ⟨k, old, ticket, generation, -⟩ := placed h j new
    rw [← ticket, ← generation]
    exact coherent.placed h k old
  · intro h h' j j' new new' sameTicket sameGeneration
    obtain ⟨k, old, ticket, generation, -⟩ := placed h j new
    obtain ⟨k', old', ticket', generation', -⟩ := placed h' j' new'
    exact coherent.single h h' k k' old old' (ticket.trans (sameTicket.trans ticket'.symm))
      (generation.trans (sameGeneration.trans generation'.symm))
  · intro t p ticket published
    obtain ⟨h, k, old, ownTicket, generation, notArchived⟩ := coherent.shown t p ticket published
    obtain ⟨j, new, same1, same2, same3⟩ := kept h k old
    exact ⟨h, j, new, same1.symm.trans ownTicket, same2.symm.trans generation,
      same3.symm.trans notArchived⟩
  · intro h j new notArchived
    obtain ⟨k, old, ticket, generation, archived⟩ := placed h j new
    rw [← ticket, ← generation]
    exact coherent.live h k old (archived.trans notArchived)
  · intro b y attempt
    rcases attempts b y attempt with ⟨-, rfl⟩ | ⟨-, old⟩
    · obtain ⟨j, new, ticket, generation, -⟩ := kept y.groupID i incident
      exact ⟨j, new, ticket.symm.trans own.1, generation.symm.trans own.2⟩
    · obtain ⟨k, link, ownTicket, ownGeneration⟩ := coherent.linked b y old
      obtain ⟨j, new, ticket, generation, -⟩ := kept y.groupID k link
      exact ⟨j, new, ticket.symm.trans ownTicket, generation.symm.trans ownGeneration⟩
  · intro b y j attempt outstanding new
    rcases attempts b y attempt with ⟨-, rfl⟩ | ⟨differ, old⟩
    · simp only [Lineage.settle, if_pos, Option.some.injEq] at new
      subst new
      exact ⟨live, rfl⟩
    · have elsewhere : y.groupID ≠ x.groupID := fun here =>
        differ (alone b y old here outstanding)
      simp only [Lineage.settle, if_neg elsewhere] at new
      exact coherent.outstanding b y j old outstanding new
  · intro b c y z attempt attempt' sameGroup outstanding outstanding'
    rcases attempts b y attempt with ⟨rfl, rfl⟩ | ⟨-, old⟩ <;>
      rcases attempts c z attempt' with ⟨rfl, rfl⟩ | ⟨-, old'⟩
    · rfl
    · exact (alone c z old' sameGroup.symm outstanding').symm
    · exact alone b y old sameGroup outstanding
    · exact coherent.alone b c y z old old' sameGroup outstanding outstanding'
  · intro h j new concerned some_
    by_cases here : h = x.groupID
    · simp only [Lineage.settle, if_pos here, Option.some.injEq] at new
      subst new
      exact ⟨a, x, by simp [Lineage.settle], here.symm, rfl⟩
    · simp only [Lineage.settle, if_neg here] at new
      obtain ⟨b, y, old, group, substate⟩ := coherent.witnessed h j new concerned some_
      have differ : b ≠ a := by
        rintro rfl
        exact here (group.symm.trans (same y old))
      exact ⟨b, y, by simp only [Lineage.settle, if_neg differ, old], group, substate⟩

theorem Coherent.move {l l' : Lineage} (coherent : l.Coherent) (move : Move l l') : l'.Coherent := by
  cases move with
  | create t fresh => exact coherent.create fresh
  | retire t => exact coherent.retire t
  | publish t g live found fresh => exact coherent.publish found fresh
  | startFix g a i found live unresolved alone fresh =>
    refine coherent.settle found live ⟨rfl, rfl⟩ ?_ ?_
    · intro y old
      rw [fresh] at old
      cases old
    · intro b y old here outstanding
      exact absurd outstanding (alone b y old here)
  | advance a x i status found incident outstanding left =>
    obtain ⟨k, link, own⟩ := coherent.linked a x found
    obtain rfl : i = k := Option.some.inj (incident.symm.trans link)
    refine coherent.settle incident (coherent.outstanding a x i found outstanding incident).1 own ?_ ?_
    · intro y old
      rw [found, Option.some.injEq] at old
      rw [← old]
    · intro b y old here outstanding'
      exact coherent.alone b a y x old found here outstanding' outstanding

theorem Move.resolved {l l' : Lineage} (coherent : l.Coherent) (move : Move l l') {g : UUID}
    {i : IncidentState} (found : l.incidents g = some i) (resolved : i.substate = .resolved) :
    ∃ i', l'.incidents g = some i' ∧ i'.substate = .resolved := by
  cases move with
  | create t fresh => exact ⟨i, found, resolved⟩
  | retire t => exact ⟨archive t i, by simp [Lineage.retire, found], resolved⟩
  | publish t h live ticket fresh =>
    have differ : g ≠ h := fun same => by rw [same, fresh] at found; cases found
    exact ⟨i, by simp [Lineage.publish, differ, found], resolved⟩
  | startFix h a j incident live unresolved alone fresh =>
    have differ : g ≠ h := by
      rintro rfl
      rw [found, Option.some.injEq] at incident
      exact unresolved (incident ▸ resolved)
    exact ⟨i, by simp [Lineage.settle, differ, found], resolved⟩
  | advance a x j status attempt incident outstanding left =>
    have differ : g ≠ x.groupID := by
      rintro rfl
      rw [(coherent.outstanding a x i attempt outstanding found).2] at resolved
      exact outstanding.substate_ne resolved
    exact ⟨i, by simp [Lineage.settle, differ, found], resolved⟩

theorem Move.generation {l l' : Lineage} (move : Move l l') {t : UUID} {p : TicketState}
    (found : l.tickets t = some p) :
    ∃ p', l'.tickets t = some p' ∧ (p'.live = p.live ∨ (p'.published = true ∧ p'.live = p.live + 1)) := by
  cases move with
  | create u fresh =>
    have differ : t ≠ u := fun same => by rw [same, fresh] at found; cases found
    exact ⟨p, by simp [Lineage.create, differ, found], Or.inl rfl⟩
  | retire u =>
    by_cases same : t = u
    · subst same
      exact ⟨withdraw p, by simp [Lineage.retire, found], Or.inl rfl⟩
    · exact ⟨p, by simp [Lineage.retire, same, found], Or.inl rfl⟩
  | publish u g live ticket fresh =>
    by_cases same : t = u
    · subst same
      rw [found, Option.some.injEq] at ticket
      subst ticket
      exact ⟨⟨true, live + 1⟩, by simp [Lineage.publish], Or.inr ⟨rfl, rfl⟩⟩
    · exact ⟨p, by simp [Lineage.publish, same, found], Or.inl rfl⟩
  | startFix g a i incident live unresolved alone fresh => exact ⟨p, found, Or.inl rfl⟩
  | advance a x i status attempt incident outstanding left => exact ⟨p, found, Or.inl rfl⟩

end Lineage

end Opslane.Tickets
