import Opslane.Notify.Dispatcher

/-!
# Deliveries under any interleaving

A delivery moves from pending to delivering at a claim, which spends an attempt and raises the
lease generation, and from delivering to one of the other three statuses at a completion or a
reap. A claim agrees with its row for as long as it holds it, so that what a dispatcher
remembers of the attempts decides as the row would.
-/

namespace Opslane.Notify

open Transition (Machine)

/-- The shape of every row. -/
inductive Shape (d : Delivery) : Prop where
  | pending (status : d.status = .pending) (left : d.attempts < d.maxAttempts)
  | delivering (status : d.status = .delivering) (leased : d.leaseExpiresAt.isSome)
      (attempts : d.attempts ≤ d.maxAttempts)
  | terminal (status : d.status.Terminal) (attempts : d.attempts ≤ d.maxAttempts)

theorem Shape.attempts {d : Delivery} (shape : Shape d) : d.attempts ≤ d.maxAttempts := by
  cases shape with
  | pending status left => omega
  | delivering status leased attempts => exact attempts
  | terminal status attempts => exact attempts

/-- What one transaction may do to a row that stays. -/
inductive Changes (d d' : Delivery) : Prop where
  | keeps (same : d' = d)
  | claims (before : d.status = .pending) (after : d'.status = .delivering)
      (leased : d'.leaseExpiresAt.isSome) (left : d.attempts < d.maxAttempts)
      (attempts : d'.attempts = d.attempts + 1) (generation : d'.leaseGeneration = d.leaseGeneration + 1)
  | ends (before : d.status = .delivering) (attempts : d'.attempts = d.attempts)
      (generation : d'.leaseGeneration = d.leaseGeneration)
      (after : d'.status.Terminal ∨ (d'.status = .pending ∧ d.attempts < d.maxAttempts))

structure Moves (d d' : Delivery) : Prop where
  id : d'.id = d.id
  eventID : d'.eventID = d.eventID
  maxAttempts : d'.maxAttempts = d.maxAttempts
  changes : Changes d d'

theorem Moves.refl (d : Delivery) : Moves d d := ⟨rfl, rfl, rfl, .keeps rfl⟩

theorem Moves.shape {d d' : Delivery} (moves : Moves d d') (shape : Shape d) : Shape d' := by
  obtain ⟨-, -, max, changes⟩ := moves
  have bound := shape.attempts
  cases changes with
  | keeps same => rwa [same]
  | claims before after leased left attempts generation => exact .delivering after leased (by omega)
  | ends before attempts generation after =>
    rcases after with terminal | ⟨pending, left⟩
    · exact .terminal terminal (by omega)
    · exact .pending pending (by omega)

theorem terminal_delivered : DeliveryStatus.Terminal .delivered := by decide

theorem terminal_failed : DeliveryStatus.Terminal .failed := by decide

variable {now : Timestamp} {d : Delivery}

theorem moves_claim (leaseDuration : Int) (due : Claimable now d) :
    Moves d (d.claim leaseDuration now) :=
  ⟨rfl, rfl, rfl, .claims due.1 rfl rfl due.2.2 rfl rfl⟩

theorem moves_reap (expired : Expired now d) :
    Moves d (d.reap now) := by
  refine ⟨rfl, rfl, rfl, .ends expired.1 rfl rfl ?_⟩
  by_cases last : d.maxAttempts ≤ d.attempts
  · refine Or.inl ?_
    simp only [Delivery.reap, if_pos last]
    exact terminal_failed
  · refine Or.inr ⟨?_, by omega⟩
    simp only [Delivery.reap, if_neg last]

/-- Every row after a transaction that adds none was there. -/
def TableMoves (before after : DeliveryTable) : Prop :=
  ∀ d' ∈ after.rows, ∃ d ∈ before.rows, Moves d d'

theorem tableMoves_refl (deliveries : DeliveryTable) : TableMoves deliveries deliveries :=
  fun d member => ⟨d, member, .refl d⟩

theorem tableMoves_updateWhere (deliveries : DeliveryTable) (p : Delivery → Bool)
    (f : Delivery → Delivery) (frame : ∀ d, (f d).id = d.id)
    (moves : ∀ d ∈ deliveries.rows, p d → Moves d (f d)) :
    TableMoves deliveries (deliveries.updateWhere p f frame) := by
  intro d' member
  obtain ⟨d, old, rfl⟩ := (Table.mem_updateWhere deliveries p f frame d').mp member
  refine ⟨d, old, ?_⟩
  split
  · rename_i chosen
    exact moves d old chosen
  · exact .refl d

theorem tableMoves_deleteWhere (deliveries : DeliveryTable) (p : Delivery → Bool) :
    TableMoves deliveries (deliveries.deleteWhere p) :=
  fun d member => ⟨d, (List.mem_filter.mp member).1, .refl d⟩

variable {deliveries : DeliveryTable}

variable {locked : List UUID} {batchSize : Nat}

theorem mem_claimable (chosen : d ∈ claimable deliveries batchSize locked now) :
    d ∈ deliveries.rows ∧ Claimable now d := by
  have listed := (List.mem_insertionSort _).mp (List.mem_of_mem_take chosen)
  obtain ⟨member, due⟩ := List.mem_filter.mp listed
  exact ⟨member, (of_decide_eq_true due).1⟩

theorem tableMoves_claim (deliveries : DeliveryTable) (batchSize : Nat) (leaseDuration : Int)
    (locked : List UUID) (now : Timestamp) :
    TableMoves deliveries (claim deliveries batchSize leaseDuration locked now).1 := by
  refine tableMoves_updateWhere deliveries _ (Delivery.claim leaseDuration now) (fun _ => rfl) ?_
  exact fun d _ chosen => moves_claim leaseDuration (mem_claimable (of_decide_eq_true chosen)).2

/-- A claim agrees with its row. -/
def Agrees (c : DeliveryClaim) (d : Delivery) : Prop :=
  d.id = c.id → c.leaseGeneration ≤ d.leaseGeneration ∧
    (c.leaseGeneration = d.leaseGeneration → c.attempts = d.attempts ∧ c.maxAttempts = d.maxAttempts)

theorem Agrees.moves {c : DeliveryClaim} {d d' : Delivery} (agrees : Agrees c d) (moves : Moves d d') :
    Agrees c d' := by
  intro own
  obtain ⟨bound, same⟩ := agrees (moves.id.symm.trans own)
  obtain ⟨-, -, max, changes⟩ := moves
  cases changes with
  | keeps eq => rw [eq]; exact ⟨bound, same⟩
  | claims before after leased left attempts generation =>
    exact ⟨by omega, fun eq => by omega⟩
  | ends before attempts generation after =>
    rw [generation, attempts, max]
    exact ⟨bound, same⟩

variable {c : DeliveryClaim}

theorem tableMoves_settle {f : Delivery → Delivery} {frame : ∀ d, (f d).id = d.id}
    (moves : ∀ d ∈ deliveries.rows, d.HeldBy c → Moves d (f d)) :
    TableMoves deliveries (settle deliveries c f frame).1 :=
  tableMoves_updateWhere deliveries _ f frame fun d member held =>
    moves d member (of_decide_eq_true held)

theorem tableMoves_complete {outcome : Outcome} {completed : DeliveryTable × Bool}
    (agrees : ∀ d ∈ deliveries.rows, Agrees c d)
    (done : complete deliveries c outcome now = .ok completed) :
    TableMoves deliveries completed.1 := by
  unfold complete at done
  split at done
  · cases done
    exact tableMoves_settle fun d _ held =>
      ⟨rfl, rfl, rfl, .ends held.2.1 rfl rfl (Or.inl terminal_delivered)⟩
  · split at done
    · cases done
      exact tableMoves_settle fun d _ held =>
        ⟨rfl, rfl, rfl, .ends held.2.1 rfl rfl (Or.inl terminal_failed)⟩
    · rename_i left
      cases done
      refine tableMoves_settle fun d member held => ⟨rfl, rfl, rfl, .ends held.2.1 rfl rfl ?_⟩
      -- what the claim remembers of the attempts is what the row says
      obtain ⟨attempts, max⟩ := (agrees d member held.1).2 held.2.2.symm
      exact Or.inr ⟨rfl, by omega⟩
  · cases done
    exact tableMoves_settle fun d _ held =>
      ⟨rfl, rfl, rfl, .ends held.2.1 rfl rfl (Or.inl terminal_failed)⟩
  · cases done

theorem complete_stale {outcome : Outcome} {completed : DeliveryTable × Bool}
    (stale : ∀ d ∈ deliveries.rows, ¬d.HeldBy c)
    (done : complete deliveries c outcome now = .ok completed) : completed = (deliveries, false) := by
  have settled : ∀ (f : Delivery → Delivery) (frame : ∀ d, (f d).id = d.id),
      settle deliveries c f frame = (deliveries, false) := by
    intro f frame
    have none_ : (deliveries.any fun d => d.HeldBy c) = false :=
      List.any_eq_false.mpr fun d member held => stale d member (of_decide_eq_true held)
    rw [settle, none_]
    refine congrArg (·, false) (Table.updateWhere_none deliveries f frame fun d member => ?_)
    exact decide_eq_false (stale d member)
  unfold complete at done
  split at done
  · cases done
    exact settled ..
  · split at done
    · cases done
      exact settled ..
    · cases done
      exact settled ..
  · cases done
    exact settled ..
  · cases done

theorem mem_insertAll? {before after : DeliveryTable} {rows : List Delivery}
    (inserted : before.insertAll? rows = some after) (member : d ∈ after.rows) :
    d ∈ before.rows ∨ d ∈ rows := by
  induction rows generalizing before with
  | nil =>
    cases inserted
    exact Or.inl member
  | cons r rest ih =>
    obtain ⟨between, first, inserted⟩ := Option.bind_eq_some_iff.mp inserted
    rcases ih inserted with old | later
    · rcases (Table.mem_insert? first).mp old with rfl | old
      · exact Or.inr (List.mem_cons_self ..)
      · exact Or.inl old
    · exact Or.inr (List.mem_cons_of_mem r later)

/-- What a transaction may do to the outbox. -/
structure Effect (s s' : Outbox) : Prop where
  rows : ∀ d' ∈ s'.deliveries.rows, (∃ d ∈ s.deliveries.rows, Moves d d') ∨
    (d'.id ∉ s.drawn ∧ Shape d' ∧ d'.id ∈ s'.drawn)
  drawn : ∀ id ∈ s.drawn, id ∈ s'.drawn
  claims : s'.claims = s.claims ∨ ∃ batchSize leaseDuration locked now,
    s'.deliveries = (claim s.deliveries batchSize leaseDuration locked now).1 ∧
      s'.claims = (claim s.deliveries batchSize leaseDuration locked now).2 ++ s.claims

theorem Effect.of_table {s s' : Outbox} (rows : TableMoves s.deliveries s'.deliveries)
    (drawn : s'.drawn = s.drawn) (claims : s'.claims = s.claims) : Effect s s' where
  rows d member := Or.inl (rows d member)
  drawn := fun _ known => drawn ▸ known
  claims := Or.inl claims

theorem effect_enqueue (s : Outbox) (e : OutboundEvent) (destinations : List (UUID × UUID))
    (now : Timestamp) : Effect s (enqueue s e destinations now) := by
  have rests : Effect s s := .of_table (tableMoves_refl s.deliveries) rfl rfl
  unfold enqueue
  dsimp only
  split
  · exact rests
  · rename_i admitted
    split
    · rename_i events deliveries _ inserted
      refine ⟨fun d member => ?_, fun id known => List.mem_append_right _ known, Or.inl rfl⟩
      rcases mem_insertAll? inserted member with old | new
      · exact Or.inl ⟨d, old, .refl d⟩
      · obtain ⟨p, listed, rfl⟩ := List.mem_map.mp new
        have drawnNow : p.1 ∈ destinations.map Prod.fst := List.mem_map.mpr ⟨p, listed, rfl⟩
        refine Or.inr ⟨fun known => admitted (Or.inr ⟨p.1, drawnNow, known⟩), ?_, ?_⟩
        · exact .pending rfl (Nat.succ_pos 4)
        · exact List.mem_append_left _ drawnNow
    · exact rests

/-- What holds of the outbox after every run. -/
structure Inv (s : Outbox) : Prop where
  shape : ∀ d ∈ s.deliveries.rows, Shape d
  drawn : ∀ d ∈ s.deliveries.rows, d.id ∈ s.drawn
  claimed : ∀ c ∈ s.claims, c.id ∈ s.drawn
  agrees : ∀ c ∈ s.claims, ∀ d ∈ s.deliveries.rows, Agrees c d
  /-- A later claim of a delivery has a higher generation than every earlier one. -/
  rising : s.claims.Pairwise fun later earlier =>
    later.id = earlier.id → earlier.leaseGeneration < later.leaseGeneration

theorem inv_empty : Inv .empty where
  shape _ member := by cases member
  drawn _ member := by cases member
  claimed _ member := by cases member
  agrees _ member := by cases member
  rising := .nil

theorem effect_step (s : Outbox) (inv : Inv s) (a : Action) : Effect s (step s a) := by
  cases a with
  | enqueue e destinations now => exact effect_enqueue s e destinations now
  | deleteDestination destinationID => exact .of_table (tableMoves_deleteWhere s.deliveries _) rfl rfl
  | claim batchSize leaseDuration locked now =>
    refine ⟨fun d member => Or.inl ?_, fun _ known => known, ?_⟩
    · exact tableMoves_claim s.deliveries batchSize leaseDuration locked now d member
    · exact Or.inr ⟨batchSize, leaseDuration, locked, now, rfl, rfl⟩
  | complete c outcome now =>
    have rests : Effect s s := .of_table (tableMoves_refl s.deliveries) rfl rfl
    rw [step]
    split
    · rename_i held
      cases done : complete s.deliveries c outcome now with
      | error => exact rests
      | ok completed => exact .of_table (tableMoves_complete (inv.agrees c held) done) rfl rfl
    · exact rests
  | reapExpired now =>
    refine .of_table (tableMoves_updateWhere s.deliveries _ (Delivery.reap now) (fun _ => rfl) ?_) rfl rfl
    exact fun d _ expired => moves_reap (of_decide_eq_true expired)
  | pruneDeliveries batchSize locked now =>
    exact .of_table (tableMoves_deleteWhere s.deliveries _) rfl rfl
  | pruneEvents batchSize locked now => exact .of_table (tableMoves_refl s.deliveries) rfl rfl

theorem nodup_claimable (deliveries : DeliveryTable) (batchSize : Nat) (locked : List UUID)
    (now : Timestamp) : ((claimable deliveries batchSize locked now).map Delivery.id).Nodup := by
  have listed : ((deliveries.select fun d => Claimable now d ∧ d.id ∉ locked).map Delivery.id).Nodup :=
    deliveries.unique.sublist (List.filter_sublist.map Delivery.id)
  have sorted := ((List.perm_insertionSort (fun d d' : Delivery => d.nextAttemptAt ≤ d'.nextAttemptAt)
    (deliveries.select fun d => Claimable now d ∧ d.id ∉ locked)).map Delivery.id).nodup_iff.mpr listed
  exact sorted.sublist ((List.take_sublist ..).map Delivery.id)

variable {s : Outbox}

theorem rising_claim (inv : Inv s) (batchSize : Nat) (leaseDuration : Int) (locked : List UUID)
    (now : Timestamp) :
    ((claim s.deliveries batchSize leaseDuration locked now).2 ++ s.claims).Pairwise
      fun later earlier => later.id = earlier.id → earlier.leaseGeneration < later.leaseGeneration := by
  refine List.pairwise_append.mpr ⟨?_, inv.rising, ?_⟩
  · refine List.pairwise_map.mpr ?_
    have apart := List.pairwise_map.mp (nodup_claimable s.deliveries batchSize locked now)
    exact apart.imp fun differ same => absurd same differ
  · intro c new earlier old same
    obtain ⟨d, chosen, rfl⟩ := List.mem_map.mp new
    have bound := (inv.agrees earlier old d (mem_claimable chosen).1 same).1
    exact Nat.lt_succ_of_le bound

theorem agrees_claim {leaseDuration : Int}
    (new : c ∈ (claim deliveries batchSize leaseDuration locked now).2) {d' : Delivery}
    (member : d' ∈ (claim deliveries batchSize leaseDuration locked now).1.rows) : Agrees c d' := by
  intro own
  obtain ⟨d, chosen, rfl⟩ := List.mem_map.mp new
  obtain ⟨k, old, rfl⟩ := (Table.mem_updateWhere deliveries _ (Delivery.claim leaseDuration now)
    (fun _ => rfl) d').mp member
  have same : k.id = d.id := by
    split at own
    · exact own
    · exact own
  obtain rfl : k = d := deliveries.inj old (mem_claimable chosen).1 same
  rw [if_pos (decide_eq_true chosen)]
  exact ⟨Nat.le_refl _, fun _ => ⟨rfl, rfl⟩⟩

theorem inv_step (inv : Inv s) (a : Action) : Inv (step s a) := by
  obtain ⟨rows, drawn, claims⟩ := effect_step s inv a
  have known : ∀ c ∈ (step s a).claims, c.id ∈ s.drawn := by
    intro c member
    rcases claims with same | ⟨batchSize, leaseDuration, locked, now, -, more⟩
    · exact inv.claimed c (same ▸ member)
    · rw [more] at member
      rcases List.mem_append.mp member with new | old
      · obtain ⟨d, chosen, rfl⟩ := List.mem_map.mp new
        exact inv.drawn d (mem_claimable chosen).1
      · exact inv.claimed c old
  refine ⟨fun d' member => ?_, fun d' member => ?_, fun c member => drawn c.id (known c member), ?_, ?_⟩
  · rcases rows d' member with ⟨d, old, moves⟩ | ⟨-, shape, -⟩
    · exact moves.shape (inv.shape d old)
    · exact shape
  · rcases rows d' member with ⟨d, old, moves⟩ | ⟨-, -, new⟩
    · exact moves.id ▸ drawn d.id (inv.drawn d old)
    · exact new
  · intro c member d' present
    have earlier : c ∈ s.claims → Agrees c d' := by
      intro old
      rcases rows d' present with ⟨d, before, moves⟩ | ⟨fresh, -, -⟩
      · exact (inv.agrees c old d before).moves moves
      · intro own
        exact absurd (own ▸ inv.claimed c old) fresh
    rcases claims with same | ⟨batchSize, leaseDuration, locked, now, table, more⟩
    · exact earlier (same ▸ member)
    · rw [more] at member
      rcases List.mem_append.mp member with new | old
      · exact agrees_claim new (table ▸ present)
      · exact earlier old
  · rcases claims with same | ⟨batchSize, leaseDuration, locked, now, -, more⟩
    · exact same ▸ inv.rising
    · exact more ▸ rising_claim inv batchSize leaseDuration locked now

theorem inv_run (actions : List Action) : Inv (machine.run .empty actions) :=
  machine.invariant_run Inv (fun _ a inv => inv_step inv a) inv_empty actions

theorem absorbed (inv : Inv s) (member : d ∈ s.deliveries.rows) (terminal : d.status.Terminal)
    (mid : List Action) :
    ∀ d' ∈ (machine.run s mid).deliveries.rows, d'.id = d.id → d' = d := by
  have kept := machine.invariant_run (fun x : Outbox => Inv x ∧ d.id ∈ x.drawn ∧
    ∀ d' ∈ x.deliveries.rows, d'.id = d.id → d' = d) ?_ ⟨inv, inv.drawn d member, ?_⟩ mid
  · exact kept.2.2
  · rintro x a ⟨inv, drawn, same⟩
    obtain ⟨rows, drawn', -⟩ := effect_step x inv a
    refine ⟨inv_step inv a, drawn' d.id drawn, fun d' present own => ?_⟩
    rcases rows d' present with ⟨k, old, id, -, -, changes⟩ | ⟨fresh, -, -⟩
    · obtain rfl := same k old (id.symm.trans own)
      cases changes with
      | keeps eq => exact eq
      | claims before => exact absurd before terminal.1
      | ends before => exact absurd before terminal.2
    · exact absurd (own ▸ drawn) fresh
  · exact fun d' present own => s.deliveries.inj present member own

theorem lost (inv : Inv s) (held : c ∈ s.claims) (stale : ∀ d ∈ s.deliveries.rows, ¬d.HeldBy c)
    (mid : List Action) :
    ∀ d ∈ (machine.run s mid).deliveries.rows, ¬d.HeldBy c := by
  have kept := machine.invariant_run (fun x : Outbox => Inv x ∧ c ∈ x.claims ∧
    ∀ d ∈ x.deliveries.rows, ¬d.HeldBy c) ?_ ⟨inv, held, stale⟩ mid
  · exact kept.2.2
  · rintro x a ⟨inv, held, stale⟩
    obtain ⟨rows, -, claims⟩ := effect_step x inv a
    refine ⟨inv_step inv a, ?_, fun d' present => ?_⟩
    · rcases claims with same | ⟨_, _, _, _, -, more⟩
      · exact same ▸ held
      · exact more ▸ List.mem_append_right _ held
    · rcases rows d' present with ⟨d, old, moves⟩ | ⟨fresh, -, -⟩
      · rintro ⟨own, delivering, generation⟩
        have before := inv.agrees c held d old (moves.id.symm.trans own)
        obtain ⟨id, -, -, changes⟩ := moves
        cases changes with
        | keeps eq => exact stale d old (eq ▸ ⟨own, delivering, generation⟩)
        | claims _ _ _ _ _ rises => omega
        | ends before _ _ after =>
          rcases after with terminal | ⟨pending, -⟩
          · exact terminal.2 delivering
          · rw [pending] at delivering
            cases delivering
      · exact fun holds => fresh (holds.1 ▸ inv.claimed c held)

theorem reaped (member : d ∈ deliveries.rows) (held : d.HeldBy c) (expired : Expired now d) :
    ∀ d' ∈ (reapExpired deliveries now).rows, ¬d'.HeldBy c := by
  rintro d' present ⟨own, delivering, -⟩
  obtain ⟨k, old, rfl⟩ := (Table.mem_updateWhere deliveries _ (Delivery.reap now) (fun _ => rfl) d').mp
    present
  have same : k.id = c.id := by
    split at own
    · exact own
    · exact own
  obtain rfl : k = d := deliveries.inj old member (same.trans held.1.symm)
  rw [if_pos (decide_eq_true expired)] at delivering
  obtain ⟨-, -, -, changes⟩ := moves_reap expired
  cases changes with
  | keeps eq =>
    have leased := expired.2
    rw [← eq] at leased
    cases leased
  | claims before =>
    rw [held.2.1] at before
    cases before
  | ends _ _ _ after =>
    rcases after with terminal | ⟨pending, -⟩
    · exact terminal.2 delivering
    · rw [pending] at delivering
      cases delivering

theorem reclaimed (inv : Inv s) (old : c ∈ s.claims) {leaseDuration : Int} {c' : DeliveryClaim}
    (new : c' ∈ (claim s.deliveries batchSize leaseDuration locked now).2) (same : c'.id = c.id) :
    ∀ d' ∈ (claim s.deliveries batchSize leaseDuration locked now).1.rows, ¬d'.HeldBy c := by
  rintro d' present ⟨own, -, generation⟩
  have later := (agrees_claim new present (own.trans same.symm)).1
  have rising := (List.pairwise_append.mp (rising_claim inv batchSize leaseDuration locked now)).2.2
    c' new c old same
  omega

/-- What the outbox promises of its deliveries after a run: `stale` says that a claim that has lost its
row, as it does to the reaper and to a later claim, completes nothing from then on. -/
structure DeliverySafe (s : Outbox) : Prop where
  attempts : ∀ d ∈ s.deliveries.rows, d.attempts ≤ d.maxAttempts
  shape : ∀ d ∈ s.deliveries.rows, Shape d
  rising : s.claims.Pairwise fun later earlier =>
    later.id = earlier.id → earlier.leaseGeneration < later.leaseGeneration
  absorbing : ∀ d ∈ s.deliveries.rows, d.status.Terminal → ∀ mid,
    ∀ d' ∈ (machine.run s mid).deliveries.rows, d'.id = d.id → d' = d
  stale : ∀ c ∈ s.claims, (∀ d ∈ s.deliveries.rows, ¬d.HeldBy c) → ∀ mid outcome now completed,
    complete (machine.run s mid).deliveries c outcome now = .ok completed →
      completed = ((machine.run s mid).deliveries, false)
  reaped : ∀ c now, ∀ d ∈ s.deliveries.rows, d.HeldBy c → Expired now d →
    ∀ d' ∈ (reapExpired s.deliveries now).rows, ¬d'.HeldBy c
  reclaimed : ∀ c ∈ s.claims, ∀ batchSize leaseDuration locked now,
    ∀ c' ∈ (claim s.deliveries batchSize leaseDuration locked now).2, c'.id = c.id →
      ∀ d' ∈ (claim s.deliveries batchSize leaseDuration locked now).1.rows, ¬d'.HeldBy c
  prunesDeliveries : ∀ batchSize locked now, ∀ d ∈ s.deliveries.rows, ¬d.status.Terminal →
    d ∈ (pruneDeliveries s.deliveries batchSize locked now).rows
  prunesEvents : ∀ batchSize locked now, ∀ e ∈ s.events.rows, ∀ d ∈ s.deliveries.rows,
    d.eventID = e.id → e ∈ (pruneEvents s.events s.deliveries batchSize locked now).rows

theorem pruneDeliveries_keeps (deliveries : DeliveryTable) (batchSize : Int) (locked : List UUID)
    (now : Timestamp) (member : d ∈ deliveries.rows) (lives : ¬d.status.Terminal) :
    d ∈ (pruneDeliveries deliveries batchSize locked now).rows := by
  refine List.mem_filter.mpr ⟨member, ?_⟩
  rw [Bool.not_eq_true', decide_eq_false_iff_not]
  intro pruned
  obtain ⟨k, chosen, own⟩ := List.mem_map.mp pruned
  obtain ⟨present, due⟩ := List.mem_filter.mp (List.mem_of_mem_take chosen)
  obtain rfl : k = d := deliveries.inj present member own
  exact lives (of_decide_eq_true due).1

theorem pruneEvents_keeps (events : Table OutboundEvent.id) (deliveries : DeliveryTable)
    (batchSize : Int) (locked : List UUID) (now : Timestamp) {e : OutboundEvent}
    (member : e ∈ events.rows) (has : d ∈ deliveries.rows) (own : d.eventID = e.id) :
    e ∈ (pruneEvents events deliveries batchSize locked now).rows := by
  refine List.mem_filter.mpr ⟨member, ?_⟩
  rw [Bool.not_eq_true', decide_eq_false_iff_not]
  intro pruned
  obtain ⟨k, chosen, same⟩ := List.mem_map.mp pruned
  obtain ⟨present, due⟩ := List.mem_filter.mp (List.mem_of_mem_take chosen)
  obtain rfl : k = e := events.inj present member same
  exact (of_decide_eq_true due).2.1 (List.any_eq_true.mpr ⟨d, has, decide_eq_true own⟩)

theorem deliverySafe_run (actions : List Action) : DeliverySafe (machine.run .empty actions) := by
  have inv := inv_run actions
  generalize machine.run .empty actions = s at inv ⊢
  refine ⟨fun d member => (inv.shape d member).attempts, inv.shape, inv.rising, ?_, ?_, ?_, ?_, ?_, ?_⟩
  · exact fun d member terminal mid => absorbed inv member terminal mid
  · exact fun c held stale mid outcome now completed done => complete_stale (lost inv held stale mid) done
  · exact fun c now d member held expired => reaped member held expired
  · exact fun c old batchSize leaseDuration locked now c' new same => reclaimed inv old new same
  · exact fun batchSize locked now d member lives =>
      pruneDeliveries_keeps s.deliveries batchSize locked now member lives
  · exact fun batchSize locked now e member d has own =>
      pruneEvents_keeps s.events s.deliveries batchSize locked now member has own

end Opslane.Notify
