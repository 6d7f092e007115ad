import Mathlib.Data.List.Sort
import Opslane.Lib.Table
import Opslane.Lib.Transition
import Opslane.Schema

/-!
# The notification outbox

`packages/ingestion/notify/dispatcher.go` over the tables `outbound_events` and
`outbound_deliveries`. Any number of dispatchers claim due deliveries, send them and complete
them under the lease generation they claimed them with; leases that run out are reaped, and
old rows are pruned. What is sent, and to whom, only decides the outcome a claim is completed
with, so an outcome is an input here.

Each statement is one transaction and takes the clock it reads. A row that another transaction
holds is skipped; `locked` names those.
-/

namespace Opslane.Notify

inductive DeliveryStatus where
  | pending | delivering | delivered | failed
  deriving DecidableEq

structure OutboundEvent where
  id : UUID
  projectID : UUID
  dedupKey : String
  createdAt : Timestamp
  deriving DecidableEq

/-- A row of `outbound_deliveries`. -/
structure Delivery where
  id : UUID
  eventID : UUID
  destinationID : UUID
  status : DeliveryStatus
  attempts : Nat
  maxAttempts : Nat
  nextAttemptAt : Timestamp
  leaseExpiresAt : Option Timestamp
  leaseGeneration : Nat
  lastError : Option String
  deliveredAt : Option Timestamp
  updatedAt : Timestamp
  deriving DecidableEq

/-- A new row, with the defaults of its columns. -/
def Delivery.new (id eventID destinationID : UUID) (now : Timestamp) : Delivery where
  id
  eventID
  destinationID
  status := .pending
  attempts := 0
  maxAttempts := 5
  nextAttemptAt := now
  leaseExpiresAt := none
  leaseGeneration := 0
  lastError := none
  deliveredAt := none
  updatedAt := now

/-- What a dispatcher remembers of a row it claimed. -/
structure DeliveryClaim where
  id : UUID
  eventID : UUID
  destinationID : UUID
  attempts : Nat
  maxAttempts : Nat
  leaseGeneration : Nat
  deriving DecidableEq

abbrev DeliveryTable := Table Delivery.id

def Claimable (now : Timestamp) (d : Delivery) : Prop :=
  d.status = .pending ∧ d.nextAttemptAt ≤ now ∧ d.attempts < d.maxAttempts
  deriving Decidable

/-- `ORDER BY next_attempt_at LIMIT batchSize FOR UPDATE SKIP LOCKED`. -/
def claimable (deliveries : DeliveryTable) (batchSize : Nat) (locked : List UUID) (now : Timestamp) :
    List Delivery :=
  ((deliveries.select fun d => Claimable now d ∧ d.id ∉ locked).insertionSort
    fun d d' => d.nextAttemptAt ≤ d'.nextAttemptAt).take batchSize

def Delivery.claim (leaseDuration : Int) (now : Timestamp) (d : Delivery) : Delivery :=
  { d with
    status := .delivering
    attempts := d.attempts + 1
    leaseGeneration := d.leaseGeneration + 1
    leaseExpiresAt := some (now + leaseDuration)
    updatedAt := now }

def Delivery.toClaim (d : Delivery) : DeliveryClaim :=
  ⟨d.id, d.eventID, d.destinationID, d.attempts, d.maxAttempts, d.leaseGeneration⟩

def claim (deliveries : DeliveryTable) (batchSize : Nat) (leaseDuration : Int) (locked : List UUID)
    (now : Timestamp) : DeliveryTable × List DeliveryClaim :=
  let chosen := claimable deliveries batchSize locked now
  (deliveries.updateWhere (fun d => d ∈ chosen) (Delivery.claim leaseDuration now) fun _ => rfl,
    chosen.map fun d => (d.claim leaseDuration now).toClaim)

inductive OutcomeClass where
  | delivered | retry | permanent
  | unknown (name : String)
  deriving DecidableEq

/-- The result of one delivery attempt; a wait of zero is none. -/
structure Outcome where
  outcomeClass : OutcomeClass
  retryAfter : Int
  reason : String
  deriving DecidableEq

def maxReasonLength : Nat := 500

def truncateReason (value : String) : String :=
  if value.length ≤ maxReasonLength then value else String.ofList (value.toList.take maxReasonLength)

def seconds (n : Int) : Int := n * 1000000

def backoff (attempt : Nat) : Int :=
  match attempt with
  | 1 => seconds 30
  | 2 => seconds 120
  | 3 => seconds 600
  | 4 => seconds 1800
  | _ => seconds 3600

def Delivery.deliver (now : Timestamp) (d : Delivery) : Delivery :=
  { d with
    status := .delivered
    deliveredAt := some now
    leaseExpiresAt := none
    lastError := none
    updatedAt := now }

def Delivery.fail (reason : String) (now : Timestamp) (d : Delivery) : Delivery :=
  { d with status := .failed, leaseExpiresAt := none, lastError := some reason, updatedAt := now }

def Delivery.retry (reason : String) (delay : Int) (now : Timestamp) (d : Delivery) : Delivery :=
  { d with
    status := .pending
    leaseExpiresAt := none
    nextAttemptAt := now + delay
    lastError := some reason
    updatedAt := now }

/-- `status = 'delivering' AND lease_generation = $2`. -/
def Delivery.HeldBy (c : DeliveryClaim) (d : Delivery) : Prop :=
  d.id = c.id ∧ d.status = .delivering ∧ d.leaseGeneration = c.leaseGeneration
  deriving Decidable

/-- An update under the fence of a claim, and whether it changed a row. -/
def settle (deliveries : DeliveryTable) (c : DeliveryClaim) (f : Delivery → Delivery)
    (frame : ∀ d, (f d).id = d.id) : DeliveryTable × Bool :=
  (deliveries.updateWhere (fun d => d.HeldBy c) f frame, deliveries.any fun d => d.HeldBy c)

def complete (deliveries : DeliveryTable) (c : DeliveryClaim) (outcome : Outcome) (now : Timestamp) :
    Except String (DeliveryTable × Bool) :=
  match outcome.outcomeClass with
  | .delivered => .ok (settle deliveries c (Delivery.deliver now) fun _ => rfl)
  | .retry =>
    if c.maxAttempts ≤ c.attempts then
      .ok (settle deliveries c (Delivery.fail (truncateReason outcome.reason) now) fun _ => rfl)
    else
      let delay := if outcome.retryAfter ≤ 0 then backoff c.attempts else outcome.retryAfter
      .ok (settle deliveries c (Delivery.retry (truncateReason outcome.reason) delay now) fun _ => rfl)
  | .permanent =>
    .ok (settle deliveries c (Delivery.fail (truncateReason outcome.reason) now) fun _ => rfl)
  | .unknown name => .error ("unknown delivery outcome \"" ++ name ++ "\"")

def Expired (now : Timestamp) (d : Delivery) : Prop :=
  d.status = .delivering ∧ d.leaseExpiresAt.any (· < now)
  deriving Decidable

def Delivery.reap (now : Timestamp) (d : Delivery) : Delivery :=
  { d with
    status := if d.maxAttempts ≤ d.attempts then .failed else .pending
    lastError := if d.maxAttempts ≤ d.attempts then some "lease expired on final attempt" else d.lastError
    nextAttemptAt := now + backoff d.attempts
    leaseExpiresAt := none
    updatedAt := now }

def reapExpired (deliveries : DeliveryTable) (now : Timestamp) : DeliveryTable :=
  deliveries.updateWhere (fun d => Expired now d) (Delivery.reap now) fun _ => rfl

/-- `interval '30 days'`. -/
def retention : Int := seconds (30 * 24 * 3600)

def defaultPruneBatch : Nat := 1000

/-- The batch size a prune works with. -/
def pruneBatch (batchSize : Int) : Nat := if batchSize ≤ 0 then defaultPruneBatch else batchSize.toNat

/-- Delivered and failed. -/
def DeliveryStatus.Terminal (status : DeliveryStatus) : Prop :=
  status ≠ .pending ∧ status ≠ .delivering

instance (status : DeliveryStatus) : Decidable status.Terminal :=
  inferInstanceAs (Decidable (_ ∧ _))

/-- One batch of deliveries; a prune takes up to five, and then as many batches of events. -/
def pruneDeliveries (deliveries : DeliveryTable) (batchSize : Int) (locked : List UUID)
    (now : Timestamp) : DeliveryTable :=
  let del := (deliveries.select fun d => d.status.Terminal ∧ d.updatedAt < now - retention ∧
    d.id ∉ locked).take (pruneBatch batchSize)
  deliveries.deleteWhere fun d => d.id ∈ del.map Delivery.id

def pruneEvents (events : Table OutboundEvent.id) (deliveries : DeliveryTable) (batchSize : Int)
    (locked : List UUID) (now : Timestamp) : Table OutboundEvent.id :=
  let del := (events.select fun e => e.createdAt < now - retention ∧
    (¬deliveries.any fun d => d.eventID = e.id) ∧ e.id ∉ locked).take (pruneBatch batchSize)
  events.deleteWhere fun e => e.id ∈ del.map OutboundEvent.id

structure Outbox where
  events : Table OutboundEvent.id
  deliveries : DeliveryTable
  /-- The claims that dispatchers hold, the latest first. -/
  claims : List DeliveryClaim
  /-- The uuids of deliveries that were drawn; one is never drawn again. -/
  drawn : List UUID

def Outbox.empty : Outbox := ⟨.empty, .empty, [], []⟩

inductive Action where
  | enqueue (e : OutboundEvent) (destinations : List (UUID × UUID)) (now : Timestamp)
  | deleteDestination (destinationID : UUID)
  | claim (batchSize : Nat) (leaseDuration : Int) (locked : List UUID) (now : Timestamp)
  | complete (c : DeliveryClaim) (outcome : Outcome) (now : Timestamp)
  | reapExpired (now : Timestamp)
  | pruneDeliveries (batchSize : Int) (locked : List UUID) (now : Timestamp)
  | pruneEvents (batchSize : Int) (locked : List UUID) (now : Timestamp)

/-- An event with a delivery to each destination, unless its key is known; `destinations` pairs each
one with the uuid drawn for its delivery. -/
def enqueue (s : Outbox) (e : OutboundEvent) (destinations : List (UUID × UUID)) (now : Timestamp) :
    Outbox :=
  let ids := destinations.map Prod.fst
  if (s.events.any fun e' => e'.projectID = e.projectID ∧ e'.dedupKey = e.dedupKey) ∨
      ∃ id ∈ ids, id ∈ s.drawn then s
  else
    match s.events.insert? e,
      s.deliveries.insertAll? (destinations.map fun p => Delivery.new p.1 e.id p.2 now) with
    | some events, some deliveries => { s with events, deliveries, drawn := ids ++ s.drawn }
    | _, _ => s

def step (s : Outbox) : Action → Outbox
  | .enqueue e destinations now => enqueue s e destinations now
  -- The deliveries go with their destination.
  | .deleteDestination destinationID =>
    { s with deliveries := s.deliveries.deleteWhere fun d => d.destinationID = destinationID }
  | .claim batchSize leaseDuration locked now =>
    let claimed := claim s.deliveries batchSize leaseDuration locked now
    { s with deliveries := claimed.1, claims := claimed.2 ++ s.claims }
  | .complete c outcome now =>
    if c ∈ s.claims then
      match complete s.deliveries c outcome now with
      | .ok completed => { s with deliveries := completed.1 }
      | .error _ => s
    else s
  | .reapExpired now => { s with deliveries := reapExpired s.deliveries now }
  | .pruneDeliveries batchSize locked now =>
    { s with deliveries := pruneDeliveries s.deliveries batchSize locked now }
  | .pruneEvents batchSize locked now =>
    { s with events := pruneEvents s.events s.deliveries batchSize locked now }

def machine : Transition.Machine Outbox Action := ⟨step⟩

end Opslane.Notify
