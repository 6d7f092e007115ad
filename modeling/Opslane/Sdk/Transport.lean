import Mathlib.Algebra.Order.Ring.Unbundled.Rat
import Mathlib.Data.List.Nodup
import Mathlib.Data.List.Perm.Basic
import Opslane.Lib.Transition

/-!
# The browser's event transport

`packages/sdk/src/transport.ts`: the queue of captured events and its three senders.
`flushEvents` takes the whole queue and posts one event after the other; `flushOnUnload`
posts the leading events at once, with one request each, and awaits none of them;
`enqueueEvent` starts a flush when the queue is long enough.

A step is what runs between two turns of the event loop. `number` is an event's place in
the order of queueing.
-/

namespace Opslane.Sdk

open Transition (committed)

/-- What an event carries: the user stamped on it, and everything else. -/
structure EventPayload where
  user : Option String
  body : String
  deriving DecidableEq

structure QueuedEvent where
  number : Nat
  payload : EventPayload
  deriving DecidableEq

/-- Late-binds the user: an event that is already stamped keeps its user. -/
def QueuedEvent.bindUser (user : Option String) (e : QueuedEvent) : QueuedEvent :=
  { e with payload := { e.payload with user := e.payload.user.or user } }

@[simp] theorem QueuedEvent.bindUser_number (user : Option String) (e : QueuedEvent) :
    (e.bindUser user).number = e.number := rfl

/-- A running `flushEvents`: the event whose request is open, those it has yet to send and
those it failed to send. -/
structure Flush where
  failed : List QueuedEvent
  sending : QueuedEvent
  waiting : List QueuedEvent
  deriving DecidableEq

structure Transport where
  queue : List QueuedEvent
  flush : Option Flush
  /-- The open requests of `flushOnUnload`. -/
  unloads : List QueuedEvent
  consecutiveFailures : Nat
  nextAttemptAt : Rat
  next : Nat

def Transport.start : Transport := ⟨[], none, [], 0, 0, 0⟩

inductive Response where
  | ok | httpError | networkFailure
  deriving DecidableEq

def maxQueueSize : Nat := 100

/-- Drops the oldest events beyond the limit of the queue. -/
def keepNewest (queue : List QueuedEvent) : List QueuedEvent :=
  queue.drop (queue.length - maxQueueSize)

def keepaliveBudgetBytes : Nat := 60 * 1024

/-- The clock and the random number a statement reads. -/
structure Tick where
  now : Rat
  random : Rat

namespace Transport

/-- Capped exponential backoff with jitter. -/
def openBackoff (s : Transport) (tick : Tick) : Transport :=
  let exp : Rat := min (1000 * 2 ^ s.consecutiveFailures) 30000
  { s with
    consecutiveFailures := s.consecutiveFailures + 1
    nextAttemptAt := tick.now + exp + tick.random * exp / 2 }

def resetBackoff (s : Transport) : Transport :=
  { s with consecutiveFailures := 0, nextAttemptAt := 0 }

/-- The `finally` of a flush: the failed events go back to the front of the queue. -/
def finishFlush (s : Transport) (failed : List QueuedEvent) (tick : Tick) : Transport :=
  let s := { s with flush := none }
  if failed = [] then s.resetBackoff
  else { s with queue := keepNewest (failed ++ s.queue) }.openBackoff tick

/-- `flushEvents` up to its first request. Without a configuration it puts all back. -/
def flushEvents (s : Transport) (configured : Bool) (user : Option String) (tick : Tick) :
    Transport :=
  if s.flush.isSome then s
  else if tick.now < s.nextAttemptAt then s
  else match s.queue with
    | [] => s
    | e :: rest =>
      if configured then { s with queue := [], flush := some ⟨[], e.bindUser user, rest⟩ }
      else { s with queue := [] }.finishFlush (e :: rest) tick

/-- What a flush still has to put back once its open request is answered. -/
def Flush.failedWith (f : Flush) (response : Response) : List QueuedEvent :=
  if response = .ok then f.failed else f.failed ++ [f.sending]

/-- The flush's request is answered: it sends the next event, or finishes. -/
def answer (s : Transport) (response : Response) (user : Option String) (tick : Tick) : Transport :=
  match s.flush with
  | none => s
  | some f =>
    match f.waiting with
    | e :: rest => { s with flush := some ⟨Flush.failedWith f response, e.bindUser user, rest⟩ }
    | [] => s.finishFlush (Flush.failedWith f response) tick

/-- `enqueueEvent` from the push on. -/
def enqueueEvent (s : Transport) (maxBatchSize : Nat) (payload : EventPayload)
    (user : Option String) (tick : Tick) : Transport :=
  let s := { s with queue := keepNewest (s.queue ++ [⟨s.next, payload⟩]), next := s.next + 1 }
  if maxBatchSize ≤ s.queue.length then s.flushEvents true user tick else s

variable (bodyBytes : EventPayload → Nat)

/-- The leading events that fit the keepalive budget, and the rest. At least one event is
sent; an event that does not fit was bound to the user before it was measured. -/
def takeFitting (user : Option String) (sentOne : Bool) (usedBytes : Nat) :
    List QueuedEvent → List QueuedEvent × List QueuedEvent
  | [] => ([], [])
  | e :: rest =>
    let e := e.bindUser user
    let bytes := bodyBytes e.payload
    if sentOne ∧ keepaliveBudgetBytes < usedBytes + bytes then ([], e :: rest)
    else
      let (sent, left) := takeFitting user true (usedBytes + bytes) rest
      (e :: sent, left)

/-- `flushOnUnload`: every request is opened before any is answered. -/
def flushOnUnload (s : Transport) (configured : Bool) (user : Option String) : Transport :=
  if configured then
    let (sent, left) := takeFitting bodyBytes user false 0 s.queue
    { s with queue := left, unloads := s.unloads ++ sent }
  else s

/-- An unload request is answered. Only a rejected `fetch` puts its event back. -/
def answerUnload (s : Transport) (number : Nat) (response : Response) : Transport :=
  let s' := { s with unloads := s.unloads.filter fun e => e.number ≠ number }
  match s.unloads.find? fun e => e.number = number with
  | none => s
  | some e =>
    if response = .networkFailure then { s' with queue := keepNewest (e :: s.queue) } else s'

inductive Action where
  | enqueueEvent (maxBatchSize : Nat) (payload : EventPayload) (user : Option String) (tick : Tick)
  | flushEvents (configured : Bool) (user : Option String) (tick : Tick)
  | answer (response : Response) (user : Option String) (tick : Tick)
  | flushOnUnload (configured : Bool) (user : Option String)
  | answerUnload (number : Nat) (response : Response)

def step (s : Transport) : Action → Transport
  | .enqueueEvent maxBatchSize payload user tick => s.enqueueEvent maxBatchSize payload user tick
  | .flushEvents configured user tick => s.flushEvents configured user tick
  | .answer response user tick => s.answer response user tick
  | .flushOnUnload configured user => s.flushOnUnload bodyBytes configured user
  | .answerUnload number response => s.answerUnload number response

def machine : Transition.Machine Transport Action := ⟨step bodyBytes⟩

/-- The events a flush has taken, in the order it took them. -/
def Flush.events (f : Flush) : List QueuedEvent := f.failed ++ f.sending :: f.waiting

/-- The events a sender holds: one flush, and one request for each unloaded event. -/
def inFlight (s : Transport) : List QueuedEvent :=
  (s.flush.elim [] Flush.events) ++ s.unloads

/-- The numbers of the events the client has, place by place. -/
def held (s : Transport) : List Nat := (s.queue ++ s.inFlight).map QueuedEvent.number

/-- A request that carried the event was answered with success. -/
def Delivered (s : Transport) (n : Nat) : Action → Prop
  | .answer .ok _ _ => s.flush.any fun f => f.sending.number = n
  | .answerUnload number .ok => number = n ∧ n ∈ s.unloads.map QueuedEvent.number
  | _ => False

/-- The event was the oldest of a queue beyond its limit: as many events as the limit allows
are still here, and all of them are newer. -/
def Evicted (s' : Transport) (n : Nat) : Prop :=
  ∃ kept : List Nat, kept.length = maxQueueSize ∧ kept.Pairwise (· < ·) ∧
    ∀ m ∈ kept, m ∈ s'.held ∧ n < m

/-- Each event is in one place, and the queue is in the order of queueing. -/
def InPlace (s : Transport) : Prop :=
  s.held.Nodup ∧ (s.queue.map QueuedEvent.number).Pairwise (· < ·)

/-- An event that was here, or that the step queued, is still here unless it was delivered
or evicted. -/
def Conserves (s : Transport) (a : Action) (s' : Transport) : Prop :=
  ∀ n, n ∈ s.held ∨ (s.next ≤ n ∧ n < s'.next) → n ∈ s'.held ∨ Delivered s n a ∨ Evicted s' n

/-- Every step of the run conserves events, and every state it reaches has them in place. -/
def EventsConserved (actions : List Action) : Prop :=
  ∀ before a after, actions = before ++ a :: after →
    let s := (machine bodyBytes).run start before
    Conserves s a (step bodyBytes s a) ∧ InPlace (step bodyBytes s a)

/-- No unload request is answered with an HTTP error, and events come back to the queue only
before those that were queued later. -/
def ReturnsInOrder (s : Transport) : Action → Prop
  | .answer response _ _ => ∀ f ∈ s.flush, f.waiting = [] →
    ∀ e ∈ Flush.failedWith f response, ∀ q ∈ s.queue, e.number < q.number
  | .answerUnload number response => number ∈ s.unloads.map QueuedEvent.number →
    response ≠ .httpError ∧
      (response = .networkFailure → ∀ q ∈ s.queue, number < q.number)
  | _ => True

instance (s : Transport) (a : Action) : Decidable (ReturnsInOrder s a) := by
  cases a <;> unfold ReturnsInOrder <;> infer_instance

/-- What the senders keep: no event is in two places, and the queue and the events of a
flush are each in the order of queueing. -/
structure Ordered (s : Transport) : Prop where
  nodup : s.held.Nodup
  queued : ∀ n ∈ s.held, n < s.next
  queue : (s.queue.map QueuedEvent.number).Pairwise (· < ·)
  flush : ∀ f ∈ s.flush, ((Flush.events f).map QueuedEvent.number).Pairwise (· < ·)

theorem keepNewest_sublist (queue : List QueuedEvent) : (keepNewest queue).Sublist queue :=
  List.drop_sublist _ _

theorem keepNewest_drops {queue : List QueuedEvent}
    (ordered : (queue.map QueuedEvent.number).Pairwise (· < ·)) {e : QueuedEvent}
    (member : e ∈ queue) (dropped : e ∉ keepNewest queue) :
    (keepNewest queue).length = maxQueueSize ∧ ∀ q ∈ keepNewest queue, e.number < q.number := by
  unfold keepNewest at dropped ⊢
  generalize cut : queue.length - maxQueueSize = k at dropped ⊢
  rw [← List.take_append_drop k queue, List.mem_append] at member
  have older := member.resolve_right dropped
  rw [← List.take_append_drop k queue, List.map_append, List.pairwise_append] at ordered
  refine ⟨?_, fun q kept => ?_⟩
  · have positive : 0 < k := by
      cases k with
      | zero => cases older
      | succ k => exact Nat.succ_pos k
    rw [List.length_drop]
    omega
  · exact ordered.2.2 e.number (List.mem_map_of_mem older) q.number (List.mem_map_of_mem kept)

variable {s : Transport}

theorem held_append (s : Transport) : s.held =
    s.queue.map QueuedEvent.number ++ s.inFlight.map QueuedEvent.number :=
  List.map_append

theorem Ordered.keepNewest (ordered : Ordered s) :
    Ordered { s with queue := keepNewest s.queue } ∧
      ∀ n ∈ s.held, n ∈ ({ s with queue := Sdk.keepNewest s.queue } : Transport).held ∨
        Evicted { s with queue := Sdk.keepNewest s.queue } n := by
  have fewer : (({ s with queue := Sdk.keepNewest s.queue } : Transport).held).Sublist s.held :=
    ((keepNewest_sublist s.queue).append_right s.inFlight).map _
  refine ⟨⟨ordered.nodup.sublist fewer, fun n member => ordered.queued n (fewer.subset member),
    ordered.queue.sublist ((keepNewest_sublist s.queue).map _), ordered.flush⟩, fun n member => ?_⟩
  rw [held_append, List.mem_append] at member
  rcases member with inQueue | elsewhere
  · obtain ⟨e, queued, rfl⟩ := List.mem_map.mp inQueue
    by_cases kept : e ∈ Sdk.keepNewest s.queue
    · left
      rw [held_append]
      exact List.mem_append_left _ (List.mem_map_of_mem kept)
    · right
      obtain ⟨full, older⟩ := keepNewest_drops ordered.queue queued kept
      refine ⟨(Sdk.keepNewest s.queue).map QueuedEvent.number, by rw [List.length_map, full],
        ordered.queue.sublist ((keepNewest_sublist s.queue).map _), fun m kept => ?_⟩
      obtain ⟨q, inKept, rfl⟩ := List.mem_map.mp kept
      refine ⟨?_, older q inKept⟩
      rw [held_append]
      exact List.mem_append_left _ (List.mem_map_of_mem inKept)
  · left
    rw [held_append]
    exact List.mem_append_right _ elsewhere

theorem Ordered.moves (ordered : Ordered s) {s' : Transport} (held : s'.held.Perm s.held)
    (next : s'.next = s.next) (queue : (s'.queue.map QueuedEvent.number).Pairwise (· < ·))
    (flush : ∀ f ∈ s'.flush, ((Flush.events f).map QueuedEvent.number).Pairwise (· < ·)) :
    Ordered s' :=
  ⟨held.nodup_iff.mpr ordered.nodup,
    fun n member => next ▸ ordered.queued n (held.mem_iff.mp member), queue, flush⟩

theorem Evicted.mono {s' : Transport} (more : ∀ n ∈ s.held, n ∈ s'.held) {n : Nat}
    (evicted : Evicted s n) : Evicted s' n := by
  obtain ⟨kept, full, ordered, older⟩ := evicted
  exact ⟨kept, full, ordered, fun m member => ⟨more m (older m member).1, (older m member).2⟩⟩

theorem Ordered.finishFlush (s : Transport) (failed : List QueuedEvent) (tick : Tick)
    (ordered : Ordered { s with queue := failed ++ s.queue, flush := none }) :
    Ordered (s.finishFlush failed tick) ∧ (s.finishFlush failed tick).next = s.next ∧
      ∀ n ∈ ({ s with queue := failed ++ s.queue, flush := none } : Transport).held,
        n ∈ (s.finishFlush failed tick).held ∨ Evicted (s.finishFlush failed tick) n := by
  unfold Transport.finishFlush
  split
  · rename_i empty
    subst empty
    exact ⟨⟨ordered.nodup, ordered.queued, ordered.queue, ordered.flush⟩, rfl,
      fun n member => Or.inl member⟩
  · obtain ⟨kept, lost⟩ := ordered.keepNewest
    exact ⟨⟨kept.nodup, kept.queued, kept.queue, kept.flush⟩, rfl, lost⟩

theorem held_flushEvents (s : Transport) (user : Option String) (tick : Tick) :
    (s.flushEvents true user tick).held = s.held := by
  unfold Transport.flushEvents
  split
  · rfl
  · rename_i idle
    have none : s.flush = none := by simpa using idle
    split
    · rfl
    · split
      · rfl
      · rename_i e rest queue
        simp [held, inFlight, Flush.events, queue, none]

theorem Ordered.flushEvents (ordered : Ordered s) (configured : Bool) (user : Option String)
    (tick : Tick) : Ordered (s.flushEvents configured user tick) ∧
      (s.flushEvents configured user tick).next = s.next ∧
      ∀ n ∈ s.held, n ∈ (s.flushEvents configured user tick).held ∨
        Evicted (s.flushEvents configured user tick) n := by
  have still : Ordered s ∧ s.next = s.next ∧ ∀ n ∈ s.held, n ∈ s.held ∨ Evicted s n :=
    ⟨ordered, rfl, fun n member => Or.inl member⟩
  unfold Transport.flushEvents
  split
  · exact still
  · rename_i idle
    have none : s.flush = none := by simpa using idle
    split
    · exact still
    · split
      · exact still
      · rename_i e rest queue
        have sorted := ordered.queue
        rw [queue] at sorted
        split
        · -- the whole queue goes to the flush
          have held : ({ s with queue := [], flush := some ⟨[], e.bindUser user, rest⟩ } :
              Transport).held = s.held := by
            simp [Transport.held, inFlight, Flush.events, queue, none]
          refine ⟨ordered.moves (by rw [held]) rfl List.Pairwise.nil ?_, rfl, fun n member => ?_⟩
          · rintro f ⟨⟩
            exact sorted
          · rw [held]
            exact Or.inl member
        · -- the queue comes back as it was
          have same : ({ s with queue := e :: rest ++ [], flush := Option.none } : Transport) = s := by
            rw [List.append_nil, ← queue, ← none]
          have back := Ordered.finishFlush { s with queue := [] } (e :: rest) tick
          dsimp only at back
          rw [same] at back
          exact back ordered

theorem Ordered.answer (ordered : Ordered s) {response : Response} {user : Option String}
    {tick : Tick} (returns : ReturnsInOrder s (.answer response user tick)) :
    Ordered (s.answer response user tick) ∧ (s.answer response user tick).next = s.next ∧
      ∀ n ∈ s.held, n ∈ (s.answer response user tick).held ∨
        Delivered s n (.answer response user tick) ∨ Evicted (s.answer response user tick) n := by
  unfold Transport.answer
  split
  · exact ⟨ordered, rfl, fun n member => Or.inl member⟩
  · rename_i f flush
    have sorted := ordered.flush f flush
    -- what the flush holds, once the answered event is out of it or among the failed
    have failed : ((Flush.failedWith f response) ++ f.waiting).Sublist (Flush.events f) := by
      unfold Flush.failedWith Flush.events
      split
      · exact (List.sublist_cons_self _ _).append_left _
      · rw [List.append_assoc]
        exact List.Sublist.refl _
    have delivered : ∀ n ∈ (Flush.events f).map QueuedEvent.number,
        n ∈ (Flush.failedWith f response ++ f.waiting).map QueuedEvent.number ∨
          Delivered s n (.answer response user tick) := by
      intro n member
      by_cases ok : response = .ok
      · subst ok
        by_cases own : f.sending.number = n
        · right
          rw [Delivered, flush, Option.any_some, decide_eq_true own]
        · left
          simp only [Flush.events, Flush.failedWith, if_pos, List.map_append, List.map_cons,
            List.mem_append, List.mem_cons] at member ⊢
          tauto
      · left
        rw [Flush.failedWith, if_neg ok, List.append_assoc]
        exact member
    have heldBefore : s.held = s.queue.map QueuedEvent.number ++
        ((Flush.events f).map QueuedEvent.number ++ s.unloads.map QueuedEvent.number) := by
      simp [held, inFlight, flush]
    split
    · rename_i e rest waiting
      rw [waiting] at failed delivered
      have held : ({ s with
          flush := some ⟨Flush.failedWith f response, e.bindUser user, rest⟩ } : Transport).held =
          s.queue.map QueuedEvent.number ++
            ((Flush.failedWith f response ++ e :: rest).map QueuedEvent.number ++
              s.unloads.map QueuedEvent.number) := by
        simp [Transport.held, inFlight, Flush.events]
      have fewer : (({ s with
          flush := some ⟨Flush.failedWith f response, e.bindUser user, rest⟩ } :
            Transport).held).Sublist s.held := by
        rw [held, heldBefore]
        exact ((failed.map _).append_right _).append_left _
      refine ⟨⟨ordered.nodup.sublist fewer, fun n member => ordered.queued n (fewer.subset member),
        ordered.queue, ?_⟩, rfl, fun n member => ?_⟩
      · rintro f' ⟨⟩
        have rest := sorted.sublist (failed.map QueuedEvent.number)
        simpa [Flush.events] using rest
      · rw [heldBefore, List.mem_append, List.mem_append] at member
        rw [held, List.mem_append, List.mem_append]
        rcases member with queued | flushed | unloaded
        · exact Or.inl (Or.inl queued)
        · rcases delivered n flushed with still | gone
          · exact Or.inl (Or.inr (Or.inl still))
          · exact Or.inr (Or.inl gone)
        · exact Or.inl (Or.inr (Or.inr unloaded))
    · rename_i waiting
      rw [waiting, List.append_nil] at failed delivered
      have older := returns f flush waiting
      have held : ({ s with
          queue := Flush.failedWith f response ++ s.queue, flush := none } : Transport).held =
          (Flush.failedWith f response).map QueuedEvent.number ++
            (s.queue.map QueuedEvent.number ++ s.unloads.map QueuedEvent.number) := by
        simp [Transport.held, inFlight]
      have back : Ordered { s with
          queue := Flush.failedWith f response ++ s.queue, flush := none } := by
        have nodup := ordered.nodup
        rw [heldBefore] at nodup
        have perm : ((Flush.failedWith f response).map QueuedEvent.number ++
            (s.queue.map QueuedEvent.number ++ s.unloads.map QueuedEvent.number)).Perm
            (s.queue.map QueuedEvent.number ++
              ((Flush.failedWith f response).map QueuedEvent.number ++
                s.unloads.map QueuedEvent.number)) := by
          rw [← List.append_assoc, ← List.append_assoc]
          exact List.perm_append_comm.append_right _
        have fewer : (s.queue.map QueuedEvent.number ++
              ((Flush.failedWith f response).map QueuedEvent.number ++
                s.unloads.map QueuedEvent.number)).Sublist s.held := by
          rw [heldBefore]
          exact ((failed.map _).append_right _).append_left _
        refine ⟨?_, fun n member => ?_, ?_, ?_⟩
        · rw [held, perm.nodup_iff]
          exact ordered.nodup.sublist fewer
        · rw [held] at member
          exact ordered.queued n (fewer.subset (perm.mem_iff.mp member))
        · rw [List.map_append, List.pairwise_append]
          refine ⟨sorted.sublist (failed.map _), ordered.queue, ?_⟩
          intro m first n second
          obtain ⟨e, inFailed, rfl⟩ := List.mem_map.mp first
          obtain ⟨q, inQueue, rfl⟩ := List.mem_map.mp second
          exact older e inFailed q inQueue
        · rintro f' ⟨⟩
      obtain ⟨after, next, lost⟩ := Ordered.finishFlush s (Flush.failedWith f response) tick back
      refine ⟨after, next, fun n member => ?_⟩
      have conserved : n ∈ ({ s with
          queue := Flush.failedWith f response ++ s.queue, flush := none } : Transport).held ∨
          Delivered s n (.answer response user tick) := by
        rw [heldBefore, List.mem_append, List.mem_append] at member
        rw [held, List.mem_append, List.mem_append]
        rcases member with queued | flushed | unloaded
        · exact Or.inl (Or.inr (Or.inl queued))
        · rcases delivered n flushed with still | gone
          · exact Or.inl (Or.inl still)
          · exact Or.inr gone
        · exact Or.inl (Or.inr (Or.inr unloaded))
      rcases conserved with still | gone
      · rcases lost n still with here | evicted
        · exact Or.inl here
        · exact Or.inr (Or.inr evicted)
      · exact Or.inr (Or.inl gone)

theorem Ordered.enqueueEvent (ordered : Ordered s) (maxBatchSize : Nat) (payload : EventPayload)
    (user : Option String) (tick : Tick) :
    Ordered (s.enqueueEvent maxBatchSize payload user tick) ∧
      (s.enqueueEvent maxBatchSize payload user tick).next = s.next + 1 ∧
      ∀ n, n ∈ s.held ∨ n = s.next → n ∈ (s.enqueueEvent maxBatchSize payload user tick).held ∨
        Evicted (s.enqueueEvent maxBatchSize payload user tick) n := by
  -- the event at the end of the queue, before the limit
  have held : ({ s with queue := s.queue ++ [⟨s.next, payload⟩], next := s.next + 1 } :
      Transport).held.Perm (s.next :: s.held) := by
    rw [held_append, held_append]
    simp only [List.map_append, List.map_cons, List.map_nil, List.append_assoc, inFlight]
    exact List.perm_middle
  have pushed : Ordered
      { s with queue := s.queue ++ [⟨s.next, payload⟩], next := s.next + 1 } := by
    refine ⟨?_, fun n member => ?_, ?_, ordered.flush⟩
    · rw [held.nodup_iff, List.nodup_cons]
      exact ⟨fun member => Nat.lt_irrefl _ (ordered.queued _ member), ordered.nodup⟩
    · rcases List.mem_cons.mp (held.mem_iff.mp member) with rfl | old
      · exact Nat.lt_succ_self _
      · exact Nat.lt_succ_of_lt (ordered.queued n old)
    · rw [List.map_append, List.pairwise_append]
      refine ⟨ordered.queue, List.pairwise_singleton _ _, ?_⟩
      intro m first n second
      rw [List.map_cons, List.map_nil, List.mem_singleton] at second
      subst second
      apply ordered.queued
      rw [held_append]
      exact List.mem_append_left _ first
  obtain ⟨kept, lost⟩ := pushed.keepNewest
  have conserved : ∀ n, n ∈ s.held ∨ n = s.next → n ∈ ({ s with
      queue := Sdk.keepNewest (s.queue ++ [⟨s.next, payload⟩]), next := s.next + 1 } :
        Transport).held ∨ Evicted { s with
          queue := Sdk.keepNewest (s.queue ++ [⟨s.next, payload⟩]), next := s.next + 1 } n := by
    intro n member
    apply lost n
    rw [held.mem_iff, List.mem_cons]
    exact member.symm
  unfold Transport.enqueueEvent
  dsimp only
  split
  · obtain ⟨flushed, next, moved⟩ := kept.flushEvents true user tick
    refine ⟨flushed, next, fun n member => ?_⟩
    rw [held_flushEvents]
    rcases conserved n member with here | evicted
    · exact Or.inl here
    · exact Or.inr (evicted.mono fun m still => by rwa [held_flushEvents])
  · exact ⟨kept, rfl, conserved⟩

theorem takeFitting_numbers (user : Option String) (sentOne : Bool) (usedBytes : Nat)
    (queue : List QueuedEvent) :
    (takeFitting bodyBytes user sentOne usedBytes queue).1.map QueuedEvent.number ++
      (takeFitting bodyBytes user sentOne usedBytes queue).2.map QueuedEvent.number =
        queue.map QueuedEvent.number := by
  induction queue generalizing sentOne usedBytes with
  | nil => rfl
  | cons e rest ih =>
    unfold takeFitting
    dsimp only
    split
    · rfl
    · simp only [List.map_cons, List.cons_append, ih, QueuedEvent.bindUser_number]

theorem Ordered.flushOnUnload (ordered : Ordered s) (configured : Bool) (user : Option String) :
    Ordered (s.flushOnUnload bodyBytes configured user) ∧
      (s.flushOnUnload bodyBytes configured user).next = s.next ∧
      ∀ n ∈ s.held, n ∈ (s.flushOnUnload bodyBytes configured user).held := by
  unfold Transport.flushOnUnload
  split
  · have numbers := takeFitting_numbers bodyBytes user false 0 s.queue
    generalize takeFitting bodyBytes user false 0 s.queue = taken at numbers
    obtain ⟨sent, left⟩ := taken
    dsimp only at numbers ⊢
    have held : ({ s with queue := left, unloads := s.unloads ++ sent } : Transport).held.Perm
        s.held := by
      rw [held_append, held_append, ← numbers]
      simp only [inFlight, List.map_append, ← List.append_assoc]
      -- the sent events move from the front of the queue to the end of the requests
      refine List.Perm.trans List.perm_append_comm ?_
      simp only [List.append_assoc]
      exact List.Perm.refl _
    have later : (left.map QueuedEvent.number).Sublist (s.queue.map QueuedEvent.number) := by
      rw [← numbers]
      exact List.sublist_append_right _ _
    exact ⟨ordered.moves held rfl (ordered.queue.sublist later) ordered.flush, rfl,
      fun n member => held.mem_iff.mpr member⟩
  · exact ⟨ordered, rfl, fun n member => member⟩

theorem perm_cons_filter_ne {events : List QueuedEvent}
    (distinct : (events.map QueuedEvent.number).Nodup) {e : QueuedEvent} (member : e ∈ events) :
    events.Perm (e :: events.filter fun q => q.number ≠ e.number) := by
  induction events with
  | nil => cases member
  | cons q rest ih =>
    rw [List.map_cons, List.nodup_cons] at distinct
    rcases List.mem_cons.mp member with rfl | later
    · have others : rest.filter (fun q => q.number ≠ e.number) = rest := by
        apply List.filter_eq_self.mpr
        intro q inRest
        have differ : q.number ≠ e.number := fun same =>
          distinct.1 (same ▸ List.mem_map_of_mem inRest)
        simpa using differ
      rw [List.filter_cons_of_neg (by simp), others]
    · have differ : q.number ≠ e.number := fun same =>
        distinct.1 (same ▸ List.mem_map_of_mem later)
      rw [List.filter_cons_of_pos (by simpa using differ)]
      exact ((ih distinct.2 later).cons q).trans (List.Perm.swap e q _)

theorem Ordered.answerUnload (ordered : Ordered s) {number : Nat} {response : Response}
    (returns : ReturnsInOrder s (.answerUnload number response)) :
    Ordered (s.answerUnload number response) ∧ (s.answerUnload number response).next = s.next ∧
      ∀ n ∈ s.held, n ∈ (s.answerUnload number response).held ∨
        Delivered s n (.answerUnload number response) ∨
        Evicted (s.answerUnload number response) n := by
  unfold Transport.answerUnload
  split
  · exact ⟨ordered, rfl, fun n member => Or.inl member⟩
  · rename_i e found
    have inFlight := List.mem_of_find?_eq_some found
    have own : e.number = number := by simpa using List.find?_some found
    subst own
    obtain ⟨noError, older⟩ := returns (List.mem_map_of_mem inFlight)
    have distinct : (s.unloads.map QueuedEvent.number).Nodup := by
      have nodup := ordered.nodup
      rw [held, Transport.inFlight, ← List.append_assoc, List.map_append] at nodup
      exact (List.nodup_append.mp nodup).2.1
    have unloads := perm_cons_filter_ne distinct inFlight
    have heldBefore : s.held.Perm (e.number :: ({ s with
        unloads := s.unloads.filter fun q => q.number ≠ e.number } : Transport).held) := by
      have all : s.held.Perm ((s.queue ++ (s.flush.elim [] Flush.events ++
          e :: s.unloads.filter fun q => q.number ≠ e.number)).map QueuedEvent.number) :=
        ((unloads.append_left _).append_left _).map _
      refine all.trans ?_
      simp only [held, Transport.inFlight, ← List.append_assoc, List.map_append, List.map_cons]
      exact List.perm_middle
    have fewer : ({ s with
        unloads := s.unloads.filter fun q => q.number ≠ e.number } : Transport).held.Sublist
          s.held :=
      ((List.filter_sublist.append_left _).append_left _).map _
    split
    · rename_i failed
      have held : ({ s with
          queue := e :: s.queue
          unloads := s.unloads.filter fun q => q.number ≠ e.number } : Transport).held.Perm
            s.held := heldBefore.symm
      have back : Ordered { s with
          queue := e :: s.queue
          unloads := s.unloads.filter fun q => q.number ≠ e.number } := by
        refine ordered.moves held rfl ?_ ordered.flush
        rw [List.map_cons, List.pairwise_cons]
        refine ⟨fun n queued => ?_, ordered.queue⟩
        obtain ⟨q, inQueue, rfl⟩ := List.mem_map.mp queued
        exact older failed q inQueue
      obtain ⟨kept, lost⟩ := back.keepNewest
      refine ⟨kept, rfl, fun n member => ?_⟩
      rcases lost n (held.mem_iff.mpr member) with here | evicted
      · exact Or.inl here
      · exact Or.inr (Or.inr evicted)
    · rename_i answered
      refine ⟨⟨ordered.nodup.sublist fewer, fun n member => ordered.queued n (fewer.subset member),
        ordered.queue, ordered.flush⟩, rfl, fun n member => ?_⟩
      rcases List.mem_cons.mp (heldBefore.mem_iff.mp member) with rfl | still
      · right
        left
        cases response with
        | ok => exact ⟨rfl, List.mem_map_of_mem inFlight⟩
        | httpError => exact absurd rfl noError
        | networkFailure => exact absurd rfl answered
      · exact Or.inl still

theorem Ordered.step (ordered : Ordered s) (a : Action) (returns : ReturnsInOrder s a) :
    Ordered (step bodyBytes s a) ∧ Conserves s a (step bodyBytes s a) := by
  have only : ∀ {s' : Transport}, s'.next = s.next →
      (∀ n ∈ s.held, n ∈ s'.held ∨ Delivered s n a ∨ Evicted s' n) → Conserves s a s' := by
    rintro s' next conserved n (member | ⟨new, past⟩)
    · exact conserved n member
    · omega
  cases a with
  | enqueueEvent maxBatchSize payload user tick =>
    obtain ⟨after, next, conserved⟩ := ordered.enqueueEvent maxBatchSize payload user tick
    refine ⟨after, fun n member => ?_⟩
    have here : n ∈ s.held ∨ n = s.next := by
      rcases member with old | ⟨new, past⟩
      · exact Or.inl old
      · right
        rw [Transport.step, next] at past
        omega
    rcases conserved n here with still | evicted
    · exact Or.inl still
    · exact Or.inr (Or.inr evicted)
  | flushEvents configured user tick =>
    obtain ⟨after, next, conserved⟩ := ordered.flushEvents configured user tick
    exact ⟨after, only next fun n member => (conserved n member).imp id Or.inr⟩
  | answer response user tick =>
    obtain ⟨after, next, conserved⟩ := ordered.answer returns
    exact ⟨after, only next conserved⟩
  | flushOnUnload configured user =>
    obtain ⟨after, next, conserved⟩ := ordered.flushOnUnload bodyBytes configured user
    exact ⟨after, only next fun n member => Or.inl (conserved n member)⟩
  | answerUnload number response =>
    obtain ⟨after, next, conserved⟩ := ordered.answerUnload returns
    exact ⟨after, only next conserved⟩

theorem ordered_start : Ordered start := by
  refine ⟨List.nodup_nil, ?_, List.Pairwise.nil, ?_⟩
  · intro n member
    cases member
  · rintro f ⟨⟩

theorem events_conserved (actions : List Action)
    (returns : (machine bodyBytes).Guarded ReturnsInOrder start actions) :
    EventsConserved bodyBytes actions := by
  rintro before a after rfl
  obtain ⟨guardedBefore, guard, -⟩ := ((machine bodyBytes).guarded_append _ _ _ _).mp returns
  have ordered := (machine bodyBytes).invariant_guarded Ordered
    (fun _ a inv guard => (inv.step bodyBytes a guard).1) ordered_start guardedBefore
  obtain ⟨next, conserves⟩ := ordered.step bodyBytes a guard
  exact ⟨conserves, next.nodup, next.queue⟩

/-- Every byte of a body counts. -/
def utf8Bytes (payload : EventPayload) : Nat := payload.body.utf8ByteSize

def captured (body : String) : Action := .enqueueEvent 10 ⟨none, body⟩ (some "user-1") ⟨0, 0⟩

/-- Two events are flushed, one of them in vain; a third is unloaded while the page is
offline; and all that came back is flushed again. -/
def offlineOnce : List Action :=
  [captured "a", captured "b", .flushEvents true none ⟨1, 0⟩, .answer .httpError none ⟨2, 0⟩,
    .answer .ok none ⟨3, 0⟩, .flushOnUnload true none, captured "c",
    .answerUnload 0 .networkFailure, .flushEvents true none ⟨5000, 0⟩, .answer .ok none ⟨5001, 0⟩,
    .answer .ok none ⟨5002, 0⟩]

theorem events_conserved_offline :
    (machine utf8Bytes).Guarded ReturnsInOrder start offlineOnce ∧
      EventsConserved utf8Bytes offlineOnce := by
  have returns : (machine utf8Bytes).Guarded ReturnsInOrder start offlineOnce := by decide +kernel
  exact ⟨returns, events_conserved utf8Bytes _ returns⟩

def refusedUnload : List Action := [captured "a", .flushOnUnload true none, .answerUnload 0 .httpError]

theorem unloaded_event_lost : ¬EventsConserved utf8Bytes refusedUnload := by
  intro conserved
  obtain ⟨lost, -⟩ := conserved [captured "a", .flushOnUnload true none] (.answerUnload 0 .httpError)
    [] rfl
  rcases lost 0 (Or.inl (by decide +kernel)) with here | delivered | ⟨kept, full, -, here⟩
  · exact absurd here (by decide +kernel)
  · exact delivered
  · cases kept with
    | nil => cases full
    | cons m rest => exact absurd (here m List.mem_cons_self).1 (by
        have none : ((machine utf8Bytes).run start refusedUnload).held = [] := by decide +kernel
        rw [show step utf8Bytes _ _ = (machine utf8Bytes).run start refusedUnload from rfl, none]
        exact List.not_mem_nil)

/-- Neither the queue nor a flush holds more than the queue may. -/
def Bounded (s : Transport) : Prop :=
  s.queue.length ≤ maxQueueSize ∧ ∀ f ∈ s.flush, (Flush.events f).length ≤ maxQueueSize

theorem length_keepNewest (queue : List QueuedEvent) : (keepNewest queue).length ≤ maxQueueSize := by
  rw [keepNewest, List.length_drop]
  omega

theorem Bounded.finishFlush (bounded : Bounded s) (failed : List QueuedEvent) (tick : Tick) :
    Bounded (s.finishFlush failed tick) := by
  unfold Transport.finishFlush
  dsimp only
  split
  · exact ⟨bounded.1, by simp [resetBackoff]⟩
  · exact ⟨length_keepNewest _, by simp [openBackoff]⟩

theorem Bounded.flushEvents (bounded : Bounded s) (configured : Bool) (user : Option String)
    (tick : Tick) : Bounded (s.flushEvents configured user tick) := by
  unfold Transport.flushEvents
  split
  · exact bounded
  split
  · exact bounded
  split
  · exact bounded
  · rename_i e rest full
    have size := bounded.1
    rw [full] at size
    split
    · refine ⟨Nat.zero_le _, fun f taken => ?_⟩
      cases taken
      exact size
    · have emptied : Bounded { s with queue := [] } := ⟨Nat.zero_le _, bounded.2⟩
      exact emptied.finishFlush (e :: rest) tick

theorem length_takeFitting (user : Option String) (sentOne : Bool) (usedBytes : Nat)
    (queue : List QueuedEvent) :
    (takeFitting bodyBytes user sentOne usedBytes queue).2.length ≤ queue.length := by
  induction queue generalizing sentOne usedBytes with
  | nil => exact Nat.le_refl _
  | cons e rest ih =>
    rw [takeFitting]
    split
    · exact Nat.le_refl _
    · exact Nat.le_succ_of_le (ih _ _)

theorem bounded_step (s : Transport) (a : Action) (bounded : Bounded s) :
    Bounded (step bodyBytes s a) := by
  cases a with
  | enqueueEvent maxBatchSize payload user tick =>
    rw [step, Transport.enqueueEvent]
    have queued : Bounded { s with
        queue := keepNewest (s.queue ++ [⟨s.next, payload⟩]), next := s.next + 1 } :=
      ⟨length_keepNewest _, bounded.2⟩
    dsimp only
    split
    · exact queued.flushEvents true user tick
    · exact queued
  | flushEvents configured user tick => exact bounded.flushEvents configured user tick
  | answer response user tick =>
    rw [step, Transport.answer]
    split
    · exact bounded
    · rename_i f sending
      have size := bounded.2 f sending
      rw [Flush.events] at size
      split
      · rename_i e rest waiting
        refine ⟨bounded.1, fun f' next => ?_⟩
        cases next
        rw [waiting] at size
        simp only [Flush.events, Flush.failedWith, List.length_append, List.length_cons] at size ⊢
        split
        · omega
        · rw [List.length_append, List.length_singleton]
          omega
      · exact bounded.finishFlush _ tick
  | flushOnUnload configured user =>
    rw [step, Transport.flushOnUnload]
    split
    · exact ⟨(length_takeFitting bodyBytes user false 0 s.queue).trans bounded.1, bounded.2⟩
    · exact bounded
  | answerUnload number response =>
    rw [step, Transport.answerUnload]
    dsimp only
    split
    · exact bounded
    · split
      · exact ⟨length_keepNewest _, bounded.2⟩
      · exact bounded

/-- However its steps interleave, the transport never holds more events than that. -/
theorem bounded_run (actions : List Action) : Bounded ((machine bodyBytes).run start actions) :=
  (machine bodyBytes).invariant_run Bounded (bounded_step bodyBytes)
    ⟨Nat.zero_le _, by simp [start]⟩ actions

end Transport

end Opslane.Sdk
