import Brainstem.Ingress.Config
import Brainstem.Ingress.Packet

/-!
# One class queue

`QueueState` is what the mutex of a queue guards.  Every function below is one critical
section, or a part of one: it takes the guard and gives back the guard it leaves.  A push
that has to wait gives the lock up in the middle, so it is two sections, `pushLocked` up to
the wait and `resumeWait` from the wake-up on, which is again `pushLocked` when the wait
loop goes round.
-/

namespace Brainstem.Ingress

/-- Nanoseconds of the monotonic clock. -/
abbrev Instant := ℕ

inductive WaitMode where
  | honorPolicy
  | never
  deriving DecidableEq, Repr

structure QueueState where
  items : List IngressPacket
  closed : Bool
  accepted : ℕ
  rejected : ℕ
  dropped : ℕ
  coalesced : ℕ
  shutdownRefused : ℕ
  highWaterMark : ℕ
  producerWaits : ℕ
  producerWaitNs : ℕ
  deriving DecidableEq, Repr

def QueueState.new : QueueState := ⟨[], false, 0, 0, 0, 0, 0, 0, 0, 0⟩

/-- The fixed part of a queue.  It is only built from a validated configuration, so its
capacity is positive, and 1 under `coalesce`. -/
structure BoundedQueue where
  capacity : ℕ
  maxPayloadLen : ℕ
  policy : OverflowPolicy
  blockTimeout : ℕ
  capacity_pos : 1 ≤ capacity
  coalesce_single : policy = .coalesce → capacity = 1

/-- A push after a critical section: it returned, or it waits for a slot. -/
inductive Attempt where
  | done (outcome : EnqueueOutcome) (guard : QueueState)
  | park (guard : QueueState)
  deriving DecidableEq, Repr

def Attempt.guard : Attempt → QueueState
  | .done _ guard => guard
  | .park guard => guard

namespace BoundedQueue

def payloadTooLarge (self : BoundedQueue) (packet : IngressPacket) : Bool :=
  let mods := (packet.modulators.map List.length).getD 0
  self.maxPayloadLen < packet.stimuli.length || self.maxPayloadLen < mods

def refuse (guard : QueueState) : EnqueueOutcome × QueueState :=
  (.rejected, { guard with rejected := guard.rejected + 1 })

def refuseShutdown (guard : QueueState) : EnqueueOutcome × QueueState :=
  (.shutdown, { guard with shutdownRefused := guard.shutdownRefused + 1 })

/-- `refuse_closed`, for a producer that saw the shared flag. -/
def refuseClosed (guard : QueueState) : EnqueueOutcome × QueueState := refuseShutdown guard

def pushFree (guard : QueueState) (packet : IngressPacket) : EnqueueOutcome × QueueState :=
  let items := guard.items ++ [packet]
  let depth := items.length
  (.accepted depth,
    { guard with
      items := items
      accepted := guard.accepted + 1
      highWaterMark := if guard.highWaterMark < depth then depth else guard.highWaterMark })

def pushCoalesce (guard : QueueState) (packet : IngressPacket) : EnqueueOutcome × QueueState :=
  if guard.items.isEmpty then pushFree guard packet
  else
    let items := [packet]
    let depth := items.length
    (.coalesced depth,
      { guard with
        items := items
        accepted := guard.accepted + 1
        coalesced := guard.coalesced + 1
        highWaterMark := if guard.highWaterMark < depth then depth else guard.highWaterMark })

def dropOldestAndPush (guard : QueueState) (packet : IngressPacket) : EnqueueOutcome × QueueState :=
  let guard := { guard with items := guard.items.tail, dropped := guard.dropped + 1 }
  match pushFree guard packet with
  | (.accepted depth, guard) => (.droppedOldest depth, guard)
  | other => other

def Attempt.ofPair (r : EnqueueOutcome × QueueState) : Attempt := .done r.1 r.2

/-- `wait_for_slot` up to the wait. -/
def waitForSlot (guard : QueueState) (deadline : Option Instant) (now : Instant) : Attempt :=
  let remaining := match deadline with
    | some deadline => deadline - now
    | none => 0
  if remaining = 0 then Attempt.ofPair (refuse guard)
  else .park { guard with producerWaits := guard.producerWaits + 1 }

/-- One round of the loop of `push`, with the lock held. -/
def pushLocked (self : BoundedQueue) (guard : QueueState) (packet : IngressPacket)
    (deadline : Option Instant) (now : Instant) : Attempt :=
  if guard.closed then Attempt.ofPair (refuseShutdown guard)
  else if self.policy = .coalesce then Attempt.ofPair (pushCoalesce guard packet)
  else if guard.items.length < self.capacity then Attempt.ofPair (pushFree guard packet)
  else
    match self.policy with
    | .reject => Attempt.ofPair (refuse guard)
    | .dropOldest => Attempt.ofPair (dropOldestAndPush guard packet)
    | .coalesce => Attempt.ofPair (pushCoalesce guard packet) -- handled above
    | .blockTimeout => waitForSlot guard deadline now

/-- `wait_for_slot` from the wake-up on, and the rounds of `push` that follow. -/
def resumeWait (self : BoundedQueue) (guard : QueueState) (packet : IngressPacket)
    (deadline : Option Instant) (timedOut : Bool) (elapsed : ℕ) (now : Instant) : Attempt :=
  let guard := { guard with producerWaitNs := guard.producerWaitNs + elapsed }
  if guard.closed then Attempt.ofPair (refuseShutdown guard)
  else if timedOut && self.capacity ≤ guard.items.length then Attempt.ofPair (refuse guard)
  else self.pushLocked guard packet deadline now

/-- The first critical section of `push`. -/
def pushSection (self : BoundedQueue) (guard : QueueState) (packet : IngressPacket)
    (deadline : Option Instant) (now : Instant) : Attempt :=
  if self.payloadTooLarge packet then
    if guard.closed then Attempt.ofPair (refuseShutdown guard) else Attempt.ofPair (refuse guard)
  else self.pushLocked guard packet deadline now

/-- The deadline of a push that reads the clock at `now`; `horizon` is the last instant the
platform can represent. -/
def deadline (self : BoundedQueue) (horizon : Instant) (wait : WaitMode) (now : Instant) :
    Option Instant :=
  match wait with
  | .never => none
  | .honorPolicy =>
    if self.blockTimeout = 0 then none
    else if now + self.blockTimeout ≤ horizon then some (now + self.blockTimeout)
    else none

def pop (guard : QueueState) : Option IngressPacket × QueueState :=
  (guard.items.head?, { guard with items := guard.items.tail })

def drainAll (guard : QueueState) : List IngressPacket × QueueState :=
  (guard.items, { guard with items := [] })

def shutdown (guard : QueueState) : QueueState := { guard with closed := true }

end BoundedQueue

/-- Snapshot of one class. -/
structure ClassMetrics where
  accepted : ℕ
  rejected : ℕ
  dropped : ℕ
  coalesced : ℕ
  shutdownRefused : ℕ
  depth : ℕ
  highWaterMark : ℕ
  producerWaits : ℕ
  producerWaitNs : ℕ
  deriving DecidableEq, Repr

def QueueState.metrics (guard : QueueState) : ClassMetrics where
  accepted := guard.accepted
  rejected := guard.rejected
  dropped := guard.dropped
  coalesced := guard.coalesced
  shutdownRefused := guard.shutdownRefused
  depth := guard.items.length
  highWaterMark := guard.highWaterMark
  producerWaits := guard.producerWaits
  producerWaitNs := guard.producerWaitNs

/-- The queue of a class, as `BoundedIngress::new` builds it. -/
def IngressConfig.queue (cfg : IngressConfig) (hv : cfg.validate = .ok ()) (cls : MessageClass) :
    BoundedQueue where
  capacity := cfg.effectiveCapacity cls
  maxPayloadLen := cfg.maxPayloadLen
  policy := cfg.policy cls
  blockTimeout := cfg.blockTimeout
  capacity_pos := cfg.effectiveCapacity_pos hv cls
  coalesce_single := by
    intro h
    simp [IngressConfig.effectiveCapacity, h]

end Brainstem.Ingress
