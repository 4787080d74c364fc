import Brainstem.Ingress.Lone
import Brainstem.Lib.Unwinding

/-!
# Calls made one after the other

`call` is one call of a handle, from its start to its return, with no other call in between.
A push that has to wait goes through its wake-ups alone; whatever the clock shows it, it ends
as a push that never waits would end:

    bq.push horizon q packet wait clock = some (o, q') →
      bq.pushSection q.untimed packet none 0 = .done o q'.untimed        (push_untimed)
-/

namespace Brainstem.Ingress

/-- What one wait of a producer ends with. -/
structure Wake where
  timedOut : Bool
  elapsed : ℕ
  /-- the clock when the next round looks at it -/
  now : Instant
  deriving DecidableEq, Repr

/-- What a push sees of the clock: at its deadline, in its first round, and in its waits. -/
structure Clock where
  start : Instant
  now : Instant
  wakes : List Wake
  deriving DecidableEq, Repr

def Clock.zero : Clock := ⟨0, 0, []⟩

/-- Everything but the wait times. -/
def QueueState.untimed (guard : QueueState) : QueueState :=
  { guard with producerWaits := 0, producerWaitNs := 0 }

namespace BoundedQueue

/-- The rounds of a push after its waits; `none` if it is still waiting, or had returned. -/
def wake (self : BoundedQueue) (packet : IngressPacket) (deadline : Option Instant) :
    Attempt → List Wake → Option (EnqueueOutcome × QueueState)
  | .done outcome guard, [] => some (outcome, guard)
  | .park guard, w :: wakes =>
    self.wake packet deadline
      (self.resumeWait guard packet deadline w.timedOut w.elapsed w.now) wakes
  | _, _ => none

/-- A whole push, when no other call comes between its sections. -/
def push (self : BoundedQueue) (horizon : Instant) (guard : QueueState) (packet : IngressPacket)
    (wait : WaitMode) (clock : Clock) : Option (EnqueueOutcome × QueueState) :=
  let deadline := self.deadline horizon wait clock.start
  self.wake packet deadline (self.pushSection guard packet deadline clock.now) clock.wakes

/-! ## The clock decides nothing -/

variable {bq : BoundedQueue} {q q' : QueueState}

/-- A section leaves a push that is bound to end as the push without a deadline. -/
def Attempt.Bound (bq : BoundedQueue) (q : QueueState) (packet : IngressPacket) : Attempt → Prop
  | .done o q' => bq.pushSection q.untimed packet none 0 = .done o q'.untimed
  | .park q' => q'.untimed = q.untimed ∧ q.closed = false ∧ bq.payloadTooLarge packet = false ∧
      bq.policy = .blockTimeout ∧ bq.capacity ≤ q.items.length

/-- Without a deadline a full queue that blocks refuses at once. -/
theorem pushSection_full {packet : IngressPacket} (hopen : q.closed = false)
    (hfits : bq.payloadTooLarge packet = false) (hp : bq.policy = .blockTimeout)
    (hfull : bq.capacity ≤ q.items.length) :
    bq.pushSection q packet none 0 = Attempt.ofPair (refuse q) := by
  unfold pushSection pushLocked
  rw [hfits, hopen, hp]
  simp [Nat.not_lt.2 hfull, waitForSlot]

theorem waitForSlot_bound {packet : IngressPacket} (hopen : q.closed = false)
    (hfits : bq.payloadTooLarge packet = false) (hp : bq.policy = .blockTimeout)
    (hfull : bq.capacity ≤ q.items.length) (deadline : Option Instant) (now : Instant) :
    Attempt.Bound bq q packet (waitForSlot q deadline now) := by
  have hrefuse : Attempt.Bound bq q packet (Attempt.ofPair (refuse q)) :=
    pushSection_full (q := q.untimed) hopen hfits hp hfull
  unfold waitForSlot
  cases deadline with
  | none => exact hrefuse
  | some d =>
    simp only
    split
    · exact hrefuse
    · exact ⟨rfl, hopen, hfits, hp, hfull⟩

theorem pushCoalesce_untimed (q : QueueState) (packet : IngressPacket) :
    Attempt.ofPair (pushCoalesce q.untimed packet) =
      .done (pushCoalesce q packet).1 (pushCoalesce q packet).2.untimed := by
  unfold pushCoalesce
  rw [show q.untimed.items = q.items from rfl]
  split <;> rfl

theorem pushLocked_bound {packet : IngressPacket} (hfits : bq.payloadTooLarge packet = false)
    (deadline : Option Instant) (now : Instant) :
    Attempt.Bound bq q packet (bq.pushLocked q packet deadline now) := by
  have hsection : bq.pushSection q.untimed packet none 0 = bq.pushLocked q.untimed packet none 0 := by
    unfold pushSection
    rw [hfits]
    rfl
  -- the push without a deadline takes the same branches, up to the wait
  unfold pushLocked
  split
  · next hclosed => exact hsection.trans (if_pos hclosed)
  · next hopen =>
    rw [show bq.pushLocked q.untimed packet none 0 = _ from if_neg hopen] at hsection
    split
    · next hc =>
      rw [if_pos hc] at hsection
      exact hsection.trans (pushCoalesce_untimed q packet)
    · next hc =>
      rw [if_neg hc] at hsection
      split
      · next hroom => exact hsection.trans (if_pos hroom)
      · next hfull =>
        rw [show (if q.untimed.items.length < bq.capacity then _ else _) = _ from if_neg hfull]
          at hsection
        split
        · next hp =>
          rw [hp] at hsection
          exact hsection
        · next hp =>
          rw [hp] at hsection
          exact hsection
        · next hp => exact absurd hp hc
        · next hp =>
          rw [Bool.not_eq_true] at hopen
          exact waitForSlot_bound hopen hfits hp (Nat.le_of_not_lt hfull) deadline now

theorem pushSection_bound (q : QueueState) (packet : IngressPacket) (deadline : Option Instant)
    (now : Instant) : Attempt.Bound bq q packet (bq.pushSection q packet deadline now) := by
  unfold pushSection
  split
  · next hbig =>
    have hsection : bq.pushSection q.untimed packet none 0 = _ := if_pos hbig
    split
    · next hclosed => exact hsection.trans (if_pos hclosed)
    · next hopen => exact hsection.trans (if_neg hopen)
  · next hbig =>
    rw [Bool.not_eq_true] at hbig
    exact pushLocked_bound hbig deadline now

/-- Nobody made room while it waited. -/
theorem resumeWait_bound {packet : IngressPacket} (h : Attempt.Bound bq q packet (.park q'))
    (deadline : Option Instant) (timedOut : Bool) (elapsed : ℕ) (now : Instant) :
    Attempt.Bound bq q packet (bq.resumeWait q' packet deadline timedOut elapsed now) := by
  obtain ⟨hq', hopen, hfits, hp, hfull⟩ := h
  -- the guard after the wait, which differs from `q` in the wait times
  let g := { q' with producerWaitNs := q'.producerWaitNs + elapsed }
  have hg : g.untimed = q.untimed := hq'
  have hgopen : g.untimed.closed = false := (congrArg QueueState.closed hg).trans hopen
  have hgitems : g.untimed.items = q.untimed.items := congrArg QueueState.items hg
  have hgfull : bq.capacity ≤ g.untimed.items.length := by
    rw [hgitems]
    exact hfull
  have hresume : Attempt.Bound bq g packet (bq.resumeWait q' packet deadline timedOut elapsed now) := by
    unfold resumeWait
    simp only
    rw [if_neg (by rw [show q'.closed = g.untimed.closed from rfl, hgopen]; exact Bool.false_ne_true)]
    split
    · exact pushSection_full (q := g.untimed) hgopen hfits hp hgfull
    · exact pushLocked_bound hfits deadline now
  revert hresume
  cases bq.resumeWait q' packet deadline timedOut elapsed now with
  | done o q'' =>
    intro hresume
    show bq.pushSection q.untimed packet none 0 = _
    rw [← hg]
    exact hresume
  | park q'' =>
    intro hresume
    exact ⟨hresume.1.trans hg, hopen, hfits, hp, hfull⟩

theorem wake_bound {packet : IngressPacket} {deadline : Option Instant} {wakes : List Wake}
    {r : Attempt} (hr : Attempt.Bound bq q packet r) {o : EnqueueOutcome}
    (h : bq.wake packet deadline r wakes = some (o, q')) :
    bq.pushSection q.untimed packet none 0 = .done o q'.untimed := by
  induction wakes generalizing r with
  | nil =>
    cases r with
    | done o' q'' =>
      cases h
      exact hr
    | park q'' => cases h
  | cons w wakes ih =>
    cases r with
    | done o' q'' => cases h
    | park q'' => exact ih (resumeWait_bound hr deadline w.timedOut w.elapsed w.now) h

/-- **A push that nobody disturbs ends as a push that never waits**, up to the wait times. -/
theorem push_untimed {horizon : Instant} {packet : IngressPacket} {wait : WaitMode} {clock : Clock}
    {o : EnqueueOutcome} (h : bq.push horizon q packet wait clock = some (o, q')) :
    bq.pushSection q.untimed packet none 0 = .done o q'.untimed :=
  wake_bound (pushSection_bound q packet _ clock.now) h

/-- The ledger of such a push. -/
theorem push_section {horizon : Instant} (hf : bq.Fits q) {packet : IngressPacket} {wait : WaitMode}
    {clock : Clock} {o : EnqueueOutcome} (h : bq.push horizon q packet wait clock = some (o, q')) :
    bq.Section (some o) (pushEvents q packet o) q q' := by
  have hspec := pushSection_spec (q := q.untimed) ⟨hf.depth, hf.highWaterMark⟩ packet none 0
  rw [push_untimed h] at hspec
  obtain ⟨hmoves, htally, hdepth, hmark⟩ := hspec
  -- the wait times are not in the ledger
  exact ⟨⟨hmoves.1, hmoves.2, hmoves.3, hmoves.4⟩, ⟨htally.1, htally.2, htally.3⟩, hdepth, hmark⟩

/-- It evicts as the policy has it. -/
theorem push_evicts {horizon : Instant} {packet : IngressPacket} {wait : WaitMode} {clock : Clock}
    {o : EnqueueOutcome} (h : bq.push horizon q packet wait clock = some (o, q')) :
    (∀ depth, o = .droppedOldest depth → bq.policy = .dropOldest) ∧
      ∀ depth, o = .coalesced depth → bq.policy = .coalesce := by
  have hdec : Attempt.Decided bq q.untimed none (bq.payloadTooLarge packet) false
      (bq.pushSection q.untimed packet none 0) := pushSection_decided packet none 0
  rw [push_untimed h] at hdec
  refine ⟨?_, ?_⟩
  · rintro depth rfl
    exact hdec.2.2.1
  · rintro depth rfl
    exact hdec.2.2.1

/-- A wait that times out ends the push, so some clock lets it return. -/
theorem push_returns (bq : BoundedQueue) (horizon : Instant) (q : QueueState)
    (packet : IngressPacket) (wait : WaitMode) :
    ∃ clock r, bq.push horizon q packet wait clock = some r := by
  let deadline := bq.deadline horizon wait 0
  have hbound : Attempt.Bound bq q packet (bq.pushSection q packet deadline 0) :=
    pushSection_bound q packet deadline 0
  cases hr : bq.pushSection q packet deadline 0 with
  | done o q' =>
    refine ⟨⟨0, 0, []⟩, (o, q'), ?_⟩
    show bq.wake packet deadline (bq.pushSection q packet deadline 0) [] = _
    rw [hr]
    rfl
  | park q' =>
    rw [hr] at hbound
    obtain ⟨hq', hopen, -, -, hfull⟩ := hbound
    have hitems : q'.items = q.items := congrArg (fun g => g.items) hq'
    have hclosed : q'.closed = false := (congrArg (fun g => g.closed) hq').trans hopen
    refine ⟨⟨0, 0, [⟨true, 0, 0⟩]⟩, refuse { q' with producerWaitNs := q'.producerWaitNs + 0 }, ?_⟩
    show bq.wake packet deadline (bq.pushSection q packet deadline 0) [⟨true, 0, 0⟩] = _
    rw [hr]
    simp [wake, resumeWait, hclosed, hitems, hfull, Attempt.ofPair]

end BoundedQueue

/-! ## Calls on the handle -/

/-- `drainClass` is what `drain_for_tick` does to one class. -/
inductive Call where
  | enqueue (cls : MessageClass) (packet : IngressPacket) (clock : Clock)
  | tryEnqueue (cls : MessageClass) (packet : IngressPacket)
  | pop (cls : MessageClass)
  | admitBackendPacket (packet : IngressPacket)
  | drainForTick
  | drainClass (cls : MessageClass)
  deriving DecidableEq, Repr

/-- What passes between a caller and one class. -/
inductive Exchange where
  | pushed (packet : IngressPacket) (outcome : EnqueueOutcome)
  | popped (packet : Option IngressPacket)
  | drained (packets : List IngressPacket)
  /-- drained and only counted -/
  | emptied (count : ℕ)
  deriving DecidableEq, Repr

abbrev Exchanges := List (MessageClass × Exchange)

namespace BoundedIngress

def push (horizon : Instant) (s : BoundedIngress) (cls : MessageClass) (packet : IngressPacket)
    (wait : WaitMode) (clock : Clock) : Option (EnqueueOutcome × BoundedIngress) :=
  (if s.shuttingDown then some (BoundedQueue.refuseClosed (s.queues cls))
    else (s.queue cls).push horizon (s.queues cls) packet wait clock).map
      fun r => (r.1, s.setQueue cls r.2)

def pushCall (horizon : Instant) (s : BoundedIngress) (cls : MessageClass) (packet : IngressPacket)
    (wait : WaitMode) (clock : Clock) : Option (Exchanges × BoundedIngress) :=
  (s.push horizon cls packet wait clock).map fun r => ([(cls, .pushed packet r.1)], r.2)

/-- One of the calls that `admit_backend_packet` makes. -/
def partCall (horizon : Instant) (s : BoundedIngress) (part : MessageClass × IngressPacket) :
    Option (Exchanges × BoundedIngress) :=
  s.pushCall horizon part.1 part.2 .never .zero

/-- What `drain_for_tick` hands out of a class. -/
def drainExchange (cls : MessageClass) (guard : QueueState) : Exchange :=
  match cls with
  | .control => .drained (BoundedQueue.drainAll guard).1
  | .reward | .sensory => .popped (BoundedQueue.pop guard).1
  | .telemetry => .emptied (BoundedQueue.drainAll guard).1.length

def call (horizon : Instant) (s : BoundedIngress) : Call → Option (Exchanges × BoundedIngress)
  | .enqueue cls packet clock => s.pushCall horizon cls packet .honorPolicy clock
  | .tryEnqueue cls packet => s.pushCall horizon cls packet .never .zero
  | .pop cls =>
    some ([(cls, .popped (BoundedQueue.pop (s.queues cls)).1)],
      s.setQueue cls (BoundedQueue.pop (s.queues cls)).2)
  | .admitBackendPacket packet =>
    (Run.exec (partCall horizon) (admitParts packet) ([], s)).map
      fun r => (Unwinding.said r.1, r.2)
  | .drainForTick =>
    let r := s.drainForTick nobody
    some ([(.control, .drained r.2.control), (.reward, .popped r.2.reward),
        (.sensory, .popped r.2.sensory), (.telemetry, .emptied r.2.telemetryDrained)],
      s.runSteps r.1)
  | .drainClass cls =>
    some ([(cls, drainExchange cls (s.queues cls))], s.setQueue cls (drained cls (s.queues cls)))

theorem push_eq_some {horizon : Instant} {s t : BoundedIngress} {cls : MessageClass}
    {packet : IngressPacket} {wait : WaitMode} {clock : Clock} {o : EnqueueOutcome} :
    s.push horizon cls packet wait clock = some (o, t) ↔
      ∃ q, t = s.setQueue cls q ∧ (s.shuttingDown = true ∧ BoundedQueue.refuseClosed (s.queues cls) = (o, q) ∨
        s.shuttingDown = false ∧
          (s.queue cls).push horizon (s.queues cls) packet wait clock = some (o, q)) := by
  unfold push
  cases s.shuttingDown with
  | true =>
    simp only [if_true, Option.map_some, Option.some.injEq, Prod.mk.injEq]
    constructor
    · rintro ⟨rfl, rfl⟩
      exact ⟨_, rfl, .inl ⟨trivial, rfl⟩⟩
    · rintro ⟨q, rfl, ⟨-, h⟩ | ⟨h, -⟩⟩
      · rw [h]
        exact ⟨rfl, rfl⟩
      · cases h
  | false =>
    simp only [Bool.false_eq_true, if_false, Option.map_eq_some_iff]
    constructor
    · rintro ⟨⟨o', q⟩, h, heq⟩
      cases heq
      exact ⟨q, rfl, .inr ⟨trivial, h⟩⟩
    · rintro ⟨q, rfl, ⟨h, -⟩ | ⟨-, h⟩⟩
      · exact h.elim
      · exact ⟨(o, q), h, rfl⟩

/-- `try_enqueue` as a call is `try_enqueue` as atomic steps. -/
theorem push_tryEnqueue (horizon : Instant) (s : BoundedIngress) (cls : MessageClass)
    (packet : IngressPacket) : ∃ o, s.push horizon cls packet .never .zero =
      some (o, s.runSteps (s.tryEnqueue nobody cls packet)) := by
  have hsteps : s.runSteps (s.tryEnqueue nobody cls packet) =
      s.perform (if s.shuttingDown then .refuse cls else .push cls packet none 0) := rfl
  rw [hsteps]
  cases hsd : s.shuttingDown with
  | true => exact ⟨_, push_eq_some.2 ⟨_, rfl, .inl ⟨hsd, rfl⟩⟩⟩
  | false =>
    have hdecided : BoundedQueue.Attempt.Decided (s.queue cls) (s.queues cls) none
        ((s.queue cls).payloadTooLarge packet) false
        ((s.queue cls).pushSection (s.queues cls) packet none 0) :=
      BoundedQueue.pushSection_decided packet none 0
    cases hr : (s.queue cls).pushSection (s.queues cls) packet none 0 with
    | done o q =>
      refine ⟨o, push_eq_some.2 ⟨q, ?_, .inr ⟨hsd, ?_⟩⟩⟩
      · simp only [Bool.false_eq_true, if_false, perform, hr]
        rfl
      · show (s.queue cls).wake packet none ((s.queue cls).pushSection (s.queues cls) packet none 0) [] = _
        rw [hr]
        rfl
    | park q =>
      rw [hr] at hdecided
      cases hdecided.2.2.2.2

/-- `admit_backend_packet` always returns, in the state that its atomic steps lead to. -/
theorem call_admitBackendPacket (horizon : Instant) (s : BoundedIngress) (packet : IngressPacket) :
    ∃ answers, s.call horizon (.admitBackendPacket packet) =
      some (answers, s.runSteps (s.admitBackendPacket nobody packet)) := by
  have hparts : ∀ parts, ∃ trace, Run.exec (partCall horizon) parts ([], s) =
      some (trace, s.runSteps (s.enqueueParts nobody parts)) := by
    intro parts
    induction parts generalizing s with
    | nil => exact ⟨[], rfl⟩
    | cons part parts ih =>
      obtain ⟨o, ho⟩ := push_tryEnqueue horizon s part.1 part.2
      obtain ⟨trace, htrace⟩ := ih (s.runSteps (s.tryEnqueue nobody part.1 part.2))
      have hpart : partCall horizon s part = some ([(part.1, .pushed part.2 o)],
          s.runSteps (s.tryEnqueue nobody part.1 part.2)) := by
        unfold partCall pushCall
        rw [ho]
        rfl
      rw [enqueueParts, runSteps_append]
      exact ⟨_, Run.exec_cons_eq_some.2 ⟨_, _, hpart, htrace, rfl⟩⟩
  obtain ⟨trace, htrace⟩ := hparts (admitParts packet)
  refine ⟨Unwinding.said trace, ?_⟩
  show (Run.exec (partCall horizon) (admitParts packet) ([], s)).map _ = _
  rw [htrace]
  rfl

end BoundedIngress

end Brainstem.Ingress
