import Brainstem.Ingress.Ledger
import Mathlib.Logic.Function.Basic

/-!
# The four class queues

`BoundedIngress` is the state behind every clone of the handle.  It exists only for a
configuration that passed `validate`.  `Section` lists the atomic steps that any thread can
make on it; a method of the handle is a sequence of them.
-/

namespace Brainstem.Ingress

/-- Packets drained for one tick. -/
structure DrainedTick where
  control : List IngressPacket
  reward : Option IngressPacket
  sensory : Option IngressPacket
  telemetryDrained : ℕ
  deriving DecidableEq, Repr

namespace DrainedTick

def default : DrainedTick := ⟨[], none, none, 0⟩

/-- Merge sensory and reward into the packet of the network step. -/
def intoPacket (self : DrainedTick) : IngressPacket :=
  let sensory := self.sensory.getD .default
  { stimuli := sensory.stimuli
    modulators := self.reward.bind (·.modulators)
    validMask := sensory.validMask
    batchId := sensory.batchId
    timestampNs := sensory.timestampNs
    sessionId := sensory.sessionId
    rejected := sensory.rejected }

end DrainedTick

structure BoundedIngress where
  config : IngressConfig
  valid : config.validate = .ok ()
  queues : MessageClass → QueueState
  shuttingDown : Bool

namespace BoundedIngress

def new (config : IngressConfig) : Except String BoundedIngress :=
  match h : config.validate with
  | .error e => .error e
  | .ok () => .ok ⟨config, h, fun _ => .new, false⟩

def queue (s : BoundedIngress) (cls : MessageClass) : BoundedQueue := s.config.queue s.valid cls

def setQueue (s : BoundedIngress) (cls : MessageClass) (q : QueueState) : BoundedIngress :=
  { s with queues := Function.update s.queues cls q }

@[simp] theorem setQueue_self (s : BoundedIngress) (cls : MessageClass) (q : QueueState) :
    (s.setQueue cls q).queues cls = q := Function.update_self ..

theorem setQueue_ne (s : BoundedIngress) {cls c : MessageClass} (q : QueueState) (h : c ≠ cls) :
    (s.setQueue cls q).queues c = s.queues c := Function.update_of_ne h ..

theorem new_eq_ok {config : IngressConfig} {s : BoundedIngress} (h : new config = .ok s) :
    ∃ hv : config.validate = .ok (), s = ⟨config, hv, fun _ => .new, false⟩ := by
  unfold new at h
  split at h
  · cases h
  · next hv =>
    cases h
    exact ⟨hv, rfl⟩

/-! ## The methods, cut into atomic steps -/

/-- The calls of `try_enqueue` that admit a backend packet: an empty part is not enqueued. -/
def admitParts (packet : IngressPacket) : List (MessageClass × IngressPacket) :=
  (if packet.stimuli.isEmpty then []
    else [(.sensory, { packet with modulators := none })]) ++
  match packet.modulators.filter fun m => !m.isEmpty with
  | some modulators => [(.reward, { IngressPacket.default with modulators := some modulators })]
  | none => []

def metrics (s : BoundedIngress) (cls : MessageClass) : ClassMetrics := (s.queues cls).metrics

/-- An atomic step on the shared state. -/
inductive Step where
  /-- the first critical section of a push -/
  | push (cls : MessageClass) (packet : IngressPacket) (deadline : Option Instant) (now : Instant)
  /-- the critical section of a push after a wait -/
  | resume (cls : MessageClass) (packet : IngressPacket) (deadline : Option Instant)
      (timedOut : Bool) (elapsed : ℕ) (now : Instant)
  /-- a push that saw the shared flag -/
  | refuse (cls : MessageClass)
  | pop (cls : MessageClass)
  | drainAll (cls : MessageClass)
  /-- the first half of `shutdown` -/
  | storeFlag
  | close (cls : MessageClass)
  deriving DecidableEq, Repr

/-- What a push made of it, for the steps of a push. -/
def attempt (s : BoundedIngress) : Step → Option Attempt
  | .push cls packet deadline now =>
    some ((s.queue cls).pushSection (s.queues cls) packet deadline now)
  | .resume cls packet deadline timedOut elapsed now =>
    some ((s.queue cls).resumeWait (s.queues cls) packet deadline timedOut elapsed now)
  | .refuse cls =>
    let r := BoundedQueue.refuseClosed (s.queues cls)
    some (.done r.1 r.2)
  | _ => none

/-- The packets it handed to a consumer. -/
def handedOut (s : BoundedIngress) : Step → List IngressPacket
  | .pop cls => (BoundedQueue.pop (s.queues cls)).1.toList
  | .drainAll cls => (BoundedQueue.drainAll (s.queues cls)).1
  | _ => []

/-- The class it locks. -/
def Step.cls : Step → Option MessageClass
  | .push cls _ _ _ | .resume cls _ _ _ _ _ | .refuse cls | .pop cls | .drainAll cls | .close cls =>
    some cls
  | .storeFlag => none

def perform (s : BoundedIngress) (step : Step) : BoundedIngress :=
  match step with
  | .push cls packet deadline now =>
    s.setQueue cls ((s.queue cls).pushSection (s.queues cls) packet deadline now).guard
  | .resume cls packet deadline timedOut elapsed now =>
    s.setQueue cls
      ((s.queue cls).resumeWait (s.queues cls) packet deadline timedOut elapsed now).guard
  | .refuse cls => s.setQueue cls (BoundedQueue.refuseClosed (s.queues cls)).2
  | .pop cls => s.setQueue cls (BoundedQueue.pop (s.queues cls)).2
  | .drainAll cls => s.setQueue cls (BoundedQueue.drainAll (s.queues cls)).2
  | .storeFlag => { s with shuttingDown := true }
  | .close cls => s.setQueue cls (BoundedQueue.shutdown (s.queues cls))

/-- The outcome that a step returns to a producer of class `c`. -/
def outcome (s : BoundedIngress) (step : Step) (c : MessageClass) : Option EnqueueOutcome :=
  if step.cls = some c then
    match s.attempt step with
    | some (.done o _) => some o
    | _ => none
  else none

/-- The packets of class `c` that a step hands out. -/
def takenFrom (s : BoundedIngress) (step : Step) (c : MessageClass) : List IngressPacket :=
  if step.cls = some c then s.handedOut step else []

/-- The ledger events of the queue of `c` in a step. -/
def events (s : BoundedIngress) (step : Step) (c : MessageClass) : Events :=
  if step.cls = some c then
    match step, s.attempt step with
    | .push _ packet _ _, some (.done o _)
    | .resume _ packet _ _ _ _, some (.done o _) => BoundedQueue.pushEvents (s.queues c) packet o
    | _, _ => (s.handedOut step).map (.leave .taken)
  else []

/-! ## One step on one queue -/

def Fits (s : BoundedIngress) : Prop := ∀ c, (s.queue c).Fits (s.queues c)

theorem perform_config (s : BoundedIngress) (step : Step) : (s.perform step).config = s.config := by
  cases step <;> rfl

theorem perform_queue (s : BoundedIngress) (step : Step) (c : MessageClass) :
    (s.perform step).queue c = s.queue c := by
  cases step <;> rfl

open BoundedQueue Fifo

theorem section_refl {bq : BoundedQueue} {q : QueueState} (hf : bq.Fits q) :
    bq.Section none [] q q :=
  section_of_items_eq hf rfl ⟨rfl, rfl, rfl, rfl⟩ ⟨rfl, rfl, rfl⟩

/-- A step on another class, or on none, leaves the queue of `c` alone. -/
theorem perform_of_ne (s : BoundedIngress) (step : Step) (c : MessageClass) (h : step.cls ≠ some c) :
    (s.perform step).queues c = s.queues c := by
  cases step with
  | storeFlag => rfl
  | _ => exact s.setQueue_ne _ fun hc => h (congrArg some hc.symm)

/-- **One atomic step, seen from one class**: the ledger, the counters of completed calls and
the bound, with the outcome that it returns. -/
theorem perform_section {s : BoundedIngress} (hf : s.Fits) (step : Step) (c : MessageClass) :
    (s.queue c).Section (s.outcome step c) (s.events step c) (s.queues c)
      ((s.perform step).queues c) := by
  by_cases hc : step.cls = some c
  · have hqueue : ∀ q, (s.setQueue c q).queues c = q := s.setQueue_self c
    unfold outcome events
    rw [if_pos hc, if_pos hc]
    cases step with
    | storeFlag => cases hc
    | push cls packet deadline now =>
      cases hc
      have hspec := pushSection_spec (hf c) packet deadline now
      simp only [perform, attempt, handedOut, hqueue]
      cases hr : (s.queue c).pushSection (s.queues c) packet deadline now <;> rw [hr] at hspec <;>
        exact hspec
    | resume cls packet deadline timedOut elapsed now =>
      cases hc
      have hspec := resumeWait_spec (hf c) packet deadline timedOut elapsed now
      simp only [perform, attempt, handedOut, hqueue]
      cases hr : (s.queue c).resumeWait (s.queues c) packet deadline timedOut elapsed now <;>
        rw [hr] at hspec <;> exact hspec
    | refuse cls =>
      cases hc
      simp only [perform, attempt, handedOut, hqueue]
      exact refuseShutdown_section (hf c)
    | pop cls =>
      cases hc
      simp only [perform, attempt, handedOut, hqueue]
      exact pop_section (hf c)
    | drainAll cls =>
      cases hc
      simp only [perform, attempt, handedOut, hqueue]
      exact drainAll_section
    | close cls =>
      cases hc
      simp only [perform, attempt, handedOut, hqueue]
      exact shutdown_section (hf c)
  · have ho : s.outcome step c = none := if_neg hc
    have he : s.events step c = [] := if_neg hc
    rw [perform_of_ne s step c hc, ho, he]
    exact section_refl (hf c)

theorem taken_events (s : BoundedIngress) (step : Step) (c : MessageClass) :
    taken (s.events step c) = (s.takenFrom step c).length := by
  unfold events takenFrom
  split
  · split
    · exact taken_pushEvents _ _ _
    · exact taken_pushEvents _ _ _
    · exact taken_clear _
  · rfl

/-- The packet that a step tries to queue. -/
def Step.packet : Step → Option IngressPacket
  | .push _ packet _ _ | .resume _ packet _ _ _ _ => some packet
  | _ => none

/-- Only closing closes. -/
theorem perform_closed (s : BoundedIngress) (step : Step) (c : MessageClass) :
    ((s.perform step).queues c).closed = true ↔
      (s.queues c).closed = true ∨ step = .close c := by
  by_cases hc : step.cls = some c
  · cases step with
    | push cls packet deadline now =>
      cases hc
      simp [perform, pushSection_closed]
    | resume cls packet deadline timedOut elapsed now =>
      cases hc
      simp [perform, resumeWait_closed]
    | close cls =>
      cases hc
      simp [perform, BoundedQueue.shutdown]
    | storeFlag => cases hc
    | refuse cls =>
      cases hc
      simp [perform, refuseClosed, refuseShutdown]
    | pop cls =>
      cases hc
      simp [perform, BoundedQueue.pop]
    | drainAll cls =>
      cases hc
      simp [perform, BoundedQueue.drainAll]
  · rw [perform_of_ne s step c hc]
    refine ⟨.inl, fun h => h.resolve_right ?_⟩
    rintro rfl
    exact hc rfl

/-- A push that ran its section returned, or it waits. -/
theorem attempt_of_packet {s : BoundedIngress} {step : Step} {packet : IngressPacket}
    (hp : step.packet = some packet) :
    (∃ o q, s.attempt step = some (.done o q)) ∨ ∃ q, s.attempt step = some (.park q) := by
  have hattempt : ∃ r, s.attempt step = some r := by
    cases step <;> first | exact ⟨_, rfl⟩ | cases hp
  obtain ⟨r, hr⟩ := hattempt
  cases r with
  | done o q => exact .inl ⟨o, q, hr⟩
  | park q => exact .inr ⟨q, hr⟩

theorem seen_of_done {s : BoundedIngress} {step : Step} {c : MessageClass} {packet : IngressPacket}
    {o : EnqueueOutcome} {q : QueueState} (hc : step.cls = some c) (hp : step.packet = some packet)
    (ha : s.attempt step = some (.done o q)) :
    s.outcome step c = some o ∧ s.takenFrom step c = [] ∧
      s.events step c = pushEvents (s.queues c) packet o := by
  unfold outcome takenFrom events
  rw [if_pos hc, if_pos hc, if_pos hc, ha]
  cases step <;> cases hp <;> exact ⟨rfl, rfl, rfl⟩

theorem seen_of_park {s : BoundedIngress} {step : Step} {c : MessageClass} {q : QueueState}
    (ha : s.attempt step = some (.park q)) :
    s.outcome step c = none ∧ s.takenFrom step c = [] ∧ s.events step c = [] := by
  have hout : s.handedOut step = [] := by
    cases step <;> first | rfl | cases ha
  unfold outcome takenFrom events
  rw [ha, hout]
  by_cases hc : step.cls = some c
  · rw [if_pos hc, if_pos hc, if_pos hc]
    cases step <;> exact ⟨rfl, rfl, rfl⟩
  · rw [if_neg hc, if_neg hc, if_neg hc]
    exact ⟨rfl, rfl, rfl⟩

/-- The other steps accept nothing, and what leaves was handed out. -/
theorem seen_of_no_packet {s : BoundedIngress} {step : Step} {c : MessageClass}
    (hp : step.packet = none) :
    (s.outcome step c).any (·.isAccepted) = false ∧
      s.events step c = (s.takenFrom step c).map (.leave .taken) ∧
      departures (s.queues c) (s.outcome step c) (s.takenFrom step c) =
        (s.takenFrom step c).map fun p => (.taken, p) := by
  unfold outcome takenFrom events
  by_cases hc : step.cls = some c
  · rw [if_pos hc, if_pos hc, if_pos hc]
    cases step <;> first | exact ⟨rfl, rfl, rfl⟩ | cases hp
  · rw [if_neg hc, if_neg hc, if_neg hc]
    exact ⟨rfl, rfl, rfl⟩

/-- What a step lets in and out of the queue of `c`. -/
theorem events_spec (s : BoundedIngress) (step : Step) (c : MessageClass) :
    entered (s.events step c) =
      (if (s.outcome step c).any (·.isAccepted) then step.packet.toList else []) ∧
    left (s.events step c) = departures (s.queues c) (s.outcome step c) (s.takenFrom step c) := by
  by_cases hc : step.cls = some c
  · cases hp : step.packet with
    | none =>
      obtain ⟨ho, he, hd⟩ := seen_of_no_packet (s := s) (c := c) hp
      rw [ho, he, hd]
      exact ⟨entered_clear _ _, left_clear _ _⟩
    | some packet =>
      rcases attempt_of_packet (s := s) hp with ⟨o, q, ha⟩ | ⟨q, ha⟩
      · obtain ⟨ho, ht, he⟩ := seen_of_done hc hp ha
        rw [ho, ht, he]
        exact ⟨entered_pushEvents _ _ _, left_pushEvents _ _ _⟩
      · obtain ⟨ho, ht, he⟩ := seen_of_park (c := c) ha
        rw [ho, ht, he]
        exact ⟨rfl, rfl⟩
  · unfold outcome takenFrom events
    rw [if_neg hc, if_neg hc, if_neg hc]
    exact ⟨rfl, rfl⟩

/-- A push is decided by the queue of its class. -/
theorem attempt_decided {s : BoundedIngress} {step : Step} {c : MessageClass}
    {packet : IngressPacket} {r : Attempt} (hc : step.cls = some c)
    (hp : step.packet = some packet) (ha : s.attempt step = some r) :
    ∃ deadline big late, Attempt.Decided (s.queue c) (s.queues c) deadline big late r := by
  cases step with
  | push cls packet deadline now =>
    cases hc
    rw [← Option.some.inj ha]
    exact ⟨_, _, _, pushSection_decided packet deadline now⟩
  | resume cls packet deadline timedOut elapsed now =>
    cases hc
    rw [← Option.some.inj ha]
    exact ⟨_, _, _, resumeWait_decided packet deadline timedOut elapsed now⟩
  | _ => cases hp

/-- A packet is evicted as the policy of its class has it. -/
theorem outcome_evicts (s : BoundedIngress) (step : Step) (c : MessageClass) :
    (∀ depth, s.outcome step c = some (.droppedOldest depth) → (s.queue c).policy = .dropOldest ∧
      (s.queue c).capacity ≤ (s.queues c).items.length) ∧
    ∀ depth, s.outcome step c = some (.coalesced depth) → (s.queue c).policy = .coalesce := by
  by_cases hc : step.cls = some c
  · cases hp : step.packet with
    | none =>
      have ho := (seen_of_no_packet (s := s) (c := c) hp).1
      refine ⟨?_, ?_⟩ <;> intro depth h <;> rw [h] at ho <;> cases ho
    | some packet =>
      rcases attempt_of_packet (s := s) hp with ⟨o, q, ha⟩ | ⟨q, ha⟩
      · obtain ⟨deadline, big, late, hdec⟩ := attempt_decided hc hp ha
        rw [(seen_of_done hc hp ha).1]
        refine ⟨?_, ?_⟩
        · rintro depth ⟨⟩
          exact ⟨hdec.2.2.1, hdec.2.2.2.1⟩
        · rintro depth ⟨⟩
          exact hdec.2.2.1
      · rw [(seen_of_park (c := c) ha).1]
        refine ⟨?_, ?_⟩ <;> rintro depth ⟨⟩
  · unfold outcome
    rw [if_neg hc]
    refine ⟨?_, ?_⟩ <;> rintro depth ⟨⟩

/-- Where nothing is evicted, depth is what was let in less what was handed out. -/
theorem depth_perform {s : BoundedIngress} (hf : s.Fits) {c : MessageClass}
    (hp : (s.queue c).policy ≠ .dropOldest ∧ (s.queue c).policy ≠ .coalesce) (step : Step) :
    (s.queues c).items.length + (if (s.outcome step c).any (·.isAccepted) then 1 else 0) =
      (s.takenFrom step c).length + ((s.perform step).queues c).items.length := by
  have hsec := perform_section hf step c
  have hlen := hsec.moves.runs.length
  have hin : (entered (s.events step c)).length =
      if (s.outcome step c).any (·.isAccepted) then 1 else 0 := by
    have h1 := hsec.moves.accepted
    have h2 := hsec.tally.accepted
    omega
  have hout : (left (s.events step c)).length = (s.takenFrom step c).length := by
    obtain ⟨hdrop, hcoal⟩ := outcome_evicts s step c
    rw [(events_spec s step c).2]
    unfold departures
    split
    · next depth ho => exact absurd (hdrop depth ho).1 hp.1
    · next depth ho => exact absurd (hcoal depth ho) hp.2
    · exact List.length_map _
  rw [hin, hout] at hlen
  exact hlen

theorem Fits.perform {s : BoundedIngress} (hf : s.Fits) (step : Step) : (s.perform step).Fits := by
  intro c
  rw [perform_queue]
  exact BoundedQueue.Fits.of_section (perform_section hf step c) (hf c)

theorem Fits.new {config : IngressConfig} {s : BoundedIngress} (h : BoundedIngress.new config = .ok s) :
    s.Fits := by
  obtain ⟨hv, rfl⟩ := new_eq_ok h
  exact fun c => BoundedQueue.Fits.new _

end BoundedIngress

end Brainstem.Ingress
