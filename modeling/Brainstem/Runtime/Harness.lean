import Brainstem.Lib.Proc
import Brainstem.Runtime.Durable

/-!
# The fault-injection harness

`RuntimeHarness` and its operations, statement by statement: a fake clock, a fake
core and a scripted source drive one session over the durable store, and a
one-shot injector makes an operation fail at a documented point.  Every operation
is a `Proc`, so what it wrote before an early return stays written.
-/

namespace Brainstem.Runtime

/-! ## Clock, core, source -/

def BACKPRESSURE_BUDGET_NS : UInt64 := 10000000

def TICK_PERIOD_NS : UInt64 := 1000000

structure FakeClock where
  nowNs : UInt64
  deriving DecidableEq, Repr

def FakeClock.advance (c : FakeClock) (ns : UInt64) : FakeClock := ⟨c.nowNs.saturatingAdd ns⟩

structure FakeCore where
  steps : UInt64
  lastStimuli : Option (List F32)
  deriving DecidableEq, Repr

def FakeCore.default : FakeCore := ⟨0, none⟩

/-- `u16::try_from(i).ok()` -/
def channelOf (i : Nat) : Option UInt16 := if i < 2 ^ 16 then some (UInt16.ofNat i) else none

def FakeCore.step (core : FakeCore) (stimuli : List F32) : Except String (List UInt16) × FakeCore :=
  (.ok ((stimuli.zipIdx.filter fun e => F32.lt F32.half e.1).filterMap fun e => channelOf e.2),
    ⟨core.steps + 1, some stimuli⟩)

structure ScriptedSource where
  packets : List SequencedIngress
  deriving DecidableEq, Repr

namespace ScriptedSource

def push (src : ScriptedSource) (packet : SequencedIngress) : ScriptedSource :=
  ⟨src.packets ++ [packet]⟩

def pushFront (src : ScriptedSource) (packet : SequencedIngress) : ScriptedSource :=
  ⟨packet :: src.packets⟩

def next (src : ScriptedSource) : Option SequencedIngress × ScriptedSource :=
  (src.packets.head?, ⟨src.packets.tail⟩)

end ScriptedSource

/-- One successfully published tick. -/
structure CommittedOutput where
  sessionId : UInt64
  tickSeq : UInt64
  ingressSeq : UInt64
  spikeIds : List UInt16
  timeNs : UInt64
  deriving DecidableEq, Repr

structure MetricEvent where
  sessionId : UInt64
  tickSeq : UInt64
  ingressSeq : UInt64
  deriving DecidableEq, Repr

inductive TickResult where
  | committed
  | skippedReplay
  | noIngress
  deriving DecidableEq, Repr

/-! ## Injector -/

structure FaultInjector where
  armed : Option FaultPoint
  deriving DecidableEq, Repr

namespace FaultInjector

def fire (i : FaultInjector) (point : FaultPoint) : Except String Unit × FaultInjector :=
  if i.armed = some point then (.error s!"injected fault: {point.debug}", ⟨none⟩) else (.ok (), i)

def take (i : FaultInjector) (point : FaultPoint) : Bool × FaultInjector :=
  if i.armed = some point then (true, ⟨none⟩) else (false, i)

end FaultInjector

/-- Terminal health assigned by the harness. -/
def injectedTerminalHealth : FaultPoint → Health
  | .before .initialization
  | .after .initialization
  | .before .checkpointValidation
  | .after .checkpointValidation
  | .before .tickExecute
  | .after .tickExecute
  | .after .metricPublish
  | .after .shutdown
  | .coreStepError => .faulted
  | .malformedCheckpoint => .checkpointInvalid
  | .before .ingress
  | .after .ingress
  | .closedChannel
  | .before .metricPublish
  | .backpressureTimeout => .degraded
  | .before .shutdown
  | .interruptedShutdown => .incompleteShutdown

/-! ## Harness -/

/-- Hard cap on ticks per harness instance. -/
def MAX_STEPS : UInt32 := 64

structure RuntimeHarness where
  clock : FakeClock
  core : FakeCore
  store : DurableStore
  durable : DurableState
  injector : FaultInjector
  source : ScriptedSource
  published : List CommittedOutput
  metrics : List MetricEvent
  health : Health
  sessionId : UInt64
  live : Bool
  liveLoopEntered : Bool
  incompletePrior : Bool
  restartOutcome : Option RestartOutcome
  skippedReplays : UInt64
  stepsTaken : UInt32
  channelOpen : Bool
  deriving DecidableEq, Repr

/-- `HarnessBuilder::build` with every part chosen: seed, store, armed fault, packets. -/
def RuntimeHarness.build (seed : UInt64) (store : DurableStore) (armed : Option FaultPoint)
    (packets : List SequencedIngress) : RuntimeHarness where
  clock := ⟨(seed * 1000000).saturatingAdd 1⟩
  core := FakeCore.default
  store := store
  durable := DurableState.fresh
  injector := ⟨armed⟩
  source := ⟨packets⟩
  published := []
  metrics := []
  health := .starting
  sessionId := 0
  live := false
  liveLoopEntered := false
  incompletePrior := false
  restartOutcome := none
  skippedReplays := 0
  stepsTaken := 0
  channelOpen := false

/-- `b"{injected-malformed-checkpoint"` -/
def INJECTED_MALFORMED : Bytes :=
  [123, 105, 110, 106, 101, 99, 116, 101, 100, 45, 109, 97, 108, 102, 111, 114, 109, 101, 100, 45,
    99, 104, 101, 99, 107, 112, 111, 105, 110, 116]

namespace RuntimeHarness

def armFault (point : FaultPoint) (h : RuntimeHarness) : RuntimeHarness :=
  { h with injector := ⟨some point⟩ }

def pushIngress (packet : SequencedIngress) (h : RuntimeHarness) : RuntimeHarness :=
  { h with source := h.source.push packet }

def pushIngressFront (packet : SequencedIngress) (h : RuntimeHarness) : RuntimeHarness :=
  { h with source := h.source.pushFront packet }

def applyFault (point : FaultPoint) : Proc RuntimeHarness Unit :=
  modify fun h =>
    let health := injectedTerminalHealth point
    { h with
      health := health
      live := if health = .faulted ∨ health = .degraded ∨ health = .incompleteShutdown
          ∨ health = .checkpointInvalid then false else h.live }

def failPoint (point : FaultPoint) : Proc RuntimeHarness Unit := do
  let h ← get
  set { h with injector := (h.injector.fire point).2 }
  match (h.injector.fire point).1 with
  | .error err =>
    applyFault point
    throw err
  | .ok () => pure ()

/-- `self.injector.take(point)` -/
def takeFault (point : FaultPoint) : Proc RuntimeHarness Bool := do
  let h ← get
  set { h with injector := (h.injector.take point).2 }
  pure (h.injector.take point).1

/-- `self.store.persist(&state)?` -/
def persist (J : SerdeJson) (state : DurableState) : Proc RuntimeHarness Unit := do
  let h ← get
  match h.store.persist J state with
  | .error e => throw e
  | .ok store => set { h with store := store }

def rejectCheckpoint : Proc RuntimeHarness Unit :=
  modify fun h =>
    { h with health := .checkpointInvalid, restartOutcome := some .rejectedInvalid, live := false }

def initializeRuntime : Proc RuntimeHarness Unit := do
  failPoint (.before .initialization)
  modify fun h =>
    { h with core := FakeCore.default, channelOpen := true, published := [], metrics := [] }
  failPoint (.after .initialization)

def startFreshSession (J : SerdeJson) : Proc RuntimeHarness Unit := do
  modify fun h =>
    { h with durable := { DurableState.fresh with lastSessionId := 1 }, sessionId := 1 }
  let h ← get
  persist J h.durable
  modify fun h =>
    { h with incompletePrior := false, restartOutcome := some .freshStart }

def recoverSession (J : SerdeJson) (state : DurableState) : Proc RuntimeHarness Unit := do
  modify fun h => { h with incompletePrior := state.inflight.isSome }
  match state.lastSessionId.checkedAdd 1 with
  | none =>
    rejectCheckpoint
    throw "session id overflow"
  | some sessionId =>
    modify fun h => { h with sessionId := sessionId }
    let state := { state with inflight := none, lastSessionId := sessionId }
    persist J state
    modify fun h =>
      { h with
        durable := state
        restartOutcome := some (if h.incompletePrior then .recoveredIncomplete else .recoveredClean) }

def validateCheckpoint (J : SerdeJson) : Proc RuntimeHarness Unit := do
  failPoint (.before .checkpointValidation)
  let malformed ← takeFault .malformedCheckpoint
  if malformed then
    modify fun h => { h with store := DurableStore.malformed INJECTED_MALFORMED }
    rejectCheckpoint
    throw "malformed checkpoint"
  else
    let h ← get
    match h.store.load J with
    | .ok none => startFreshSession J
    | .ok (some state) =>
      if state.committedTickSeq = UInt64.max then
        rejectCheckpoint
        throw "tick sequence overflow"
      else recoverSession J state
    | .error err =>
      rejectCheckpoint
      throw err

def boot (J : SerdeJson) : Proc RuntimeHarness Unit := do
  modify fun h => { h with health := .starting }
  initializeRuntime
  validateCheckpoint J
  failPoint (.after .checkpointValidation)
  modify fun h => { h with health := .live, live := true, liveLoopEntered := true }

def beginTick : Proc RuntimeHarness Unit := do
  let h ← get
  if h.live then
    let steps := h.stepsTaken.saturatingAdd 1
    set { h with stepsTaken := steps }
    if MAX_STEPS < steps then
      throw s!"bounded step limit {MAX_STEPS} exceeded"
    else modify fun h => { h with clock := h.clock.advance TICK_PERIOD_NS }
  else throw "tick loop has not started"

def ingress : Proc RuntimeHarness (Option SequencedIngress) := do
  failPoint (.before .ingress)
  let closed ← takeFault .closedChannel
  let h ← get
  if closed ∨ ¬h.channelOpen then
    applyFault .closedChannel
    throw "closed channel"
  else
    set { h with source := h.source.next.2 }
    failPoint (.after .ingress)
    pure h.source.next.1

def executeTick (J : SerdeJson) (packet : SequencedIngress) :
    Proc RuntimeHarness (UInt64 × List UInt16) := do
  failPoint (.before .tickExecute)
  let h ← get
  match h.durable.committedTickSeq.checkedAdd 1 with
  | none =>
    set { h with health := .faulted, live := false }
    throw "tick sequence overflow"
  | some tickSeq =>
    let next := { h.durable with inflight := some ⟨h.sessionId, tickSeq, packet.seq⟩ }
    persist J next
    modify fun h => { h with durable := next }
    let stepError ← takeFault .coreStepError
    if stepError then
      applyFault .coreStepError
      throw "core-step error"
    else
      let h ← get
      set { h with core := (h.core.step packet.stimuli).2 }
      match (h.core.step packet.stimuli).1 with
      | .error e => throw e
      | .ok spikeIds =>
        failPoint (.after .tickExecute)
        pure (tickSeq, spikeIds)

def publishMetrics (J : SerdeJson) (tickSeq ingressSeq : UInt64) (spikeIds : List UInt16) :
    Proc RuntimeHarness Unit := do
  failPoint (.before .metricPublish)
  let timeout ← takeFault .backpressureTimeout
  if timeout then
    modify fun h => { h with clock := h.clock.advance BACKPRESSURE_BUDGET_NS }
    applyFault .backpressureTimeout
    throw "backpressure timeout"
  else
    let h ← get
    if ¬h.channelOpen then
      set { h with health := .degraded }
      throw "closed publish channel"
    else
      let output : CommittedOutput := ⟨h.sessionId, tickSeq, ingressSeq, spikeIds, h.clock.nowNs⟩
      let next :=
        { h.durable with
          committedTickSeq := tickSeq, committedIngressSeq := ingressSeq, inflight := none }
      persist J next
      modify fun h =>
        { h with
          durable := next
          metrics := h.metrics ++ [⟨output.sessionId, output.tickSeq, output.ingressSeq⟩]
          published := h.published ++ [output] }
      failPoint (.after .metricPublish)

def runTick (J : SerdeJson) : Proc RuntimeHarness TickResult := do
  beginTick
  match ← ingress with
  | none => pure .noIngress
  | some packet =>
    let h ← get
    if packet.seq ≤ h.durable.committedIngressSeq then
      -- high-water mark: a restarted source delivers again what was committed
      set { h with skippedReplays := h.skippedReplays + 1 }
      pure .skippedReplay
    else
      let (tickSeq, spikeIds) ← executeTick J packet
      publishMetrics J tickSeq packet.seq spikeIds
      pure .committed

def shutdown : Proc RuntimeHarness Unit := do
  modify fun h => { h with health := .shuttingDown }
  failPoint (.before .shutdown)
  let interrupted ← takeFault .interruptedShutdown
  if interrupted then
    applyFault .interruptedShutdown
    throw "interrupted shutdown"
  else
    modify fun h => { h with channelOpen := false, live := false }
    failPoint (.after .shutdown)
    modify fun h => { h with health := .stopped }

end RuntimeHarness

/-- The calls a caller can make on a harness it owns. -/
inductive Call where
  | boot
  | runTick
  | shutdown
  | armFault (point : FaultPoint)
  | pushIngress (packet : SequencedIngress)
  | pushIngressFront (packet : SequencedIngress)
  deriving DecidableEq, Repr

/-- The harness after one call, whether it returned `Ok` or `Err`. -/
def RuntimeHarness.perform (J : SerdeJson) (h : RuntimeHarness) : Call → RuntimeHarness
  | .boot => ((boot J).exec h).2
  | .runTick => ((runTick J).exec h).2
  | .shutdown => (RuntimeHarness.shutdown.exec h).2
  | .armFault point => h.armFault point
  | .pushIngress packet => h.pushIngress packet
  | .pushIngressFront packet => h.pushIngressFront packet

def RuntimeHarness.performAll (J : SerdeJson) (h : RuntimeHarness) (calls : List Call) :
    RuntimeHarness :=
  calls.foldl (RuntimeHarness.perform J) h

end Brainstem.Runtime
