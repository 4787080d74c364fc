import Brainstem.Daemon.Limiter
import Brainstem.Daemon.Network
import Brainstem.Ingress.Handle

/-!
# The tick

`runTick` as the daemon makes it, in two halves: `ingest` receives, gates, admits, drains and
reports the queue pressure; `advance` gates the drained packet, steps the network and
publishes the spikes.  A tick gives a `TickTrace` of what it received, drained, called and
reported.  What the tick is given from outside (the source, the sink, the generator, the
clocks, the other threads on the ingress) is a `TickInput`.
-/

namespace Brainstem.Daemon

open Brainstem.Health
open Brainstem.Ingress hiding Instant

/-- A spike id is published if it is below this. -/
def U16_BOUND : ℕ := 65536

/-- Observable counters of the tick loop, `u64`s. -/
structure RuntimeStats where
  ticks : ℕ
  acceptedBatches : ℕ
  rejectedBatches : ℕ
  receiveErrors : ℕ
  emitErrors : ℕ
  droppedSpikes : ℕ
  diagnosticEmissions : ℕ
  suppressedDiagnostics : ℕ
  lastBatchId : Option ℕ
  lastValidMask : Option (List Bool)
  loadedCheckpoint : Option ModelProvenance
  deriving DecidableEq, Repr

namespace RuntimeStats

def default : RuntimeStats := ⟨0, 0, 0, 0, 0, 0, 0, 0, none, none, none⟩

/-- `RuntimeCounters::from`. -/
def counters (stats : RuntimeStats) : RuntimeCounters where
  ticks := stats.ticks
  acceptedBatches := stats.acceptedBatches
  rejectedBatches := stats.rejectedBatches
  receiveErrors := stats.receiveErrors
  emitErrors := stats.emitErrors
  droppedSpikes := stats.droppedSpikes
  diagnosticEmissions := stats.diagnosticEmissions
  suppressedDiagnostics := stats.suppressedDiagnostics

/-- One diagnostic, emitted or suppressed. -/
def countDiagnostic (stats : RuntimeStats) : Option ℕ → RuntimeStats
  | some _ => { stats with diagnosticEmissions := saturatingAdd stats.diagnosticEmissions 1 }
  | none => { stats with suppressedDiagnostics := saturatingAdd stats.suppressedDiagnostics 1 }

end RuntimeStats

/-- A published spike: a `u16` channel and a `u32` time. -/
structure SpikeEvent where
  channel : ℕ
  time : ℕ
  strength : F32
  deriving DecidableEq, Repr

/-- The places where a tick reads the monotonic clock. -/
inductive ClockRead where
  | receive
  | backendGate
  | observed
  | pressure
  | drainedGate
  | dropped
  | emit
  /-- of the last health event of `run_tick` -/
  | outcome
  | published
  deriving DecidableEq, Repr

structure TickInput (Entropy : Type) where
  received : Except String (Option IngressPacket)
  entropy : Entropy
  /-- what the sink answers, if it is called -/
  sink : Except String Unit
  clock : ClockRead → Instant
  /-- time since the epoch, zero before it -/
  sinceEpoch : Duration
  others : Others

/-- A call of `network.step`. -/
structure StepCall where
  stimuli : List F32
  modulators : NeuroModulators
  result : Except String (List ℕ)

/-- A call of `sink.emit`. -/
structure EmitCall where
  spikes : List SpikeEvent
  batchTime : Duration
  result : Except String Unit

structure TickTrace where
  received : Except String (Option IngressPacket)
  /-- the atomic steps on the ingress, those of other threads included -/
  sections : List BoundedIngress.Step
  drained : DrainedTick
  stepped : Option StepCall
  emitted : Option EmitCall
  events : List (HealthEvent × Instant)

/-- What the tick loop owns. -/
structure TickLoop (Network : Type) where
  network : Network
  stimuli : List F32
  spikeBuf : List SpikeEvent
  ingress : BoundedIngress
  health : HealthMachine
  stats : RuntimeStats
  diagnostics : TickDiagnostics

variable {Network Entropy : Type}

/-! ## The parts of a tick -/

def packetCarriesInput (packet : IngressPacket) : Bool :=
  !packet.stimuli.isEmpty || packet.modulators.any fun mods => !mods.isEmpty

/-- Whether a backend packet refreshes the input freshness. -/
def observesIngress (packet : IngressPacket) : Bool :=
  packetCarriesInput packet && (firstNonFinite packet).isNone

/-- An already rejected packet is left to the accounting of rejected batches. -/
def backendNonFinite (packet : IngressPacket) : Option NonFiniteInput :=
  if packet.rejected then none else firstNonFinite packet

/-- What the first half of a tick works on. -/
structure Intake where
  packet : Option IngressPacket
  stats : RuntimeStats
  diagnostics : TickDiagnostics

def recordNonFiniteRejection (now : Instant) (stats : RuntimeStats) (diagnostics : TickDiagnostics) :
    RuntimeStats × TickDiagnostics :=
  let stats := { stats with rejectedBatches := wrappingAdd stats.rejectedBatches 1 }
  let (suppressed, limiter) :=
    diagnostics.nonFinite.record (diagnosticKey NON_FINITE_DIAGNOSTIC_CATEGORY) now
  (stats.countDiagnostic suppressed, { diagnostics with nonFinite := limiter })

def receive (input : TickInput Entropy) (stats : RuntimeStats) (diagnostics : TickDiagnostics) :
    Intake :=
  match input.received with
  | .ok packet => ⟨packet, stats, diagnostics⟩
  | .error e =>
    let stats :=
      { stats with
        receiveErrors := saturatingAdd stats.receiveErrors 1
        rejectedBatches := wrappingAdd stats.rejectedBatches 1 }
    let (suppressed, limiter) := diagnostics.receive.record (diagnosticKey e) (input.clock .receive)
    ⟨none, stats.countDiagnostic suppressed, { diagnostics with receive := limiter }⟩

/-- The first gate: a live packet with a value that is not finite is dropped here. -/
def gateBackend (input : TickInput Entropy) (intake : Intake) : Intake :=
  match intake.packet.bind backendNonFinite with
  | some _ =>
    let (stats, diagnostics) :=
      recordNonFiniteRejection (input.clock .backendGate) intake.stats intake.diagnostics
    ⟨none, stats, diagnostics⟩
  | none => intake

def accountAndAdmitBackendPacket (others : Others) (packet : IngressPacket) (stats : RuntimeStats)
    (ingress : BoundedIngress) : RuntimeStats × List BoundedIngress.Step :=
  if packet.rejected then
    ({ stats with rejectedBatches := wrappingAdd stats.rejectedBatches 1 },
      if (firstNonFinite packet).isNone then ingress.admitBackendPacket others packet else [])
  else
    (if packet.batchId.isSome then
        { stats with
          acceptedBatches := wrappingAdd stats.acceptedBatches 1
          lastBatchId := packet.batchId
          lastValidMask := packet.validMask }
      else stats,
      ingress.admitBackendPacket others packet)

/-- Depth and capacity that `apply_queue_pressure` reports. -/
def queuePressure (others : Others) (ingress : BoundedIngress) :
    List BoundedIngress.Step × ℕ × ℕ :=
  let (steps, metrics) := ingress.readMetrics others
  (steps, (MessageClass.ALL.map fun cls => (metrics cls).depth).sum,
    (MessageClass.ALL.map ingress.config.effectiveCapacity).sum)

/-- The modulators and the new contents of the reused buffer. -/
def decodeInputs (nm : Neuromod Network Entropy) (packet : IngressPacket) (stimuli : List F32) :
    NeuroModulators × List F32 :=
  let readout := packet.stimuli
  let channels := stimuli.length
  let upto := min readout.length channels
  let stimuli := readout.take upto ++ stimuli.drop upto
  let stimuli :=
    if readout.length < channels then stimuli.take upto ++ List.replicate (channels - upto) 0
    else stimuli
  let stimuli := match packet.validMask with
    | some mask =>
      (mask.zipIdx.take channels).foldl
        (fun stimuli valid => if valid.1 then stimuli else stimuli.set valid.2 0) stimuli
    | none => stimuli
  -- four values or more
  match packet.modulators with
  | some (dopamine :: serotonin :: acetylcholine :: norepinephrine :: _) =>
    (⟨dopamine, serotonin, acetylcholine, norepinephrine⟩, stimuli)
  | _ => (nm.defaultModulators, stimuli)

/-- The spikes that fit the wire type, and how many do not. -/
def collectSpikes (tick : ℕ) (ids : List ℕ) : List SpikeEvent × ℕ :=
  ids.foldl
    (fun (buf, dropped) idx =>
      if idx < U16_BOUND then (buf ++ [⟨idx, tick % 2 ^ 32, .one⟩], dropped)
      else (buf, dropped + 1))
    ([], 0)

/-! ## The first half -/

structure Ingested where
  packet : IngressPacket
  drained : DrainedTick
  stats : RuntimeStats
  diagnostics : TickDiagnostics
  sections : List BoundedIngress.Step
  events : List (HealthEvent × Instant)

/-- What comes through the first gate. -/
def takeIn (d : TickLoop Network) (input : TickInput Entropy) : Intake :=
  gateBackend input (receive input d.stats d.diagnostics)

/-- It is counted and admitted; no packet, no placeholder. -/
def accountAndAdmit (d : TickLoop Network) (input : TickInput Entropy) :
    RuntimeStats × List BoundedIngress.Step :=
  let intake := takeIn d input
  match intake.packet with
  | some packet => accountAndAdmitBackendPacket input.others packet intake.stats d.ingress
  | none => (intake.stats, [])

def observed (d : TickLoop Network) (input : TickInput Entropy) : List (HealthEvent × Instant) :=
  if (takeIn d input).packet.any observesIngress then [(.ingressObserved, input.clock .observed)]
  else []

def ingest (d : TickLoop Network) (input : TickInput Entropy) : Ingested :=
  let (stats, admission) := accountAndAdmit d input
  let admitted := d.ingress.runSteps admission
  let (drain, drained) := admitted.drainForTick input.others
  let (reads, depth, capacity) := queuePressure input.others (admitted.runSteps drain)
  { packet := drained.intoPacket
    drained := drained
    stats := stats
    diagnostics := (takeIn d input).diagnostics
    sections := admission ++ drain ++ reads
    events := observed d input ++ [(.queuePressure depth capacity, input.clock .pressure)] }

/-! ## The second half -/

structure Advanced (Network : Type) where
  network : Network
  stimuli : List F32
  spikeBuf : List SpikeEvent
  stats : RuntimeStats
  diagnostics : TickDiagnostics
  stepped : Option StepCall
  emitted : Option EmitCall
  event : HealthEvent

def recordDropped (input : TickInput Entropy) (dropped : ℕ) (stats : RuntimeStats)
    (diagnostics : TickDiagnostics) : RuntimeStats × TickDiagnostics :=
  if 0 < dropped then
    let stats := { stats with droppedSpikes := saturatingAdd stats.droppedSpikes dropped }
    let (suppressed, limiter) :=
      diagnostics.dropped.record (diagnosticKey DROPPED_SPIKES_MESSAGE) (input.clock .dropped)
    (stats.countDiagnostic suppressed, { diagnostics with dropped := limiter })
  else (stats, diagnostics)

def recordEmitError (input : TickInput Entropy) (e : String) (stats : RuntimeStats)
    (diagnostics : TickDiagnostics) : RuntimeStats × TickDiagnostics :=
  let stats := { stats with emitErrors := saturatingAdd stats.emitErrors 1 }
  let (suppressed, limiter) := diagnostics.emit.record (diagnosticKey e) (input.clock .emit)
  (stats.countDiagnostic suppressed, { diagnostics with emit := limiter })

/-- After a successful step. -/
def publishSpikes (input : TickInput Entropy) (call : StepCall) (network : Network) (ids : List ℕ)
    (stats : RuntimeStats) (diagnostics : TickDiagnostics) : Advanced Network :=
  let stats := { stats with ticks := wrappingAdd stats.ticks 1 }
  let tick := input.sinceEpoch / 1000000 % 2 ^ 64
  let (spikeBuf, dropped) := collectSpikes tick ids
  let (stats, diagnostics) := recordDropped input dropped stats diagnostics
  if spikeBuf.isEmpty && !ids.isEmpty then
    -- every id was out of range, so there is nothing to publish
    ⟨network, call.stimuli, spikeBuf, stats, diagnostics, some call, none, .tickSucceeded⟩
  else
    let emitted := some ⟨spikeBuf, input.sinceEpoch, input.sink⟩
    match input.sink with
    | .error e =>
      let (stats, diagnostics) := recordEmitError input e stats diagnostics
      ⟨network, call.stimuli, spikeBuf, stats, diagnostics, some call, emitted,
        .fatal .unspecified e⟩
    | .ok () =>
      ⟨network, call.stimuli, spikeBuf, stats, diagnostics, some call, emitted, .tickSucceeded⟩

def advance (nm : Neuromod Network Entropy) (d : TickLoop Network) (input : TickInput Entropy)
    (packet : IngressPacket) (stats : RuntimeStats) (diagnostics : TickDiagnostics) :
    Advanced Network :=
  match firstNonFinite packet with
  | some _ =>
    -- the second gate: no step, no batch, and the daemon keeps ticking
    let (stats, diagnostics) :=
      recordNonFiniteRejection (input.clock .drainedGate) stats diagnostics
    ⟨d.network, d.stimuli, d.spikeBuf, stats, diagnostics, none, none, .tickSucceeded⟩
  | none =>
    let (modulators, stimuli) := decodeInputs nm packet d.stimuli
    let (result, network) := nm.step d.network input.entropy stimuli modulators
    let call : StepCall := ⟨stimuli, modulators, result⟩
    match result with
    | .error e =>
      ⟨network, stimuli, d.spikeBuf, stats, diagnostics, some call, none, .fatal .unspecified e⟩
    | .ok ids => publishSpikes input call network ids stats diagnostics

/-! ## The whole tick -/

def runTick (nm : Neuromod Network Entropy) (fl : ℚ → ℚ) (d : TickLoop Network)
    (input : TickInput Entropy) : TickTrace × TickLoop Network :=
  let i := ingest d input
  let a := advance nm d input i.packet i.stats i.diagnostics
  let events := i.events ++ [(a.event, input.clock .outcome)]
  (⟨input.received, i.sections, i.drained, a.stepped, a.emitted, events⟩,
    { network := a.network
      stimuli := a.stimuli
      spikeBuf := a.spikeBuf
      ingress := d.ingress.runSteps i.sections
      health := d.health.run fl events
      stats := a.stats
      diagnostics := a.diagnostics })

/-- The counters are published on every way out of the tick. -/
def runTickPublished (nm : Neuromod Network Entropy) (fl : ℚ → ℚ) (d : TickLoop Network)
    (input : TickInput Entropy) : TickTrace × TickLoop Network :=
  let (t, d) := runTick nm fl d input
  (t, { d with
    health := d.health.apply fl (.countersPublished d.stats.counters) (input.clock .published) })

/-! ## Runs -/

/-- Ticks, and what other threads do between them. -/
inductive Action (Entropy : Type) where
  | tick (input : TickInput Entropy)
  | other (st : BoundedIngress.Step)

inductive Label (Entropy : Type) where
  | ticked (input : TickInput Entropy) (t : TickTrace)
  | other (st : BoundedIngress.Step)

def TickLoop.step (nm : Neuromod Network Entropy) (fl : ℚ → ℚ) (d : TickLoop Network) :
    Action Entropy → Option (Label Entropy × TickLoop Network)
  | .tick input =>
    let (t, d') := runTickPublished nm fl d input
    some (.ticked input t, d')
  | .other st => some (.other st, { d with ingress := d.ingress.perform st })

/-- The two kinds of steps. -/
inductive Steps (nm : Neuromod Network Entropy) (fl : ℚ → ℚ) (d : TickLoop Network) :
    Label Entropy → TickLoop Network → Prop where
  | ticked (input : TickInput Entropy) :
      Steps nm fl d (.ticked input (runTickPublished nm fl d input).1) (runTickPublished nm fl d input).2
  | other (st : BoundedIngress.Step) :
      Steps nm fl d (.other st) { d with ingress := d.ingress.perform st }

theorem steps_of_step {nm : Neuromod Network Entropy} {fl : ℚ → ℚ} {d d' : TickLoop Network}
    {a : Action Entropy} {l : Label Entropy} (h : TickLoop.step nm fl d a = some (l, d')) :
    Steps nm fl d l d' := by
  cases a with
  | tick input =>
    cases h
    exact .ticked input
  | other st =>
    cases h
    exact .other st

end Brainstem.Daemon
