import Brainstem.Health.Snapshot

/-!
# The metrics text

`prometheusText` writes a snapshot as Prometheus text: probe gauges, one gauge for each phase
and each recoverable reason, runtime gauges and counters.  The only labels are the stable codes
of phases and reasons.
-/

namespace Brainstem.Health

namespace HealthPhase

def ALL : List HealthPhase := [starting, loadingCheckpoint, running, degraded, draining, fatal]

def asStr : HealthPhase → String
  | starting => "starting"
  | loadingCheckpoint => "loading_checkpoint"
  | running => "running"
  | degraded => "degraded"
  | draining => "draining"
  | fatal => "fatal"

end HealthPhase

namespace ReasonCode

def RECOVERABLE : List ReasonCode := [staleInput, overload]

def asStr : ReasonCode → String
  | starting => "starting"
  | checkpointPending => "checkpoint_pending"
  | staleInput => "stale_input"
  | overload => "overload"
  | draining => "draining"
  | fatal => "fatal"

end ReasonCode

/-- Metric name, help and value of each counter. -/
def RuntimeCounters.metrics (self : RuntimeCounters) : List (String × String × ℕ) :=
  [("brainstem_ticks_total", "Ticks that stepped the network.", self.ticks),
    ("brainstem_accepted_batches_total", "Backend batches accepted into ingress.",
      self.acceptedBatches),
    ("brainstem_rejected_batches_total",
      "Batches rejected (backend-flagged, receive failure, or non-finite).",
      self.rejectedBatches),
    ("brainstem_receive_errors_total", "Backend receive failures, including rate-limited repeats.",
      self.receiveErrors),
    ("brainstem_emit_errors_total", "Spike emission failures, including rate-limited repeats.",
      self.emitErrors),
    ("brainstem_dropped_spikes_total",
      "Spikes discarded because their IDs did not fit the wire type.", self.droppedSpikes),
    ("brainstem_diagnostic_emissions_total", "Tick diagnostics emitted after rate limiting.",
      self.diagnosticEmissions),
    ("brainstem_suppressed_diagnostics_total",
      "Recurring diagnostic occurrences suppressed by rate limiting.", self.suppressedDiagnostics)]

def pushMetricHeader (out name help kind : String) : String :=
  out ++ "# HELP " ++ name ++ " " ++ help ++ "\n" ++ "# TYPE " ++ name ++ " " ++ kind ++ "\n"

def pushSample (out name value : String) : String := out ++ name ++ " " ++ value ++ "\n"

def pushGauge (out name help value : String) : String :=
  pushSample (pushMetricHeader out name help "gauge") name value

def pushOptionalGauge (out name help : String) : Option ℕ → String
  | some v => pushGauge out name help (toString v)
  | none => pushGauge out name help "NaN"

def writeProbeGauges (out : String) (snap : HealthSnapshot) : String :=
  let out := pushGauge out "brainstem_live" "1 if the process health reporter is running."
    (toString snap.live.toNat)
  pushGauge out "brainstem_ready" "1 if initialized, checkpoint-valid, not draining, not fatal."
    (toString snap.ready.toNat)

def writePhaseGauges (out : String) (current : HealthPhase) : String :=
  HealthPhase.ALL.foldl (fun out phase =>
    out ++ "brainstem_phase\x7bphase=\"" ++ phase.asStr ++ "\"\x7d " ++
      toString (decide (current = phase)).toNat ++ "\n") out

def writeDegradedGauges (out : String) (reasons : List ReasonCode) : String :=
  ReasonCode.RECOVERABLE.foldl (fun out reason =>
    out ++ "brainstem_degraded\x7breason=\"" ++ reason.asStr ++ "\"\x7d " ++
      toString (decide (reason ∈ reasons)).toNat ++ "\n") out

def writeLabeledGauges (out : String) (snap : HealthSnapshot) : String :=
  let out := out ++ "# HELP brainstem_phase 1 for the current health phase.\n"
  let out := out ++ "# TYPE brainstem_phase gauge\n"
  let out := writePhaseGauges out snap.phase
  let out := out ++ "# HELP brainstem_degraded Recoverable degradation by stable reason code.\n"
  let out := out ++ "# TYPE brainstem_degraded gauge\n"
  writeDegradedGauges out snap.reasons

def writeRuntimeGauges (out : String) (snap : HealthSnapshot) : String :=
  let out := pushGauge out "brainstem_fatal" "1 if this process has entered a sticky fatal state."
    (toString snap.fatal.isSome.toNat)
  let out := pushOptionalGauge out "brainstem_last_successful_tick_ms"
    "Milliseconds from process start until the last successful tick (not tick age); NaN if none yet."
    snap.lastSuccessfulTickMs
  let out := pushOptionalGauge out "brainstem_tick_age_ms"
    "Milliseconds since the last successful tick; NaN if none yet." snap.tickAgeMs
  let out := pushOptionalGauge out "brainstem_input_age_ms"
    "Age of last ingress (or checkpoint, if none) in milliseconds; NaN if none yet."
    snap.inputFreshness.ageMs
  let out := pushGauge out "brainstem_queue_depth" "Ingress queue depth."
    (toString snap.queuePressure.depth)
  pushGauge out "brainstem_queue_capacity" "Ingress queue capacity."
    (toString snap.queuePressure.capacity)

def writeRuntimeCounters (out : String) (counters : RuntimeCounters) : String :=
  counters.metrics.foldl (fun out (name, help, value) =>
    pushSample (pushMetricHeader out name help "counter") name (toString value)) out

def HealthSnapshot.prometheusText (self : HealthSnapshot) : String :=
  let out := writeProbeGauges "" self
  let out := writeLabeledGauges out self
  let out := writeRuntimeGauges out self
  writeRuntimeCounters out self.counters

end Brainstem.Health
