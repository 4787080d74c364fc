import Brainstem.Lib.F64

/-!
# Health snapshots

What a supervisor reads: phase, reasons, ages, pressure, counters.  Times are
nanoseconds of a monotonic clock, ages are milliseconds that saturate at `u64::MAX`.
-/

namespace Brainstem.Health

abbrev Instant := ℕ

abbrev Duration := ℕ

inductive HealthPhase where
  | starting
  | loadingCheckpoint
  | running
  | degraded
  | draining
  | fatal
  deriving DecidableEq, Repr

inductive ReasonCode where
  | starting
  | checkpointPending
  | staleInput
  | overload
  | draining
  | fatal
  deriving DecidableEq, Repr

inductive FatalCode where
  | initializationFailed
  | checkpointInvalid
  | unspecified
  deriving DecidableEq, Repr

structure CheckpointIdentity where
  id : String
  digest : Option String
  deriving DecidableEq, Repr

structure FatalState where
  code : FatalCode
  detail : String
  deriving DecidableEq, Repr

structure InputFreshness where
  ageMs : Option ℕ
  stale : Bool
  deriving DecidableEq, Repr

structure QueuePressure where
  depth : ℕ
  capacity : ℕ
  ratio : Option F64
  overloaded : Bool
  deriving DecidableEq, Repr

structure RuntimeCounters where
  ticks : ℕ
  acceptedBatches : ℕ
  rejectedBatches : ℕ
  receiveErrors : ℕ
  emitErrors : ℕ
  droppedSpikes : ℕ
  diagnosticEmissions : ℕ
  suppressedDiagnostics : ℕ
  deriving DecidableEq, Repr

namespace RuntimeCounters

def default : RuntimeCounters := ⟨0, 0, 0, 0, 0, 0, 0, 0⟩

/-- Field-wise maximum, so a published counter can never move backwards. -/
def mergedMonotonic (self next : RuntimeCounters) : RuntimeCounters where
  ticks := max self.ticks next.ticks
  acceptedBatches := max self.acceptedBatches next.acceptedBatches
  rejectedBatches := max self.rejectedBatches next.rejectedBatches
  receiveErrors := max self.receiveErrors next.receiveErrors
  emitErrors := max self.emitErrors next.emitErrors
  droppedSpikes := max self.droppedSpikes next.droppedSpikes
  diagnosticEmissions := max self.diagnosticEmissions next.diagnosticEmissions
  suppressedDiagnostics := max self.suppressedDiagnostics next.suppressedDiagnostics

/-- No field of `a` is above that of `b`. -/
structure Le (a b : RuntimeCounters) : Prop where
  ticks : a.ticks ≤ b.ticks
  acceptedBatches : a.acceptedBatches ≤ b.acceptedBatches
  rejectedBatches : a.rejectedBatches ≤ b.rejectedBatches
  receiveErrors : a.receiveErrors ≤ b.receiveErrors
  emitErrors : a.emitErrors ≤ b.emitErrors
  droppedSpikes : a.droppedSpikes ≤ b.droppedSpikes
  diagnosticEmissions : a.diagnosticEmissions ≤ b.diagnosticEmissions
  suppressedDiagnostics : a.suppressedDiagnostics ≤ b.suppressedDiagnostics

/-- Publishing counters that only grew publishes exactly them. -/
theorem mergedMonotonic_of_le {a b : RuntimeCounters} (h : Le a b) : a.mergedMonotonic b = b := by
  obtain ⟨h1, h2, h3, h4, h5, h6, h7, h8⟩ := h
  simp only [mergedMonotonic, Nat.max_eq_right, h1, h2, h3, h4, h5, h6, h7, h8]

end RuntimeCounters

structure HealthSnapshot where
  live : Bool
  ready : Bool
  phase : HealthPhase
  reasons : List ReasonCode
  lastSuccessfulTickMs : Option ℕ
  tickAgeMs : Option ℕ
  checkpoint : Option CheckpointIdentity
  inputFreshness : InputFreshness
  queuePressure : QueuePressure
  fatal : Option FatalState
  counters : RuntimeCounters
  observedAtMs : ℕ
  deriving DecidableEq, Repr

/-- Whole milliseconds, at most `u64::MAX`. -/
def durationMs (d : Duration) : ℕ := min (d / 1000000) (2 ^ 64 - 1)

end Brainstem.Health
