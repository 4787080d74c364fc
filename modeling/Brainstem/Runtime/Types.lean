import Brainstem.Lib.F32
import Brainstem.Lib.Word

/-!
# The restart contract: boundaries, faults, health

The vocabulary of the fault-injection harness.  A `Boundary` wraps one side
effect; a `FaultPoint` is a place where a fault can be injected, before or after
a boundary or at a named operation of it.
-/

namespace Brainstem.Runtime

inductive Boundary where
  | initialization
  | checkpointValidation
  | ingress
  | tickExecute
  | metricPublish
  | shutdown
  deriving DecidableEq, Repr

inductive FaultPoint where
  | before (b : Boundary)
  | after (b : Boundary)
  | malformedCheckpoint
  | coreStepError
  | closedChannel
  | backpressureTimeout
  | interruptedShutdown
  deriving DecidableEq, Repr

def Boundary.debug : Boundary → String
  | .initialization => "Initialize"
  | .checkpointValidation => "CheckpointValidation"
  | .ingress => "Ingress"
  | .tickExecute => "TickExecute"
  | .metricPublish => "MetricPublish"
  | .shutdown => "Shutdown"

/-- The `{:?}` form of a fault point. -/
def FaultPoint.debug : FaultPoint → String
  | .before b => s!"Before({b.debug})"
  | .after b => s!"After({b.debug})"
  | .malformedCheckpoint => "MalformedCheckpoint"
  | .coreStepError => "CoreStepError"
  | .closedChannel => "ClosedChannel"
  | .backpressureTimeout => "BackpressureTimeout"
  | .interruptedShutdown => "InterruptedShutdown"

/-- Terminal health after the injected fault (or after a clean shutdown). -/
inductive Health where
  | starting
  | live
  | checkpointInvalid
  | degraded
  | faulted
  | shuttingDown
  | stopped
  | incompleteShutdown
  deriving DecidableEq, Repr

/-- How the next process boot interprets the durable store. -/
inductive RestartOutcome where
  | freshStart
  | recoveredClean
  | recoveredIncomplete
  | rejectedInvalid
  deriving DecidableEq, Repr

/-- A stimulus packet; `seq` is the high-water mark and the idempotency key. -/
structure SequencedIngress where
  seq : UInt64
  stimuli : List F32
  deriving DecidableEq, Repr

end Brainstem.Runtime
