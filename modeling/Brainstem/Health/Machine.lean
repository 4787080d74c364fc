import Brainstem.Health.Snapshot

/-!
# The health state machine

`HealthMachine.apply` handler by handler, and `snapshot`.  The clock is not a field:
each call gets the instant it read.
-/

namespace Brainstem.Health

/-- Thresholds for recoverable degradation. -/
structure HealthLimits where
  staleAfter : Duration
  overloadHigh : F64
  overloadLow : F64
  deriving DecidableEq, Repr

namespace HealthLimits

def default (fl : ℚ → ℚ) : HealthLimits where
  staleAfter := 500000000
  overloadHigh := .finite (fl (9 / 10))
  overloadLow := .finite (fl (7 / 10))

def finiteOr (value fallback : F64) : F64 := if value.isFinite then value else fallback

def inUnit (value : F64) : Bool := (F64.finite 0).le value && value.le (.finite 1)

/-- Watermarks that make no sense are replaced by the built-in ones, both together. -/
def sanitized (fl : ℚ → ℚ) (self : HealthLimits) : HealthLimits :=
  let high := finiteOr self.overloadHigh (.finite (fl (9 / 10)))
  let low := finiteOr self.overloadLow (.finite (fl (7 / 10)))
  if inUnit high && inUnit low && low.lt high then ⟨self.staleAfter, high, low⟩
  else ⟨self.staleAfter, .finite (fl (9 / 10)), .finite (fl (7 / 10))⟩

end HealthLimits

inductive HealthEvent where
  | processStarted
  | initializationCompleted
  | initializationFailed (detail : String)
  | checkpointValidated (identity : CheckpointIdentity)
  | checkpointRejected (detail : String)
  | tickSucceeded
  | ingressObserved
  | queuePressure (depth capacity : ℕ)
  | countersPublished (counters : RuntimeCounters)
  | beginDrain
  | fatal (code : FatalCode) (detail : String)
  deriving DecidableEq, Repr

structure HealthMachine where
  limits : HealthLimits
  started : Bool
  initialized : Bool
  checkpointOk : Bool
  draining : Bool
  startedAt : Option Instant
  checkpointAt : Option Instant
  lastTick : Option Instant
  lastIngress : Option Instant
  checkpoint : Option CheckpointIdentity
  queueDepth : ℕ
  queueCapacity : ℕ
  overloaded : Bool
  counters : RuntimeCounters
  fatal : Option FatalState
  deriving DecidableEq, Repr

def nextOverload (fl : ℚ → ℚ) (currently : Bool) (depth capacity : ℕ) (high low : F64) : Bool :=
  if capacity = 0 then false
  else if currently then low.lt (F64.ratio fl depth capacity)
  else high.le (F64.ratio fl depth capacity)

namespace HealthMachine

def new (fl : ℚ → ℚ) (limits : HealthLimits) : HealthMachine where
  limits := limits.sanitized fl
  started := false
  initialized := false
  checkpointOk := false
  draining := false
  startedAt := none
  checkpointAt := none
  lastTick := none
  lastIngress := none
  checkpoint := none
  queueDepth := 0
  queueCapacity := 0
  overloaded := false
  counters := .default
  fatal := none

/-! ## Events -/

def enterFatal (m : HealthMachine) (code : FatalCode) (detail : String) : HealthMachine :=
  if m.fatal.isSome then m
  else { m with fatal := some ⟨code, detail⟩, checkpointOk := false }

def fatalIfStarted (m : HealthMachine) (code : FatalCode) (detail : String) : HealthMachine :=
  if m.started then m.enterFatal code detail else m

def markStarted (m : HealthMachine) (now : Instant) : HealthMachine :=
  if m.started then m else { m with started := true, startedAt := some now }

def markInitialized (m : HealthMachine) : HealthMachine :=
  if m.started && m.fatal.isNone && !m.draining then { m with initialized := true } else m

def applyBoot (m : HealthMachine) (event : HealthEvent) (now : Instant) : HealthMachine :=
  match event with
  | .processStarted => m.markStarted now
  | .initializationCompleted => m.markInitialized
  | .initializationFailed detail => m.fatalIfStarted .initializationFailed detail
  | _ => m

def canAcceptCheckpoint (m : HealthMachine) : Bool :=
  m.started && m.fatal.isNone && !m.draining && m.initialized

def applyCheckpoint (m : HealthMachine) (event : HealthEvent) (now : Instant) : HealthMachine :=
  match event with
  | .checkpointValidated identity =>
    if m.canAcceptCheckpoint then
      { m with checkpoint := some identity, checkpointOk := true, checkpointAt := some now }
    else m
  | .checkpointRejected detail => m.fatalIfStarted .checkpointInvalid detail
  | _ => m

def applyTerminal (m : HealthMachine) (event : HealthEvent) : HealthMachine :=
  match event with
  | .beginDrain => if m.fatal.isNone then { m with draining := true } else m
  | .fatal code detail => m.enterFatal code detail
  | _ => m

def applyLifecycle (m : HealthMachine) (event : HealthEvent) (now : Instant) : HealthMachine :=
  match event with
  | .processStarted | .initializationCompleted | .initializationFailed _ => m.applyBoot event now
  | .checkpointValidated _ | .checkpointRejected _ => m.applyCheckpoint event now
  | .beginDrain | .fatal _ _ => m.applyTerminal event
  | _ => m

def applyRuntime (fl : ℚ → ℚ) (m : HealthMachine) (event : HealthEvent) (now : Instant) :
    HealthMachine :=
  match event with
  | .tickSucceeded => { m with lastTick := some now }
  | .ingressObserved => { m with lastIngress := some now }
  | .countersPublished next => { m with counters := m.counters.mergedMonotonic next }
  | .queuePressure depth capacity =>
    { m with
      queueDepth := depth
      queueCapacity := capacity
      overloaded := nextOverload fl m.overloaded depth capacity m.limits.overloadHigh
        m.limits.overloadLow }
  | _ => m

def apply (fl : ℚ → ℚ) (m : HealthMachine) (event : HealthEvent) (now : Instant) : HealthMachine :=
  match event with
  | .tickSucceeded | .ingressObserved | .queuePressure _ _ | .countersPublished _ =>
    m.applyRuntime fl event now
  | other => m.applyLifecycle other now

/-! ## Snapshot -/

def isInitialized (m : HealthMachine) : Bool := m.started && m.initialized && m.checkpointOk

def isServing (m : HealthMachine) : Bool := !m.draining && m.fatal.isNone

def isReady (m : HealthMachine) : Bool := m.isInitialized && m.isServing

def computeStale (m : HealthMachine) (now : Instant) : Bool :=
  if !m.initialized || !m.checkpointOk then false
  else
    match m.lastIngress.or m.checkpointAt with
    | some t => decide (m.limits.staleAfter ≤ now - t)
    | none => false

def inputAgeMs (m : HealthMachine) (now : Instant) : Option ℕ :=
  (m.lastIngress.or m.checkpointAt).map fun t => durationMs (now - t)

def queueRatio (fl : ℚ → ℚ) (m : HealthMachine) : Option F64 :=
  if m.queueCapacity = 0 then none else some (F64.ratio fl m.queueDepth m.queueCapacity)

def queuePressure (fl : ℚ → ℚ) (m : HealthMachine) : QueuePressure :=
  ⟨m.queueDepth, m.queueCapacity, m.queueRatio fl, m.overloaded⟩

def bootReasons (m : HealthMachine) : List ReasonCode :=
  if !m.initialized then [.starting] else if !m.checkpointOk then [.checkpointPending] else []

def pushRuntimeReasons (m : HealthMachine) (reasons : List ReasonCode) (stale : Bool) :
    List ReasonCode :=
  let reasons := if m.draining then reasons ++ [.draining] else reasons
  let reasons := if stale then reasons ++ [.staleInput] else reasons
  if m.overloaded then reasons ++ [.overload] else reasons

def reasons (m : HealthMachine) (stale : Bool) : List ReasonCode :=
  if m.fatal.isSome then [.fatal] else m.pushRuntimeReasons m.bootReasons stale

def terminalPhase (m : HealthMachine) : Option HealthPhase :=
  if m.fatal.isSome then some .fatal else if m.draining then some .draining else none

def checkpointPhase (m : HealthMachine) (stale : Bool) : HealthPhase :=
  if !m.checkpointOk then .loadingCheckpoint
  else if stale || m.overloaded then .degraded
  else .running

def operationalPhase (m : HealthMachine) (stale : Bool) : HealthPhase :=
  if !m.initialized then .starting else m.checkpointPhase stale

def phase (m : HealthMachine) (stale : Bool) : HealthPhase :=
  m.terminalPhase.getD (m.operationalPhase stale)

def snapshot (fl : ℚ → ℚ) (m : HealthMachine) (now : Instant) : HealthSnapshot :=
  let origin := m.startedAt.getD now
  let ms := fun t => durationMs (t - origin)
  let stale := m.computeStale now
  { live := m.started
    ready := m.isReady
    phase := m.phase stale
    reasons := m.reasons stale
    lastSuccessfulTickMs := m.lastTick.map ms
    tickAgeMs := m.lastTick.map fun t => durationMs (now - t)
    checkpoint := m.checkpoint
    inputFreshness := ⟨m.inputAgeMs now, stale⟩
    queuePressure := m.queuePressure fl
    fatal := m.fatal
    counters := m.counters
    observedAtMs := ms now }

/-! ## Runs -/

/-- A machine after a sequence of events, each with the instant at which it was applied. -/
def run (fl : ℚ → ℚ) (m : HealthMachine) (events : List (HealthEvent × Instant)) : HealthMachine :=
  events.foldl (fun m e => m.apply fl e.1 e.2) m

theorem run_append (fl : ℚ → ℚ) (m : HealthMachine) (s t : List (HealthEvent × Instant)) :
    m.run fl (s ++ t) = (m.run fl s).run fl t := List.foldl_append

theorem run_concat (fl : ℚ → ℚ) (m : HealthMachine) (s : List (HealthEvent × Instant))
    (e : HealthEvent × Instant) : m.run fl (s ++ [e]) = (m.run fl s).apply fl e.1 e.2 := by
  rw [run_append]
  rfl

end HealthMachine

end Brainstem.Health
