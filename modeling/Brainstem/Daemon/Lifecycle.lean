import Brainstem.Daemon.Entry
import Brainstem.Lib.Run

/-!
# The life of a daemon

`runForTicks` and `runLoop` from the start to the return, with the calls that they make on
the backend pair.  What the pair answers, the result of binding the control surface, the
clocks and the other threads come from outside (`BackendAnswers`, `Around`).
-/

namespace Brainstem.Daemon

open Brainstem.Health
open Brainstem.Ingress hiding Instant

/-- A call of a method of the source or of the sink. -/
inductive BackendCall where
  | initializeWith (modelPath : String)
  | nextIngress
  | emit (spikes : List SpikeEvent) (batchTime : Duration)
  | flush
  | shutdown
  deriving DecidableEq, Repr

/-- What the pair answers outside the ticks; what it answers in a tick is in its input. -/
structure BackendAnswers where
  initialized : Except String Unit
  flush : Except String Unit
  shutdown : Except String Unit

/-- The clocks, the ticks and the other threads around a run. -/
structure Around (Entropy : Type) where
  /-- of the health events of the boot, one after the other -/
  bootClock : ℕ → Instant
  tick : ℕ → TickInput Entropy
  /-- other threads before a tick, or before the shutdown after the last one -/
  before : ℕ → List BoundedIngress.Step
  drainClock : Instant
  /-- other threads while the queues close, and until the run returns -/
  closing : MessageClass → List BoundedIngress.Step
  after : List BoundedIngress.Step

/-- The daemon as `try_with_backend` builds it. -/
structure BrainstemDaemon where
  config : DaemonConfig
  ingress : BoundedIngress
  health : HealthMachine

/-- What a run leaves when it returns. -/
structure Returned (α : Type) where
  calls : List BackendCall
  result : Except String α
  ingress : BoundedIngress
  health : HealthMachine

variable {Network Entropy : Type}

/-! ## Ticks -/

/-- The calls of one tick. -/
def TickTrace.calls (t : TickTrace) : List BackendCall :=
  .nextIngress :: t.emitted.toList.map fun call => .emit call.spikes call.batchTime

/-- `drive_ticks`, and the ticks of `run_loop`. -/
def driveTicks (nm : Neuromod Network Entropy) (fl : ℚ → ℚ) (around : Around Entropy)
    (d : TickLoop Network) : ℕ → List BackendCall × TickLoop Network
  | 0 => ([], d)
  | n + 1 =>
    let (calls, d) := driveTicks nm fl around d n
    let (t, d) := runTickPublished nm fl { d with ingress := d.ingress.runSteps (around.before n) }
      (around.tick n)
    (calls ++ t.calls, d)

/-! ## The ways to end -/

/-- The errors are logged. -/
def shutdownBackend : List BackendCall := [.flush, .shutdown]

def finishBoundedRun (answers : BackendAnswers) : List BackendCall × Except String Unit :=
  ([.flush, .shutdown],
    match answers.flush with
    | .error _ => .error "failed to flush spike sink"
    | .ok () =>
      match answers.shutdown with
      | .error _ => .error "failed to shut down stimulus source"
      | .ok () => .ok ())

/-- The ingress is shut down before the `n`-th tick, which is not made. -/
def closeIngress (around : Around Entropy) (n : ℕ) (ingress : BoundedIngress) : BoundedIngress :=
  ingress.runSteps
    (around.before n ++ BoundedIngress.shutdownSteps around.closing ++ around.after)

/-- Nothing to start without `control_bind`; `bound` is the answer of the operating system. -/
def startControl (bind : Option String) (bound : Except String Unit) : Except String Unit :=
  match bind with
  | none => .ok ()
  | some _ => bound

def abortStartup (around : Around Entropy) (ingress : BoundedIngress) :
    List BackendCall × BoundedIngress :=
  (shutdownBackend, closeIngress around 0 ingress)

/-! ## Whole runs -/

/-- The health events of the boot, each at its instant. -/
def stamped (clock : ℕ → Instant) (events : List HealthEvent) : List (HealthEvent × Instant) :=
  events.zipIdx.map fun e => (e.1, clock e.2)

theorem map_fst_stamped (clock : ℕ → Instant) (events : List HealthEvent) :
    (stamped clock events).map Prod.fst = events := by
  unfold stamped
  rw [List.map_map]
  exact List.zipIdx_map_fst 0 events

variable (nm : Neuromod Network Entropy) (fl : ℚ → ℚ)
  (restore : DaemonConfig → Except String (Network × ModelProvenance))
  (answers : BackendAnswers) (around : Around Entropy) (self : BrainstemDaemon)

/-- The boot of a run: the network, if it came to that, and the machine. -/
def boot (restored : Option (Network × ModelProvenance)) :
    Except String (Network × ModelProvenance) × HealthMachine :=
  let r := bootNetwork nm restore answers.initialized self.config restored
  (r.2, self.health.run fl (stamped around.bootClock r.1))

def runForTicks (ticks : ℕ) : Returned RuntimeStats :=
  let init := BackendCall.initializeWith self.config.modelPath
  let (booted, health) := boot nm fl restore answers around self none
  match booted with
  | .error e =>
    { calls := init :: shutdownBackend
      result := .error e
      ingress := closeIngress around 0 self.ingress
      health := health }
  | .ok (network, provenance) =>
    let (calls, d) := driveTicks nm fl around
      (.enter self.config self.ingress health network (some provenance)) ticks
    let (finish, result) := finishBoundedRun answers
    { calls := init :: calls ++ finish
      result := match result with
        | .error e => .error e
        | .ok () => .ok d.stats
      ingress := closeIngress around ticks d.ingress
      health := d.health }

/-- `ticks` is the number of ticks before the stop signal, and `bound` what binding the control
surface gives. -/
def runLoop (bound : Except String Unit) (restored : Option (Network × ModelProvenance))
    (ticks : ℕ) : Returned Unit :=
  match startControl self.config.controlBind bound with
  | .error e =>
    let (calls, ingress) := abortStartup around self.ingress
    ⟨calls, .error e, ingress, self.health⟩
  | .ok () =>
    let init := BackendCall.initializeWith self.config.modelPath
    let (booted, health) := boot nm fl restore answers around self restored
    match booted with
    | .error e =>
      let (calls, ingress) := abortStartup around self.ingress
      ⟨init :: calls, .error e, ingress, health⟩
    | .ok (network, _) =>
      let (calls, d) := driveTicks nm fl around
        (.enter self.config self.ingress health network none) ticks
      { calls := init :: calls ++ shutdownBackend
        result := .ok ()
        ingress := closeIngress around ticks d.ingress
        health := d.health.apply fl .beginDrain around.drainClock }

/-! ## The branches of a run -/

variable {nm fl restore answers around self}

/-- The first state of the tick loop after a boot that went through. -/
def firstLoop (self : BrainstemDaemon) (health : HealthMachine) (pair : Network × ModelProvenance)
    (loadedCheckpoint : Option ModelProvenance) : TickLoop Network :=
  .enter self.config self.ingress health pair.1 loadedCheckpoint

theorem runForTicks_failed {e : String} (h : (boot nm fl restore answers around self none).1 = .error e)
    (ticks : ℕ) : runForTicks nm fl restore answers around self ticks =
      { calls := .initializeWith self.config.modelPath :: shutdownBackend
        result := .error e
        ingress := closeIngress around 0 self.ingress
        health := (boot nm fl restore answers around self none).2 } := by
  unfold runForTicks
  cases hb : boot nm fl restore answers around self none with
  | mk booted health =>
    rw [hb] at h
    cases h
    rfl

theorem runForTicks_booted {pair : Network × ModelProvenance}
    (h : (boot nm fl restore answers around self none).1 = .ok pair) (ticks : ℕ) :
    runForTicks nm fl restore answers around self ticks =
      let r := driveTicks nm fl around
        (firstLoop self (boot nm fl restore answers around self none).2 pair (some pair.2)) ticks
      { calls := .initializeWith self.config.modelPath :: r.1 ++ (finishBoundedRun answers).1
        result := match (finishBoundedRun answers).2 with
          | .error e => .error e
          | .ok () => .ok r.2.stats
        ingress := closeIngress around ticks r.2.ingress
        health := r.2.health } := by
  unfold runForTicks
  cases hb : boot nm fl restore answers around self none with
  | mk booted health =>
    rw [hb] at h
    cases h
    rfl

theorem runLoop_unbound {bound : Except String Unit} {e : String}
    (h : startControl self.config.controlBind bound = .error e)
    (restored : Option (Network × ModelProvenance)) (ticks : ℕ) :
    runLoop nm fl restore answers around self bound restored ticks =
      ⟨shutdownBackend, .error e, closeIngress around 0 self.ingress, self.health⟩ := by
  unfold runLoop
  rw [h]
  rfl

theorem runLoop_failed {bound : Except String Unit}
    (hbound : startControl self.config.controlBind bound = .ok ())
    {restored : Option (Network × ModelProvenance)} {e : String}
    (h : (boot nm fl restore answers around self restored).1 = .error e) (ticks : ℕ) :
    runLoop nm fl restore answers around self bound restored ticks =
      ⟨.initializeWith self.config.modelPath :: shutdownBackend, .error e,
        closeIngress around 0 self.ingress, (boot nm fl restore answers around self restored).2⟩ := by
  unfold runLoop
  rw [hbound]
  cases hb : boot nm fl restore answers around self restored with
  | mk booted health =>
    rw [hb] at h
    cases h
    rfl

theorem runLoop_booted {bound : Except String Unit}
    (hbound : startControl self.config.controlBind bound = .ok ())
    {restored : Option (Network × ModelProvenance)} {pair : Network × ModelProvenance}
    (h : (boot nm fl restore answers around self restored).1 = .ok pair) (ticks : ℕ) :
    runLoop nm fl restore answers around self bound restored ticks =
      let r := driveTicks nm fl around
        (firstLoop self (boot nm fl restore answers around self restored).2 pair none) ticks
      { calls := .initializeWith self.config.modelPath :: r.1 ++ shutdownBackend
        result := .ok ()
        ingress := closeIngress around ticks r.2.ingress
        health := r.2.health.apply fl .beginDrain around.drainClock } := by
  unfold runLoop
  rw [hbound]
  cases hb : boot nm fl restore answers around self restored with
  | mk booted health =>
    rw [hb] at h
    cases h
    rfl

end Brainstem.Daemon
