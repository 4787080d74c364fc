import Brainstem.Daemon.Tick

/-!
# The way into the tick loop

A daemon is built from a configuration that passes `validate`, boots, and enters the loop
with the network that the boot let through.  `Enters nm net fl cfg d` says that `d` is such a
first state; what the later results need of it is read off here once.
-/

namespace Brainstem.Daemon

open Brainstem.Health
open Brainstem.Ingress hiding Instant

variable {Network Entropy : Type}

/-- `try_with_backend`, as far as the tick loop is concerned. -/
def tryWithBackend (net : NetParsers) (fl : ℚ → ℚ) (cfg : DaemonConfig) (now : Instant) :
    Except String (BoundedIngress × HealthMachine) := do
  cfg.validate net
  let ingress ← BoundedIngress.new cfg.ingress
  return (ingress, (HealthMachine.new fl (.default fl)).apply fl .processStarted now)

def TickLoop.enter (cfg : DaemonConfig) (ingress : BoundedIngress) (health : HealthMachine)
    (network : Network) (loadedCheckpoint : Option ModelProvenance) : TickLoop Network where
  network := network
  stimuli := List.replicate cfg.channels 0
  spikeBuf := []
  ingress := ingress
  health := health
  stats := { RuntimeStats.default with loadedCheckpoint := loadedCheckpoint }
  diagnostics := .default

/-- `d` is the state in which a daemon built from `cfg` enters the tick loop; `events` are the
health events of the boot with their instants. -/
inductive Enters (nm : Neuromod Network Entropy) (net : NetParsers) (fl : ℚ → ℚ)
    (cfg : DaemonConfig) : TickLoop Network → Prop where
  | mk {ingress : BoundedIngress} {health : HealthMachine} {events : List (HealthEvent × Instant)}
      {pair : Network × ModelProvenance} (now : Instant)
      (restore : DaemonConfig → Except String (Network × ModelProvenance))
      (source : Except String Unit) (restored : Option (Network × ModelProvenance))
      (loadedCheckpoint : Option ModelProvenance)
      (hbuild : tryWithBackend net fl cfg now = .ok (ingress, health))
      (hboot : bootNetwork nm restore source cfg restored = (events.map Prod.fst, .ok pair)) :
      Enters nm net fl cfg (.enter cfg ingress (health.run fl events) pair.1 loadedCheckpoint)

namespace Enters

variable {nm : Neuromod Network Entropy} {net : NetParsers} {fl : ℚ → ℚ} {cfg : DaemonConfig}
  {d : TickLoop Network}

theorem tryWithBackend_ok {now : Instant} {ingress : BoundedIngress} {health : HealthMachine}
    (h : tryWithBackend net fl cfg now = .ok (ingress, health)) :
    cfg.validate net = .ok () ∧ BoundedIngress.new cfg.ingress = .ok ingress ∧
      health = (HealthMachine.new fl (.default fl)).apply fl .processStarted now := by
  unfold tryWithBackend at h
  rw [Except.seq_eq_ok, Except.bind_eq_ok] at h
  obtain ⟨hv, i, hi, hp⟩ := h
  cases hp
  exact ⟨hv, hi, rfl⟩

theorem ingress_new (h : Enters nm net fl cfg d) : BoundedIngress.new cfg.ingress = .ok d.ingress := by
  obtain ⟨_, _, _, _, _, hbuild, _⟩ := h
  exact (tryWithBackend_ok hbuild).2.1

theorem channels (h : Enters nm net fl cfg d) :
    d.stimuli.length = cfg.channels ∧ nm.numChannels d.network = cfg.channels := by
  obtain ⟨_, _, _, _, _, _, hboot⟩ := h
  have hok := (bootNetwork_ok (congrArg Prod.snd hboot)).1
  exact ⟨List.length_replicate, (dimensions_of_validateRestoredPair hok).2.2⟩

/-- The machine after the boot: up, with a checkpoint, and nothing observed yet. -/
theorem health (h : Enters nm net fl cfg d) : ∃ started at' : Instant, ∃ identity,
    d.health = { HealthMachine.new fl (.default fl) with
      started := true
      startedAt := some started
      initialized := true
      checkpointOk := true
      checkpointAt := some at'
      checkpoint := some identity } := by
  cases h with
  | @mk _ _ events pair now _ _ _ _ hbuild hboot =>
    obtain ⟨-, -, rfl⟩ := tryWithBackend_ok hbuild
    have hevents := (bootNetwork_ok (congrArg Prod.snd hboot)).2
    rw [hboot] at hevents
    -- the two events of a boot that went through, each at its instant
    match events, hevents with
    | [(_, t₁), (_, t₂)], hevents =>
      simp only [List.map_cons, List.map_nil, List.cons.injEq, and_true] at hevents
      obtain ⟨rfl, rfl⟩ := hevents
      exact ⟨now, t₂, checkpointIdentity pair.2, rfl⟩

end Enters

/-! ## A daemon with a network that never fires -/

/-- A network is its three dimensions; a step checks its input and gives no spikes. -/
def Neuromod.quiet : Neuromod (ℕ × ℕ × ℕ) Unit where
  neurons := fun n => n.1
  izNeurons := fun n => n.2.1
  numChannels := fun n => n.2.2
  defaultModulators := ⟨.half, .half, .half, .half⟩
  step := fun n _ x m =>
    if x.length = n.2.2 ∧ x.all F32.isFinite ∧ m.isFinite then (.ok [], n)
    else (.error "invalid input", n)

theorem Neuromod.quiet_lawful : Neuromod.quiet.Lawful where
  default_finite := by decide
  step_dimensions := by
    intro n e x m
    unfold quiet
    simp only
    split <;> exact ⟨rfl, rfl, rfl⟩

theorem Neuromod.quiet_errsOnInput : Neuromod.quiet.ErrsOnInput := by
  intro n e x m msg h
  unfold quiet at h ⊢
  simp only at h ⊢
  by_contra hcon
  simp only [not_or, not_exists, not_and, Bool.not_eq_false, ne_eq, not_not] at hcon
  rw [if_pos ⟨hcon.1, List.all_eq_true.2 hcon.2.1, hcon.2.2⟩] at h
  cases h

/-- Any text is an address. -/
def NetParsers.any : NetParsers := ⟨fun _ => true, fun _ => true, fun _ => true⟩

/-- Two neurons, two channels, the tiny queues. -/
def DaemonConfig.quiet : DaemonConfig where
  tickRateHz := 1000
  logLevel := "info"
  spinePubBindHost := "*"
  spinePubSndhwm := 1000
  spinePubLingerMs := 0
  modelPath := "model"
  lifCount := 2
  izhCount := 0
  channels := 2
  runtimeMode := .simulation
  ingress := .tinyFixture
  controlBind := none

theorem DaemonConfig.quiet_ingress : DaemonConfig.quiet.ingress.validate = .ok () :=
  IngressConfig.validate_tinyFixture

/-- A tick in which the source fails, with nobody else on the ingress. -/
def TickInput.failing : TickInput Unit :=
  ⟨.error "ZMQ recv failed", (), .ok (), fun _ => 0, 0, fun _ => []⟩

/-- A tick in which the source has nothing. -/
def TickInput.idle : TickInput Unit := { TickInput.failing with received := .ok none }

/-- It entered the loop at instant zero. -/
def TickLoop.quiet (fl : ℚ → ℚ) : TickLoop (ℕ × ℕ × ℕ) :=
  .enter .quiet ⟨.tinyFixture, DaemonConfig.quiet_ingress, fun _ => .new, false⟩
    (((HealthMachine.new fl (.default fl)).apply fl .processStarted 0).run fl
      [(.initializationCompleted, 0), (.checkpointValidated ⟨"simulation/blank", none⟩, 0)])
    (2, 0, 2) none

theorem TickLoop.enters_quiet (fl : ℚ → ℚ) : Enters .quiet .any fl .quiet (TickLoop.quiet fl) := by
  have hbuild : tryWithBackend .any fl .quiet 0 =
      .ok (⟨.tinyFixture, DaemonConfig.quiet_ingress, fun _ => .new, false⟩,
        (HealthMachine.new fl (.default fl)).apply fl .processStarted 0) := rfl
  let pair : (ℕ × ℕ × ℕ) × ModelProvenance :=
    ((2, 0, 2), ⟨SIMULATION_SCHEMA_ID, "<simulation>", "none", "simulation/blank", none, none, none⟩)
  have hboot : bootNetwork .quiet (fun _ => .ok pair) (.ok ()) .quiet none =
      ([(HealthEvent.initializationCompleted, (0 : Instant)),
        (.checkpointValidated ⟨"simulation/blank", none⟩, 0)].map Prod.fst, .ok pair) := rfl
  exact .mk 0 _ _ _ none hbuild hboot

end Brainstem.Daemon
