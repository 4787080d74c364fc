import Brainstem.Daemon.Config
import Brainstem.Health.Machine
import Brainstem.Lib.F32

/-!
# The network and the way to it

The spiking network is a crate of its own: `Neuromod` lists what the daemon reads and calls
of it.  `bootNetwork` lets a network into the tick loop only if its schema and its dimensions
are those of the configuration.
-/

namespace Brainstem.Daemon

open Brainstem.Health

structure NeuroModulators where
  dopamine : F32
  serotonin : F32
  acetylcholine : F32
  norepinephrine : F32
  deriving DecidableEq, Repr

def NeuroModulators.isFinite (m : NeuroModulators) : Bool :=
  m.dopamine.isFinite && m.serotonin.isFinite && m.acetylcholine.isFinite &&
    m.norepinephrine.isFinite

/-- What the daemon uses of the network crate.  `Entropy` is what one step draws from the
thread-local generator. -/
structure Neuromod (Network Entropy : Type) where
  neurons : Network → ℕ
  izNeurons : Network → ℕ
  numChannels : Network → ℕ
  defaultModulators : NeuroModulators
  step : Network → Entropy → List F32 → NeuroModulators → Except String (List ℕ) × Network

namespace Neuromod

variable {Network Entropy : Type}

/-- The documented behaviour of the crate that the tick loop relies on. -/
structure Lawful (nm : Neuromod Network Entropy) : Prop where
  default_finite : nm.defaultModulators.isFinite = true
  step_dimensions : ∀ n e x m,
    nm.neurons (nm.step n e x m).2 = nm.neurons n ∧
    nm.izNeurons (nm.step n e x m).2 = nm.izNeurons n ∧
    nm.numChannels (nm.step n e x m).2 = nm.numChannels n

/-- A step errs only on a wrong width or a non-finite input. -/
def ErrsOnInput (nm : Neuromod Network Entropy) : Prop :=
  ∀ n e x m msg, (nm.step n e x m).1 = .error msg →
    x.length ≠ nm.numChannels n ∨ (∃ v ∈ x, v.isFinite = false) ∨ m.isFinite = false

end Neuromod

/-! ## Boot -/

structure ModelProvenance where
  schemaId : String
  sourcePath : String
  contentSha256 : String
  modelId : String
  encoder : Option String
  source : Option String
  frozenLineage : Option String
  deriving DecidableEq, Repr

def SCHEMA_ID : String := "spikenaut-sidecar-json/v1"
def SIMULATION_SCHEMA_ID : String := "simulation/blank"

def checkpointIdentity (provenance : ModelProvenance) : CheckpointIdentity where
  id := provenance.modelId
  digest := if provenance.contentSha256 = "none" then none else some provenance.contentSha256

variable {Network Entropy : Type}

def validateRestoredSchema (cfg : DaemonConfig) (provenance : ModelProvenance) :
    Except String Unit :=
  match cfg.runtimeMode with
  | .live =>
    if provenance.schemaId ≠ SCHEMA_ID then
      .error
        s!"live mode requires a validated Spikenaut checkpoint (schema {SCHEMA_ID}), got {provenance.schemaId}"
    else .ok ()
  | .simulation =>
    if provenance.schemaId ≠ SIMULATION_SCHEMA_ID then
      .error
        s!"simulation mode requires schema {SIMULATION_SCHEMA_ID}, got {provenance.schemaId}"
    else .ok ()

def validateRestoredPair (nm : Neuromod Network Entropy) (cfg : DaemonConfig) (network : Network)
    (provenance : ModelProvenance) : Except String Unit := do
  validateRestoredSchema cfg provenance
  if nm.neurons network ≠ cfg.lifCount ∨ nm.izNeurons network ≠ cfg.izhCount ∨
      nm.numChannels network ≠ cfg.channels then
    .error
      s!"restored network dimensions ({nm.neurons network}/{nm.izNeurons network}/{nm.numChannels network}) do not match config lif_count/izh_count/channels ({cfg.lifCount}/{cfg.izhCount}/{cfg.channels})"
  else .ok ()

/-- The pair the caller restored, or the one `restore` reads or builds. -/
def restoredPair (restore : DaemonConfig → Except String (Network × ModelProvenance))
    (cfg : DaemonConfig) :
    Option (Network × ModelProvenance) → Except String (Network × ModelProvenance)
  | some pair => .ok pair
  | none =>
    match restore cfg with
    | .ok pair => .ok pair
    -- the context hides the cause in the text of the error
    | .error _ => .error "failed to restore runtime network before entering the tick loop"

def takeRestoredNetwork (nm : Neuromod Network Entropy)
    (restore : DaemonConfig → Except String (Network × ModelProvenance)) (cfg : DaemonConfig)
    (restored : Option (Network × ModelProvenance)) : Except String (Network × ModelProvenance) := do
  let (network, provenance) ← restoredPair restore cfg restored
  validateRestoredPair nm cfg network provenance
  return (network, provenance)

/-- The health events of the boot, in order, and the network if it came to that; `source` is
the answer of the stimulus source to its initialization. -/
def bootNetwork (nm : Neuromod Network Entropy)
    (restore : DaemonConfig → Except String (Network × ModelProvenance))
    (source : Except String Unit) (cfg : DaemonConfig)
    (restored : Option (Network × ModelProvenance)) :
    List HealthEvent × Except String (Network × ModelProvenance) :=
  match source with
  | .error e =>
    ([.initializationFailed e], .error "failed to initialize stimulus source")
  | .ok () =>
    match takeRestoredNetwork nm restore cfg restored with
    | .error e => ([.initializationCompleted, .checkpointRejected e], .error e)
    | .ok pair =>
      ([.initializationCompleted, .checkpointValidated (checkpointIdentity pair.2)], .ok pair)

/-! ## What the boot lets through -/

theorem validateRestoredPair_eq_ok {nm : Neuromod Network Entropy} {cfg : DaemonConfig}
    {network : Network} {provenance : ModelProvenance} :
    validateRestoredPair nm cfg network provenance = .ok () ↔
      validateRestoredSchema cfg provenance = .ok () ∧ nm.neurons network = cfg.lifCount ∧
        nm.izNeurons network = cfg.izhCount ∧ nm.numChannels network = cfg.channels := by
  unfold validateRestoredPair
  rw [Except.seq_eq_ok]
  apply and_congr_right
  intro _
  split
  · next hdim =>
    refine ⟨by rintro ⟨⟩, ?_⟩
    rintro ⟨hlif, hizh, hchannels⟩
    rcases hdim with h | h | h
    · exact absurd hlif h
    · exact absurd hizh h
    · exact absurd hchannels h
  · next hdim =>
    simp only [not_or, ne_eq, not_not] at hdim
    exact ⟨fun _ => hdim, fun _ => rfl⟩

/-- What enters the tick loop has the dimensions of the configuration. -/
theorem dimensions_of_validateRestoredPair {nm : Neuromod Network Entropy} {cfg : DaemonConfig}
    {network : Network} {provenance : ModelProvenance}
    (h : validateRestoredPair nm cfg network provenance = .ok ()) :
    nm.neurons network = cfg.lifCount ∧ nm.izNeurons network = cfg.izhCount ∧
      nm.numChannels network = cfg.channels :=
  (validateRestoredPair_eq_ok.1 h).2

section Boot

variable {nm : Neuromod Network Entropy}
  {restore : DaemonConfig → Except String (Network × ModelProvenance)}
  {source : Except String Unit} {cfg : DaemonConfig} {restored : Option (Network × ModelProvenance)}
  {pair : Network × ModelProvenance}

theorem takeRestoredNetwork_eq_ok :
    takeRestoredNetwork nm restore cfg restored = .ok pair ↔
      restoredPair restore cfg restored = .ok pair ∧
        validateRestoredPair nm cfg pair.1 pair.2 = .ok () := by
  unfold takeRestoredNetwork
  rw [Except.bind_eq_ok]
  constructor
  · rintro ⟨found, hfound, h⟩
    rw [Except.seq_eq_ok] at h
    obtain ⟨hvalid, hpair⟩ := h
    cases hpair
    exact ⟨hfound, hvalid⟩
  · rintro ⟨hfound, hvalid⟩
    refine ⟨pair, hfound, ?_⟩
    rw [Except.seq_eq_ok]
    exact ⟨hvalid, rfl⟩

theorem bootNetwork_eq_ok :
    (bootNetwork nm restore source cfg restored).2 = .ok pair ↔
      source = .ok () ∧ takeRestoredNetwork nm restore cfg restored = .ok pair := by
  unfold bootNetwork
  cases source with
  | error e => simp
  | ok u => cases takeRestoredNetwork nm restore cfg restored <;> simp

theorem bootNetwork_ok (h : (bootNetwork nm restore source cfg restored).2 = .ok pair) :
    validateRestoredPair nm cfg pair.1 pair.2 = .ok () ∧
      (bootNetwork nm restore source cfg restored).1 =
        [.initializationCompleted, .checkpointValidated (checkpointIdentity pair.2)] := by
  obtain ⟨rfl, htake⟩ := bootNetwork_eq_ok.1 h
  refine ⟨(takeRestoredNetwork_eq_ok.1 htake).2, ?_⟩
  unfold bootNetwork
  simp only [htake]

end Boot

end Brainstem.Daemon
