import Brainstem.Checkpoint.Document

/-!
# Restoring the network

The cells of the network get the numbers of the sidecar, each rounded to single precision.
Whatever the files hold, a network that live loading gives is trained: a weight above the
blank threshold, and every weight finite.

    loadLiveCheckpoint … config = .ok pair → Trained cells pair.1      (trained_of_loadLiveCheckpoint)
-/

namespace Brainstem.Checkpoint

open Brainstem.Daemon

/-! ## The network crate -/

/-- The fields of a cell that the loader writes. -/
structure LifNeuron where
  weights : List F32
  membranePotential : F32
  threshold : F32
  baseThreshold : F32
  decayRate : F32
  lastSpike : Bool
  deriving DecidableEq, Repr

/-- What the loader uses of the network crate: the constructor, the public cells, and the
learning rate of the plasticity configuration. -/
structure NeuromodCells (Network : Type) where
  withDimensions : ℕ → ℕ → ℕ → Network
  lif : Network → List LifNeuron
  setLif : Network → List LifNeuron → Network
  rewardLr : Network → F32
  setRewardLr : Network → F32 → Network

variable {Network Entropy : Type}

/-- The constructor takes the dimensions, and a field that is written reads back. -/
structure NeuromodCells.Lawful (cells : NeuromodCells Network) (nm : Neuromod Network Entropy) :
    Prop where
  dimensions_withDimensions : ∀ lif izh channels,
    nm.neurons (cells.withDimensions lif izh channels) = lif ∧
    nm.izNeurons (cells.withDimensions lif izh channels) = izh ∧
    nm.numChannels (cells.withDimensions lif izh channels) = channels
  length_lif : ∀ n, (cells.lif n).length = nm.neurons n
  lif_setLif : ∀ n ns, ns.length = nm.neurons n → cells.lif (cells.setLif n ns) = ns
  dimensions_setLif : ∀ n ns, ns.length = nm.neurons n →
    nm.neurons (cells.setLif n ns) = nm.neurons n ∧
    nm.izNeurons (cells.setLif n ns) = nm.izNeurons n ∧
    nm.numChannels (cells.setLif n ns) = nm.numChannels n
  lif_setRewardLr : ∀ n lr, cells.lif (cells.setRewardLr n lr) = cells.lif n
  rewardLr_setRewardLr : ∀ n lr, cells.rewardLr (cells.setRewardLr n lr) = lr
  dimensions_setRewardLr : ∀ n lr,
    nm.neurons (cells.setRewardLr n lr) = nm.neurons n ∧
    nm.izNeurons (cells.setRewardLr n lr) = nm.izNeurons n ∧
    nm.numChannels (cells.setRewardLr n lr) = nm.numChannels n

/-! ## Loading -/

def restoreCell (dst : LifNeuron) (src : SidecarNeuron) : LifNeuron :=
  { dst with
    weights := src.weights.map F64.toF32
    membranePotential := src.membranePotential.toF32
    threshold := src.threshold.toF32
    baseThreshold := src.threshold.toF32
    decayRate := src.decayRate.toF32
    lastSpike := src.lastSpike }

/-- What is restored from a neuron. -/
def SidecarNeuron.restored (neuron : SidecarNeuron) : LifNeuron where
  weights := neuron.weights.map F64.toF32
  membranePotential := neuron.membranePotential.toF32
  threshold := neuron.threshold.toF32
  baseThreshold := neuron.threshold.toF32
  decayRate := neuron.decayRate.toF32
  lastSpike := neuron.lastSpike

/-- A cell has no field that is not written. -/
theorem zipWith_restoreCell {blank : List LifNeuron} {neurons : List SidecarNeuron}
    (h : blank.length = neurons.length) :
    blank.zipWith restoreCell neurons = neurons.map SidecarNeuron.restored := by
  induction blank generalizing neurons with
  | nil =>
    rw [List.length_eq_zero_iff.1 h.symm]
    rfl
  | cons cell blank ih =>
    cases neurons with
    | nil => cases h
    | cons neuron neurons => exact congrArg _ (ih (Nat.succ.inj h))

section Loader

variable (nm : Neuromod Network Entropy) (cells : NeuromodCells Network)

def applySidecar (network : Network) (document : SidecarDocument) : Except Failure Network :=
  if nm.neurons network ≠ document.neurons.length then
    bail
      s!"internal restore mismatch: network has {nm.neurons network} LIF cells, sidecar has {document.neurons.length}"
  else
    let network :=
      cells.setLif network ((cells.lif network).zipWith restoreCell document.neurons)
    .ok (cells.setRewardLr network 0)

def restoreSpikingNetwork (config : DaemonConfig) (document : SidecarDocument) :
    Except Failure Network :=
  applySidecar nm cells (cells.withDimensions config.lifCount config.izhCount config.channels)
    document

def blankSimulationNetwork (config : DaemonConfig) : Network × ModelProvenance :=
  (cells.withDimensions config.lifCount config.izhCount config.channels,
    { schemaId := SIMULATION_SCHEMA_ID
      sourcePath := "<simulation>"
      contentSha256 := "none"
      modelId := "simulation/blank"
      encoder := none
      source := none
      frozenLineage := none })

variable (libs : Libraries) (tree : FileTree)

def loadLiveCheckpoint (config : DaemonConfig) : Except Failure (Network × ModelProvenance) := do
  let sidecarPath ← resolveSidecarPath tree (.parse config.modelPath)
  let (bytes, document) ← parseSidecarFile libs tree sidecarPath
  validateLiveDocument libs tree config document sidecarPath
  let network ← restoreSpikingNetwork nm cells config document
  return (network, provenanceOf libs document sidecarPath bytes)

def restoreNetwork (net : NetParsers) (config : DaemonConfig) :
    Except Failure (Network × ModelProvenance) := do
  (config.validate net).mapError .bail
  match config.runtimeMode with
  | .simulation => .ok (blankSimulationNetwork cells config)
  | .live => loadLiveCheckpoint nm cells libs tree config

/-- Live loading, once the sidecar is found. -/
def loadFrom (config : DaemonConfig) (sidecarPath : FilePath) :
    Except Failure (Network × ModelProvenance) := do
  let (bytes, document) ← parseSidecarFile libs tree sidecarPath
  validateLiveDocument libs tree config document sidecarPath
  let network ← restoreSpikingNetwork nm cells config document
  return (network, provenanceOf libs document sidecarPath bytes)

theorem loadLiveCheckpoint_eq (config : DaemonConfig) :
    loadLiveCheckpoint nm cells libs tree config =
      resolveSidecarPath tree (.parse config.modelPath) >>= loadFrom nm cells libs tree config := rfl

end Loader

/-! ## What the boot makes of it -/

section Boot

variable {nm : Neuromod Network Entropy} {cells : NeuromodCells Network} {libs : Libraries}
  {tree : FileTree}

theorem loadFrom_eq_ok {config : DaemonConfig} {sidecarPath : FilePath}
    {pair : Network × ModelProvenance} :
    loadFrom nm cells libs tree config sidecarPath = .ok pair ↔
      ∃ bytes document network,
        parseSidecarFile libs tree sidecarPath = .ok (bytes, document) ∧
        validateLiveDocument libs tree config document sidecarPath = .ok () ∧
        restoreSpikingNetwork nm cells config document = .ok network ∧
        pair = (network, provenanceOf libs document sidecarPath bytes) := by
  unfold loadFrom
  rw [Except.bind_eq_ok]
  constructor
  · rintro ⟨⟨bytes, document⟩, hparse, h⟩
    rw [Except.seq_eq_ok, Except.bind_eq_ok] at h
    obtain ⟨hvalid, network, hnetwork, hpair⟩ := h
    cases hpair
    exact ⟨bytes, document, network, hparse, hvalid, hnetwork, rfl⟩
  · rintro ⟨bytes, document, network, hparse, hvalid, hnetwork, rfl⟩
    refine ⟨(bytes, document), hparse, ?_⟩
    rw [Except.seq_eq_ok, Except.bind_eq_ok]
    exact ⟨hvalid, network, hnetwork, rfl⟩

/-- The stages of live loading, all of which have to go through. -/
theorem loadLiveCheckpoint_eq_ok {config : DaemonConfig} {pair : Network × ModelProvenance} :
    loadLiveCheckpoint nm cells libs tree config = .ok pair ↔
      ∃ sidecarPath bytes document network,
        resolveSidecarPath tree (.parse config.modelPath) = .ok sidecarPath ∧
        parseSidecarFile libs tree sidecarPath = .ok (bytes, document) ∧
        validateLiveDocument libs tree config document sidecarPath = .ok () ∧
        restoreSpikingNetwork nm cells config document = .ok network ∧
        pair = (network, provenanceOf libs document sidecarPath bytes) := by
  rw [loadLiveCheckpoint_eq, Except.bind_eq_ok]
  constructor
  · rintro ⟨sidecarPath, hpath, h⟩
    obtain ⟨bytes, document, network, hfrom⟩ := loadFrom_eq_ok.1 h
    exact ⟨sidecarPath, bytes, document, network, hpath, hfrom⟩
  · rintro ⟨sidecarPath, bytes, document, network, hpath, hfrom⟩
    exact ⟨sidecarPath, hpath, loadFrom_eq_ok.2 ⟨bytes, document, network, hfrom⟩⟩

/-- A network with the cells of the document, and otherwise as it was. -/
structure Restored (nm : Neuromod Network Entropy) (cells : NeuromodCells Network)
    (network : Network) (document : SidecarDocument) (restored : Network) : Prop where
  neurons : nm.neurons restored = nm.neurons network
  izNeurons : nm.izNeurons restored = nm.izNeurons network
  numChannels : nm.numChannels restored = nm.numChannels network
  lif : cells.lif restored = document.neurons.map SidecarNeuron.restored
  rewardLr : cells.rewardLr restored = 0

theorem applySidecar_spec (hcells : cells.Lawful nm) {network : Network}
    {document : SidecarDocument} (hlength : nm.neurons network = document.neurons.length) :
    ∃ restored, applySidecar nm cells network document = .ok restored ∧
      Restored nm cells network document restored := by
  have hcount : (cells.lif network).length = document.neurons.length :=
    (hcells.length_lif network).trans hlength
  have hwritten : (document.neurons.map SidecarNeuron.restored).length = nm.neurons network := by
    rw [List.length_map, hlength]
  refine ⟨_, if_neg (not_not.2 hlength), ?_⟩
  rw [zipWith_restoreCell hcount]
  obtain ⟨hlif, hizh, hchannels⟩ := hcells.dimensions_setLif network _ hwritten
  obtain ⟨hlif', hizh', hchannels'⟩ := hcells.dimensions_setRewardLr
    (cells.setLif network (document.neurons.map SidecarNeuron.restored)) 0
  refine ⟨hlif'.trans hlif, hizh'.trans hizh, hchannels'.trans hchannels, ?_,
    hcells.rewardLr_setRewardLr _ _⟩
  rw [hcells.lif_setRewardLr, hcells.lif_setLif _ _ hwritten]

/-- It is the count of the neurons alone that can keep a document out. -/
theorem restored_of_applySidecar (hcells : cells.Lawful nm) {network restored : Network}
    {document : SidecarDocument} (h : applySidecar nm cells network document = .ok restored) :
    Restored nm cells network document restored := by
  have hlength : nm.neurons network = document.neurons.length := by
    by_contra hne
    unfold applySidecar at h
    rw [if_pos hne] at h
    cases h
  obtain ⟨restored', hrestored, hspec⟩ := applySidecar_spec hcells hlength
  rw [h] at hrestored
  cases hrestored
  exact hspec

theorem dimensions_of_restoreSpikingNetwork (hcells : cells.Lawful nm) {config : DaemonConfig}
    {document : SidecarDocument} {network : Network}
    (h : restoreSpikingNetwork nm cells config document = .ok network) :
    nm.neurons network = config.lifCount ∧ nm.izNeurons network = config.izhCount ∧
      nm.numChannels network = config.channels := by
  obtain ⟨hlif, hizh, hchannels⟩ :=
    hcells.dimensions_withDimensions config.lifCount config.izhCount config.channels
  have hspec := restored_of_applySidecar hcells h
  exact ⟨hspec.neurons.trans hlif, hspec.izNeurons.trans hizh, hspec.numChannels.trans hchannels⟩

/-- In either mode the boot accepts what was restored for its configuration. -/
theorem validateRestoredPair_of_restoreNetwork (hcells : cells.Lawful nm) {net : NetParsers}
    {config : DaemonConfig} {pair : Network × ModelProvenance}
    (h : restoreNetwork nm cells libs tree net config = .ok pair) :
    validateRestoredPair nm config pair.1 pair.2 = .ok () := by
  unfold restoreNetwork at h
  rw [Except.seq_eq_ok] at h
  obtain ⟨-, h⟩ := h
  rw [validateRestoredPair_eq_ok]
  unfold validateRestoredSchema
  split at h
  · next hmode =>
    cases h
    rw [hmode]
    exact ⟨rfl, hcells.dimensions_withDimensions _ _ _⟩
  · next hmode =>
    obtain ⟨_, _, document, network, -, -, -, hnetwork, rfl⟩ := loadLiveCheckpoint_eq_ok.1 h
    rw [hmode]
    exact ⟨rfl, dimensions_of_restoreSpikingNetwork hcells hnetwork⟩

end Boot

/-! ## Trained networks -/

/-- A LIF weight above the blank threshold, and every LIF weight finite. -/
structure Trained (cells : NeuromodCells Network) (network : Network) : Prop where
  nonblank : ∃ cell ∈ cells.lif network, ∃ weight ∈ cell.weights,
    BLANK_WEIGHT_ABS_MAX.lt weight.abs = true
  finite : ∀ cell ∈ cells.lif network, ∀ weight ∈ cell.weights, weight.isFinite = true

variable {nm : Neuromod Network Entropy} {cells : NeuromodCells Network} {libs : Libraries}
  {tree : FileTree}

theorem validateLiveDocument_eq_ok {config : DaemonConfig} {document : SidecarDocument}
    {sidecarPath : FilePath} : validateLiveDocument libs tree config document sidecarPath = .ok () ↔
      validateSchema document = .ok () ∧ rejectOutputWeights document = .ok () ∧
      validateFoundHubConfig libs tree sidecarPath document = .ok () ∧
      ∃ channels, weightWidth document = .ok channels ∧
        validateIngressContract config document.neurons.length channels = .ok () ∧
        validateFiniteParameters libs document = .ok () ∧
        validateNonblankWeights libs document = .ok () := by
  unfold validateLiveDocument
  rw [Except.seq_eq_ok, Except.seq_eq_ok, Except.seq_eq_ok, Except.bind_eq_ok]
  simp only [Except.seq_eq_ok]

theorem trained_of_restoreSpikingNetwork (hcells : cells.Lawful nm) {config : DaemonConfig}
    {document : SidecarDocument} {network : Network}
    (hfinite : validateFiniteParameters libs document = .ok ())
    (hnonblank : validateNonblankWeights libs document = .ok ())
    (h : restoreSpikingNetwork nm cells config document = .ok network) : Trained cells network := by
  have hlif := (restored_of_applySidecar hcells h).lif
  rw [validateFiniteParameters_eq_ok] at hfinite
  rw [validateNonblankWeights_eq_ok hfinite] at hnonblank
  constructor
  · obtain ⟨neuron, hneuron, weight, hweight, habove⟩ := hnonblank
    refine ⟨neuron.restored, ?_, weight.toF32, List.mem_map_of_mem hweight, ?_⟩
    · rw [hlif]
      exact List.mem_map_of_mem hneuron
    · rw [← F64.toF32_abs]
      exact habove
  · intro cell hcell weight hweight
    rw [hlif] at hcell
    obtain ⟨neuron, hneuron, rfl⟩ := List.mem_map.1 hcell
    obtain ⟨value, hvalue, rfl⟩ := List.mem_map.1 hweight
    exact ((hfinite neuron hneuron).weights value hvalue).2

/-- The disk cannot give a blank network, whatever is on it. -/
theorem trained_of_loadLiveCheckpoint (hcells : cells.Lawful nm) {config : DaemonConfig}
    {pair : Network × ModelProvenance} (h : loadLiveCheckpoint nm cells libs tree config = .ok pair) :
    Trained cells pair.1 := by
  obtain ⟨_, _, document, network, -, -, hvalid, hnetwork, rfl⟩ := loadLiveCheckpoint_eq_ok.1 h
  obtain ⟨-, -, -, channels, -, -, hfinite, hnonblank⟩ := validateLiveDocument_eq_ok.1 hvalid
  exact trained_of_restoreSpikingNetwork hcells hfinite hnonblank hnetwork

theorem trained_of_restoreNetwork (hcells : cells.Lawful nm) {net : NetParsers}
    {config : DaemonConfig} (hlive : config.runtimeMode = .live) {pair : Network × ModelProvenance}
    (h : restoreNetwork nm cells libs tree net config = .ok pair) : Trained cells pair.1 := by
  unfold restoreNetwork at h
  rw [Except.seq_eq_ok, hlive] at h
  exact trained_of_loadLiveCheckpoint hcells h.2

/-! ## A blank network and a trained one -/

/-- A network with nothing but what is read of it; no cell ever fires. -/
structure CellNetwork where
  cells : List LifNeuron
  izh : ℕ
  channels : ℕ
  rewardLr : F32
  deriving DecidableEq, Repr

namespace CellNetwork

def neuromod : Neuromod CellNetwork Unit where
  neurons := fun n => n.cells.length
  izNeurons := fun n => n.izh
  numChannels := fun n => n.channels
  defaultModulators := ⟨.half, .half, .half, .half⟩
  step := fun n _ x m =>
    if x.length = n.channels ∧ x.all F32.isFinite ∧ m.isFinite then (.ok [], n)
    else (.error "invalid input", n)

/-- A new cell has no weight but zero. -/
def neuromodCells : NeuromodCells CellNetwork where
  withDimensions := fun lif izh channels =>
    ⟨List.replicate lif ⟨List.replicate channels 0, 0, .half, .half, .half, false⟩, izh, channels,
      .one⟩
  lif := fun n => n.cells
  setLif := fun n cells => { n with cells := cells }
  rewardLr := fun n => n.rewardLr
  setRewardLr := fun n lr => { n with rewardLr := lr }

theorem neuromodCells_lawful : neuromodCells.Lawful neuromod where
  dimensions_withDimensions := fun _ _ _ => ⟨List.length_replicate, rfl, rfl⟩
  length_lif := fun _ => rfl
  lif_setLif := fun _ _ _ => rfl
  dimensions_setLif := fun _ _ h => ⟨h, rfl, rfl⟩
  lif_setRewardLr := fun _ _ => rfl
  rewardLr_setRewardLr := fun _ _ => rfl
  dimensions_setRewardLr := fun _ _ => ⟨rfl, rfl, rfl⟩

def blank : CellNetwork := neuromodCells.withDimensions 2 0 2

/-- The blank one with one weight of a half. -/
def trained : CellNetwork :=
  { blank with cells := blank.cells.map fun cell => { cell with weights := [.half, 0] } }

theorem blank_not_trained : ¬Trained neuromodCells blank := by
  intro h
  obtain ⟨cell, hcell, weight, hweight, habove⟩ := h.nonblank
  have hblank : cell = ⟨[0, 0], 0, .half, .half, .half, false⟩ := List.eq_of_mem_replicate hcell
  rw [hblank] at hweight
  have hzero : weight = 0 := by simpa using hweight
  rw [hzero] at habove
  exact absurd habove (by decide)

theorem trained_trained : Trained neuromodCells trained where
  nonblank := ⟨⟨[.half, 0], 0, .half, .half, .half, false⟩, List.mem_cons_self, .half,
    List.mem_cons_self, by decide⟩
  finite := by decide

end CellNetwork

/-- Nothing is on the disk. -/
def FileTree.empty : FileTree where
  metadata := fun _ => .ok none
  read := fun _ => .error "No such file or directory"
  metadata_respelled := fun _ => rfl
  read_respelled := fun _ => rfl
  trails_of_regular := nofun

/-- JSON that never parses. -/
def Libraries.unused : Libraries :=
  ⟨fun _ => .error "expected value", fun _ => .error "expected value", fun _ => [], fun _ => "",
    fun _ => ""⟩

end Brainstem.Checkpoint
