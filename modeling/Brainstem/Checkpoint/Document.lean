import Brainstem.Checkpoint.Files
import Brainstem.Daemon.Network
import Brainstem.Lib.Cast
import Brainstem.Lib.DebugText

/-!
# The sidecar and the network restored from it

In live mode the network is what a sidecar document holds, and a document is read only after
all its checks; simulation mode is the one way to a blank network.  What other crates do is a
parameter (`Libraries`, `NeuromodCells`).
-/

namespace Brainstem.Checkpoint

open Brainstem.Daemon

def HUB_MODEL_TYPE : String := "spikenaut-snn"
def ALLOWED_SOURCES : List String := ["spikenaut_julia"]
def ALLOWED_Q88 : List String := ["signed"]

/-- `1.0e-6`. -/
def BLANK_WEIGHT_ABS_MAX : F32 := ⟨0x358637BD⟩

/-! ## Documents -/

/-- Whether the key stands in the document, be it with `null`. -/
inductive OutputWeightsField where
  | absent
  | present
  deriving DecidableEq, Repr

structure SidecarNeuron where
  decayRate : F64
  membranePotential : F64
  threshold : F64
  lastSpike : Bool
  weights : List F64
  outputWeights : OutputWeightsField
  deriving DecidableEq, Repr

structure SidecarDocument where
  source : Option String
  encoder : Option String
  q88 : Option String
  frozenLineage : Option String
  neurons : List SidecarNeuron
  deriving DecidableEq, Repr

structure HubConfig where
  modelType : Option String
  nNeurons : Option ℕ
  nChannels : Option ℕ
  deriving DecidableEq, Repr

/-- The JSON readers, the digest, and how a float is shown. -/
structure Libraries where
  parseSidecar : String → Except String SidecarDocument
  parseHub : String → Except String HubConfig
  sha256 : List UInt8 → List UInt8
  showF64 : F64 → String
  showF32 : F32 → String

/-! ## Checks of the document -/

def requireAllowedSource : Option String → Except Failure Unit
  | some source =>
    if source ∈ ALLOWED_SOURCES then .ok ()
    else
      bail
        s!"incompatible Spikenaut sidecar source {DebugText.quote source}; expected one of {DebugText.quoteAll ALLOWED_SOURCES}"
  | none =>
    bail
      s!"incompatible Spikenaut sidecar: missing `source`; expected one of {DebugText.quoteAll ALLOWED_SOURCES}"

def requireAllowedQ88 : Option String → Except Failure Unit
  | some q88 =>
    if q88 ∈ ALLOWED_Q88 then .ok ()
    else
      bail
        s!"incompatible Spikenaut sidecar q88 {DebugText.quote q88}; expected one of {DebugText.quoteAll ALLOWED_Q88}"
  | none => .ok ()

def validateSchema (document : SidecarDocument) : Except Failure Unit :=
  if document.neurons = [] then bail "invalid Spikenaut sidecar: `neurons` is empty"
  else do
    requireAllowedSource document.source
    requireAllowedQ88 document.q88
    if document.encoder = some "" then bail "invalid Spikenaut sidecar: `encoder` is empty"
    else .ok ()

def rejectOutputWeights (document : SidecarDocument) : Except Failure Unit :=
  .forEnumerate document.neurons fun index neuron =>
    if neuron.outputWeights = .present then
      bail
        s!"invalid Spikenaut sidecar: neuron {index} carries `output_weights`, which this daemon cannot restore (neuromod 0.7.0 has no readout matrix); refusing to load rather than silently dropping trained readout weights"
    else .ok ()

/-- The first row is read without a look at how many there are. -/
def weightWidth (document : SidecarDocument) : Except Failure ℕ :=
  match document.neurons with
  | [] => .error (.panicked "index out of bounds: the len is 0 but the index is 0")
  | first :: _ =>
    let expected := first.weights.length
    if expected = 0 then bail "invalid Spikenaut sidecar: neuron 0 has an empty weight row"
    else do
      .forEnumerate document.neurons fun index neuron =>
        if neuron.weights.length ≠ expected then
          bail
            s!"invalid Spikenaut sidecar: neuron {index} has {neuron.weights.length} weights, expected {expected}"
        else .ok ()
      return expected

def validateIngressContract (config : DaemonConfig) (lifCount channels : ℕ) :
    Except Failure Unit :=
  if config.lifCount ≠ lifCount then
    bail
      s!"checkpoint LIF count {lifCount} does not match configured lif_count {config.lifCount}"
  else if config.channels ≠ channels then
    bail
      s!"checkpoint input width {channels} does not match configured channels {config.channels} (ingress contract)"
  else .ok ()

section Loader

variable (libs : Libraries)

def requireFinite (value : F64) (context : String) : Except Failure Unit :=
  if !value.isFinite then
    bail
      s!"invalid Spikenaut sidecar: {context} is {libs.showF64 value}, expected a finite number"
  else if !value.toF32.isFinite then
    bail s!"invalid Spikenaut sidecar: {context} is {libs.showF64 value}, which overflows f32"
  else .ok ()

def requireFiniteUnitInterval (value : F64) (context : String) : Except Failure Unit := do
  requireFinite libs value context
  if !(F64.lt (.finite 0) value && value.lt (.finite 1)) then
    bail
      s!"invalid Spikenaut sidecar: {context} is {libs.showF64 value}, expected a decay multiplier in (0, 1)"
  else .ok ()

def validateFiniteParameters (document : SidecarDocument) : Except Failure Unit :=
  .forEnumerate document.neurons fun index neuron => do
    requireFiniteUnitInterval libs neuron.decayRate s!"neuron {index} decay_rate"
    requireFinite libs neuron.membranePotential s!"neuron {index} membrane_potential"
    requireFinite libs neuron.threshold s!"neuron {index} threshold"
    .forEnumerate neuron.weights fun column weight =>
      requireFinite libs weight s!"neuron {index} weight {column}"

/-- The largest absolute value of a weight. -/
def maxAbs (document : SidecarDocument) : F32 :=
  document.neurons.foldl
    (fun acc neuron => neuron.weights.foldl (fun acc weight => acc.max weight.abs.toF32) acc) 0

def validateNonblankWeights (document : SidecarDocument) : Except Failure Unit :=
  if (maxAbs document).le BLANK_WEIGHT_ABS_MAX then
    bail
      s!"live mode cannot load a blank/uninitialized checkpoint (max |weight| {libs.showF32 (maxAbs document)} <= {libs.showF32 BLANK_WEIGHT_ABS_MAX})"
  else .ok ()

/-! ## Checks against the hub -/

variable (tree : FileTree)

/-- The context hides the cause in the text of the error. -/
def readHubConfig (path : FilePath) : Except Failure HubConfig :=
  match tree.read path with
  | .error _ => bail s!"failed to read Hugging Face config {path.display}"
  | .ok bytes =>
    match fromUtf8 bytes with
    | none => bail s!"failed to read Hugging Face config {path.display}"
    | some text =>
      match libs.parseHub text with
      | .error _ => bail s!"failed to parse Hugging Face config {path.display}"
      | .ok hub => .ok hub

def requireModelType (path : FilePath) : Option String → Except Failure Unit
  | some modelType =>
    if modelType ≠ HUB_MODEL_TYPE then
      bail
        s!"incompatible Hugging Face model_type {DebugText.quote modelType} in {path.display}; expected {HUB_MODEL_TYPE}"
    else .ok ()
  | none => .ok ()

def requireNeurons (document : SidecarDocument) : Option ℕ → Except Failure Unit
  | some n =>
    if n ≠ document.neurons.length then
      bail
        s!"Hugging Face n_neurons {n} does not match sidecar neuron count {document.neurons.length}"
    else .ok ()
  | none => .ok ()

def requireChannels (document : SidecarDocument) : Option ℕ → Except Failure Unit
  | some n => do
    let width ← weightWidth document
    if n ≠ width then
      bail s!"Hugging Face n_channels {n} does not match sidecar input width {width}"
    else .ok ()
  | none => .ok ()

def validateHubConfig (path : FilePath) (document : SidecarDocument) : Except Failure Unit := do
  let hub ← readHubConfig libs tree path
  requireModelType path hub.modelType
  requireNeurons document hub.nNeurons
  requireChannels document hub.nChannels

/-- The checks of `config.json`, if there is one. -/
def validateFoundHubConfig (sidecarPath : FilePath) (document : SidecarDocument) :
    Except Failure Unit :=
  match findHubConfig tree sidecarPath with
  | some hubPath => validateHubConfig libs tree hubPath document
  | none => .ok ()

def validateLiveDocument (config : DaemonConfig) (document : SidecarDocument)
    (sidecarPath : FilePath) : Except Failure Unit := do
  validateSchema document
  rejectOutputWeights document
  validateFoundHubConfig libs tree sidecarPath document
  let channels ← weightWidth document
  validateIngressContract config document.neurons.length channels
  validateFiniteParameters libs document
  validateNonblankWeights libs document

def parseSidecarFile (sidecarPath : FilePath) : Except Failure (List UInt8 × SidecarDocument) :=
  match tree.read sidecarPath with
  | .error _ => bail s!"failed to read checkpoint {sidecarPath.display}"
  | .ok bytes =>
    match fromUtf8 bytes with
    | none =>
      bail
        s!"checkpoint {sidecarPath.display} is not valid UTF-8 (live mode cannot load a binary/.mem dump as a software model)"
    | some text =>
      match libs.parseSidecar text with
      | .error _ => bail s!"failed to parse Spikenaut sidecar JSON from {sidecarPath.display}"
      | .ok document => .ok (bytes, document)

/-! ## Provenance -/

def modelId (document : SidecarDocument) (sidecarPath : FilePath) : String :=
  match document.frozenLineage.filter (· ≠ "") with
  | some lineage => s!"spikenaut-snn:{lineage}"
  | none =>
    match document.source, document.encoder with
    | some source, some encoder => s!"spikenaut-snn:{source}:{encoder}"
    | _, _ => s!"spikenaut-snn:{sidecarPath.display}"

def hexLower (bytes : List UInt8) : String :=
  String.ofList (bytes.flatMap fun b => [Nat.digitChar (b.toNat / 16), Nat.digitChar (b.toNat % 16)])

def hexSha256 (bytes : List UInt8) : String := hexLower (libs.sha256 bytes)

def provenanceOf (document : SidecarDocument) (sidecarPath : FilePath) (bytes : List UInt8) :
    ModelProvenance where
  schemaId := SCHEMA_ID
  sourcePath := sidecarPath.display
  contentSha256 := hexSha256 libs bytes
  modelId := modelId document sidecarPath
  encoder := document.encoder
  source := document.source
  frozenLineage := document.frozenLineage

end Loader

/-! ## What a document that passed has -/

variable {libs : Libraries}

theorem requireFinite_eq_ok {value : F64} {context : String} :
    requireFinite libs value context = .ok () ↔
      value.isFinite = true ∧ value.toF32.isFinite = true := by
  unfold requireFinite
  by_cases hvalue : value.isFinite = true
  · by_cases hsingle : value.toF32.isFinite = true
    · simp [hvalue, hsingle]
    · simp [hvalue, hsingle, bail]
  · simp [hvalue, bail]

theorem requireFiniteUnitInterval_eq_ok {value : F64} {context : String} :
    requireFiniteUnitInterval libs value context = .ok () ↔
      (value.isFinite = true ∧ value.toF32.isFinite = true) ∧
        F64.lt (.finite 0) value = true ∧ value.lt (.finite 1) = true := by
  unfold requireFiniteUnitInterval
  rw [Except.seq_eq_ok, requireFinite_eq_ok]
  apply and_congr_right
  intro _
  by_cases hin : (F64.lt (.finite 0) value && value.lt (.finite 1)) = true
  · rw [hin]
    exact ⟨fun _ => (Bool.and_eq_true_iff).1 hin, fun _ => rfl⟩
  · rw [Bool.eq_false_iff.2 hin]
    refine ⟨by rintro ⟨⟩, fun h => absurd ?_ hin⟩
    rw [h.1, h.2]
    rfl

/-- The numbers of a neuron can be restored. -/
structure FiniteNeuron (neuron : SidecarNeuron) : Prop where
  decayRate : (neuron.decayRate.isFinite = true ∧ neuron.decayRate.toF32.isFinite = true) ∧
    F64.lt (.finite 0) neuron.decayRate = true ∧ neuron.decayRate.lt (.finite 1) = true
  membranePotential :
    neuron.membranePotential.isFinite = true ∧ neuron.membranePotential.toF32.isFinite = true
  threshold : neuron.threshold.isFinite = true ∧ neuron.threshold.toF32.isFinite = true
  weights : ∀ weight ∈ neuron.weights, weight.isFinite = true ∧ weight.toF32.isFinite = true

theorem validateFiniteParameters_eq_ok {document : SidecarDocument} :
    validateFiniteParameters libs document = .ok () ↔
      ∀ neuron ∈ document.neurons, FiniteNeuron neuron := by
  unfold validateFiniteParameters
  apply Except.forEnumerate_eq_ok
  intro index neuron
  have hrow : (Except.forEnumerate neuron.weights fun column weight =>
      requireFinite libs weight s!"neuron {index} weight {column}") = .ok () ↔
        ∀ weight ∈ neuron.weights, weight.isFinite = true ∧ weight.toF32.isFinite = true :=
    Except.forEnumerate_eq_ok fun _ _ => requireFinite_eq_ok
  rw [Except.seq_eq_ok, Except.seq_eq_ok, Except.seq_eq_ok, requireFiniteUnitInterval_eq_ok,
    requireFinite_eq_ok, requireFinite_eq_ok, hrow]
  constructor
  · rintro ⟨hdecay, hmembrane, hthreshold, hweights⟩
    exact ⟨hdecay, hmembrane, hthreshold, hweights⟩
  · rintro ⟨hdecay, hmembrane, hthreshold, hweights⟩
    exact ⟨hdecay, hmembrane, hthreshold, hweights⟩

/-- The check of the largest weight, when the weights are finite. -/
theorem validateNonblankWeights_eq_ok {document : SidecarDocument}
    (hfinite : ∀ neuron ∈ document.neurons, FiniteNeuron neuron) :
    validateNonblankWeights libs document = .ok () ↔
      ∃ neuron ∈ document.neurons, ∃ weight ∈ neuron.weights,
        BLANK_WEIGHT_ABS_MAX.lt weight.abs.toF32 = true := by
  let magnitudes := (document.neurons.flatMap (·.weights)).map fun weight => weight.abs.toF32
  have hfold : maxAbs document = magnitudes.foldl F32.max 0 := by
    unfold maxAbs
    rw [List.foldl_map, List.foldl_flatMap]
  have hnan : ∀ x ∈ magnitudes, x.isNan = false := by
    intro x hx
    obtain ⟨weight, hweight, rfl⟩ := List.mem_map.1 hx
    obtain ⟨neuron, hneuron, hweight⟩ := List.mem_flatMap.1 hweight
    apply F32.isNan_of_isFinite
    rw [F64.toF32_abs, F32.abs_finite]
    exact ((hfinite neuron hneuron).weights weight hweight).2
  obtain ⟨hmax, hlt⟩ := F32.lt_foldl_max magnitudes hnan (show (0 : F32).isNan = false by decide)
  have hzero : BLANK_WEIGHT_ABS_MAX.lt 0 = false := by decide
  have hle := F32.le_eq_false hmax (show BLANK_WEIGHT_ABS_MAX.isNan = false by decide)
  unfold validateNonblankWeights
  rw [hfold]
  constructor
  · intro h
    have hblank : (magnitudes.foldl F32.max 0).le BLANK_WEIGHT_ABS_MAX = false := by
      by_contra hle
      rw [if_pos (Bool.eq_true_of_not_eq_false hle)] at h
      cases h
    rcases hlt.1 (hle.1 hblank) with h0 | ⟨x, hx, habove⟩
    · rw [hzero] at h0
      cases h0
    · obtain ⟨weight, hweight, rfl⟩ := List.mem_map.1 hx
      obtain ⟨neuron, hneuron, hweight⟩ := List.mem_flatMap.1 hweight
      exact ⟨neuron, hneuron, weight, hweight, habove⟩
  · rintro ⟨neuron, hneuron, weight, hweight, habove⟩
    have hx : weight.abs.toF32 ∈ magnitudes :=
      List.mem_map.2 ⟨weight, List.mem_flatMap.2 ⟨neuron, hneuron, hweight⟩, rfl⟩
    rw [if_neg]
    rw [hle.2 (hlt.2 (.inr ⟨_, hx, habove⟩))]
    decide

end Brainstem.Checkpoint
