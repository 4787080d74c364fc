import Brainstem.Checkpoint.Restore
import Brainstem.Daemon.Entry

/-!
# What live restore accepts

Each check of a document passes exactly if one field of `ValidSidecar` holds, so that the
whole accepts exactly the valid sidecars.  What is restored from one is the document, number
by number:

    cells.lif network = document.neurons.map SidecarNeuron.restored
-/

namespace Brainstem.Checkpoint

open Brainstem.Daemon

/-! ## Valid sidecars -/

/-- A sidecar fit for the configuration. -/
structure ValidSidecar (config : DaemonConfig) (document : SidecarDocument) : Prop where
  nonempty : document.neurons ≠ []
  source : ∃ source, document.source = some source ∧ source ∈ ALLOWED_SOURCES
  q88 : ∀ q88, document.q88 = some q88 → q88 ∈ ALLOWED_Q88
  encoder : ∀ encoder, document.encoder = some encoder → encoder ≠ ""
  outputWeights : ∀ neuron ∈ document.neurons, neuron.outputWeights = .absent
  count : config.lifCount = document.neurons.length
  /-- all rows have one width, which is that of the ingress -/
  width : ∃ width, width ≠ 0 ∧ (∀ neuron ∈ document.neurons, neuron.weights.length = width) ∧
    config.channels = width
  finite : ∀ neuron ∈ document.neurons, FiniteNeuron neuron
  nonblank : ∃ neuron ∈ document.neurons, ∃ weight ∈ neuron.weights,
    BLANK_WEIGHT_ABS_MAX.lt weight.toF32.abs = true

/-- Every field that the hub gives agrees with the document. -/
structure HubConfig.Agrees (hub : HubConfig) (document : SidecarDocument) : Prop where
  modelType : ∀ modelType, hub.modelType = some modelType → modelType = HUB_MODEL_TYPE
  nNeurons : ∀ n, hub.nNeurons = some n → n = document.neurons.length
  nChannels : ∀ n, hub.nChannels = some n → ∀ neuron ∈ document.neurons, neuron.weights.length = n

/-! ## One check at a time -/

section Checks

variable {document : SidecarDocument}

theorem guard_eq_ok {c : Prop} [Decidable c] {text : String} :
    (if c then bail text else .ok () : Except Failure Unit) = .ok () ↔ ¬c := by
  split
  · next h => exact ⟨nofun, fun hn => absurd h hn⟩
  · next h => exact ⟨fun _ => h, fun _ => rfl⟩

theorem requireAllowedSource_eq_ok {source : Option String} :
    requireAllowedSource source = .ok () ↔ ∃ s, source = some s ∧ s ∈ ALLOWED_SOURCES := by
  unfold requireAllowedSource
  split
  · next s =>
    split
    · next h => exact ⟨fun _ => ⟨s, rfl, h⟩, fun _ => rfl⟩
    · next h => exact ⟨nofun, fun ⟨_, hs, hmem⟩ => absurd (Option.some.inj hs ▸ hmem) h⟩
  · exact ⟨nofun, nofun⟩

theorem requireAllowedQ88_eq_ok {q88 : Option String} :
    requireAllowedQ88 q88 = .ok () ↔ ∀ q, q88 = some q → q ∈ ALLOWED_Q88 := by
  unfold requireAllowedQ88
  split
  · next q =>
    split
    · next h => exact ⟨fun _ _ hq => Option.some.inj hq ▸ h, fun _ => rfl⟩
    · next h => exact ⟨nofun, fun hall => absurd (hall q rfl) h⟩
  · exact ⟨nofun, fun _ => rfl⟩

theorem validateSchema_eq_ok : validateSchema document = .ok () ↔
    document.neurons ≠ [] ∧ (∃ s, document.source = some s ∧ s ∈ ALLOWED_SOURCES) ∧
      (∀ q, document.q88 = some q → q ∈ ALLOWED_Q88) ∧
      ∀ encoder, document.encoder = some encoder → encoder ≠ "" := by
  unfold validateSchema
  split
  · next h => exact ⟨nofun, fun hv => absurd h hv.1⟩
  · next h =>
    rw [Except.seq_eq_ok, Except.seq_eq_ok, requireAllowedSource_eq_ok, requireAllowedQ88_eq_ok,
      guard_eq_ok]
    constructor
    · rintro ⟨hsource, hq88, hencoder⟩
      exact ⟨h, hsource, hq88, fun encoder he hempty => hencoder (hempty ▸ he)⟩
    · rintro ⟨-, hsource, hq88, hencoder⟩
      exact ⟨hsource, hq88, fun he => hencoder "" he rfl⟩

theorem rejectOutputWeights_eq_ok : rejectOutputWeights document = .ok () ↔
    ∀ neuron ∈ document.neurons, neuron.outputWeights = .absent := by
  unfold rejectOutputWeights
  apply Except.forEnumerate_eq_ok
  intro index neuron
  rw [guard_eq_ok]
  cases neuron.outputWeights <;> simp

theorem weightWidth_eq_ok {width : ℕ} : weightWidth document = .ok width ↔
    document.neurons ≠ [] ∧ width ≠ 0 ∧
      ∀ neuron ∈ document.neurons, neuron.weights.length = width := by
  unfold weightWidth
  split
  · next h => exact ⟨nofun, fun hw => absurd h hw.1⟩
  · next first rest h =>
    dsimp only
    have hrows : (Except.forEnumerate document.neurons fun index neuron =>
        if neuron.weights.length ≠ first.weights.length then
          bail s!"invalid Spikenaut sidecar: neuron {index} has {neuron.weights.length} weights, expected {first.weights.length}"
        else .ok ()) = .ok () ↔
          ∀ neuron ∈ document.neurons, neuron.weights.length = first.weights.length := by
      apply Except.forEnumerate_eq_ok
      intro index neuron
      rw [guard_eq_ok, not_not]
    split
    · next hzero =>
      refine ⟨nofun, fun ⟨_, hw, hall⟩ => ?_⟩
      rw [← hall first (h ▸ List.mem_cons_self)] at hw
      exact absurd hzero hw
    · next hzero =>
      rw [Except.seq_eq_ok, hrows]
      constructor
      · rintro ⟨hall, hwidth⟩
        cases hwidth
        exact ⟨h ▸ List.cons_ne_nil _ _, hzero, hall⟩
      · rintro ⟨-, -, hall⟩
        have hfirst := hall first (h ▸ List.mem_cons_self)
        rw [hfirst]
        exact ⟨hall, rfl⟩

theorem validateIngressContract_eq_ok {config : DaemonConfig} {lifCount channels : ℕ} :
    validateIngressContract config lifCount channels = .ok () ↔
      config.lifCount = lifCount ∧ config.channels = channels := by
  unfold validateIngressContract
  split
  · next h => exact ⟨nofun, fun hc => absurd hc.1 h⟩
  · next h =>
    rw [guard_eq_ok, not_not]
    exact ⟨fun hc => ⟨not_not.1 h, hc⟩, fun hc => hc.2⟩

end Checks

/-! ## The hub -/

section Hub

variable {libs : Libraries} {tree : FileTree} {document : SidecarDocument} {path : FilePath}

theorem requireModelType_eq_ok {modelType : Option String} :
    requireModelType path modelType = .ok () ↔ ∀ t, modelType = some t → t = HUB_MODEL_TYPE := by
  unfold requireModelType
  split
  · next t =>
    rw [guard_eq_ok, not_not]
    exact ⟨fun h _ ht => Option.some.inj ht ▸ h, fun h => h t rfl⟩
  · exact ⟨nofun, fun _ => rfl⟩

theorem requireNeurons_eq_ok {nNeurons : Option ℕ} : requireNeurons document nNeurons = .ok () ↔
    ∀ n, nNeurons = some n → n = document.neurons.length := by
  unfold requireNeurons
  split
  · next n =>
    rw [guard_eq_ok, not_not]
    exact ⟨fun h _ hn => Option.some.inj hn ▸ h, fun h => h n rfl⟩
  · exact ⟨nofun, fun _ => rfl⟩

/-- The width is asked for only if the hub gives one. -/
theorem requireChannels_eq_ok {nChannels : Option ℕ} {width : ℕ}
    (hwidth : weightWidth document = .ok width) : requireChannels document nChannels = .ok () ↔
      ∀ n, nChannels = some n → ∀ neuron ∈ document.neurons, neuron.weights.length = n := by
  obtain ⟨hne, -, hall⟩ := weightWidth_eq_ok.1 hwidth
  unfold requireChannels
  split
  · next n =>
    rw [Except.bind_eq_ok, hwidth]
    constructor
    · rintro ⟨w, hw, hn⟩ m hm neuron hneuron
      cases hw
      cases hm
      rw [guard_eq_ok, not_not] at hn
      rw [hn]
      exact hall neuron hneuron
    · intro h
      obtain ⟨first, hfirst⟩ := List.exists_mem_of_ne_nil _ hne
      refine ⟨width, rfl, guard_eq_ok.2 (not_not.2 ?_)⟩
      rw [← h n rfl first hfirst]
      exact hall first hfirst
  · exact ⟨nofun, fun _ => rfl⟩

theorem validateHubConfig_eq_ok {width : ℕ} (hwidth : weightWidth document = .ok width) :
    validateHubConfig libs tree path document = .ok () ↔
      ∃ hub, readHubConfig libs tree path = .ok hub ∧ hub.Agrees document := by
  unfold validateHubConfig
  rw [Except.bind_eq_ok]
  apply exists_congr
  intro hub
  rw [Except.seq_eq_ok, Except.seq_eq_ok, requireModelType_eq_ok, requireNeurons_eq_ok,
    requireChannels_eq_ok hwidth]
  apply and_congr_right
  intro _
  exact ⟨fun ⟨h1, h2, h3⟩ => ⟨h1, h2, h3⟩, fun ⟨h1, h2, h3⟩ => ⟨h1, h2, h3⟩⟩

/-- The `config.json` that belongs to the sidecar, if there is one, is read and agrees. -/
def HubAgrees (libs : Libraries) (tree : FileTree) (sidecarPath : FilePath)
    (document : SidecarDocument) : Prop :=
  ∀ hubPath, findHubConfig tree sidecarPath = some hubPath →
    ∃ hub, readHubConfig libs tree hubPath = .ok hub ∧ hub.Agrees document

theorem validateFoundHubConfig_eq_ok {width : ℕ} (hwidth : weightWidth document = .ok width) :
    validateFoundHubConfig libs tree path document = .ok () ↔ HubAgrees libs tree path document := by
  unfold validateFoundHubConfig HubAgrees
  cases findHubConfig tree path with
  | none => exact ⟨nofun, fun _ => rfl⟩
  | some hubPath =>
    rw [validateHubConfig_eq_ok hwidth]
    exact ⟨fun h _ hp => Option.some.inj hp ▸ h, fun h => h hubPath rfl⟩

end Hub

/-! ## Failing is not panicking -/

/-- Whatever goes wrong is reported. -/
def Reports {α : Type} (x : Except Failure α) : Prop := ∀ text, x ≠ .error (.panicked text)

namespace Reports

variable {α β : Type}

theorem ok (a : α) : Reports (.ok a : Except Failure α) := nofun

theorem bailed (text : String) : Reports (bail text : Except Failure α) := nofun

theorem guard {c : Prop} [Decidable c] (text : String) :
    Reports (if c then bail text else .ok () : Except Failure Unit) := by
  split
  · exact bailed text
  · exact ok ()

theorem bind {x : Except Failure α} {f : α → Except Failure β} (hx : Reports x)
    (hf : ∀ a, x = .ok a → Reports (f a)) : Reports (x >>= f) := by
  cases x with
  | error e =>
    intro text h
    cases h
    exact hx text rfl
  | ok a => exact hf a rfl

theorem forEnumerate {items : List α} {body : ℕ → α → Except Failure Unit}
    (h : ∀ i x, Reports (body i x)) : Reports (.forEnumerate items body) := by
  have hfrom : ∀ start, Reports ((items.zipIdx start).forM fun e => body e.2 e.1) := by
    induction items with
    | nil => exact fun _ => ok ()
    | cons item items ih => exact fun start => bind (h start item) fun _ _ => ih (start + 1)
  exact hfrom 0

variable {document : SidecarDocument}

theorem validateSchema : Reports (validateSchema document) := by
  unfold Checkpoint.validateSchema
  split
  · exact bailed _
  · refine bind ?_ fun _ _ => bind ?_ fun _ _ => guard _
    · unfold requireAllowedSource
      split
      · split
        · exact ok ()
        · exact bailed _
      · exact bailed _
    · unfold requireAllowedQ88
      split
      · split
        · exact ok ()
        · exact bailed _
      · exact ok ()

/-- There is a first row to read. -/
theorem weightWidth (hne : document.neurons ≠ []) : Reports (weightWidth document) := by
  unfold Checkpoint.weightWidth
  split
  · next h => exact absurd h hne
  · dsimp only
    split
    · exact bailed _
    · exact bind (forEnumerate fun _ _ => guard _) fun _ _ => ok _

variable {libs : Libraries} {tree : FileTree}

theorem readHubConfig (path : FilePath) : Reports (readHubConfig libs tree path) := by
  unfold Checkpoint.readHubConfig
  split
  · exact bailed _
  · split
    · exact bailed _
    · split
      · exact bailed _
      · exact ok _

theorem validateFoundHubConfig (hne : document.neurons ≠ []) (path : FilePath) :
    Reports (validateFoundHubConfig libs tree path document) := by
  unfold Checkpoint.validateFoundHubConfig
  split
  · next hubPath _ =>
    refine bind (readHubConfig hubPath) fun hub _ => bind ?_ fun _ _ => bind ?_ fun _ _ => ?_
    · unfold requireModelType
      split
      · exact guard _
      · exact ok ()
    · unfold requireNeurons
      split
      · exact guard _
      · exact ok ()
    · unfold requireChannels
      split
      · exact bind (weightWidth hne) fun _ _ => guard _
      · exact ok ()
  · exact ok ()

theorem requireFinite (value : F64) (context : String) : Reports (requireFinite libs value context) := by
  unfold Checkpoint.requireFinite
  split
  · exact bailed _
  · exact guard _

theorem validateFiniteParameters : Reports (validateFiniteParameters libs document) := by
  refine forEnumerate fun _ _ => bind (bind (requireFinite _ _) fun _ _ => guard _) fun _ _ =>
    bind (requireFinite _ _) fun _ _ => bind (requireFinite _ _) fun _ _ => ?_
  exact forEnumerate fun _ _ => requireFinite _ _

/-- The schema is checked first, so no later check meets a document without neurons. -/
theorem validateLiveDocument (config : DaemonConfig) (path : FilePath) :
    Reports (validateLiveDocument libs tree config document path) := by
  refine bind validateSchema fun _ hschema => ?_
  obtain ⟨hne, -⟩ := validateSchema_eq_ok.1 hschema
  refine bind (forEnumerate fun _ _ => guard _) fun _ _ => bind (validateFoundHubConfig hne path)
    fun _ _ => bind (weightWidth hne) fun _ _ => bind ?_ fun _ _ =>
    bind validateFiniteParameters fun _ _ => guard _
  unfold validateIngressContract
  split
  · exact bailed _
  · exact guard _

end Reports

/-! ## Main result -/

variable {Network Entropy : Type} {nm : Neuromod Network Entropy} {cells : NeuromodCells Network}
  {libs : Libraries} {tree : FileTree} {config : DaemonConfig} {document : SidecarDocument}
  {path : FilePath}

theorem validateLiveDocument_iff : validateLiveDocument libs tree config document path = .ok () ↔
    ValidSidecar config document ∧ HubAgrees libs tree path document := by
  rw [validateLiveDocument_eq_ok, validateSchema_eq_ok, rejectOutputWeights_eq_ok]
  constructor
  · rintro ⟨⟨hne, hsource, hq88, hencoder⟩, houtput, hhub, width, hwidth, hcontract, hfinite, hnonblank⟩
    rw [validateFoundHubConfig_eq_ok hwidth] at hhub
    obtain ⟨-, hpos, hall⟩ := weightWidth_eq_ok.1 hwidth
    obtain ⟨hcount, hchannels⟩ := validateIngressContract_eq_ok.1 hcontract
    rw [validateFiniteParameters_eq_ok] at hfinite
    rw [validateNonblankWeights_eq_ok hfinite] at hnonblank
    simp only [F64.toF32_abs] at hnonblank
    exact ⟨⟨hne, hsource, hq88, hencoder, houtput, hcount, ⟨width, hpos, hall, hchannels⟩, hfinite,
      hnonblank⟩, hhub⟩
  · rintro ⟨hvalid, hhub⟩
    obtain ⟨width, hpos, hall, hchannels⟩ := hvalid.width
    have hwidth : weightWidth document = .ok width :=
      weightWidth_eq_ok.2 ⟨hvalid.nonempty, hpos, hall⟩
    have hnonblank := hvalid.nonblank
    simp only [← F64.toF32_abs] at hnonblank
    refine ⟨⟨hvalid.nonempty, hvalid.source, hvalid.q88, hvalid.encoder⟩, hvalid.outputWeights,
      (validateFoundHubConfig_eq_ok hwidth).2 hhub, width, hwidth,
      validateIngressContract_eq_ok.2 ⟨hvalid.count, hchannels⟩,
      validateFiniteParameters_eq_ok.2 hvalid.finite, ?_⟩
    exact (validateNonblankWeights_eq_ok hvalid.finite).2 hnonblank

theorem restoreSpikingNetwork_spec (hcells : cells.Lawful nm)
    (hcount : config.lifCount = document.neurons.length) :
    ∃ network, restoreSpikingNetwork nm cells config document = .ok network ∧
      cells.lif network = document.neurons.map SidecarNeuron.restored ∧
      cells.rewardLr network = 0 := by
  have hnew := (hcells.dimensions_withDimensions config.lifCount config.izhCount config.channels).1
  obtain ⟨network, hnetwork, hspec⟩ := applySidecar_spec hcells (hnew.trans hcount)
  exact ⟨network, hnetwork, hspec.lif, hspec.rewardLr⟩

/-- The document, once it is parsed: checked, then restored. -/
def restoreDocument (nm : Neuromod Network Entropy) (cells : NeuromodCells Network) (libs : Libraries)
    (tree : FileTree) (config : DaemonConfig) (document : SidecarDocument) (sidecarPath : FilePath) :
    Except Failure Network := do
  validateLiveDocument libs tree config document sidecarPath
  restoreSpikingNetwork nm cells config document

/-- **Live restore accepts exactly the valid sidecars and restores them faithfully**, and never
indexes out of bounds. -/
theorem restoreDocument_iff (hcells : cells.Lawful nm) (libs : Libraries) (tree : FileTree)
    (config : DaemonConfig) (document : SidecarDocument) (sidecarPath : FilePath) :
    ((∃ network, restoreDocument nm cells libs tree config document sidecarPath = .ok network) ↔
      ValidSidecar config document ∧ HubAgrees libs tree sidecarPath document) ∧
    (∀ text, restoreDocument nm cells libs tree config document sidecarPath ≠ .error (.panicked text)) ∧
    ∀ network, restoreDocument nm cells libs tree config document sidecarPath = .ok network →
      cells.lif network = document.neurons.map SidecarNeuron.restored ∧
        cells.rewardLr network = 0 := by
  refine ⟨⟨?_, ?_⟩, ?_, ?_⟩
  · rintro ⟨network, h⟩
    exact validateLiveDocument_iff.1 (Except.seq_eq_ok.1 h).1
  · rintro ⟨hvalid, hhub⟩
    obtain ⟨network, hnetwork, -⟩ := restoreSpikingNetwork_spec hcells hvalid.count
    exact ⟨network, Except.seq_eq_ok.2 ⟨validateLiveDocument_iff.2 ⟨hvalid, hhub⟩, hnetwork⟩⟩
  · refine Reports.bind (Reports.validateLiveDocument config sidecarPath) fun _ _ => ?_
    unfold restoreSpikingNetwork applySidecar
    split
    · exact Reports.bailed _
    · exact Reports.ok _
  · intro network h
    have hspec := restored_of_applySidecar hcells (Except.seq_eq_ok.1 h).2
    exact ⟨hspec.lif, hspec.rewardLr⟩

/-- Two neurons with a weight of a half each. -/
def SidecarDocument.halves : SidecarDocument where
  source := some "spikenaut_julia"
  encoder := none
  q88 := some "signed"
  frozenLineage := none
  neurons := List.replicate 2
    ⟨.finite (1 / 2), .finite 0, .finite (1 / 2), false, [.finite (1 / 2), .finite 0], .absent⟩

theorem SidecarDocument.halves_valid : ValidSidecar .quiet .halves where
  nonempty := nofun
  source := ⟨_, rfl, by decide⟩
  q88 := by
    intro q88 h
    cases h
    decide
  encoder := nofun
  outputWeights := by decide
  count := rfl
  width := ⟨2, by decide, by decide, rfl⟩
  finite := by
    intro neuron hneuron
    rw [List.eq_of_mem_replicate hneuron]
    constructor <;> decide +kernel
  nonblank := ⟨_, List.mem_cons_self, _, List.mem_cons_self, by decide +kernel⟩

theorem findHubConfig_empty : findHubConfig .empty (.parse "snn_model.json") = none := by decide

theorem restoreDocument_halves :
    ∃ network, restoreDocument CellNetwork.neuromod CellNetwork.neuromodCells .unused .empty .quiet
      .halves (.parse "snn_model.json") = .ok network :=
  (restoreDocument_iff CellNetwork.neuromodCells_lawful .unused .empty .quiet .halves
    (.parse "snn_model.json")).1.2 ⟨SidecarDocument.halves_valid, fun _ h => by
      rw [findHubConfig_empty] at h
      cases h⟩

end Brainstem.Checkpoint
