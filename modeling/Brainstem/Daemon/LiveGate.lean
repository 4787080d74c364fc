import Brainstem.Daemon.Protocol
import Brainstem.Checkpoint.Restore

/-!
# No blank network ticks in live mode

The disk gives a trained network or none.  A pair that the caller hands over is only asked
for its schema and its dimensions, so there everything rests on the caller:

    StartsTrained … entry bound ticks ↔
      ∀ network provenance, entry = .runWithRestoredNetwork network provenance →
        ReachesTick … network provenance ticks → Trained cells network     (startsTrained_iff)
-/

namespace Brainstem.Daemon

open Brainstem.Health
open Brainstem.Ingress hiding Instant
open Brainstem.Checkpoint

variable {Network Entropy : Type}

/-! ## The ways in -/

inductive EntryPath (Network : Type) where
  | run
  | runForTicks
  | runWithRestoredNetwork (network : Network) (provenance : ModelProvenance)

/-- What the caller hands over. -/
def EntryPath.restored : EntryPath Network → Option (Network × ModelProvenance)
  | .run => none
  | .runForTicks => none
  | .runWithRestoredNetwork network provenance => some (network, provenance)

/-- The restore as the boot calls it.  The boot hides the text of an error, and a panic would
not come to a tick either. -/
def restoreFromDisk (nm : Neuromod Network Entropy) (cells : NeuromodCells Network)
    (libs : Libraries) (tree : FileTree) (net : NetParsers) (cfg : DaemonConfig) :
    Except String (Network × ModelProvenance) :=
  match restoreNetwork nm cells libs tree net cfg with
  | .ok pair => .ok pair
  | .error (.bail text) => .error text
  | .error (.panicked text) => .error text

section Runs

variable (nm : Neuromod Network Entropy) (fl : ℚ → ℚ)
  (restore : DaemonConfig → Except String (Network × ModelProvenance))
  (answers : BackendAnswers) (around : Around Entropy) (self : BrainstemDaemon)

def EntryPath.calls (entry : EntryPath Network) (bound : Except String Unit) (ticks : ℕ) :
    List BackendCall :=
  match entry with
  | .run => (runLoop nm fl restore answers around self bound none ticks).calls
  | .runForTicks => (Daemon.runForTicks nm fl restore answers around self ticks).calls
  | .runWithRestoredNetwork network provenance =>
    (runLoop nm fl restore answers around self bound (some (network, provenance)) ticks).calls

/-- If the loop made a tick, the network it started from is trained. -/
def StartsTrained (cells : NeuromodCells Network) (entry : EntryPath Network)
    (bound : Except String Unit) (ticks : ℕ) : Prop :=
  .nextIngress ∈ entry.calls nm fl restore answers around self bound ticks →
    ∃ pair, (boot nm fl restore answers around self entry.restored).1 = .ok pair ∧
      Trained cells pair.1

end Runs

/-- Nothing keeps the pair that was handed over from a tick. -/
structure ReachesTick (nm : Neuromod Network Entropy) (cfg : DaemonConfig)
    (bound initialized : Except String Unit) (network : Network) (provenance : ModelProvenance)
    (ticks : ℕ) : Prop where
  control : startControl cfg.controlBind bound = .ok ()
  source : initialized = .ok ()
  schema : provenance.schemaId = SCHEMA_ID
  dimensions : nm.neurons network = cfg.lifCount ∧ nm.izNeurons network = cfg.izhCount ∧
    nm.numChannels network = cfg.channels
  ticks_pos : 0 < ticks

variable {nm : Neuromod Network Entropy} {fl : ℚ → ℚ}
  {restore : DaemonConfig → Except String (Network × ModelProvenance)} {answers : BackendAnswers}
  {around : Around Entropy} {self : BrainstemDaemon}

/-! ## The boot -/

/-- In live mode the pair is asked for no more than this. -/
theorem validateRestoredPair_live {cfg : DaemonConfig} (hlive : cfg.runtimeMode = .live)
    {network : Network} {provenance : ModelProvenance} :
    validateRestoredPair nm cfg network provenance = .ok () ↔
      provenance.schemaId = SCHEMA_ID ∧ nm.neurons network = cfg.lifCount ∧
        nm.izNeurons network = cfg.izhCount ∧ nm.numChannels network = cfg.channels := by
  have hschema : validateRestoredSchema cfg provenance = .ok () ↔
      provenance.schemaId = SCHEMA_ID := by
    unfold validateRestoredSchema
    rw [hlive]
    by_cases h : provenance.schemaId = SCHEMA_ID <;> simp [h]
  rw [validateRestoredPair_eq_ok, hschema]

theorem boot_eq_ok {restored : Option (Network × ModelProvenance)}
    {pair : Network × ModelProvenance} :
    (boot nm fl restore answers around self restored).1 = .ok pair ↔
      answers.initialized = .ok () ∧ restoredPair restore self.config restored = .ok pair ∧
        validateRestoredPair nm self.config pair.1 pair.2 = .ok () := by
  show (bootNetwork nm restore answers.initialized self.config restored).2 = _ ↔ _
  rw [bootNetwork_eq_ok, takeRestoredNetwork_eq_ok]

/-! ## Ticks made -/

/-- A run polls the source when it makes a tick. -/
theorem InOrder.mem_nextIngress {modelPath : String} {n : ℕ} {calls : List BackendCall}
    (h : InOrder modelPath n calls) : .nextIngress ∈ calls ↔ 0 < n := by
  obtain ⟨rounds, hlen, hrounds, rfl⟩ := h
  subst hlen
  cases rounds with
  | nil => simp
  | cons round rounds =>
    have hround : .nextIngress ∈ round := by
      rcases hrounds round List.mem_cons_self with hr | ⟨spikes, batchTime, hr⟩
      · rw [hr]
        exact List.mem_cons_self
      · rw [hr]
        exact List.mem_cons_self
    simp [hround]

/-- A tick is made after a boot that went through. -/
theorem boot_of_nextIngress {entry : EntryPath Network} {bound : Except String Unit} {ticks : ℕ}
    (h : .nextIngress ∈ entry.calls nm fl restore answers around self bound ticks) :
    0 < ticks ∧ (∃ pair, (boot nm fl restore answers around self entry.restored).1 = .ok pair) ∧
      (startControl self.config.controlBind bound = .ok () ∨ entry.restored = none) := by
  have hloop : ∀ restored, .nextIngress ∈
      (runLoop nm fl restore answers around self bound restored ticks).calls →
      0 < ticks ∧ (∃ pair, (boot nm fl restore answers around self restored).1 = .ok pair) ∧
        startControl self.config.controlBind bound = .ok () := by
    intro restored h
    have hp := runLoop_protocol nm fl restore answers around self bound restored ticks
    cases hbound : startControl self.config.controlBind bound with
    | error e =>
      rw [(hp.unbound e hbound).1] at h
      simp at h
    | ok u =>
      rcases boot_cases nm fl restore answers around self restored with
        ⟨pair, hbooted, hboot⟩ | ⟨e, hfailed, hboot⟩
      · exact ⟨(hp.ticked hbound hbooted).1.mem_nextIngress.1 h, ⟨pair, hboot⟩, rfl⟩
      · exact absurd ((hp.aborted hbound hfailed).1.mem_nextIngress.1 h) (Nat.lt_irrefl 0)
  cases entry with
  | run =>
    obtain ⟨hpos, hboot, hbound⟩ := hloop none h
    exact ⟨hpos, hboot, .inl hbound⟩
  | runForTicks =>
    have hp := runForTicks_protocol nm fl restore answers around self ticks
    rcases boot_cases nm fl restore answers around self none with
      ⟨pair, hbooted, hboot⟩ | ⟨e, hfailed, hboot⟩
    · exact ⟨(hp.ticked hbooted).mem_nextIngress.1 h, ⟨pair, hboot⟩, .inr rfl⟩
    · exact absurd ((hp.aborted hfailed).mem_nextIngress.1 h) (Nat.lt_irrefl 0)
  | runWithRestoredNetwork network provenance =>
    obtain ⟨hpos, hboot, hbound⟩ := hloop (some (network, provenance)) h
    exact ⟨hpos, hboot, .inl hbound⟩

variable (fl restore around) in
/-- The pair that was handed over ticks. -/
theorem ReachesTick.ticks {bound : Except String Unit} {network : Network}
    {provenance : ModelProvenance} {ticks : ℕ} (hlive : self.config.runtimeMode = .live)
    (h : ReachesTick nm self.config bound answers.initialized network provenance ticks) :
    (boot nm fl restore answers around self (some (network, provenance))).1 =
        .ok (network, provenance) ∧
      .nextIngress ∈ (runLoop nm fl restore answers around self bound (some (network, provenance))
        ticks).calls := by
  have hboot : (boot nm fl restore answers around self (some (network, provenance))).1 =
      .ok (network, provenance) :=
    boot_eq_ok.2 ⟨h.source, rfl, (validateRestoredPair_live hlive).2 ⟨h.schema, h.dimensions⟩⟩
  have hbooted : Boots nm restore answers self.config (some (network, provenance)) :=
    boots_iff.2 ⟨_, hboot⟩
  have hp := runLoop_protocol nm fl restore answers around self bound (some (network, provenance))
    ticks
  exact ⟨hboot, (hp.ticked h.control hbooted).1.mem_nextIngress.2 h.ticks_pos⟩

/-! ## The gate -/

section Gate

variable {cells : NeuromodCells Network} {libs : Libraries} {tree : FileTree} {net : NetParsers}

/-- What the boot restores by itself is trained. -/
theorem trained_of_boot (hcells : cells.Lawful nm) (hlive : self.config.runtimeMode = .live)
    {pair : Network × ModelProvenance}
    (h : (boot nm fl (restoreFromDisk nm cells libs tree net) answers around self none).1 =
      .ok pair) : Trained cells pair.1 := by
  obtain ⟨-, hrestored, -⟩ := boot_eq_ok.1 h
  unfold restoredPair restoreFromDisk at hrestored
  cases hdisk : restoreNetwork nm cells libs tree net self.config with
  | error e =>
    rw [hdisk] at hrestored
    cases e <;> cases hrestored
  | ok found =>
    rw [hdisk] at hrestored
    cases hrestored
    exact trained_of_restoreNetwork hcells hlive hdisk

end Gate

/-! ## A blank network that ticks -/

/-- The quiet daemon in live mode. -/
def BrainstemDaemon.live : BrainstemDaemon where
  config := { DaemonConfig.quiet with runtimeMode := .live }
  ingress := ⟨.tinyFixture, DaemonConfig.quiet_ingress, fun _ => .new, false⟩
  health := (HealthMachine.new id (.default id)).apply id .processStarted 0

/-- A backend that answers well, and nobody else around. -/
def BackendAnswers.ok : BackendAnswers := ⟨.ok (), .ok (), .ok ()⟩

def Around.idle : Around Unit where
  bootClock := fun _ => 0
  tick := fun _ => .idle
  before := fun _ => []
  drainClock := 0
  closing := fun _ => []
  after := []

def ModelProvenance.claimed : ModelProvenance where
  schemaId := SCHEMA_ID
  sourcePath := "snn_model.json"
  contentSha256 := "none"
  modelId := "spikenaut-snn:v1"
  encoder := none
  source := none
  frozenLineage := none

theorem reachesTick_live (network : CellNetwork)
    (h : CellNetwork.neuromod.neurons network = 2 ∧ CellNetwork.neuromod.izNeurons network = 0 ∧
      CellNetwork.neuromod.numChannels network = 2) :
    ReachesTick CellNetwork.neuromod BrainstemDaemon.live.config (.ok ())
      BackendAnswers.ok.initialized network .claimed 1 :=
  ⟨rfl, rfl, rfl, h, Nat.one_pos⟩

/-- A blank network ticks in live mode when a caller hands it over under the name of the
sidecar schema. -/
theorem blank_network_ticks :
    tryWithBackend .any id BrainstemDaemon.live.config 0 =
        .ok (BrainstemDaemon.live.ingress, BrainstemDaemon.live.health) ∧
      BrainstemDaemon.live.config.runtimeMode = .live ∧
      ¬StartsTrained CellNetwork.neuromod id
        (restoreFromDisk CellNetwork.neuromod CellNetwork.neuromodCells .unused .empty .any)
        .ok .idle BrainstemDaemon.live CellNetwork.neuromodCells
        (.runWithRestoredNetwork CellNetwork.blank .claimed) (.ok ()) 1 := by
  refine ⟨rfl, rfl, fun h => ?_⟩
  have hticks := (reachesTick_live .blank ⟨rfl, rfl, rfl⟩).ticks id
    (restoreFromDisk CellNetwork.neuromod CellNetwork.neuromodCells .unused .empty .any) .idle rfl
  obtain ⟨pair, hpair, htrained⟩ := h hticks.2
  have hsame : (boot CellNetwork.neuromod id _ BackendAnswers.ok Around.idle BrainstemDaemon.live
      (some (CellNetwork.blank, ModelProvenance.claimed))).1 = .ok pair := hpair
  rw [hticks.1] at hsame
  cases hsame
  exact CellNetwork.blank_not_trained htrained

/-! ## When the gate holds -/

variable {cells : NeuromodCells Network}

variable (fl answers around) in
/-- **When live mode ticks from a trained network only**: always, but for a pair handed over by
the caller, which has to be trained itself if anything is to come of it. -/
theorem startsTrained_iff (hcells : cells.Lawful nm) (hlive : self.config.runtimeMode = .live)
    (libs : Libraries) (tree : FileTree) (net : NetParsers) (entry : EntryPath Network)
    (bound : Except String Unit) (ticks : ℕ) :
    StartsTrained nm fl (restoreFromDisk nm cells libs tree net) answers around self cells entry
        bound ticks ↔
      ∀ network provenance, entry = .runWithRestoredNetwork network provenance →
        ReachesTick nm self.config bound answers.initialized network provenance ticks →
          Trained cells network := by
  constructor
  · rintro h network provenance rfl hreaches
    have hticks := hreaches.ticks fl (restoreFromDisk nm cells libs tree net) around hlive
    obtain ⟨pair, hpair, htrained⟩ := h hticks.2
    have hsame : (boot nm fl (restoreFromDisk nm cells libs tree net) answers around self
        (some (network, provenance))).1 = .ok pair := hpair
    rw [hticks.1] at hsame
    cases hsame
    exact htrained
  · intro h hmem
    obtain ⟨hpos, ⟨pair, hpair⟩, hbound⟩ := boot_of_nextIngress hmem
    refine ⟨pair, hpair, ?_⟩
    cases entry with
    | run => exact trained_of_boot hcells hlive hpair
    | runForTicks => exact trained_of_boot hcells hlive hpair
    | runWithRestoredNetwork network provenance =>
      obtain ⟨hinit, hrestored, hvalid⟩ := boot_eq_ok.1 hpair
      cases hrestored
      obtain ⟨hschema, hdimensions⟩ := (validateRestoredPair_live hlive).1 hvalid
      have hcontrol : startControl self.config.controlBind bound = .ok () :=
        hbound.resolve_right (by rintro ⟨⟩)
      exact h network provenance rfl ⟨hcontrol, hinit, hschema, hdimensions, hpos⟩

theorem startsTrained_trained :
    StartsTrained CellNetwork.neuromod id
      (restoreFromDisk CellNetwork.neuromod CellNetwork.neuromodCells .unused .empty .any)
      .ok .idle BrainstemDaemon.live CellNetwork.neuromodCells
      (.runWithRestoredNetwork CellNetwork.trained .claimed) (.ok ()) 1 := by
  refine (startsTrained_iff id .ok .idle CellNetwork.neuromodCells_lawful rfl .unused .empty .any
    (.runWithRestoredNetwork CellNetwork.trained .claimed) (.ok ()) 1).2 ?_
  rintro network provenance ⟨⟩ -
  exact CellNetwork.trained_trained

end Brainstem.Daemon
