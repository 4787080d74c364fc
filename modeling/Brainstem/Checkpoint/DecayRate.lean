import Brainstem.Checkpoint.Acceptance
import Brainstem.Lib.Nearest

/-!
# The decay rate that is restored

The range check of a decay rate looks at the double of the sidecar; the cell gets the nearest
single.  Near the ends of the interval the two differ, and a rate that passed as inside (0, 1)
is restored as zero or as one.  Which rates stay inside:

    0 < cell.decayRate < 1  ↔  2 ^ -150 < rate < 1 - 2 ^ -25          (decay_rate_restored_iff)
-/

namespace Brainstem.Checkpoint

open Brainstem.Daemon

/-- The rate is not rounded to an end of the interval. -/
def SurvivesRounding (rate : F64) : Prop :=
  F64.lt (.finite (1 / 2 ^ 150)) rate = true ∧ rate.lt (.finite (1 - 1 / 2 ^ 25)) = true

variable {Network Entropy : Type} {nm : Neuromod Network Entropy} {cells : NeuromodCells Network}
  {libs : Libraries} {tree : FileTree}

/-- Of the rates that the check accepts, these are the ones whose single it would accept too. -/
theorem inUnit_of_checked {rate : F64} {context : String}
    (hchecked : requireFiniteUnitInterval libs rate context = .ok ()) :
    rate.toF32.InUnit ↔ SurvivesRounding rate := by
  obtain ⟨⟨hfinite, -⟩, hpositive, hbelow⟩ := requireFiniteUnitInterval_eq_ok.1 hchecked
  cases rate with
  | nan => cases hfinite
  | inf negative => cases hfinite
  | finite q =>
    rw [F32.inUnit_toF32 (of_decide_eq_true hpositive) (of_decide_eq_true hbelow)]
    unfold SurvivesRounding F64.lt
    rw [decide_eq_true_eq, decide_eq_true_eq]

/-- **When the decay check holds for the value restored.**  A rate that the check accepts is
stored by `applySidecar` as a single strictly between zero and one exactly when it survives the
rounding, so a live checkpoint is restored with decay multipliers throughout exactly when all
the rates of its document survive. -/
theorem decay_rate_restored_iff (hcells : cells.Lawful nm) :
    (∀ (network restored : Network) (document : SidecarDocument) (i : ℕ) (neuron : SidecarNeuron)
        (context : String),
      applySidecar nm cells network document = .ok restored → document.neurons[i]? = some neuron →
      requireFiniteUnitInterval libs neuron.decayRate context = .ok () →
      ∃ cell, (cells.lif restored)[i]? = some cell ∧
        (cell.decayRate.InUnit ↔ SurvivesRounding neuron.decayRate)) ∧
    ∀ (config : DaemonConfig) (document : SidecarDocument) (path : FilePath) (restored : Network),
      restoreDocument nm cells libs tree config document path = .ok restored →
      ((∀ cell ∈ cells.lif restored, cell.decayRate.InUnit) ↔
        ∀ neuron ∈ document.neurons, SurvivesRounding neuron.decayRate) := by
  constructor
  · intro network restored document i neuron context happly hneuron hchecked
    refine ⟨neuron.restored, ?_, inUnit_of_checked hchecked⟩
    rw [(restored_of_applySidecar hcells happly).lif, List.getElem?_map, hneuron]
    rfl
  · intro config document path restored hrestore
    obtain ⟨hvalid, happly⟩ := Except.seq_eq_ok.1 hrestore
    obtain ⟨-, -, -, channels, -, -, hfinite, -⟩ := validateLiveDocument_eq_ok.1 hvalid
    rw [validateFiniteParameters_eq_ok] at hfinite
    rw [(restored_of_applySidecar hcells happly).lif, List.forall_mem_map]
    have hrate : ∀ neuron ∈ document.neurons,
        (neuron.restored.decayRate.InUnit ↔ SurvivesRounding neuron.decayRate) := by
      intro neuron hneuron
      have hchecked : requireFiniteUnitInterval libs neuron.decayRate "" = .ok () :=
        requireFiniteUnitInterval_eq_ok.2 (hfinite neuron hneuron).decayRate
      exact inUnit_of_checked hchecked
    exact forall₂_congr hrate

/-! ## Both ends -/

/-- The document of halves with another decay rate. -/
def SidecarDocument.decaying (rate : F64) : SidecarDocument :=
  { SidecarDocument.halves with
    neurons := List.replicate 2
      ⟨rate, .finite 0, .finite (1 / 2), false, [.finite (1 / 2), .finite 0], .absent⟩ }

/-- A live restore takes every rate that the check takes. -/
theorem restoreDocument_decaying {rate : F64} {context : String}
    (hchecked : requireFiniteUnitInterval .unused rate context = .ok ()) :
    ∃ restored, restoreDocument CellNetwork.neuromod CellNetwork.neuromodCells .unused .empty .quiet
        (.decaying rate) (.parse "snn_model.json") = .ok restored ∧
      ∃ cell ∈ CellNetwork.neuromodCells.lif restored, cell.decayRate = rate.toF32 := by
  have hhalf := SidecarDocument.halves_valid.finite _ List.mem_cons_self
  have hvalid : ValidSidecar .quiet (.decaying rate) := by
    refine ⟨nofun, SidecarDocument.halves_valid.source, SidecarDocument.halves_valid.q88,
      SidecarDocument.halves_valid.encoder, ?_, rfl, ⟨2, by decide, ?_, rfl⟩, ?_,
      ⟨_, List.mem_cons_self, _, List.mem_cons_self, by decide +kernel⟩⟩
    · intro neuron hneuron
      rw [List.eq_of_mem_replicate hneuron]
    · intro neuron hneuron
      rw [List.eq_of_mem_replicate hneuron]
      rfl
    · intro neuron hneuron
      rw [List.eq_of_mem_replicate hneuron]
      exact ⟨requireFiniteUnitInterval_eq_ok.1 hchecked, hhalf.membranePotential, hhalf.threshold,
        hhalf.weights⟩
  have hhub : HubAgrees .unused .empty (.parse "snn_model.json") (.decaying rate) := by
    intro _ h
    rw [findHubConfig_empty] at h
    cases h
  obtain ⟨restored, hrestored, hlif, -⟩ :=
    restoreSpikingNetwork_spec CellNetwork.neuromodCells_lawful hvalid.count
  refine ⟨restored, Except.seq_eq_ok.2 ⟨validateLiveDocument_iff.2 ⟨hvalid, hhub⟩, hrestored⟩, ?_⟩
  rw [hlif]
  exact ⟨_, List.mem_cons_self, rfl⟩

/-- A rate one step of a double below one passes the check and is restored as one, the least
positive double as zero. -/
theorem decay_rate_restored_outside :
    F64.binary64 (1 - 1 / 2 ^ 53) = 1 - 1 / 2 ^ 53 ∧
    (∃ restored, restoreDocument CellNetwork.neuromod CellNetwork.neuromodCells .unused .empty
        .quiet (.decaying (.finite (1 - 1 / 2 ^ 53))) (.parse "snn_model.json") = .ok restored ∧
      ∃ cell ∈ CellNetwork.neuromodCells.lif restored,
        cell.decayRate = .one ∧ ¬cell.decayRate.InUnit) ∧
    F64.binary64 (1 / 2 ^ 1074) = 1 / 2 ^ 1074 ∧
    ∃ restored, restoreDocument CellNetwork.neuromod CellNetwork.neuromodCells .unused .empty
        .quiet (.decaying (.finite (1 / 2 ^ 1074))) (.parse "snn_model.json") = .ok restored ∧
      ∃ cell ∈ CellNetwork.neuromodCells.lif restored,
        cell.decayRate = 0 ∧ ¬cell.decayRate.InUnit := by
  have hhigh : requireFiniteUnitInterval .unused (.finite (1 - 1 / 2 ^ 53)) "" = .ok () := by
    rw [requireFiniteUnitInterval_eq_ok]
    decide +kernel
  have hlow : requireFiniteUnitInterval .unused (.finite (1 / 2 ^ 1074)) "" = .ok () := by
    rw [requireFiniteUnitInterval_eq_ok]
    decide +kernel
  have hone : (F64.finite (1 - 1 / 2 ^ 53)).toF32 = .one := by decide +kernel
  have hzero : (F64.finite (1 / 2 ^ 1074)).toF32 = 0 := by decide +kernel
  obtain ⟨high, hhighOk, top, htop, htopRate⟩ := restoreDocument_decaying hhigh
  obtain ⟨low, hlowOk, bottom, hbottom, hbottomRate⟩ := restoreDocument_decaying hlow
  rw [hone] at htopRate
  rw [hzero] at hbottomRate
  refine ⟨by decide +kernel, ⟨high, hhighOk, top, htop, htopRate, ?_⟩, by decide +kernel,
    low, hlowOk, bottom, hbottom, hbottomRate, ?_⟩
  · rw [htopRate]
    decide
  · rw [hbottomRate]
    decide

theorem decay_rate_restored_iff_half :
    ∃ restored, restoreDocument CellNetwork.neuromod CellNetwork.neuromodCells .unused .empty .quiet
        (.decaying (.finite (1 / 2))) (.parse "snn_model.json") = .ok restored ∧
      ∀ cell ∈ CellNetwork.neuromodCells.lif restored, cell.decayRate.InUnit := by
  have hchecked : requireFiniteUnitInterval .unused (.finite (1 / 2)) "" = .ok () := by
    rw [requireFiniteUnitInterval_eq_ok]
    decide +kernel
  obtain ⟨restored, hrestored, -⟩ := restoreDocument_decaying hchecked
  refine ⟨restored, hrestored, ((decay_rate_restored_iff CellNetwork.neuromodCells_lawful).2 _ _ _ _
    hrestored).2 ?_⟩
  intro neuron hneuron
  rw [List.eq_of_mem_replicate hneuron]
  constructor <;> decide +kernel

end Brainstem.Checkpoint
