import Brainstem.Daemon.Accounting

/-!
# No spike is lost

The loop over the returned neuron ids keeps those that fit `u16`, in order and with
multiplicity, and counts the others.  `validate` bounds the number of neurons and
`validate_restored_pair` compares it with the network, once, at the boot; a network that
numbers its neurons from zero then never returns an id that has to be dropped.

    e.spikes.map channel = ids        dropped_spikes = 0                      (no_spike_lost)
-/

namespace Brainstem.Daemon

open Brainstem.Health
open Brainstem.Ingress hiding Instant

variable {Network Entropy : Type} {nm : Neuromod Network Entropy} {fl : ℚ → ℚ}

/-- What becomes of the ids that a step returned, with the dropped spikes before and after. -/
structure Emission (sinceEpoch : Duration) (ids : List ℕ) (emitted : Option EmitCall)
    (dropped dropped' : ℕ) : Prop where
  batch : ∀ e, emitted = some e →
    e.batchTime = sinceEpoch ∧ e.spikes.map (·.channel) = ids.filter fun idx => idx < U16_BOUND
  times : ∀ e, emitted = some e → ∀ s ∈ e.spikes, s.time = e.batchTime / 1000000 % 2 ^ 32
  skipped : emitted = none ↔ ids ≠ [] ∧ (ids.filter fun idx => idx < U16_BOUND) = []
  /-- the counter is a `u64` and stays at its bound -/
  counted : dropped < 2 ^ 64 →
    dropped' = saturatingAdd dropped (ids.filter fun idx => U16_BOUND ≤ idx).length

/-- Below its bound the counter counts every id that did not fit. -/
theorem Emission.counted_exact {sinceEpoch : Duration} {ids : List ℕ} {emitted : Option EmitCall}
    {dropped dropped' : ℕ} (h : Emission sinceEpoch ids emitted dropped dropped')
    (hlt : dropped + (ids.filter fun idx => U16_BOUND ≤ idx).length < 2 ^ 64) :
    dropped' = dropped + (ids.filter fun idx => U16_BOUND ≤ idx).length := by
  rw [h.counted (by omega)]
  unfold saturatingAdd
  omega

/-! ## Up to the step -/

@[simp] theorem countDiagnostic_droppedSpikes (stats : RuntimeStats) (suppressed : Option ℕ) :
    (stats.countDiagnostic suppressed).droppedSpikes = stats.droppedSpikes := by
  cases suppressed <;> rfl

theorem recordNonFiniteRejection_droppedSpikes (now : Instant) (stats : RuntimeStats)
    (diagnostics : TickDiagnostics) :
    (recordNonFiniteRejection now stats diagnostics).1.droppedSpikes = stats.droppedSpikes := by
  unfold recordNonFiniteRejection
  rw [countDiagnostic_droppedSpikes]

theorem takeIn_droppedSpikes (d : TickLoop Network) (input : TickInput Entropy) :
    (takeIn d input).stats.droppedSpikes = d.stats.droppedSpikes := by
  have hreceive : (receive input d.stats d.diagnostics).stats.droppedSpikes =
      d.stats.droppedSpikes := by
    unfold receive
    split
    · rfl
    · exact countDiagnostic_droppedSpikes _ _
  unfold takeIn gateBackend
  split
  · exact (recordNonFiniteRejection_droppedSpikes _ _ _).trans hreceive
  · exact hreceive

theorem ingest_droppedSpikes (d : TickLoop Network) (input : TickInput Entropy) :
    (ingest d input).stats.droppedSpikes = d.stats.droppedSpikes := by
  show (accountAndAdmit d input).1.droppedSpikes = d.stats.droppedSpikes
  rw [← takeIn_droppedSpikes d input]
  unfold accountAndAdmit accountAndAdmitBackendPacket
  dsimp only
  split
  · split
    · rfl
    · dsimp only
      split <;> rfl
  · rfl

/-! ## The step and the emission -/

section Advance

variable (d : TickLoop Network) (input : TickInput Entropy) (packet : IngressPacket)
  (stats : RuntimeStats) (diagnostics : TickDiagnostics)

/-- Either the step returned ids, and they are published, or nothing is. -/
theorem advance_publishes (nm : Neuromod Network Entropy) :
    let a := advance nm d input packet stats diagnostics
    (∃ x m ids, (nm.step d.network input.entropy x m).1 = .ok ids ∧
      a = publishSpikes input ⟨x, m, .ok ids⟩ (nm.step d.network input.entropy x m).2 ids stats
        diagnostics) ∨
    (a.stats.droppedSpikes = stats.droppedSpikes ∧
      (∀ x m ids, a.stepped ≠ some ⟨x, m, .ok ids⟩) ∧
      (a.network = d.network ∨ ∃ x m, a.network = (nm.step d.network input.entropy x m).2)) := by
  intro a
  rcases advance_cases nm d input packet stats diagnostics with
    ⟨offender, -, ha⟩ | ⟨-, ⟨e, hr, ha⟩ | ⟨ids, hr, ha⟩⟩
  · rw [show a = _ from ha]
    exact .inr ⟨recordNonFiniteRejection_droppedSpikes _ _ _, nofun, .inl rfl⟩
  · rw [show a = _ from ha]
    refine .inr ⟨rfl, ?_, .inr ⟨_, _, rfl⟩⟩
    intro x m ids hcall
    cases hcall
  · exact .inl ⟨_, _, ids, hr, ha⟩

theorem recordDropped_droppedSpikes (dropped : ℕ) (h : stats.droppedSpikes < 2 ^ 64) :
    (recordDropped input dropped stats diagnostics).1.droppedSpikes =
      saturatingAdd stats.droppedSpikes dropped := by
  unfold recordDropped
  split
  · exact countDiagnostic_droppedSpikes _ _
  · -- nothing is counted, and a `u64` cannot be past the bound
    show stats.droppedSpikes = min (stats.droppedSpikes + dropped) (2 ^ 64 - 1)
    omega

/-- The batch and the counter. -/
theorem publishSpikes_emitted (call : StepCall) (network : Network) (ids : List ℕ) :
    let spikes := collectSpikes (input.sinceEpoch / 1000000 % 2 ^ 64) ids
    let a := publishSpikes input call network ids stats diagnostics
    a.emitted = (if spikes.1.isEmpty && !ids.isEmpty then none
      else some ⟨spikes.1, input.sinceEpoch, input.sink⟩) ∧
    a.stats.droppedSpikes = (recordDropped input spikes.2
      { stats with ticks := wrappingAdd stats.ticks 1 } diagnostics).1.droppedSpikes := by
  intro spikes a
  rcases publishSpikes_cases input stats diagnostics call network ids with
    ⟨hempty, hemitted, hstats, -⟩ | ⟨hempty, hemitted, hsink⟩
  · exact ⟨hemitted.trans (if_pos hempty).symm, congrArg (·.droppedSpikes) hstats⟩
  · refine ⟨hemitted.trans (if_neg (Bool.eq_false_iff.1 hempty)).symm, ?_⟩
    rcases hsink with ⟨-, hstats, -⟩ | ⟨e, -, hstats, -⟩
    · exact congrArg (·.droppedSpikes) hstats
    · exact (congrArg (·.droppedSpikes) hstats).trans (countDiagnostic_droppedSpikes _ _)

theorem publishSpikes_emission (call : StepCall) (network : Network) (ids : List ℕ) :
    let a := publishSpikes input call network ids stats diagnostics
    Emission input.sinceEpoch ids a.emitted stats.droppedSpikes a.stats.droppedSpikes := by
  intro a
  obtain ⟨hemitted, hdropped⟩ := publishSpikes_emitted input stats diagnostics call network ids
  rw [collectSpikes_eq] at hemitted hdropped
  dsimp only at hemitted hdropped
  have hbatch : ∀ e, a.emitted = some e →
      e = ⟨(ids.filter fun idx => idx < U16_BOUND).map fun idx =>
        ⟨idx, input.sinceEpoch / 1000000 % 2 ^ 64 % 2 ^ 32, .one⟩, input.sinceEpoch, input.sink⟩ := by
    intro e he
    rw [hemitted] at he
    split at he
    · cases he
    · exact (Option.some.inj he).symm
  refine ⟨?_, ?_, ?_, ?_⟩
  · intro e he
    rw [hbatch e he]
    refine ⟨rfl, ?_⟩
    rw [List.map_map]
    exact List.map_id _
  · intro e he s hs
    rw [hbatch e he] at hs ⊢
    obtain ⟨idx, -, rfl⟩ := List.mem_map.1 hs
    exact Nat.mod_mod_of_dvd _ (by decide)
  · rw [hemitted, ite_eq_left_iff]
    simp only [reduceCtorEq, imp_false, not_not, Bool.and_eq_true, List.isEmpty_iff,
      List.map_eq_nil_iff, Bool.not_eq_true', List.isEmpty_eq_false_iff]
    exact and_comm
  · intro hlt
    rw [hdropped]
    exact recordDropped_droppedSpikes input _ diagnostics _ hlt

end Advance

/-! ## A tick -/

/-- A tick with a successful step emits and counts; any other tick leaves the counter alone. -/
theorem runTickPublished_cases (nm : Neuromod Network Entropy) (fl : ℚ → ℚ) (d : TickLoop Network)
    (input : TickInput Entropy) :
    let r := runTickPublished nm fl d input
    (∃ x m ids, (nm.step d.network input.entropy x m).1 = .ok ids ∧ r.1.spikeIds = some ids ∧
      Emission input.sinceEpoch ids r.1.emitted d.stats.droppedSpikes r.2.stats.droppedSpikes ∧
      r.2.network = (nm.step d.network input.entropy x m).2) ∨
    (r.1.spikeIds = none ∧ r.2.stats.droppedSpikes = d.stats.droppedSpikes ∧
      (r.2.network = d.network ∨ ∃ x m, r.2.network = (nm.step d.network input.entropy x m).2)) := by
  intro r
  let i := ingest d input
  let a := advance nm d input i.packet i.stats i.diagnostics
  have hstats : i.stats.droppedSpikes = d.stats.droppedSpikes := ingest_droppedSpikes d input
  show (∃ x m ids, _ ∧ _ ∧ Emission input.sinceEpoch ids a.emitted _ a.stats.droppedSpikes ∧
    a.network = _) ∨ (_ ∧ a.stats.droppedSpikes = _ ∧ (a.network = _ ∨ ∃ x m, a.network = _))
  rw [← hstats]
  rcases advance_publishes d input i.packet i.stats i.diagnostics nm with
    ⟨x, m, ids, hstep, ha⟩ | ⟨hdropped, hnone, hnetwork⟩
  · have hcall := publishSpikes_call input i.stats i.diagnostics ⟨x, m, .ok ids⟩
      (nm.step d.network input.entropy x m).2 ids
    have hemission := publishSpikes_emission input i.stats i.diagnostics ⟨x, m, .ok ids⟩
      (nm.step d.network input.entropy x m).2 ids
    dsimp only at hcall hemission
    rw [← ha] at hcall hemission
    exact .inl ⟨x, m, ids, hstep, TickTrace.spikeIds_eq_some.2 ⟨x, m, hcall.1⟩, hemission, hcall.2.1⟩
  · refine .inr ⟨?_, hdropped, hnetwork⟩
    apply Option.eq_none_iff_forall_ne_some.2
    intro ids hids
    obtain ⟨x, m, hs⟩ := TickTrace.spikeIds_eq_some.1 hids
    exact hnone x m ids hs

/-! ## Runs of a validated network -/

/-- The network returns ids of its own neurons, and no step adds or removes neurons. -/
structure Neuromod.Numbered (nm : Neuromod Network Entropy) : Prop where
  ids : ∀ n e x m ids, (nm.step n e x m).1 = .ok ids →
    ∀ idx ∈ ids, idx < nm.neurons n + nm.izNeurons n
  lengths : ∀ n e x m, nm.neurons (nm.step n e x m).2 = nm.neurons n ∧
    nm.izNeurons (nm.step n e x m).2 = nm.izNeurons n

/-- What a run keeps: every neuron has a `u16` number, and nothing has been dropped. -/
structure Narrow (nm : Neuromod Network Entropy) (d : TickLoop Network) : Prop where
  neurons : nm.neurons d.network + nm.izNeurons d.network ≤ 65535
  none_dropped : d.stats.droppedSpikes = 0

/-- A label whose step, if there was a successful one, was followed by one `emit` with one
event for each id. -/
def Label.Lossless (l : Label Entropy) : Prop :=
  ∀ input t ids, l = .ticked input t → t.spikeIds = some ids →
    ∃ e, t.emitted = some e ∧ e.spikes.map (·.channel) = ids

theorem le_of_validateDimensions {cfg : DaemonConfig} (h : validateDimensions cfg = .ok ()) :
    cfg.lifCount + cfg.izhCount ≤ 65535 := by
  by_contra hlt
  unfold validateDimensions at h
  dsimp only at h
  split at h
  · cases h
  · split at h
    · cases h
    · rw [if_pos (by omega)] at h
      cases h

theorem Emission.lossless {sinceEpoch : Duration} {ids : List ℕ} {emitted : Option EmitCall}
    {dropped dropped' : ℕ} (h : Emission sinceEpoch ids emitted dropped dropped')
    (hids : ∀ idx ∈ ids, idx < U16_BOUND) (h0 : dropped = 0) :
    dropped' = 0 ∧ ∃ e, emitted = some e ∧ e.spikes.map (·.channel) = ids := by
  have hkept : (ids.filter fun idx => idx < U16_BOUND) = ids :=
    List.filter_eq_self.2 fun idx hidx => decide_eq_true (hids idx hidx)
  have hlost : (ids.filter fun idx => U16_BOUND ≤ idx) = [] := by
    apply List.filter_eq_nil_iff.2
    intro idx hidx hle
    have hlt := hids idx hidx
    have hge := of_decide_eq_true hle
    omega
  refine ⟨?_, ?_⟩
  · have hlt : dropped + (ids.filter fun idx => U16_BOUND ≤ idx).length < 2 ^ 64 := by
      rw [hlost, h0]
      decide
    rw [h.counted_exact hlt, hlost, h0]
    rfl
  · cases he : emitted with
    | none =>
      obtain ⟨hne, hnil⟩ := h.skipped.1 he
      rw [hkept] at hnil
      exact absurd hnil hne
    | some e => exact ⟨e, rfl, by rw [(h.batch e he).2, hkept]⟩

/-- One step of the run. -/
theorem Narrow.step (hnm : nm.Numbered) {d d' : TickLoop Network} (h : Narrow nm d)
    {l : Label Entropy} (hs : Steps nm fl d l d') : Narrow nm d' ∧ l.Lossless := by
  cases hs with
  | other st =>
    refine ⟨⟨h.neurons, h.none_dropped⟩, ?_⟩
    intro input t ids hl
    cases hl
  | ticked input =>
    have hneurons : ∀ x m, nm.neurons (nm.step d.network input.entropy x m).2 +
        nm.izNeurons (nm.step d.network input.entropy x m).2 ≤ 65535 := by
      intro x m
      obtain ⟨hlif, hizh⟩ := hnm.lengths d.network input.entropy x m
      rw [hlif, hizh]
      exact h.neurons
    rcases runTickPublished_cases nm fl d input with
      ⟨x, m, ids, hstep, hids, hemission, hnetwork⟩ | ⟨hids, hdropped, hnetwork⟩
    · have hsmall : ∀ idx ∈ ids, idx < U16_BOUND := by
        intro idx hidx
        have hlt := hnm.ids _ _ _ _ _ hstep idx hidx
        have hle := h.neurons
        show idx < 65536
        omega
      obtain ⟨hzero, hemit⟩ := hemission.lossless hsmall h.none_dropped
      refine ⟨⟨?_, hzero⟩, ?_⟩
      · rw [hnetwork]
        exact hneurons x m
      · intro _ _ ids' hl hids'
        cases hl
        rw [hids] at hids'
        cases hids'
        exact hemit
    · refine ⟨⟨?_, hdropped.trans h.none_dropped⟩, ?_⟩
      · rcases hnetwork with hsame | ⟨x, m, hnetwork⟩
        · rw [hsame]
          exact h.neurons
        · rw [hnetwork]
          exact hneurons x m
      · intro _ _ ids' hl hids'
        cases hl
        rw [hids] at hids'
        cases hids'

theorem narrow_enter {net : NetParsers} {cfg : DaemonConfig} {network : Network}
    {provenance : ModelProvenance} (hcfg : cfg.validate net = .ok ())
    (hpair : validateRestoredPair nm cfg network provenance = .ok ()) (ingress : BoundedIngress)
    (health : HealthMachine) (loaded : Option ModelProvenance) :
    Narrow nm (.enter cfg ingress health network loaded) := by
  obtain ⟨hlif, hizh, -⟩ := dimensions_of_validateRestoredPair hpair
  unfold DaemonConfig.validate at hcfg
  rw [Except.seq_eq_ok, Except.seq_eq_ok] at hcfg
  have hle := le_of_validateDimensions hcfg.2.1
  rw [← hlif, ← hizh] at hle
  exact ⟨hle, rfl⟩

/-- **No spike is lost for a validated network.**  Whatever ids a step returns, those that fit
are emitted and the others are counted; and in every run of a network that the boot let
through, none has to be counted and every successful step is emitted whole. -/
theorem no_spike_lost (nm : Neuromod Network Entropy) (fl : ℚ → ℚ) :
    (∀ (d : TickLoop Network) (input : TickInput Entropy) (ids : List ℕ),
      (runTickPublished nm fl d input).1.spikeIds = some ids →
      Emission input.sinceEpoch ids (runTickPublished nm fl d input).1.emitted
        d.stats.droppedSpikes (runTickPublished nm fl d input).2.stats.droppedSpikes) ∧
    (nm.Numbered → ∀ (net : NetParsers) (cfg : DaemonConfig) (network : Network)
      (provenance : ModelProvenance), cfg.validate net = .ok () →
      validateRestoredPair nm cfg network provenance = .ok () →
      ∀ (ingress : BoundedIngress) (health : HealthMachine) (loaded : Option ModelProvenance)
        (trace : List (Label Entropy × TickLoop Network)) (d : TickLoop Network),
      Run (TickLoop.step nm fl) (.enter cfg ingress health network loaded) trace d →
      d.stats.droppedSpikes = 0 ∧
        Run.Each (fun _ l d' => d'.stats.droppedSpikes = 0 ∧ l.Lossless)
          (.enter cfg ingress health network loaded) trace) := by
  refine ⟨?_, ?_⟩
  · intro d input ids hids
    rcases runTickPublished_cases nm fl d input with
      ⟨x, m, ids', hstep, hids', hemission, hnetwork⟩ | ⟨hnone, -⟩
    · rw [hids] at hids'
      cases hids'
      exact hemission
    · rw [hids] at hnone
      cases hnone
  · intro hnm net cfg network provenance hcfg hpair ingress health loaded trace d hr
    have h0 := narrow_enter hcfg hpair ingress health loaded
    have hrun := Run.each (I := Narrow nm) h0
      (P := fun _ l d' => d'.stats.droppedSpikes = 0 ∧ l.Lossless) ?_ ?_ hr
    · exact ⟨hrun.1.none_dropped, hrun.2⟩
    · intro d a l d' h hs
      exact (h.step hnm (steps_of_step hs)).1
    · intro d a l d' h hs
      obtain ⟨hnarrow, hlossless⟩ := h.step hnm (steps_of_step hs)
      exact ⟨hnarrow.none_dropped, hlossless⟩

/-- A network in which the given neurons fire at every step, as far as it has them. -/
def Neuromod.firing (ids : List ℕ) : Neuromod (ℕ × ℕ × ℕ) Unit :=
  { Neuromod.quiet with step := fun n _ _ _ => (.ok (ids.filter (· < n.1 + n.2.1)), n) }

theorem Neuromod.firing_numbered (ids : List ℕ) : (Neuromod.firing ids).Numbered where
  ids := by
    intro n e x m fired h idx hidx
    cases h
    exact of_decide_eq_true (List.mem_filter.1 hidx).2
  lengths := fun _ _ _ _ => ⟨rfl, rfl⟩

/-- The quiet daemon with more neurons than `u16` has numbers. -/
def TickLoop.wide (stats : RuntimeStats) : TickLoop (ℕ × ℕ × ℕ) :=
  { TickLoop.quiet id with network := (65537, 0, 2), stats := stats }

/-- A counter that is set to its bound by hand: one more lost spike does not move it. -/
theorem dropped_spikes_saturates :
    let d := TickLoop.wide { RuntimeStats.default with droppedSpikes := 2 ^ 64 - 1 }
    let r := runTickPublished (.firing [65536]) id d .idle
    r.1.spikeIds = some [65536] ∧
      ([65536].filter fun idx => U16_BOUND ≤ idx).length = 1 ∧
      r.2.stats.droppedSpikes ≠ d.stats.droppedSpikes + 1 := by
  decide +kernel

/-- The wide network loses the one id that does not fit; the quiet one, which the boot lets
through, loses nothing. -/
theorem no_spike_lost_wide_and_quiet :
    (∃ e, (runTickPublished (.firing [7, 65536, 3]) id (.wide .default) .idle).1.emitted = some e ∧
      e.spikes.map (·.channel) = [7, 3]) ∧
    (runTickPublished (.firing [7, 65536, 3]) id (.wide .default) .idle).2.stats.droppedSpikes = 1 ∧
    ∃ e, (runTickPublished (.firing [1, 0, 1]) id (TickLoop.quiet id) .idle).1.emitted = some e ∧
      e.spikes.map (·.channel) = [1, 0, 1] := by
  let w := runTickPublished (.firing [7, 65536, 3]) id (.wide .default) .idle
  have hwide := (no_spike_lost (.firing [7, 65536, 3]) id).1 (.wide .default) .idle [7, 65536, 3]
    (by decide +kernel)
  have hsome : w.1.emitted.isSome = true := by decide +kernel
  obtain ⟨e, he⟩ := Option.isSome_iff_exists.1 hsome
  have hchannels : e.spikes.map (·.channel) = [7, 3] := by
    rw [(hwide.batch e he).2]
    decide
  have hcounted : w.2.stats.droppedSpikes = 1 := by
    rw [hwide.counted_exact (by decide)]
    decide
  let r := runTickPublished (.firing [1, 0, 1]) id (TickLoop.quiet id) .idle
  have hr : Run (TickLoop.step (.firing [1, 0, 1]) id) (TickLoop.quiet id) [(.ticked .idle r.1, r.2)]
      r.2 := .snoc (.tick .idle) .refl rfl
  let provenance : ModelProvenance :=
    ⟨SIMULATION_SCHEMA_ID, "<simulation>", "none", "simulation/blank", none, none, none⟩
  have hquiet := (no_spike_lost (.firing [1, 0, 1]) id).2 (Neuromod.firing_numbered _) .any .quiet
    (2, 0, 2) provenance rfl rfl _ _ none _ _ hr
  have hids : r.1.spikeIds = some [1, 0, 1] := by decide +kernel
  exact ⟨⟨e, he, hchannels⟩, hcounted, hquiet.2.1.2 .idle r.1 [1, 0, 1] rfl hids⟩

end Brainstem.Daemon
