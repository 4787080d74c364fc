import Brainstem.Daemon.Tick
import Brainstem.Lib.Run

/-!
# What a tick does

The ways through the second half of a tick as equations, and the effect of a whole tick on
the health machine, field by field (`HealthEffect`).  Later modules use these and do not
unfold the tick.
-/

namespace Brainstem.Daemon

open Brainstem.Health
open Brainstem.Ingress hiding Instant

variable {Network Entropy : Type} (nm : Neuromod Network Entropy) (fl : ℚ → ℚ)

/-! ## The first half of a tick -/

/-- The backend packet of an input, whatever becomes of it. -/
def TickInput.backendPacket (input : TickInput Entropy) : Option IngressPacket :=
  match input.received with
  | .error _ => none
  | .ok packet => packet

/-- What comes through the first gate. -/
theorem intake_packet (input : TickInput Entropy) (stats : RuntimeStats)
    (diagnostics : TickDiagnostics) :
    (gateBackend input (receive input stats diagnostics)).packet =
      input.backendPacket.filter fun packet => (backendNonFinite packet).isNone := by
  unfold gateBackend receive TickInput.backendPacket
  cases input.received with
  | error e => rfl
  | ok packet =>
    cases packet with
    | none => rfl
    | some packet =>
      simp only [Option.bind_some]
      cases h : backendNonFinite packet <;> simp [Option.filter, h]

/-- A packet is admitted if all its values are finite, flagged as rejected or not. -/
theorem accountAndAdmit_steps (d : TickLoop Network) (input : TickInput Entropy) :
    (accountAndAdmit d input).2 =
      match input.backendPacket.filter fun packet => (firstNonFinite packet).isNone with
      | some packet => d.ingress.admitBackendPacket input.others packet
      | none => [] := by
  have hpacket : (takeIn d input).packet = _ := intake_packet input d.stats d.diagnostics
  unfold accountAndAdmit
  simp only [hpacket]
  cases input.backendPacket with
  | none => rfl
  | some packet =>
    unfold backendNonFinite
    cases hr : packet.rejected <;> cases hf : firstNonFinite packet <;>
      simp [Option.filter, accountAndAdmitBackendPacket, hr, hf]

/-! ## The second half of a tick -/

variable (d : TickLoop Network) (input : TickInput Entropy) (packet : IngressPacket)
  (stats : RuntimeStats) (diagnostics : TickDiagnostics)

theorem publishSpikes_call (call : StepCall) (network : Network) (ids : List ℕ) :
    let a := publishSpikes input call network ids stats diagnostics
    a.stepped = some call ∧ a.network = network ∧ a.stimuli = call.stimuli := by
  unfold publishSpikes
  simp only
  split
  · exact ⟨rfl, rfl, rfl⟩
  · split <;> exact ⟨rfl, rfl, rfl⟩

/-- The three ways out of the emission: nothing is left to publish, the sink takes the batch, the
sink fails. -/
theorem publishSpikes_cases (call : StepCall) (network : Network) (ids : List ℕ) :
    let spikes := collectSpikes (input.sinceEpoch / 1000000 % 2 ^ 64) ids
    let r := recordDropped input spikes.2 { stats with ticks := wrappingAdd stats.ticks 1 } diagnostics
    let a := publishSpikes input call network ids stats diagnostics
    (spikes.1.isEmpty && !ids.isEmpty) = true ∧ a.emitted = none ∧ a.stats = r.1 ∧
      a.event = .tickSucceeded ∨
    (spikes.1.isEmpty && !ids.isEmpty) = false ∧
      a.emitted = some ⟨spikes.1, input.sinceEpoch, input.sink⟩ ∧
      (input.sink = .ok () ∧ a.stats = r.1 ∧ a.event = .tickSucceeded ∨
        ∃ e, input.sink = .error e ∧ a.stats = (recordEmitError input e r.1 r.2).1 ∧
          a.event = .fatal .unspecified e) := by
  intro spikes r a
  unfold a publishSpikes
  dsimp only
  split
  · next hempty => exact .inl ⟨hempty, rfl, rfl, rfl⟩
  · next hempty =>
    have hkept : (spikes.1.isEmpty && !ids.isEmpty) = false := Bool.eq_false_iff.2 hempty
    split
    · next e hsink => exact .inr ⟨hkept, by rw [hsink], .inr ⟨e, hsink, rfl, rfl⟩⟩
    · next hsink => exact .inr ⟨hkept, by rw [hsink], .inl ⟨hsink, rfl, rfl⟩⟩

theorem advance_eq_refused {offender : NonFiniteInput} (h : firstNonFinite packet = some offender) :
    advance nm d input packet stats diagnostics =
      let r := recordNonFiniteRejection (input.clock .drainedGate) stats diagnostics
      ⟨d.network, d.stimuli, d.spikeBuf, r.1, r.2, none, none, .tickSucceeded⟩ := by
  unfold advance
  rw [h]

theorem advance_eq_stepped (h : firstNonFinite packet = none) :
    advance nm d input packet stats diagnostics =
      let decoded := decodeInputs nm packet d.stimuli
      let r := nm.step d.network input.entropy decoded.2 decoded.1
      let call : StepCall := ⟨decoded.2, decoded.1, r.1⟩
      match r.1 with
      | .error e =>
        ⟨r.2, decoded.2, d.spikeBuf, stats, diagnostics, some call, none, .fatal .unspecified e⟩
      | .ok ids => publishSpikes input call r.2 ids stats diagnostics := by
  unfold advance
  cases hgate : firstNonFinite packet with
  | some offender => simp [h] at hgate
  | none => rfl

/-- The three ways out of the second half: the gate refuses, the step fails, the step returns. -/
theorem advance_cases :
    let a := advance nm d input packet stats diagnostics
    let decoded := decodeInputs nm packet d.stimuli
    let r := nm.step d.network input.entropy decoded.2 decoded.1
    (∃ offender, firstNonFinite packet = some offender ∧
      a = ⟨d.network, d.stimuli, d.spikeBuf,
        (recordNonFiniteRejection (input.clock .drainedGate) stats diagnostics).1,
        (recordNonFiniteRejection (input.clock .drainedGate) stats diagnostics).2,
        none, none, .tickSucceeded⟩) ∨
    firstNonFinite packet = none ∧
      ((∃ e, r.1 = .error e ∧
        a = ⟨r.2, decoded.2, d.spikeBuf, stats, diagnostics,
          some ⟨decoded.2, decoded.1, .error e⟩, none, .fatal .unspecified e⟩) ∨
      ∃ ids, r.1 = .ok ids ∧
        a = publishSpikes input ⟨decoded.2, decoded.1, .ok ids⟩ r.2 ids stats diagnostics) := by
  intro a decoded r
  cases h : firstNonFinite packet with
  | some offender => exact .inl ⟨offender, rfl, advance_eq_refused nm d input packet stats diagnostics h⟩
  | none =>
    refine .inr ⟨rfl, ?_⟩
    have ha : a = _ := advance_eq_stepped nm d input packet stats diagnostics h
    dsimp only at ha
    split at ha
    · next e hr =>
      rw [hr] at ha
      exact .inl ⟨e, hr, ha⟩
    · next ids hr =>
      rw [hr] at ha
      exact .inr ⟨ids, hr, ha⟩

/-- A packet that passes the gate is stepped with what it decodes to. -/
theorem advance_stepped (h : firstNonFinite packet = none) :
    let a := advance nm d input packet stats diagnostics
    let decoded := decodeInputs nm packet d.stimuli
    let r := nm.step d.network input.entropy decoded.2 decoded.1
    a.stepped = some ⟨decoded.2, decoded.1, r.1⟩ ∧ a.network = r.2 ∧ a.stimuli = decoded.2 := by
  intro a decoded r
  rcases advance_cases nm d input packet stats diagnostics with
    ⟨offender, hrefused, -⟩ | ⟨-, ⟨e, hr, ha⟩ | ⟨ids, hr, ha⟩⟩
  · rw [h] at hrefused
    cases hrefused
  · rw [show a = _ from ha, show r.1 = _ from hr]
    exact ⟨rfl, rfl, rfl⟩
  · rw [show a = _ from ha, show r.1 = _ from hr]
    exact publishSpikes_call input stats diagnostics _ _ _

theorem advance_event : (advance nm d input packet stats diagnostics).event = .tickSucceeded ∨
    ∃ e, (advance nm d input packet stats diagnostics).event = .fatal .unspecified e := by
  rcases advance_cases nm d input packet stats diagnostics with
    ⟨offender, -, ha⟩ | ⟨-, ⟨e, -, ha⟩ | ⟨ids, -, ha⟩⟩
  · rw [ha]
    exact .inl rfl
  · rw [ha]
    exact .inr ⟨e, rfl⟩
  · rw [ha]
    rcases publishSpikes_cases input stats diagnostics _ _ ids with
      ⟨-, -, -, hevent⟩ | ⟨-, -, ⟨-, -, hevent⟩ | ⟨e, -, -, hevent⟩⟩
    · exact .inl hevent
    · exact .inl hevent
    · exact .inr ⟨e, hevent⟩

/-! ## The health machine after a tick -/

/-- What the tick reports of the queues. -/
def reportedPressure (d : TickLoop Network) (input : TickInput Entropy) : ℕ × ℕ :=
  let admitted := d.ingress.runSteps (accountAndAdmit d input).2
  (queuePressure input.others (admitted.runSteps (admitted.drainForTick input.others).1)).2

/-- What a tick makes of the machine: a fatal error takes the checkpoint away, a backend packet
with input is observed, the pressure goes through the hysteresis. -/
structure HealthEffect (fl : ℚ → ℚ) (observed : Option Instant) (pressure : ℕ × ℕ)
    (m m' : HealthMachine) : Prop where
  limits : m'.limits = m.limits
  initialized : m'.initialized = m.initialized
  checkpoint : (m'.checkpointOk = m.checkpointOk ∧ m'.fatal = m.fatal) ∨
    (m'.checkpointOk = false ∧ m'.fatal.isSome = true)
  checkpointAt : m'.checkpointAt = m.checkpointAt
  fatal : m.fatal.isSome = true → m'.fatal = m.fatal
  lastIngress : m'.lastIngress = observed.or m.lastIngress
  overloaded : m'.overloaded = nextOverload fl m.overloaded pressure.1 pressure.2
    m.limits.overloadHigh m.limits.overloadLow
  counters : m'.counters = m.counters

/-- The first fatal state stays. -/
theorem HealthEffect.enterFatal {fl : ℚ → ℚ} {observed : Option Instant} {pressure : ℕ × ℕ}
    {m m' : HealthMachine} (h : HealthEffect fl observed pressure m m') (code : FatalCode)
    (detail : String) : HealthEffect fl observed pressure m (m'.enterFatal code detail) := by
  unfold HealthMachine.enterFatal
  split
  · exact h
  · next hf =>
    refine { h with checkpoint := .inr ⟨rfl, rfl⟩, fatal := fun hm => ?_ }
    rw [h.fatal hm] at hf
    exact absurd hm hf

theorem runTick_health (d : TickLoop Network) (input : TickInput Entropy) :
    HealthEffect fl
      (if (takeIn d input).packet.any observesIngress then some (input.clock .observed) else none)
      (reportedPressure d input) d.health (runTick nm fl d input).2.health := by
  let a := advance nm d input (ingest d input).packet (ingest d input).stats
    (ingest d input).diagnostics
  let before := d.health.run fl (ingest d input).events
  have hhealth : (runTick nm fl d input).2.health = before.apply fl a.event (input.clock .outcome) :=
    HealthMachine.run_concat fl d.health _ _
  have hbefore : before = { d.health with
      lastIngress :=
        (if (takeIn d input).packet.any observesIngress then some (input.clock .observed)
          else none).or d.health.lastIngress
      queueDepth := (reportedPressure d input).1
      queueCapacity := (reportedPressure d input).2
      overloaded := nextOverload fl d.health.overloaded (reportedPressure d input).1
        (reportedPressure d input).2 d.health.limits.overloadHigh d.health.limits.overloadLow } := by
    show HealthMachine.run fl d.health (observed d input ++ _) = _
    rw [HealthMachine.run_concat]
    unfold observed
    split <;> rfl
  have heffect : HealthEffect fl
      (if (takeIn d input).packet.any observesIngress then some (input.clock .observed) else none)
      (reportedPressure d input) d.health before := by
    rw [hbefore]
    exact ⟨rfl, rfl, .inl ⟨rfl, rfl⟩, rfl, fun _ => rfl, rfl, rfl, rfl⟩
  rw [hhealth]
  rcases advance_event nm d input (ingest d input).packet (ingest d input).stats
    (ingest d input).diagnostics with h | ⟨e, h⟩
  · rw [show a.event = .tickSucceeded from h]
    exact { heffect with }
  · rw [show a.event = .fatal .unspecified e from h]
    exact heffect.enterFatal .unspecified e

end Brainstem.Daemon
