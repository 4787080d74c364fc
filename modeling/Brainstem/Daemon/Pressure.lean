import Brainstem.Daemon.Effects
import Brainstem.Daemon.Entry
import Brainstem.Ingress.Lone

/-!
# Which saturation is reported

The pressure that a tick reports is sampled after its own admission and drain.  So a tick
that starts above the overload mark reports it exactly if what is *left* in the queues still
is above the mark (class by class: `sampled`), and with nobody else around
that is one packet less in two classes and nothing in the other two (`leftBehind`).
-/

namespace Brainstem.Daemon

open Brainstem.Health
open Brainstem.Ingress hiding Instant

variable {Network Entropy : Type} {nm : Neuromod Network Entropy} {fl : ℚ → ℚ}

/-- The capacity of the four classes together. -/
def aggregateCapacity (s : BoundedIngress) : ℕ :=
  (MessageClass.ALL.map s.config.effectiveCapacity).sum

def aggregateDepth (s : BoundedIngress) : ℕ :=
  (MessageClass.ALL.map fun c => (s.queues c).items.length).sum

/-- The aggregate fill is at the overload mark or above it. -/
def Saturated (fl : ℚ → ℚ) (d : TickLoop Network) : Prop :=
  d.health.limits.overloadHigh.le
    (F64.ratio fl (aggregateDepth d.ingress) (aggregateCapacity d.ingress)) = true

/-- A snapshot reports the overload; a fatal state hides all other reasons. -/
def ReportsOverload (snap : HealthSnapshot) : Prop :=
  snap.queuePressure.overloaded = true ∧ (snap.fatal = none → ReasonCode.overload ∈ snap.reasons)

/-- How deep the queue of `c` is when the tick samples it. -/
def sampled (d : TickLoop Network) (input : TickInput Entropy) (c : MessageClass) : ℕ :=
  let admitted := d.ingress.runSteps (accountAndAdmit d input).2
  let afterDrain := admitted.runSteps (admitted.drainForTick input.others).1
  ((afterDrain.readMetrics input.others).2 c).depth

/-- With `left` packets of each class, the mark that counts is still reached: the high one, or
the low one once overloaded. -/
def StaysSaturated (fl : ℚ → ℚ) (d : TickLoop Network) (left : MessageClass → ℕ) : Prop :=
  nextOverload fl d.health.overloaded (MessageClass.ALL.map left).sum
    (aggregateCapacity d.ingress) d.health.limits.overloadHigh d.health.limits.overloadLow = true

/-! ## With nobody else around -/

/-- The backend has something for class `c`, small enough. -/
def TickInput.offers (input : TickInput Entropy) (cfg : IngressConfig) (c : MessageClass) : Bool :=
  input.backendPacket.any fun packet =>
    (firstNonFinite packet).isNone &&
    match c with
    | .sensory => !packet.stimuli.isEmpty && decide (packet.stimuli.length ≤ cfg.maxPayloadLen)
    | .reward =>
      packet.modulators.any fun m => !m.isEmpty && decide (m.length ≤ cfg.maxPayloadLen)
    | .control | .telemetry => false

/-- What a tick leaves in the queue of `c`: the backend may add one packet if there is room, and
the drain takes one, or all. -/
def leftBehind (s : BoundedIngress) (input : TickInput Entropy) (c : MessageClass) : ℕ :=
  match c with
  | .control | .telemetry => 0
  | .sensory | .reward =>
    (if s.accepting c && input.offers s.config c then
        min ((s.queues c).items.length + 1) (s.config.effectiveCapacity c)
      else (s.queues c).items.length) - 1

theorem payloadTooLarge_sensory (bq : BoundedQueue) (packet : IngressPacket) :
    (!bq.payloadTooLarge { packet with modulators := none }) =
      decide (packet.stimuli.length ≤ bq.maxPayloadLen) := by
  simp [BoundedQueue.payloadTooLarge, ← decide_not]

theorem payloadTooLarge_reward (bq : BoundedQueue) (mods : List F32) :
    (!bq.payloadTooLarge { IngressPacket.default with modulators := some mods }) =
      decide (mods.length ≤ bq.maxPayloadLen) := by
  simp [BoundedQueue.payloadTooLarge, IngressPacket.default, ← decide_not]

/-- The depth of a class after the admission. -/
theorem admitted_depth {d : TickLoop Network} {input : TickInput Entropy} (hf : d.ingress.Fits)
    (h : input.others = nobody) (c : MessageClass) :
    ((d.ingress.runSteps (accountAndAdmit d input).2).queues c).items.length =
      if d.ingress.accepting c && input.offers d.ingress.config c then
        min ((d.ingress.queues c).items.length + 1) (d.ingress.config.effectiveCapacity c)
      else (d.ingress.queues c).items.length := by
  rw [accountAndAdmit_steps, h]
  unfold TickInput.offers
  cases hb : input.backendPacket with
  | none => simp
  | some packet =>
    cases hfin : firstNonFinite packet with
    | some offender => simp [Option.filter, hfin]
    | none =>
      have hfilter : (some packet).filter (fun p => (firstNonFinite p).isNone) = some packet := by
        simp [Option.filter, hfin]
      rw [hfilter]
      simp only [Option.any_some, hfin, Option.isNone_none, Bool.true_and]
      rw [(BoundedIngress.admitBackendPacket_nobody d.ingress packet).1 c]
      have hdepth := BoundedIngress.pushInto_depth hf c
      cases c with
      | sensory =>
        unfold BoundedIngress.partOf
        cases hstim : packet.stimuli.isEmpty with
        | true => simp
        | false =>
          simp only [Bool.false_eq_true, if_false, Option.map_some, Option.getD_some, hdepth,
            payloadTooLarge_sensory, Bool.not_false, Bool.true_and]
          rfl
      | reward =>
        unfold BoundedIngress.partOf
        cases hmods : packet.modulators with
        | none => simp
        | some mods =>
          cases hne : mods.isEmpty with
          | true => simp [Option.filter, hne]
          | false =>
            simp only [Option.filter, hne, Bool.not_false, if_true, Option.map_some,
              Option.getD_some, hdepth, payloadTooLarge_reward, Option.any_some, Bool.true_and]
            rfl
      | control => simp [BoundedIngress.partOf]
      | telemetry => simp [BoundedIngress.partOf]

theorem sampled_lone {d : TickLoop Network} {input : TickInput Entropy} (hf : d.ingress.Fits)
    (h : input.others = nobody) (c : MessageClass) :
    sampled d input c = leftBehind d.ingress input c := by
  have hdepth := admitted_depth hf h c
  unfold sampled leftBehind
  simp only [h, BoundedIngress.readMetrics_nobody, QueueState.metrics,
    BoundedIngress.drainForTick_nobody_queues]
  cases c with
  | control => rfl
  | telemetry => rfl
  | sensory =>
    simp only [BoundedIngress.drained, BoundedQueue.pop, List.length_tail, hdepth]
  | reward =>
    simp only [BoundedIngress.drained, BoundedQueue.pop, List.length_tail, hdepth]

/-! ## Runs -/

theorem reportsOverload_iff (fl : ℚ → ℚ) (m : HealthMachine) (now : Instant) :
    ReportsOverload (m.snapshot fl now) ↔ m.overloaded = true := by
  constructor
  · exact And.left
  · intro h
    refine ⟨h, fun hfatal => ?_⟩
    have hnone : m.fatal = none := hfatal
    show ReasonCode.overload ∈ m.reasons (m.computeStale now)
    unfold HealthMachine.reasons HealthMachine.pushRuntimeReasons
    simp [hnone, h]

theorem tick_reports (nm : Neuromod Network Entropy) (fl : ℚ → ℚ) (d : TickLoop Network)
    (input : TickInput Entropy) (now : Instant) :
    ReportsOverload ((runTickPublished nm fl d input).2.health.snapshot fl now) ↔
      StaysSaturated fl d (sampled d input) := by
  have hover := (runTick_health nm fl d input).overloaded
  have hpressure : reportedPressure d input =
      ((MessageClass.ALL.map (sampled d input)).sum, aggregateCapacity d.ingress) := by
    unfold reportedPressure queuePressure aggregateCapacity
    simp only [BoundedIngress.runSteps_config]
    rfl
  rw [hpressure] at hover
  rw [reportsOverload_iff]
  show (runTick nm fl d input).2.health.overloaded = true ↔ _
  rw [hover]
  exact Iff.rfl

/-- **A tick that starts saturated reports it exactly if what it leaves behind still is
saturated**, in every run: `sampled` with other threads around, `leftBehind` without. -/
theorem saturation_reported_iff {net : NetParsers} {cfg : DaemonConfig} {d₀ d : TickLoop Network}
    (h0 : Enters nm net fl cfg d₀) {trace : List (Label Entropy × TickLoop Network)}
    (hr : Run (TickLoop.step nm fl) d₀ trace d) :
    Run.Each (fun d l d' => ∀ input t now, l = .ticked input t →
      ((Saturated fl d → ReportsOverload (d'.health.snapshot fl now)) ↔
        (Saturated fl d → StaysSaturated fl d (sampled d input))) ∧
      (input.others = nobody →
        ((Saturated fl d → ReportsOverload (d'.health.snapshot fl now)) ↔
          (Saturated fl d → StaysSaturated fl d (leftBehind d.ingress input)))))
      d₀ trace := by
  refine (Run.each (I := fun d => d.ingress.Fits) (BoundedIngress.Fits.new h0.ingress_new) ?_ ?_ hr).2
  · intro d a l d' hf hs
    cases steps_of_step hs with
    | other st => exact hf.perform st
    | ticked input => exact hf.runSteps _
  · intro d a l d' hf hs input t now hl
    cases steps_of_step hs with
    | other st => cases hl
    | ticked _ =>
      cases hl
      have hreports := tick_reports nm fl d input now
      refine ⟨imp_congr_right fun _ => hreports, fun hlone => imp_congr_right fun _ => ?_⟩
      have hleft : sampled d input = leftBehind d.ingress input := funext (sampled_lone hf hlone)
      rw [hreports, hleft]

/-- Other threads can go on with any run. -/
theorem run_others {d₀ d : TickLoop Network} {trace : List (Label Entropy × TickLoop Network)}
    (hr : Run (TickLoop.step nm fl) d₀ trace d) (sts : List BoundedIngress.Step) :
    ∃ trace' : List (Label Entropy × TickLoop Network),
      Run (TickLoop.step nm fl) d₀ trace' { d with ingress := d.ingress.runSteps sts } := by
  induction sts generalizing d trace with
  | nil => exact ⟨trace, hr⟩
  | cons st sts ih => exact ih (hr.snoc (.other st) rfl)

/-- Enough pushes to fill the tiny queues. -/
def fillTiny : List BoundedIngress.Step :=
  let push := fun c => BoundedIngress.Step.push c .default none 0
  [push .sensory, push .sensory, push .reward, push .control, push .control, push .control,
    push .control, push .telemetry, push .telemetry]

def saturated : TickLoop (ℕ × ℕ × ℕ) :=
  { TickLoop.quiet F64.binary64 with
    ingress := (TickLoop.quiet F64.binary64).ingress.runSteps fillTiny }

/-- The snapshot after a tick that starts with all four queues full. -/
def saturatedSnapshot : HealthSnapshot :=
  (runTickPublished .quiet F64.binary64 saturated .idle).2.health.snapshot F64.binary64 0

/-- All four queues are full when the tick starts, nine packets of nine, and the snapshot after
it shows one packet of nine and no overload. -/
theorem saturation_not_reported :
    Enters .quiet .any F64.binary64 .quiet (TickLoop.quiet F64.binary64) ∧
    (∃ trace : List (Label Unit × TickLoop (ℕ × ℕ × ℕ)),
      Run (TickLoop.step .quiet F64.binary64) (TickLoop.quiet F64.binary64) trace saturated) ∧
    (∀ c, (saturated.ingress.queues c).items.length = saturated.ingress.config.effectiveCapacity c) ∧
    Saturated F64.binary64 saturated ∧
    saturatedSnapshot.queuePressure.depth = 1 ∧ saturatedSnapshot.queuePressure.capacity = 9 ∧
    ¬ReportsOverload saturatedSnapshot := by
  refine ⟨TickLoop.enters_quiet _, run_others .refl _, ?_, ?_, rfl, rfl, ?_⟩
  · intro c
    cases c <;> rfl
  · show F64.le _ _ = true
    decide +kernel
  · have hover : (runTickPublished .quiet F64.binary64 saturated .idle).2.health.overloaded = false := by
      decide +kernel
    unfold saturatedSnapshot
    rw [reportsOverload_iff, hover]
    simp

/-- There the condition is about the one packet that is left. -/
theorem saturation_reported_iff_full :
    (Saturated F64.binary64 saturated → ReportsOverload saturatedSnapshot) ↔
      (Saturated F64.binary64 saturated →
        StaysSaturated F64.binary64 saturated (leftBehind saturated.ingress TickInput.idle)) := by
  have hrefl : Run (TickLoop.step .quiet F64.binary64) (TickLoop.quiet F64.binary64)
      ([] : List (Label Unit × _)) (TickLoop.quiet F64.binary64) := .refl
  obtain ⟨trace, hr⟩ := run_others hrefl fillTiny
  have heach := saturation_reported_iff (TickLoop.enters_quiet F64.binary64)
    (hr.snoc (.tick .idle) rfl)
  rw [Run.each_concat, Run.last_eq hr] at heach
  exact (heach.2 .idle _ 0 rfl).2 rfl

end Brainstem.Daemon
