import Brainstem.Daemon.Transparency

/-!
# A standard packet reaches the step

A backend packet is standard if it is finite, as wide as the network and has the four
modulators.  Validation makes room for its stimuli, `channels ≤ max_payload_len`; for its
modulators there is room if `NEUROMODULATOR_COUNT ≤ max_payload_len`.  Then, with nobody else
on the ingress and whatever the backend sent before, both parts are let in and the step of the
same tick gets them.
-/

namespace Brainstem.Daemon

open Brainstem.Health
open Brainstem.Ingress hiding Instant
open BoundedIngress BoundedQueue

variable {Network Entropy : Type} {nm : Neuromod Network Entropy} {fl : ℚ → ℚ}

def NEUROMODULATOR_COUNT : ℕ := 4

structure StandardPacket (channels : ℕ) (packet : IngressPacket) : Prop where
  finite : firstNonFinite packet = none
  stimuli : packet.stimuli.length = channels
  modulators : ∃ mods, packet.modulators = some mods ∧ mods.length = NEUROMODULATOR_COUNT

/-- One packet was let in, and none turned away or evicted. -/
structure LetIn (q q' : QueueState) : Prop where
  accepted : q'.accepted = q.accepted + 1
  rejected : q'.rejected = q.rejected
  shutdownRefused : q'.shutdownRefused = q.shutdownRefused
  dropped : q'.dropped = q.dropped
  coalesced : q'.coalesced = q.coalesced

/-- The step is given these stimuli, without the slots that the mask takes out, and these
modulators. -/
structure GivenTo (packet : IngressPacket) (call : StepCall) : Prop where
  stimuli : call.stimuli = (List.range packet.stimuli.length).map (slot packet)
  modulators : packet.modulators = some [call.modulators.dopamine, call.modulators.serotonin,
    call.modulators.acetylcholine, call.modulators.norepinephrine]

/-- Without a mask, or with one that takes out nothing, the stimuli are given as they are. -/
theorem GivenTo.unmasked {packet : IngressPacket} {call : StepCall} (h : GivenTo packet call)
    (hmask : ∀ mask ∈ packet.validMask, ∀ valid ∈ mask, valid = true) :
    call.stimuli = packet.stimuli := by
  rw [h.stimuli]
  apply List.ext_getElem?
  intro i
  by_cases hi : i < packet.stimuli.length
  · rw [List.getElem?_map, List.getElem?_range hi, List.getElem?_eq_getElem hi, Option.map_some]
    unfold slot
    rw [if_neg, List.getD_eq_getElem?_getD, List.getElem?_eq_getElem hi, Option.getD_some]
    rw [Option.any_eq_true]
    rintro ⟨mask, hmem, hfalse⟩
    cases hmask mask hmem false (List.mem_of_getElem? (by simpa using hfalse))
  · rw [List.getElem?_eq_none (by simpa using hi), List.getElem?_eq_none (by omega)]

/-! ## A standard packet -/

theorem StandardPacket.withinLimit {cfg : IngressConfig} {channels : ℕ} {packet : IngressPacket}
    (h : StandardPacket channels packet) (hchannels : channels ≤ cfg.maxPayloadLen)
    (hmax : NEUROMODULATOR_COUNT ≤ cfg.maxPayloadLen) : WithinLimit cfg packet := by
  obtain ⟨mods, hmods, hlen⟩ := h.modulators
  refine ⟨h.stimuli.le.trans hchannels, fun mods' hmods' => ?_⟩
  rw [hmods] at hmods'
  cases hmods'
  exact hlen.le.trans hmax

theorem StandardPacket.direct {channels : ℕ} {packet : IngressPacket} {input : TickInput Entropy}
    (h : StandardPacket channels packet) (hreceived : input.received = .ok (some packet)) :
    input.direct = packet := by
  have hbackend : input.backendPacket = some packet := by
    unfold TickInput.backendPacket
    rw [hreceived]
  unfold TickInput.direct
  rw [hbackend, Option.filter_some, if_pos (by rw [h.finite]; rfl), Option.getD_some]

/-- The queue of a class after the tick: its part of the packet was pushed, and popped. -/
theorem tick_queue (nm : Neuromod Network Entropy) (fl : ℚ → ℚ) {d : TickLoop Network}
    {input : TickInput Entropy} {packet part : IngressPacket} {c : MessageClass}
    (halone : input.others = nobody) (hreceived : input.received = .ok (some packet))
    (hfinite : firstNonFinite packet = none) (hpop : ∀ q, drained c q = (pop q).2)
    (hpart : partOf packet c = some part) :
    (runTick nm fl d input).2.ingress.queues c = (pop (d.ingress.pushInto c part)).2 := by
  have hbackend : input.backendPacket = some packet := by
    unfold TickInput.backendPacket
    rw [hreceived]
  rw [tick_ingress nm fl d halone, drainForTick_nobody_queues, hpop, accountAndAdmit_steps, hbackend,
    Option.filter_some, if_pos (by rw [hfinite]; rfl), halone]
  dsimp only
  rw [(admitBackendPacket_nobody d.ingress packet).1 c, hpart, Option.map_some, Option.getD_some]

/-- Both parts are let in, and the step of the tick is given the packet. -/
structure ReachesStep (packet : IngressPacket) (s s' : BoundedIngress) (t : TickTrace) : Prop where
  sensory : LetIn (s.queues .sensory) (s'.queues .sensory)
  reward : LetIn (s.queues .reward) (s'.queues .reward)
  stepped : ∃ call, t.stepped = some call ∧ GivenTo packet call

section Tick

variable {d : TickLoop Network} {input : TickInput Entropy} {packet : IngressPacket}
  (nm : Neuromod Network Entropy) (fl : ℚ → ℚ) (hs : Idle d.ingress .sensory)
  (hr : Idle d.ingress .reward) (halone : input.others = nobody)
  (hreceived : input.received = .ok (some packet)) (hpos : d.stimuli.length ≠ 0)
  (hstandard : StandardPacket d.stimuli.length packet)
  (hchannels : d.stimuli.length ≤ d.ingress.config.maxPayloadLen)
include hs hr halone hreceived hstandard hchannels

theorem tick_given (hmax : NEUROMODULATOR_COUNT ≤ d.ingress.config.maxPayloadLen) :
    ∃ call, (runTick nm fl d input).1.stepped = some call ∧ GivenTo packet call := by
  obtain ⟨mods, hmods, hcount⟩ := hstandard.modulators
  have hquiescent : Quiescent d.ingress.config d := ⟨rfl, hs, hr⟩
  obtain ⟨-, hstepped, -⟩ := hquiescent.tick nm fl halone
  rw [hstandard.direct hreceived, trimmed_of_withinLimit (hstandard.withinLimit hchannels hmax)]
    at hstepped
  refine ⟨_, hstepped, ?_, ?_⟩
  · dsimp only
    rw [decodeInputs_stimuli, hstandard.stimuli]
  · dsimp only
    rw [decodeInputs_modulators, hmods]
    match mods, hcount with
    | [a, b, c, e], _ => rfl

include hpos in
/-- **One tick** with a standard packet. -/
theorem tick_standard : ReachesStep packet d.ingress (runTick nm fl d input).2.ingress
      (runTick nm fl d input).1 ↔ NEUROMODULATOR_COUNT ≤ d.ingress.config.maxPayloadLen := by
  obtain ⟨mods, hmods, hcount⟩ := hstandard.modulators
  have hsensory : partOf packet .sensory = some { packet with modulators := none } := by
    have hne : packet.stimuli ≠ [] := by
      rw [← List.length_pos_iff, hstandard.stimuli]
      exact Nat.pos_of_ne_zero hpos
    unfold partOf
    rw [List.isEmpty_eq_false_iff.2 hne]
    rfl
  have hreward : partOf packet .reward = some { IngressPacket.default with modulators := some mods } := by
    have hne : mods ≠ [] := by
      rw [← List.length_pos_iff, hcount]
      decide
    unfold partOf
    dsimp only
    rw [hmods, Option.filter_some, if_pos (by rw [List.isEmpty_eq_false_iff.2 hne]; rfl)]
    rfl
  have hqs := tick_queue nm fl (d := d) halone hreceived hstandard.finite (fun _ => rfl) hsensory
  have hqr := tick_queue nm fl (d := d) halone hreceived hstandard.finite (fun _ => rfl) hreward
  constructor
  · intro h
    by_contra hmax
    -- the reward queue counts a refusal, so nothing was let in
    have hlarge : (d.ingress.queue .reward).payloadTooLarge
        { IngressPacket.default with modulators := some mods } = true := by
      have hlen : (d.ingress.queue .reward).maxPayloadLen < mods.length := by
        rw [hcount]
        exact Nat.lt_of_not_le hmax
      unfold payloadTooLarge
      rw [Bool.or_eq_true_iff]
      exact .inr (decide_eq_true hlen)
    have haccepted := h.reward.accepted
    rw [hqr, pushInto_large hr.1 hlarge] at haccepted
    exact absurd haccepted (Nat.ne_of_lt (Nat.lt_succ_self _))
  · intro hmax
    have hlimit := hstandard.withinLimit hchannels hmax
    refine ⟨?_, ?_, tick_given nm fl hs hr halone hreceived hstandard hchannels hmax⟩
    · rw [hqs, pushInto_empty hs.1 hs.2 (fits_of_withinLimit hlimit hsensory)]
      exact ⟨rfl, rfl, rfl, rfl, rfl⟩
    · rw [hqr, pushInto_empty hr.1 hr.2 (fits_of_withinLimit hlimit hreward)]
      exact ⟨rfl, rfl, rfl, rfl, rfl⟩

end Tick

/-! ## Runs -/

/-- Between ticks, in a daemon built from `cfg`. -/
structure Between (cfg : DaemonConfig) (d : TickLoop Network) : Prop where
  quiescent : Quiescent cfg.ingress d
  width : d.stimuli.length = cfg.channels

theorem Enters.between {net : NetParsers} {cfg : DaemonConfig} {d : TickLoop Network}
    (h : Enters nm net fl cfg d) : Between cfg d := by
  exact ⟨.of_new h.ingress_new, h.channels.1⟩

theorem Between.tick {cfg : DaemonConfig} {d : TickLoop Network} (h : Between cfg d)
    {input : TickInput Entropy} (halone : input.others = nobody) :
    Between cfg (runTickPublished nm fl d input).2 := by
  obtain ⟨hquiescent, -, -, hstimuli⟩ := h.quiescent.tick nm fl halone
  refine ⟨hquiescent, ?_⟩
  rw [hstimuli, decodeInputs_stimuli, List.length_map, List.length_range]
  exact h.width

theorem channels_of_validate {net : NetParsers} {cfg : DaemonConfig} (h : cfg.validate net = .ok ()) :
    cfg.channels ≠ 0 ∧ cfg.channels ≤ cfg.ingress.maxPayloadLen := by
  unfold DaemonConfig.validate at h
  simp only [Except.seq_eq_ok] at h
  obtain ⟨-, -, -, hchannels, -⟩ := h
  unfold DaemonConfig.validateChannels at hchannels
  split at hchannels
  · cases hchannels
  · next hc =>
    rw [not_or, Nat.not_lt] at hc
    exact hc

theorem Enters.validate {net : NetParsers} {cfg : DaemonConfig} {d : TickLoop Network}
    (h : Enters nm net fl cfg d) : cfg.validate net = .ok () := by
  obtain ⟨_, _, _, _, _, hbuild, _⟩ := h
  exact (Enters.tryWithBackend_ok hbuild).1

/-- **A validated configuration admits the standard packets if and only if the payload limit has
room for the modulators.** -/
theorem standard_packets_admitted_iff {net : NetParsers} {cfg : DaemonConfig} {d₀ d : TickLoop Network}
    (h0 : Enters nm net fl cfg d₀) {trace : List (Label Entropy × TickLoop Network)}
    (hr : Run (TickLoop.step nm fl) d₀ trace d) (halone : ∀ e ∈ trace, e.1.Alone) :
    Run.Each (fun d l d' => ∀ input t packet, l = .ticked input t →
      input.received = .ok (some packet) → StandardPacket cfg.channels packet →
        (ReachesStep packet d.ingress d'.ingress t ↔
          NEUROMODULATOR_COUNT ≤ cfg.ingress.maxPayloadLen)) d₀ trace := by
  obtain ⟨hne, hchannels⟩ := channels_of_validate h0.validate
  have hkeeps : ∀ d a l d', Between cfg d → l.Alone → TickLoop.step nm fl d a = some (l, d') →
      Between cfg d' := by
    intro d a l d' hbetween hl hs
    cases steps_of_step hs with
    | other st => exact absurd hl id
    | ticked input => exact hbetween.tick hl
  refine (hr.each_of_forall h0.between hkeeps ?_ halone).2
  intro d a l d' hbetween hl hs input t packet hlabel hreceived hstandard
  subst hlabel
  cases steps_of_step hs
  rw [← hbetween.width] at hne hstandard hchannels
  rw [← hbetween.quiescent.config] at hchannels ⊢
  exact tick_standard nm fl hbetween.quiescent.sensory hbetween.quiescent.reward hl hreceived hne
    hstandard hchannels

/-- A tick that receives two stimuli and four modulators. -/
def TickInput.standard : TickInput Unit :=
  { TickInput.idle with
    received := .ok (some { IngressPacket.default with
      stimuli := [.one, .one]
      modulators := some [.one, .one, .one, .one] }) }

theorem TickInput.standard_packet : ∃ packet, TickInput.standard.received = .ok (some packet) ∧
    StandardPacket 2 packet :=
  ⟨_, rfl, by decide, rfl, _, rfl, rfl⟩

theorem standard_packets_admitted_iff_quiet :
    let r := runTickPublished .quiet id (TickLoop.quiet id) .standard
    ∃ packet, TickInput.standard.received = .ok (some packet) ∧ StandardPacket 2 packet ∧
      ReachesStep packet (TickLoop.quiet id).ingress r.2.ingress r.1 := by
  intro r
  have hr : Run (TickLoop.step .quiet id) (TickLoop.quiet id) [(.ticked .standard r.1, r.2)] r.2 :=
    .snoc (.tick .standard) .refl rfl
  obtain ⟨packet, hreceived, hstandard⟩ := TickInput.standard_packet
  have heach := standard_packets_admitted_iff (TickLoop.enters_quiet id) hr (by
    intro e he
    rw [List.mem_singleton] at he
    subst he
    rfl)
  exact ⟨packet, hreceived, hstandard,
    (heach.1 .standard r.1 packet rfl hreceived hstandard).2 (by decide)⟩

/-- Room for the two stimuli, and not for four modulators. -/
def DaemonConfig.narrow : DaemonConfig :=
  { DaemonConfig.quiet with ingress := { IngressConfig.tinyFixture with maxPayloadLen := 3 } }

theorem DaemonConfig.narrow_ingress : DaemonConfig.narrow.ingress.validate = .ok () := by decide

def TickLoop.narrow : TickLoop (ℕ × ℕ × ℕ) :=
  { TickLoop.quiet id with ingress := ⟨_, DaemonConfig.narrow_ingress, fun _ => .new, false⟩ }

theorem TickLoop.enters_narrow : Enters .quiet .any id .narrow TickLoop.narrow := by
  have hbuild : tryWithBackend .any id .narrow 0 =
      .ok (⟨_, DaemonConfig.narrow_ingress, fun _ => .new, false⟩,
        (HealthMachine.new id (.default id)).apply id .processStarted 0) := rfl
  let pair : (ℕ × ℕ × ℕ) × ModelProvenance :=
    ((2, 0, 2), ⟨SIMULATION_SCHEMA_ID, "<simulation>", "none", "simulation/blank", none, none, none⟩)
  have hboot : bootNetwork .quiet (fun _ => .ok pair) (.ok ()) .narrow none =
      ([(HealthEvent.initializationCompleted, (0 : Instant)),
        (.checkpointValidated ⟨"simulation/blank", none⟩, 0)].map Prod.fst, .ok pair) := rfl
  exact .mk 0 _ _ _ none hbuild hboot

/-- The modulators of a standard packet are refused, and the step gets the default ones. -/
theorem narrow_refuses_modulators :
    let r := runTickPublished .quiet id TickLoop.narrow .standard
    Enters .quiet .any id .narrow TickLoop.narrow ∧ TickInput.standard.others = nobody ∧
      (∃ packet, TickInput.standard.received = .ok (some packet) ∧ StandardPacket 2 packet ∧
        ¬ReachesStep packet TickLoop.narrow.ingress r.2.ingress r.1) ∧
      (r.2.ingress.queues .reward).rejected = 1 ∧
      r.1.stepped.map StepCall.modulators = some Neuromod.quiet.defaultModulators := by
  intro r
  have hrejected : (r.2.ingress.queues .reward).rejected = 1 := by decide +kernel
  obtain ⟨packet, hreceived, hstandard⟩ := TickInput.standard_packet
  refine ⟨TickLoop.enters_narrow, rfl, ⟨packet, hreceived, hstandard, fun h => ?_⟩, hrejected,
    by decide +kernel⟩
  rw [h.reward.rejected] at hrejected
  cases hrejected

end Brainstem.Daemon
