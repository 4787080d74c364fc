import Brainstem.Daemon.StepInput
import Brainstem.Ingress.Lone

/-!
# The ingress is transparent for a lone backend

With nobody else on the ingress and no shutdown, the queues of the sensory and the reward
class are empty between ticks, every policy lets one packet into an empty queue, and what is
split over the two is put together again by the drain.  So a tick steps the network with
what it would decode from the packet of the backend itself (`direct`).

    step input (queued) = step input (direct)                      (lone_backend_transparent)
-/

namespace Brainstem.Daemon

open Brainstem.Health
open Brainstem.Ingress hiding Instant
open BoundedIngress BoundedQueue

variable {Network Entropy : Type} {nm : Neuromod Network Entropy} {fl : ℚ → ℚ}

/-- What the direct pipeline would decode: the backend packet if all its values are finite,
flagged as rejected or not. -/
def TickInput.direct (input : TickInput Entropy) : IngressPacket :=
  (input.backendPacket.filter fun packet => (firstNonFinite packet).isNone).getD .default

/-- A tick, with nobody else on the ingress. -/
def Label.Alone : Label Entropy → Prop
  | .ticked input _ => input.others = nobody
  | .other _ => False

/-- The payload limit admits both parts of the packet. -/
def WithinLimit (cfg : IngressConfig) (packet : IngressPacket) : Prop :=
  packet.stimuli.length ≤ cfg.maxPayloadLen ∧
    ∀ mods ∈ packet.modulators, mods.length ≤ cfg.maxPayloadLen

theorem withinLimit_default (cfg : IngressConfig) : WithinLimit cfg .default := by
  refine ⟨Nat.zero_le _, ?_⟩
  rintro mods ⟨⟩

/-- Open and empty. -/
def Idle (s : BoundedIngress) (c : MessageClass) : Prop :=
  s.accepting c = true ∧ (s.queues c).items = []

/-! ## Split and merged again -/

/-- The parts of a packet as one drain hands them out. -/
def remerged (packet : IngressPacket) : IngressPacket :=
  DrainedTick.intoPacket
    { DrainedTick.default with reward := partOf packet .reward, sensory := partOf packet .sensory }

theorem remerged_stimuli (packet : IngressPacket) : (remerged packet).stimuli = packet.stimuli := by
  unfold remerged DrainedTick.intoPacket partOf
  cases h : packet.stimuli <;> simp [IngressPacket.default]

theorem remerged_modulators (packet : IngressPacket) :
    (remerged packet).modulators = packet.modulators.filter fun m => !m.isEmpty := by
  unfold remerged DrainedTick.intoPacket partOf
  cases packet.modulators.filter fun m => !m.isEmpty <;> rfl

theorem remerged_finite {packet : IngressPacket} (h : firstNonFinite packet = none) :
    firstNonFinite (remerged packet) = none := by
  rw [firstNonFinite_eq_none] at h ⊢
  refine ⟨remerged_stimuli packet ▸ h.1, ?_⟩
  intro mods hmods
  rw [remerged_modulators] at hmods
  exact h.2 mods (Option.mem_filter_iff.1 hmods).1

/-- An empty packet that carries a mask loses it, and every slot is zero either way. -/
theorem slot_remerged (packet : IngressPacket) : slot (remerged packet) = slot packet := by
  funext i
  unfold slot
  rw [remerged_stimuli]
  cases hs : packet.stimuli with
  | nil => simp
  | cons v rest =>
    have hmask : (remerged packet).validMask = packet.validMask := by
      simp [remerged, DrainedTick.intoPacket, partOf, hs]
    rw [hmask]

theorem decodeInputs_modulators (packet : IngressPacket) (stimuli : List F32) :
    (decodeInputs nm packet stimuli).1 = match packet.modulators with
      | some (a :: b :: c :: e :: _) => ⟨a, b, c, e⟩
      | _ => nm.defaultModulators := by
  unfold decodeInputs
  simp only
  split <;> simp_all

theorem decodeInputs_remerged (packet : IngressPacket) (stimuli : List F32) :
    decodeInputs nm (remerged packet) stimuli = decodeInputs nm packet stimuli := by
  refine Prod.ext ?_ ?_
  · rw [decodeInputs_modulators, decodeInputs_modulators, remerged_modulators]
    cases packet.modulators with
    | none => rfl
    | some mods => cases mods <;> rfl
  · rw [decodeInputs_stimuli, decodeInputs_stimuli, slot_remerged]

/-! ## One tick -/

theorem pushInto_large {s : BoundedIngress} {c : MessageClass} {packet : IngressPacket}
    (hacc : s.accepting c = true) (hlarge : (s.queue c).payloadTooLarge packet = true) :
    s.pushInto c packet = (refuse (s.queues c)).2 := by
  obtain ⟨hflag, hopen⟩ : s.shuttingDown = false ∧ (s.queues c).closed = false := by
    simpa [accepting] using hacc
  unfold pushInto pushSection
  rw [hflag, if_neg Bool.false_ne_true, if_pos hlarge, hopen, if_neg Bool.false_ne_true]
  rfl

/-- What the payload limit leaves of a packet: each of its two parts as a whole, or not at all. -/
def trimmed (cfg : IngressConfig) (packet : IngressPacket) : IngressPacket :=
  { packet with
    stimuli := if packet.stimuli.length ≤ cfg.maxPayloadLen then packet.stimuli else []
    modulators := packet.modulators.filter fun mods => mods.length ≤ cfg.maxPayloadLen }

theorem trimmed_of_withinLimit {cfg : IngressConfig} {packet : IngressPacket}
    (h : WithinLimit cfg packet) : trimmed cfg packet = packet := by
  obtain ⟨stimuli, modulators, validMask, rejected⟩ := packet
  obtain ⟨hstimuli, hmods⟩ := h
  unfold trimmed
  rw [if_pos hstimuli]
  congr 1
  cases modulators with
  | none => rfl
  | some mods =>
    have hle : mods.length ≤ cfg.maxPayloadLen := hmods mods rfl
    rw [Option.filter_some, if_pos (decide_eq_true hle)]

theorem trimmed_finite {cfg : IngressConfig} {packet : IngressPacket}
    (h : firstNonFinite packet = none) : firstNonFinite (trimmed cfg packet) = none := by
  rw [firstNonFinite_eq_none] at h ⊢
  refine ⟨?_, fun mods hmods => h.2 mods (Option.mem_filter_iff.1 hmods).1⟩
  intro v hv
  unfold trimmed at hv
  dsimp only at hv
  split at hv
  · exact h.1 v hv
  · cases hv

/-- The part of a class is left if its queue finds it small enough. -/
theorem partOf_trimmed (s : BoundedIngress) (packet : IngressPacket) (c : MessageClass) :
    partOf (trimmed s.config packet) c =
      (partOf packet c).filter fun part => !(s.queue c).payloadTooLarge part := by
  have hmax : (s.queue c).maxPayloadLen = s.config.maxPayloadLen := rfl
  have hfits (part : IngressPacket) : (!(s.queue c).payloadTooLarge part) =
      (decide (part.stimuli.length ≤ s.config.maxPayloadLen) &&
        decide ((part.modulators.map List.length).getD 0 ≤ s.config.maxPayloadLen)) := by
    unfold payloadTooLarge
    rw [hmax, Bool.not_or, ← decide_not, ← decide_not]
    simp only [Nat.not_lt]
  simp only [hfits]
  cases c with
  | sensory =>
    unfold trimmed partOf
    by_cases hempty : packet.stimuli = []
    · simp [hempty]
    · by_cases hlen : packet.stimuli.length ≤ s.config.maxPayloadLen <;>
        simp [hempty, hlen, Option.filter_some]
  | reward =>
    unfold trimmed partOf
    cases packet.modulators with
    | none => rfl
    | some mods =>
      by_cases hempty : mods = [] <;> by_cases hlen : mods.length ≤ s.config.maxPayloadLen <;>
        simp [hempty, hlen, IngressPacket.default, Option.filter_some]
  | control => rfl
  | telemetry => rfl

theorem fits_of_withinLimit {s : BoundedIngress} {packet part : IngressPacket} {c : MessageClass}
    (h : WithinLimit s.config packet) (hp : partOf packet c = some part) :
    (s.queue c).payloadTooLarge part = false := by
  have hleft := partOf_trimmed s packet c
  rw [trimmed_of_withinLimit h, hp, Option.filter_some] at hleft
  split at hleft
  · next hfits => simpa using hfits
  · cases hleft

theorem admit_idle {s : BoundedIngress} (packet : IngressPacket) {c : MessageClass} (h : Idle s c) :
    let q := (s.runSteps (s.admitBackendPacket nobody packet)).queues c
    q.items = (partOf (trimmed s.config packet) c).toList ∧ q.closed = (s.queues c).closed := by
  intro q
  have hq : q = ((partOf packet c).map (s.pushInto c)).getD (s.queues c) :=
    (admitBackendPacket_nobody s packet).1 c
  rw [hq, partOf_trimmed]
  cases hp : partOf packet c with
  | none => exact ⟨h.2, rfl⟩
  | some part =>
    rw [Option.map_some, Option.getD_some, Option.filter_some]
    cases hlarge : (s.queue c).payloadTooLarge part with
    | false =>
      rw [pushInto_empty h.1 h.2 hlarge]
      refine ⟨?_, rfl⟩
      simp [pushFree, h.2]
    | true =>
      rw [pushInto_large h.1 hlarge]
      refine ⟨?_, rfl⟩
      simp [refuse, h.2]

/-- After the admission each class holds its part of the packet, if that is within the limit, and
nothing else. -/
theorem admitted_direct {d : TickLoop Network} {input : TickInput Entropy}
    (halone : input.others = nobody) :
    let admitted := d.ingress.runSteps (accountAndAdmit d input).2
    (∀ c, Idle d.ingress c →
      (admitted.queues c).items = (partOf (trimmed d.ingress.config input.direct) c).toList ∧
        (admitted.queues c).closed = (d.ingress.queues c).closed) ∧
    admitted.shuttingDown = d.ingress.shuttingDown := by
  intro admitted
  have hsteps := accountAndAdmit_steps d input
  unfold TickInput.direct
  unfold admitted
  rw [hsteps, halone]
  cases hb : input.backendPacket.filter fun packet => (firstNonFinite packet).isNone with
  | none =>
    refine ⟨?_, rfl⟩
    intro c hc
    refine ⟨?_, rfl⟩
    have hnone : partOf (trimmed d.ingress.config IngressPacket.default) c = none := by
      rw [trimmed_of_withinLimit (withinLimit_default _)]
      cases c <;> rfl
    rw [Option.getD_none, hnone]
    exact hc.2
  | some packet =>
    exact ⟨fun c hc => admit_idle packet hc, (admitBackendPacket_nobody d.ingress packet).2⟩

/-- The sections of a tick with nobody else around: the admission, then the drain. -/
theorem tick_ingress (nm : Neuromod Network Entropy) (fl : ℚ → ℚ) (d : TickLoop Network)
    {input : TickInput Entropy} (halone : input.others = nobody) :
    let admitted := d.ingress.runSteps (accountAndAdmit d input).2
    (runTick nm fl d input).2.ingress = admitted.runSteps (admitted.drainForTick nobody).1 := by
  intro admitted
  have hsections : (runTick nm fl d input).2.ingress = d.ingress.runSteps ((accountAndAdmit d input).2 ++
      (admitted.drainForTick input.others).1 ++
      ((admitted.runSteps (admitted.drainForTick input.others).1).readMetrics input.others).1) := rfl
  rw [hsections, halone, readMetrics_nobody, List.append_nil, runSteps_append]

/-- **One tick**: it drains what the limit leaves of the direct packet, and both classes are idle
again. -/
theorem tick_direct (nm : Neuromod Network Entropy) (fl : ℚ → ℚ) {d : TickLoop Network}
    {input : TickInput Entropy} (hs : Idle d.ingress .sensory) (hr : Idle d.ingress .reward)
    (halone : input.others = nobody) :
    let r := runTick nm fl d input
    r.1.drained.intoPacket = remerged (trimmed d.ingress.config input.direct) ∧
      Idle r.2.ingress .sensory ∧ Idle r.2.ingress .reward := by
  intro r
  let direct := trimmed d.ingress.config input.direct
  let admitted := d.ingress.runSteps (accountAndAdmit d input).2
  obtain ⟨hqueues, hsd⟩ := admitted_direct (d := d) halone
  have hdrained : r.1.drained = (admitted.drainForTick input.others).2 := rfl
  have hingress : r.2.ingress = admitted.runSteps (admitted.drainForTick nobody).1 :=
    tick_ingress nm fl d halone
  have hhead : ∀ c, Idle d.ingress c →
      (admitted.queues c).items.head? = partOf direct c := by
    intro c hc
    rw [(hqueues c hc).1]
    cases partOf direct c <;> rfl
  have hidle : ∀ c, Idle d.ingress c → drained c (admitted.queues c) = (pop (admitted.queues c)).2 →
      Idle r.2.ingress c := by
    intro c hc hpop
    have hqueue : r.2.ingress.queues c = (pop (admitted.queues c)).2 := by
      rw [hingress, drainForTick_nobody_queues, hpop]
    refine ⟨?_, ?_⟩
    · unfold accepting
      rw [hqueue, hingress, drainForTick_nobody_shuttingDown, hsd]
      show (!d.ingress.shuttingDown && !(admitted.queues c).closed) = true
      rw [(hqueues c hc).2]
      exact hc.1
    · rw [hqueue]
      show (admitted.queues c).items.tail = []
      rw [(hqueues c hc).1]
      cases partOf direct c <;> rfl
  refine ⟨?_, hidle .sensory hs rfl, hidle .reward hr rfl⟩
  rw [hdrained, halone, drainForTick_nobody]
  unfold remerged
  rw [← hhead .sensory hs, ← hhead .reward hr]
  rfl

/-! ## Runs -/

theorem direct_finite (input : TickInput Entropy) : firstNonFinite input.direct = none := by
  unfold TickInput.direct
  cases h : input.backendPacket.filter fun packet => (firstNonFinite packet).isNone with
  | none => rfl
  | some packet => exact Option.isNone_iff_eq_none.1 (Option.mem_filter_iff.1 h).2

theorem direct_withinLimit {cfg : IngressConfig} {input : TickInput Entropy}
    (hlen : ∀ packet ∈ input.backendPacket, WithinLimit cfg packet) :
    WithinLimit cfg input.direct := by
  unfold TickInput.direct
  cases h : input.backendPacket.filter fun packet => (firstNonFinite packet).isNone with
  | none => exact withinLimit_default cfg
  | some packet => exact hlen packet (Option.mem_filter_iff.1 h).1

/-- Between ticks. -/
structure Quiescent (cfg : IngressConfig) (d : TickLoop Network) : Prop where
  config : d.ingress.config = cfg
  sensory : Idle d.ingress .sensory
  reward : Idle d.ingress .reward

theorem Quiescent.of_new {cfg : IngressConfig} {d : TickLoop Network}
    (h : BoundedIngress.new cfg = .ok d.ingress) : Quiescent cfg d := by
  obtain ⟨hv, hi⟩ := BoundedIngress.new_eq_ok h
  refine ⟨?_, ⟨?_, ?_⟩, ⟨?_, ?_⟩⟩ <;> rw [hi] <;> rfl

/-- A tick with nobody else on the ingress steps on what the payload limit leaves of the packet of
the backend. -/
theorem Quiescent.tick (nm : Neuromod Network Entropy) (fl : ℚ → ℚ) {cfg : IngressConfig}
    {d : TickLoop Network} (hq : Quiescent cfg d) {input : TickInput Entropy}
    (halone : input.others = nobody) :
    let r := runTickPublished nm fl d input
    let decoded := decodeInputs nm (trimmed cfg input.direct) d.stimuli
    let s := nm.step d.network input.entropy decoded.2 decoded.1
    Quiescent cfg r.2 ∧ r.1.stepped = some ⟨decoded.2, decoded.1, s.1⟩ ∧ r.2.network = s.2 ∧
      r.2.stimuli = decoded.2 := by
  intro r decoded s
  obtain ⟨hpacket, hsensory, hreward⟩ := tick_direct nm fl hq.sensory hq.reward halone
  rw [hq.config] at hpacket
  have hconfig : r.2.ingress.config = cfg := (runSteps_config _ _).trans hq.config
  have hpacket : (ingest d input).packet = remerged (trimmed cfg input.direct) := hpacket
  have hfinite : firstNonFinite (ingest d input).packet = none := by
    rw [hpacket]
    exact remerged_finite (trimmed_finite (direct_finite input))
  have hstepped := advance_stepped nm d input _ (ingest d input).stats (ingest d input).diagnostics
    hfinite
  rw [hpacket, decodeInputs_remerged, ← hpacket] at hstepped
  exact ⟨⟨hconfig, hsensory, hreward⟩, hstepped⟩

/-- **The bounded ingress is transparent for a lone backend.**  Every tick calls the step once,
with what `decode_inputs` gives on the packet of the backend in that tick, or on the default
packet; and the two queues are empty again at its end. -/
theorem lone_backend_transparent {cfg : IngressConfig} {d₀ d : TickLoop Network}
    (hnew : BoundedIngress.new cfg = .ok d₀.ingress)
    {trace : List (Label Entropy × TickLoop Network)} (hr : Run (TickLoop.step nm fl) d₀ trace d)
    (halone : ∀ e ∈ trace, e.1.Alone)
    (hlen : ∀ e ∈ trace, ∀ input t, e.1 = .ticked input t →
      ∀ packet ∈ input.backendPacket, WithinLimit cfg packet) :
    Run.Each (fun d l d' => ∀ input t, l = .ticked input t →
      let decoded := decodeInputs nm input.direct d.stimuli
      let r := nm.step d.network input.entropy decoded.2 decoded.1
      (t.stepped = some ⟨decoded.2, decoded.1, r.1⟩ ∧ d'.network = r.2) ∧
        (d'.ingress.queues .sensory).items = [] ∧ (d'.ingress.queues .reward).items = [])
      d₀ trace := by
  have hkeeps : ∀ d a l d', Quiescent cfg d → l.Alone →
      TickLoop.step nm fl d a = some (l, d') → Quiescent cfg d' := by
    intro d a l d' hq hl hs
    cases steps_of_step hs with
    | other st => exact absurd hl id
    | ticked input => exact (hq.tick nm fl hl).1
  refine (hr.each_of_forall (I := Quiescent cfg) (L := fun l => l.Alone ∧ ∀ input t,
    l = .ticked input t → ∀ packet ∈ input.backendPacket, WithinLimit cfg packet) (.of_new hnew)
    (fun d a l d' hq hl => hkeeps d a l d' hq hl.1) ?_
    fun e he => ⟨halone e he, hlen e he⟩).2
  intro d a l d' hq hl hs input t hlabel
  subst hlabel
  cases steps_of_step hs
  obtain ⟨hq', hstepped, hnetwork, -⟩ := hq.tick nm fl hl.1
  rw [trimmed_of_withinLimit (direct_withinLimit (hl.2 input _ rfl))] at hstepped hnetwork
  exact ⟨⟨hstepped, hnetwork⟩, hq'.sensory.2, hq'.reward.2⟩

/-- A packet flagged as rejected, with a mask and short stimuli. -/
def TickInput.rejected : TickInput Unit :=
  { TickInput.idle with
    received := .ok (some { IngressPacket.default with
      stimuli := [.one]
      modulators := some [.one, .half, .half, .half]
      validMask := some [true, false, false]
      rejected := true }) }

theorem lone_backend_transparent_rejected :
    let r := runTickPublished .quiet id (TickLoop.quiet id) .rejected
    r.1.stepped = some ⟨[.one, 0], ⟨.one, .half, .half, .half⟩, .ok []⟩ ∧
      (r.2.ingress.queues .sensory).items = [] ∧ (r.2.ingress.queues .reward).items = [] := by
  intro r
  have hr : Run (TickLoop.step .quiet id) (TickLoop.quiet id) [(.ticked .rejected r.1, r.2)] r.2 :=
    .snoc (.tick .rejected) .refl rfl
  have heach := lone_backend_transparent (TickLoop.enters_quiet id).ingress_new hr
    (by
      intro e he
      rw [List.mem_singleton] at he
      subst he
      rfl)
    (by
      intro e he input' t hl p hp
      rw [List.mem_singleton] at he
      subst he
      cases hl
      cases hp
      refine ⟨by decide, fun mods hmods => ?_⟩
      cases hmods
      decide)
  obtain ⟨⟨hstepped, -⟩, hempty⟩ := heach.1 .rejected r.1 rfl
  have hdecoded : decodeInputs .quiet TickInput.rejected.direct (TickLoop.quiet id).stimuli =
      (⟨.one, .half, .half, .half⟩, [.one, 0]) := rfl
  rw [hdecoded] at hstepped
  exact ⟨hstepped, hempty⟩

end Brainstem.Daemon
