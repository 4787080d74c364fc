import Brainstem.Daemon.Effects
import Brainstem.Daemon.Entry
import Brainstem.Health.Consistency

/-!
# Input that did not come from the backend

A tick steps the network on whatever it drained, but only a backend packet is observed as
ingress.  When the backend has nothing and other threads enqueue, the age of the input is
that of the checkpoint, whatever the network was stepped on:

    CountsAsIngress fl input m ↔ ∃ read ∈ healthReads, input.clock read = c     (direct_counts_iff)

for the instant `c` at which the checkpoint was validated.
-/

namespace Brainstem.Daemon

open Brainstem.Health
open Brainstem.Ingress hiding Instant

variable {Network Entropy : Type} {nm : Neuromod Network Entropy} {fl : ℚ → ℚ}

/-- The tick stepped the network on a finite packet with stimuli or modulators in it. -/
structure SteppedOnInput (t : TickTrace) : Prop where
  stepped : t.stepped.isSome = true
  finite : firstNonFinite t.drained.intoPacket = none
  input : packetCarriesInput t.drained.intoPacket = true

/-- The backend has nothing for the tick, or a packet without input. -/
def TickInput.FromNobody (input : TickInput Entropy) : Prop :=
  ∀ packet ∈ input.backendPacket, packetCarriesInput packet = false

/-- Until `stale_after` has gone by, the age of the input counts from `t`, and it is not stale. -/
def CountsFrom (fl : ℚ → ℚ) (m : HealthMachine) (t : Instant) : Prop :=
  ∀ now, t ≤ now → now < t + m.limits.staleAfter →
    (m.snapshot fl now).inputFreshness = ⟨some (durationMs (now - t)), false⟩ ∧
      ReasonCode.staleInput ∉ (m.snapshot fl now).reasons

/-- The readings of the clock for the health events of every tick. -/
def healthReads : List ClockRead := [.pressure, .outcome, .published]

/-- The tick refreshed the freshness of the input. -/
def CountsAsIngress (fl : ℚ → ℚ) (input : TickInput Entropy) (m : HealthMachine) : Prop :=
  ∃ read ∈ healthReads, CountsFrom fl m (input.clock read)

/-! ## What the age counts from -/

theorem durationMs_ms : durationMs 1000000 = 1 := by decide

theorem durationMs_lt {d : Duration} (h : d < 1000000) : durationMs d = 0 := by
  unfold durationMs
  rw [Nat.div_eq_of_lt h]
  omega

/-- Only one instant is the one from which the age counts. -/
theorem countsFrom_iff {m : HealthMachine} {t c limit : ℕ} (hinit : m.initialized = true)
    (hok : m.checkpointOk = true) (hfrom : m.lastIngress.or m.checkpointAt = some c)
    (hlimit : m.limits.staleAfter = limit) (hlong : 1000000 < limit) :
    CountsFrom fl m t ↔ t = c := by
  have hage : ∀ now, m.inputAgeMs now = some (durationMs (now - c)) := by
    intro now
    unfold HealthMachine.inputAgeMs
    rw [hfrom]
    rfl
  have hstale : ∀ now : ℕ, m.computeStale now = decide (limit ≤ now - c) := by
    intro now
    unfold HealthMachine.computeStale
    rw [hinit, hok, hfrom, hlimit]
    rfl
  have hcounts : CountsFrom fl m t ↔ ∀ now : ℕ, t ≤ now → now < t + limit →
      (m.snapshot fl now).inputFreshness = ⟨some (durationMs (now - t)), false⟩ ∧
        ReasonCode.staleInput ∉ (m.snapshot fl now).reasons := by
    unfold CountsFrom
    rw [hlimit]
  rw [hcounts]
  constructor
  · intro hcounts
    rcases Nat.lt_trichotomy t c with hlt | heq | hgt
    · -- one millisecond after `t` the age from `c` is still zero
      have hfresh := (hcounts (t + 1000000) (by omega) (by omega)).1
      have hms : m.inputAgeMs (t + 1000000) = some (durationMs (t + 1000000 - t)) :=
        congrArg InputFreshness.ageMs hfresh
      have hbefore : t + 1000000 - c < 1000000 := by omega
      rw [hage, durationMs_lt hbefore, Nat.add_sub_cancel_left, durationMs_ms] at hms
      cases hms
    · exact heq
    · -- just before `stale_after` has gone by since `t`, it has since `c`
      have hfresh := (hcounts (t + (limit - 1)) (by omega) (by omega)).1
      have hfalse : m.computeStale (t + (limit - 1)) = false :=
        congrArg InputFreshness.stale hfresh
      rw [hstale, decide_eq_false_iff_not] at hfalse
      omega
  · rintro rfl now hle hlt
    have hfalse : m.computeStale now = false := by
      rw [hstale, decide_eq_false_iff_not]
      omega
    refine ⟨?_, ?_⟩
    · show InputFreshness.mk (m.inputAgeMs now) (m.computeStale now) = _
      rw [hage, hfalse]
    · show ReasonCode.staleInput ∉ m.reasons (m.computeStale now)
      rw [HealthMachine.mem_reasons, hfalse]
      exact fun hraised => Bool.false_ne_true hraised.2

/-! ## Runs -/

/-- Up since the checkpoint of instant `c`, and no ingress was observed. -/
structure Unobserved (c : Instant) (m : HealthMachine) : Prop where
  initialized : m.initialized = true
  checkpoint : m.checkpointOk = m.fatal.isNone
  checkpointAt : m.checkpointAt = some c
  lastIngress : m.lastIngress = none
  staleAfter : m.limits.staleAfter = 500000000

theorem Unobserved.enter {net : NetParsers} {cfg : DaemonConfig} {d : TickLoop Network}
    (h : Enters nm net fl cfg d) : ∃ c, Unobserved c d.health := by
  obtain ⟨_, c, _, hhealth⟩ := h.health
  have hlimit : ((HealthLimits.default fl).sanitized fl).staleAfter = 500000000 := by
    unfold HealthLimits.sanitized
    simp only
    split <;> rfl
  refine ⟨c, ?_⟩
  rw [hhealth]
  exact ⟨rfl, rfl, rfl, rfl, hlimit⟩

theorem nothing_observed (d : TickLoop Network) {input : TickInput Entropy} (h : input.FromNobody) :
    (takeIn d input).packet.any observesIngress = false := by
  have hpacket : (takeIn d input).packet = _ := intake_packet input d.stats d.diagnostics
  rw [hpacket]
  cases hp : input.backendPacket with
  | none => rfl
  | some packet =>
    have hempty : observesIngress packet = false := by
      unfold observesIngress
      rw [h packet hp]
      rfl
    rw [Option.filter_some]
    split
    · exact hempty
    · rfl

/-- What a tick does to the machine when the backend has nothing. -/
theorem Unobserved.tick {c : Instant} {d : TickLoop Network} (hd : Unobserved c d.health)
    {input : TickInput Entropy} (h : input.FromNobody) :
    Unobserved c (runTickPublished nm fl d input).2.health := by
  have heffect := runTick_health nm fl d input
  rw [nothing_observed d h] at heffect
  have hhealth : (runTickPublished nm fl d input).2.health =
      { (runTick nm fl d input).2.health with
        counters := (runTick nm fl d input).2.health.counters.mergedMonotonic
          (runTick nm fl d input).2.stats.counters } := rfl
  rw [hhealth]
  refine ⟨heffect.initialized.trans hd.initialized, ?_, heffect.checkpointAt.trans hd.checkpointAt,
    heffect.lastIngress.trans hd.lastIngress, ?_⟩
  · rcases heffect.checkpoint with ⟨hok, hfatal⟩ | ⟨hok, hfatal⟩
    · exact hok.trans (hd.checkpoint.trans (congrArg Option.isNone hfatal.symm))
    · show (runTick nm fl d input).2.health.checkpointOk = _
      rw [hok, ← Option.not_isSome]
      exact (congrArg not hfatal).symm
  · exact (congrArg HealthLimits.staleAfter heffect.limits).trans hd.staleAfter

/-- After a tick without a backend packet, and without a fatal error, the age counts from the
checkpoint. -/
theorem Unobserved.counts_iff {c : Instant} {m : HealthMachine} (h : Unobserved c m)
    (hfatal : m.fatal = none) (input : TickInput Entropy) :
    CountsAsIngress fl input m ↔ ∃ read ∈ healthReads, input.clock read = c := by
  have hok : m.checkpointOk = true := by
    rw [h.checkpoint, hfatal]
    rfl
  have hfrom : m.lastIngress.or m.checkpointAt = some c := by
    rw [h.lastIngress, h.checkpointAt]
    rfl
  have hiff : ∀ t, CountsFrom fl m t ↔ t = c :=
    fun t => countsFrom_iff h.initialized hok hfrom h.staleAfter (by decide)
  unfold CountsAsIngress
  simp only [hiff]

/-- **Directly enqueued input does not count as ingress.**  In a run in which the backend has
nothing, a tick that steps the network on input counts as ingress only if it comes at the very
instant at which the checkpoint was validated, from which the age counts all along. -/
theorem direct_counts_iff {net : NetParsers} {cfg : DaemonConfig} {d₀ d : TickLoop Network}
    (h0 : Enters nm net fl cfg d₀) {trace : List (Label Entropy × TickLoop Network)}
    (hr : Run (TickLoop.step nm fl) d₀ trace d)
    (hnobody : ∀ e ∈ trace, ∀ input t, e.1 = .ticked input t → input.FromNobody) :
    ∃ c, d₀.health.checkpointAt = some c ∧
      Run.Each (fun _ l d' => ∀ input t, l = .ticked input t → SteppedOnInput t →
        d'.health.fatal = none →
        (CountsAsIngress fl input d'.health ↔ ∃ read ∈ healthReads, input.clock read = c))
        d₀ trace := by
  obtain ⟨c, hc⟩ := Unobserved.enter h0
  refine ⟨c, hc.checkpointAt, ?_⟩
  have hstep : ∀ d a l d', Unobserved c d.health →
      (∀ input t, l = .ticked input t → input.FromNobody) →
      TickLoop.step nm fl d a = some (l, d') → Unobserved c d'.health := by
    intro d a l d' hd hl hs
    cases steps_of_step hs with
    | other st => exact hd
    | ticked input => exact hd.tick (hl input _ rfl)
  have hrun := hr.each_of_forall (I := fun d => Unobserved c d.health) hc hstep
    (P := fun _ _ d' => Unobserved c d'.health) hstep hnobody
  exact hrun.2.imp fun _ l d' h input t _ _ hfatal => h.counts_iff hfatal input

/-- A tick with a finite backend packet that carries input does count. -/
theorem backend_counts {c : Instant} {d : TickLoop Network} (hd : Unobserved c d.health)
    {input : TickInput Entropy} {packet : IngressPacket} (hp : input.backendPacket = some packet)
    (hobs : observesIngress packet = true)
    (hfatal : (runTickPublished nm fl d input).2.health.fatal = none) :
    CountsFrom fl (runTickPublished nm fl d input).2.health (input.clock .observed) := by
  have hpacket : (takeIn d input).packet = _ := intake_packet input d.stats d.diagnostics
  have hfinite : firstNonFinite packet = none := by
    unfold observesIngress at hobs
    rw [Bool.and_eq_true, Option.isNone_iff_eq_none] at hobs
    exact hobs.2
  have hlive : (backendNonFinite packet).isNone = true := by
    unfold backendNonFinite
    rw [hfinite]
    split <;> rfl
  have hobserved : (takeIn d input).packet.any observesIngress = true := by
    rw [hpacket, hp, Option.filter_some, if_pos hlive]
    exact hobs
  have heffect := runTick_health nm fl d input
  rw [if_pos hobserved] at heffect
  have hok : (runTick nm fl d input).2.health.checkpointOk = true := by
    rcases heffect.checkpoint with ⟨hok, hsame⟩ | ⟨-, hsome⟩
    · rw [hok, hd.checkpoint, ← hsame]
      exact Option.isNone_iff_eq_none.2 hfatal
    · rw [show (runTick nm fl d input).2.health.fatal = none from hfatal] at hsome
      cases hsome
  have hfrom : (runTickPublished nm fl d input).2.health.lastIngress.or
      (runTickPublished nm fl d input).2.health.checkpointAt = some (input.clock .observed) := by
    show (runTick nm fl d input).2.health.lastIngress.or _ = _
    rw [heffect.lastIngress]
    rfl
  have hlimit : (runTickPublished nm fl d input).2.health.limits.staleAfter = 500000000 :=
    (congrArg HealthLimits.staleAfter heffect.limits).trans hd.staleAfter
  have hinit : (runTickPublished nm fl d input).2.health.initialized = true :=
    heffect.initialized.trans hd.initialized
  exact (countsFrom_iff hinit hok hfrom hlimit (by decide)).2 rfl

/-! ## A second after the checkpoint -/

/-- Another thread enqueues a finite sensory packet. -/
def directQueued : TickLoop (ℕ × ℕ × ℕ) :=
  { TickLoop.quiet F64.binary64 with
    ingress := (TickLoop.quiet F64.binary64).ingress.perform
      (.push .sensory { IngressPacket.default with stimuli := [.one] } none 0) }

/-- The tick that drains it, a second after the checkpoint, with nothing from the backend. -/
def lateTick : TickInput Unit := { TickInput.idle with clock := fun _ => 1000000000 }

def directTick : TickTrace × TickLoop (ℕ × ℕ × ℕ) :=
  runTickPublished .quiet F64.binary64 directQueued lateTick

theorem directTick_run : Run (TickLoop.step .quiet F64.binary64) (TickLoop.quiet F64.binary64)
    [(.other (.push .sensory { IngressPacket.default with stimuli := [.one] } none 0), directQueued),
      (.ticked lateTick directTick.1, directTick.2)] directTick.2 :=
  .snoc (.tick lateTick) (.snoc (.other _) .refl rfl) rfl

theorem directTick_steppedOnInput : SteppedOnInput directTick.1 where
  stepped := by decide +kernel
  finite := by decide +kernel
  input := by decide +kernel

theorem direct_counts_iff_late_tick :
    ¬CountsAsIngress F64.binary64 lateTick directTick.2.health := by
  have hfatal : directTick.2.health.fatal = none := by decide +kernel
  have hnobody : ∀ e ∈ [((Label.other (.push .sensory
      { IngressPacket.default with stimuli := [.one] } none 0) : Label Unit), directQueued),
      (.ticked lateTick directTick.1, directTick.2)], ∀ input t, e.1 = .ticked input t →
      input.FromNobody := by
    intro e he input t ht
    rcases List.mem_pair.1 he with rfl | rfl
    · cases ht
    · cases ht
      rintro packet ⟨⟩
  obtain ⟨c, hc, -, htick, -⟩ := direct_counts_iff (TickLoop.enters_quiet F64.binary64)
    directTick_run hnobody
  have hat : (TickLoop.quiet F64.binary64).health.checkpointAt = some 0 := by decide +kernel
  rw [hat] at hc
  cases hc
  rw [htick lateTick directTick.1 rfl directTick_steppedOnInput hfatal]
  rintro ⟨read, -, hread⟩
  cases hread

/-- **The network is stepped on an enqueued packet, and the snapshot reports stale input.** -/
theorem direct_input_stale :
    Enters .quiet .any F64.binary64 .quiet (TickLoop.quiet F64.binary64) ∧
    Run (TickLoop.step .quiet F64.binary64) (TickLoop.quiet F64.binary64)
      [(.other (.push .sensory { IngressPacket.default with stimuli := [.one] } none 0),
          directQueued), (.ticked lateTick directTick.1, directTick.2)] directTick.2 ∧
    lateTick.FromNobody ∧ SteppedOnInput directTick.1 ∧ directTick.2.health.fatal = none ∧
    directTick.2.health.checkpointOk = true ∧
    (directTick.2.health.snapshot F64.binary64 1000000000).inputFreshness = ⟨some 1000, true⟩ ∧
    ReasonCode.staleInput ∈ (directTick.2.health.snapshot F64.binary64 1000000000).reasons := by
  refine ⟨TickLoop.enters_quiet _, directTick_run, ?_, directTick_steppedOnInput, ?_, ?_, ?_, ?_⟩
  · rintro packet ⟨⟩
  · decide +kernel
  · decide +kernel
  · decide +kernel
  · decide +kernel

end Brainstem.Daemon
