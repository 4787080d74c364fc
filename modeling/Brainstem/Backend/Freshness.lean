import Brainstem.Backend.Zmq
import Brainstem.Daemon.Effects
import Brainstem.Daemon.Entry

/-!
# Which ticks refresh the input freshness

The ZMQ source and the tick loop together (`Live`).  The source replays the modulators it
holds when the socket has nothing, and the loop takes the replay for input.  So a tick
observes ingress without a frame exactly if it replays (`ReplaysHeld`), and in a run that
never replays the freshness is that of the last frame (`Elapsed`).
-/

namespace Brainstem.Backend

open Brainstem.Health Brainstem.Daemon
open Brainstem.Ingress hiding Instant

/-- The source and the loop that polls it. -/
structure Live (Network : Type) where
  source : ZmqStimulusSource
  loop : TickLoop Network

/-- One tick: what the socket had for it, the frames received, and the tick itself. -/
structure Polled (Frame Entropy : Type) where
  recv : ℕ → Recv Frame
  frames : ℕ
  input : TickInput Entropy
  trace : TickTrace

variable {Network Entropy Frame ε : Type} (accept : Frame → IngressPolicy → ℕ → Except ε IngressPacket)
  (nm : Neuromod Network Entropy) (fl : ℚ → ℚ)

/-- The answer of the source takes the place of `received` in the input. -/
def Live.step (l : Live Network) (a : (ℕ → Recv Frame) × TickInput Entropy) :
    Option (Polled Frame Entropy × Live Network) :=
  let poll := l.source.nextIngress accept a.1
  let input := { a.2 with received := poll.answer }
  let (t, loop) := runTickPublished nm fl l.loop input
  some (⟨a.1, poll.frames, input, t⟩, ⟨poll.source, loop⟩)

/-- The daemon enters the loop with a source that has received nothing yet. -/
def Live.enter (ch : ℕ) (connected : Bool) (maxAge : Duration) (loop : TickLoop Network) :
    Live Network :=
  ⟨{ ZmqStimulusSource.withChannels ch with connected := connected, maxAge := maxAge }, loop⟩

/-- `IngressObserved` is applied in the tick. -/
def Polled.Observes (b : Polled Frame Entropy) : Prop :=
  ∃ now, (HealthEvent.ingressObserved, now) ∈ b.trace.events

/-- Nothing to receive, and modulators to replay. -/
structure ReplaysHeld (source : ZmqStimulusSource) (recv : ℕ → Recv Frame) : Prop where
  connected : source.connected = true
  again : recv 0 = .again
  held : ∃ mods ∈ source.lastModulators, mods ≠ []

/-- At `now`, `stale_after` has gone by since the checkpoint and since the last tick that
received a frame. -/
structure Elapsed (m : HealthMachine) (trace : List (Polled Frame Entropy × Live Network))
    (now : Instant) : Prop where
  checkpoint : ∀ t, m.checkpointAt = some t → t + m.limits.staleAfter ≤ now
  frames : ∀ e ∈ trace, 1 ≤ e.1.frames → e.1.input.clock .observed + m.limits.staleAfter ≤ now

/-! ## One tick -/

theorem observes_iff (d : TickLoop Network) (input : TickInput Entropy) :
    (∃ now, (HealthEvent.ingressObserved, now) ∈ (runTickPublished nm fl d input).1.events) ↔
      (takeIn d input).packet.any observesIngress = true := by
  let i := ingest d input
  let a := advance nm d input i.packet i.stats i.diagnostics
  have hevents : (runTickPublished nm fl d input).1.events =
      (observed d input ++ [(.queuePressure (reportedPressure d input).1 (reportedPressure d input).2,
        input.clock .pressure)]) ++ [(a.event, input.clock .outcome)] := rfl
  have hne : a.event ≠ .ingressObserved := by
    rcases advance_event nm d input i.packet i.stats i.diagnostics with h | ⟨e, h⟩
    · exact fun heq => HealthEvent.noConfusion (h.symm.trans heq)
    · exact fun heq => HealthEvent.noConfusion (h.symm.trans heq)
  rw [hevents]
  unfold observed
  by_cases hobs : (takeIn d input).packet.any observesIngress = true
  · simp [hobs]
  · simp [hobs, hne.symm]

theorem replay_observed {source : ZmqStimulusSource} (h : source.HeldFinite) :
    (((source.skipIngress false).filter fun packet => (backendNonFinite packet).isNone).any
      observesIngress = true) ↔ ∃ mods ∈ source.lastModulators, mods ≠ [] := by
  cases hheld : source.lastModulators with
  | none => simp [ZmqStimulusSource.skipIngress, hheld]
  | some mods =>
    let packet : IngressPacket := { IngressPacket.default with modulators := some mods }
    have hskip : source.skipIngress false = some packet := by
      simp [ZmqStimulusSource.skipIngress, hheld, packet, IngressPacket.default]
    have hfinite : firstNonFinite packet = none := by
      rw [firstNonFinite_eq_none]
      refine ⟨fun v hv => absurd hv List.not_mem_nil, fun m hm => ?_⟩
      exact h m (hheld ▸ hm)
    have hlive : backendNonFinite packet = none := hfinite
    have hobs : observesIngress packet = !mods.isEmpty := by
      unfold observesIngress
      rw [hfinite]
      simp [packetCarriesInput, packet, IngressPacket.default]
    rw [hskip, Option.filter_some, hlive, Option.isNone_none, if_pos rfl, Option.any_some, hobs]
    simp

/-- A tick observes ingress only with a frame, or else it replays. -/
theorem observes_needs_frame {l l' : Live Network} {a : (ℕ → Recv Frame) × TickInput Entropy}
    {b : Polled Frame Entropy} (h : l.source.HeldFinite)
    (hs : Live.step accept nm fl l a = some (b, l')) :
    (b.Observes → 1 ≤ b.frames) ↔ ¬ReplaysHeld l.source b.recv := by
  cases hs
  let input : TickInput Entropy :=
    { a.2 with received := (l.source.nextIngress accept a.1).answer }
  have hobs := observes_iff nm fl l.loop input
  have hpacket : (takeIn l.loop input).packet = _ := intake_packet input _ _
  rw [hpacket] at hobs
  show ((∃ now, _ ∈ (runTickPublished nm fl l.loop input).1.events) →
    1 ≤ (l.source.nextIngress accept a.1).frames) ↔ ¬ReplaysHeld l.source a.1
  rw [hobs]
  cases l.source.nextIngress_polls accept a.1 with
  | received buf nowNs h0 hframes =>
    exact ⟨fun _ hr => absurd hr.again (by simp [h0]), fun _ _ => hframes⟩
  | failed hno e hp =>
    have hnone : input.backendPacket = none := by
      simp [input, TickInput.backendPacket, hp]
    refine ⟨fun _ hr => hno hr.connected hr.again, fun _ hsome => ?_⟩
    simp [hnone] at hsome
  | idle hc h0 hp =>
    have hskip : input.backendPacket = l.source.skipIngress false := by
      simp [input, TickInput.backendPacket, hp]
    rw [hskip, replay_observed h, hp]
    constructor
    · intro hframes hr
      exact absurd (hframes hr.held) (by simp)
    · exact fun hr hheld => absurd ⟨hc, h0, hheld⟩ hr

/-! ## Runs -/

/-- What every tick keeps: finite modulators are held, and a machine that was up stays so until
a fatal error takes the checkpoint away. -/
structure Kept (l : Live Network) : Prop where
  held : l.source.HeldFinite
  initialized : l.loop.health.initialized = true
  checkpoint : l.loop.health.checkpointOk = l.loop.health.fatal.isNone
  validated : l.loop.health.checkpointAt.isSome = true

/-- The last observation is that of a tick that received a frame. -/
def FromFrame (trace : List (Polled Frame Entropy × Live Network)) (m : HealthMachine) : Prop :=
  ∀ t ∈ m.lastIngress, ∃ e ∈ trace, 1 ≤ e.1.frames ∧ e.1.input.clock .observed = t

variable {accept nm fl}

theorem Kept.enter {net : NetParsers} {cfg : DaemonConfig} {d : TickLoop Network}
    (h : Enters nm net fl cfg d) (ch : ℕ) (connected : Bool) (maxAge : Duration) :
    Kept (.enter ch connected maxAge d) := by
  obtain ⟨_, _, _, hhealth⟩ := h.health
  have hloop : (Live.enter ch connected maxAge d).loop.health = d.health := rfl
  rw [hhealth] at hloop
  refine ⟨fun mods hmods => ?_, ?_, ?_, ?_⟩
  · cases hmods
  all_goals simp [hloop, HealthMachine.new]

/-- The machine after a tick of the live system, the published counters aside. -/
theorem step_health {l l' : Live Network} {a : (ℕ → Recv Frame) × TickInput Entropy}
    {b : Polled Frame Entropy} (hs : Live.step accept nm fl l a = some (b, l')) :
    ∃ m : HealthMachine, ∃ observed pressure, HealthEffect fl observed pressure l.loop.health m ∧
      (∀ t ∈ observed, b.Observes ∧ b.input.clock .observed = t) ∧
      l'.loop.health = { m with counters := m.counters.mergedMonotonic l'.loop.stats.counters } := by
  cases hs
  let input : TickInput Entropy := { a.2 with received := (l.source.nextIngress accept a.1).answer }
  refine ⟨(runTick nm fl l.loop input).2.health, _, _, runTick_health nm fl l.loop input, ?_, rfl⟩
  intro t ht
  split at ht
  · next hobs => exact ⟨(observes_iff nm fl l.loop input).2 hobs, Option.some.inj ht⟩
  · cases ht

theorem Kept.step {l l' : Live Network} {a : (ℕ → Recv Frame) × TickInput Entropy}
    {b : Polled Frame Entropy} (h : Kept l) (hs : Live.step accept nm fl l a = some (b, l')) :
    Kept l' := by
  obtain ⟨m, observed, pressure, he, -, hhealth⟩ := step_health hs
  have hheld : l'.source.HeldFinite := by
    cases hs
    exact h.held.nextIngress accept a.1
  have hcheckpoint : m.checkpointOk = m.fatal.isNone := by
    rcases he.checkpoint with ⟨hok, hfatal⟩ | ⟨hok, hfatal⟩
    · rw [hok, hfatal]
      exact h.checkpoint
    · rw [hok, ← Option.not_isSome, hfatal]
      rfl
  refine ⟨hheld, ?_, ?_, ?_⟩ <;> rw [hhealth]
  · exact he.initialized.trans h.initialized
  · exact hcheckpoint
  · show m.checkpointAt.isSome = true
    rw [he.checkpointAt]
    exact h.validated

theorem FromFrame.step {l l' : Live Network} {a : (ℕ → Recv Frame) × TickInput Entropy}
    {b : Polled Frame Entropy} {trace : List (Polled Frame Entropy × Live Network)}
    (h : FromFrame trace l.loop.health) (hs : Live.step accept nm fl l a = some (b, l'))
    (hframe : b.Observes → 1 ≤ b.frames) : FromFrame (trace ++ [(b, l')]) l'.loop.health := by
  obtain ⟨m, observed, pressure, he, hobs, hhealth⟩ := step_health hs
  have hlast : l'.loop.health.lastIngress = observed.or l.loop.health.lastIngress := by
    rw [hhealth]
    exact he.lastIngress
  intro t ht
  rw [hlast] at ht
  cases hcase : observed with
  | some t' =>
    rw [hcase] at ht
    cases ht
    obtain ⟨hb, hclock⟩ := hobs t hcase
    exact ⟨(b, l'), by simp, hframe hb, hclock⟩
  | none =>
    rw [hcase] at ht
    obtain ⟨e, hmem, he⟩ := h t ht
    exact ⟨e, by simp [hmem], he⟩

/-- In a run without a replay the last observation is that of a frame. -/
theorem run_fromFrame {l₀ l : Live Network} {trace : List (Polled Frame Entropy × Live Network)}
    (h0 : Kept l₀) (hnew : l₀.loop.health.lastIngress = none)
    (hr : Run (Live.step accept nm fl) l₀ trace l) :
    Kept l ∧ (Run.Each (fun l b _ => ¬ReplaysHeld l.source b.recv) l₀ trace →
      FromFrame trace l.loop.health) := by
  induction hr with
  | refl => exact ⟨h0, fun _ t ht => by simp [hnew] at ht⟩
  | snoc a hr hs ih =>
    obtain ⟨hkept, hfrom⟩ := ih
    refine ⟨hkept.step hs, fun heach => ?_⟩
    rw [Run.each_concat, Run.last_eq hr] at heach
    exact (hfrom heach.1).step hs ((observes_needs_frame accept nm fl hkept.held hs).2 heach.2)

theorem stale_of_elapsed {l : Live Network} {trace : List (Polled Frame Entropy × Live Network)}
    {now : Instant} (h : Kept l) (hfrom : FromFrame trace l.loop.health)
    (helapsed : Elapsed l.loop.health trace now) :
    (l.loop.health.snapshot fl now).inputFreshness.stale = l.loop.health.fatal.isNone := by
  show l.loop.health.computeStale now = _
  obtain ⟨at', hat⟩ := Option.isSome_iff_exists.1 h.validated
  have hbase : ∃ t, l.loop.health.lastIngress.or l.loop.health.checkpointAt = some t ∧
      t + l.loop.health.limits.staleAfter ≤ now := by
    cases hlast : l.loop.health.lastIngress with
    | none => exact ⟨at', by simp [hat], helapsed.checkpoint at' hat⟩
    | some t =>
      obtain ⟨e, hmem, hframes, rfl⟩ := hfrom t hlast
      exact ⟨_, rfl, helapsed.frames e hmem hframes⟩
  obtain ⟨t, ht, hle⟩ := hbase
  unfold HealthMachine.computeStale
  rw [h.initialized, h.checkpoint, ht]
  cases l.loop.health.fatal with
  | some f => rfl
  | none =>
    have hgap : l.loop.health.limits.staleAfter ≤ now - t := Nat.le_sub_of_add_le' hle
    simpa using hgap

/-- **A tick observes ingress without a frame exactly if it replays held modulators.**  In a run
that never does, a snapshot after `stale_after` without a frame shows stale input, whatever the
source holds, until a fatal error takes the checkpoint away. -/
theorem freshness_needs_frames {net : NetParsers} {cfg : DaemonConfig} {d₀ : TickLoop Network}
    (h0 : Enters nm net fl cfg d₀) (ch : ℕ) (connected : Bool) (maxAge : Duration)
    {trace : List (Polled Frame Entropy × Live Network)} {l : Live Network}
    (hr : Run (Live.step accept nm fl) (.enter ch connected maxAge d₀) trace l) :
    Run.Each (fun l b _ => (b.Observes → 1 ≤ b.frames) ↔ ¬ReplaysHeld l.source b.recv)
      (.enter ch connected maxAge d₀) trace ∧
    (Run.Each (fun l b _ => ¬ReplaysHeld l.source b.recv) (.enter ch connected maxAge d₀) trace →
      Run.Each (fun _ b _ => b.Observes → 1 ≤ b.frames) (.enter ch connected maxAge d₀) trace ∧
      ∀ now, Elapsed l.loop.health trace now →
        ((l.loop.health.snapshot fl now).inputFreshness.stale = true ↔
          l.loop.health.fatal = none)) := by
  have hkept := Kept.enter h0 ch connected maxAge
  have heach : Run.Each (fun l b _ => (b.Observes → 1 ≤ b.frames) ↔ ¬ReplaysHeld l.source b.recv)
      (.enter ch connected maxAge d₀) trace := by
    refine (Run.each (I := Kept) hkept ?_ ?_ hr).2
    · exact fun l a b l' h hs => h.step hs
    · exact fun l a b l' h hs => observes_needs_frame accept nm fl h.held hs
  have hnew : (Live.enter ch connected maxAge d₀).loop.health.lastIngress = none := by
    obtain ⟨_, _, _, hhealth⟩ := h0.health
    show d₀.health.lastIngress = none
    rw [hhealth]
    rfl
  obtain ⟨hkeptl, hfrom⟩ := run_fromFrame hkept hnew hr
  refine ⟨heach, fun hno => ⟨?_, fun now helapsed => ?_⟩⟩
  · exact (heach.imp fun _ _ _ h => h.2).mp hno
  · rw [stale_of_elapsed hkeptl (hfrom hno) helapsed, Option.isNone_iff_eq_none]

/-! ## A replay that counts as input -/

/-- Every frame is a snapshot of the neuromodulators. -/
def snapshotFrames : List F32 → IngressPolicy → ℕ → Except String IngressPacket :=
  fun mods _ _ => .ok { IngressPacket.default with modulators := some mods }

/-- One snapshot, received at instant zero. -/
def firstTick : Polled (List F32) Unit × Live (ℕ × ℕ × ℕ) :=
  (Live.step snapshotFrames .quiet F64.binary64 (.enter 2 true 1000000000 (.quiet F64.binary64))
    (fun i => if i = 0 then .frame [.half, .half, .half, .half] 0 else .again, .idle)).get rfl

/-- One second later the socket has nothing. -/
def secondTick : Polled (List F32) Unit × Live (ℕ × ℕ × ℕ) :=
  (Live.step snapshotFrames .quiet F64.binary64 firstTick.2
    (fun _ => .again, { TickInput.idle with clock := fun _ => 1000000000 })).get rfl

theorem firstTick_run : Run (Live.step snapshotFrames .quiet F64.binary64)
    (.enter 2 true 1000000000 (.quiet F64.binary64)) [firstTick] firstTick.2 :=
  .snoc _ .refl rfl

/-- A second without a frame is stale. -/
theorem freshness_needs_frames_one_frame :
    (firstTick.2.loop.health.snapshot F64.binary64 1000000000).inputFreshness.stale = true := by
  have hfatal : firstTick.2.loop.health.fatal = none := by decide +kernel
  have hstale : firstTick.2.loop.health.limits.staleAfter = 500000000 := by decide +kernel
  have hat : firstTick.2.loop.health.checkpointAt = some 0 := by decide +kernel
  have hrun := freshness_needs_frames (TickLoop.enters_quiet F64.binary64) 2 true 1000000000
    firstTick_run
  refine ((hrun.2 ⟨?_, trivial⟩).2 1000000000 ⟨?_, ?_⟩).2 hfatal
  · intro hr
    have hfirst : Recv.frame [F32.half, .half, .half, .half] 0 = .again := hr.again
    cases hfirst
  · intro t ht
    rw [hat] at ht
    cases ht
    rw [hstale]
    decide
  · intro e he hframes
    rw [List.mem_singleton.1 he, hstale]
    decide

/-- The tick without a frame applies `IngressObserved`, and the input is fresh again. -/
theorem replay_refreshes :
    Enters .quiet .any F64.binary64 .quiet (TickLoop.quiet F64.binary64) ∧
    Run (Live.step snapshotFrames .quiet F64.binary64)
      (.enter 2 true 1000000000 (.quiet F64.binary64)) [firstTick, secondTick] secondTick.2 ∧
    secondTick.1.frames = 0 ∧ secondTick.1.Observes ∧
    Elapsed secondTick.2.loop.health [firstTick, secondTick] 1000000000 ∧
    secondTick.2.loop.health.fatal = none ∧
    (secondTick.2.loop.health.snapshot F64.binary64 1000000000).inputFreshness.stale = false := by
  have hstale : secondTick.2.loop.health.limits.staleAfter = 500000000 := by decide +kernel
  have hat : secondTick.2.loop.health.checkpointAt = some 0 := by decide +kernel
  have hframes : secondTick.1.frames = 0 := by decide +kernel
  refine ⟨TickLoop.enters_quiet _, .snoc _ firstTick_run rfl, hframes, ⟨1000000000, ?_⟩, ⟨?_, ?_⟩,
    by decide +kernel, by decide +kernel⟩
  · decide +kernel
  · intro t ht
    rw [hat] at ht
    cases ht
    rw [hstale]
    decide
  · intro e he hreceived
    rw [hstale]
    rcases List.mem_pair.1 he with rfl | rfl
    · decide
    · omega

end Brainstem.Backend
