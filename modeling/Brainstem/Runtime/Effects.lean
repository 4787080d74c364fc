import Brainstem.Runtime.Rules

/-!
# What one call on the harness can do

Each operation of `RuntimeHarness` gets one statement of everything it can do to
the store, the published outputs and the live flag, on every exit; the invariants of
later modules are read off these and never unfold an operation again.

A tick from a live harness that agrees with its store (`Agrees`) either publishes
nothing and leaves the committed numbers of the store alone (`Unpublished`), or
publishes the packet at the head of the source and commits it (`Published`).

    live h → Agrees J h → TickEffect J h ((runTick J).exec h).2        (runTick_effect)
    BootEffect J h ((boot J).exec h).2                                 (boot_effect)
-/

namespace Brainstem.Runtime

namespace RuntimeHarness

open Proc

variable {ok : Unit → RuntimeHarness → Prop} {err : String → RuntimeHarness → Prop}
  {h : RuntimeHarness}

/-- No longer ticking, and not reported as live. -/
def Stopped (h : RuntimeHarness) : Prop := h.live = false ∧ h.health ≠ .live

theorem faulted_stopped (point : FaultPoint) (h : RuntimeHarness) : (h.faulted point).Stopped := by
  refine ⟨rfl, fun hl => ?_⟩
  have hl : injectedTerminalHealth point = .live := hl
  have := applyFault_live point
  simp [hl] at this

/-! ## Memory and store agree -/

/-- What a live harness may rely on between two calls. -/
structure Agrees (J : SerdeJson) (h : RuntimeHarness) : Prop where
  health : h.health = .live
  holds : Holds J h.store h.durable
  clean : h.durable.inflight = none
  session : h.durable.lastSessionId = h.sessionId
  started : h.sessionId ≠ 0
  channel : h.channelOpen = true

/-- The committed numbers and the session, which a tick must not move without publishing. -/
def SameCommit (s t : DurableState) : Prop :=
  s.lastSessionId = t.lastSessionId ∧ s.committedTickSeq = t.committedTickSeq ∧
    s.committedIngressSeq = t.committedIngressSeq

/-- Nothing was published by going from `h` to `h'`, and the store still holds what was
committed. -/
structure Unpublished (J : SerdeJson) (h h' : RuntimeHarness) : Prop where
  published : h'.published = h.published
  metrics : h'.metrics = h.metrics
  store : ∃ s, Holds J h'.store s ∧ SameCommit s h.durable

/-- Going from `h` to `h'` published `packet` as the next tick, and committed it. -/
structure Published (J : SerdeJson) (h : RuntimeHarness) (packet : SequencedIngress)
    (out : CommittedOutput) (h' : RuntimeHarness) : Prop where
  session : out.sessionId = h.sessionId
  tick : out.tickSeq.toNat = h.durable.committedTickSeq.toNat + 1
  ingress : out.ingressSeq = packet.seq
  spikes : (FakeCore.default.step packet.stimuli).1 = .ok out.spikeIds
  published : h'.published = h.published ++ [out]
  metrics : h'.metrics = h.metrics ++ [⟨out.sessionId, out.tickSeq, out.ingressSeq⟩]
  store : Holds J h'.store (committedState h out.tickSeq packet)

theorem Agrees.started_durable {J : SerdeJson} (ha : Agrees J h) : h.durable.lastSessionId ≠ 0 := by
  rw [ha.session]; exact ha.started

theorem inflightState_valid {J : SerdeJson} (ha : Agrees J h) {tickSeq : UInt64}
    (ht : tickSeq.toNat = h.durable.committedTickSeq.toNat + 1) {packet : SequencedIngress}
    (hp : h.durable.committedIngressSeq < packet.seq) : (h.inflightState tickSeq packet).Valid where
  schema := ha.holds.1.schema
  checkpoint := ha.holds.1.checkpoint
  session := fun h0 => absurd h0 ha.started_durable
  inflight := by
    rintro r ⟨⟩
    exact ⟨ht, ha.session.symm, hp⟩

theorem committedState_valid {J : SerdeJson} (ha : Agrees J h) (tickSeq : UInt64)
    (packet : SequencedIngress) : (h.committedState tickSeq packet).Valid where
  schema := ha.holds.1.schema
  checkpoint := ha.holds.1.checkpoint
  session := fun h0 => absurd h0 ha.started_durable
  inflight := by rintro r ⟨⟩

/-! ## The parts of a tick -/

section
variable {J : SerdeJson} (hJ : J.RoundTrips)
include hJ

theorem executeTick_effect (ha : Agrees J h) {packet : SequencedIngress}
    (hp : h.durable.committedIngressSeq < packet.seq) :
    wp (executeTick J packet)
      (fun r h' => r.1.toNat = h.durable.committedTickSeq.toNat + 1 ∧
        (FakeCore.default.step packet.stimuli).1 = .ok r.2 ∧
        ∃ store core, Holds J store (h.inflightState r.1 packet) ∧
          h' = { h with durable := h.inflightState r.1 packet, store := store, core := core })
      (fun _ h' => h'.Stopped ∧ Unpublished J h h') h := by
  have hun : ∀ h', h'.store = h.store → h'.published = h.published → h'.metrics = h.metrics →
      Unpublished J h h' := fun h' h1 h2 h3 => ⟨h2, h3, h.durable, h1 ▸ ha.holds, rfl, rfl, rfl⟩
  refine wp_executeTick hJ (fun tickSeq ht => inflightState_valid ha ht hp) ?_ ?_ ?_ ?_
  · intro _ e
    exact ⟨faulted_stopped _ _, hun _ rfl rfl rfl⟩
  · -- the tick counter is exhausted
    intro _ e
    exact ⟨⟨rfl, by simp⟩, hun _ rfl rfl rfl⟩
  · intro point tickSeq store core e _ _ hs
    exact ⟨faulted_stopped _ _, rfl, rfl, _, hs, rfl, rfl, rfl⟩
  · intro tickSeq spikeIds store core _ ht hsp hs
    exact ⟨ht, hsp, store, core, hs, rfl⟩

theorem publishMetrics_effect (ha : Agrees J h) (hlive : h.live = true) {packet : SequencedIngress}
    {tickSeq : UInt64} (ht : tickSeq.toNat = h.durable.committedTickSeq.toNat + 1)
    {spikeIds : List UInt16} (hsp : (FakeCore.default.step packet.stimuli).1 = .ok spikeIds)
    {store : DurableStore} {core : FakeCore} (hs : Holds J store (h.inflightState tickSeq packet)) :
    wp (publishMetrics J tickSeq packet.seq spikeIds)
      (fun _ h' => ∃ out, Published J h packet out h' ∧ h'.live = true ∧ Agrees J h' ∧
        h'.durable = h.committedState out.tickSeq packet ∧ h'.source = h.source ∧
        h'.stepsTaken = h.stepsTaken ∧ h'.sessionId = h.sessionId)
      (fun _ h' => h'.Stopped ∧ (Unpublished J h h' ∨ ∃ out, Published J h packet out h'))
      { h with durable := h.inflightState tickSeq packet, store := store, core := core } := by
  have hpub : ∀ {store' h'},
      h'.published = h.published ++ [⟨h.sessionId, tickSeq, packet.seq, spikeIds, h.clock.nowNs⟩] →
      h'.metrics = h.metrics ++ [⟨h.sessionId, tickSeq, packet.seq⟩] → h'.store = store' →
      Holds J store' (h.committedState tickSeq packet) →
      Published J h packet ⟨h.sessionId, tickSeq, packet.seq, spikeIds, h.clock.nowNs⟩ h' :=
    fun h1 h2 h3 hs' => ⟨rfl, ht, rfl, hsp, h1, h2, h3 ▸ hs'⟩
  refine wp_publishMetrics hJ ha.channel (committedState_valid ha tickSeq packet) ?_ ?_ ?_
  · intro point clock e _ _
    exact ⟨faulted_stopped _ _, .inl ⟨rfl, rfl, _, hs, rfl, rfl, rfl⟩⟩
  · intro _ store' e hs'
    exact ⟨faulted_stopped _ _, .inr ⟨_, hpub rfl rfl rfl hs'⟩⟩
  · intro _ store' hs'
    exact ⟨_, hpub rfl rfl rfl hs', hlive,
      ⟨ha.health, hs', rfl, ha.session, ha.started, ha.channel⟩, rfl, rfl, rfl, rfl⟩

omit hJ in
theorem beginTick_effect (hlive : h.live = true) :
    wp beginTick
      (fun _ h' => ∃ clock steps, h' = { h with clock := clock, stepsTaken := steps } ∧
        steps.toNat = h.stepsTaken.toNat + 1 ∧ steps.toNat ≤ 64)
      (fun _ h' => ∃ steps, h' = { h with stepsTaken := steps } ∧ 64 < steps.toNat ∧
        64 ≤ h.stepsTaken.toNat) h := by
  unfold beginTick
  simp only [wp_bind, wp_get, wp_set, wp_ite, wp_throw, wp_modify]
  refine ⟨fun _ => ⟨fun hlt => ⟨_, rfl, hlt, ?_⟩, fun hle => ⟨_, _, rfl, ?_⟩⟩, fun hn => absurd hlive hn⟩
  · have hlt : (64 : Nat) < (h.stepsTaken.saturatingAdd 1).toNat := hlt
    rcases h.stepsTaken.saturatingAdd_one with h1 | h1 <;> omega
  · have hle : ¬(64 : Nat) < (h.stepsTaken.saturatingAdd 1).toNat := hle
    rcases h.stepsTaken.saturatingAdd_one with h1 | h1 <;> omega

omit hJ in
theorem ingress_effect (ha : Agrees J h) :
    wp ingress
      (fun r h' => r = h.source.packets.head? ∧ h' = { h with source := ⟨h.source.packets.tail⟩ })
      (fun _ h' => h'.Stopped ∧ Unpublished J h h') h := by
  have hun : ∀ h', h'.store = h.store → h'.published = h.published → h'.metrics = h.metrics →
      Unpublished J h h' := fun h' h1 h2 h3 => ⟨h2, h3, h.durable, h1 ▸ ha.holds, rfl, rfl, rfl⟩
  refine wp_ingress ha.channel ?_ ?_
  · intro point source e _ _
    exact ⟨faulted_stopped _ _, hun _ rfl rfl rfl⟩
  · intro _
    exact ⟨rfl, rfl⟩

end

/-- Everything a tick can come to, from a live harness that agrees with its store. -/
inductive TickEffect (J : SerdeJson) (h h' : RuntimeHarness) : Prop where
  /-- a fault or an exhausted counter: nothing published, ticking is over -/
  | stopped (hs : h'.Stopped) (hu : Unpublished J h h')
  /-- the step limit was reached: nothing was consumed -/
  | limited (hl : h'.live = true) (ha : Agrees J h') (hu : Unpublished J h h')
      (hd : h'.durable = h.durable) (hsrc : h'.source = h.source)
      (hsteps : 64 < h'.stepsTaken.toNat)
  /-- an empty source, or a replay that was skipped -/
  | skipped (hl : h'.live = true) (ha : Agrees J h') (hu : Unpublished J h h')
      (hd : h'.durable = h.durable) (hsrc : h'.source.packets = h.source.packets.tail)
      (hreplay : ∀ p ∈ h.source.packets.head?, p.seq ≤ h.durable.committedIngressSeq)
      (hsteps : h'.stepsTaken.toNat = h.stepsTaken.toNat + 1 ∧ h'.stepsTaken.toNat ≤ 64)
  /-- the head of the source was published and committed -/
  | committed (packet : SequencedIngress) (rest : List SequencedIngress) (out : CommittedOutput)
      (hsrc : h.source.packets = packet :: rest)
      (hfresh : h.durable.committedIngressSeq < packet.seq) (hp : Published J h packet out h')
      (hnext : h'.Stopped ∨ h'.live = true ∧ Agrees J h' ∧
        h'.durable = h.committedState out.tickSeq packet ∧ h'.source.packets = rest)
      (hsteps : h.stepsTaken.toNat + 1 ≤ 64 ∧
        (h'.live = true → h'.stepsTaken.toNat = h.stepsTaken.toNat + 1))

theorem runTick_wp {J : SerdeJson} (hJ : J.RoundTrips) (ha : Agrees J h) (hlive : h.live = true) :
    wp (runTick J) (fun _ h' => TickEffect J h h') (fun _ h' => TickEffect J h h') h := by
  unfold runTick
  simp only [wp_bind]
  refine wp_mono (beginTick_effect hlive) ?_ ?_
  · rintro _ _ ⟨clock, steps, rfl, hsteps, hmax⟩
    have ha₁ : Agrees J { h with clock := clock, stepsTaken := steps } := { ha with }
    refine wp_mono (ingress_effect ha₁) ?_ ?_
    · rintro _ _ ⟨rfl, rfl⟩
      split
      · next hnil =>
        refine .skipped hlive { ha with } ⟨rfl, rfl, h.durable, ha.holds, rfl, rfl, rfl⟩ rfl rfl ?_
          ⟨hsteps, hmax⟩
        simp only [hnil, Option.mem_def, reduceCtorEq, false_implies, implies_true]
      · next packet hhead =>
        obtain ⟨rest, hsrc⟩ : ∃ rest, h.source.packets = packet :: rest := by
          simpa [List.head?_eq_some_iff] using hhead
        simp only [wp_bind, wp_get, wp_ite, wp_set, wp_pure]
        refine ⟨fun hle => ?_, fun hgt => ?_⟩
        · refine .skipped hlive { ha with } ⟨rfl, rfl, h.durable, ha.holds, rfl, rfl, rfl⟩ rfl rfl
            ?_ ⟨hsteps, hmax⟩
          rw [hhead]
          rintro p ⟨⟩
          exact hle
        · have hfresh : h.durable.committedIngressSeq < packet.seq := UInt64.not_le.1 hgt
          have ha₂ : Agrees J { h with
            clock := clock, stepsTaken := steps, source := ⟨h.source.packets.tail⟩ } := { ha with }
          refine wp_mono (executeTick_effect hJ ha₂ hfresh) ?_ ?_
          · rintro ⟨tickSeq, spikeIds⟩ _ ⟨ht, hsp, store, core, hs, rfl⟩
            refine wp_mono (publishMetrics_effect hJ ha₂ hlive ht hsp hs) ?_ ?_
            · rintro _ h' ⟨out, hp, hl', ha', hd', hsrc', hst', -⟩
              refine .committed packet rest out hsrc hfresh { hp with } (.inr ⟨hl', ha', hd', ?_⟩)
                ⟨by omega, fun _ => by rw [hst']; exact hsteps⟩
              rw [hsrc', hsrc, List.tail_cons]
            · rintro _ h' ⟨hstop, hu | ⟨out, hp⟩⟩
              · exact .stopped hstop { hu with }
              · refine .committed packet rest out hsrc hfresh { hp with } (.inl hstop)
                  ⟨by omega, fun hl => ?_⟩
                rw [hstop.1] at hl; cases hl
          · rintro _ h' ⟨hstop, hu⟩
            exact .stopped hstop { hu with }
    · rintro _ h' ⟨hstop, hu⟩
      exact .stopped hstop { hu with }
  · rintro _ _ ⟨steps, rfl, hsteps, -⟩
    exact .limited hlive { ha with } ⟨rfl, rfl, h.durable, ha.holds, rfl, rfl, rfl⟩ rfl rfl hsteps

theorem runTick_effect {J : SerdeJson} (hJ : J.RoundTrips) (ha : Agrees J h)
    (hlive : h.live = true) : TickEffect J h ((runTick J).exec h).2 :=
  wp_final (runTick_wp hJ ha hlive)

/-- A harness that is not live refuses the tick and does not change. -/
theorem runTick_refuses {J : SerdeJson} (hlive : h.live = false) :
    ∃ e, (runTick J).exec h = (.error e, h) := by
  have hwp : wp (runTick J) (fun _ _ => False) (fun _ h' => h' = h) h := by
    unfold runTick beginTick
    simp [hlive]
  rcases hx : (runTick J).exec h with ⟨e | r, h'⟩
  · rw [wp_of_exec_error hwp hx]
    exact ⟨e, rfl⟩
  · exact (wp_of_exec_ok hwp hx).elim

theorem runTick_of_not_live {J : SerdeJson} (hlive : h.live = false) :
    ((runTick J).exec h).2 = h := by
  obtain ⟨e, hx⟩ := runTick_refuses hlive
  rw [hx]

/-- With nothing armed, a tick publishes the packet at the head of the source. -/
theorem runTick_unarmed {J : SerdeJson} (hJ : J.RoundTrips) (ha : Agrees J h) (hlive : h.live = true)
    (harm : h.injector.armed = none) {packet : SequencedIngress} {rest : List SequencedIngress}
    (hsrc : h.source.packets = packet :: rest) (hfresh : h.durable.committedIngressSeq < packet.seq)
    (hsteps : h.stepsTaken.toNat < 64) (htick : h.durable.committedTickSeq.toNat < 64) :
    let h' := ((runTick J).exec h).2
    h'.live = true ∧ h'.injector.armed = none ∧ h'.stepsTaken.toNat = h.stepsTaken.toNat + 1 ∧
      h'.published.length = h.published.length + 1 ∧ h'.source.packets = rest := by
  have hquiet : ∀ {p}, h.injector.armed ≠ some p := by
    intro p hp
    rw [harm] at hp
    cases hp
  refine wp_final (x := runTick J) (q := fun h' => h'.live = true ∧ h'.injector.armed = none ∧
    h'.stepsTaken.toNat = h.stepsTaken.toNat + 1 ∧ h'.published.length = h.published.length + 1 ∧
    h'.source.packets = rest) ?_
  unfold runTick
  simp only [wp_bind]
  refine wp_mono (beginTick_effect hlive) ?_ ?_
  · rintro _ _ ⟨clock, steps, rfl, hsteps', -⟩
    have hnot : ¬packet.seq ≤ h.durable.committedIngressSeq := UInt64.not_le.2 hfresh
    refine wp_ingress ha.channel (fun _ _ _ hp => absurd hp hquiet) fun _ => ?_
    simp only [hsrc, List.head?_cons, List.tail_cons, wp_bind, wp_get, if_neg hnot]
    refine wp_executeTick hJ (fun _ ht => inflightState_valid ha ht hfresh)
      (fun hp => absurd hp hquiet) ?_ (fun _ _ _ _ _ hp => absurd hp hquiet) ?_
    · intro hmax
      have hmax : h.durable.committedTickSeq = UInt64.max := hmax
      simp [hmax, UInt64.max] at htick
    · intro tickSeq spikeIds store core _ _ _ _
      refine wp_publishMetrics hJ ha.channel (committedState_valid ha tickSeq packet)
        (fun _ _ _ hp => absurd hp hquiet) (fun hp => absurd hp hquiet) fun _ store' _ => ?_
      exact ⟨hlive, harm, hsteps', by simp [publishing], rfl⟩
  · rintro _ _ ⟨steps, -, -, hge⟩
    omega

/-! ## Boot and shutdown -/

/-- What boot and shutdown never touch. -/
structure SameInput (h h' : RuntimeHarness) : Prop where
  source : h'.source = h.source
  steps : h'.stepsTaken = h.stepsTaken

theorem validateCheckpoint_effect {J : SerdeJson} (hJ : J.RoundTrips) :
    wp (validateCheckpoint J)
      (fun _ h' => SameInput h h' ∧ h'.published = h.published ∧ h'.metrics = h.metrics ∧
        h'.channelOpen = h.channelOpen ∧ h'.injector = h.injector ∧ h'.sessionId = h'.durable.lastSessionId ∧
        Resumes J h.store h'.durable ∧ Holds J h'.store h'.durable)
      (fun _ h' => h'.Stopped ∧ SameInput h h' ∧ h'.published = h.published ∧
        h'.metrics = h.metrics ∧
        (h'.store = h.store ∨ h'.store = DurableStore.malformed INJECTED_MALFORMED) ∧
        (h.injector.armed = none → ¬∃ s, Resumes J h.store s)) h := by
  have hrej : ∀ h' : RuntimeHarness, h'.live = false → h'.health = .checkpointInvalid →
      h'.Stopped := fun _ hl hh => ⟨hl, by simp [hh]⟩
  refine wp_validateCheckpoint hJ ?_ ?_ ?_ ?_ ?_
  · intro harm e
    exact ⟨faulted_stopped _ _, ⟨rfl, rfl⟩, rfl, rfl, .inl rfl, fun hnone => by simp [harm] at hnone⟩
  · intro harm e
    exact ⟨hrej _ rfl rfl, ⟨rfl, rfl⟩, rfl, rfl, .inr rfl, fun hnone => by simp [harm] at hnone⟩
  · intro _ hno prior _ e
    exact ⟨hrej _ rfl rfl, ⟨rfl, rfl⟩, rfl, rfl, .inl rfl, fun _ => hno⟩
  · intro _ _ hl store hs
    exact ⟨⟨rfl, rfl⟩, rfl, rfl, rfl, rfl, rfl, .fresh hl, hs⟩
  · intro _ _ s next hl hmax hn store hs
    exact ⟨⟨rfl, rfl⟩, rfl, rfl, rfl, rfl, rfl, .recovered s next hl hmax hn, hs⟩

/-- Everything a boot can come to, from any harness. -/
structure BootEffect (J : SerdeJson) (h h' : RuntimeHarness) : Prop where
  input : SameInput h h'
  /-- the buffers are cleared, unless the boot failed before touching anything -/
  buffers : h'.published = [] ∧ h'.metrics = [] ∨
    h'.Stopped ∧ h'.published = h.published ∧ h'.metrics = h.metrics
  store : h'.Stopped ∧ h'.store = h.store ∨
    h'.Stopped ∧ h'.store = DurableStore.malformed INJECTED_MALFORMED ∨
    ∃ s, Resumes J h.store s ∧ Holds J h'.store s ∧
      (h'.Stopped ∨ h'.live = true ∧ Agrees J h' ∧ h'.durable = s)

theorem boot_wp {J : SerdeJson} (hJ : J.RoundTrips) :
    wp (boot J) (fun _ h' => BootEffect J h h' ∧ h'.live = true ∧ h'.injector = h.injector)
      (fun _ h' => BootEffect J h h' ∧ h'.Stopped ∧
        (h.injector.armed = none → ¬∃ s, Resumes J h.store s)) h := by
  unfold boot
  simp only [wp_bind, wp_modify]
  refine wp_initializeRuntime ?_ ?_ fun _ => ?_
  · intro harm e
    exact ⟨⟨⟨rfl, rfl⟩, .inr ⟨faulted_stopped _ _, rfl, rfl⟩, .inl ⟨faulted_stopped _ _, rfl⟩⟩,
      faulted_stopped _ _, fun hnone => by simp [hnone] at harm⟩
  · intro harm e
    exact ⟨⟨⟨rfl, rfl⟩, .inl ⟨rfl, rfl⟩, .inl ⟨faulted_stopped _ _, rfl⟩⟩, faulted_stopped _ _,
      fun hnone => by simp [hnone] at harm⟩
  · refine wp_mono (validateCheckpoint_effect hJ) ?_ ?_
    · rintro _ h' ⟨⟨hsrc, hst⟩, hp, hm, hopen, hinj, hses, hr, hs⟩
      have hinj : h'.injector = h.injector := hinj
      refine (wp_failPoint _).2 ⟨fun harm => ?_, fun _ => ?_⟩
      · refine ⟨⟨⟨hsrc, hst⟩, .inl ⟨hp, hm⟩, .inr (.inr ⟨_, hr, hs, .inl (faulted_stopped _ _)⟩)⟩,
          faulted_stopped _ _, fun hnone => ?_⟩
        rw [hinj] at harm
        rw [hnone] at harm
        cases harm
      · obtain ⟨-, hclean, h0⟩ := hr.valid
        exact ⟨⟨⟨hsrc, hst⟩, .inl ⟨hp, hm⟩, .inr (.inr ⟨_, hr, hs, .inr ⟨rfl,
          ⟨rfl, hs, hclean, hses.symm, by rw [hses]; exact h0, hopen⟩, rfl⟩⟩)⟩, trivial, hinj⟩
    · rintro _ h' ⟨hstop, ⟨hsrc, hst⟩, hp, hm, hstore, hacc⟩
      refine ⟨⟨⟨hsrc, hst⟩, .inl ⟨hp, hm⟩, ?_⟩, hstop, hacc⟩
      rcases hstore with hstore | hstore
      · exact .inl ⟨hstop, hstore⟩
      · exact .inr (.inl ⟨hstop, hstore⟩)

theorem boot_effect {J : SerdeJson} (hJ : J.RoundTrips) (h : RuntimeHarness) :
    BootEffect J h ((boot J).exec h).2 :=
  wp_final (wp_mono (boot_wp hJ) (fun _ _ hb => hb.1) (fun _ _ hb => hb.1))

/-- With nothing armed, a boot from a store it can resume is live with empty buffers. -/
theorem boot_unarmed {J : SerdeJson} (hJ : J.RoundTrips) (harm : h.injector.armed = none)
    (hr : ∃ s, Resumes J h.store s) :
    let h' := ((boot J).exec h).2
    h'.live = true ∧ h'.injector.armed = none ∧ h'.stepsTaken = h.stepsTaken ∧ h'.published = [] ∧
      h'.source = h.source := by
  have hb := boot_wp hJ (h := h)
  rcases hx : (boot J).exec h with ⟨e | ⟨⟩, h'⟩
  · exact absurd hr ((wp_of_exec_error hb hx).2.2 harm)
  · obtain ⟨heff, hl, hinj⟩ := wp_of_exec_ok hb hx
    refine ⟨hl, by rw [hinj]; exact harm, heff.input.steps, ?_, heff.input.source⟩
    rcases heff.buffers with ⟨hp, -⟩ | ⟨hs, -⟩
    · exact hp
    · rw [hs.1] at hl
      cases hl

theorem shutdown_effect (h : RuntimeHarness) :
    let h' := (shutdown.exec h).2
    h'.Stopped ∧ SameInput h h' ∧ h'.published = h.published ∧ h'.metrics = h.metrics ∧
      h'.store = h.store := by
  refine wp_final (x := shutdown) (q := fun h' => h'.Stopped ∧ SameInput h h' ∧
    h'.published = h.published ∧ h'.metrics = h.metrics ∧ h'.store = h.store) ?_
  refine wp_shutdown ?_ ?_
  · intro point isOpen e _ _
    exact ⟨faulted_stopped _ _, ⟨rfl, rfl⟩, rfl, rfl, rfl⟩
  · intro _
    exact ⟨⟨rfl, by simp⟩, ⟨rfl, rfl⟩, rfl, rfl, rfl⟩

end RuntimeHarness

end Brainstem.Runtime
