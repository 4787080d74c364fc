import Brainstem.Runtime.Effects
import Brainstem.Runtime.Json

/-!
# Memory and store agree at every call boundary

`Inv` holds of a freshly built harness and is kept by every call, in any order and
with any fault armed: a live harness has in memory exactly what its store holds, a
harness that is not live is not reported as live, and the bytes in the store are those
it was built on, the injected garbage, or the encoding of a valid state.  A valid state
is accepted by the next boot unless one of its two counters is exhausted
(`boot_accepts`).
-/

namespace Brainstem.Runtime

/-- The entry of `metrics` for an output. -/
def CommittedOutput.metric (out : CommittedOutput) : MetricEvent :=
  ⟨out.sessionId, out.tickSeq, out.ingressSeq⟩

namespace RuntimeHarness

open Proc

/-- Where the bytes in the store come from, for a harness built on `initial`. -/
inductive BlobOrigin (J : SerdeJson) (initial : DurableStore) : DurableStore → Prop where
  | inherited : BlobOrigin J initial initial
  | injected : BlobOrigin J initial (DurableStore.malformed INJECTED_MALFORMED)
  | written {store : DurableStore} (s : DurableState) (hs : Holds J store s) :
      BlobOrigin J initial store

structure Inv (J : SerdeJson) (initial : DurableStore) (h : RuntimeHarness) : Prop where
  live_iff : h.live = true ↔ h.health = .live
  agrees : h.live = true → Agrees J h
  metrics : h.metrics = h.published.map CommittedOutput.metric
  origin : BlobOrigin J initial h.store

variable {J : SerdeJson} {initial : DurableStore} {h h' : RuntimeHarness}

theorem Inv.of_build (J : SerdeJson) (seed : UInt64) (store : DurableStore) (armed : Option FaultPoint)
    (packets : List SequencedIngress) : Inv J store (build seed store armed packets) where
  live_iff := by simp [build]
  agrees := by rintro ⟨⟩
  metrics := rfl
  origin := .inherited

theorem Stopped.live_iff (hs : h.Stopped) : h.live = true ↔ h.health = .live := by
  refine ⟨fun hl => ?_, fun hl => absurd hl hs.2⟩
  rw [hs.1] at hl
  cases hl

theorem Stopped.agrees (hs : h.Stopped) : h.live = true → Agrees J h := by
  intro hl
  rw [hs.1] at hl
  cases hl

theorem Agrees.live_iff (ha : Agrees J h) (hl : h.live = true) : h.live = true ↔ h.health = .live :=
  ⟨fun _ => ha.health, fun _ => hl⟩

theorem Unpublished.metrics_map (hu : Unpublished J h h')
    (hm : h.metrics = h.published.map CommittedOutput.metric) :
    h'.metrics = h'.published.map CommittedOutput.metric := by
  rw [hu.metrics, hu.published, hm]

theorem Unpublished.origin (hu : Unpublished J h h') : BlobOrigin J initial h'.store := by
  obtain ⟨s, hs, -⟩ := hu.store
  exact .written s hs

theorem Inv.after_runTick (hJ : J.RoundTrips) (hi : Inv J initial h) :
    Inv J initial ((runTick J).exec h).2 := by
  cases hlive : h.live with
  | false => rw [runTick_of_not_live hlive]; exact hi
  | true =>
    cases runTick_effect hJ (hi.agrees hlive) hlive with
    | stopped hs hu => exact ⟨hs.live_iff, hs.agrees, hu.metrics_map hi.metrics, hu.origin⟩
    | limited hl ha hu _ _ _ =>
      exact ⟨ha.live_iff hl, fun _ => ha, hu.metrics_map hi.metrics, hu.origin⟩
    | skipped hl ha hu _ _ _ _ =>
      exact ⟨ha.live_iff hl, fun _ => ha, hu.metrics_map hi.metrics, hu.origin⟩
    | committed packet rest out _ _ hp hnext _ =>
      have hm : ((runTick J).exec h).2.metrics =
          ((runTick J).exec h).2.published.map CommittedOutput.metric := by
        rw [hp.metrics, hp.published, List.map_append, hi.metrics]
        rfl
      rcases hnext with hs | ⟨hl, ha, -⟩
      · exact ⟨hs.live_iff, hs.agrees, hm, .written _ hp.store⟩
      · exact ⟨ha.live_iff hl, fun _ => ha, hm, .written _ hp.store⟩

theorem Inv.after_boot (hJ : J.RoundTrips) (hi : Inv J initial h) : Inv J initial ((boot J).exec h).2 := by
  have hb := boot_effect hJ h
  have hm : ((boot J).exec h).2.metrics =
      ((boot J).exec h).2.published.map CommittedOutput.metric := by
    rcases hb.buffers with ⟨h1, h2⟩ | ⟨-, h1, h2⟩
    · rw [h1, h2]; rfl
    · rw [h1, h2, hi.metrics]
  rcases hb.store with ⟨hs, hstore⟩ | ⟨hs, hstore⟩ | ⟨s, -, hstore, hs | ⟨hl, ha, -⟩⟩
  · exact ⟨hs.live_iff, hs.agrees, hm, hstore ▸ hi.origin⟩
  · exact ⟨hs.live_iff, hs.agrees, hm, hstore ▸ .injected⟩
  · exact ⟨hs.live_iff, hs.agrees, hm, .written s hstore⟩
  · exact ⟨ha.live_iff hl, fun _ => ha, hm, .written s hstore⟩

theorem Inv.after_shutdown (hi : Inv J initial h) : Inv J initial (shutdown.exec h).2 := by
  obtain ⟨hs, -, hp, hm, hstore⟩ := shutdown_effect h
  exact ⟨hs.live_iff, hs.agrees, by rw [hp, hm, hi.metrics], hstore ▸ hi.origin⟩

theorem Inv.after_call (hJ : J.RoundTrips) (hi : Inv J initial h) (call : Call) :
    Inv J initial (h.perform J call) := by
  cases call with
  | boot => exact Inv.after_boot hJ hi
  | runTick => exact Inv.after_runTick hJ hi
  | shutdown => exact Inv.after_shutdown hi
  | armFault point => exact { hi with agrees := fun hl => { hi.agrees hl with } }
  | pushIngress packet => exact { hi with agrees := fun hl => { hi.agrees hl with } }
  | pushIngressFront packet => exact { hi with agrees := fun hl => { hi.agrees hl with } }

theorem Inv.after_calls (hJ : J.RoundTrips) (calls : List Call) (hi : Inv J initial h) :
    Inv J initial (h.performAll J calls) := by
  induction calls generalizing h with
  | nil => exact hi
  | cons call calls ih => exact ih (Inv.after_call hJ hi call)

/-! ## What is written can be booted from -/

/-- A fault-free boot, by any harness, accepts `store`. -/
def Accepted (J : SerdeJson) (store : DurableStore) : Prop :=
  ∀ h : RuntimeHarness, h.store = store → h.injector.armed = none →
    ∃ h', (boot J).exec h = (.ok (), h') ∧ h'.health = .live

theorem boot_accepts (hJ : J.RoundTrips) {store : DurableStore} {s : DurableState}
    (hr : Resumes J store s) : Accepted J store := by
  rintro h rfl harm
  have hb := boot_wp hJ (h := h)
  rcases hx : (boot J).exec h with ⟨e | ⟨⟩, h'⟩
  · exact absurd ⟨s, hr⟩ ((wp_of_exec_error hb hx).2.2 harm)
  · obtain ⟨heff, hl, -⟩ := wp_of_exec_ok hb hx
    refine ⟨h', rfl, ?_⟩
    have hno : ¬h'.Stopped := fun hs => by rw [hs.1] at hl; cases hl
    rcases heff.store with ⟨hs, -⟩ | ⟨hs, -⟩ | ⟨_, -, -, hs | ⟨-, ha, -⟩⟩
    · exact absurd hs hno
    · exact absurd hs hno
    · exact absurd hs hno
    · exact ha.health

theorem Holds.accepted (hJ : J.RoundTrips) {store : DurableStore} {s : DurableState}
    (hs : Holds J store s) (hsession : s.lastSessionId ≠ UInt64.max)
    (htick : s.committedTickSeq ≠ UInt64.max) : Accepted J store := by
  obtain ⟨next, hn⟩ := UInt64.exists_checkedAdd_one hsession
  exact boot_accepts hJ (.recovered s next hs.2.1 htick hn)

/-- A store that holds a valid state is what `persist` makes of any store. -/
theorem Holds.persist_eq {store : DurableStore} {s : DurableState} (hs : Holds J store s)
    (before : DurableStore) : before.persist J s = .ok store := by
  obtain ⟨hv, -, henc⟩ := hs
  unfold DurableStore.persist
  rw [(DurableState.validate_eq_ok s).2 hv]
  cases he : encode J s with
  | error e => rw [he] at henc; cases henc
  | ok bytes =>
    rw [he] at henc
    injection henc with hb
    cases store
    cases hb
    rfl

theorem BlobOrigin.cases {store : DurableStore} (ho : BlobOrigin J initial store) :
    store = initial ∨ store = .malformed INJECTED_MALFORMED ∨
      ∃ s before, DurableStore.persist J before s = .ok store := by
  cases ho with
  | inherited => exact .inl rfl
  | injected => exact .inr (.inl rfl)
  | written s hs => exact .inr (.inr ⟨s, .empty, hs.persist_eq .empty⟩)

theorem holds_of_persist (hJ : J.RoundTrips) {store store' : DurableStore} {s : DurableState}
    (hp : store.persist J s = .ok store') : Holds J store' s := by
  unfold DurableStore.persist at hp
  cases hval : s.validate with
  | error e => rw [hval] at hp; cases hp
  | ok u =>
    have hv := (DurableState.validate_eq_ok s).1 hval
    obtain ⟨store'', hp', hl⟩ := exists_persist hJ store hv
    rw [DurableStore.persist] at hp'
    rw [hp] at hp'
    cases hp'
    rw [hval] at hp
    cases he : encode J s with
    | error e => rw [he] at hp; cases hp
    | ok bytes => rw [he] at hp; cases hp; exact ⟨hv, hl, by rw [he]; rfl⟩

/-- **Memory/store agreement and self-recoverability**, in every state any sequence of
calls can reach from any store.  The last part is about every write there is: whatever
`persist` put into a store, a fault-free boot accepts unless a counter is exhausted. -/
theorem memory_store_agreement (hJ : J.RoundTrips) (seed : UInt64) (store : DurableStore)
    (armed : Option FaultPoint) (packets : List SequencedIngress) (calls : List Call) :
    let h := (build seed store armed packets).performAll J calls
    (h.live = true ↔ h.health = .live) ∧
    (h.live = true → h.store.load J = .ok (some h.durable) ∧ h.durable.inflight = none ∧
      h.channelOpen = true ∧ h.durable.lastSessionId = h.sessionId ∧ 1 ≤ h.sessionId) ∧
    h.metrics = h.published.map (fun out => ⟨out.sessionId, out.tickSeq, out.ingressSeq⟩) ∧
    (h.store = store ∨ h.store = DurableStore.malformed INJECTED_MALFORMED ∨
      ∃ s before, DurableStore.persist J before s = .ok h.store) ∧
    ∀ before after s, DurableStore.persist J before s = .ok after →
      s.lastSessionId ≠ UInt64.max → s.committedTickSeq ≠ UInt64.max → Accepted J after := by
  intro h
  have hi : Inv J store h := Inv.after_calls hJ calls (Inv.of_build J seed store armed packets)
  refine ⟨hi.live_iff, fun hl => ?_, hi.metrics, ?_, ?_⟩
  · have ha := hi.agrees hl
    refine ⟨ha.holds.2.1, ha.clean, ha.channel, ha.session, ?_⟩
    rw [UInt64.le_iff_toNat_le]
    have h0 : h.sessionId.toNat ≠ 0 := fun h0 => ha.started (UInt64.ext_toNat h0)
    show 1 ≤ _
    omega
  · exact hi.origin.cases
  · intro before after s hp hsession htick
    exact (holds_of_persist hJ hp).accepted hJ hsession htick

theorem memory_store_agreement_after_tick :
    let h := (build 7 .empty none [⟨1, [F32.one]⟩]).performAll serdeJson [.boot, .runTick]
    h.live = true ∧ h.store.load serdeJson = .ok (some h.durable) ∧ h.metrics = [⟨1, 1, 1⟩] := by
  have hrun := memory_store_agreement serdeJson_roundTrips 7 .empty none [⟨1, [F32.one]⟩]
    [.boot, .runTick]
  have hlive : ((build 7 .empty none [⟨1, [F32.one]⟩]).performAll serdeJson
    [.boot, .runTick]).live = true := by decide +kernel
  exact ⟨hlive, (hrun.2.1 hlive).1, by decide +kernel⟩

end RuntimeHarness

end Brainstem.Runtime
