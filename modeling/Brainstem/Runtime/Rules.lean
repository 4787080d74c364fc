import Brainstem.Runtime.Harness

/-!
# A rule for each operation

The rules of `Proc` walk through the body of one operation.  Here every operation of the harness
gets a rule of its own: one premise for each way it can end, with the state it ends in.

    wp_ingress (h is open) (the armed fault fires) (it is spared: the head is taken)

A fault point fires in the operation of one boundary (`FaultPoint.boundary`); what an operation
that ends well says about the armed fault is that it belongs elsewhere (`Spared`).
-/

namespace Brainstem.Runtime

/-! ## Where a fault fires -/

/-- The boundary whose operation lets a fault point fire. -/
def FaultPoint.boundary : FaultPoint → Boundary
  | .before b | .after b => b
  | .malformedCheckpoint => .checkpointValidation
  | .coreStepError => .tickExecute
  | .closedChannel => .ingress
  | .backpressureTimeout => .metricPublish
  | .interruptedShutdown => .shutdown

/-- The fault that a boundary's operation takes by name. -/
def Boundary.named : Boundary → Option FaultPoint
  | .initialization => none
  | .checkpointValidation => some .malformedCheckpoint
  | .ingress => some .closedChannel
  | .tickExecute => some .coreStepError
  | .metricPublish => some .backpressureTimeout
  | .shutdown => some .interruptedShutdown

theorem FaultPoint.eq_of_boundary {point : FaultPoint} {b : Boundary} (h : point.boundary = b) :
    point = .before b ∨ point = .after b ∨ b.named = some point := by
  subst h
  cases point <;> simp [FaultPoint.boundary, Boundary.named]

/-- The armed fault, if any, belongs to another boundary. -/
def Spared (armed : Option FaultPoint) (b : Boundary) : Prop :=
  ∀ point, armed = some point → point.boundary ≠ b

/-- An operation that was walked through without a fault spares the one that is armed. -/
theorem Spared.intro {armed : Option FaultPoint} {b : Boundary} (hb : armed ≠ some (.before b))
    (ha : armed ≠ some (.after b)) (hn : ∀ point, b.named = some point → armed ≠ some point) :
    Spared armed b := by
  intro point harm hpoint
  rcases point.eq_of_boundary hpoint with rfl | rfl | hnamed
  · exact hb harm
  · exact ha harm
  · exact hn point hnamed harm

namespace RuntimeHarness

open Proc

/-! ## Faults and the store -/

/-- The state after an injected fault at `point` fired. -/
def faulted (point : FaultPoint) (h : RuntimeHarness) : RuntimeHarness :=
  { h with injector := ⟨none⟩, health := injectedTerminalHealth point, live := false }

theorem applyFault_live (point : FaultPoint) :
    injectedTerminalHealth point = .faulted ∨ injectedTerminalHealth point = .degraded ∨
      injectedTerminalHealth point = .incompleteShutdown ∨
      injectedTerminalHealth point = .checkpointInvalid := by
  rcases point with b | b | _ | _ | _ | _ | _ <;> (try rcases b) <;> simp [injectedTerminalHealth]

variable {ok : Unit → RuntimeHarness → Prop} {err : String → RuntimeHarness → Prop}
  {h : RuntimeHarness}

@[simp] theorem wp_applyFault (point : FaultPoint) : wp (applyFault point) ok err h ↔
    ok () { h with health := injectedTerminalHealth point, live := false } := by
  simp only [applyFault, wp_modify, if_pos (applyFault_live point)]

theorem wp_failPoint (point : FaultPoint) : wp (failPoint point) ok err h ↔
    (h.injector.armed = some point → err s!"injected fault: {point.debug}" (h.faulted point)) ∧
    (h.injector.armed ≠ some point → ok () h) := by
  simp only [failPoint, wp_bind, wp_get, wp_set, FaultInjector.fire]
  by_cases hp : h.injector.armed = some point
  · simp [hp, faulted]
  · simp [hp]

theorem wp_takeFault (point : FaultPoint) {ok : Bool → RuntimeHarness → Prop} :
    wp (takeFault point) ok err h ↔
    (h.injector.armed = some point → ok true { h with injector := ⟨none⟩ }) ∧
    (h.injector.armed ≠ some point → ok false h) := by
  simp only [takeFault, wp_bind, wp_get, wp_set, wp_pure, FaultInjector.take]
  by_cases hp : h.injector.armed = some point <;> simp [hp]

/-- `store` holds exactly `state`, written by `persist`. -/
def Holds (J : SerdeJson) (store : DurableStore) (state : DurableState) : Prop :=
  state.Valid ∧ store.load J = .ok (some state) ∧ (encode J state).map some = .ok store.blob

/-- A valid state is always persisted: the error exit is not taken. -/
theorem wp_persist {J : SerdeJson} (hJ : J.RoundTrips) {state : DurableState} (hv : state.Valid)
    (hok : ∀ store, Holds J store state → ok () { h with store := store }) :
    wp (persist J state) ok err h := by
  obtain ⟨store, hp, hl⟩ := exists_persist hJ h.store hv
  have henc : (encode J state).map some = .ok store.blob := by
    unfold DurableStore.persist at hp
    rw [(DurableState.validate_eq_ok state).2 hv] at hp
    cases he : encode J state with
    | error e => rw [he] at hp; cases hp
    | ok bytes => rw [he] at hp; cases hp; rfl
  simp only [persist, wp_bind, wp_get, hp, wp_set]
  exact hok store ⟨hv, hl, henc⟩

/-! ## Boot -/

/-- What a boot that passes checkpoint validation makes of the store it finds. -/
inductive Resumes (J : SerdeJson) (store : DurableStore) : DurableState → Prop where
  | fresh (hl : store.load J = .ok none) :
      Resumes J store { DurableState.fresh with lastSessionId := 1 }
  | recovered (s : DurableState) (next : UInt64) (hl : store.load J = .ok (some s))
      (ht : s.committedTickSeq ≠ UInt64.max) (hn : s.lastSessionId.checkedAdd 1 = some next) :
      Resumes J store { s with inflight := none, lastSessionId := next }

theorem Resumes.valid {J : SerdeJson} {store : DurableStore} {s : DurableState}
    (hr : Resumes J store s) : s.Valid ∧ s.inflight = none ∧ s.lastSessionId ≠ 0 := by
  cases hr with
  | fresh hl => exact ⟨⟨rfl, rfl, by decide, by rintro r ⟨⟩⟩, rfl, by decide⟩
  | recovered t next hl ht hn =>
    have hv := valid_of_load hl
    rw [UInt64.checkedAdd_one_eq_some] at hn
    have h0 : next ≠ 0 := by rintro rfl; exact absurd hn (by simp)
    exact ⟨⟨hv.schema, hv.checkpoint, fun h => absurd h h0, by rintro r ⟨⟩⟩, rfl, h0⟩

def initialized (h : RuntimeHarness) : RuntimeHarness :=
  { h with core := FakeCore.default, channelOpen := true, published := [], metrics := [] }

theorem wp_initializeRuntime
    (hbefore : h.injector.armed = some (.before .initialization) →
      ∀ e, err e (h.faulted (.before .initialization)))
    (hafter : h.injector.armed = some (.after .initialization) →
      ∀ e, err e (h.initialized.faulted (.after .initialization)))
    (hok : Spared h.injector.armed .initialization → ok () h.initialized) :
    wp initializeRuntime ok err h := by
  unfold initializeRuntime
  simp only [wp_bind, wp_modify]
  refine (wp_failPoint _).2 ⟨fun harm => hbefore harm _, fun h1 => ?_⟩
  refine (wp_failPoint _).2 ⟨fun harm => hafter harm _, fun h2 => hok (.intro h1 h2 ?_)⟩
  rintro point ⟨⟩

/-- The checkpoint was refused. -/
def rejected (h : RuntimeHarness) : RuntimeHarness :=
  { h with health := .checkpointInvalid, restartOutcome := some .rejectedInvalid, live := false }

/-- A first session was started, and recorded in `store`. -/
def startedFresh (store : DurableStore) (h : RuntimeHarness) : RuntimeHarness :=
  { h with
    store := store
    durable := { DurableState.fresh with lastSessionId := 1 }
    sessionId := 1
    incompletePrior := false
    restartOutcome := some .freshStart }

/-- Session `next` was started on what `s` had left, and recorded in `store`. -/
def resumedFrom (s : DurableState) (next : UInt64) (store : DurableStore) (h : RuntimeHarness) :
    RuntimeHarness :=
  { h with
    store := store
    durable := { s with inflight := none, lastSessionId := next }
    sessionId := next
    incompletePrior := s.inflight.isSome
    restartOutcome := some (if s.inflight.isSome then .recoveredIncomplete else .recoveredClean) }

theorem wp_validateCheckpoint {J : SerdeJson} (hJ : J.RoundTrips)
    (hbefore : h.injector.armed = some (.before .checkpointValidation) →
      ∀ e, err e (h.faulted (.before .checkpointValidation)))
    (hmalformed : h.injector.armed = some .malformedCheckpoint → ∀ e,
      err e { h with
        injector := ⟨none⟩, store := DurableStore.malformed INJECTED_MALFORMED }.rejected)
    (hrejected : h.injector.armed ≠ some .malformedCheckpoint → (¬∃ s, Resumes J h.store s) →
      ∀ prior, (prior = h.incompletePrior ∨ ∃ s, h.store.load J = .ok (some s)) →
      ∀ e, err e { h with incompletePrior := prior }.rejected)
    (hfresh : h.injector.armed ≠ some (.before .checkpointValidation) →
      h.injector.armed ≠ some .malformedCheckpoint → h.store.load J = .ok none →
      ∀ store, Holds J store { DurableState.fresh with lastSessionId := 1 } →
        ok () (h.startedFresh store))
    (hrecovered : h.injector.armed ≠ some (.before .checkpointValidation) →
      h.injector.armed ≠ some .malformedCheckpoint → ∀ s next, h.store.load J = .ok (some s) →
      s.committedTickSeq ≠ UInt64.max → s.lastSessionId.checkedAdd 1 = some next →
      ∀ store, Holds J store { s with inflight := none, lastSessionId := next } →
        ok () (h.resumedFrom s next store)) :
    wp (validateCheckpoint J) ok err h := by
  unfold validateCheckpoint
  simp only [wp_bind]
  refine (wp_failPoint _).2 ⟨fun harm => hbefore harm _, fun h1 => ?_⟩
  refine (wp_takeFault _).2 ⟨fun harm => ?_, fun h2 => ?_⟩
  · simp only [if_true, wp_bind, wp_modify, rejectCheckpoint, wp_throw]
    exact hmalformed harm _
  simp only [Bool.false_eq_true, if_false, wp_bind, wp_get]
  -- what `load` answers decides which of the four premises is met
  split
  · next hl =>
    simp only [startFreshSession, wp_bind, wp_modify, wp_get]
    exact wp_persist hJ (Resumes.fresh hl).valid.1 fun store hs => hfresh h1 h2 hl store hs
  · next s hl =>
    split
    · next hmax =>
      simp only [wp_bind, rejectCheckpoint, wp_modify, wp_throw]
      refine hrejected h2 ?_ _ (.inl rfl) _
      rintro ⟨_, hl' | ⟨t, _, hl', ht, _⟩⟩ <;> rw [hl] at hl' <;> cases hl'
      exact ht hmax
    · next hmax =>
      simp only [recoverSession, wp_bind, wp_modify]
      split
      · next hn =>
        simp only [wp_bind, rejectCheckpoint, wp_modify, wp_throw]
        refine hrejected h2 ?_ s.inflight.isSome (.inr ⟨s, hl⟩) _
        rintro ⟨_, hl' | ⟨t, _, hl', _, hn'⟩⟩ <;> rw [hl] at hl' <;> cases hl'
        rw [hn] at hn'
        cases hn'
      · next next hn =>
        simp only [wp_bind, wp_modify]
        exact wp_persist hJ (Resumes.recovered s next hl hmax hn).valid.1 fun store hs =>
          hrecovered h1 h2 s next hl hmax hn store hs
  · next e hl =>
    simp only [wp_bind, rejectCheckpoint, wp_modify, wp_throw]
    refine hrejected h2 ?_ _ (.inl rfl) _
    rintro ⟨_, hl' | ⟨t, _, hl', _, _⟩⟩ <;> rw [hl] at hl' <;> cases hl'

/-! ## The tick -/

theorem wp_ingress {ok : Option SequencedIngress → RuntimeHarness → Prop}
    (hopen : h.channelOpen = true)
    (hdied : ∀ point source e, h.injector.armed = some point → point.boundary = .ingress →
      err e ({ h with source := source }.faulted point))
    (hok : Spared h.injector.armed .ingress →
      ok h.source.packets.head? { h with source := ⟨h.source.packets.tail⟩ }) :
    wp ingress ok err h := by
  unfold ingress
  simp only [wp_bind]
  refine (wp_failPoint _).2 ⟨fun harm => hdied _ h.source _ harm rfl, fun h1 => ?_⟩
  refine (wp_takeFault _).2 ⟨fun harm => ?_, fun h2 => ?_⟩
  · simp only [wp_get, true_or, if_true, wp_bind, wp_applyFault, wp_throw]
    exact hdied _ h.source _ harm rfl
  simp only [wp_get, hopen, Bool.false_eq_true, not_true_eq_false, or_self, if_false, wp_bind,
    wp_set, wp_pure]
  have hsame : { h with source := h.source.next.2, channelOpen := true } =
      { h with source := h.source.next.2 } := by
    rw [← hopen]
  rw [hsame]
  refine (wp_failPoint _).2 ⟨fun harm => hdied _ _ _ harm rfl, fun h3 => hok (.intro h1 h3 ?_)⟩
  rintro point ⟨⟩
  exact h2

/-- The durable state while tick `tickSeq` works on `packet`. -/
def inflightState (h : RuntimeHarness) (tickSeq : UInt64) (packet : SequencedIngress) :
    DurableState :=
  { h.durable with inflight := some ⟨h.sessionId, tickSeq, packet.seq⟩ }

/-- The durable state after tick `tickSeq` committed `packet`. -/
def committedState (h : RuntimeHarness) (tickSeq : UInt64) (packet : SequencedIngress) :
    DurableState :=
  { h.durable with
    committedTickSeq := tickSeq, committedIngressSeq := packet.seq, inflight := none }

/-- A tick is stopped before its first write, or with its packet in flight. -/
theorem wp_executeTick {J : SerdeJson} (hJ : J.RoundTrips) {packet : SequencedIngress}
    {ok : UInt64 × List UInt16 → RuntimeHarness → Prop}
    (hv : ∀ tickSeq : UInt64, tickSeq.toNat = h.durable.committedTickSeq.toNat + 1 →
      (h.inflightState tickSeq packet).Valid)
    (hbefore : h.injector.armed = some (.before .tickExecute) →
      ∀ e, err e (h.faulted (.before .tickExecute)))
    (hexhausted : h.durable.committedTickSeq = UInt64.max →
      ∀ e, err e { h with health := .faulted, live := false })
    (hdied : ∀ point tickSeq store core e, h.injector.armed = some point →
      point = .coreStepError ∨ point = .after .tickExecute →
      Holds J store (h.inflightState tickSeq packet) →
      err e ({ h with
        durable := h.inflightState tickSeq packet, store := store, core := core }.faulted point))
    (hok : ∀ tickSeq spikeIds store core, Spared h.injector.armed .tickExecute →
      tickSeq.toNat = h.durable.committedTickSeq.toNat + 1 →
      (FakeCore.default.step packet.stimuli).1 = .ok spikeIds →
      Holds J store (h.inflightState tickSeq packet) →
      ok (tickSeq, spikeIds)
        { h with durable := h.inflightState tickSeq packet, store := store, core := core }) :
    wp (executeTick J packet) ok err h := by
  unfold executeTick
  simp only [wp_bind, wp_get]
  refine (wp_failPoint _).2 ⟨fun harm => hbefore harm _, fun h1 => ?_⟩
  split
  · next hn =>
    simp only [wp_bind, wp_set, wp_throw]
    exact hexhausted (UInt64.checkedAdd_one_eq_none.1 hn) _
  · next tickSeq hn =>
    have ht := UInt64.checkedAdd_one_eq_some.1 hn
    simp only [wp_bind]
    refine wp_persist hJ (hv tickSeq ht) fun store hs => ?_
    simp only [wp_modify]
    refine (wp_takeFault _).2 ⟨fun harm => ?_, fun h2 => ?_⟩
    · simp only [if_true, wp_bind, wp_applyFault, wp_throw]
      exact hdied _ tickSeq store h.core _ harm (.inl rfl) hs
    simp only [Bool.false_eq_true, if_false, wp_bind, wp_get, wp_set, FakeCore.step, wp_pure]
    refine (wp_failPoint _).2 ⟨fun harm => ?_, fun h3 => ?_⟩
    · exact hdied _ tickSeq store _ _ harm (.inr rfl) hs
    · refine hok tickSeq _ store _ (.intro h1 h3 ?_) ht rfl hs
      rintro point ⟨⟩
      exact h2

/-- The harness after tick `tickSeq` published `packet`, and committed it to `store`. -/
def publishing (tickSeq : UInt64) (packet : SequencedIngress) (spikeIds : List UInt16)
    (store : DurableStore) (h : RuntimeHarness) : RuntimeHarness :=
  { h with
    store := store
    durable := h.committedState tickSeq packet
    metrics := h.metrics ++ [⟨h.sessionId, tickSeq, packet.seq⟩]
    published := h.published ++ [⟨h.sessionId, tickSeq, packet.seq, spikeIds, h.clock.nowNs⟩] }

/-- A publication is stopped before the commit, or dies after it. -/
theorem wp_publishMetrics {J : SerdeJson} (hJ : J.RoundTrips) {packet : SequencedIngress}
    {tickSeq : UInt64} {spikeIds : List UInt16} (hopen : h.channelOpen = true)
    (hv : (h.committedState tickSeq packet).Valid)
    (hdied : ∀ point clock e, h.injector.armed = some point →
      point = .before .metricPublish ∨ point = .backpressureTimeout →
      err e ({ h with clock := clock }.faulted point))
    (hafter : h.injector.armed = some (.after .metricPublish) →
      ∀ store e, Holds J store (h.committedState tickSeq packet) →
      err e ((h.publishing tickSeq packet spikeIds store).faulted (.after .metricPublish)))
    (hok : Spared h.injector.armed .metricPublish →
      ∀ store, Holds J store (h.committedState tickSeq packet) →
      ok () (h.publishing tickSeq packet spikeIds store)) :
    wp (publishMetrics J tickSeq packet.seq spikeIds) ok err h := by
  unfold publishMetrics
  simp only [wp_bind]
  refine (wp_failPoint _).2 ⟨fun harm => hdied _ h.clock _ harm (.inl rfl), fun h1 => ?_⟩
  refine (wp_takeFault _).2 ⟨fun harm => ?_, fun h2 => ?_⟩
  · simp only [if_true, wp_bind, wp_modify, wp_applyFault, wp_throw]
    exact hdied _ _ _ harm (.inr rfl)
  simp only [Bool.false_eq_true, if_false, wp_bind, wp_get, hopen, not_true_eq_false]
  refine wp_persist hJ hv fun store hs => ?_
  simp only [wp_modify]
  refine (wp_failPoint _).2 ⟨fun harm => hafter harm store _ hs, fun h3 => ?_⟩
  refine hok (.intro h1 h3 ?_) store hs
  rintro point ⟨⟩
  exact h2

/-! ## Shutdown -/

theorem wp_shutdown
    (hdied : ∀ point isOpen e, h.injector.armed = some point → point.boundary = .shutdown →
      err e ({ h with channelOpen := isOpen }.faulted point))
    (hok : Spared h.injector.armed .shutdown →
      ok () { h with health := .stopped, channelOpen := false, live := false }) :
    wp shutdown ok err h := by
  unfold shutdown
  simp only [wp_bind, wp_modify]
  refine (wp_failPoint _).2 ⟨fun harm => hdied _ h.channelOpen _ harm rfl, fun h1 => ?_⟩
  refine (wp_takeFault _).2 ⟨fun harm => ?_, fun h2 => ?_⟩
  · simp only [if_true, wp_bind, wp_applyFault, wp_throw]
    exact hdied _ h.channelOpen _ harm rfl
  simp only [Bool.false_eq_true, if_false, wp_bind, wp_modify]
  refine (wp_failPoint _).2 ⟨fun harm => hdied _ false _ harm rfl, fun h3 => hok (.intro h1 h3 ?_)⟩
  rintro point ⟨⟩
  exact h2

end RuntimeHarness

end Brainstem.Runtime
