import Brainstem.Runtime.FailClosed

/-!
# The fault matrix

`expectedOutcome` is the published table: for each fault point, how the process that is hit
ends and what its restart reports.  `drive` is the scenario of the fault suite, from the
first boot to the restart, with every assertion the suite makes on the way.  The table was
not written from the harness; that they agree is the result here:

    drive J seed point (packet :: rest) later = .ok report ∧ report.Matches (expectedOutcome point)

Every operation is walked through once, with an arbitrary fault armed: it either spares the
fault, and the session goes on as if nothing were armed, or the process dies as the table says.
-/

namespace Brainstem.Runtime

/-! ## The table -/

structure ExpectedOutcome where
  terminalHealth : Health
  restart : RestartOutcome
  publishedBeforeCrash : UInt64
  liveLoopEntered : Bool
  deriving DecidableEq, Repr

def ingressDegraded : ExpectedOutcome := ⟨.degraded, .recoveredClean, 0, true⟩

def incompleteTick (terminalHealth : Health) : ExpectedOutcome :=
  ⟨terminalHealth, .recoveredIncomplete, 0, true⟩

def shutdownIncomplete : ExpectedOutcome := ⟨.incompleteShutdown, .recoveredClean, 1, true⟩

def beforeBoundary : Boundary → ExpectedOutcome
  | .initialization | .checkpointValidation => ⟨.faulted, .freshStart, 0, false⟩
  | .ingress => ingressDegraded
  | .tickExecute => ⟨.faulted, .recoveredClean, 0, true⟩
  | .metricPublish => incompleteTick .degraded
  | .shutdown => shutdownIncomplete

def afterBoundary : Boundary → ExpectedOutcome
  | .initialization => ⟨.faulted, .freshStart, 0, false⟩
  | .checkpointValidation => ⟨.faulted, .recoveredClean, 0, false⟩
  | .ingress => ingressDegraded
  | .tickExecute => incompleteTick .faulted
  | .metricPublish | .shutdown => ⟨.faulted, .recoveredClean, 1, true⟩

/-- Expected terminal health and restart result for each injection point. -/
def expectedOutcome : FaultPoint → ExpectedOutcome
  | .before boundary => beforeBoundary boundary
  | .after boundary => afterBoundary boundary
  | .malformedCheckpoint => ⟨.checkpointInvalid, .rejectedInvalid, 0, false⟩
  | .coreStepError => incompleteTick .faulted
  | .closedChannel => ingressDegraded
  | .backpressureTimeout => incompleteTick .degraded
  | .interruptedShutdown => shutdownIncomplete

/-- The harness keeps a health mapping of its own; on health the two tables agree. -/
theorem injectedTerminalHealth_eq (point : FaultPoint) :
    injectedTerminalHealth point = (expectedOutcome point).terminalHealth := by
  rcases point with b | b | _ | _ | _ | _ | _
  · cases b <;> rfl
  · cases b <;> rfl
  all_goals rfl

/-! ## The scenario -/

/-- `b"{not-a-checkpoint"` -/
def NOT_A_CHECKPOINT : Bytes :=
  [123, 110, 111, 116, 45, 97, 45, 99, 104, 101, 99, 107, 112, 111, 105, 110, 116]

def isShutdownFault : FaultPoint → Bool
  | .before .shutdown | .after .shutdown | .interruptedShutdown => true
  | _ => false

/-- `assert!`, with the failure as an error. -/
def ensure (c : Prop) [Decidable c] : Except String Unit :=
  if c then .ok () else .error "assertion failed"

structure DriveReport where
  terminalHealth : Health
  restart : RestartOutcome
  publishedBeforeCrash : ℕ
  metricsBeforeCrash : ℕ
  liveLoopEntered : Bool
  inflightAtCrash : Option InflightRecord
  lastSessionId : UInt64
  restartSessionId : UInt64
  incompletePrior : Bool
  deriving DecidableEq, Repr

open RuntimeHarness

/-- The process that is hit by the fault, as it is left. -/
def runInjectedSession (J : SerdeJson) (seed : UInt64) (point : FaultPoint)
    (packets : List SequencedIngress) : Except String RuntimeHarness := do
  let first :=
    if point = .malformedCheckpoint then
      build seed (DurableStore.malformed NOT_A_CHECKPOINT) (some point) packets
    else if isShutdownFault point then build seed DurableStore.empty none packets
    else build seed DurableStore.empty (some point) packets
  let (boot, first) := (boot J).exec first
  if isShutdownFault point then
    boot
    let (tick, first) := (runTick J).exec first
    let tick ← tick
    ensure (tick = .committed)
    pure (shutdown.exec (first.armFault point)).2
  else if boot.isOk ∧ first.live then
    pure ((runTick J).exec first).2
  else pure first

/-- A new process on the same store; its source may deliver anything. -/
def bootRestart (J : SerdeJson) (seed : UInt64) (store : DurableStore)
    (packets : List SequencedIngress)
    (committedTickSeq committedIngressSeq lastSessionId : UInt64) :
    Except String RuntimeHarness := do
  let (restartBoot, restarted) := (boot J).exec (build seed store none packets)
  match restarted.restartOutcome with
  | none => throw "boot always records a restart outcome"
  | some .rejectedInvalid =>
    ensure (¬restartBoot.isOk)
    ensure (¬restarted.live)
    ensure (¬restarted.liveLoopEntered)
    pure restarted
  | some _ =>
    restartBoot
    ensure restarted.live
    ensure (restarted.core.lastStimuli = none)
    ensure (restarted.published = [])
    ensure (restarted.metrics = [])
    ensure (restarted.sessionId.toNat = lastSessionId.toNat + 1)
    ensure (restarted.durable.committedTickSeq = committedTickSeq)
    ensure (restarted.durable.committedIngressSeq = committedIngressSeq)
    pure restarted

def drive (J : SerdeJson) (seed : UInt64) (point : FaultPoint)
    (packets later : List SequencedIngress) : Except String DriveReport := do
  let first ← runInjectedSession J seed point packets
  let restarted ← bootRestart J seed first.store later first.durable.committedTickSeq
    first.durable.committedIngressSeq first.durable.lastSessionId
  match restarted.restartOutcome with
  | none => throw "boot always records a restart outcome"
  | some restart =>
    pure
      { terminalHealth := first.health
        restart := restart
        publishedBeforeCrash := first.published.length
        metricsBeforeCrash := first.metrics.length
        liveLoopEntered := first.liveLoopEntered
        inflightAtCrash := first.durable.inflight
        lastSessionId := first.durable.lastSessionId
        restartSessionId := restarted.sessionId
        incompletePrior := restarted.incompletePrior }

/-- `assert_report_matches_oracle` -/
structure DriveReport.Matches (report : DriveReport) (expected : ExpectedOutcome) : Prop where
  terminalHealth : report.terminalHealth = expected.terminalHealth
  restart : report.restart = expected.restart
  published : report.publishedBeforeCrash = expected.publishedBeforeCrash.toNat
  metrics : report.metricsBeforeCrash = expected.publishedBeforeCrash.toNat
  liveLoopEntered : report.liveLoopEntered = expected.liveLoopEntered
  incompletePrior : report.incompletePrior = (expected.restart == .recoveredIncomplete)
  inflight : report.inflightAtCrash.isSome ↔ expected.restart = .recoveredIncomplete
  session : expected.restart ≠ .rejectedInvalid →
    report.restartSessionId.toNat = report.lastSessionId.toNat + 1

/-! ## What the hit process leaves behind -/

/-- What the next process finds in the store, by the outcome it will report. -/
inductive LeftBehind (J : SerdeJson) (store : DurableStore) (durable : DurableState) :
    RestartOutcome → Prop where
  /-- no session was ever recorded -/
  | nothing (hs : store.load J = .ok none) (hd : durable = DurableState.fresh) :
      LeftBehind J store durable .freshStart
  /-- the store holds the durable state, with room for one more session and tick -/
  | session {outcome : RestartOutcome} (hs : Holds J store durable)
      (ho : durable.restartOutcome = outcome) (hsession : durable.lastSessionId < UInt64.max)
      (htick : durable.committedTickSeq < UInt64.max) : LeftBehind J store durable outcome
  /-- bytes that do not decode -/
  | garbage {e : String} (hs : store.load J = .error e) (hd : durable.inflight = none) :
      LeftBehind J store durable .rejectedInvalid

/-- The process was hit at `point`, and died as the table says. -/
structure Crashed (J : SerdeJson) (point : FaultPoint) (h : RuntimeHarness) : Prop where
  terminalHealth : h.health = (expectedOutcome point).terminalHealth
  published : h.published.length = (expectedOutcome point).publishedBeforeCrash.toNat
  metrics : h.metrics.length = (expectedOutcome point).publishedBeforeCrash.toNat
  liveLoopEntered : h.liveLoopEntered = (expectedOutcome point).liveLoopEntered
  left : LeftBehind J h.store h.durable (expectedOutcome point).restart

/-- Injected faults take their health from the harness; the table has the same. -/
theorem Crashed.injected {J : SerdeJson} {point : FaultPoint} {h : RuntimeHarness}
    (hhealth : h.health = injectedTerminalHealth point)
    (hpub : h.published.length = (expectedOutcome point).publishedBeforeCrash.toNat)
    (hmet : h.metrics.length = (expectedOutcome point).publishedBeforeCrash.toNat)
    (hentered : h.liveLoopEntered = (expectedOutcome point).liveLoopEntered)
    (hleft : LeftBehind J h.store h.durable (expectedOutcome point).restart) :
    Crashed J point h :=
  ⟨hhealth.trans (injectedTerminalHealth_eq point), hpub, hmet, hentered, hleft⟩

/-- The fault that was armed is the one that killed the process. -/
def Died (J : SerdeJson) (armed : Option FaultPoint) (h : RuntimeHarness) : Prop :=
  ∃ point, armed = some point ∧ Crashed J point h

theorem isShutdownFault_iff (point : FaultPoint) :
    isShutdownFault point = true ↔ point.boundary = .shutdown := by
  rcases point with b | b | _ | _ | _ | _ | _
  · cases b <;> decide
  · cases b <;> decide
  all_goals decide

/-- The first process between two calls: live, with `n` ticks published. -/
structure Running (J : SerdeJson) (armed : Option FaultPoint) (n : ℕ) (h : RuntimeHarness) :
    Prop where
  agrees : Agrees J h
  live : h.live = true
  liveLoopEntered : h.liveLoopEntered = true
  injector : h.injector.armed = armed
  published : h.published.length = n
  metrics : h.metrics.length = n
  session : h.durable.lastSessionId = 1
  tick : h.durable.committedTickSeq.toNat = n

namespace RuntimeHarness

open Proc

variable {J : SerdeJson} {h : RuntimeHarness} {armed : Option FaultPoint}

/-- A state of the first session, in the store, is found by the next process. -/
theorem leftBehind_of_holds {store : DurableStore} {s : DurableState} (hs : Holds J store s)
    (hsession : s.lastSessionId = 1) (htick : s.committedTickSeq.toNat ≤ 1) :
    LeftBehind J store s s.restartOutcome := by
  refine .session hs rfl ?_ ?_
  · rw [hsession]
    decide
  · rw [UInt64.lt_iff_toNat_lt]
    have hmax : UInt64.max.toNat = 2 ^ 64 - 1 := rfl
    omega

/-- Whatever hits a running process between two durable writes leaves a clean session. -/
theorem running_left {n : ℕ} (hr : Running J armed n h) (hn : n ≤ 1) :
    LeftBehind J h.store h.durable .recoveredClean := by
  have hout : h.durable.restartOutcome = .recoveredClean := by
    simp [DurableState.restartOutcome, hr.agrees.clean]
  rw [← hout]
  exact leftBehind_of_holds hr.agrees.holds hr.session (by rw [hr.tick]; exact hn)

/-- From its first write to its commit, a tick leaves its packet in flight. -/
theorem running_left_inflight (hr : Running J armed 0 h) {store : DurableStore} {tickSeq : UInt64}
    {packet : SequencedIngress} (hs : Holds J store (h.inflightState tickSeq packet)) :
    LeftBehind J store (h.inflightState tickSeq packet) .recoveredIncomplete := by
  have htick : (h.inflightState tickSeq packet).committedTickSeq.toNat = 0 := hr.tick
  exact leftBehind_of_holds hs hr.session (by omega)

theorem died_of {n : ℕ} {h' : RuntimeHarness} {point : FaultPoint} (hr : Running J armed n h)
    (harm : h.injector.armed = some point) (hc : Crashed J point h') : Died J armed h' :=
  ⟨point, by rw [← hr.injector, harm], hc⟩

/-! ## Boot -/

theorem load_injectedMalformed :
    (DurableStore.malformed INJECTED_MALFORMED).load J =
      .error "malformed checkpoint: missing magic" := rfl

/-- The first boot, on a store that nothing was written to. -/
theorem boot_hit (hJ : J.RoundTrips) (seed : UInt64) {store : DurableStore}
    (hstore : armed ≠ some .malformedCheckpoint → store.load J = .ok none)
    (packets : List SequencedIngress) :
    wp (boot J)
      (fun _ h => Spared armed .initialization ∧ Spared armed .checkpointValidation ∧
        Running J armed 0 h ∧ h.durable.committedIngressSeq = 0 ∧ h.stepsTaken = 0 ∧
        h.source.packets = packets)
      (fun _ h => Died J armed h) (build seed store armed packets) := by
  -- before anything is written, the next process starts fresh
  have hfresh : ∀ {point}, armed = some point → point ≠ .malformedCheckpoint →
      LeftBehind J store DurableState.fresh .freshStart := by
    intro point harm hp
    refine .nothing (hstore ?_) rfl
    rw [harm]
    exact fun h => hp (Option.some.inj h)
  unfold boot
  simp only [wp_bind, wp_modify]
  refine wp_initializeRuntime ?_ ?_ fun hinit => ?_
  · intro harm e
    exact ⟨_, harm, .injected rfl rfl rfl rfl (hfresh harm (by simp))⟩
  · intro harm e
    exact ⟨_, harm, .injected rfl rfl rfl rfl (hfresh harm (by simp))⟩
  refine wp_validateCheckpoint hJ ?_ ?_ ?_ ?_ ?_
  · intro harm e
    exact ⟨_, harm, .injected rfl rfl rfl rfl (hfresh harm (by simp))⟩
  · intro harm e
    exact ⟨_, harm, rfl, rfl, rfl, rfl, .garbage load_injectedMalformed rfl⟩
  · intro hp hno _ _ e
    exact absurd ⟨_, .fresh (hstore hp)⟩ hno
  · intro h1 h2 _ store' hs
    have h10 : (1 : UInt64) ≠ 0 := by decide
    refine (wp_failPoint _).2 ⟨fun harm => ?_, fun h3 => ?_⟩
    · exact ⟨_, harm, .injected rfl rfl rfl rfl (leftBehind_of_holds hs rfl (Nat.zero_le 1))⟩
    · refine ⟨hinit, .intro h1 h3 ?_, ?_, rfl, rfl, rfl⟩
      · rintro point ⟨⟩
        exact h2
      · exact ⟨⟨rfl, hs, rfl, rfl, h10, rfl⟩, rfl, rfl, rfl, rfl, rfl, rfl, rfl⟩
  · intro _ hp s _ hs
    have hload : store.load J = .ok (some s) := hs
    rw [hstore hp] at hload
    cases hload

/-! ## The tick -/

theorem expectedOutcome_ingress {point : FaultPoint} (h : point.boundary = .ingress) :
    expectedOutcome point = ingressDegraded := by
  rcases point.eq_of_boundary h with rfl | rfl | hnamed
  · rfl
  · rfl
  · cases hnamed
    rfl

theorem ingress_hit (hr : Running J armed 0 h) :
    wp ingress
      (fun r h' => Spared armed .ingress ∧ r = h.source.packets.head? ∧
        h' = { h with source := ⟨h.source.packets.tail⟩ })
      (fun _ h' => Died J armed h') h := by
  have hleft := running_left hr (Nat.zero_le 1)
  refine wp_ingress hr.agrees.channel ?_ ?_
  · intro point source e harm hp
    refine died_of hr harm (.injected rfl ?_ ?_ ?_ ?_)
    all_goals rw [expectedOutcome_ingress hp]
    · exact hr.published
    · exact hr.metrics
    · exact hr.liveLoopEntered
    · exact hleft
  · intro hspared
    exact ⟨hr.injector ▸ hspared, rfl, rfl⟩

theorem executeTick_hit (hJ : J.RoundTrips) (hr : Running J armed 0 h) {packet : SequencedIngress}
    (hp : h.durable.committedIngressSeq < packet.seq) :
    wp (executeTick J packet)
      (fun r h' => Spared armed .tickExecute ∧ r.1.toNat = 1 ∧
        ∃ store core, Holds J store (h.inflightState r.1 packet) ∧
          h' = { h with durable := h.inflightState r.1 packet, store := store, core := core })
      (fun _ h' => Died J armed h') h := by
  have hclean := running_left hr (Nat.zero_le 1)
  have htick := hr.tick
  refine wp_executeTick hJ (fun _ ht => inflightState_valid hr.agrees ht hp) ?_ ?_ ?_ ?_
  · intro harm e
    exact died_of hr harm (.injected rfl hr.published hr.metrics hr.liveLoopEntered hclean)
  · intro hmax e
    rw [hmax] at htick
    cases htick
  · -- from its first write on, the store names the packet as in flight
    rintro point tickSeq store core e harm (rfl | rfl) hs
    · exact died_of hr harm (.injected rfl hr.published hr.metrics hr.liveLoopEntered
        (running_left_inflight hr hs))
    · exact died_of hr harm (.injected rfl hr.published hr.metrics hr.liveLoopEntered
        (running_left_inflight hr hs))
  · intro tickSeq spikeIds store core hspared ht _ hs
    refine ⟨hr.injector ▸ hspared, ?_, store, core, hs, rfl⟩
    rw [ht, htick]

theorem publishMetrics_hit (hJ : J.RoundTrips) (hr : Running J armed 0 h) {packet : SequencedIngress}
    {tickSeq : UInt64} (ht : tickSeq.toNat = 1) (spikeIds : List UInt16) {store : DurableStore}
    {core : FakeCore} (hs : Holds J store (h.inflightState tickSeq packet)) :
    wp (publishMetrics J tickSeq packet.seq spikeIds)
      (fun _ h' => Spared armed .metricPublish ∧ Running J armed 1 h')
      (fun _ h' => Died J armed h')
      { h with durable := h.inflightState tickSeq packet, store := store, core := core } := by
  have hleft := running_left_inflight hr hs
  have hpub : ∀ {out : CommittedOutput}, (h.published ++ [out]).length = 1 := by
    intro out
    rw [List.length_append, hr.published]
    rfl
  have hmet : ∀ {event : MetricEvent}, (h.metrics ++ [event]).length = 1 := by
    intro event
    rw [List.length_append, hr.metrics]
    rfl
  have hvalid := committedState_valid hr.agrees tickSeq packet
  refine wp_publishMetrics hJ hr.agrees.channel hvalid ?_ ?_ ?_
  · rintro point clock e harm (rfl | rfl)
    · exact died_of hr harm (.injected rfl hr.published hr.metrics hr.liveLoopEntered hleft)
    · exact died_of hr harm (.injected rfl hr.published hr.metrics hr.liveLoopEntered hleft)
  · intro harm store' e hs'
    exact died_of hr harm (.injected rfl hpub hmet hr.liveLoopEntered
      (leftBehind_of_holds hs' hr.session (Nat.le_of_eq ht)))
  · intro hspared store' hs'
    refine ⟨hr.injector ▸ hspared, ?_⟩
    exact ⟨⟨hr.agrees.health, hs', rfl, hr.agrees.session, hr.agrees.started, hr.agrees.channel⟩,
      hr.live, hr.liveLoopEntered, hr.injector, hpub, hmet, hr.session, ht⟩

/-- A tick on a fresh packet is committed, unless it lets the armed fault fire. -/
theorem runTick_hit (hJ : J.RoundTrips) (hr : Running J armed 0 h) (hsteps : h.stepsTaken = 0)
    {packet : SequencedIngress} {rest : List SequencedIngress}
    (hsrc : h.source.packets = packet :: rest) (hp : h.durable.committedIngressSeq < packet.seq) :
    wp (runTick J)
      (fun r h' => r = .committed ∧ Spared armed .ingress ∧ Spared armed .tickExecute ∧
        Spared armed .metricPublish ∧ Running J armed 1 h')
      (fun _ h' => Died J armed h') h := by
  unfold runTick
  simp only [wp_bind]
  refine wp_mono (beginTick_effect hr.live) ?_ ?_
  · rintro _ _ ⟨clock, steps, rfl, -, -⟩
    have hr₁ : Running J armed 0 { h with clock := clock, stepsTaken := steps } :=
      { hr with agrees := { hr.agrees with } }
    refine wp_mono (ingress_hit hr₁) ?_ (fun _ _ hd => hd)
    rintro _ _ ⟨hs₁, rfl, rfl⟩
    have hr₂ : Running J armed 0 { h with
        clock := clock, stepsTaken := steps, source := ⟨h.source.packets.tail⟩ } :=
      { hr with agrees := { hr.agrees with } }
    have hle : ¬packet.seq ≤ h.durable.committedIngressSeq := UInt64.not_le.2 hp
    simp only [hsrc, List.head?_cons, wp_bind, wp_get, wp_ite, hle, false_implies, true_and,
      not_false_eq_true, true_implies]
    rw [hsrc] at hr₂
    refine wp_mono (executeTick_hit hJ hr₂ hp) ?_ (fun _ _ hd => hd)
    rintro ⟨tickSeq, spikeIds⟩ _ ⟨hs₂, ht, store, core, hs, rfl⟩
    refine wp_mono (publishMetrics_hit hJ hr₂ ht spikeIds hs) ?_ (fun _ _ hd => hd)
    rintro _ h' ⟨hs₃, hr'⟩
    exact ⟨rfl, hs₁, hs₂, hs₃, hr'⟩
  · rintro _ _ ⟨steps, -, -, hge⟩
    rw [hsteps] at hge
    simp at hge

/-! ## Shutdown -/

theorem shutdown_hit {point : FaultPoint} (hr : Running J armed 1 h) :
    wp shutdown (fun _ _ => Spared (some point) .shutdown) (fun _ h' => Crashed J point h')
      (h.armFault point) := by
  have hleft := running_left hr (Nat.le_refl 1)
  refine wp_shutdown ?_ (fun hspared => hspared)
  intro p isOpen e harm hp
  cases harm
  rcases point.eq_of_boundary hp with rfl | rfl | hnamed
  · exact .injected rfl hr.published hr.metrics hr.liveLoopEntered hleft
  · exact .injected rfl hr.published hr.metrics hr.liveLoopEntered hleft
  · cases hnamed
    exact .injected rfl hr.published hr.metrics hr.liveLoopEntered hleft

/-! ## Restart -/

/-- A new process resumed from a crash that left `durable` behind. -/
structure Restarted (durable : DurableState) (outcome : RestartOutcome) (h : RuntimeHarness) :
    Prop where
  accepted : outcome ≠ .rejectedInvalid
  restartOutcome : h.restartOutcome = some outcome
  incompletePrior : h.incompletePrior = (outcome == .recoveredIncomplete)
  session : h.sessionId.toNat = durable.lastSessionId.toNat + 1
  live : h.live = true
  lastStimuli : h.core.lastStimuli = none
  published : h.published = []
  metrics : h.metrics = []
  tick : h.durable.committedTickSeq = durable.committedTickSeq
  ingress : h.durable.committedIngressSeq = durable.committedIngressSeq

/-- A new process that would not start on what it found. -/
structure Rejected (outcome : RestartOutcome) (h : RuntimeHarness) : Prop where
  rejected : outcome = .rejectedInvalid
  restartOutcome : h.restartOutcome = some .rejectedInvalid
  incompletePrior : h.incompletePrior = false
  live : h.live = false
  liveLoopEntered : h.liveLoopEntered = false

theorem boot_leftBehind (hJ : J.RoundTrips) (seed : UInt64) {store : DurableStore}
    {durable : DurableState} {outcome : RestartOutcome} (hl : LeftBehind J store durable outcome)
    (packets : List SequencedIngress) :
    wp (boot J) (fun _ h => Restarted durable outcome h) (fun _ h => Rejected outcome h)
      (build seed store none packets) := by
  have hquiet : ∀ {p}, (none : Option FaultPoint) ≠ some p := by
    rintro p ⟨⟩
  unfold boot
  simp only [wp_bind, wp_modify]
  refine wp_initializeRuntime (fun h => absurd h hquiet) (fun h => absurd h hquiet) fun _ => ?_
  refine wp_validateCheckpoint hJ (fun h => absurd h hquiet) (fun h => absurd h hquiet) ?_ ?_ ?_
  · intro _ hno prior hprior e
    cases hl with
    | nothing hs hd => exact absurd ⟨_, .fresh hs⟩ hno
    | session hs ho hsession htick =>
      obtain ⟨next, hnext⟩ := UInt64.exists_checkedAdd_one (UInt64.lt_max_iff.1 hsession)
      exact absurd ⟨_, .recovered durable next hs.2.1 (UInt64.lt_max_iff.1 htick) hnext⟩ hno
    | garbage hs hd =>
      refine ⟨rfl, rfl, ?_, rfl, rfl⟩
      rcases hprior with hprior | ⟨s, hload⟩
      · exact hprior
      · have hload : store.load J = .ok (some s) := hload
        rw [hs] at hload
        cases hload
  · intro _ _ hload store' _
    refine (wp_failPoint _).2 ⟨fun h => absurd h hquiet, fun _ => ?_⟩
    have hload : store.load J = .ok none := hload
    cases hl with
    | nothing hs hd =>
      subst hd
      exact ⟨by simp, rfl, rfl, rfl, rfl, rfl, rfl, rfl, rfl, rfl⟩
    | session hs =>
      rw [hs.2.1] at hload
      cases hload
    | garbage hs =>
      rw [hs] at hload
      cases hload
  · intro _ _ s next hload _ hnext store' _
    refine (wp_failPoint _).2 ⟨fun h => absurd h hquiet, fun _ => ?_⟩
    have hload : store.load J = .ok (some s) := hload
    cases hl with
    | nothing hs =>
      rw [hs] at hload
      cases hload
    | session hs ho hsession htick =>
      rw [hs.2.1] at hload
      cases hload
      subst ho
      refine ⟨?_, rfl, ?_, UInt64.checkedAdd_one_eq_some.1 hnext, rfl, rfl, rfl, rfl, rfl, rfl⟩
      · unfold DurableState.restartOutcome
        split <;> simp
      · show durable.inflight.isSome = _
        unfold DurableState.restartOutcome
        cases durable.inflight <;> rfl
    | garbage hs =>
      rw [hs] at hload
      cases hload

theorem leftBehind_inflight {store : DurableStore} {durable : DurableState}
    {outcome : RestartOutcome} (hl : LeftBehind J store durable outcome) :
    durable.inflight.isSome ↔ outcome = .recoveredIncomplete := by
  cases hl with
  | nothing hs hd => simp [hd, DurableState.fresh]
  | session hs ho hsession htick =>
    subst ho
    unfold DurableState.restartOutcome
    cases durable.inflight <;> simp
  | garbage hs hd => simp [hd]

end RuntimeHarness

/-! ## The whole scenario -/

section
open RuntimeHarness Proc

variable {J : SerdeJson} {seed : UInt64} {point : FaultPoint}

theorem fresh_seq {h : RuntimeHarness} {packet : SequencedIngress}
    (h0 : h.durable.committedIngressSeq = 0) (hseq : 1 ≤ packet.seq) :
    h.durable.committedIngressSeq < packet.seq := by
  rw [h0, UInt64.lt_iff_toNat_lt]
  have hseq : 1 ≤ packet.seq.toNat := UInt64.le_iff_toNat_le.1 hseq
  exact hseq

/-- With nothing armed, a first process boots and commits the packet at the head of its source. -/
theorem first_tick (hJ : J.RoundTrips) (seed : UInt64) {packet : SequencedIngress}
    (rest : List SequencedIngress) (hseq : 1 ≤ packet.seq) :
    ∃ h₁ h₂, (boot J).exec (build seed DurableStore.empty none (packet :: rest)) = (.ok (), h₁) ∧
      (runTick J).exec h₁ = (.ok .committed, h₂) ∧ Running J none 1 h₂ := by
  have hempty : none ≠ some FaultPoint.malformedCheckpoint → DurableStore.empty.load J = .ok none :=
    fun _ => rfl
  have hboot := boot_hit hJ seed hempty (packet :: rest)
  rcases hx₁ : (boot J).exec (build seed DurableStore.empty none (packet :: rest)) with ⟨e | ⟨⟩, h₁⟩
  · obtain ⟨p, hp, -⟩ := wp_of_exec_error hboot hx₁
    cases hp
  obtain ⟨-, -, hr, h0, hsteps, hsrc⟩ := wp_of_exec_ok hboot hx₁
  have htick := runTick_hit hJ hr hsteps hsrc (fresh_seq h0 hseq)
  rcases hx₂ : (runTick J).exec h₁ with ⟨e | r, h₂⟩
  · obtain ⟨p, hp, -⟩ := wp_of_exec_error htick hx₂
    cases hp
  obtain ⟨rfl, -, -, -, hr'⟩ := wp_of_exec_ok htick hx₂
  exact ⟨h₁, h₂, rfl, hx₂, hr'⟩

/-- A shutdown fault is armed on a process that has published once. -/
theorem runInjectedSession_shutdown (hJ : J.RoundTrips) (hsd : isShutdownFault point = true)
    {packet : SequencedIngress} (rest : List SequencedIngress) (hseq : 1 ≤ packet.seq) :
    ∃ first, runInjectedSession J seed point (packet :: rest) = .ok first ∧
      Crashed J point first := by
  have hp : point ≠ .malformedCheckpoint := by
    rintro rfl
    cases hsd
  obtain ⟨h₁, h₂, hboot, htick, hr⟩ := first_tick hJ seed rest hseq
  refine ⟨(shutdown.exec (h₂.armFault point)).2, ?_, ?_⟩
  · simp only [runInjectedSession, if_neg hp, hsd, if_true, hboot, htick]
    rfl
  · have hdown : wp shutdown (fun _ _ => Spared (some point) .shutdown)
        (fun _ h' => Crashed J point h') (h₂.armFault point) := shutdown_hit hr
    rcases hx : shutdown.exec (h₂.armFault point) with ⟨e | ⟨⟩, h₃⟩
    · exact wp_of_exec_error hdown hx
    · have hspared := wp_of_exec_ok hdown hx
      exact absurd ((isShutdownFault_iff point).1 hsd) (hspared point rfl)

/-- Every other fault is armed from the start, and fires in the boot or in the first tick. -/
theorem runInjectedSession_armed (hJ : J.RoundTrips) (hsd : ¬isShutdownFault point = true)
    {packet : SequencedIngress} (rest : List SequencedIngress) (hseq : 1 ≤ packet.seq) :
    ∃ first, runInjectedSession J seed point (packet :: rest) = .ok first ∧
      Crashed J point first := by
  have hdied : ∀ {h}, Died J (some point) h → Crashed J point h := by
    rintro h ⟨p, hp, hc⟩
    cases hp
    exact hc
  let store := if point = .malformedCheckpoint then DurableStore.malformed NOT_A_CHECKPOINT
    else DurableStore.empty
  have hstore : some point ≠ some .malformedCheckpoint → store.load J = .ok none := by
    intro hp
    show (if _ then _ else _ : DurableStore).load J = _
    rw [if_neg (fun h => hp (congrArg some h))]
    rfl
  have hbuild : (if point = .malformedCheckpoint then
        build seed (DurableStore.malformed NOT_A_CHECKPOINT) (some point) (packet :: rest)
      else build seed DurableStore.empty (some point) (packet :: rest)) =
      build seed store (some point) (packet :: rest) := by
    show _ = build seed (if _ then _ else _) _ _
    split <;> rfl
  have hboot := boot_hit hJ seed hstore (packet :: rest)
  simp only [runInjectedSession, if_neg hsd, hbuild]
  rcases hx₁ : (boot J).exec (build seed store (some point) (packet :: rest)) with ⟨e | ⟨⟩, h₁⟩
  · exact ⟨h₁, rfl, hdied (wp_of_exec_error hboot hx₁)⟩
  obtain ⟨hs₁, hs₂, hr, h0, hsteps, hsrc⟩ := wp_of_exec_ok hboot hx₁
  have htick := runTick_hit hJ hr hsteps hsrc (fresh_seq h0 hseq)
  refine ⟨((runTick J).exec h₁).2, ?_, ?_⟩
  · simp only [hr.live]
    rfl
  · rcases hx₂ : (runTick J).exec h₁ with ⟨e | r, h₂⟩
    · exact hdied (wp_of_exec_error htick hx₂)
    · -- spared by the boot and by the tick, the fault would belong to the shutdown
      obtain ⟨-, hs₃, hs₄, hs₅, -⟩ := wp_of_exec_ok htick hx₂
      refine absurd ((isShutdownFault_iff point).2 ?_) hsd
      cases hb : point.boundary with
      | shutdown => rfl
      | initialization => exact absurd hb (hs₁ point rfl)
      | checkpointValidation => exact absurd hb (hs₂ point rfl)
      | ingress => exact absurd hb (hs₃ point rfl)
      | tickExecute => exact absurd hb (hs₄ point rfl)
      | metricPublish => exact absurd hb (hs₅ point rfl)

/-- The restart passes every assertion the suite makes on it. -/
theorem bootRestart_leftBehind (hJ : J.RoundTrips) (seed : UInt64) {store : DurableStore}
    {durable : DurableState} {outcome : RestartOutcome} (hl : LeftBehind J store durable outcome)
    (packets : List SequencedIngress) :
    ∃ restarted, bootRestart J seed store packets durable.committedTickSeq
        durable.committedIngressSeq durable.lastSessionId = .ok restarted ∧
      restarted.restartOutcome = some outcome ∧
      restarted.incompletePrior = (outcome == .recoveredIncomplete) ∧
      (outcome ≠ .rejectedInvalid →
        restarted.sessionId.toNat = durable.lastSessionId.toNat + 1) := by
  have hboot := boot_leftBehind hJ seed hl packets
  rcases hx : (boot J).exec (build seed store none packets) with ⟨e | ⟨⟩, h⟩
  · obtain ⟨rfl, hout, hprior, hlive, hentered⟩ := wp_of_exec_error hboot hx
    refine ⟨h, ?_, hout, hprior, fun hne => absurd rfl hne⟩
    simp only [bootRestart, hx, hout, hlive, hentered]
    rfl
  · obtain ⟨hacc, hout, hprior, hsession, hlive, hcore, hpub, hmet, htick, hing⟩ :=
      wp_of_exec_ok hboot hx
    refine ⟨h, ?_, hout, hprior, fun _ => hsession⟩
    simp only [bootRestart, hx, hout, hlive, hcore, hpub, hmet, htick, hing, hsession, ensure]
    cases outcome with
    | rejectedInvalid => exact absurd rfl hacc
    | _ => rfl

/-- **The fault matrix is right.**  Whatever the seed and the packets, the scenario of the
fault suite runs to its end at every fault point, and reports what the table expects. -/
theorem drive_matches (hJ : J.RoundTrips) (seed : UInt64) (point : FaultPoint)
    (packet : SequencedIngress) (rest later : List SequencedIngress) (hseq : 1 ≤ packet.seq) :
    ∃ report, drive J seed point (packet :: rest) later = .ok report ∧
      report.Matches (expectedOutcome point) := by
  obtain ⟨first, hfirst, hc⟩ : ∃ first, runInjectedSession J seed point (packet :: rest) =
      .ok first ∧ Crashed J point first := by
    by_cases hsd : isShutdownFault point = true
    · exact runInjectedSession_shutdown hJ hsd rest hseq
    · exact runInjectedSession_armed hJ hsd rest hseq
  obtain ⟨restarted, hrestart, hout, hprior, hsession⟩ :=
    bootRestart_leftBehind hJ seed hc.left later
  refine ⟨⟨first.health, (expectedOutcome point).restart, first.published.length,
    first.metrics.length, first.liveLoopEntered, first.durable.inflight,
    first.durable.lastSessionId, restarted.sessionId, restarted.incompletePrior⟩, ?_, ?_⟩
  · unfold drive
    refine Except.bind_eq_ok.2 ⟨first, hfirst, Except.bind_eq_ok.2 ⟨restarted, hrestart, ?_⟩⟩
    rw [hout]
    rfl
  · exact ⟨hc.terminalHealth, rfl, hc.published, hc.metrics, hc.liveLoopEntered, hprior,
      leftBehind_inflight hc.left, hsession⟩

/-- A process that dies between its core step and its commit, on a packet numbered 7. -/
theorem drive_matches_coreStep :
    ∃ report, drive serdeJson 3 .coreStepError [⟨7, []⟩] [] = .ok report ∧
      report.Matches ⟨.faulted, .recoveredIncomplete, 0, true⟩ :=
  drive_matches serdeJson_roundTrips 3 .coreStepError ⟨7, []⟩ [] [] (by decide)

end

end Brainstem.Runtime
