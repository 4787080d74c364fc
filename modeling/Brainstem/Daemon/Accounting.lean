import Brainstem.Daemon.StepInput

/-!
# Tick accounting

What a tick did is read off its trace; what it counted is in the statistics.  `Adds k s s'`
says that the counters moved by exactly the tally `k` unless one of them overflows: every
phase of a tick adds its part of `TickTrace.tally`, on every way out, and a run adds the sum.

    rejected    = receive errors + flagged + refused by either gate
    diagnostics = receive errors + emit errors + ticks that dropped spikes + refusals
    emit calls  = ticks - ticks that lost all their spikes
-/

namespace Brainstem.Daemon

open Brainstem.Health
open Brainstem.Ingress hiding Instant

variable {Network Entropy : Type} {nm : Neuromod Network Entropy} {fl : ℚ → ℚ}

/-! ## What a tick did -/

namespace TickTrace

def receiveError (t : TickTrace) : Bool :=
  match t.received with
  | .error _ => true
  | .ok _ => false

/-- The backend packet of the tick, if there was one. -/
def backendPacket (t : TickTrace) : Option IngressPacket :=
  match t.received with
  | .error _ => none
  | .ok packet => packet

/-- The backend packet came flagged as rejected. -/
def flagged (t : TickTrace) : Bool := t.backendPacket.any (·.rejected)

/-- The first gate refused the backend packet. -/
def refusedBackend (t : TickTrace) : Bool :=
  t.backendPacket.any fun packet => !packet.rejected && (firstNonFinite packet).isSome

/-- The backend packet passed, with a batch id. -/
def accepted (t : TickTrace) : Bool :=
  t.backendPacket.any fun packet =>
    !packet.rejected && (firstNonFinite packet).isNone && packet.batchId.isSome

/-- The second gate refused the drained packet. -/
def refusedDrained (t : TickTrace) : Bool := (firstNonFinite t.drained.intoPacket).isSome

/-- The spikes of a successful step. -/
def spikeIds (t : TickTrace) : Option (List ℕ) :=
  match t.stepped with
  | some ⟨_, _, .ok ids⟩ => some ids
  | _ => none

theorem spikeIds_of_stepped {t : TickTrace} {call : StepCall} (h : t.stepped = some call) :
    t.spikeIds = call.result.toOption := by
  obtain ⟨x, m, result⟩ := call
  unfold spikeIds
  rw [h]
  cases result <;> rfl

theorem spikeIds_eq_some {t : TickTrace} {ids : List ℕ} :
    t.spikeIds = some ids ↔ ∃ x m, t.stepped = some ⟨x, m, .ok ids⟩ := by
  unfold spikeIds
  constructor
  · intro h
    split at h
    · next x m ids' hs =>
      cases h
      exact ⟨x, m, hs⟩
    · cases h
  · rintro ⟨x, m, hs⟩
    rw [hs]

def stepSucceeded (t : TickTrace) : Bool := t.spikeIds.isSome

/-- The spikes that do not fit the wire type. -/
def outOfRange (t : TickTrace) : List ℕ := (t.spikeIds.getD []).filter fun idx => U16_BOUND ≤ idx

def droppedSpikes (t : TickTrace) : Bool := !t.outOfRange.isEmpty

/-- There were spikes, and none of them fits. -/
def lostAll (t : TickTrace) : Bool :=
  t.spikeIds.any fun ids => !ids.isEmpty && ids.all fun idx => U16_BOUND ≤ idx

def emitCalled (t : TickTrace) : Bool := t.emitted.isSome

def emitFailed (t : TickTrace) : Bool :=
  match t.emitted with
  | some ⟨_, _, .error _⟩ => true
  | _ => false

end TickTrace

/-! ## Tallies -/

/-- How far each counter is to move; the emitted and the suppressed diagnostics count as one. -/
structure Tally where
  ticks : ℕ := 0
  accepted : ℕ := 0
  rejected : ℕ := 0
  receiveErrors : ℕ := 0
  emitErrors : ℕ := 0
  droppedSpikes : ℕ := 0
  diagnostics : ℕ := 0
  deriving DecidableEq, Repr

namespace Tally

instance : Zero Tally := ⟨{}⟩

instance : Add Tally :=
  ⟨fun a b => ⟨a.ticks + b.ticks, a.accepted + b.accepted, a.rejected + b.rejected,
    a.receiveErrors + b.receiveErrors, a.emitErrors + b.emitErrors,
    a.droppedSpikes + b.droppedSpikes, a.diagnostics + b.diagnostics⟩⟩

theorem mk_add (a b c d e f g a' b' c' d' e' f' g' : ℕ) :
    (⟨a, b, c, d, e, f, g⟩ + ⟨a', b', c', d', e', f', g'⟩ : Tally) =
      ⟨a + a', b + b', c + c', d + d', e + e', f + f', g + g'⟩ := rfl

/-- Every counter stays below `2 ^ 64`. -/
structure Fits (k : Tally) : Prop where
  ticks : k.ticks < 2 ^ 64
  accepted : k.accepted < 2 ^ 64
  rejected : k.rejected < 2 ^ 64
  receiveErrors : k.receiveErrors < 2 ^ 64
  emitErrors : k.emitErrors < 2 ^ 64
  droppedSpikes : k.droppedSpikes < 2 ^ 64
  diagnostics : k.diagnostics < 2 ^ 64

end Tally

def TickTrace.tally (t : TickTrace) : Tally where
  ticks := t.stepSucceeded.toNat
  accepted := t.accepted.toNat
  rejected :=
    t.receiveError.toNat + t.flagged.toNat + t.refusedBackend.toNat + t.refusedDrained.toNat
  receiveErrors := t.receiveError.toNat
  emitErrors := t.emitFailed.toNat
  droppedSpikes := t.outOfRange.length
  diagnostics := t.receiveError.toNat + t.emitFailed.toNat + t.droppedSpikes.toNat +
    (t.refusedBackend.toNat + t.refusedDrained.toNat)

/-- A counter moves from `x` to `x'` by `k`, unless it overflows. -/
def Grows (x k x' : ℕ) : Prop := x + k < 2 ^ 64 → x' = x + k

theorem Grows.refl (x : ℕ) : Grows x 0 x := fun _ => rfl

theorem Grows.trans {x y z k l : ℕ} (h : Grows x k y) (h' : Grows y l z) : Grows x (k + l) z := by
  intro hlt
  have hy := h (by omega)
  have hz := h' (by omega)
  omega

theorem grows_wrappingAdd (x k : ℕ) : Grows x k (wrappingAdd x k) := Nat.mod_eq_of_lt

theorem grows_saturatingAdd (x k : ℕ) : Grows x k (saturatingAdd x k) := by
  intro hlt
  unfold saturatingAdd
  omega

/-- The counters moved by `k`. -/
structure Adds (k : Tally) (s s' : RuntimeStats) : Prop where
  ticks : Grows s.ticks k.ticks s'.ticks
  accepted : Grows s.acceptedBatches k.accepted s'.acceptedBatches
  rejected : Grows s.rejectedBatches k.rejected s'.rejectedBatches
  receiveErrors : Grows s.receiveErrors k.receiveErrors s'.receiveErrors
  emitErrors : Grows s.emitErrors k.emitErrors s'.emitErrors
  droppedSpikes : Grows s.droppedSpikes k.droppedSpikes s'.droppedSpikes
  diagnostics : ∃ emitted suppressed, emitted + suppressed = k.diagnostics ∧
    Grows s.diagnosticEmissions emitted s'.diagnosticEmissions ∧
    Grows s.suppressedDiagnostics suppressed s'.suppressedDiagnostics

namespace Adds

variable {k l : Tally} {s s' s'' : RuntimeStats}

theorem zero (s : RuntimeStats) : Adds 0 s s :=
  ⟨.refl _, .refl _, .refl _, .refl _, .refl _, .refl _, 0, 0, rfl, .refl _, .refl _⟩

theorem trans (h : Adds k s s') (h' : Adds l s' s'') : Adds (k + l) s s'' := by
  obtain ⟨e, p, hsum, he, hp⟩ := h.diagnostics
  obtain ⟨e', p', hsum', he', hp'⟩ := h'.diagnostics
  refine ⟨h.ticks.trans h'.ticks, h.accepted.trans h'.accepted, h.rejected.trans h'.rejected,
    h.receiveErrors.trans h'.receiveErrors, h.emitErrors.trans h'.emitErrors,
    h.droppedSpikes.trans h'.droppedSpikes, e + e', p + p', ?_, he.trans he', hp.trans hp'⟩
  show e + e' + (p + p') = k.diagnostics + l.diagnostics
  omega

theorem trans_to {m : Tally} (h : Adds k s s') (h' : Adds l s' s'') (hm : k + l = m) :
    Adds m s s'' := hm ▸ h.trans h'

theorem countDiagnostic (s : RuntimeStats) (suppressed : Option ℕ) :
    Adds { diagnostics := 1 } s (s.countDiagnostic suppressed) := by
  cases suppressed with
  | none =>
    exact ⟨.refl _, .refl _, .refl _, .refl _, .refl _, .refl _, 0, 1, rfl, .refl _,
      grows_saturatingAdd _ 1⟩
  | some n =>
    exact ⟨.refl _, .refl _, .refl _, .refl _, .refl _, .refl _, 1, 0, rfl,
      grows_saturatingAdd _ 1, .refl _⟩

/-- The counters of a change that leaves the diagnostics alone. -/
theorem of_fields (hticks : Grows s.ticks k.ticks s'.ticks)
    (haccepted : Grows s.acceptedBatches k.accepted s'.acceptedBatches)
    (hrejected : Grows s.rejectedBatches k.rejected s'.rejectedBatches)
    (hreceive : Grows s.receiveErrors k.receiveErrors s'.receiveErrors)
    (hemit : Grows s.emitErrors k.emitErrors s'.emitErrors)
    (hdropped : Grows s.droppedSpikes k.droppedSpikes s'.droppedSpikes)
    (hd : k.diagnostics = 0) (hd' : s'.diagnosticEmissions = s.diagnosticEmissions ∧
      s'.suppressedDiagnostics = s.suppressedDiagnostics) : Adds k s s' :=
  ⟨hticks, haccepted, hrejected, hreceive, hemit, hdropped, 0, 0, hd.symm,
    hd'.1 ▸ .refl _, hd'.2 ▸ .refl _⟩

end Adds

/-! ## The phases of a tick -/

theorem recordNonFiniteRejection_adds (now : Instant) (stats : RuntimeStats)
    (diagnostics : TickDiagnostics) :
    Adds { rejected := 1, diagnostics := 1 } stats
      (recordNonFiniteRejection now stats diagnostics).1 := by
  have hcount : Adds { rejected := 1 } stats
      { stats with rejectedBatches := wrappingAdd stats.rejectedBatches 1 } :=
    .of_fields (.refl _) (.refl _) (grows_wrappingAdd _ 1) (.refl _) (.refl _) (.refl _) rfl ⟨rfl, rfl⟩
  exact hcount.trans (.countDiagnostic _ _)

variable {t : TickTrace} {input : TickInput Entropy}

theorem backendPacket_eq (ht : t.received = input.received) : t.backendPacket = input.backendPacket := by
  unfold TickTrace.backendPacket TickInput.backendPacket
  cases hr : input.received <;> simp [ht, hr]

theorem intake_adds (ht : t.received = input.received) (stats : RuntimeStats)
    (diagnostics : TickDiagnostics) :
    Adds
      { rejected := t.receiveError.toNat + t.refusedBackend.toNat
        receiveErrors := t.receiveError.toNat
        diagnostics := t.receiveError.toNat + t.refusedBackend.toNat }
      stats (gateBackend input (receive input stats diagnostics)).stats := by
  unfold TickTrace.refusedBackend TickTrace.receiveError
  rw [backendPacket_eq ht, ht]
  unfold gateBackend receive TickInput.backendPacket
  cases input.received with
  | error e =>
    have hcount : Adds { rejected := 1, receiveErrors := 1 } stats
        { stats with
          receiveErrors := saturatingAdd stats.receiveErrors 1
          rejectedBatches := wrappingAdd stats.rejectedBatches 1 } :=
      .of_fields (.refl _) (.refl _) (grows_wrappingAdd _ 1) (grows_saturatingAdd _ 1) (.refl _)
        (.refl _) rfl ⟨rfl, rfl⟩
    exact hcount.trans (.countDiagnostic _ _)
  | ok packet =>
    cases packet with
    | none => exact .zero stats
    | some packet =>
      have hgate : (backendNonFinite packet).isSome =
          (!packet.rejected && (firstNonFinite packet).isSome) := by
        unfold backendNonFinite
        cases packet.rejected <;> simp
      simp only [Option.bind_some, Option.any_some, ← hgate]
      cases h : backendNonFinite packet with
      | none => exact .zero stats
      | some offender => exact recordNonFiniteRejection_adds _ stats diagnostics

theorem accountAndAdmitBackendPacket_adds (others : Others) (packet : IngressPacket)
    (stats : RuntimeStats) (ingress : BoundedIngress) :
    Adds
      { accepted := (!packet.rejected && packet.batchId.isSome).toNat
        rejected := packet.rejected.toNat }
      stats (accountAndAdmitBackendPacket others packet stats ingress).1 := by
  unfold accountAndAdmitBackendPacket
  cases hrej : packet.rejected with
  | true =>
    exact .of_fields (.refl _) (.refl _) (grows_wrappingAdd _ 1) (.refl _) (.refl _) (.refl _) rfl
      ⟨rfl, rfl⟩
  | false =>
    cases hid : packet.batchId with
    | none => exact .zero stats
    | some id =>
      exact .of_fields (.refl _) (grows_wrappingAdd _ 1) (.refl _) (.refl _) (.refl _) (.refl _) rfl
        ⟨rfl, rfl⟩

/-- Everything that is decided before the drain. -/
def TickTrace.intakeTally (t : TickTrace) : Tally :=
  { accepted := t.accepted.toNat
    rejected := t.receiveError.toNat + t.refusedBackend.toNat + t.flagged.toNat
    receiveErrors := t.receiveError.toNat
    diagnostics := t.receiveError.toNat + t.refusedBackend.toNat }

/-- The packet that is admitted decides what is still to be counted. -/
theorem accountAndAdmit_adds (d : TickLoop Network) (input : TickInput Entropy) :
    Adds
      { accepted := ((takeIn d input).packet.any fun p => !p.rejected && p.batchId.isSome).toNat
        rejected := ((takeIn d input).packet.any (·.rejected)).toNat }
      (takeIn d input).stats (accountAndAdmit d input).1 := by
  unfold accountAndAdmit
  simp only
  cases (takeIn d input).packet with
  | none => exact .zero _
  | some packet => exact accountAndAdmitBackendPacket_adds _ packet _ _

/-- What comes through the first gate is flagged already, or finite. -/
theorem any_gated (packet : Option IngressPacket) (p : IngressPacket → Bool) :
    (packet.filter fun packet => (backendNonFinite packet).isNone).any p =
      packet.any fun packet => (packet.rejected || (firstNonFinite packet).isNone) && p packet := by
  cases packet with
  | none => rfl
  | some packet =>
    have hgate : (backendNonFinite packet).isNone =
        (packet.rejected || (firstNonFinite packet).isNone) := by
      unfold backendNonFinite
      cases packet.rejected <;> rfl
    rw [Option.filter_some, Option.any_some, ← hgate]
    cases (backendNonFinite packet).isNone <;> rfl

theorem ingest_adds (d : TickLoop Network) (ht : t.received = input.received) :
    Adds t.intakeTally d.stats (ingest d input).stats := by
  have hpacket : (takeIn d input).packet = _ := intake_packet input d.stats d.diagnostics
  have hadmit := accountAndAdmit_adds d input
  rw [hpacket, ← backendPacket_eq ht, any_gated, any_gated] at hadmit
  have hflagged : (t.backendPacket.any fun packet =>
      (packet.rejected || (firstNonFinite packet).isNone) && packet.rejected) = t.flagged := by
    unfold TickTrace.flagged
    congr 1
    funext packet
    cases packet.rejected <;> simp
  have haccepted : (t.backendPacket.any fun packet =>
      (packet.rejected || (firstNonFinite packet).isNone) &&
        (!packet.rejected && packet.batchId.isSome)) = t.accepted := by
    unfold TickTrace.accepted
    congr 1
    funext packet
    cases packet.rejected <;> simp
  rw [hflagged, haccepted] at hadmit
  exact (intake_adds ht d.stats d.diagnostics).trans_to hadmit
    (by simp [TickTrace.intakeTally, Tally.mk_add])

/-! ## The second half of a tick -/

theorem collectSpikes_eq (tick : ℕ) (ids : List ℕ) : collectSpikes tick ids =
    ((ids.filter fun idx => idx < U16_BOUND).map fun idx => ⟨idx, tick % 2 ^ 32, .one⟩,
      (ids.filter fun idx => U16_BOUND ≤ idx).length) := by
  have hloop : ∀ (buf : List SpikeEvent) (dropped : ℕ),
      ids.foldl
        (fun acc idx =>
          if idx < U16_BOUND then (acc.1 ++ [⟨idx, tick % 2 ^ 32, .one⟩], acc.2)
          else (acc.1, acc.2 + 1))
        (buf, dropped) =
      (buf ++ (ids.filter fun idx => idx < U16_BOUND).map fun idx => ⟨idx, tick % 2 ^ 32, .one⟩,
        dropped + (ids.filter fun idx => U16_BOUND ≤ idx).length) := by
    induction ids with
    | nil => simp
    | cons idx ids ih =>
      intro buf dropped
      rw [List.foldl_cons]
      by_cases h : idx < U16_BOUND
      · have hle : ¬U16_BOUND ≤ idx := by omega
        simp only [h, if_true]
        rw [ih]
        simp [h, hle]
      · have hle : U16_BOUND ≤ idx := by omega
        simp only [h, if_false]
        rw [ih]
        simp [h, hle]
        omega
  unfold collectSpikes
  rw [hloop]
  simp

theorem recordDropped_adds (input : TickInput Entropy) (dropped : ℕ) (stats : RuntimeStats)
    (diagnostics : TickDiagnostics) :
    Adds { droppedSpikes := dropped, diagnostics := (decide (0 < dropped)).toNat }
      stats (recordDropped input dropped stats diagnostics).1 := by
  unfold recordDropped
  split
  · next h =>
    have hcount : Adds { droppedSpikes := dropped } stats
        { stats with droppedSpikes := saturatingAdd stats.droppedSpikes dropped } :=
      .of_fields (.refl _) (.refl _) (.refl _) (.refl _) (.refl _) (grows_saturatingAdd _ _) rfl
        ⟨rfl, rfl⟩
    have hone : (decide (0 < dropped)).toNat = 1 := by simp [h]
    rw [hone]
    exact hcount.trans (.countDiagnostic _ _)
  · next h =>
    have hzero : dropped = 0 := by omega
    subst hzero
    exact .zero stats

theorem recordEmitError_adds (input : TickInput Entropy) (e : String) (stats : RuntimeStats)
    (diagnostics : TickDiagnostics) :
    Adds { emitErrors := 1, diagnostics := 1 } stats
      (recordEmitError input e stats diagnostics).1 := by
  have hcount : Adds { emitErrors := 1 } stats
      { stats with emitErrors := saturatingAdd stats.emitErrors 1 } :=
    .of_fields (.refl _) (.refl _) (.refl _) (.refl _) (grows_saturatingAdd _ 1) (.refl _) rfl
      ⟨rfl, rfl⟩
  exact hcount.trans (.countDiagnostic _ _)

/-- Everything that is decided after the drain. -/
def TickTrace.outcomeTally (t : TickTrace) : Tally :=
  { ticks := t.stepSucceeded.toNat
    rejected := t.refusedDrained.toNat
    emitErrors := t.emitFailed.toNat
    droppedSpikes := t.outOfRange.length
    diagnostics := t.droppedSpikes.toNat + t.emitFailed.toNat + t.refusedDrained.toNat }

theorem tally_eq (t : TickTrace) : t.tally = t.intakeTally + t.outcomeTally := by
  show Tally.mk _ _ _ _ _ _ _ = Tally.mk _ _ _ _ _ _ _
  simp only [Tally.mk.injEq]
  refine ⟨?_, ?_, ?_, ?_, ?_, ?_, ?_⟩ <;> simp [TickTrace.intakeTally, TickTrace.outcomeTally] <;>
    omega

variable {d : TickLoop Network} {packet : IngressPacket} {stats : RuntimeStats}
  {diagnostics : TickDiagnostics}

/-- Up to the emission: the tick, and the spikes that do not fit. -/
theorem spikes_adds (input : TickInput Entropy) (t : TickTrace) (stats : RuntimeStats)
    (diagnostics : TickDiagnostics) :
    Adds
      { ticks := 1, droppedSpikes := t.outOfRange.length, diagnostics := t.droppedSpikes.toNat }
      stats
      (recordDropped input t.outOfRange.length { stats with ticks := wrappingAdd stats.ticks 1 }
        diagnostics).1 := by
  have htick : Adds { ticks := 1 } stats { stats with ticks := wrappingAdd stats.ticks 1 } :=
    .of_fields (grows_wrappingAdd _ 1) (.refl _) (.refl _) (.refl _) (.refl _) (.refl _) rfl ⟨rfl, rfl⟩
  have hdropped : decide (0 < t.outOfRange.length) = t.droppedSpikes := by
    unfold TickTrace.droppedSpikes
    cases t.outOfRange <;> simp
  have hrest := recordDropped_adds input t.outOfRange.length
    { stats with ticks := wrappingAdd stats.ticks 1 } diagnostics
  rw [hdropped] at hrest
  exact htick.trans_to hrest (by simp [Tally.mk_add])

theorem lostAll_eq {ids : List ℕ} (tick : ℕ) (h : t.spikeIds = some ids) :
    t.lostAll = ((collectSpikes tick ids).1.isEmpty && !ids.isEmpty) := by
  unfold TickTrace.lostAll
  rw [h, collectSpikes_eq, Option.any_some, Bool.and_comm, Bool.eq_iff_iff]
  simp only [Bool.and_eq_true, List.all_eq_true, decide_eq_true_eq, List.isEmpty_iff,
    List.map_eq_nil_iff, List.filter_eq_nil_iff, Nat.not_lt]

/-- A successful step is followed by one call of the sink, unless every spike was dropped. -/
theorem publishSpikes_adds {call : StepCall} {network : Network} {ids : List ℕ}
    (hcall : call.result = .ok ids)
    (hs : t.stepped = (publishSpikes input call network ids stats diagnostics).stepped)
    (he : t.emitted = (publishSpikes input call network ids stats diagnostics).emitted)
    (hp : t.refusedDrained = false) :
    Adds t.outcomeTally stats (publishSpikes input call network ids stats diagnostics).stats ∧
      t.emitCalled.toNat + t.lostAll.toNat = t.stepSucceeded.toNat := by
  have hids : t.spikeIds = some ids := by
    obtain ⟨x, m, result⟩ := call
    cases hcall
    rw [(publishSpikes_call input stats diagnostics _ network ids).1] at hs
    exact TickTrace.spikeIds_eq_some.2 ⟨x, m, hs⟩
  have hlost := lostAll_eq (input.sinceEpoch / 1000000 % 2 ^ 64) hids
  have hdropped : (collectSpikes (input.sinceEpoch / 1000000 % 2 ^ 64) ids).2 = t.outOfRange.length := by
    rw [collectSpikes_eq]
    unfold TickTrace.outOfRange
    rw [hids, Option.getD_some]
  have hstep : t.stepSucceeded.toNat = 1 := by simp [TickTrace.stepSucceeded, hids]
  have hall : ∀ s, Adds { emitErrors := t.emitFailed.toNat, diagnostics := t.emitFailed.toNat }
      (recordDropped input t.outOfRange.length { stats with ticks := wrappingAdd stats.ticks 1 }
        diagnostics).1 s → Adds t.outcomeTally stats s := by
    intro s h
    exact (spikes_adds input t stats diagnostics).trans_to h
      (by simp [TickTrace.outcomeTally, Tally.mk_add, hstep, hp])
  have hcases := publishSpikes_cases input stats diagnostics call network ids
  dsimp only at hcases
  rw [hdropped, ← hlost, ← he] at hcases
  rw [hstep]
  rcases hcases with ⟨hkept, hemitted, hstats, -⟩ | ⟨hkept, hemitted, hsink⟩
  · have hfail : t.emitFailed = false := by simp [TickTrace.emitFailed, hemitted]
    refine ⟨hall _ ?_, ?_⟩
    · rw [hstats, hfail]
      exact .zero _
    · simp [TickTrace.emitCalled, hemitted, hkept]
  · refine ⟨hall _ ?_, by simp [TickTrace.emitCalled, hemitted, hkept]⟩
    rcases hsink with ⟨hok, hstats, -⟩ | ⟨e, herror, hstats, -⟩
    · have hfail : t.emitFailed = false := by simp [TickTrace.emitFailed, hemitted, hok]
      rw [hstats, hfail]
      exact .zero _
    · have hfail : t.emitFailed = true := by simp [TickTrace.emitFailed, hemitted, herror]
      rw [hstats, hfail]
      exact recordEmitError_adds input e _ _

/-- **The second half of a tick**, on every way out. -/
theorem advance_adds (nm : Neuromod Network Entropy) (d : TickLoop Network)
    (input : TickInput Entropy) (packet : IngressPacket) (stats : RuntimeStats)
    (diagnostics : TickDiagnostics) (hp : t.drained.intoPacket = packet)
    (hs : t.stepped = (advance nm d input packet stats diagnostics).stepped)
    (he : t.emitted = (advance nm d input packet stats diagnostics).emitted) :
    Adds t.outcomeTally stats (advance nm d input packet stats diagnostics).stats ∧
      t.emitCalled.toNat + t.lostAll.toNat = t.stepSucceeded.toNat := by
  have hrefused : t.refusedDrained = (firstNonFinite packet).isSome := by
    unfold TickTrace.refusedDrained
    rw [hp]
  -- without a successful step there is nothing to emit and nothing to lose
  have hquiet : t.spikeIds = none → t.emitted = none →
      t.outcomeTally = { rejected := t.refusedDrained.toNat, diagnostics := t.refusedDrained.toNat } ∧
        t.emitCalled.toNat + t.lostAll.toNat = t.stepSucceeded.toNat := by
    intro hids hemitted
    simp [TickTrace.outcomeTally, TickTrace.stepSucceeded, TickTrace.outOfRange,
      TickTrace.droppedSpikes, TickTrace.emitFailed, TickTrace.emitCalled, TickTrace.lostAll, hids,
      hemitted]
  rcases advance_cases nm d input packet stats diagnostics with
    ⟨offender, h, ha⟩ | ⟨h, ⟨e, hr, ha⟩ | ⟨ids, hr, ha⟩⟩
  · rw [ha] at hs he ⊢
    obtain ⟨htally, hcalls⟩ := hquiet (by simp [TickTrace.spikeIds, hs]) he
    refine ⟨?_, hcalls⟩
    rw [htally, hrefused, h]
    exact recordNonFiniteRejection_adds _ stats diagnostics
  · rw [ha] at hs he ⊢
    obtain ⟨htally, hcalls⟩ := hquiet (by simp [TickTrace.spikeIds, hs]) he
    refine ⟨?_, hcalls⟩
    rw [htally, hrefused, h]
    exact .zero stats
  · rw [h] at hrefused
    rw [ha] at hs he ⊢
    exact publishSpikes_adds rfl hs he hrefused

/-! ## The whole tick -/

/-- **A tick adds its tally**, and calls the sink once for a successful step unless every spike
was dropped. -/
theorem runTick_adds (nm : Neuromod Network Entropy) (fl : ℚ → ℚ) (d : TickLoop Network) (input : TickInput Entropy) :
    let r := runTick nm fl d input
    Adds r.1.tally d.stats r.2.stats ∧
      r.1.emitCalled.toNat + r.1.lostAll.toNat = r.1.stepSucceeded.toNat := by
  intro r
  have hin : Adds r.1.intakeTally d.stats (ingest d input).stats := ingest_adds d rfl
  have hout := advance_adds nm d input (ingest d input).packet (ingest d input).stats
    (ingest d input).diagnostics (t := r.1) rfl rfl rfl
  rw [tally_eq]
  exact ⟨hin.trans hout.1, hout.2⟩

/-! ## Runs -/

/-- The sum of `f` over the ticks of a trace. -/
def total (f : TickTrace → ℕ) (trace : List (Label Entropy × TickLoop Network)) : ℕ :=
  (trace.map fun e => match e.1 with
    | .ticked _ t => f t
    | .other _ => 0).sum

/-- How many ticks of a trace satisfy `p`. -/
def count (p : TickTrace → Bool) (trace : List (Label Entropy × TickLoop Network)) : ℕ :=
  total (fun t => (p t).toNat) trace

def tallyOf (trace : List (Label Entropy × TickLoop Network)) : Tally where
  ticks := total (·.tally.ticks) trace
  accepted := total (·.tally.accepted) trace
  rejected := total (·.tally.rejected) trace
  receiveErrors := total (·.tally.receiveErrors) trace
  emitErrors := total (·.tally.emitErrors) trace
  droppedSpikes := total (·.tally.droppedSpikes) trace
  diagnostics := total (·.tally.diagnostics) trace

theorem total_add (f g : TickTrace → ℕ) (trace : List (Label Entropy × TickLoop Network)) :
    total (fun t => f t + g t) trace = total f trace + total g trace := by
  induction trace with
  | nil => rfl
  | cons e trace ih =>
    unfold total at ih ⊢
    rw [List.map_cons, List.sum_cons, ih, List.map_cons, List.sum_cons, List.map_cons, List.sum_cons]
    cases e.1 with
    | ticked input t =>
      simp only
      omega
    | other st => simp only; omega

/-- What one label adds to the tally. -/
def Label.tally : Label Entropy → Tally
  | .ticked _ t => t.tally
  | .other _ => 0

theorem tallyOf_concat (trace : List (Label Entropy × TickLoop Network)) (l : Label Entropy)
    (d : TickLoop Network) : tallyOf (trace ++ [(l, d)]) = tallyOf trace + l.tally := by
  have hconcat : ∀ f : TickTrace → ℕ, total f (trace ++ [(l, d)]) = total f trace +
      match l with
      | .ticked _ t => f t
      | .other _ => 0 := by
    intro f
    unfold total
    rw [List.map_append, List.sum_append]
    simp
  unfold tallyOf
  simp only [hconcat]
  cases l <;> rfl

theorem Tally.Fits.of_add {k l : Tally} (h : (k + l).Fits) : k.Fits := by
  have hle : ∀ {a b : ℕ}, a + b < 2 ^ 64 → a < 2 ^ 64 := fun h => Nat.lt_of_le_of_lt (Nat.le_add_right _ _) h
  exact ⟨hle h.ticks, hle h.accepted, hle h.rejected, hle h.receiveErrors, hle h.emitErrors,
    hle h.droppedSpikes, hle h.diagnostics⟩

/-- Without overflow the counters are the tally. -/
structure Counted (k : Tally) (s : RuntimeStats) : Prop where
  ticks : s.ticks = k.ticks
  accepted : s.acceptedBatches = k.accepted
  rejected : s.rejectedBatches = k.rejected
  receiveErrors : s.receiveErrors = k.receiveErrors
  emitErrors : s.emitErrors = k.emitErrors
  droppedSpikes : s.droppedSpikes = k.droppedSpikes
  diagnostics : s.diagnosticEmissions + s.suppressedDiagnostics = k.diagnostics

/-- One step more: the counters are the longer tally, and none has moved back. -/
theorem Counted.add {k l : Tally} {s s' : RuntimeStats} (hc : Counted k s) (h : Adds l s s')
    (hf : (k + l).Fits) : Counted (k + l) s' ∧ s.counters.Le s'.counters := by
  obtain ⟨e, p, hsum, he, hp⟩ := h.diagnostics
  have hgrow : ∀ {x y z w : ℕ}, x = z → z + w < 2 ^ 64 → Grows x w y → y = z + w ∧ x ≤ y := by
    rintro x y z w rfl hlt hg
    have hy := hg hlt
    omega
  have hdiag : s.diagnosticEmissions + s.suppressedDiagnostics + l.diagnostics < 2 ^ 64 := by
    rw [hc.diagnostics]
    exact hf.diagnostics
  have he' := he (by omega)
  have hp' := hp (by omega)
  obtain ⟨h1, h1'⟩ := hgrow hc.ticks hf.ticks h.ticks
  obtain ⟨h2, h2'⟩ := hgrow hc.accepted hf.accepted h.accepted
  obtain ⟨h3, h3'⟩ := hgrow hc.rejected hf.rejected h.rejected
  obtain ⟨h4, h4'⟩ := hgrow hc.receiveErrors hf.receiveErrors h.receiveErrors
  obtain ⟨h5, h5'⟩ := hgrow hc.emitErrors hf.emitErrors h.emitErrors
  obtain ⟨h6, h6'⟩ := hgrow hc.droppedSpikes hf.droppedSpikes h.droppedSpikes
  have h7 : s'.diagnosticEmissions + s'.suppressedDiagnostics = k.diagnostics + l.diagnostics := by
    rw [he', hp', ← hc.diagnostics]
    omega
  refine ⟨⟨h1, h2, h3, h4, h5, h6, h7⟩, ⟨h1', h2', h3', h4', h5', h6', ?_, ?_⟩⟩
  · show s.diagnosticEmissions ≤ s'.diagnosticEmissions
    omega
  · show s.suppressedDiagnostics ≤ s'.suppressedDiagnostics
    omega

/-- A step adds the tally of its label, and publishes it. -/
theorem steps_adds {d d' : TickLoop Network} {l : Label Entropy} (h : Steps nm fl d l d') :
    Adds l.tally d.stats d'.stats ∧ (d'.health.counters = d.health.counters.mergedMonotonic d'.stats.counters ∨
      d'.health = d.health ∧ d'.stats = d.stats) := by
  cases h with
  | other st => exact ⟨.zero _, .inr ⟨rfl, rfl⟩⟩
  | ticked input =>
    refine ⟨(runTick_adds nm fl d input).1, .inl ?_⟩
    have hcounters := (runTick_health nm fl d input).counters
    exact congrArg (·.mergedMonotonic (runTick nm fl d input).2.stats.counters) hcounters

/-- What a run keeps, as long as no counter overflows. -/
structure Books (d₀ : TickLoop Network) (trace : List (Label Entropy × TickLoop Network))
    (d : TickLoop Network) : Prop where
  counted : Counted (tallyOf trace) d.stats
  published : d.health.counters = d.stats.counters
  monotone : Run.Each (fun d _ d' => d.health.counters.Le d'.health.counters) d₀ trace

theorem run_books {d₀ d : TickLoop Network} {trace : List (Label Entropy × TickLoop Network)}
    (h0 : Counted 0 d₀.stats) (h0' : d₀.health.counters = d₀.stats.counters)
    (hr : Run (TickLoop.step nm fl) d₀ trace d) (hfits : (tallyOf trace).Fits) : Books d₀ trace d := by
  induction hr with
  | refl => exact ⟨h0, h0', trivial⟩
  | @snoc trace d d' l a hr hs ih =>
    rw [tallyOf_concat] at hfits
    have hbooks := ih hfits.of_add
    obtain ⟨hadds, hpub⟩ := steps_adds (steps_of_step hs)
    obtain ⟨hcounted, hle⟩ := hbooks.counted.add hadds hfits
    have hpublished : d'.health.counters = d'.stats.counters := by
      rcases hpub with h | ⟨h, h'⟩
      · rw [h, hbooks.published, RuntimeCounters.mergedMonotonic_of_le hle]
      · rw [h, h', hbooks.published]
    refine ⟨by rw [tallyOf_concat]; exact hcounted, hpublished,
      (Run.each_concat _ _).2 ⟨hbooks.monotone, ?_⟩⟩
    rw [Run.last_eq hr, hbooks.published]
    show d.stats.counters.Le d'.health.counters
    rw [hpublished]
    exact hle

theorem run_emits {d₀ d : TickLoop Network} {trace : List (Label Entropy × TickLoop Network)}
    (hr : Run (TickLoop.step nm fl) d₀ trace d) :
    count (·.emitCalled) trace + count (·.lostAll) trace = count (·.stepSucceeded) trace := by
  unfold count
  rw [← total_add]
  induction hr with
  | refl => rfl
  | @snoc trace d d' l a hr hs ih =>
    unfold total at ih ⊢
    rw [List.map_append, List.sum_append, ih, List.map_append, List.sum_append]
    cases steps_of_step hs with
    | other st => rfl
    | ticked input =>
      have hone := (runTick_adds nm fl d input).2
      simp only [List.map_cons, List.map_nil, List.sum_cons, List.sum_nil, Nat.add_zero,
        Nat.add_left_cancel_iff]
      exact hone

/-- **Tick accounting closes and is published**, in every run whose counters stay below
`2 ^ 64`. -/
theorem tick_accounting {net : NetParsers} {cfg : DaemonConfig} {d₀ d : TickLoop Network}
    (h0 : Enters nm net fl cfg d₀) {trace : List (Label Entropy × TickLoop Network)}
    (hr : Run (TickLoop.step nm fl) d₀ trace d) (hfits : (tallyOf trace).Fits) (now : Instant) :
    (d.health.snapshot fl now).counters = d.stats.counters ∧
    Run.Each (fun d _ d' => ∀ now now' : Instant,
      (d.health.snapshot fl now).counters.Le (d'.health.snapshot fl now').counters) d₀ trace ∧
    d.stats.receiveErrors = count (·.receiveError) trace ∧
    d.stats.emitErrors = count (·.emitFailed) trace ∧
    d.stats.rejectedBatches = d.stats.receiveErrors + count (·.flagged) trace +
      count (·.refusedBackend) trace + count (·.refusedDrained) trace ∧
    d.stats.diagnosticEmissions + d.stats.suppressedDiagnostics =
      d.stats.receiveErrors + d.stats.emitErrors + count (·.droppedSpikes) trace +
        (count (·.refusedBackend) trace + count (·.refusedDrained) trace) ∧
    d.stats.ticks = count (·.stepSucceeded) trace ∧
    count (·.lostAll) trace ≤ d.stats.ticks ∧
    count (·.emitCalled) trace = d.stats.ticks - count (·.lostAll) trace := by
  obtain ⟨_, _, _, hhealth⟩ := h0.health
  have hstats : Counted 0 d₀.stats ∧ d₀.health.counters = d₀.stats.counters := by
    rw [hhealth]
    obtain ⟨_, _, _, _, _, _, _⟩ := h0
    exact ⟨⟨rfl, rfl, rfl, rfl, rfl, rfl, rfl⟩, rfl⟩
  have hbooks := run_books hstats.1 hstats.2 hr hfits
  have hc := hbooks.counted
  have hemits := run_emits hr
  have hticks : d.stats.ticks = count (·.stepSucceeded) trace := hc.ticks
  have hreceive : d.stats.receiveErrors = count (·.receiveError) trace := hc.receiveErrors
  have hemit : d.stats.emitErrors = count (·.emitFailed) trace := hc.emitErrors
  refine ⟨hbooks.published, ?_, hreceive, hemit, ?_, ?_, hticks, by omega, by omega⟩
  · exact hbooks.monotone.imp fun _ _ _ h _ _ => h
  · rw [hc.rejected, hreceive]
    show total (fun t => t.receiveError.toNat + t.flagged.toNat + t.refusedBackend.toNat +
      t.refusedDrained.toNat) trace = _
    rw [total_add, total_add, total_add]
    rfl
  · rw [hc.diagnostics, hreceive, hemit]
    show total (fun t => t.receiveError.toNat + t.emitFailed.toNat + t.droppedSpikes.toNat +
      (t.refusedBackend.toNat + t.refusedDrained.toNat)) trace = _
    rw [total_add, total_add, total_add, total_add]
    rfl

/-- The quiet daemon in two ticks in which the source fails. -/
def failingTicks : List (Label Unit × TickLoop (ℕ × ℕ × ℕ)) :=
  let r₁ := runTickPublished .quiet id (TickLoop.quiet id) .failing
  let r₂ := runTickPublished .quiet id r₁.2 .failing
  [(.ticked .failing r₁.1, r₁.2), (.ticked .failing r₂.1, r₂.2)]

/-- Both failures are counted, and the diagnostic of the second is suppressed. -/
theorem tick_accounting_two_failures :
    ((Run.last (TickLoop.quiet id) failingTicks).health.snapshot id 0).counters =
      ⟨2, 0, 2, 2, 0, 0, 1, 1⟩ := by
  have hr : Run (TickLoop.step .quiet id) (TickLoop.quiet id) failingTicks
      (Run.last (TickLoop.quiet id) failingTicks) :=
    .snoc (.tick .failing) (.snoc (.tick .failing) .refl rfl) rfl
  have htally : tallyOf failingTicks =
      { ticks := 2, rejected := 2, receiveErrors := 2, diagnostics := 2 } := by decide +kernel
  have hfits : (tallyOf failingTicks).Fits := by
    rw [htally]
    constructor <;> decide
  obtain ⟨hpublished, -⟩ := tick_accounting (TickLoop.enters_quiet id) hr hfits 0
  have hstats : (Run.last (TickLoop.quiet id) failingTicks).stats.counters =
      ⟨2, 0, 2, 2, 0, 0, 1, 1⟩ := by decide +kernel
  exact hpublished.trans hstats

end Brainstem.Daemon
