import Brainstem.Runtime.Effects
import Brainstem.Runtime.Json

/-!
# Boot is fail-closed

A boot that no fault touches does one of two things with the bytes it finds: it resumes
the state they hold, or it refuses them and leaves them as they are.  Which of the two is
a condition on the bytes alone (`Bootable`):

    (boot J).exec h = (.ok (), _)  ↔  ∃ s, Bootable J blob s
-/

namespace Brainstem.Runtime

/-! ## What the bytes hold -/

theorem decode_eq_ok {J : SerdeJson} {bytes : Bytes} {s : DurableState} : decode J bytes = .ok s ↔
    ∃ json, bytes = MAGIC ++ json ∧ J.fromSlice json = .ok s ∧ s.validate = .ok () := by
  unfold decode
  constructor
  · intro h
    split at h
    · cases h
    · next json hp =>
      split at h
      · cases h
      · next state hs =>
        split at h
        · cases h
        · next hv =>
          cases h
          exact ⟨json, (List.isPrefixOf?_eq_some_iff_append_eq.1 hp).symm, hs, hv⟩
  · rintro ⟨json, rfl, hs, hv⟩
    simp only [Split.isPrefixOf?_append, hs, hv]

theorem load_eq_ok {J : SerdeJson} {blob : Bytes} {s : DurableState} :
    DurableStore.load J ⟨some blob⟩ = .ok (some s) ↔ decode J blob = .ok s := by
  unfold DurableStore.load
  cases h : decode J blob <;> simp [h, Except.map]

theorem load_ne_none {J : SerdeJson} {blob : Bytes} :
    DurableStore.load J ⟨some blob⟩ ≠ .ok none := by
  unfold DurableStore.load
  cases h : decode J blob <;> simp [h, Except.map]

/-- The bytes that a session can be resumed from: the magic, then the JSON of a valid state
with both counters still able to move. -/
structure Bootable (J : SerdeJson) (blob : Bytes) (s : DurableState) : Prop where
  decoded : ∃ json, blob = MAGIC ++ json ∧ J.fromSlice json = .ok s
  valid : s.validate = .ok ()
  session : s.lastSessionId < UInt64.max
  tick : s.committedTickSeq < UInt64.max

theorem Bootable.decode {J : SerdeJson} {blob : Bytes} {s : DurableState} (hb : Bootable J blob s) :
    Runtime.decode J blob = .ok s := by
  obtain ⟨json, rfl, hs⟩ := hb.decoded
  exact decode_eq_ok.2 ⟨json, rfl, hs, hb.valid⟩

theorem Bootable.resumes {J : SerdeJson} {blob : Bytes} {s : DurableState} (hb : Bootable J blob s) :
    ∃ t, RuntimeHarness.Resumes J ⟨some blob⟩ t := by
  obtain ⟨next, hnext⟩ := UInt64.exists_checkedAdd_one (UInt64.lt_max_iff.1 hb.session)
  exact ⟨_, .recovered s next (load_eq_ok.2 hb.decode) (UInt64.lt_max_iff.1 hb.tick) hnext⟩

/-- The state a new session starts from. -/
def DurableState.resumed (s : DurableState) : DurableState :=
  { s with lastSessionId := s.lastSessionId + 1, inflight := none }

def DurableState.restartOutcome (s : DurableState) : RestartOutcome :=
  if s.inflight.isSome then .recoveredIncomplete else .recoveredClean

/-- A fault that one of the points of a boot would let fire. -/
def FaultPoint.firesAtBoot : FaultPoint → Bool
  | .before .initialization
  | .after .initialization
  | .before .checkpointValidation
  | .after .checkpointValidation
  | .malformedCheckpoint => true
  | _ => false

namespace RuntimeHarness

open Proc

variable {J : SerdeJson} {blob : Bytes} {h h' : RuntimeHarness}

/-! ## The two outcomes -/

/-- A session was resumed from `s`. -/
structure Recovered (J : SerdeJson) (s : DurableState) (h : RuntimeHarness) : Prop where
  health : h.health = .live
  session : s.resumed.lastSessionId.toNat = s.lastSessionId.toNat + 1
  loaded : h.store.load J = .ok (some s.resumed)
  store : (encode J s.resumed).map some = .ok h.store.blob
  outcome : h.restartOutcome = some s.restartOutcome

/-- The bytes were refused: they are still there, and until the next boot nothing ticks. -/
structure Refused (J : SerdeJson) (blob : Bytes) (h : RuntimeHarness) : Prop where
  store : h.store = ⟨some blob⟩
  health : h.health = .checkpointInvalid
  outcome : h.restartOutcome = some .rejectedInvalid
  live : h.live = false
  liveLoopEntered : h.liveLoopEntered = false
  idle : ∀ calls : List Call, .boot ∉ calls →
    let h' := h.performAll J calls
    (∃ e, (runTick J).exec h' = (.error e, h')) ∧ h'.store = ⟨some blob⟩ ∧
      h'.published = h.published

/-- Not live, with the store and the outputs of `h`. -/
structure Idle (h h' : RuntimeHarness) : Prop where
  live : h'.live = false
  store : h'.store = h.store
  published : h'.published = h.published

theorem Idle.perform (hi : Idle h h') {call : Call} (hc : call ≠ .boot) :
    Idle h (h'.perform J call) := by
  cases call with
  | boot => exact absurd rfl hc
  | runTick =>
    show Idle h ((RuntimeHarness.runTick J).exec h').2
    rw [runTick_of_not_live hi.live]
    exact hi
  | shutdown =>
    obtain ⟨hstop, -, hp, -, hs⟩ := shutdown_effect h'
    exact ⟨hstop.1, hs.trans hi.store, hp.trans hi.published⟩
  | _ => exact ⟨hi.live, hi.store, hi.published⟩

theorem Idle.performAll (hi : Idle h h') (calls : List Call) (hc : .boot ∉ calls) :
    Idle h (h'.performAll J calls) := by
  induction calls generalizing h' with
  | nil => exact hi
  | cons call calls ih =>
    rw [List.mem_cons, not_or] at hc
    exact ih (hi.perform (Ne.symm hc.1)) hc.2

/-- A harness that refused the bytes stays idle from there on. -/
theorem Refused.of_rejected (hs : h.store = ⟨some blob⟩) (hl : h.live = false)
    (he : h.liveLoopEntered = false) (hh : h.health = .checkpointInvalid)
    (ho : h.restartOutcome = some .rejectedInvalid) : Refused J blob h where
  store := hs
  health := hh
  outcome := ho
  live := hl
  liveLoopEntered := he
  idle := by
    intro calls hc
    have hi : Idle h (h.performAll J calls) := Idle.performAll ⟨hl, rfl, rfl⟩ calls hc
    exact ⟨runTick_refuses hi.live, hi.store.trans hs, hi.published⟩

/-! ## Checkpoint validation -/

theorem resumed_eq {s : DurableState} {next : UInt64} (hn : s.lastSessionId.checkedAdd 1 = some next) :
    { s with inflight := none, lastSessionId := next } = s.resumed := by
  unfold UInt64.checkedAdd at hn
  split at hn
  · cases hn
    rfl
  · cases hn

/-- Bytes that load and leave room for one more session and one more tick. -/
theorem bootable_of_load {s : DurableState} {next : UInt64}
    (hload : (⟨some blob⟩ : DurableStore).load J = .ok (some s))
    (hmax : s.committedTickSeq ≠ UInt64.max) (hn : s.lastSessionId.checkedAdd 1 = some next) :
    Bootable J blob s := by
  rw [load_eq_ok, decode_eq_ok] at hload
  obtain ⟨json, hblob, hjson, hval⟩ := hload
  have hsession : s.lastSessionId ≠ UInt64.max := by
    intro h
    rw [UInt64.checkedAdd_one_eq_none.2 h] at hn
    cases hn
  exact ⟨⟨json, hblob, hjson⟩, hval, UInt64.lt_max_iff.2 hsession, UInt64.lt_max_iff.2 hmax⟩

/-- Bootable bytes are resumed, and all others refused before anything is written. -/
theorem validateCheckpoint_wp (hJ : J.RoundTrips) (hs : h.store = ⟨some blob⟩)
    (he : h.liveLoopEntered = false)
    (hun : ∀ p, h.injector.armed = some p → p.firesAtBoot = false) :
    wp (validateCheckpoint J)
      (fun _ h' => h'.injector = h.injector ∧ ∃ s, Bootable J blob s ∧
        s.resumed.lastSessionId.toNat = s.lastSessionId.toNat + 1 ∧
        Holds J h'.store s.resumed ∧ h'.restartOutcome = some s.restartOutcome)
      (fun _ h' => (¬∃ s, Bootable J blob s) ∧ Refused J blob h') h := by
  have hquiet : ∀ p, p.firesAtBoot = true → h.injector.armed ≠ some p := by
    intro p hp harm
    rw [hun p harm] at hp
    cases hp
  refine wp_validateCheckpoint hJ (fun h => absurd h (hquiet _ rfl)) (fun h => absurd h (hquiet _ rfl))
    ?_ ?_ ?_
  · intro _ hno prior _ e
    refine ⟨?_, .of_rejected hs rfl he rfl rfl⟩
    rintro ⟨s, hb⟩
    exact hno (hs ▸ hb.resumes)
  · intro _ _ hload
    rw [hs] at hload
    exact absurd hload load_ne_none
  · intro _ _ s next hload hmax hn store hholds
    have hresumed : { s with inflight := none, lastSessionId := next } = s.resumed := resumed_eq hn
    rw [hresumed] at hholds
    refine ⟨rfl, s, bootable_of_load (hs ▸ hload) hmax hn, ?_, hholds, rfl⟩
    rw [← hresumed]
    exact UInt64.checkedAdd_one_eq_some.1 hn

/-! ## Boot -/

theorem boot_outcome (hJ : J.RoundTrips) (seed : UInt64) (blob : Bytes) (armed : Option FaultPoint)
    (hun : ∀ p, armed = some p → p.firesAtBoot = false) (packets : List SequencedIngress) :
    wp (boot J) (fun _ h' => ∃ s, Bootable J blob s ∧ Recovered J s h')
      (fun _ h' => (¬∃ s, Bootable J blob s) ∧ Refused J blob h')
      (build seed ⟨some blob⟩ armed packets) := by
  have hquiet : ∀ p, p.firesAtBoot = true → armed ≠ some p := by
    intro p hp harm
    rw [hun p harm] at hp
    cases hp
  unfold boot
  simp only [wp_bind, wp_modify]
  refine wp_initializeRuntime (fun h => absurd h (hquiet _ rfl)) (fun h => absurd h (hquiet _ rfl))
    fun _ => ?_
  refine wp_mono (validateCheckpoint_wp hJ rfl rfl hun) ?_ (fun _ _ hrefused => hrefused)
  rintro _ h' ⟨hinj, s, hboot, hsession, hholds, hout⟩
  refine (wp_failPoint _).2 ⟨fun h => ?_, fun _ => ?_⟩
  · rw [hinj] at h
    exact absurd h (hquiet _ rfl)
  · exact ⟨s, hboot, rfl, hsession, hholds.2.1, hholds.2.2, hout⟩

/-- **Boot is fail-closed on every blob.**  A boot that no fault touches returns `Ok` exactly
on bootable bytes, and then resumes the state they hold; on any other bytes it returns `Err`,
leaves them as they are, and no call but another boot gets anything to tick. -/
theorem boot_fail_closed (hJ : J.RoundTrips) (seed : UInt64) (blob : Bytes)
    (armed : Option FaultPoint) (hun : ∀ p, armed = some p → p.firesAtBoot = false)
    (packets : List SequencedIngress) :
    let r := (boot J).exec (build seed ⟨some blob⟩ armed packets)
    (r.1 = .ok () ↔ ∃ s, Bootable J blob s) ∧
    (∀ s, Bootable J blob s → r.1 = .ok () ∧ Recovered J s r.2) ∧
    ((¬∃ s, Bootable J blob s) → (∃ e, r.1 = .error e) ∧ Refused J blob r.2) := by
  have hwp := boot_outcome hJ seed blob armed hun packets
  intro r
  rcases hr : r with ⟨e | ⟨⟩, h'⟩
  · obtain ⟨hno, hrefused⟩ := wp_of_exec_error hwp hr
    refine ⟨?_, fun s hb => absurd ⟨s, hb⟩ hno, fun _ => ⟨⟨e, rfl⟩, hrefused⟩⟩
    simp [hno]
  · obtain ⟨s, hb, hrec⟩ := wp_of_exec_ok hwp hr
    refine ⟨by simpa using ⟨s, hb⟩, fun t ht => ⟨rfl, ?_⟩, fun hno => absurd ⟨s, hb⟩ hno⟩
    have hst := hb.decode.symm.trans ht.decode
    cases hst
    exact hrec

/-- What a valid state is written as can be resumed from. -/
theorem bootable_toBytes {s : DurableState} (hv : s.validate = .ok ())
    (hsession : s.lastSessionId < UInt64.max) (htick : s.committedTickSeq < UInt64.max) :
    Bootable serdeJson (MAGIC ++ s.json.toBytes) s :=
  ⟨⟨_, rfl, serdeJson_fromSlice s⟩, hv, hsession, htick⟩

/-- A session that died with work in flight is resumed; the same bytes without the magic are
refused. -/
theorem boot_fail_closed_inflight :
    let s : DurableState := ⟨1, FAKE_CHECKPOINT_ID, 3, 7, 9, some ⟨3, 8, 11⟩⟩
    let json := s.json.toBytes
    ((boot serdeJson).exec (build 1 ⟨some (MAGIC ++ json)⟩ none [])).1 = .ok () ∧
      ((boot serdeJson).exec (build 1 ⟨some (MAGIC ++ json)⟩ none [])).2.restartOutcome =
        some .recoveredIncomplete ∧
      Refused serdeJson json
        ((boot serdeJson).exec (build 1 ⟨some json⟩ (some .coreStepError) [])).2 := by
  intro s json
  have hnone : ∀ p, (none : Option FaultPoint) = some p → p.firesAtBoot = false := by
    intro p h
    cases h
  have hstep : ∀ p, some FaultPoint.coreStepError = some p → p.firesAtBoot = false := by
    rintro p ⟨⟩
    rfl
  have hb : Bootable serdeJson (MAGIC ++ json) s :=
    bootable_toBytes (by decide +kernel) (by decide) (by decide)
  have hno : ¬∃ t, Bootable serdeJson json t := by
    rintro ⟨t, ht⟩
    obtain ⟨rest, hrest, -⟩ := ht.decoded
    have hp : MAGIC.isPrefixOf? json = some rest := List.isPrefixOf?_eq_some_iff_append_eq.2 hrest.symm
    have hnp : MAGIC.isPrefixOf? json = none := by decide +kernel
    rw [hnp] at hp
    cases hp
  have hgood := boot_fail_closed serdeJson_roundTrips 1 (MAGIC ++ json) none hnone []
  have hbad := boot_fail_closed serdeJson_roundTrips 1 json (some .coreStepError) hstep []
  exact ⟨(hgood.2.1 s hb).1, (hgood.2.1 s hb).2.outcome, (hbad.2.2 hno).2⟩

end RuntimeHarness

end Brainstem.Runtime
