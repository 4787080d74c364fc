import Brainstem.Backend.Zmq
import Brainstem.Lib.Proc

/-!
# Typed `corpus-ipc` ingress

What a received message becomes, `acceptIpcMessage`, with every way to be refused.  The wire
types belong to `corpus-ipc`, so the JSON decoder `decode` and the check `validate` of a batch
are parameters.

The freshness window is a 128-bit count of nanoseconds that is narrowed to 64 bits before the
comparison.  So the window that is enforced is

    max_age mod 2 ^ 64

which is `max_age` below `2 ^ 64` nanoseconds, about 584 years, and too short from there on.
-/

namespace Brainstem.Ingress

open Brainstem.Health Brainstem.Backend

def STIMULUS_SCHEMA : String := "corpus-ipc.stimulus.v1"

/-- Why a typed ingress payload was rejected. -/
inductive IngressError where
  | deserialize (msg : String)
  | unexpectedVariant (name : String)
  | width (expected got : ℕ)
  | stale (ageNs maxAgeNs : UInt64)
  | future (timestampNs nowNs : UInt64)
  | schema (msg : String)
  | stimulus (msg : String)
  deriving DecidableEq, Repr

structure StimulusBatch where
  sessionId : Option String
  batchId : UInt64
  timestamp : UInt64
  values : List F32
  validMask : Option (List Bool)
  /-- the `custom` map of the metadata, if there are any -/
  metadata : Option (List (String × String))
  deriving DecidableEq, Repr

structure NeuromodulatorSnapshot where
  dopamine : F32
  cortisol : F32
  acetylcholine : F32
  tempo : F32
  deriving DecidableEq, Repr

/-- Payloads that are not looked at are left out. -/
inductive IpcMessage where
  | stimuli (batch : StimulusBatch)
  | neuromodulators (snapshot : NeuromodulatorSnapshot)
  | spikes
  | embeddings
  | loss
  | configUpdate
  | gradientUpdate
  | eligibilityTraces
  | trainingComplete
  | shutdown
  | ping
  deriving DecidableEq, Repr

def requireStimulusSchema (batch : StimulusBatch) : Except IngressError Unit :=
  match batch.metadata with
  | some custom =>
    match custom.lookup "schema" with
    | some schema =>
      if schema = STIMULUS_SCHEMA then .ok ()
      else .error (.schema s!"unsupported schema '{schema}', expected {STIMULUS_SCHEMA}")
    | none => .error (.schema "missing metadata.custom.schema")
  | none => .error (.schema "missing batch metadata")

def rejectStaleOrFuture (timestamp nowNs : UInt64) (maxAge : Option Duration) :
    Except IngressError Unit :=
  match maxAge with
  | none => .ok ()
  | some maxAge =>
    if nowNs < timestamp then .error (.future timestamp nowNs)
    else
      let maxAgeNs := UInt64.ofNat maxAge
      let ageNs := nowNs - timestamp
      if maxAgeNs < ageNs then .error (.stale ageNs maxAgeNs) else .ok ()

variable {Bytes : Type} (decode : Bytes → Except String IpcMessage)
  (validate : StimulusBatch → Except String Unit)

def acceptStimulusBatch (batch : StimulusBatch) (policy : IngressPolicy) (nowNs : UInt64) :
    Except IngressError IngressPacket := do
  (validate batch).mapError .stimulus
  requireStimulusSchema batch
  if policy.expectedChannels ≠ 0 ∧ batch.values.length ≠ policy.expectedChannels then
    .error (.width policy.expectedChannels batch.values.length)
  rejectStaleOrFuture batch.timestamp nowNs policy.maxAge
  .ok
    { stimuli := batch.values
      modulators := none
      validMask := batch.validMask
      batchId := some batch.batchId.toNat
      timestampNs := some batch.timestamp.toNat
      sessionId := batch.sessionId
      rejected := false }

def acceptIpcMessage (message : IpcMessage) (policy : IngressPolicy) (nowNs : UInt64) :
    Except IngressError IngressPacket :=
  match message with
  | .stimuli batch => acceptStimulusBatch validate batch policy nowNs
  | .neuromodulators snapshot =>
    .ok { IngressPacket.default with
      modulators := some
        [snapshot.dopamine, snapshot.cortisol, snapshot.acetylcholine, snapshot.tempo] }
  | .spikes => .error (.unexpectedVariant "Spikes")
  | .embeddings => .error (.unexpectedVariant "Embeddings")
  | .loss => .error (.unexpectedVariant "Loss")
  | .configUpdate => .error (.unexpectedVariant "ConfigUpdate")
  | .gradientUpdate => .error (.unexpectedVariant "GradientUpdate")
  | .eligibilityTraces => .error (.unexpectedVariant "EligibilityTraces")
  | .trainingComplete => .error (.unexpectedVariant "TrainingComplete")
  | .shutdown => .error (.unexpectedVariant "Shutdown")
  | .ping => .error (.unexpectedVariant "Ping")

def acceptIpcJson (bytes : Bytes) (policy : IngressPolicy) (nowNs : UInt64) :
    Except IngressError IngressPacket := do
  let message ← (decode bytes).mapError .deserialize
  acceptIpcMessage validate message policy nowNs

/-! ## The freshness window -/

variable (timestamp nowNs : UInt64) (maxAge : Option Duration)

/-- Not newer than now, and not older than the window. -/
def WithinWindow : Prop :=
  ∀ window ∈ maxAge, timestamp.toNat ≤ nowNs.toNat ∧ nowNs.toNat - timestamp.toNat ≤ window

/-- The window is that of `maxAge`, and what is refused is refused for the right reason. -/
structure ExactFreshness : Prop where
  accepts : rejectStaleOrFuture timestamp nowNs maxAge = .ok () ↔ WithinWindow timestamp nowNs maxAge
  future : (∃ t n, rejectStaleOrFuture timestamp nowNs maxAge = .error (.future t n)) ↔
    maxAge.isSome = true ∧ nowNs.toNat < timestamp.toNat
  otherwise : ∀ e, rejectStaleOrFuture timestamp nowNs maxAge = .error e →
    (∃ t n, e = .future t n) ∨ ∃ age window, e = .stale age window ∧
      age.toNat + timestamp.toNat = nowNs.toNat
  /-- what some shorter window accepts is accepted -/
  monotone : ∀ shorter, (∀ window ∈ maxAge, shorter ≤ window) →
    rejectStaleOrFuture timestamp nowNs (some shorter) = .ok () →
      rejectStaleOrFuture timestamp nowNs maxAge = .ok ()

/-- The ways in which the narrowing of the window does no harm: there is no window, the batch is
from the future, the window fits in 64 bits, or what is left of it still covers the age. -/
def NarrowingHarmless : Prop :=
  maxAge = none ∨ nowNs.toNat < timestamp.toNat ∨
    (∃ window, maxAge = some window ∧ window < 2 ^ 64) ∨
    ∃ window, maxAge = some window ∧ nowNs.toNat - timestamp.toNat ≤ window % 2 ^ 64

variable {timestamp nowNs maxAge}

theorem toNat_age (h : ¬nowNs < timestamp) :
    (nowNs - timestamp).toNat = nowNs.toNat - timestamp.toNat :=
  UInt64.toNat_sub_of_le _ _ (UInt64.not_lt.1 h)

theorem reject_future (window : Duration) (h : nowNs < timestamp) :
    rejectStaleOrFuture timestamp nowNs (some window) = .error (.future timestamp nowNs) :=
  if_pos h

/-- The window that is enforced. -/
theorem reject_past (window : Duration) (h : ¬nowNs < timestamp) :
    rejectStaleOrFuture timestamp nowNs (some window) =
      if nowNs.toNat - timestamp.toNat ≤ window % 2 ^ 64 then .ok ()
      else .error (.stale (nowNs - timestamp) (UInt64.ofNat window)) := by
  have hlt : UInt64.ofNat window < nowNs - timestamp ↔
      ¬nowNs.toNat - timestamp.toNat ≤ window % 2 ^ 64 := by
    rw [UInt64.lt_iff_toNat_lt, toNat_age h, UInt64.toNat_ofNat', Nat.not_le]
  unfold rejectStaleOrFuture
  dsimp only
  rw [if_neg h]
  by_cases hfits : nowNs.toNat - timestamp.toNat ≤ window % 2 ^ 64
  · rw [if_pos hfits, if_neg fun hl => hlt.1 hl hfits]
  · rw [if_neg hfits, if_pos (hlt.2 hfits)]

theorem reject_past_eq_ok (window : Duration) (h : ¬nowNs < timestamp) :
    rejectStaleOrFuture timestamp nowNs (some window) = .ok () ↔
      nowNs.toNat - timestamp.toNat ≤ window % 2 ^ 64 := by
  rw [reject_past window h]
  split
  · next hfits => exact ⟨fun _ => hfits, fun _ => rfl⟩
  · next hfits => exact ⟨nofun, fun hl => absurd hl hfits⟩

theorem exactFreshness_none : ExactFreshness timestamp nowNs none where
  accepts := ⟨fun _ => nofun, fun _ => rfl⟩
  future := ⟨fun ⟨_, _, h⟩ => (nomatch h), fun ⟨h, _⟩ => (nomatch h)⟩
  otherwise := fun _ h => nomatch h
  monotone := fun _ _ _ => rfl

theorem exactFreshness_future (window : Duration) (h : nowNs < timestamp) :
    ExactFreshness timestamp nowNs (some window) where
  accepts := by
    rw [reject_future window h]
    refine ⟨nofun, fun hw => ?_⟩
    have hle := (hw window rfl).1
    have hlt := UInt64.lt_iff_toNat_lt.1 h
    omega
  future := by
    rw [reject_future window h]
    exact ⟨fun _ => ⟨rfl, UInt64.lt_iff_toNat_lt.1 h⟩, fun _ => ⟨_, _, rfl⟩⟩
  otherwise := by
    intro e he
    rw [reject_future window h] at he
    cases he
    exact .inl ⟨_, _, rfl⟩
  monotone := by
    intro shorter _ hok
    rw [reject_future shorter h] at hok
    cases hok

/-- In the past the window is exact as far as its 64 bits tell. -/
theorem exactFreshness_past (window : Duration) (h : ¬nowNs < timestamp) :
    ExactFreshness timestamp nowNs (some window) ↔
      (nowNs.toNat - timestamp.toNat ≤ window → nowNs.toNat - timestamp.toNat ≤ window % 2 ^ 64) := by
  have hle : timestamp.toNat ≤ nowNs.toNat := UInt64.le_iff_toNat_le.1 (UInt64.not_lt.1 h)
  have hmod : window % 2 ^ 64 ≤ window := Nat.mod_le _ _
  constructor
  · intro hexact hage
    rw [← reject_past_eq_ok window h]
    refine hexact.accepts.2 fun w hw => ?_
    cases hw
    exact ⟨hle, hage⟩
  · intro hcover
    refine ⟨?_, ?_, ?_, ?_⟩
    · rw [reject_past_eq_ok window h]
      constructor
      · intro hfits w hw
        cases hw
        exact ⟨hle, hfits.trans hmod⟩
      · intro hw
        exact hcover (hw window rfl).2
    · constructor
      · rintro ⟨t, n, he⟩
        rw [reject_past window h] at he
        split at he <;> cases he
      · rintro ⟨-, hlt⟩
        omega
    · intro e he
      rw [reject_past window h] at he
      split at he
      · cases he
      · cases he
        refine .inr ⟨_, _, rfl, ?_⟩
        rw [toNat_age h]
        omega
    · intro shorter hshorter hok
      rw [reject_past_eq_ok shorter h] at hok
      rw [reject_past_eq_ok window h]
      have hs : shorter ≤ window := hshorter window rfl
      have hsmod : shorter % 2 ^ 64 ≤ shorter := Nat.mod_le _ _
      exact hcover (hok.trans (hsmod.trans hs))

/-- The age of a batch fits in 64 bits, so a window that does not covers every age. -/
theorem narrowingHarmless_past (window : ℕ) (h : ¬nowNs < timestamp) :
    NarrowingHarmless timestamp nowNs (some window) ↔
      (nowNs.toNat - timestamp.toNat ≤ window → nowNs.toNat - timestamp.toNat ≤ window % 2 ^ 64) := by
  have hle : timestamp.toNat ≤ nowNs.toNat := UInt64.le_iff_toNat_le.1 (UInt64.not_lt.1 h)
  have hnow := nowNs.toNat_lt
  constructor
  · rintro (hn | hlt | ⟨w, hw, hsmall⟩ | ⟨w, hw, hcover⟩) hage
    · cases hn
    · omega
    · cases hw
      rwa [Nat.mod_eq_of_lt hsmall]
    · cases hw
      exact hcover
  · intro hcover
    by_cases hsmall : window < 2 ^ 64
    · exact .inr (.inr (.inl ⟨window, rfl, hsmall⟩))
    · refine .inr (.inr (.inr ⟨window, rfl, hcover (by omega)⟩))

/-- **The freshness window is exact if and only if the narrowing does no harm.** -/
theorem freshness_exact_iff (timestamp nowNs : UInt64) (maxAge : Option Duration) :
    ExactFreshness timestamp nowNs maxAge ↔ NarrowingHarmless timestamp nowNs maxAge := by
  rcases maxAge with _ | window
  · exact ⟨fun _ => .inl rfl, fun _ => exactFreshness_none⟩
  · by_cases h : nowNs < timestamp
    · have hlt := UInt64.lt_iff_toNat_lt.1 h
      exact ⟨fun _ => .inr (.inl hlt), fun _ => exactFreshness_future window h⟩
    · rw [exactFreshness_past window h, narrowingHarmless_past window h]

/-- A window of `2 ^ 64` nanoseconds refuses a batch that is one nanosecond old, which a window
of one second accepts. -/
theorem wide_window_refuses :
    rejectStaleOrFuture 0 1 (some 1000000000) = .ok () ∧
      rejectStaleOrFuture 0 1 (some (2 ^ 64)) = .error (.stale 1 0) ∧
      WithinWindow 0 1 (some (2 ^ 64)) ∧ ¬ExactFreshness 0 1 (some (2 ^ 64)) := by
  have hwithin : WithinWindow 0 1 (some (2 ^ 64)) := by
    intro window hw
    cases hw
    decide
  have hrefused : rejectStaleOrFuture 0 1 (some (2 ^ 64)) = .error (.stale 1 0) := by decide
  refine ⟨by decide, hrefused, hwithin, fun hexact => ?_⟩
  rw [hexact.accepts.2 hwithin] at hrefused
  cases hrefused

/-! ## What is accepted -/

theorem acceptStimulusBatch_ok {batch : StimulusBatch} {policy : IngressPolicy}
    {packet : IngressPacket} (h : acceptStimulusBatch validate batch policy nowNs = .ok packet) :
    packet.rejected = false ∧ packet.modulators = none ∧ packet.stimuli = batch.values ∧
      (policy.expectedChannels ≠ 0 → packet.stimuli.length = policy.expectedChannels) ∧
      rejectStaleOrFuture batch.timestamp nowNs policy.maxAge = .ok () := by
  unfold acceptStimulusBatch at h
  obtain ⟨-, h⟩ := Except.seq_eq_ok.1 h
  obtain ⟨-, h⟩ := Except.seq_eq_ok.1 h
  split at h
  · cases h
  · next hwidth =>
    obtain ⟨hfresh, h⟩ := Except.seq_eq_ok.1 h
    cases h
    exact ⟨rfl, rfl, rfl, fun hc => by_contra fun hl => hwidth ⟨hc, hl⟩, hfresh⟩

/-- A packet carries the modulators of a snapshot, or the stimuli of a batch in the window. -/
theorem acceptIpcJson_ok {bytes : Bytes} {policy : IngressPolicy} {packet : IngressPacket}
    (h : acceptIpcJson decode validate bytes policy nowNs = .ok packet) :
    packet.rejected = false ∧
      ((packet.stimuli = [] ∧ ∃ mods, packet.modulators = some mods ∧ mods.length = 4) ∨
        packet.modulators = none ∧ ∃ batch, decode bytes = .ok (.stimuli batch) ∧
          packet.stimuli = batch.values ∧
          (policy.expectedChannels ≠ 0 → packet.stimuli.length = policy.expectedChannels) ∧
          rejectStaleOrFuture batch.timestamp nowNs policy.maxAge = .ok ()) := by
  unfold acceptIpcJson at h
  obtain ⟨message, hmessage, h⟩ := Except.bind_eq_ok.1 h
  have hdecode : decode bytes = .ok message := by
    cases hd : decode bytes with
    | error msg =>
      rw [hd] at hmessage
      cases hmessage
    | ok m =>
      rw [hd] at hmessage
      cases hmessage
      rfl
  unfold acceptIpcMessage at h
  split at h
  · next batch =>
    obtain ⟨hrejected, hmods, hstimuli, hwidth, hfresh⟩ := acceptStimulusBatch_ok validate h
    exact ⟨hrejected, .inr ⟨hmods, batch, hdecode, hstimuli, hwidth, hfresh⟩⟩
  · cases h
    exact ⟨rfl, .inl ⟨rfl, _, rfl, rfl⟩⟩
  all_goals cases h

end Brainstem.Ingress
