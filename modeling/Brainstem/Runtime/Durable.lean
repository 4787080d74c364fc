import Brainstem.Lib.DebugText
import Brainstem.Lib.Proc
import Brainstem.Lib.Split
import Brainstem.Runtime.Types

/-!
# Durable session state

`DurableState` is what survives a restart, `DurableStore` the blob that holds it:
the magic bytes, then the JSON of the state.  The JSON library is a parameter
(`SerdeJson`); the one thing asked of it is that it reads back what it wrote
(`SerdeJson.RoundTrips`), and only for states that pass `validate`.

    persist J store s = .ok store'  →  load J store' = .ok (some s)     (load_of_persist)
-/

namespace Brainstem.Runtime

def DURABLE_SCHEMA_VERSION : UInt32 := 1

def FAKE_CHECKPOINT_ID : String := "fake-core-v1"

/-- `b"BSDK1\n"` -/
def MAGIC : List UInt8 := [66, 83, 68, 75, 49, 10]

/-- Work that was accepted but not yet published when the process died. -/
structure InflightRecord where
  sessionId : UInt64
  tickSeq : UInt64
  ingressSeq : UInt64
  deriving DecidableEq, Repr

structure DurableState where
  schemaVersion : UInt32
  checkpointId : String
  /-- Last session that passed checkpoint validation; `0` means no session. -/
  lastSessionId : UInt64
  committedTickSeq : UInt64
  committedIngressSeq : UInt64
  /-- Present iff a tick started and did not finish publishing. -/
  inflight : Option InflightRecord
  deriving DecidableEq, Repr

/-- Unicode `Cc`, as `char::is_control`. -/
def isControl (c : Char) : Bool := c.val < 0x20 || (0x7F ≤ c.val && c.val ≤ 0x9F)

namespace DurableState

def fresh : DurableState where
  schemaVersion := DURABLE_SCHEMA_VERSION
  checkpointId := FAKE_CHECKPOINT_ID
  lastSessionId := 0
  committedTickSeq := 0
  committedIngressSeq := 0
  inflight := none

def validateIdentity (s : DurableState) : Except String Unit :=
  if s.schemaVersion ≠ DURABLE_SCHEMA_VERSION then
    .error s!"unsupported durable schema {s.schemaVersion} (expected {DURABLE_SCHEMA_VERSION})"
  else if s.checkpointId.isEmpty ∨ s.checkpointId.toList.any isControl
      ∨ s.checkpointId ≠ FAKE_CHECKPOINT_ID then
    .error s!"invalid checkpoint id {DebugText.quote s.checkpointId}"
  else .ok ()

def validateSession (s : DurableState) : Except String Unit :=
  if s.lastSessionId = 0
      ∧ (s.committedTickSeq ≠ 0 ∨ s.committedIngressSeq ≠ 0 ∨ s.inflight.isSome) then
    .error "session 0 cannot hold committed or inflight work"
  else .ok ()

def validateInflight (s : DurableState) : Except String Unit :=
  match s.inflight with
  | none => .ok ()
  | some inf =>
    match s.committedTickSeq.checkedAdd 1 with
    | none => .error "committed tick sequence overflow"
    | some next =>
      if inf.tickSeq ≠ next then
        .error s!"inflight tick {inf.tickSeq} is not committed+1 ({s.committedTickSeq})"
      else if inf.sessionId ≠ s.lastSessionId then
        .error s!"inflight session {inf.sessionId} must equal last_session_id {s.lastSessionId}"
      else if inf.ingressSeq ≤ s.committedIngressSeq then
        .error s!"inflight ingress seq {inf.ingressSeq} must exceed committed ingress seq {s.committedIngressSeq}"
      else .ok ()

/-- An error if this state must not enter the live tick loop. -/
def validate (s : DurableState) : Except String Unit := do
  s.validateIdentity
  s.validateSession
  s.validateInflight

end DurableState

/-! ## The store -/

abbrev Bytes := List UInt8

/-- `serde_json` on `DurableState`: `to_vec` and `from_slice`. -/
structure SerdeJson where
  toVec : DurableState → Except String Bytes
  fromSlice : Bytes → Except String DurableState

/-- A valid state is serialized, and read back as it was. -/
def SerdeJson.RoundTrips (J : SerdeJson) : Prop :=
  ∀ s : DurableState, s.validate = .ok () → ∃ b, J.toVec s = .ok b ∧ J.fromSlice b = .ok s

structure DurableStore where
  blob : Option Bytes
  deriving DecidableEq, Repr

def encode (J : SerdeJson) (state : DurableState) : Except String Bytes :=
  match J.toVec state with
  | .ok json => .ok (MAGIC ++ json)
  | .error _ => .error "serialize durable state"

def decode (J : SerdeJson) (bytes : Bytes) : Except String DurableState :=
  match MAGIC.isPrefixOf? bytes with
  | none => .error "malformed checkpoint: missing magic"
  | some json =>
    match J.fromSlice json with
    | .error _ => .error "malformed checkpoint: json"
    | .ok state =>
      match state.validate with
      | .error e => .error e
      | .ok () => .ok state

namespace DurableStore

def empty : DurableStore := ⟨none⟩

/-- Bytes that cannot pass checkpoint validation. -/
def malformed (bytes : Bytes) : DurableStore := ⟨some bytes⟩

/-- `none` means first boot. -/
def load (J : SerdeJson) (store : DurableStore) : Except String (Option DurableState) :=
  match store.blob with
  | none => .ok none
  | some bytes => (decode J bytes).map some

/-- Replace the blob; on an error the store is left as it was. -/
def persist (J : SerdeJson) (_store : DurableStore) (state : DurableState) :
    Except String DurableStore :=
  match state.validate with
  | .error e => .error e
  | .ok () =>
    match encode J state with
    | .error e => .error e
    | .ok bytes => .ok ⟨some bytes⟩

end DurableStore

/-! ## What `validate` accepts -/

namespace DurableState

/-- The states that `validate` accepts. -/
structure Valid (s : DurableState) : Prop where
  schema : s.schemaVersion = DURABLE_SCHEMA_VERSION
  checkpoint : s.checkpointId = FAKE_CHECKPOINT_ID
  session : s.lastSessionId = 0 →
    s.committedTickSeq = 0 ∧ s.committedIngressSeq = 0 ∧ s.inflight = none
  inflight : ∀ r, s.inflight = some r → r.tickSeq.toNat = s.committedTickSeq.toNat + 1 ∧
    r.sessionId = s.lastSessionId ∧ s.committedIngressSeq < r.ingressSeq

theorem validateIdentity_eq_ok (s : DurableState) : s.validateIdentity = .ok () ↔
    s.schemaVersion = DURABLE_SCHEMA_VERSION ∧ s.checkpointId = FAKE_CHECKPOINT_ID := by
  unfold validateIdentity
  split
  · next h => simp [h]
  · next h =>
    split
    · next h2 =>
      simp only [reduceCtorEq, false_iff, not_and]
      intro _ he
      rw [he] at h2
      revert h2
      decide
    · next h2 =>
      simp only [not_or, not_not] at h h2
      simp [h, h2.2.2]

theorem validateSession_eq_ok (s : DurableState) : s.validateSession = .ok () ↔
    (s.lastSessionId = 0 →
      s.committedTickSeq = 0 ∧ s.committedIngressSeq = 0 ∧ s.inflight = none) := by
  unfold validateSession
  split
  · next h =>
    simp only [reduceCtorEq, false_iff]
    intro hs
    obtain ⟨h1, h2, h3⟩ := hs h.1
    simp [h1, h2, h3] at h
  · next h =>
    simp only [true_iff]
    intro h0
    simpa [h0, not_or] using h

theorem validateInflight_eq_ok (s : DurableState) : s.validateInflight = .ok () ↔
    ∀ r, s.inflight = some r → r.tickSeq.toNat = s.committedTickSeq.toNat + 1 ∧
      r.sessionId = s.lastSessionId ∧ s.committedIngressSeq < r.ingressSeq := by
  unfold validateInflight
  cases hi : s.inflight with
  | none => simp
  | some inf =>
    simp only [Option.some.injEq, forall_eq']
    cases hn : s.committedTickSeq.checkedAdd 1 with
    | none =>
      have h := UInt64.checkedAdd_one_eq_none.1 hn
      have hmax : s.committedTickSeq.toNat = 2 ^ 64 - 1 := by rw [h]; rfl
      have hlt := inf.tickSeq.toNat_lt
      simp only [reduceCtorEq, false_iff]
      omega
    | some next =>
      have h := UInt64.checkedAdd_one_eq_some.1 hn
      have hts : inf.tickSeq = next ↔ inf.tickSeq.toNat = s.committedTickSeq.toNat + 1 := by
        rw [← h]; exact UInt64.toNat_inj.symm
      simp only [ne_eq, ite_not]
      split
      · next h1 =>
        split
        · next h2 =>
          split
          · next h3 => simpa [h1, h2, h] using h3
          · next h3 => simpa [h1, h2, h] using h3
        · next h2 => simp [h2]
      · next h1 => simp [← hts, h1]

theorem validate_eq_ok (s : DurableState) : s.validate = .ok () ↔ s.Valid := by
  unfold validate
  rw [Except.seq_eq_ok, Except.seq_eq_ok, validateIdentity_eq_ok, validateSession_eq_ok, validateInflight_eq_ok]
  constructor
  · rintro ⟨⟨h1, h2⟩, h3, h4⟩
    exact ⟨h1, h2, h3, h4⟩
  · rintro ⟨h1, h2, h3, h4⟩
    exact ⟨⟨h1, h2⟩, h3, h4⟩

theorem fresh_valid : fresh.Valid := ⟨rfl, rfl, fun _ => ⟨rfl, rfl, rfl⟩, by rintro r ⟨⟩⟩

end DurableState

/-! ## Round trip -/

theorem load_mk_encode {J : SerdeJson} {s : DurableState} {b : Bytes} (hv : s.Valid)
    (hb : J.fromSlice b = .ok s) : DurableStore.load J ⟨some (MAGIC ++ b)⟩ = .ok (some s) := by
  simp [DurableStore.load, decode, Split.isPrefixOf?_append, hb, (DurableState.validate_eq_ok s).2 hv,
    Except.map]

/-- A valid state is persisted, and the store then holds exactly it. -/
theorem exists_persist {J : SerdeJson} (hJ : J.RoundTrips) (store : DurableStore)
    {s : DurableState} (hv : s.Valid) :
    ∃ store', store.persist J s = .ok store' ∧ store'.load J = .ok (some s) := by
  have hval := (DurableState.validate_eq_ok s).2 hv
  obtain ⟨b, hto, hfrom⟩ := hJ s hval
  refine ⟨⟨some (MAGIC ++ b)⟩, ?_, load_mk_encode hv hfrom⟩
  simp [DurableStore.persist, hval, encode, hto]

/-- Whatever `load` returns has passed `validate`. -/
theorem valid_of_load {J : SerdeJson} {store : DurableStore} {s : DurableState}
    (h : store.load J = .ok (some s)) : s.Valid := by
  unfold DurableStore.load at h
  cases hb : store.blob with
  | none => rw [hb] at h; cases h
  | some bytes =>
    rw [hb] at h
    simp only [Except.map] at h
    split at h
    · cases h
    · next s' hd =>
      cases h
      unfold decode at hd
      split at hd
      · cases hd
      · split at hd
        · cases hd
        · split at hd
          · cases hd
          · next hval => cases hd; exact (DurableState.validate_eq_ok _).1 hval

end Brainstem.Runtime
