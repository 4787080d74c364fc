import Brainstem.Lib.Proc

/-!
# Ingress configuration

Four message classes, each with its own capacity and overflow policy.
`IngressConfig.validate` is the only way into a running ingress.
-/

namespace Brainstem.Ingress

/-- Hard cap on a class capacity. -/
def MAX_QUEUE_CAPACITY : ℕ := 16384

def MAX_BLOCK_TIMEOUT_MS : ℕ := 86400000

/-- Hard cap on the admitted payload length. -/
def MAX_PAYLOAD_LEN : ℕ := 1048576

inductive MessageClass where
  | sensory
  | reward
  | control
  | telemetry
  deriving DecidableEq, Repr

namespace MessageClass

/-- All classes in drain-priority order: control before bulk. -/
def ALL : List MessageClass := [.control, .reward, .sensory, .telemetry]

def asStr : MessageClass → String
  | .sensory => "sensory"
  | .reward => "reward"
  | .control => "control"
  | .telemetry => "telemetry"

def index : MessageClass → ℕ
  | .sensory => 0
  | .reward => 1
  | .control => 2
  | .telemetry => 3

/-- The classes in the order of their queues. -/
def byIndex : List MessageClass := [.sensory, .reward, .control, .telemetry]

theorem byIndex_index (cls : MessageClass) : byIndex[cls.index]? = some cls := by
  cases cls <;> rfl

end MessageClass

/-- What happens when a class queue is at capacity. -/
inductive OverflowPolicy where
  | blockTimeout
  | reject
  | dropOldest
  | coalesce
  deriving DecidableEq, Repr

/-- Result surfaced to the producer; `rejected` and `shutdown` mean not queued. -/
inductive EnqueueOutcome where
  | accepted (depth : ℕ)
  | droppedOldest (depth : ℕ)
  | coalesced (depth : ℕ)
  | rejected
  | shutdown
  deriving DecidableEq, Repr

/-- The caller's event is in the queue. -/
def EnqueueOutcome.isAccepted : EnqueueOutcome → Bool
  | .accepted _ | .droppedOldest _ | .coalesced _ => true
  | .rejected | .shutdown => false

structure IngressConfig where
  sensoryCapacity : ℕ
  sensoryPolicy : OverflowPolicy
  rewardCapacity : ℕ
  rewardPolicy : OverflowPolicy
  controlCapacity : ℕ
  controlPolicy : OverflowPolicy
  telemetryCapacity : ℕ
  telemetryPolicy : OverflowPolicy
  blockTimeoutMs : ℕ
  maxPayloadLen : ℕ
  deriving DecidableEq, Repr

namespace IngressConfig

def default : IngressConfig where
  sensoryCapacity := 64
  sensoryPolicy := .dropOldest
  rewardCapacity := 8
  rewardPolicy := .coalesce
  controlCapacity := 16
  controlPolicy := .blockTimeout
  telemetryCapacity := 128
  telemetryPolicy := .dropOldest
  blockTimeoutMs := 5
  maxPayloadLen := 4096

/-- Tiny capacities for overload. -/
def tinyFixture : IngressConfig where
  sensoryCapacity := 2
  sensoryPolicy := .dropOldest
  rewardCapacity := 1
  rewardPolicy := .coalesce
  controlCapacity := 4
  controlPolicy := .reject
  telemetryCapacity := 2
  telemetryPolicy := .dropOldest
  blockTimeoutMs := 0
  maxPayloadLen := 4096

def capacity (self : IngressConfig) : MessageClass → ℕ
  | .sensory => self.sensoryCapacity
  | .reward => self.rewardCapacity
  | .control => self.controlCapacity
  | .telemetry => self.telemetryCapacity

def policy (self : IngressConfig) : MessageClass → OverflowPolicy
  | .sensory => self.sensoryPolicy
  | .reward => self.rewardPolicy
  | .control => self.controlPolicy
  | .telemetry => self.telemetryPolicy

/-- Nanoseconds. -/
def blockTimeout (self : IngressConfig) : ℕ := self.blockTimeoutMs * 1000000

def validateClass (self : IngressConfig) (cls : MessageClass) : Except String Unit :=
  let cap := self.capacity cls
  if cap = 0 then .error s!"ingress {cls.asStr} capacity must be >= 1"
  else if MAX_QUEUE_CAPACITY < cap then
    .error s!"ingress {cls.asStr} capacity {cap} exceeds MAX_QUEUE_CAPACITY ({MAX_QUEUE_CAPACITY})"
  else .ok ()

def validate (self : IngressConfig) : Except String Unit :=
  if self.maxPayloadLen = 0 then .error "ingress max_payload_len must be >= 1"
  else if MAX_PAYLOAD_LEN < self.maxPayloadLen then
    .error
      s!"ingress max_payload_len {self.maxPayloadLen} exceeds MAX_PAYLOAD_LEN ({MAX_PAYLOAD_LEN})"
  else if MAX_BLOCK_TIMEOUT_MS < self.blockTimeoutMs then
    .error
      s!"ingress block_timeout_ms {self.blockTimeoutMs} exceeds MAX_BLOCK_TIMEOUT_MS ({MAX_BLOCK_TIMEOUT_MS})"
  else do
    self.validateClass .sensory
    self.validateClass .reward
    self.validateClass .control
    self.validateClass .telemetry

theorem validate_default : default.validate = .ok () := by decide

theorem validate_tinyFixture : tinyFixture.validate = .ok () := by decide

/-- Whatever the policy says, a class never holds more than this. -/
def effectiveCapacity (self : IngressConfig) (cls : MessageClass) : ℕ :=
  match self.policy cls with
  | .coalesce => 1
  | _ => self.capacity cls

theorem validateClass_eq_ok (self : IngressConfig) (cls : MessageClass) :
    self.validateClass cls = .ok () ↔ 1 ≤ self.capacity cls ∧ self.capacity cls ≤ MAX_QUEUE_CAPACITY := by
  unfold validateClass
  simp only
  split
  · next h => simp [h]
  · next h =>
    split
    · next h2 => simp; omega
    · next h2 => simp; omega

theorem validate_eq_ok (self : IngressConfig) : self.validate = .ok () ↔
    (1 ≤ self.maxPayloadLen ∧ self.maxPayloadLen ≤ MAX_PAYLOAD_LEN) ∧
      self.blockTimeoutMs ≤ MAX_BLOCK_TIMEOUT_MS ∧
      ∀ cls, 1 ≤ self.capacity cls ∧ self.capacity cls ≤ MAX_QUEUE_CAPACITY := by
  have hclasses : (∀ cls, self.validateClass cls = .ok ()) ↔
      self.validateClass .sensory = .ok () ∧ self.validateClass .reward = .ok () ∧
        self.validateClass .control = .ok () ∧ self.validateClass .telemetry = .ok () := by
    constructor
    · intro h
      exact ⟨h _, h _, h _, h _⟩
    · rintro ⟨h1, h2, h3, h4⟩ cls
      cases cls <;> assumption
  unfold validate
  split
  · next h => simp [h]
  · next h1 =>
    split
    · next h2 => simp; omega
    · next h2 =>
      split
      · next h3 => simp; omega
      · next h3 =>
        rw [Except.seq_eq_ok, Except.seq_eq_ok, Except.seq_eq_ok, ← hclasses]
        simp only [validateClass_eq_ok]
        exact ⟨fun h => ⟨⟨by omega, by omega⟩, by omega, h⟩, fun h => h.2.2⟩

theorem effectiveCapacity_pos (self : IngressConfig) (h : self.validate = .ok ()) (cls : MessageClass) :
    1 ≤ self.effectiveCapacity cls := by
  have hcap := ((validate_eq_ok self).1 h).2.2 cls
  unfold effectiveCapacity
  split <;> omega

end IngressConfig

end Brainstem.Ingress
