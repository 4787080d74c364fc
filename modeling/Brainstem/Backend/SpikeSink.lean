import Brainstem.Daemon.Accounting

/-!
# The ZMQ spike sink

`emit` turns the spikes of a step into one batch and hands its bytes to the PUB socket, and
counts what it did.  What a batch is as bytes, `toVec`, is left to the encoder; what the socket
does is given.

    e.handed = due.bind (frameOf toVec socket)                           (ZmqSpikeSink.emit_handed)

An empty batch may be withheld.  A batch that could not be encoded, or whose socket is behind a
poisoned lock, is handed to nobody and counted nowhere.
-/

namespace Brainstem.Backend

open Brainstem.Health Brainstem.Daemon

/-- The wire batch; `session_id` and `metadata` stay empty. -/
structure SpikeBatch where
  batchId : ℕ
  timestamp : ℕ
  spikes : List SpikeEvent
  deriving DecidableEq, Repr

/-- Counters of what the publisher can see, `u64`s. -/
structure SinkSendStats where
  attempted : ℕ
  suppressed : ℕ
  failed : ℕ
  deriving DecidableEq, Repr

def SinkSendStats.default : SinkSendStats := ⟨0, 0, 0⟩

structure ZmqSpikeSink where
  /-- reused, and empty between two calls -/
  corpusBuf : List SpikeEvent
  sendEmptyBatches : Bool
  stats : SinkSendStats
  deriving DecidableEq, Repr

/-- What the socket answers, if it is reached. -/
inductive SocketAnswer where
  | sent
  | failed (e : String)
  | poisoned
  deriving DecidableEq, Repr

/-- A call of `emit`: its result, and the bytes that `send` was called with. -/
structure Emit (Frame : Type) where
  result : Except String Unit
  handed : Option Frame
  sink : ZmqSpikeSink

namespace ZmqSpikeSink

variable {Frame : Type} (toVec : SpikeBatch → Except String Frame)

def withPolicy (sendEmptyBatches : Bool) : ZmqSpikeSink := ⟨[], sendEmptyBatches, .default⟩

def emit (s : ZmqSpikeSink) (spikes : List SpikeEvent) (batchTime : Duration)
    (socket : SocketAnswer) : Emit Frame :=
  if spikes.isEmpty && !s.sendEmptyBatches then
    ⟨.ok (), none, { s with
      stats := { s.stats with suppressed := wrappingAdd s.stats.suppressed 1 } }⟩
  else
    let batchId := batchTime / 1000000 % 2 ^ 64
    let timestamp := batchTime % 2 ^ 64
    let corpusSpikes := [] ++ spikes.map fun e => ⟨e.channel, e.time, e.strength⟩
    let s := { s with corpusBuf := [] }
    match toVec ⟨batchId, timestamp, corpusSpikes⟩ with
    | .error e => ⟨.error e, none, s⟩
    | .ok payload =>
      let attempted := { s.stats with attempted := wrappingAdd s.stats.attempted 1 }
      match socket with
      | .poisoned => ⟨.error "ZMQ socket mutex poisoned", none, s⟩
      | .failed e =>
        ⟨.error s!"ZMQ PUB send failed: {e}", some payload,
          { s with stats := { attempted with failed := wrappingAdd attempted.failed 1 } }⟩
      | .sent => ⟨.ok (), some payload, { s with stats := attempted }⟩

end ZmqSpikeSink

/-! ## What a call did -/

namespace Emit

variable {Frame : Type} (e : Emit Frame)

/-- `send` was called. -/
def sent : Bool := e.handed.isSome

def errored : Bool :=
  match e.result with
  | .error _ => true
  | .ok _ => false

/-- An empty batch was withheld. -/
def suppressed : Bool := !e.sent && !e.errored

/-- `send` returned an error. -/
def failed : Bool := e.sent && e.errored

/-- The batch did not get as far as `send`. -/
def unsent : Bool := !e.sent && e.errored

/-- Nothing else can become of a batch. -/
theorem total : e.sent.toNat + e.suppressed.toNat + e.unsent.toNat = 1 := by
  unfold suppressed unsent
  cases e.sent <;> cases e.errored <;> rfl

theorem errors : e.failed.toNat + e.unsent.toNat = e.errored.toNat := by
  unfold failed unsent
  cases e.sent <;> cases e.errored <;> rfl

theorem failed_le : e.failed.toNat ≤ e.sent.toNat := by
  unfold failed
  cases e.sent <;> cases e.errored <;> decide

end Emit

namespace ZmqSpikeSink

variable {Frame : Type} {toVec : SpikeBatch → Except String Frame}

/-- The bytes that reach the socket. -/
def frameOf (toVec : SpikeBatch → Except String Frame) (socket : SocketAnswer) (b : SpikeBatch) :
    Option Frame :=
  if socket = .poisoned then none
  else
    match toVec b with
    | .ok payload => some payload
    | .error _ => none

/-- The batch that a call owes the wire. -/
def owed (sendEmptyBatches : Bool) (spikes : List SpikeEvent) (batchTime : Duration) :
    Option SpikeBatch :=
  if spikes = [] ∧ sendEmptyBatches = false then none
  else some ⟨batchTime / 1000000 % 2 ^ 64, batchTime % 2 ^ 64, spikes⟩

variable (s : ZmqSpikeSink) (spikes : List SpikeEvent) (batchTime : Duration)
  (socket : SocketAnswer)

theorem emit_handed : (s.emit toVec spikes batchTime socket).handed =
    (owed s.sendEmptyBatches spikes batchTime).bind (frameOf toVec socket) := by
  unfold emit owed
  by_cases hempty : spikes = [] ∧ s.sendEmptyBatches = false
  · rw [if_pos hempty, if_pos (by simp [hempty])]
    rfl
  · rw [if_neg hempty, if_neg (by simpa using hempty), Option.bind_some]
    have hcopy : ([] : List SpikeEvent) ++ spikes.map (fun e => ⟨e.channel, e.time, e.strength⟩) =
        spikes := List.map_id spikes
    dsimp only
    rw [hcopy]
    unfold frameOf
    cases toVec ⟨batchTime / 1000000 % 2 ^ 64, batchTime % 2 ^ 64, spikes⟩ with
    | error e => cases socket <;> rfl
    | ok payload => cases socket <;> rfl

/-- The counters follow what the call did, and the policy stays. -/
structure Follows (s : ZmqSpikeSink) (e : Emit Frame) : Prop where
  policy : e.sink.sendEmptyBatches = s.sendEmptyBatches
  attempted : Grows s.stats.attempted e.sent.toNat e.sink.stats.attempted
  suppressed : Grows s.stats.suppressed e.suppressed.toNat e.sink.stats.suppressed
  failed : Grows s.stats.failed e.failed.toNat e.sink.stats.failed

variable (toVec) in
theorem emit_follows : s.Follows (s.emit toVec spikes batchTime socket) := by
  unfold emit
  split
  · exact ⟨rfl, .refl _, grows_wrappingAdd _ 1, .refl _⟩
  · dsimp only
    split
    · exact ⟨rfl, .refl _, .refl _, .refl _⟩
    · split
      · exact ⟨rfl, .refl _, .refl _, .refl _⟩
      · exact ⟨rfl, grows_wrappingAdd _ 1, .refl _, grows_wrappingAdd _ 1⟩
      · exact ⟨rfl, grows_wrappingAdd _ 1, .refl _, .refl _⟩

end ZmqSpikeSink

end Brainstem.Backend
