import Brainstem.Health.Snapshot
import Brainstem.Ingress.Packet

/-!
# The ZMQ stimulus source

`nextIngress` receives until a frame gives an answer, the socket has nothing, or the limit of
a tick is reached, and holds the last modulators it saw for the answers that carry none.
`recv i` is what the socket answers to the `i`-th receive of the call; what a frame decodes to
is `accept`.
-/

namespace Brainstem.Backend

open Brainstem.Health
open Brainstem.Ingress

/-- Frames received in one tick, at most. -/
def MAX_DRAIN_PER_TICK : ℕ := 32

structure IngressPolicy where
  /-- zero: the width is not checked -/
  expectedChannels : ℕ
  maxAge : Option Duration
  deriving DecidableEq, Repr

/-- What `recv_bytes` answers; a frame comes with the wall clock it is checked against. -/
inductive Recv (Frame : Type) where
  | frame (buf : Frame) (nowNs : ℕ)
  /-- `EAGAIN` -/
  | again
  | error (e : String)

structure ZmqStimulusSource where
  /-- whether there is a socket -/
  connected : Bool
  channels : ℕ
  lastModulators : Option (List F32)
  maxAge : Duration
  deriving DecidableEq, Repr

/-- How one call of `nextIngress` ended. -/
structure Poll where
  answer : Except String (Option IngressPacket)
  source : ZmqStimulusSource
  /-- received in this call -/
  frames : ℕ

namespace ZmqStimulusSource

variable {Frame ε : Type} (accept : Frame → IngressPolicy → ℕ → Except ε IngressPacket)

def withChannels (ch : ℕ) : ZmqStimulusSource := ⟨false, ch, none, 1000000000⟩

/-- Refuses a vector with a value that is not finite. -/
def holdModulators (s : ZmqStimulusSource) (mods : List F32) : Bool × ZmqStimulusSource :=
  if mods.any fun v => !v.isFinite then (false, s)
  else (true, { s with lastModulators := some mods })

def skipIngress (s : ZmqStimulusSource) (rejected : Bool) : Option IngressPacket :=
  if !rejected && s.lastModulators.isNone then none
  else some { IngressPacket.default with rejected := rejected, modulators := s.lastModulators }

def attachHeldModulators (s : ZmqStimulusSource) (packet : IngressPacket) : IngressPacket :=
  if packet.modulators.isNone then { packet with modulators := s.lastModulators } else packet

/-- The answer to give at once if the modulators are refused. -/
def holdOrReject (s : ZmqStimulusSource) (mods : List F32) :
    Option (Option IngressPacket) × ZmqStimulusSource :=
  let (held, s) := s.holdModulators mods
  if held then (none, s) else (some (s.skipIngress true), s)

/-- What becomes of a received frame: an answer, or none to go on receiving. -/
def takeFrame (s : ZmqStimulusSource) (verdict : Except ε IngressPacket) :
    Option (Option IngressPacket) × ZmqStimulusSource :=
  match verdict with
  | .ok packet =>
    match packet.stimuli, packet.modulators with
    -- only modulators: stimuli that wait behind them belong to this tick
    | [], some mods => s.holdOrReject mods
    | _, some mods =>
      match s.holdOrReject mods with
      | (some skip, s) => (some skip, s)
      | (none, s) => (some (some packet), s)
    | _, none => (some (some (s.attachHeldModulators packet)), s)
  | .error _ => (some (s.skipIngress true), s)

/-- The receive loop, with `n` rounds left after `frames` frames. -/
def drain (policy : IngressPolicy) (recv : ℕ → Recv Frame) :
    ℕ → ℕ → ZmqStimulusSource → Poll
  | 0, frames, s => ⟨.ok (s.skipIngress false), s, frames⟩
  | n + 1, frames, s =>
    if s.connected then
      match recv frames with
      | .frame buf nowNs =>
        match s.takeFrame (accept buf policy nowNs) with
        | (some answer, s) => ⟨.ok answer, s, frames + 1⟩
        | (none, s) => drain policy recv n (frames + 1) s
      | .again => ⟨.ok (s.skipIngress false), s, frames⟩
      | .error e => ⟨.error s!"ZMQ recv failed: {e}", s, frames⟩
    else ⟨.error "ZMQ stimulus source not initialized", s, frames⟩

def nextIngress (s : ZmqStimulusSource) (recv : ℕ → Recv Frame) : Poll :=
  drain accept ⟨s.channels, some s.maxAge⟩ recv MAX_DRAIN_PER_TICK 0 s

/-! ## What is held is finite -/

/-- Every value of the held modulators is finite. -/
def HeldFinite (s : ZmqStimulusSource) : Prop :=
  ∀ mods ∈ s.lastModulators, ∀ v ∈ mods, v.isFinite = true

theorem HeldFinite.holdOrReject {s : ZmqStimulusSource} (h : s.HeldFinite) (mods : List F32) :
    (s.holdOrReject mods).2.HeldFinite := by
  unfold ZmqStimulusSource.holdOrReject holdModulators
  by_cases hbad : mods.any (fun v => !v.isFinite) = true
  · simp only [hbad, if_true]
    exact h
  · simp only [hbad]
    intro held hheld v hv
    cases hheld
    simp only [List.any_eq_true, not_exists, not_and, Bool.not_eq_true', Bool.not_eq_false] at hbad
    exact hbad v hv

theorem HeldFinite.takeFrame {s : ZmqStimulusSource} (h : s.HeldFinite)
    (verdict : Except ε IngressPacket) : (s.takeFrame verdict).2.HeldFinite := by
  unfold ZmqStimulusSource.takeFrame
  split
  · split
    · exact h.holdOrReject _
    · next packet _ _ mods hmods _ =>
      have hheld := h.holdOrReject mods
      split
      · next heq => rwa [heq] at hheld
      · next heq => rwa [heq] at hheld
    · exact h
  · exact h

theorem HeldFinite.drain {s : ZmqStimulusSource} (h : s.HeldFinite) (policy : IngressPolicy)
    (recv : ℕ → Recv Frame) (n frames : ℕ) :
    (drain accept policy recv n frames s).source.HeldFinite := by
  induction n generalizing frames s with
  | zero => exact h
  | succ n ih =>
    unfold ZmqStimulusSource.drain
    split
    · split
      · next buf nowNs _ =>
        have htake := h.takeFrame (accept buf policy nowNs)
        split
        · next heq => rwa [heq] at htake
        · next heq =>
          rw [heq] at htake
          exact ih htake _
      · exact h
      · exact h
    · exact h

theorem HeldFinite.nextIngress {s : ZmqStimulusSource} (h : s.HeldFinite) (recv : ℕ → Recv Frame) :
    (s.nextIngress accept recv).source.HeldFinite := h.drain accept _ recv _ 0

/-! ## A call that receives a frame, and one that does not -/

theorem le_drain_frames (policy : IngressPolicy) (recv : ℕ → Recv Frame) (n frames : ℕ)
    (s : ZmqStimulusSource) : frames ≤ (drain accept policy recv n frames s).frames := by
  induction n generalizing frames s with
  | zero => exact Nat.le_refl _
  | succ n ih =>
    unfold drain
    split
    · split
      · split
        · exact Nat.le_succ _
        · next s' _ =>
          have hrest := ih (frames + 1) s'
          omega
      · exact Nat.le_refl _
      · exact Nat.le_refl _
    · exact Nat.le_refl _

/-- The ways a call can go, by what there is to receive first. -/
inductive Polls (s : ZmqStimulusSource) (recv : ℕ → Recv Frame) (p : Poll) : Prop where
  | received (buf : Frame) (nowNs : ℕ) (h : recv 0 = .frame buf nowNs) (hframes : 1 ≤ p.frames)
  /-- the held modulators are the answer -/
  | idle (hc : s.connected = true) (h : recv 0 = .again) (hp : p = ⟨.ok (s.skipIngress false), s, 0⟩)
  | failed (h : s.connected = true → recv 0 ≠ .again) (e : String) (hp : p = ⟨.error e, s, 0⟩)

theorem nextIngress_polls (s : ZmqStimulusSource) (recv : ℕ → Recv Frame) :
    Polls s recv (s.nextIngress accept recv) := by
  unfold nextIngress MAX_DRAIN_PER_TICK drain
  cases hc : s.connected with
  | false => exact .failed (by simp [hc]) _ rfl
  | true =>
    cases h0 : recv 0 with
    | frame buf nowNs =>
      refine .received buf nowNs h0 ?_
      simp only [if_true]
      split
      · exact Nat.le_refl _
      · exact le_drain_frames accept _ recv _ 1 _
    | again => exact .idle hc h0 rfl
    | error e => exact .failed (by simp [h0]) _ rfl

end ZmqStimulusSource

end Brainstem.Backend
