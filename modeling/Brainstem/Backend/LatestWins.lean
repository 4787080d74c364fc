import Brainstem.Ingress.Corpus
import Brainstem.Lib.Run

/-!
# The ZMQ source is a latest-wins fold

The frames that reach the socket form one stream, which the calls of `nextIngress` consume
in order; before any of them a receive may also answer `EAGAIN` or an error.  A frame counts by
its `Verdict`, and the modulators of a packet are those of the last finite modulators frame
consumed in the life of the source:

    packet.modulators = latest verdicts (frames consumed so far)                 (latest_wins)
-/

namespace Brainstem.Backend

open Brainstem.Health Brainstem.Ingress

/-! ## Verdicts -/

/-- What a frame is good for. -/
inductive Verdict where
  /-- finite modulators and nothing else -/
  | modulators (mods : List F32)
  /-- stimuli without modulators -/
  | stimuli (packet : IngressPacket)
  /-- an error, or modulators that are not finite -/
  | rejected

namespace Verdict

variable {ε : Type}

def of : Except ε IngressPacket → Verdict
  | .error _ => .rejected
  | .ok packet =>
    match packet.modulators with
    | none => .stimuli packet
    | some mods => if mods.any fun v => !v.isFinite then .rejected else .modulators mods

def modulators? : Verdict → Option (List F32)
  | .modulators mods => some mods
  | _ => none

theorem of_stimuli {packet : IngressPacket} (h : packet.modulators = none) :
    of (.ok packet : Except ε IngressPacket) = .stimuli packet := by
  unfold of
  dsimp only
  rw [h]

theorem of_modulators {packet : IngressPacket} {mods : List F32} (h : packet.modulators = some mods) :
    of (.ok packet : Except ε IngressPacket) =
      if mods.any fun v => !v.isFinite then .rejected else .modulators mods := by
  unfold of
  dsimp only
  rw [h]

theorem finite_of {result : Except ε IngressPacket} {mods : List F32}
    (h : of result = .modulators mods) : ∀ v ∈ mods, v.isFinite = true := by
  unfold of at h
  split at h
  · cases h
  · split at h
    · cases h
    · split at h
      · cases h
      · next hbad =>
        cases h
        intro v hv
        simpa using fun hf => hbad (List.any_eq_true.2 ⟨v, hv, hf⟩)

end Verdict

/-- No frame gives stimuli and modulators at once. -/
def Typed {Frame ε : Type} (accept : Frame → IngressPolicy → ℕ → Except ε IngressPacket) : Prop :=
  ∀ buf policy nowNs packet, accept buf policy nowNs = .ok packet →
    packet.modulators = none ∨ packet.stimuli = []

/-- The typed path gives one or the other. -/
theorem typed_acceptIpcJson {Bytes : Type} (decode : Bytes → Except String IpcMessage)
    (validate : StimulusBatch → Except String Unit) :
    Typed fun bytes policy nowNs => acceptIpcJson decode validate bytes policy (UInt64.ofNat nowNs) := by
  intro buf policy nowNs packet h
  obtain ⟨-, ⟨hstimuli, -⟩ | ⟨hmods, -⟩⟩ := acceptIpcJson_ok decode validate h
  · exact .inr hstimuli
  · exact .inl hmods

/-- The modulators of the last modulators frame among the first `n`. -/
def latest (verdicts : ℕ → Verdict) (n : ℕ) : Option (List F32) :=
  ((List.range n).filterMap fun i => (verdicts i).modulators?).getLast?

theorem latest_succ (verdicts : ℕ → Verdict) (n : ℕ) :
    latest verdicts (n + 1) = (verdicts n).modulators?.or (latest verdicts n) := by
  unfold latest
  rw [List.range_succ, List.filterMap_append, List.getLast?_append]
  cases h : (verdicts n).modulators? <;> simp [h]

theorem mem_latest {verdicts : ℕ → Verdict} {n : ℕ} {mods : List F32}
    (h : mods ∈ latest verdicts n) : ∃ i, verdicts i = .modulators mods := by
  obtain ⟨i, -, hi⟩ := List.mem_filterMap.1 (List.mem_of_getLast? h)
  refine ⟨i, ?_⟩
  unfold Verdict.modulators? at hi
  split at hi
  · next hv =>
    cases hi
    exact hv
  · cases hi

/-! ## One call -/

/-- What a receive can answer in place of a frame. -/
inductive Interrupt where
  | again
  | error (e : String)

/-- The packet of an idle tick. -/
def replay (held : Option (List F32)) : Option IngressPacket :=
  held.map fun mods => { IngressPacket.default with modulators := some mods }

section Call

variable (verdicts : ℕ → Verdict) (connected : Bool) (position : ℕ)
  (interrupts : ℕ → Option Interrupt)

/-- The call has received `k` modulators frames and nothing else. -/
structure Drained (k : ℕ) : Prop where
  bound : k ≤ MAX_DRAIN_PER_TICK
  free : ∀ i < k, interrupts i = none
  modulators : ∀ i < k, ∃ mods, verdicts (position + i) = .modulators mods

/-- The ways a call ends that finds the stream at `position`: how many frames it consumed, and
what it answers. -/
inductive Ends : ℕ → Except String (Option IngressPacket) → Prop where
  | stimuli {k : ℕ} {packet : IngressPacket} (h : Drained verdicts position interrupts k)
      (hk : k < MAX_DRAIN_PER_TICK) (hfree : interrupts k = none)
      (hv : verdicts (position + k) = .stimuli packet) :
      Ends (k + 1) (.ok (some { packet with modulators := latest verdicts (position + (k + 1)) }))
  | rejected {k : ℕ} (h : Drained verdicts position interrupts k) (hk : k < MAX_DRAIN_PER_TICK)
      (hfree : interrupts k = none) (hv : verdicts (position + k) = .rejected) :
      Ends (k + 1) (.ok (some { IngressPacket.default with
        rejected := true
        modulators := latest verdicts (position + (k + 1)) }))
  | again {k : ℕ} (h : Drained verdicts position interrupts k) (hk : k < MAX_DRAIN_PER_TICK)
      (hi : interrupts k = some .again) :
      Ends k (.ok (replay (latest verdicts (position + k))))
  | error {k : ℕ} {e : String} (h : Drained verdicts position interrupts k)
      (hk : k < MAX_DRAIN_PER_TICK) (hi : interrupts k = some (.error e)) :
      Ends k (.error s!"ZMQ recv failed: {e}")
  | full (h : Drained verdicts position interrupts MAX_DRAIN_PER_TICK) :
      Ends MAX_DRAIN_PER_TICK (.ok (replay (latest verdicts (position + MAX_DRAIN_PER_TICK))))
  | unconnected (h : connected = false) : Ends 0 (.error "ZMQ stimulus source not initialized")

variable {verdicts connected position interrupts}

theorem Ends.le {k : ℕ} {answer : Except String (Option IngressPacket)}
    (h : Ends verdicts connected position interrupts k answer) : k ≤ MAX_DRAIN_PER_TICK := by
  cases h with
  | stimuli _ hk => exact hk
  | rejected _ hk => exact hk
  | again h => exact h.bound
  | error h => exact h.bound
  | full => exact Nat.le_refl _
  | unconnected => exact Nat.zero_le _

theorem Drained.succ {k : ℕ} {mods : List F32} (h : Drained verdicts position interrupts k)
    (hk : k < MAX_DRAIN_PER_TICK) (hfree : interrupts k = none)
    (hv : verdicts (position + k) = .modulators mods) : Drained verdicts position interrupts (k + 1) where
  bound := hk
  free := by
    intro i hi
    rcases Nat.lt_succ_iff_lt_or_eq.1 hi with hi | rfl
    · exact h.free i hi
    · exact hfree
  modulators := by
    intro i hi
    rcases Nat.lt_succ_iff_lt_or_eq.1 hi with hi | rfl
    · exact h.modulators i hi
    · exact ⟨mods, hv⟩

end Call

namespace ZmqStimulusSource

variable {Frame ε : Type} {accept : Frame → IngressPolicy → ℕ → Except ε IngressPacket}

theorem skipIngress_false (s : ZmqStimulusSource) : s.skipIngress false = replay s.lastModulators := by
  unfold skipIngress replay
  cases s.lastModulators <;> rfl

/-- What becomes of a frame, by its verdict. -/
theorem takeFrame_eq (s : ZmqStimulusSource) {result : Except ε IngressPacket}
    (htyped : ∀ packet, result = .ok packet → packet.modulators = none ∨ packet.stimuli = []) :
    s.takeFrame result = match Verdict.of result with
      | .modulators mods => (none, { s with lastModulators := some mods })
      | .stimuli packet => (some (some { packet with modulators := s.lastModulators }), s)
      | .rejected => (some (s.skipIngress true), s) := by
  cases result with
  | error e => rfl
  | ok packet =>
    cases hm : packet.modulators with
    | none =>
      rw [Verdict.of_stimuli hm]
      unfold takeFrame
      dsimp only
      rw [hm]
      have hattach : s.attachHeldModulators packet = { packet with modulators := s.lastModulators } := by
        unfold attachHeldModulators
        rw [hm]
        rfl
      rw [hattach]
      split
      · next h => cases h
      · next h _ => cases h
      · rfl
    | some mods =>
      have hstimuli : packet.stimuli = [] := by
        rcases htyped packet rfl with h | h
        · rw [h] at hm
          cases hm
        · exact h
      rw [Verdict.of_modulators hm]
      unfold takeFrame
      dsimp only
      rw [hm, hstimuli]
      dsimp only
      unfold holdOrReject holdModulators
      by_cases hbad : (mods.any fun v => !v.isFinite) = true
      · rw [if_pos hbad, if_pos hbad]
        rfl
      · rw [if_neg hbad, if_neg hbad]
        rfl

end ZmqStimulusSource

/-! ## Sessions -/

/-- A source, and how far it has read the stream. -/
structure Session where
  source : ZmqStimulusSource
  position : ℕ

section Session

variable {Frame ε : Type} (accept : Frame → IngressPolicy → ℕ → Except ε IngressPacket)
  (stream : ℕ → Frame × ℕ)

/-- The answer to the `i`-th receive of a call. -/
def Session.recv (s : Session) (interrupts : ℕ → Option Interrupt) (i : ℕ) : Recv Frame :=
  match interrupts i with
  | none => .frame (stream (s.position + i)).1 (stream (s.position + i)).2
  | some .again => .again
  | some (.error e) => .error e

variable {stream} in
theorem Session.recv_frame {s : Session} {interrupts : ℕ → Option Interrupt} {i : ℕ}
    (h : interrupts i = none) : s.recv stream interrupts i =
      .frame (stream (s.position + i)).1 (stream (s.position + i)).2 := by
  unfold recv
  rw [h]

variable {stream} in
theorem Session.recv_again {s : Session} {interrupts : ℕ → Option Interrupt} {i : ℕ}
    (h : interrupts i = some .again) : s.recv stream interrupts i = .again := by
  unfold recv
  rw [h]

variable {stream} in
theorem Session.recv_error {s : Session} {interrupts : ℕ → Option Interrupt} {i : ℕ} {e : String}
    (h : interrupts i = some (.error e)) : s.recv stream interrupts i = .error e := by
  unfold recv
  rw [h]

/-- One call of `nextIngress`, with what interrupts it. -/
def Session.call (s : Session) (interrupts : ℕ → Option Interrupt) :
    Option (((ℕ → Option Interrupt) × Poll) × Session) :=
  let poll := s.source.nextIngress accept (s.recv stream interrupts)
  some ((interrupts, poll), ⟨poll.source, s.position + poll.frames⟩)

/-- A new source, connected or not. -/
def Session.new (ch : ℕ) (connected : Bool) (maxAge : Duration) : Session :=
  ⟨{ ZmqStimulusSource.withChannels ch with connected := connected, maxAge := maxAge }, 0⟩

/-- The verdicts on the frames of the stream. -/
def verdictsOf (ch : ℕ) (maxAge : Duration) (i : ℕ) : Verdict :=
  .of (accept (stream i).1 ⟨ch, some maxAge⟩ (stream i).2)

variable {accept stream} {ch : ℕ} {connected : Bool} {maxAge : Duration}

/-- The source of a session that has read `n` frames: nothing but the held modulators changes. -/
def sourceAt (verdicts : ℕ → Verdict) (ch : ℕ) (connected : Bool) (maxAge : Duration) (n : ℕ) :
    ZmqStimulusSource :=
  ⟨connected, ch, latest verdicts n, maxAge⟩

theorem sourceAt_modulators {verdicts : ℕ → Verdict} {n : ℕ} {mods : List F32}
    (h : verdicts n = .modulators mods) : { sourceAt verdicts ch connected maxAge n with
      lastModulators := some mods } = sourceAt verdicts ch connected maxAge (n + 1) := by
  unfold sourceAt
  rw [latest_succ, h]
  rfl

/-- A frame that is not a modulators frame leaves the held ones as they were. -/
theorem sourceAt_kept {verdicts : ℕ → Verdict} {n : ℕ} (h : (verdicts n).modulators? = none) :
    sourceAt verdicts ch connected maxAge n = sourceAt verdicts ch connected maxAge (n + 1) := by
  unfold sourceAt
  rw [latest_succ, h, Option.none_or]

/-- A call from `position` that ended as it should, and left in the source what was last seen. -/
structure Ended (verdicts : ℕ → Verdict) (ch : ℕ) (connected : Bool) (maxAge : Duration)
    (position : ℕ) (interrupts : ℕ → Option Interrupt) (poll : Poll) : Prop where
  ends : Ends verdicts connected position interrupts poll.frames poll.answer
  source : poll.source = sourceAt verdicts ch connected maxAge (position + poll.frames)

/-- **The receive loop**, from its `k`-th round on.  By induction on the rounds that are left;
what was received so far are modulators frames. -/
theorem drain_ends (htyped : Typed accept) {s : Session} {interrupts : ℕ → Option Interrupt}
    (rounds : ℕ) {k : ℕ} (hk : k + rounds = MAX_DRAIN_PER_TICK)
    (h : Drained (verdictsOf accept stream ch maxAge) s.position interrupts k) :
    Ended (verdictsOf accept stream ch maxAge) ch true maxAge s.position interrupts
      (ZmqStimulusSource.drain accept ⟨ch, some maxAge⟩ (s.recv stream interrupts) rounds k
        (sourceAt (verdictsOf accept stream ch maxAge) ch true maxAge (s.position + k))) := by
  let verdicts := verdictsOf accept stream ch maxAge
  let source := sourceAt verdicts ch true maxAge
  induction rounds generalizing k with
  | zero =>
    obtain rfl : k = MAX_DRAIN_PER_TICK := hk
    refine ⟨?_, rfl⟩
    show Ends verdicts _ _ _ _ (.ok ((source (s.position + MAX_DRAIN_PER_TICK)).skipIngress false))
    rw [ZmqStimulusSource.skipIngress_false]
    exact .full h
  | succ rounds ih =>
    have hlt : k < MAX_DRAIN_PER_TICK := by omega
    unfold ZmqStimulusSource.drain
    rw [if_pos (show (source (s.position + k)).connected = true from rfl)]
    cases hi : interrupts k with
    | some interrupt =>
      cases interrupt with
      | again =>
        rw [Session.recv_again hi]
        refine ⟨?_, rfl⟩
        show Ends verdicts _ _ _ _ (.ok ((source (s.position + k)).skipIngress false))
        rw [ZmqStimulusSource.skipIngress_false]
        exact .again h hlt hi
      | error e =>
        rw [Session.recv_error hi]
        exact ⟨.error h hlt hi, rfl⟩
    | none =>
      rw [Session.recv_frame hi]
      dsimp only
      rw [ZmqStimulusSource.takeFrame_eq _ fun packet hp => htyped _ _ _ packet hp]
      have hv : Verdict.of (accept (stream (s.position + k)).1 ⟨ch, some maxAge⟩
        (stream (s.position + k)).2) = verdicts (s.position + k) := rfl
      rw [hv]
      cases hverdict : verdicts (s.position + k) with
      | modulators mods =>
        dsimp only
        rw [sourceAt_modulators hverdict]
        exact ih (by omega) (h.succ hlt hi hverdict)
      | stimuli packet =>
        dsimp only
        rw [sourceAt_kept (show (verdicts (s.position + k)).modulators? = none by rw [hverdict]; rfl)]
        exact ⟨.stimuli h hlt hi hverdict, rfl⟩
      | rejected =>
        dsimp only
        rw [sourceAt_kept (show (verdicts (s.position + k)).modulators? = none by rw [hverdict]; rfl)]
        exact ⟨.rejected h hlt hi hverdict, rfl⟩

/-- One call, from a source that holds what the stream so far says. -/
theorem call_ends (htyped : Typed accept) (connected : Bool) {s : Session}
    (interrupts : ℕ → Option Interrupt)
    (hs : s.source = sourceAt (verdictsOf accept stream ch maxAge) ch connected maxAge s.position) :
    Ended (verdictsOf accept stream ch maxAge) ch connected maxAge s.position interrupts
      (s.source.nextIngress accept (s.recv stream interrupts)) := by
  unfold ZmqStimulusSource.nextIngress
  rw [hs]
  cases connected with
  | false => exact ⟨.unconnected rfl, rfl⟩
  | true =>
    have hnone : Drained (verdictsOf accept stream ch maxAge) s.position interrupts 0 :=
      ⟨Nat.zero_le _, fun i hi => absurd hi (Nat.not_lt_zero i),
        fun i hi => absurd hi (Nat.not_lt_zero i)⟩
    exact drain_ends htyped MAX_DRAIN_PER_TICK (Nat.zero_add _) hnone

/-- **Latest wins**: every call consumes the next frames of the stream, at most 32 of them, up to
the one that stops it, and its packet carries the modulators that were last seen. -/
theorem latest_wins (htyped : Typed accept) {trace : List (((ℕ → Option Interrupt) × Poll) × Session)}
    {s : Session} (hr : Run (Session.call accept stream) (.new ch connected maxAge) trace s) :
    Run.Each (fun s l s' => s'.position = s.position + l.2.frames ∧
      l.2.frames ≤ MAX_DRAIN_PER_TICK ∧
      Ends (verdictsOf accept stream ch maxAge) connected s.position l.1 l.2.frames l.2.answer ∧
      s'.source.lastModulators = latest (verdictsOf accept stream ch maxAge) s'.position ∧
      s'.source.HeldFinite) (.new ch connected maxAge) trace := by
  let verdicts := verdictsOf accept stream ch maxAge
  refine (Run.each (I := fun s => s.source = sourceAt verdicts ch connected maxAge s.position)
    rfl ?_ ?_ hr).2
  · intro s interrupts l s' hs hstep
    cases hstep
    exact (call_ends htyped connected interrupts hs).source
  · intro s interrupts l s' hs hstep
    cases hstep
    obtain ⟨hends, hsource⟩ := call_ends htyped connected interrupts hs
    refine ⟨rfl, hends.le, hends, congrArg ZmqStimulusSource.lastModulators hsource, ?_⟩
    intro mods hmods
    rw [hsource] at hmods
    obtain ⟨i, hi⟩ := mem_latest hmods
    exact Verdict.finite_of hi

end Session

/-- Decoded messages, a snapshot of the modulators first. -/
def snapshotFirst (i : ℕ) : IpcMessage × ℕ :=
  (if i = 0 then .neuromodulators ⟨.half, .half, .half, .half⟩ else .ping, 0)

def acceptDecoded (message : IpcMessage) (policy : IngressPolicy) (nowNs : ℕ) :
    Except IngressError IngressPacket :=
  acceptIpcJson .ok (fun _ => .ok ()) message policy (UInt64.ofNat nowNs)

/-- The first call holds the snapshot and is stopped by a rejected frame; the second finds
nothing, and replays what is held. -/
theorem latest_wins_replayed :
    let verdicts := verdictsOf acceptDecoded snapshotFirst 2 1000000000
    ∃ first second,
      Session.call acceptDecoded snapshotFirst (.new 2 true 1000000000) (fun _ => none) = some first ∧
      Session.call acceptDecoded snapshotFirst first.2 (fun _ => some .again) = some second ∧
      Ends verdicts true 2 (fun _ => some .again) second.1.2.frames second.1.2.answer ∧
      second.1.2.answer = .ok (replay (latest verdicts 2)) ∧
      latest verdicts 2 = some [.half, .half, .half, .half] := by
  intro verdicts
  let first := (Session.call acceptDecoded snapshotFirst (.new 2 true 1000000000) fun _ => none).get rfl
  let second := (Session.call acceptDecoded snapshotFirst first.2 fun _ => some .again).get rfl
  have hr : Run (Session.call acceptDecoded snapshotFirst) (.new 2 true 1000000000) [first, second]
      second.2 := .snoc _ (.snoc _ .refl rfl) rfl
  obtain ⟨-, ⟨-, -, hends, -⟩, -⟩ := latest_wins (typed_acceptIpcJson .ok fun _ => .ok ()) hr
  have hposition : first.2.position = 2 := by decide
  have hends : Ends verdicts true first.2.position (fun _ => some .again) second.1.2.frames
      second.1.2.answer := hends
  rw [hposition] at hends
  exact ⟨first, second, rfl, rfl, hends, by decide, by decide⟩

end Brainstem.Backend
