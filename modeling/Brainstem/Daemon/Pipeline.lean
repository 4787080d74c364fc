import Brainstem.Backend.LatestWins
import Brainstem.Daemon.Egress
import Brainstem.Daemon.StandardPacket

/-!
# From wire to wire

The tick loop as the binary wires it: the ZMQ source in front, the ZMQ sink behind, and nobody
else on the ingress.  Seen from outside the queues, the gates and the reused buffers are gone, and
what is left is a network that is stepped once a tick, with what the messages of the stream say:

    Feeds verdicts position interrupts n k x mods
    step network x (modulatorsOf mods) = (ids, network'),  frame = wireBatch ids     (wire_to_wire)

The modulators travel in a packet of their own, so they only arrive if four values are within the
payload limit, which validation does not ask for; otherwise the step gets the defaults.
-/

namespace Brainstem.Daemon

open Brainstem.Health Brainstem.Backend
open Brainstem.Ingress hiding Instant
open BoundedIngress

/-- The tick loop between its two sockets. -/
structure Wired (Network : Type) where
  publishing : Publishing Network
  session : Session

/-- What a tick is given besides the messages of the stream. -/
structure WiredInput (Entropy : Type) where
  input : TickInput Entropy
  interrupts : ℕ → Option Interrupt
  socket : SocketAnswer

structure WiredLabel (Entropy Frame : Type) where
  given : WiredInput Entropy
  poll : Poll
  published : PublishLabel Entropy Frame

variable {Network Entropy Bytes Frame ε : Type}

/-- The source is polled, and its answer is what the tick receives. -/
def Wired.step (nm : Neuromod Network Entropy) (fl : ℚ → ℚ)
    (accept : Bytes → IngressPolicy → ℕ → Except ε IngressPacket) (stream : ℕ → Bytes × ℕ)
    (toVec : SpikeBatch → Except String Frame) (w : Wired Network) (given : WiredInput Entropy) :
    Option (WiredLabel Entropy Frame × Wired Network) :=
  (w.session.call accept stream given.interrupts).bind fun polled =>
    let input := { given.input with received := polled.1.2.answer, others := nobody }
    (w.publishing.step nm fl toVec (.tick input given.socket)).map fun published =>
      (⟨given, polled.1.2, published.1⟩, ⟨published.2, polled.2⟩)

/-! ## What a tick feeds the network -/

/-- Four values or more, or the defaults. -/
def modulatorsOf (nm : Neuromod Network Entropy) : Option (List F32) → NeuroModulators
  | some (dopamine :: serotonin :: acetylcholine :: norepinephrine :: _) =>
    ⟨dopamine, serotonin, acetylcholine, norepinephrine⟩
  | _ => nm.defaultModulators

/-- The tick that finds the stream at `position` consumes `k` messages, and feeds `n` values and
these modulators. -/
inductive Feeds (verdicts : ℕ → Verdict) (position : ℕ) (interrupts : ℕ → Option Interrupt) (n : ℕ) :
    ℕ → List F32 → Option (List F32) → Prop where
  /-- a batch: its values, without those that its mask takes out -/
  | batch {k : ℕ} {packet : IngressPacket} (h : Drained verdicts position interrupts k)
      (hk : k < MAX_DRAIN_PER_TICK) (hfree : interrupts k = none)
      (hv : verdicts (position + k) = .stimuli packet)
      (hfinite : ∀ v ∈ packet.stimuli, v.isFinite = true) :
      Feeds verdicts position interrupts n (k + 1) ((List.range n).map (slot packet))
        (latest verdicts (position + (k + 1)))
  /-- a batch with a value that is not finite takes the held modulators with it -/
  | refused {k : ℕ} {packet : IngressPacket} (h : Drained verdicts position interrupts k)
      (hk : k < MAX_DRAIN_PER_TICK) (hfree : interrupts k = none)
      (hv : verdicts (position + k) = .stimuli packet)
      (hbad : ∃ v ∈ packet.stimuli, v.isFinite = false) :
      Feeds verdicts position interrupts n (k + 1) (List.replicate n 0) none
  | rejected {k : ℕ} (h : Drained verdicts position interrupts k) (hk : k < MAX_DRAIN_PER_TICK)
      (hfree : interrupts k = none) (hv : verdicts (position + k) = .rejected) :
      Feeds verdicts position interrupts n (k + 1) (List.replicate n 0)
        (latest verdicts (position + (k + 1)))
  /-- nothing more to receive, or no room in the tick -/
  | idle {k : ℕ} (h : Drained verdicts position interrupts k)
      (hk : k = MAX_DRAIN_PER_TICK ∨ interrupts k = some .again) :
      Feeds verdicts position interrupts n k (List.replicate n 0) (latest verdicts (position + k))
  | failed {k : ℕ} {e : String} (h : Drained verdicts position interrupts k)
      (hk : k < MAX_DRAIN_PER_TICK) (hi : interrupts k = some (.error e)) :
      Feeds verdicts position interrupts n k (List.replicate n 0) none

/-- The packet of the source that the tick steps on, if its values are finite. -/
def stepPacket (answer : Except String (Option IngressPacket)) : IngressPacket :=
  ((answer.toOption.bind id).filter fun packet => (firstNonFinite packet).isNone).getD .default

theorem direct_eq_stepPacket (input : TickInput Entropy) :
    input.direct = stepPacket input.received := by
  unfold TickInput.direct TickInput.backendPacket stepPacket
  cases input.received <;> rfl

theorem slot_empty {packet : IngressPacket} (h : packet.stimuli = []) (n : ℕ) :
    (List.range n).map (slot packet) = List.replicate n 0 := by
  have hzero (i : ℕ) : slot packet i = 0 := by
    unfold slot
    split
    · rfl
    · rw [h]
      rfl
  rw [funext hzero, List.map_const', List.length_range]

theorem stepPacket_finite {packet : IngressPacket} (h : firstNonFinite packet = none) :
    stepPacket (.ok (some packet)) = packet := by
  have hpass : (firstNonFinite packet).isNone = true := Option.isNone_iff_eq_none.2 h
  show ((some packet).filter fun packet => (firstNonFinite packet).isNone).getD .default = packet
  rw [Option.filter_some, if_pos hpass, Option.getD_some]

theorem stepPacket_refused {packet : IngressPacket} (h : firstNonFinite packet ≠ none) :
    stepPacket (.ok (some packet)) = .default := by
  have hstop : ¬(firstNonFinite packet).isNone = true := fun hnone =>
    h (Option.isNone_iff_eq_none.1 hnone)
  show ((some packet).filter fun packet => (firstNonFinite packet).isNone).getD .default = .default
  rw [Option.filter_some, if_neg hstop, Option.getD_none]

/-- A packet with held modulators is finite if its stimuli are. -/
theorem firstNonFinite_held {verdicts : ℕ → Verdict} {m : ℕ} {packet : IngressPacket}
    (hheld : ∀ mods ∈ latest verdicts m, ∀ v ∈ mods, v.isFinite = true)
    (hmods : packet.modulators = latest verdicts m) :
    firstNonFinite packet = none ↔ ∀ v ∈ packet.stimuli, v.isFinite = true := by
  rw [firstNonFinite_eq_none, hmods]
  exact ⟨And.left, fun h => ⟨h, hheld⟩⟩

theorem stepPacket_replay {verdicts : ℕ → Verdict} {m : ℕ}
    (hheld : ∀ mods ∈ latest verdicts m, ∀ v ∈ mods, v.isFinite = true) :
    stepPacket (.ok (replay (latest verdicts m))) =
      { IngressPacket.default with modulators := latest verdicts m } := by
  unfold replay
  cases hlatest : latest verdicts m with
  | none => rfl
  | some mods =>
    refine stepPacket_finite ?_
    exact (firstNonFinite_held hheld hlatest.symm).2 nofun

section Feeds

variable {verdicts : ℕ → Verdict} {position : ℕ} {interrupts : ℕ → Option Interrupt}

/-- The answer of a poll, as the step sees it. -/
theorem feeds_of_ends (n : ℕ) (hheld : ∀ m, ∀ mods ∈ latest verdicts m, ∀ v ∈ mods, v.isFinite = true)
    {k : ℕ} {answer : Except String (Option IngressPacket)}
    (h : Ends verdicts true position interrupts k answer) :
    Feeds verdicts position interrupts n k ((List.range n).map (slot (stepPacket answer)))
      (stepPacket answer).modulators := by
  cases h with
  | @stimuli k packet h hk hfree hv =>
    let held : IngressPacket := { packet with modulators := latest verdicts (position + (k + 1)) }
    have hnone : firstNonFinite held = none ↔ ∀ v ∈ packet.stimuli, v.isFinite = true :=
      firstNonFinite_held (hheld _) rfl
    by_cases hfinite : ∀ v ∈ packet.stimuli, v.isFinite = true
    · rw [stepPacket_finite (hnone.2 hfinite)]
      show Feeds verdicts position interrupts n (k + 1) ((List.range n).map (slot packet))
        (latest verdicts (position + (k + 1)))
      exact .batch h hk hfree hv hfinite
    · rw [stepPacket_refused fun h => hfinite (hnone.1 h), slot_empty rfl]
      refine .refused h hk hfree hv ?_
      simpa using hfinite
  | @rejected k h hk hfree hv =>
    let held : IngressPacket := { IngressPacket.default with
      rejected := true
      modulators := latest verdicts (position + (k + 1)) }
    have hnone : firstNonFinite held = none := (firstNonFinite_held (hheld _) rfl).2 nofun
    rw [stepPacket_finite hnone, slot_empty rfl]
    exact .rejected h hk hfree hv
  | again h hk hi =>
    rw [stepPacket_replay (hheld _), slot_empty rfl]
    exact .idle h (.inr hi)
  | error h hk hi =>
    rw [slot_empty rfl]
    exact .failed h hk hi
  | full h =>
    rw [stepPacket_replay (hheld _), slot_empty rfl]
    exact .idle h (.inl rfl)
  | unconnected h => cases h

end Feeds

/-! ## The messages -/

section Messages

variable (decode : Bytes → Except String IpcMessage) (validate : StimulusBatch → Except String Unit)

/-- What the source makes of a message. -/
def acceptMessage (bytes : Bytes) (policy : IngressPolicy) (nowNs : ℕ) :
    Except IngressError IngressPacket :=
  acceptIpcJson decode validate bytes policy (UInt64.ofNat nowNs)

variable {decode validate} {stream : ℕ → Bytes × ℕ} {ch : ℕ} {maxAge : Duration}

/-- A message that is good for its stimuli has a value for each channel. -/
theorem verdict_stimuli (hch : ch ≠ 0) {i : ℕ} {packet : IngressPacket}
    (h : verdictsOf (acceptMessage decode validate) stream ch maxAge i = .stimuli packet) :
    packet.stimuli.length = ch := by
  unfold verdictsOf Verdict.of at h
  split at h
  · cases h
  · next packet' haccept =>
    have hok := (acceptIpcJson_ok decode validate haccept).2
    split at h
    · next hnone =>
      cases h
      rcases hok with ⟨-, mods, hmods, -⟩ | ⟨-, batch, -, -, hwidth, -⟩
      · rw [hmods] at hnone
        cases hnone
      · exact hwidth hch
    · split at h <;> cases h

/-- A message that is good for its modulators has four of them, all finite. -/
theorem verdict_modulators {i : ℕ} {mods : List F32}
    (h : verdictsOf (acceptMessage decode validate) stream ch maxAge i = .modulators mods) :
    mods.length = NEUROMODULATOR_COUNT ∧ ∀ v ∈ mods, v.isFinite = true := by
  refine ⟨?_, Verdict.finite_of h⟩
  unfold verdictsOf Verdict.of at h
  split at h
  · cases h
  · next packet haccept =>
    have hok := (acceptIpcJson_ok decode validate haccept).2
    split at h
    · cases h
    · next mods' hsome =>
      split at h
      · cases h
      · cases h
        rcases hok with ⟨-, mods', hmods, hlen⟩ | ⟨hnone, -⟩
        · rw [hsome] at hmods
          cases hmods
          exact hlen
        · rw [hnone] at hsome
          cases hsome

/-- Whatever the source answers, it has no more stimuli than there are channels. -/
theorem stimuli_of_ends (hch : ch ≠ 0) {position k : ℕ} {interrupts : ℕ → Option Interrupt}
    {answer : Except String (Option IngressPacket)}
    (h : Ends (verdictsOf (acceptMessage decode validate) stream ch maxAge) true position interrupts k
      answer) : (stepPacket answer).stimuli.length ≤ ch := by
  have hpacket : ∀ packet, answer = .ok (some packet) → packet.stimuli.length ≤ ch := by
    intro packet hanswer
    have hreplay {m : ℕ} (hr : replay (latest (verdictsOf (acceptMessage decode validate) stream ch
        maxAge) m) = some packet) : packet.stimuli.length ≤ ch := by
      obtain ⟨mods, -, rfl⟩ := Option.map_eq_some_iff.1 hr
      exact Nat.zero_le ch
    cases h with
    | stimuli h hk hfree hv =>
      cases hanswer
      exact (verdict_stimuli hch hv).le
    | rejected h hk hfree hv =>
      cases hanswer
      exact Nat.zero_le ch
    | again h hk hi =>
      injection hanswer with hanswer
      exact hreplay hanswer
    | error h hk hi => cases hanswer
    | full h =>
      injection hanswer with hanswer
      exact hreplay hanswer
    | unconnected h => cases h
  unfold stepPacket
  cases hp : (answer.toOption.bind id).filter fun packet => (firstNonFinite packet).isNone with
  | none => exact Nat.zero_le ch
  | some packet =>
    obtain ⟨received, hreceived, hsome⟩ :=
      Option.bind_eq_some_iff.1 (Option.mem_filter_iff.1 hp).1
    refine hpacket packet ?_
    cases answer with
    | error e => cases hreceived
    | ok received' =>
      cases hreceived
      exact congrArg Except.ok hsome

end Messages

/-! ## One tick -/

section Tick

variable (nm : Neuromod Network Entropy) (fl : ℚ → ℚ)

/-- A tick with nobody else on the ingress steps on what the payload limit leaves of the packet of
the source. -/
theorem quiescent_tick {cfg : IngressConfig} {d : TickLoop Network} (hq : Quiescent cfg d)
    {input : TickInput Entropy} (halone : input.others = nobody) :
    let r := runTickPublished nm fl d input
    let packet := trimmed cfg (stepPacket input.received)
    let x := (List.range d.stimuli.length).map (slot packet)
    let m := modulatorsOf nm packet.modulators
    let s := nm.step d.network input.entropy x m
    Quiescent cfg r.2 ∧ r.1.stepped = some ⟨x, m, s.1⟩ ∧ r.2.network = s.2 ∧ r.2.stimuli = x := by
  intro r packet x m s
  have hdecode : decodeInputs nm packet d.stimuli = (m, x) :=
    Prod.ext (decodeInputs_modulators _ _) (decodeInputs_stimuli _ _)
  have htick := hq.tick nm fl halone
  rw [direct_eq_stepPacket] at htick
  dsimp only at htick
  rw [show decodeInputs nm (trimmed cfg (stepPacket input.received)) d.stimuli = (m, x) from hdecode]
    at htick
  exact htick

end Tick

/-! ## Runs -/

section Run

variable {nm : Neuromod Network Entropy} {fl : ℚ → ℚ} {toVec : SpikeBatch → Except String Frame}
  {decode : Bytes → Except String IpcMessage} {validate : StimulusBatch → Except String Unit}
  {stream : ℕ → Bytes × ℕ}

/-- The one call of the step. -/
def PublishLabel.stepped? : PublishLabel Entropy Frame → Option StepCall
  | .ticked _ _ t _ => t.stepped
  | .other _ => none

/-- What a tick does, seen from outside: it consumes messages, steps the network on what they
say, and sends what the step returned. -/
def Transduces (nm : Neuromod Network Entropy) (toVec : SpikeBatch → Except String Frame)
    (verdicts : ℕ → Verdict) (cfg : DaemonConfig) (policy : Bool) (w : Wired Network)
    (l : WiredLabel Entropy Frame) (w' : Wired Network) : Prop :=
  ∃ x mods,
    Feeds verdicts w.session.position l.given.interrupts cfg.channels l.poll.frames x mods ∧
    w'.session.position = w.session.position + l.poll.frames ∧
    let m := modulatorsOf nm (mods.filter fun mods => mods.length ≤ cfg.ingress.maxPayloadLen)
    let s := nm.step w.publishing.daemon.network l.given.input.entropy x m
    l.published.stepped? = some ⟨x, m, s.1⟩ ∧ w'.publishing.daemon.network = s.2 ∧
      (nm.ErrsOnInput → ∀ e, s.1 ≠ .error e) ∧
      l.published.frame? = (s.1.toOption.bind (wireBatch policy l.given.input.sinceEpoch)).bind
        (ZmqSpikeSink.frameOf toVec l.given.socket)

/-- Between two ticks. -/
structure Ready (nm : Neuromod Network Entropy) (cfg : DaemonConfig) (verdicts : ℕ → Verdict)
    (maxAge : Duration) (policy : Bool) (w : Wired Network) : Prop where
  quiescent : Quiescent cfg.ingress w.publishing.daemon
  width : w.publishing.daemon.stimuli.length = cfg.channels
  channels : nm.numChannels w.publishing.daemon.network = cfg.channels
  source : w.session.source = sourceAt verdicts cfg.channels true maxAge w.session.position
  policy : w.publishing.sink.sendEmptyBatches = policy

/-- The payload limit takes nothing out of as many stimuli as it admits. -/
theorem slot_trimmed {cfg : IngressConfig} {packet : IngressPacket}
    (h : packet.stimuli.length ≤ cfg.maxPayloadLen) : slot (trimmed cfg packet) = slot packet := by
  have hstimuli : (trimmed cfg packet).stimuli = packet.stimuli := if_pos h
  funext i
  unfold slot
  rw [hstimuli]
  rfl

/-- One tick. -/
theorem Ready.step (hl : nm.Lawful) {cfg : DaemonConfig} (hch : cfg.channels ≠ 0)
    (hroom : cfg.channels ≤ cfg.ingress.maxPayloadLen) {maxAge : Duration} {policy : Bool}
    {w w' : Wired Network} {given : WiredInput Entropy} {l : WiredLabel Entropy Frame}
    (h : Ready nm cfg (verdictsOf (acceptMessage decode validate) stream cfg.channels maxAge) maxAge
      policy w)
    (hs : w.step nm fl (acceptMessage decode validate) stream toVec given = some (l, w')) :
    Ready nm cfg (verdictsOf (acceptMessage decode validate) stream cfg.channels maxAge) maxAge
      policy w' ∧
    Transduces nm toVec (verdictsOf (acceptMessage decode validate) stream cfg.channels maxAge) cfg
      policy w l w' := by
  let verdicts := verdictsOf (acceptMessage decode validate) stream cfg.channels maxAge
  unfold Wired.step at hs
  obtain ⟨polled, hpolled, hs⟩ := Option.bind_eq_some_iff.1 hs
  obtain ⟨⟨published, publishing⟩, hpublished, heq⟩ := Option.map_eq_some_iff.1 hs
  cases heq
  cases hpolled
  obtain ⟨hends, hsource⟩ := call_ends (typed_acceptIpcJson decode validate) true given.interrupts
    h.source
  let poll := w.session.source.nextIngress (acceptMessage decode validate)
    (w.session.recv stream given.interrupts)
  let input : TickInput Entropy := { given.input with received := poll.answer, others := nobody }
  obtain ⟨hquiescent, hstepped, hnetwork, hstimuli⟩ := quiescent_tick nm fl h.quiescent
    (show input.others = nobody from rfl)
  have hslots : slot (trimmed cfg.ingress (stepPacket poll.answer)) = slot (stepPacket poll.answer) :=
    slot_trimmed ((stimuli_of_ends hch hends).trans hroom)
  rw [h.width, show input.received = poll.answer from rfl, hslots] at hstepped hnetwork hstimuli
  have hpublishes := publishes_of_step hpublished
  have hframe := hpublishes.frame
  have hpolicy := hpublishes.ships.policy
  rw [h.policy] at hframe hpolicy
  obtain ⟨emit, hemit, hresult, rfl, rfl⟩ := step_tick hpublished
  have hfed : Fed nm w.publishing.daemon := h.width.trans h.channels.symm
  have hsucceeds := ((advance_sound input _ _ _ hl hfed).2 _ hstepped).2
  have hspikes := TickTrace.spikeIds_of_stepped hstepped
  have hwidth : (runTickPublished nm fl w.publishing.daemon input).2.stimuli.length =
      cfg.channels := by
    rw [hstimuli, List.length_map, List.length_range]
  have hchannels : nm.numChannels (runTickPublished nm fl w.publishing.daemon input).2.network =
      cfg.channels := by
    rw [hnetwork, (hl.step_dimensions _ _ _ _).2.2]
    exact h.channels
  have hheld : ∀ m, ∀ mods ∈ latest verdicts m, ∀ v ∈ mods, v.isFinite = true := by
    intro m mods hmem
    obtain ⟨i, hi⟩ := mem_latest hmem
    exact (verdict_modulators hi).2
  refine ⟨⟨hquiescent, hwidth, hchannels, hsource, hpolicy⟩, _, _,
    feeds_of_ends cfg.channels hheld hends, rfl, hstepped, hnetwork, hsucceeds, ?_⟩
  rw [hframe]
  show (Option.bind (runTickPublished nm fl w.publishing.daemon input).1.spikeIds _).bind _ = _
  rw [hspikes]
  rfl

theorem Wired.step_position {accept : Bytes → IngressPolicy → ℕ → Except ε IngressPacket}
    {w w' : Wired Network} {given : WiredInput Entropy} {l : WiredLabel Entropy Frame}
    (h : w.step nm fl accept stream toVec given = some (l, w')) :
    w'.session.position = w.session.position + l.poll.frames := by
  unfold Wired.step at h
  obtain ⟨polled, hpolled, h⟩ := Option.bind_eq_some_iff.1 h
  obtain ⟨published, -, heq⟩ := Option.map_eq_some_iff.1 h
  cases heq
  cases hpolled
  rfl

/-- In every run of the tick loop between its two sockets, whatever messages arrive and however
the sockets interrupt: each tick consumes the next messages of the stream, at most 32, none of
them twice, steps the network once on what they say, and hands to the socket what the step
returned and nothing else.  The step does not fail if the crate errs on its input alone. -/
theorem wire_to_wire (hl : nm.Lawful) {net : NetParsers} {cfg : DaemonConfig} {d : TickLoop Network}
    (h0 : Enters nm net fl cfg d) {maxAge : Duration} {policy : Bool}
    {trace : List (WiredLabel Entropy Frame × Wired Network)} {w : Wired Network}
    (hr : Run (Wired.step nm fl (acceptMessage decode validate) stream toVec)
      ⟨⟨d, .withPolicy policy⟩, .new cfg.channels true maxAge⟩ trace w) :
    Run.Each (Transduces nm toVec
      (verdictsOf (acceptMessage decode validate) stream cfg.channels maxAge) cfg policy)
      ⟨⟨d, .withPolicy policy⟩, .new cfg.channels true maxAge⟩ trace ∧
    w.session.position = Run.total (·.poll.frames) trace := by
  obtain ⟨hch, hroom⟩ := channels_of_validate h0.validate
  have heach := hr.each (I := Ready nm cfg
      (verdictsOf (acceptMessage decode validate) stream cfg.channels maxAge) maxAge policy)
    ⟨.of_new h0.ingress_new, h0.channels.1, h0.channels.2, rfl, rfl⟩
    (fun w given l w' h hs => (h.step hl hch hroom hs).1)
    fun w given l w' h hs => (h.step hl hch hroom hs).2
  refine ⟨heach.2, ?_⟩
  refine hr.invariant (I := fun trace w => w.session.position = Run.total (·.poll.frames) trace) rfl ?_
  intro trace w given l w' hposition hs
  rw [Run.total_concat, ← hposition]
  exact Wired.step_position hs

end Run

/-- A snapshot of the modulators, a batch with a masked channel, and then nothing of use. -/
def snapshotAndBatch (i : ℕ) : IpcMessage × ℕ :=
  (if i = 0 then .neuromodulators ⟨.one, .half, .half, .half⟩
    else if i = 1 then
      .stimuli ⟨none, 7, 0, [.one, .one], some [true, false], some [("schema", STIMULUS_SCHEMA)]⟩
    else .ping, 0)

/-- A tick that nothing interrupts, and one that finds the stream exhausted. -/
def busyThenIdle : List (WiredInput Unit) :=
  [⟨.answered (.ok ()), fun _ => none, .sent⟩, ⟨.answered (.ok ()), fun _ => some .again, .sent⟩]

theorem wire_to_wire_busy_then_idle :
    let step := Wired.step .quiet id (acceptMessage .ok fun _ => .ok ()) snapshotAndBatch
      (.ok : SpikeBatch → Except String SpikeBatch)
    let w₀ : Wired (ℕ × ℕ × ℕ) := ⟨⟨.quiet id, .withPolicy true⟩, .new 2 true 1000000000⟩
    ∃ (trace : List (WiredLabel Unit SpikeBatch × Wired (ℕ × ℕ × ℕ))) (w : Wired (ℕ × ℕ × ℕ)),
      Run step w₀ trace w ∧ w.session.position = 2 ∧ trace.length = 2 ∧
        Run.Each (Transduces .quiet .ok
          (verdictsOf (acceptMessage .ok fun _ => .ok ()) snapshotAndBatch 2 1000000000) .quiet true)
          w₀ trace := by
  intro step w₀
  have hrun : (Run.exec step busyThenIdle ([], w₀)).map
      (fun r => (Run.total (·.poll.frames) r.1, r.1.length)) = some (2, 2) := by
    decide +kernel
  obtain ⟨⟨trace, w⟩, hx, hm⟩ := Option.map_eq_some_iff.1 hrun
  injection hm with hframes hlength
  have hr := Run.of_exec .refl hx
  have hwire := wire_to_wire Neuromod.quiet_lawful (TickLoop.enters_quiet id) hr
  exact ⟨trace, w, hr, hwire.2.trans hframes, hlength, hwire.1⟩

end Brainstem.Daemon
