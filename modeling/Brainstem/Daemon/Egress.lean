import Brainstem.Backend.SpikeSink
import Brainstem.Daemon.Emission

/-!
# From the step to the wire

The tick loop and the ZMQ sink behind it, in one system: a tick that publishes calls `emit`, and
is answered what `emit` answers.  In every run, whatever the sources, the network, the other
threads and the socket do:

    frames trace = Run.observe dueFrame trace                                      (egress)
    ticks = attempted + suppressed + unsent + lost,  emit_errors = failed + unsent

where `dueFrame` is read off the ids that the step of the tick returned.
-/

namespace Brainstem.Daemon

open Brainstem.Health Brainstem.Backend
open Brainstem.Ingress hiding Instant

/-- The tick loop with its sink. -/
structure Publishing (Network : Type) where
  daemon : TickLoop Network
  sink : ZmqSpikeSink

inductive PublishAction (Entropy : Type) where
  | tick (input : TickInput Entropy) (socket : SocketAnswer)
  | other (st : BoundedIngress.Step)

inductive PublishLabel (Entropy Frame : Type) where
  | ticked (input : TickInput Entropy) (socket : SocketAnswer) (t : TickTrace)
      (emit : Option (Emit Frame))
  | other (st : BoundedIngress.Step)

variable {Network Entropy Frame : Type}

/-- The call of the sink, if the tick publishes. -/
def Publishing.emit (toVec : SpikeBatch → Except String Frame) (p : Publishing Network)
    (socket : SocketAnswer) (t : TickTrace) : Option (Emit Frame) :=
  t.emitted.map fun call => p.sink.emit toVec call.spikes call.batchTime socket

/-- A tick is possible if it was answered what the sink answers. -/
def Publishing.step (nm : Neuromod Network Entropy) (fl : ℚ → ℚ)
    (toVec : SpikeBatch → Except String Frame) (p : Publishing Network) :
    PublishAction Entropy → Option (PublishLabel Entropy Frame × Publishing Network)
  | .tick input socket =>
    let (t, daemon) := runTickPublished nm fl p.daemon input
    match p.emit toVec socket t with
    | none => some (.ticked input socket t none, ⟨daemon, p.sink⟩)
    | some e =>
      if e.result = input.sink then some (.ticked input socket t (some e), ⟨daemon, e.sink⟩) else none
  | .other st =>
    some (.other st, ⟨{ p.daemon with ingress := p.daemon.ingress.perform st }, p.sink⟩)

/-! ## What is due -/

/-- The batch that the ids of a step make, if any: the ids that fit, all stamped with the time of
the batch.  Nothing is made of ids that are all out of range. -/
def wireBatch (sendEmptyBatches : Bool) (sinceEpoch : Duration) (ids : List ℕ) :
    Option SpikeBatch :=
  let kept := ids.filter fun idx => idx < U16_BOUND
  let batchId := sinceEpoch / 1000000 % 2 ^ 64
  if kept = [] ∧ (ids ≠ [] ∨ sendEmptyBatches = false) then none
  else some ⟨batchId, sinceEpoch % 2 ^ 64, kept.map fun idx => ⟨idx, batchId % 2 ^ 32, .one⟩⟩

namespace PublishLabel

/-- The bytes that went to the socket. -/
def frame? : PublishLabel Entropy Frame → Option Frame
  | .ticked _ _ _ (some e) => e.handed
  | _ => none

/-- The bytes that ought to have gone there. -/
def dueFrame (toVec : SpikeBatch → Except String Frame) (sendEmptyBatches : Bool) :
    PublishLabel Entropy Frame → Option Frame
  | .ticked input socket t _ =>
    (t.spikeIds.bind (wireBatch sendEmptyBatches input.sinceEpoch)).bind
      (ZmqSpikeSink.frameOf toVec socket)
  | .other _ => none

/-- One if the call of the sink satisfies `f`. -/
def count (f : Emit Frame → Bool) : PublishLabel Entropy Frame → ℕ
  | .ticked _ _ _ (some e) => (f e).toNat
  | _ => 0

/-- One if this is a tick. -/
def tick : PublishLabel Entropy Frame → ℕ
  | .ticked .. => 1
  | .other _ => 0

/-- One if the step returned ids and none of them fits. -/
def lost : PublishLabel Entropy Frame → ℕ
  | .ticked _ _ t _ => t.lostAll.toNat
  | .other _ => 0

theorem frame?_isSome (l : PublishLabel Entropy Frame) :
    l.frame?.isSome.toNat = l.count Emit.sent := by
  unfold frame? count
  split <;> rfl

theorem failed_le (l : PublishLabel Entropy Frame) : l.count Emit.failed ≤ l.count Emit.sent := by
  unfold count
  split
  · exact Emit.failed_le _
  · exact Nat.le_refl _

end PublishLabel

/-! ## The batch of a tick -/

/-- What the sink is called with, if it is called. -/
def emitCall (input : TickInput Entropy) (ids : List ℕ) : Option EmitCall :=
  let kept := ids.filter fun idx => idx < U16_BOUND
  if kept = [] ∧ ids ≠ [] then none
  else some ⟨kept.map fun idx => ⟨idx, input.sinceEpoch / 1000000 % 2 ^ 64 % 2 ^ 32, .one⟩,
    input.sinceEpoch, input.sink⟩

theorem publishSpikes_emitCall (input : TickInput Entropy) (call : StepCall) (network : Network)
    (ids : List ℕ) (stats : RuntimeStats) (diagnostics : TickDiagnostics) :
    (publishSpikes input call network ids stats diagnostics).emitted = emitCall input ids := by
  have hpublished := (publishSpikes_emitted input stats diagnostics call network ids).1
  rw [collectSpikes_eq] at hpublished
  unfold emitCall
  simpa using hpublished

/-- The call of a tick is made of the ids alone. -/
theorem runTickPublished_emitted (nm : Neuromod Network Entropy) (fl : ℚ → ℚ)
    (d : TickLoop Network) (input : TickInput Entropy) :
    let t := (runTickPublished nm fl d input).1
    t.emitted = t.spikeIds.bind (emitCall input) := by
  intro t
  let i := ingest d input
  let a := advance nm d input i.packet i.stats i.diagnostics
  have hstepped : t.stepped = a.stepped := rfl
  have hemitted : t.emitted = a.emitted := rfl
  unfold TickTrace.spikeIds
  rw [hstepped, hemitted]
  rcases advance_cases nm d input i.packet i.stats i.diagnostics with
    ⟨offender, -, ha⟩ | ⟨-, ⟨e, -, ha⟩ | ⟨ids, -, ha⟩⟩
  · rw [show a = _ from ha]
    rfl
  · rw [show a = _ from ha]
    rfl
  · rw [show a = _ from ha, publishSpikes_emitCall, (publishSpikes_call input _ _ _ _ ids).1]
    rfl

/-- What `emit` owes the wire for the call of a tick is what is due for its ids. -/
theorem owed_emitCall (policy : Bool) (input : TickInput Entropy) (ids : List ℕ) :
    (emitCall input ids).bind (fun call => ZmqSpikeSink.owed policy call.spikes call.batchTime) =
      wireBatch policy input.sinceEpoch ids := by
  unfold emitCall wireBatch ZmqSpikeSink.owed
  dsimp only
  by_cases hkept : (ids.filter fun idx => decide (idx < U16_BOUND)) = []
  · rw [hkept]
    by_cases hids : ids = []
    · subst hids
      cases policy <;> rfl
    · rw [if_pos ⟨rfl, hids⟩, if_pos ⟨rfl, .inl hids⟩]
      rfl
  · rw [if_neg fun h => hkept h.1, if_neg fun h => hkept h.1, Option.bind_some, if_neg]
    rintro ⟨hnil, -⟩
    exact hkept (List.map_eq_nil_iff.1 hnil)

/-! ## A step -/

section Step

variable {nm : Neuromod Network Entropy} {fl : ℚ → ℚ} {toVec : SpikeBatch → Except String Frame}

/-- The kinds of steps. -/
inductive Publishes (nm : Neuromod Network Entropy) (fl : ℚ → ℚ)
    (toVec : SpikeBatch → Except String Frame) (p : Publishing Network) :
    PublishLabel Entropy Frame → Publishing Network → Prop where
  | ticked (input : TickInput Entropy) (socket : SocketAnswer) (emit : Option (Emit Frame))
      (hemit : p.emit toVec socket (runTickPublished nm fl p.daemon input).1 = emit)
      (hresult : ∀ e ∈ emit, e.result = input.sink) :
      Publishes nm fl toVec p
        (.ticked input socket (runTickPublished nm fl p.daemon input).1 emit)
        ⟨(runTickPublished nm fl p.daemon input).2, (emit.map Emit.sink).getD p.sink⟩
  | other (st : BoundedIngress.Step) :
      Publishes nm fl toVec p (.other st)
        ⟨{ p.daemon with ingress := p.daemon.ingress.perform st }, p.sink⟩

theorem step_tick {p p' : Publishing Network} {input : TickInput Entropy} {socket : SocketAnswer}
    {l : PublishLabel Entropy Frame} (h : p.step nm fl toVec (.tick input socket) = some (l, p')) :
    ∃ emit, p.emit toVec socket (runTickPublished nm fl p.daemon input).1 = emit ∧
      (∀ e ∈ emit, e.result = input.sink) ∧
      l = .ticked input socket (runTickPublished nm fl p.daemon input).1 emit ∧
      p' = ⟨(runTickPublished nm fl p.daemon input).2, (emit.map Emit.sink).getD p.sink⟩ := by
  unfold Publishing.step at h
  dsimp only at h
  split at h
  · next hnone =>
    cases h
    exact ⟨none, hnone, nofun, rfl, rfl⟩
  · next e hsome =>
    split at h
    · next hresult =>
      cases h
      refine ⟨some e, hsome, ?_, rfl, rfl⟩
      rintro e' ⟨⟩
      exact hresult
    · cases h

theorem publishes_of_step {p p' : Publishing Network} {a : PublishAction Entropy}
    {l : PublishLabel Entropy Frame} (h : p.step nm fl toVec a = some (l, p')) :
    Publishes nm fl toVec p l p' := by
  cases a with
  | tick input socket =>
    obtain ⟨emit, hemit, hresult, rfl, rfl⟩ := step_tick h
    exact .ticked input socket emit hemit hresult
  | other st =>
    cases h
    exact .other st

/-- The frame of a step is the due one. -/
theorem Publishes.frame {p p' : Publishing Network} {l : PublishLabel Entropy Frame}
    (h : Publishes nm fl toVec p l p') : l.frame? = l.dueFrame toVec p.sink.sendEmptyBatches := by
  cases h with
  | other st => rfl
  | ticked input socket emit hemit hresult =>
    let t := (runTickPublished nm fl p.daemon input).1
    have hdue : PublishLabel.dueFrame toVec p.sink.sendEmptyBatches (.ticked input socket t emit) =
        t.emitted.bind fun call => (p.sink.emit toVec call.spikes call.batchTime socket).handed := by
      show (t.spikeIds.bind (wireBatch p.sink.sendEmptyBatches input.sinceEpoch)).bind
        (ZmqSpikeSink.frameOf toVec socket) = _
      have hcall : t.emitted = t.spikeIds.bind (emitCall input) :=
        runTickPublished_emitted nm fl p.daemon input
      rw [hcall, ← funext (owed_emitCall p.sink.sendEmptyBatches input), ← Option.bind_assoc,
        Option.bind_assoc]
      congr 1
      funext call
      exact (p.sink.emit_handed call.spikes call.batchTime socket).symm
    rw [hdue]
    have hemit : t.emitted.map (fun call => p.sink.emit toVec call.spikes call.batchTime socket) =
        emit := hemit
    subst hemit
    cases t.emitted <;> rfl

/-- What a step adds to the counters of the daemon and of the sink. -/
structure Ships (p : Publishing Network) (l : PublishLabel Entropy Frame)
    (p' : Publishing Network) : Prop where
  policy : p'.sink.sendEmptyBatches = p.sink.sendEmptyBatches
  ticks : Grows p.daemon.stats.ticks
    (l.count Emit.sent + l.count Emit.suppressed + l.count Emit.unsent + l.lost) p'.daemon.stats.ticks
  emitErrors : Grows p.daemon.stats.emitErrors (l.count Emit.failed + l.count Emit.unsent)
    p'.daemon.stats.emitErrors
  attempted : Grows p.sink.stats.attempted (l.count Emit.sent) p'.sink.stats.attempted
  suppressed : Grows p.sink.stats.suppressed (l.count Emit.suppressed) p'.sink.stats.suppressed
  failed : Grows p.sink.stats.failed (l.count Emit.failed) p'.sink.stats.failed
  once : l.count Emit.sent + l.count Emit.suppressed + l.count Emit.unsent + l.lost ≤ l.tick

theorem Publishes.ships {p p' : Publishing Network} {l : PublishLabel Entropy Frame}
    (h : Publishes nm fl toVec p l p') : Ships p l p' := by
  cases h with
  | other st => exact ⟨rfl, .refl _, .refl _, .refl _, .refl _, .refl _, Nat.le_refl 0⟩
  | ticked input socket emit hemit hresult =>
    let t := (runTickPublished nm fl p.daemon input).1
    obtain ⟨hadds, hcalled⟩ := runTick_adds nm fl p.daemon input
    have hticks : Grows p.daemon.stats.ticks t.stepSucceeded.toNat
        (runTickPublished nm fl p.daemon input).2.stats.ticks := hadds.ticks
    have herrors : Grows p.daemon.stats.emitErrors t.emitFailed.toNat
        (runTickPublished nm fl p.daemon input).2.stats.emitErrors := hadds.emitErrors
    have hcalled : t.emitCalled.toNat + t.lostAll.toNat = t.stepSucceeded.toNat := hcalled
    have honce : t.emitCalled.toNat + t.lostAll.toNat ≤ 1 := hcalled ▸ Bool.toNat_le _
    rw [← hcalled] at hticks
    have hcall : t.emitted = t.spikeIds.bind (emitCall input) :=
      runTickPublished_emitted nm fl p.daemon input
    have hemit : t.emitted.map (fun call => p.sink.emit toVec call.spikes call.batchTime socket) =
        emit := hemit
    cases he : t.emitted with
    | none =>
      rw [he] at hemit
      subst hemit
      have hnone : t.emitCalled = false := by
        unfold TickTrace.emitCalled
        rw [he]
        rfl
      have hfine : t.emitFailed = false := by
        unfold TickTrace.emitFailed
        rw [he]
      rw [hnone] at hticks honce
      rw [hfine] at herrors
      exact ⟨rfl, hticks, herrors, .refl _, .refl _, .refl _, honce⟩
    | some call =>
      rw [he, Option.map_some] at hemit
      subst hemit
      have hfollows := p.sink.emit_follows toVec call.spikes call.batchTime socket
      have hanswer : (p.sink.emit toVec call.spikes call.batchTime socket).result = input.sink :=
        hresult _ rfl
      have hsink : call.result = input.sink := by
        rw [he] at hcall
        obtain ⟨ids, -, hids⟩ := Option.bind_eq_some_iff.1 hcall.symm
        unfold emitCall at hids
        dsimp only at hids
        split at hids
        · cases hids
        · cases hids
          rfl
      generalize p.sink.emit toVec call.spikes call.batchTime socket = e at hfollows hanswer
      have hsome : t.emitCalled.toNat = 1 := by
        unfold TickTrace.emitCalled
        rw [he]
        rfl
      have hfailed : t.emitFailed = e.errored := by
        unfold TickTrace.emitFailed Emit.errored
        rw [he, hanswer, ← hsink]
        obtain ⟨spikes, batchTime, result⟩ := call
        cases result <;> rfl
      rw [hsome] at honce
      rw [hsome, ← e.total] at hticks
      have honce : e.sent.toNat + e.suppressed.toNat + e.unsent.toNat + t.lostAll.toNat ≤ 1 := by
        rw [e.total]
        exact honce
      rw [hfailed, ← e.errors] at herrors
      exact ⟨hfollows.policy, hticks, herrors, hfollows.attempted, hfollows.suppressed,
        hfollows.failed, honce⟩

end Step

/-! ## Runs -/

/-- The frames that a run handed to the socket, in order. -/
def frames (trace : List (PublishLabel Entropy Frame × Publishing Network)) : List Frame :=
  Run.observe PublishLabel.frame? trace

/-- All spikes carry the time of their batch, and a channel that fits the wire type. -/
def Aligned (b : SpikeBatch) : Prop :=
  ∀ s ∈ b.spikes, s.time = b.batchId % 2 ^ 32 ∧ s.channel < U16_BOUND

theorem aligned_wireBatch {policy : Bool} {sinceEpoch : Duration} {ids : List ℕ} {b : SpikeBatch}
    (h : wireBatch policy sinceEpoch ids = some b) : Aligned b := by
  unfold wireBatch at h
  dsimp only at h
  split at h
  · cases h
  · cases h
    intro s hs
    obtain ⟨idx, hidx, rfl⟩ := List.mem_map.1 hs
    exact ⟨rfl, of_decide_eq_true (List.mem_filter.1 hidx).2⟩

section Books

variable {nm : Neuromod Network Entropy} {fl : ℚ → ℚ} {toVec : SpikeBatch → Except String Frame}

/-- The books of the two, after a run. -/
structure Shipped (policy : Bool) (trace : List (PublishLabel Entropy Frame × Publishing Network))
    (p : Publishing Network) : Prop where
  policy : p.sink.sendEmptyBatches = policy
  ticks : p.daemon.stats.ticks = Run.total (·.count Emit.sent) trace +
    Run.total (·.count Emit.suppressed) trace + Run.total (·.count Emit.unsent) trace +
    Run.total (·.lost) trace
  emitErrors : p.daemon.stats.emitErrors = Run.total (·.count Emit.failed) trace +
    Run.total (·.count Emit.unsent) trace
  attempted : p.sink.stats.attempted = Run.total (·.count Emit.sent) trace
  suppressed : p.sink.stats.suppressed = Run.total (·.count Emit.suppressed) trace
  failed : p.sink.stats.failed = Run.total (·.count Emit.failed) trace
  bound : p.daemon.stats.ticks ≤ Run.total (·.tick) trace

theorem Grows.eq {x y z k : ℕ} (h : Grows x k y) (hx : x = z) (hlt : z + k < 2 ^ 64) :
    y = z + k := by
  subst hx
  exact h hlt

theorem Shipped.concat {policy : Bool} {trace : List (PublishLabel Entropy Frame × Publishing Network)}
    {p p' : Publishing Network} {l : PublishLabel Entropy Frame} (h : Shipped policy trace p)
    (hs : Ships p l p') (hlen : Run.total (·.tick) trace + l.tick < 2 ^ 64) :
    Shipped policy (trace ++ [(l, p')]) p' := by
  have hticks := h.ticks
  have hbound := h.bound
  have honce := hs.once
  have hfailed := l.failed_le
  have hfailures : Run.total (·.count Emit.failed) trace ≤ Run.total (·.count Emit.sent) trace :=
    Run.total_mono PublishLabel.failed_le trace
  have hticks' := hs.ticks.eq h.ticks (by omega)
  have herrors' := hs.emitErrors.eq h.emitErrors (by omega)
  have hattempted' := hs.attempted.eq h.attempted (by omega)
  have hsuppressed' := hs.suppressed.eq h.suppressed (by omega)
  have hfailed' := hs.failed.eq h.failed (by omega)
  refine ⟨hs.policy.trans h.policy, ?_, ?_, ?_, ?_, ?_, ?_⟩
  · simp only [Run.total_concat]
    omega
  · simp only [Run.total_concat]
    omega
  · rw [Run.total_concat]
    exact hattempted'
  · rw [Run.total_concat]
    exact hsuppressed'
  · rw [Run.total_concat]
    exact hfailed'
  · rw [Run.total_concat]
    dsimp only
    omega

/-- Every frame that a step sends is the one that is due, and encodes an aligned batch. -/
theorem Publishes.aligned {p p' : Publishing Network} {l : PublishLabel Entropy Frame}
    (h : Publishes nm fl toVec p l p') {frame : Frame} (hframe : l.frame? = some frame) :
    ∃ b, toVec b = .ok frame ∧ Aligned b := by
  rw [h.frame] at hframe
  unfold PublishLabel.dueFrame at hframe
  split at hframe
  · obtain ⟨b, hb, hbytes⟩ := Option.bind_eq_some_iff.1 hframe
    obtain ⟨ids, -, hids⟩ := Option.bind_eq_some_iff.1 hb
    refine ⟨b, ?_, aligned_wireBatch hids⟩
    unfold ZmqSpikeSink.frameOf at hbytes
    split at hbytes
    · cases hbytes
    · split at hbytes
      · next payload hok =>
        cases hbytes
        exact hok
      · cases hbytes
  · cases hframe

/-- In every run from the start of the tick loop with fewer than `2 ^ 64` ticks, whatever the
sources, the other threads, the encoder and the socket do: the frames that were handed to the socket are those due for the ids
that the steps returned, one batch a tick at most and in the order of the ticks; the ticks are the
attempted, the suppressed and the unsent batches and those that lost all their spikes; and the
emit errors are the failed and the unsent batches. -/
theorem egress {cfg : DaemonConfig} {ingress : BoundedIngress} {health : HealthMachine}
    {network : Network} {loaded : Option ModelProvenance} {policy : Bool}
    {trace : List (PublishLabel Entropy Frame × Publishing Network)} {p : Publishing Network}
    (hr : Run (Publishing.step nm fl toVec)
      ⟨.enter cfg ingress health network loaded, .withPolicy policy⟩ trace p)
    (hlen : Run.total (·.tick) trace < 2 ^ 64) :
    frames trace = Run.observe (·.dueFrame toVec policy) trace ∧
      (∀ frame ∈ frames trace, ∃ b, toVec b = .ok frame ∧ Aligned b) ∧
      p.sink.stats.attempted = (frames trace).length ∧
      p.daemon.stats.ticks = p.sink.stats.attempted + p.sink.stats.suppressed +
        Run.total (·.count Emit.unsent) trace + Run.total (·.lost) trace ∧
      p.daemon.stats.emitErrors = p.sink.stats.failed + Run.total (·.count Emit.unsent) trace ∧
      p.sink.stats.failed ≤ p.sink.stats.attempted := by
  have hrun : Shipped policy trace p ∧ frames trace = Run.observe (·.dueFrame toVec policy) trace ∧
      ∀ frame ∈ frames trace, ∃ b, toVec b = .ok frame ∧ Aligned b := by
    induction hr with
    | refl => exact ⟨⟨rfl, rfl, rfl, rfl, rfl, rfl, Nat.zero_le _⟩, rfl, nofun⟩
    | @snoc trace p p' l a hr hs ih =>
      rw [Run.total_concat] at hlen
      obtain ⟨hshipped, hframes, haligned⟩ := ih (by omega)
      have hpublishes := publishes_of_step hs
      refine ⟨hshipped.concat hpublishes.ships hlen, ?_, ?_⟩
      · unfold frames at hframes ⊢
        rw [Run.observe_concat, Run.observe_concat, hframes, hpublishes.frame, hshipped.policy]
      · intro frame hmem
        unfold frames at haligned hmem
        rw [Run.observe_concat, List.mem_append, Option.mem_toList] at hmem
        rcases hmem with hold | hnew
        · exact haligned frame hold
        · exact hpublishes.aligned hnew
  obtain ⟨hshipped, hframes, haligned⟩ := hrun
  have hsent : (frames trace).length = Run.total (·.count Emit.sent) trace := by
    unfold frames
    rw [Run.length_observe, funext PublishLabel.frame?_isSome]
  have hticks := hshipped.ticks
  have herrors := hshipped.emitErrors
  have hfailures : Run.total (·.count Emit.failed) trace ≤ Run.total (·.count Emit.sent) trace :=
    Run.total_mono PublishLabel.failed_le trace
  rw [← hshipped.attempted, ← hshipped.suppressed] at hticks
  rw [← hshipped.failed] at herrors hfailures
  rw [← hshipped.attempted] at hfailures hsent
  exact ⟨hframes, haligned, hsent.symm, hticks, herrors, hfailures⟩

end Books

/-- Five milliseconds after the epoch, with what the sink answers. -/
def TickInput.answered (sink : Except String Unit) : TickInput Unit :=
  { TickInput.idle with sinceEpoch := 5000000, sink := sink }

/-- A batch that is sent, and one that the socket refuses. -/
def twoBatches : List (PublishAction Unit) :=
  [.tick (.answered (.ok ())) .sent,
    .tick (.answered (.error "ZMQ PUB send failed: EAGAIN")) (.failed "EAGAIN")]

theorem egress_two_batches :
    ∃ (trace : List (PublishLabel Unit SpikeBatch × Publishing (ℕ × ℕ × ℕ)))
      (p : Publishing (ℕ × ℕ × ℕ)),
      Run (Publishing.step (.firing [1, 0]) id .ok) ⟨.quiet id, .withPolicy false⟩ trace p ∧
        frames trace = List.replicate 2 ⟨5, 5000000, [⟨1, 5, .one⟩, ⟨0, 5, .one⟩]⟩ ∧
        p.sink.stats.attempted = 2 ∧ p.daemon.stats.emitErrors = p.sink.stats.failed := by
  have hrun : (Run.exec (Publishing.step (.firing [1, 0]) id
      (.ok : SpikeBatch → Except String SpikeBatch)) twoBatches
      ([], ⟨.quiet id, .withPolicy false⟩)).map
      (fun r => (frames r.1, Run.total (·.count Emit.unsent) r.1, Run.total (·.tick) r.1)) =
        some (List.replicate 2 ⟨5, 5000000, [⟨1, 5, .one⟩, ⟨0, 5, .one⟩]⟩, 0, 2) := by
    decide +kernel
  obtain ⟨⟨trace, p⟩, hx, hm⟩ := Option.map_eq_some_iff.1 hrun
  injection hm with hframes hm
  injection hm with hunsent hticks
  have hr := Run.of_exec .refl hx
  have hlen : Run.total (·.tick) trace < 2 ^ 64 := lt_of_eq_of_lt hticks (by decide)
  obtain ⟨-, -, hattempted, -, herrors, -⟩ := egress hr hlen
  rw [hunsent] at herrors
  refine ⟨trace, p, hr, hframes, ?_, herrors⟩
  rw [hattempted, hframes]
  rfl

end Brainstem.Daemon
