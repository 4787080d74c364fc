import Brainstem.Runtime.Agreement

/-!
# Exactly once across crashes

A `Life` is one process: it builds a harness on the packet list and on the store the
previous process left, boots once, and makes calls until it dies, between two calls or
inside one at a fault point.  `History.run` strings any number of lives together.

`Delivered packets outs` is the purpose of the whole component: `outs` is what publishing
the first `outs.length` packets once each, in order, gives.  `LifeInv` ties it to the
source position, the memory and the store, and every call keeps it.

    Delivered packets (History.run J packets lives).published        (historyInv_run)
-/

namespace Brainstem.Runtime

open RuntimeHarness

/-! ## Lives -/

/-- What a process may do between its boot and its death. -/
inductive Op where
  | armFault (point : FaultPoint)
  | runTick
  | shutdown
  deriving DecidableEq, Repr

def Op.call : Op → Call
  | .armFault point => .armFault point
  | .runTick => .runTick
  | .shutdown => .shutdown

/-- One process: the clock seed and the fault given to its builder, and the calls it makes
after its boot and before its death. -/
structure Life where
  seed : UInt64
  armed : Option FaultPoint
  ops : List Op
  deriving DecidableEq, Repr

/-- The harness of a process at its death. -/
def Life.harness (J : SerdeJson) (packets : List SequencedIngress) (store : DurableStore)
    (life : Life) : RuntimeHarness :=
  (build life.seed store life.armed packets).performAll J (.boot :: life.ops.map Op.call)

/-- The store, and the outputs of all lives so far. -/
structure History where
  store : DurableStore
  published : List CommittedOutput
  deriving DecidableEq, Repr

namespace History

def start : History := ⟨.empty, []⟩

def live (J : SerdeJson) (packets : List SequencedIngress) (w : History) (life : Life) : History :=
  let h := life.harness J packets w.store
  ⟨h.store, w.published ++ h.published⟩

def run (J : SerdeJson) (packets : List SequencedIngress) (lives : List Life) : History :=
  lives.foldl (live J packets) start

/-- A process that nothing disturbs, for `n` ticks. -/
def crashFree (seed : UInt64) (n : Nat) : Life := ⟨seed, none, List.replicate n .runTick⟩

end History

/-- What an output says about its packet; the session and the clock depend on the life. -/
def CommittedOutput.observed (out : CommittedOutput) : UInt64 × UInt64 × List UInt16 :=
  (out.tickSeq, out.ingressSeq, out.spikeIds)

/-! ## What a history has to be -/

/-- The sequence number of the last output, 0 if there is none. -/
def lastSeq (outs : List CommittedOutput) : UInt64 := (outs.getLast?.map (·.ingressSeq)).getD 0

/-- `outs` publishes the first `outs.length` packets, once each and in order. -/
structure Delivered (packets : List SequencedIngress) (outs : List CommittedOutput) : Prop where
  within : outs.length ≤ packets.length
  ingress : outs.map (·.ingressSeq) = (packets.take outs.length).map (·.seq)
  ticks : outs.map (·.tickSeq.toNat) = List.range' 1 outs.length
  sessions : outs.Pairwise fun a b => a.sessionId ≤ b.sessionId
  spikes : outs.map (fun out => Except.ok out.spikeIds) =
    (packets.take outs.length).map fun p => (FakeCore.default.step p.stimuli).1

/-- Sequence numbers as the source hands them out. -/
structure Sequenced (packets : List SequencedIngress) : Prop where
  increasing : packets.Pairwise fun p q => p.seq < q.seq
  positive : ∀ p ∈ packets, 1 ≤ p.seq

variable {packets : List SequencedIngress} {outs before : List CommittedOutput}

theorem Delivered.nil : Delivered packets [] :=
  ⟨Nat.zero_le _, rfl, rfl, .nil, rfl⟩

/-- Publishing the next packet as the next tick. -/
theorem Delivered.snoc (hd : Delivered packets outs) {p : SequencedIngress} {out : CommittedOutput}
    (hp : packets[outs.length]? = some p) (hseq : out.ingressSeq = p.seq)
    (htick : out.tickSeq.toNat = outs.length + 1)
    (hspikes : (FakeCore.default.step p.stimuli).1 = .ok out.spikeIds)
    (hses : ∀ o ∈ outs, o.sessionId ≤ out.sessionId) : Delivered packets (outs ++ [out]) := by
  have hlen : (outs ++ [out]).length = outs.length + 1 := by simp
  have hlt := (List.getElem?_eq_some_iff.1 hp).1
  have htake : packets.take (outs.length + 1) = packets.take outs.length ++ [p] := by
    rw [List.take_add_one, hp]; rfl
  refine ⟨by omega, ?_, ?_, ?_, ?_⟩
  · rw [hlen, htake, List.map_append, List.map_append, hd.ingress, List.map_singleton,
      List.map_singleton, hseq]
  · rw [hlen, List.range'_concat, List.map_append, hd.ticks, List.map_singleton, htick, Nat.mul_comm,
      Nat.mul_one, Nat.add_comm]
  · refine List.pairwise_append.2 ⟨hd.sessions, List.pairwise_singleton _ _, ?_⟩
    simpa using hses
  · rw [hlen, htake, List.map_append, List.map_append, hd.spikes, List.map_singleton,
      List.map_singleton, hspikes]

/-- The high-water mark separates the packets that were published from the others. -/
theorem Delivered.le_lastSeq_iff (hseq : Sequenced packets) (hd : Delivered packets outs) {j : Nat}
    {p : SequencedIngress} (hp : packets[j]? = some p) : p.seq ≤ lastSeq outs ↔ j < outs.length := by
  obtain ⟨hj, rfl⟩ := List.getElem?_eq_some_iff.1 hp
  rcases List.eq_nil_or_concat outs with rfl | ⟨outs', out, rfl⟩
  · have hpos := hseq.positive _ (List.getElem_mem hj)
    simp only [lastSeq, List.getLast?_nil, Option.map_none, Option.getD_none, List.length_nil,
      Nat.not_lt_zero, iff_false, UInt64.not_le]
    exact UInt64.lt_of_lt_of_le (by decide) hpos
  · have hlen : (outs'.concat out).length = outs'.length + 1 := by simp
    have hk : outs'.length < packets.length := by have := hd.within; omega
    have hlast : lastSeq (outs'.concat out) = packets[outs'.length].seq := by
      have hget := congrArg (fun l => l[outs'.length]?) hd.ingress
      simpa [lastSeq, hk] using hget
    have hsorted := List.pairwise_iff_getElem.1 hseq.increasing
    rw [hlast, hlen]
    constructor
    · intro hle
      by_contra hge
      exact UInt64.not_lt.2 hle (hsorted _ _ hk hj (by omega))
    · intro hlt
      rcases Nat.lt_or_eq_of_le (Nat.le_of_lt_succ hlt) with hlt | rfl
      · exact UInt64.le_of_lt (hsorted _ _ hj hk hlt)
      · exact UInt64.le_refl _

/-- The `i`-th output, read off packet `i`. -/
theorem Delivered.getElem (hd : Delivered packets outs) {i : Nat} (hi : i < outs.length)
    (hp : i < packets.length) : outs[i].tickSeq.toNat = i + 1 ∧ outs[i].ingressSeq = packets[i].seq ∧
      Except.ok outs[i].spikeIds = (FakeCore.default.step packets[i].stimuli).1 := by
  have ht := congrArg (fun l => l[i]?) hd.ticks
  have hs := congrArg (fun l => l[i]?) hd.ingress
  have hk := congrArg (fun l => l[i]?) hd.spikes
  simp [hi, hp] at ht hs hk
  exact ⟨by omega, hs, hk⟩

/-- Two histories of the same packets agree as far as both go. -/
theorem Delivered.observed_prefix {outs' : List CommittedOutput} (hd : Delivered packets outs)
    (hd' : Delivered packets outs') (hle : outs.length ≤ outs'.length) :
    outs.map CommittedOutput.observed <+: outs'.map CommittedOutput.observed := by
  refine List.prefix_iff_getElem.2 ⟨by simpa using hle, fun i hi => ?_⟩
  rw [List.length_map] at hi
  have hi' : i < outs'.length := by omega
  have hp : i < packets.length := by have := hd.within; omega
  obtain ⟨ht, hs, hk⟩ := hd.getElem hi hp
  obtain ⟨ht', hs', hk'⟩ := hd'.getElem hi' hp
  have htick : outs[i].tickSeq = outs'[i].tickSeq := UInt64.ext_toNat (by omega)
  have hspikes : outs[i].spikeIds = outs'[i].spikeIds := by
    injection hk.trans hk'.symm
  simp only [List.getElem_map, CommittedOutput.observed, htick, hs, hs', hspikes]

/-! ## Store and memory along a life -/

/-- `s` has committed exactly `outs`. -/
structure Commits (s : DurableState) (outs : List CommittedOutput) : Prop where
  tick : s.committedTickSeq.toNat = outs.length
  ingress : s.committedIngressSeq = lastSeq outs
  session : ∀ o ∈ outs, o.sessionId ≤ s.lastSessionId

/-- What the store may hold once `outs` is published. -/
inductive StoreOf (J : SerdeJson) (outs : List CommittedOutput) : DurableStore → Prop where
  | empty (hnil : outs = []) : StoreOf J outs .empty
  | holds {store : DurableStore} (s : DurableState) (hs : Holds J store s) (hc : Commits s outs) :
      StoreOf J outs store
  | poisoned : StoreOf J outs (.malformed INJECTED_MALFORMED)

/-- The invariant of one life, `before` being what the earlier lives published. -/
structure LifeInv (J : SerdeJson) (packets : List SequencedIngress) (before : List CommittedOutput)
    (h : RuntimeHarness) : Prop where
  delivered : Delivered packets (before ++ h.published)
  bound : (before ++ h.published).length ≤ 64
  store : StoreOf J (before ++ h.published) h.store
  /-- a live harness is never ahead of its source: what it skipped was published -/
  running : h.live = true → Agrees J h ∧ Commits h.durable (before ++ h.published) ∧
    ∃ j, j ≤ (before ++ h.published).length ∧ j ≤ h.stepsTaken.toNat ∧
      h.source.packets = packets.drop j

variable {J : SerdeJson} {h h' : RuntimeHarness}

theorem Commits.of_sameCommit {s t : DurableState} (hc : Commits t outs) (hst : SameCommit s t) :
    Commits s outs := by
  obtain ⟨hses, htick, hing⟩ := hst
  exact ⟨by rw [htick, hc.tick], by rw [hing, hc.ingress], fun o ho => hses ▸ hc.session o ho⟩

theorem RuntimeHarness.Unpublished.storeOf (hu : Unpublished J h h') (hc : Commits h.durable outs) :
    StoreOf J outs h'.store := by
  obtain ⟨s, hs, hsame⟩ := hu.store
  exact .holds s hs (hc.of_sameCommit hsame)

theorem Commits.snoc (hc : Commits h.durable outs) (ha : Agrees J h) {p : SequencedIngress}
    {out : CommittedOutput} (hp : Published J h p out h') :
    Commits (h.committedState out.tickSeq p) (outs ++ [out]) where
  tick := by simp [committedState, hp.tick, hc.tick]
  ingress := by simp [committedState, lastSeq, hp.ingress]
  session := by
    intro o ho
    rcases List.mem_append.1 ho with ho | ho
    · exact hc.session o ho
    · rw [List.mem_singleton.1 ho, hp.session]
      exact UInt64.le_of_eq ha.session.symm

/-- Where a live harness that finds a packet at the head of its source stands. -/
theorem head_of_drop {j : Nat} {p : SequencedIngress} {rest : List SequencedIngress}
    (hsrc : packets.drop j = p :: rest) : packets[j]? = some p ∧ rest = packets.drop (j + 1) := by
  refine ⟨?_, ?_⟩
  · rw [← List.head?_drop, hsrc, List.head?_cons]
  · rw [← List.tail_drop, hsrc, List.tail_cons]

theorem LifeInv.after_runTick_live (hJ : J.RoundTrips) (hseq : Sequenced packets)
    (hi : LifeInv J packets before h) (hlive : h.live = true) :
    LifeInv J packets before ((runTick J).exec h).2 := by
  obtain ⟨ha, hc, j, hj, hjs, hsrc⟩ := hi.running hlive
  have hnot : ∀ {h' : RuntimeHarness} {P : Prop}, h'.Stopped → h'.live = true → P := by
    intro h' P hs hl
    rw [hs.1] at hl
    cases hl
  cases runTick_effect hJ ha hlive with
  | stopped hs hu =>
    have hp := hu.published
    exact ⟨by rw [hp]; exact hi.delivered, by rw [hp]; exact hi.bound,
      by rw [hp]; exact hu.storeOf hc, hnot hs⟩
  | limited hl ha' hu hd hsrc' hsteps =>
    have hp := hu.published
    refine ⟨by rw [hp]; exact hi.delivered, by rw [hp]; exact hi.bound,
      by rw [hp]; exact hu.storeOf hc, fun _ => ⟨ha', by rw [hd, hp]; exact hc, j, ?_⟩⟩
    have := hi.bound
    rw [hp, hsrc', hsrc]
    exact ⟨hj, by omega, rfl⟩
  | skipped hl ha' hu hd hsrc' hreplay hsteps =>
    have hp := hu.published
    refine ⟨by rw [hp]; exact hi.delivered, by rw [hp]; exact hi.bound,
      by rw [hp]; exact hu.storeOf hc, fun _ => ⟨ha', by rw [hd, hp]; exact hc, ?_⟩⟩
    rw [hp, hsrc', hsrc]
    rcases hdrop : packets.drop j with _ | ⟨p, rest⟩
    · exact ⟨j, hj, by omega, hdrop.symm⟩
    · obtain ⟨hget, hrest⟩ := head_of_drop hdrop
      rw [hsrc, hdrop] at hreplay
      have hle : p.seq ≤ lastSeq (before ++ h.published) := hc.ingress ▸ hreplay p rfl
      have := (hi.delivered.le_lastSeq_iff hseq hget).1 hle
      exact ⟨j + 1, this, by omega, hrest⟩
  | committed p rest out hsrc' hfresh hpub hnext hsteps =>
    obtain ⟨hget, hrest⟩ := head_of_drop (hsrc.symm.trans hsrc')
    -- the packet was not published before, so the source stands exactly at the history's end
    have hge : ¬j < (before ++ h.published).length := by
      rw [← hi.delivered.le_lastSeq_iff hseq hget, ← hc.ingress, UInt64.not_le]
      exact hfresh
    have hj : j = (before ++ h.published).length := by omega
    have happ : before ++ ((runTick J).exec h).2.published = before ++ h.published ++ [out] := by
      rw [hpub.published, List.append_assoc]
    have hc' := hc.snoc ha hpub
    have hses : ∀ o ∈ before ++ h.published, o.sessionId ≤ out.sessionId := by
      rw [hpub.session, ← ha.session]
      exact hc.session
    refine ⟨?_, ?_, ?_, fun hl => ?_⟩
    · rw [happ]
      exact hi.delivered.snoc (hj ▸ hget) hpub.ingress (by rw [hpub.tick, hc.tick]) hpub.spikes hses
    · rw [happ, List.length_append, List.length_singleton]
      omega
    · rw [happ]
      exact .holds _ hpub.store hc'
    · rcases hnext with hs | ⟨-, ha', hd', hsrc''⟩
      · exact hnot hs hl
      · rw [happ, hd']
        refine ⟨ha', hc', j + 1, ?_, ?_, hsrc''.trans hrest⟩
        · rw [List.length_append, List.length_singleton]
          omega
        · rw [hsteps.2 hl]
          omega

theorem LifeInv.after_runTick (hJ : J.RoundTrips) (hseq : Sequenced packets)
    (hi : LifeInv J packets before h) : LifeInv J packets before ((runTick J).exec h).2 := by
  cases hlive : h.live with
  | true => exact LifeInv.after_runTick_live hJ hseq hi hlive
  | false => rw [runTick_of_not_live hlive]; exact hi

theorem LifeInv.after_shutdown (hi : LifeInv J packets before h) :
    LifeInv J packets before (RuntimeHarness.shutdown.exec h).2 := by
  obtain ⟨hs, -, hp, -, hstore⟩ := shutdown_effect h
  refine ⟨by rw [hp]; exact hi.delivered, by rw [hp]; exact hi.bound,
    by rw [hp, hstore]; exact hi.store, fun hl => ?_⟩
  rw [hs.1] at hl
  cases hl

theorem LifeInv.after_op (hJ : J.RoundTrips) (hseq : Sequenced packets) (hi : LifeInv J packets before h)
    (op : Op) : LifeInv J packets before (h.perform J op.call) := by
  cases op with
  | armFault point =>
    exact { hi with running := fun hl => ⟨{ (hi.running hl).1 with }, (hi.running hl).2⟩ }
  | runTick => exact LifeInv.after_runTick hJ hseq hi
  | shutdown => exact LifeInv.after_shutdown hi

theorem LifeInv.after_ops (hJ : J.RoundTrips) (hseq : Sequenced packets) (ops : List Op)
    (hi : LifeInv J packets before h) :
    LifeInv J packets before (h.performAll J (ops.map Op.call)) := by
  induction ops generalizing h with
  | nil => exact hi
  | cons op ops ih => exact ih (LifeInv.after_op hJ hseq hi op)

/-! ## From one life to the next -/

/-- What the boot of a new process starts from. -/
structure HistoryInv (J : SerdeJson) (packets : List SequencedIngress) (w : History) : Prop where
  delivered : Delivered packets w.published
  bound : w.published.length ≤ 64
  store : StoreOf J w.published w.store

theorem poisoned_not_resumed {s : DurableState} :
    ¬Resumes J (.malformed INJECTED_MALFORMED) s := by
  have hload : (DurableStore.malformed INJECTED_MALFORMED).load J =
      .error "malformed checkpoint: missing magic" := rfl
  rintro (hl | ⟨_, _, hl, _, _⟩) <;> rw [hload] at hl <;> cases hl

/-- The session moves on, the committed numbers stay. -/
theorem StoreOf.resumes {store : DurableStore} {s : DurableState} (hst : StoreOf J outs store)
    (hr : Resumes J store s) : Commits s outs := by
  cases hst with
  | empty hnil =>
    subst hnil
    rcases hr with hl | ⟨t, next, hl, -, -⟩
    · exact ⟨rfl, rfl, by rintro o ⟨⟩⟩
    · cases hl
  | holds t hs hc =>
    rcases hr with hl | ⟨t', next, hl, -, hn⟩ <;> rw [hs.2.1] at hl <;> cases hl
    rw [UInt64.checkedAdd_one_eq_some] at hn
    refine ⟨hc.tick, hc.ingress, fun o ho => UInt64.le_trans (hc.session o ho) ?_⟩
    rw [UInt64.le_iff_toNat_le]
    show _ ≤ next.toNat
    omega
  | poisoned => exact absurd hr poisoned_not_resumed

theorem LifeInv.of_boot (hJ : J.RoundTrips) {w : History} (hw : HistoryInv J packets w) (seed : UInt64)
    (armed : Option FaultPoint) :
    LifeInv J packets w.published ((boot J).exec (build seed w.store armed packets)).2 := by
  have hb := boot_effect hJ (build seed w.store armed packets)
  have hpub : ((boot J).exec (build seed w.store armed packets)).2.published = [] := by
    rcases hb.buffers with ⟨hp, -⟩ | ⟨-, hp, -⟩ <;> exact hp
  have hsrc := hb.input.source
  refine ⟨by rw [hpub, List.append_nil]; exact hw.delivered,
    by rw [hpub, List.append_nil]; exact hw.bound, ?_, fun hl => ?_⟩
  · rw [hpub, List.append_nil]
    rcases hb.store with ⟨-, hs⟩ | ⟨-, hs⟩ | ⟨s, hr, hs, -⟩
    · rw [hs]; exact hw.store
    · rw [hs]; exact .poisoned
    · exact .holds s hs (hw.store.resumes hr)
  · rcases hb.store with ⟨hs, -⟩ | ⟨hs, -⟩ | ⟨s, hr, hs, hs' | ⟨-, ha, hd⟩⟩
    · rw [hs.1] at hl; cases hl
    · rw [hs.1] at hl; cases hl
    · rw [hs'.1] at hl; cases hl
    · refine ⟨ha, ?_, 0, Nat.zero_le _, Nat.zero_le _, by rw [hsrc]; rfl⟩
      rw [hpub, List.append_nil, hd]
      exact hw.store.resumes hr

theorem HistoryInv.after_live (hJ : J.RoundTrips) (hseq : Sequenced packets) {w : History}
    (hw : HistoryInv J packets w) (life : Life) : HistoryInv J packets (w.live J packets life) := by
  have hi : LifeInv J packets w.published (life.harness J packets w.store) :=
    LifeInv.after_ops hJ hseq life.ops (LifeInv.of_boot hJ hw life.seed life.armed)
  exact ⟨hi.delivered, hi.bound, hi.store⟩

theorem historyInv_run (hJ : J.RoundTrips) (hseq : Sequenced packets) (lives : List Life) :
    HistoryInv J packets (History.run J packets lives) := by
  have hstart : HistoryInv J packets .start := ⟨.nil, Nat.zero_le _, .empty rfl⟩
  unfold History.run
  generalize History.start = w at hstart ⊢
  induction lives generalizing w with
  | nil => exact hstart
  | cons life lives ih => exact ih _ (HistoryInv.after_live hJ hseq hstart life)

/-! ## The crash-free history -/

/-- A fault-free tick of a process that stands at the end of the history. -/
theorem LifeInv.crashFree_tick (hJ : J.RoundTrips) (hi : LifeInv J packets [] h) {n : Nat}
    (hn : n < 64) (hp : n < packets.length) (hseq : Sequenced packets)
    (hc : h.live = true ∧ h.injector.armed = none ∧ h.stepsTaken.toNat = n ∧
      h.published.length = n ∧ h.source.packets = packets.drop n) :
    let h' := ((runTick J).exec h).2
    h'.live = true ∧ h'.injector.armed = none ∧ h'.stepsTaken.toNat = n + 1 ∧
      h'.published.length = n + 1 ∧ h'.source.packets = packets.drop (n + 1) := by
  obtain ⟨hlive, harm, hsteps, hlen, hsrc⟩ := hc
  obtain ⟨ha, hcom, -⟩ := hi.running hlive
  have hsrc' : h.source.packets = packets[n] :: packets.drop (n + 1) := by
    rw [hsrc, List.drop_eq_getElem_cons hp]
  have hfresh : h.durable.committedIngressSeq < packets[n].seq := by
    rw [hcom.ingress, ← UInt64.not_le, hi.delivered.le_lastSeq_iff hseq (List.getElem?_eq_getElem hp)]
    simp [hlen]
  have htick : h.durable.committedTickSeq.toNat < 64 := by
    rw [hcom.tick]
    simpa [hlen] using hn
  have h' := runTick_unarmed hJ ha hlive harm hsrc' hfresh (by omega) htick
  rw [hsteps, hlen] at h'
  exact h'

theorem crashFree_zero (seed : UInt64) : (History.crashFree seed 0).harness J packets .empty =
    ((boot J).exec (build seed .empty none packets)).2 := rfl

theorem crashFree_succ (seed : UInt64) (n : Nat) :
    (History.crashFree seed (n + 1)).harness J packets .empty =
      ((runTick J).exec ((History.crashFree seed n).harness J packets .empty)).2 := by
  simp only [Life.harness, History.crashFree, List.replicate_succ', List.map_append,
    performAll, List.foldl_cons, List.foldl_append, List.map_singleton, List.foldl_nil]
  rfl

theorem LifeInv.crashFree (hJ : J.RoundTrips) (hseq : Sequenced packets) (seed : UInt64) (n : Nat) :
    LifeInv J packets [] ((History.crashFree seed n).harness J packets .empty) :=
  LifeInv.after_ops hJ hseq _ (LifeInv.of_boot hJ (w := .start) ⟨.nil, Nat.zero_le _, .empty rfl⟩ seed none)

theorem crashFree_state (hJ : J.RoundTrips) (hseq : Sequenced packets) (seed : UInt64) {n : Nat}
    (hn : n ≤ 64) (hp : n ≤ packets.length) :
    let h := (History.crashFree seed n).harness J packets .empty
    h.live = true ∧ h.injector.armed = none ∧ h.stepsTaken.toNat = n ∧
      h.published.length = n ∧ h.source.packets = packets.drop n := by
  induction n with
  | zero =>
    have hboot := boot_unarmed hJ (h := build seed .empty none packets) rfl ⟨_, .fresh rfl⟩
    rw [crashFree_zero]
    obtain ⟨hl, harm, hst, hpub, hsrc⟩ := hboot
    exact ⟨hl, harm, congrArg UInt32.toNat hst, congrArg List.length hpub,
      congrArg ScriptedSource.packets hsrc⟩
  | succ n ih =>
    rw [crashFree_succ]
    exact LifeInv.crashFree_tick hJ (LifeInv.crashFree hJ hseq seed n) (by omega) (by omega) hseq
      (ih (by omega) (by omega))

theorem runTick_published_le (hJ : J.RoundTrips) (hi : LifeInv J packets before h) :
    h.published.length ≤ ((runTick J).exec h).2.published.length := by
  cases hlive : h.live with
  | false => exact Nat.le_of_eq (by rw [runTick_of_not_live hlive])
  | true =>
    cases runTick_effect hJ (hi.running hlive).1 hlive with
    | stopped _ hu => exact Nat.le_of_eq (congrArg List.length hu.published.symm)
    | limited _ _ hu => exact Nat.le_of_eq (congrArg List.length hu.published.symm)
    | skipped _ _ hu => exact Nat.le_of_eq (congrArg List.length hu.published.symm)
    | committed p rest out _ _ hp => rw [hp.published, List.length_append]; omega

/-- Left alone for `n` ticks, a process publishes at least `k ≤ n` packets, if there are so
many and the step limit allows them. -/
theorem le_crashFree_length (hJ : J.RoundTrips) (hseq : Sequenced packets) (seed : UInt64)
    {k n : Nat} (hk : k ≤ 64) (hp : k ≤ packets.length) (hkn : k ≤ n) :
    k ≤ ((History.crashFree seed n).harness J packets .empty).published.length := by
  obtain ⟨d, rfl⟩ := Nat.exists_eq_add_of_le hkn
  clear hkn
  induction d with
  | zero => exact Nat.le_of_eq (crashFree_state hJ hseq seed hk hp).2.2.2.1.symm
  | succ d ih =>
    rw [← Nat.add_assoc, crashFree_succ]
    exact Nat.le_trans ih (runTick_published_le hJ (LifeInv.crashFree hJ hseq seed (k + d)))

/-- **Exactly once.**  Whatever faults fire and wherever the processes die, what they have
published together is a prefix of the packet list, once each and in order; it is what a
process that nothing disturbs publishes in as many ticks, and the store, unless it was
poisoned, counts exactly it. -/
theorem exactly_once (hJ : J.RoundTrips) (packets : List SequencedIngress)
    (hinc : packets.Pairwise fun p q => p.seq < q.seq) (hpos : ∀ p ∈ packets, 1 ≤ p.seq)
    (lives : List Life) :
    let w := History.run J packets lives
    let k := w.published.length
    k ≤ packets.length ∧
    w.published.map (·.ingressSeq) = (packets.take k).map (·.seq) ∧
    w.published.map (·.tickSeq.toNat) = List.range' 1 k ∧
    w.published.Pairwise (fun a b => a.sessionId ≤ b.sessionId) ∧
    w.published.map (fun out => Except.ok out.spikeIds) =
      (packets.take k).map (fun p => (FakeCore.default.step p.stimuli).1) ∧
    (w.store ≠ .malformed INJECTED_MALFORMED →
      w.store = .empty ∧ k = 0 ∨
      ∃ s, w.store.load J = .ok (some s) ∧ s.committedTickSeq.toNat = k ∧
        s.committedIngressSeq = lastSeq w.published) ∧
    ∀ seed n, k ≤ n → w.published.map CommittedOutput.observed <+:
      (History.run J packets [History.crashFree seed n]).published.map CommittedOutput.observed := by
  intro w k
  have hseq : Sequenced packets := ⟨hinc, hpos⟩
  have hw : HistoryInv J packets w := historyInv_run hJ hseq lives
  have hd := hw.delivered
  refine ⟨hd.within, hd.ingress, hd.ticks, hd.sessions, hd.spikes, fun hne => ?_, fun seed n hkn => ?_⟩
  · have hst := hw.store
    cases hstore : w.store
    rw [hstore] at hst hne
    cases hst with
    | empty hnil => exact .inl ⟨rfl, congrArg List.length hnil⟩
    | holds s hs hc => exact .inr ⟨s, hs.2.1, hc.tick, hc.ingress⟩
    | poisoned => exact absurd rfl hne
  · have hlen := le_crashFree_length hJ hseq seed hw.bound hd.within hkn
    exact hd.observed_prefix (LifeInv.crashFree hJ hseq seed n).delivered hlen

/-- Two crashes while the second packet is in flight, before and after its commit. -/
theorem exactly_once_two_crashes :
    let packets : List SequencedIngress := [⟨3, [F32.one]⟩, ⟨5, [0]⟩, ⟨9, []⟩]
    let w := History.run serdeJson packets
      [⟨1, none, [.runTick, .armFault .coreStepError, .runTick]⟩,
        ⟨2, some (.after .metricPublish), [.runTick, .runTick]⟩]
    w.published.length = 2 ∧ w.published.map (·.ingressSeq) = [3, 5] := by
  intro packets w
  have hlen : w.published.length = 2 := by decide +kernel
  obtain ⟨-, hing, -⟩ := exactly_once serdeJson_roundTrips packets (by decide) (by decide)
    [⟨1, none, [.runTick, .armFault .coreStepError, .runTick]⟩,
      ⟨2, some (.after .metricPublish), [.runTick, .runTick]⟩]
  refine ⟨hlen, hing.trans ?_⟩
  rw [hlen]
  rfl

end Brainstem.Runtime
