import Brainstem.Lib.Run
import Brainstem.Runtime.Effects
import Brainstem.Runtime.Json

/-!
# Replayed and disordered input

Whoever drives the harness may push packets in any order and as often as it likes, to either end
of the source, boot one process twice and start new ones on what the old ones left.  A packet is
published only above the high-water mark, so that over any run

    tick_seq    = base + 1, base + 2, base + 3, ...
    ingress_seq : base < ... < ... < ...                                   (published_in_order)

and a tick answers what it did, unless its process dies right after the commit.
-/

namespace Brainstem.Runtime

/-! ## Driving a harness -/

/-- A call, or a new process on the store that is left. -/
inductive Deed where
  | restart (seed : UInt64) (armed : Option FaultPoint) (packets : List SequencedIngress)
  | call (c : Call)
  deriving DecidableEq, Repr

/-- What a tick answers, and what has been published by a deed. -/
structure Noted where
  answer : Option (Except String TickResult)
  outputs : List CommittedOutput

namespace RuntimeHarness

def undertake (J : SerdeJson) (h : RuntimeHarness) : Deed → Option (Noted × RuntimeHarness)
  | .restart seed armed packets => some (⟨none, []⟩, build seed h.store armed packets)
  | .call .runTick =>
    let r := (runTick J).exec h
    some (⟨some r.1, r.2.published.drop h.published.length⟩, r.2)
  | .call c => some (⟨none, []⟩, h.perform J c)

theorem undertake_call {J : SerdeJson} {h : RuntimeHarness} {c : Call} (hc : c ≠ .runTick) :
    h.undertake J (.call c) = some (⟨none, []⟩, h.perform J c) := by
  cases c with
  | runTick => exact absurd rfl hc
  | _ => rfl

end RuntimeHarness

open RuntimeHarness in
theorem undertake_cases {J : SerdeJson} {h h' : RuntimeHarness} {deed : Deed} {noted : Noted}
    (hs : h.undertake J deed = some (noted, h')) :
    (∃ seed armed packets, deed = .restart seed armed packets ∧ noted = ⟨none, []⟩ ∧
      h' = build seed h.store armed packets) ∨
    (deed = .call .runTick ∧ h' = ((runTick J).exec h).2 ∧
      noted = ⟨some ((runTick J).exec h).1, h'.published.drop h.published.length⟩) ∨
    (∃ c, deed = .call c ∧ c ≠ .runTick ∧ noted = ⟨none, []⟩ ∧ h' = h.perform J c) := by
  cases deed with
  | restart seed armed packets =>
    obtain ⟨rfl, rfl⟩ := Prod.mk.inj (Option.some.inj hs)
    exact .inl ⟨seed, armed, packets, rfl, rfl, rfl⟩
  | call c =>
    by_cases hc : c = .runTick
    · subst hc
      obtain ⟨rfl, rfl⟩ := Prod.mk.inj (Option.some.inj hs)
      exact .inr (.inl ⟨rfl, rfl, rfl⟩)
    · rw [undertake_call hc] at hs
      obtain ⟨rfl, rfl⟩ := Prod.mk.inj (Option.some.inj hs)
      exact .inr (.inr ⟨c, rfl, hc, rfl, rfl⟩)

/-- Everything that was published in a run, in order. -/
def outputs (h₀ : RuntimeHarness) (trace : List (Noted × RuntimeHarness)) : List CommittedOutput :=
  Run.collect (fun _ noted => noted.outputs) h₀ trace

/-- What a store goes back to, if it can be read. -/
def DurableStore.base (J : SerdeJson) (store : DurableStore) : DurableState :=
  match store.load J with
  | .ok (some s) => s
  | _ => .fresh

/-! ## Order -/

section Order

open RuntimeHarness

variable {s₀ s t : DurableState} {outs : List CommittedOutput}

/-- `outs` goes on where `s₀` stopped. -/
structure InOrder (s₀ : DurableState) (outs : List CommittedOutput) : Prop where
  ticks : outs.map (·.tickSeq.toNat) = List.range' (s₀.committedTickSeq.toNat + 1) outs.length
  ingress : (s₀.committedIngressSeq :: outs.map (·.ingressSeq)).Pairwise (· < ·)
  sessions : outs.Pairwise fun a b => a.sessionId ≤ b.sessionId
  later : ∀ out ∈ outs, s₀.lastSessionId < out.sessionId

/-- `s` has committed `outs` on top of `s₀`. -/
structure Continues (s₀ : DurableState) (outs : List CommittedOutput) (s : DurableState) : Prop where
  tick : s.committedTickSeq.toNat = s₀.committedTickSeq.toNat + outs.length
  mark : s.committedIngressSeq = (outs.getLast?.map (·.ingressSeq)).getD s₀.committedIngressSeq
  above : ∀ seq ∈ s₀.committedIngressSeq :: outs.map (·.ingressSeq), seq ≤ s.committedIngressSeq
  session : s₀.lastSessionId ≤ s.lastSessionId
  sessions : ∀ out ∈ outs, out.sessionId ≤ s.lastSessionId

theorem InOrder.nil (s₀ : DurableState) : InOrder s₀ [] :=
  ⟨rfl, List.pairwise_singleton _ _, .nil, nofun⟩

theorem Continues.refl (s : DurableState) : Continues s [] s :=
  ⟨rfl, rfl, fun _ h => UInt64.le_of_eq (List.mem_singleton.1 h), UInt64.le_refl _, nofun⟩

/-- The session moves on, the committed numbers stay. -/
theorem Continues.resume (h : Continues s₀ outs s) (htick : t.committedTickSeq = s.committedTickSeq)
    (hingress : t.committedIngressSeq = s.committedIngressSeq)
    (hsession : s.lastSessionId ≤ t.lastSessionId) : Continues s₀ outs t where
  tick := htick ▸ h.tick
  mark := hingress ▸ h.mark
  above := hingress ▸ h.above
  session := UInt64.le_trans h.session hsession
  sessions out hout := UInt64.le_trans (h.sessions out hout) hsession

theorem Continues.of_sameCommit (h : Continues s₀ outs t) (hst : SameCommit s t) :
    Continues s₀ outs s := by
  obtain ⟨hsession, htick, hingress⟩ := hst
  exact h.resume htick hingress (UInt64.le_of_eq hsession.symm)

variable {J : SerdeJson} {h h' : RuntimeHarness} {packet : SequencedIngress}
  {out : CommittedOutput}

theorem InOrder.snoc (ho : InOrder s₀ outs) (hc : Continues s₀ outs h.durable) (ha : Agrees J h)
    (hlater : s₀.lastSessionId < h.durable.lastSessionId)
    (hfresh : h.durable.committedIngressSeq < packet.seq) (hp : Published J h packet out h') :
    InOrder s₀ (outs ++ [out]) where
  ticks := by
    rw [List.map_append, ho.ticks, List.length_append, List.length_singleton, List.range'_concat,
      List.map_singleton, hp.tick, hc.tick]
    congr 2
    omega
  ingress := by
    rw [List.map_append, ← List.cons_append, List.pairwise_append]
    refine ⟨ho.ingress, List.pairwise_singleton _ _, fun seq hseq next hnext => ?_⟩
    rw [List.map_singleton, List.mem_singleton] at hnext
    rw [hnext, hp.ingress]
    exact UInt64.lt_of_le_of_lt (hc.above seq hseq) hfresh
  sessions := by
    refine List.pairwise_append.2 ⟨ho.sessions, List.pairwise_singleton _ _, fun a ha' b hb => ?_⟩
    rw [List.mem_singleton.1 hb, hp.session, ← ha.session]
    exact hc.sessions a ha'
  later := by
    intro o hmem
    rcases List.mem_append.1 hmem with hmem | hmem
    · exact ho.later o hmem
    · rw [List.mem_singleton.1 hmem, hp.session, ← ha.session]
      exact hlater

theorem Continues.snoc (hc : Continues s₀ outs h.durable) (ha : Agrees J h)
    (hfresh : h.durable.committedIngressSeq < packet.seq) (hp : Published J h packet out h') :
    Continues s₀ (outs ++ [out]) (h.committedState out.tickSeq packet) where
  tick := by
    show out.tickSeq.toNat = _
    rw [hp.tick, hc.tick, List.length_append, List.length_singleton]
    omega
  mark := by
    show packet.seq = _
    rw [List.getLast?_concat, Option.map_some, Option.getD_some, hp.ingress]
  above := by
    intro seq hseq
    rw [List.map_append, ← List.cons_append, List.mem_append] at hseq
    rcases hseq with hseq | hseq
    · exact UInt64.le_of_lt (UInt64.lt_of_le_of_lt (hc.above seq hseq) hfresh)
    · rw [List.map_singleton, List.mem_singleton] at hseq
      exact UInt64.le_of_eq (hseq.trans hp.ingress)
  session := hc.session
  sessions := by
    intro o hmem
    rcases List.mem_append.1 hmem with hmem | hmem
    · exact hc.sessions o hmem
    · rw [List.mem_singleton.1 hmem, hp.session, ← ha.session]
      exact UInt64.le_refl _

end Order

/-! ## Stores and harnesses along a run -/

/-- What a store may hold once `outs` is published on top of `s₀`. -/
inductive StoreFrom (J : SerdeJson) (s₀ : DurableState) (outs : List CommittedOutput)
    (store : DurableStore) : Prop where
  | empty (hl : store.load J = .ok none) (hc : Continues s₀ outs .fresh)
  | holds (s : DurableState) (hl : store.load J = .ok (some s)) (hc : Continues s₀ outs s)
  | unreadable (e : String) (hl : store.load J = .error e)

structure Driving (J : SerdeJson) (s₀ : DurableState) (outs : List CommittedOutput)
    (h : RuntimeHarness) : Prop where
  inOrder : InOrder s₀ outs
  store : StoreFrom J s₀ outs h.store
  running : h.live = true → RuntimeHarness.Agrees J h ∧ Continues s₀ outs h.durable ∧
    s₀.lastSessionId < h.durable.lastSessionId

section Driving

open RuntimeHarness

variable {J : SerdeJson} {s₀ : DurableState} {outs : List CommittedOutput} {h h' : RuntimeHarness}

theorem storeFrom_base (J : SerdeJson) (store : DurableStore) :
    StoreFrom J (store.base J) [] store := by
  unfold DurableStore.base
  cases hl : store.load J with
  | error e => exact .unreadable e hl
  | ok found =>
    cases found with
    | none => exact .empty hl (.refl _)
    | some s => exact .holds s hl (.refl s)

/-- A boot goes on in the next session. -/
theorem StoreFrom.resumes (hst : StoreFrom J s₀ outs h.store) {s : DurableState}
    (hr : Resumes J h.store s) : Continues s₀ outs s ∧ s₀.lastSessionId < s.lastSessionId := by
  cases hst with
  | empty hl hc =>
    cases hr with
    | fresh _ =>
      exact ⟨hc.resume rfl rfl (by decide), UInt64.lt_of_le_of_lt hc.session (by decide)⟩
    | recovered t next hl' ht hn =>
      rw [hl] at hl'
      cases hl'
  | holds s hl hc =>
    cases hr with
    | fresh hl' =>
      rw [hl] at hl'
      cases hl'
    | recovered t next hl' ht hn =>
      rw [hl] at hl'
      cases hl'
      have hnext := UInt64.checkedAdd_one_eq_some.1 hn
      have hlt : s.lastSessionId < next := UInt64.lt_iff_toNat_lt.2 (by omega)
      exact ⟨hc.resume rfl rfl (UInt64.le_of_lt hlt), UInt64.lt_of_le_of_lt hc.session hlt⟩
  | unreadable e hl =>
    cases hr with
    | fresh hl' =>
      rw [hl] at hl'
      cases hl'
    | recovered t next hl' ht hn =>
      rw [hl] at hl'
      cases hl'

theorem RuntimeHarness.Unpublished.storeFrom (hu : Unpublished J h h')
    (hc : Continues s₀ outs h.durable) : StoreFrom J s₀ outs h'.store := by
  obtain ⟨s, hs, hsame⟩ := hu.store
  exact .holds s hs.2.1 (hc.of_sameCommit hsame)

/-- A harness that is not live cannot tick. -/
theorem Driving.halted (hd : Driving J s₀ outs h) (hstore : StoreFrom J s₀ outs h'.store)
    (hlive : h'.live = false) : Driving J s₀ outs h' where
  inOrder := hd.inOrder
  store := hstore
  running hl := by
    rw [hlive] at hl
    cases hl

theorem Driving.build {store : DurableStore} (ho : InOrder s₀ outs) (hst : StoreFrom J s₀ outs store)
    {seed : UInt64} {armed : Option FaultPoint} {packets : List SequencedIngress} :
    Driving J s₀ outs (build seed store armed packets) :=
  ⟨ho, hst, nofun⟩

theorem Driving.boot (hJ : J.RoundTrips) (hd : Driving J s₀ outs h) :
    Driving J s₀ outs ((boot J).exec h).2 := by
  rcases (boot_effect hJ h).store with ⟨hs, hstore⟩ | ⟨hs, hstore⟩ | ⟨s, hr, hholds, hs | hl⟩
  · exact hd.halted (hstore ▸ hd.store) hs.1
  · exact hd.halted (hstore ▸ .unreadable _ rfl) hs.1
  · exact hd.halted (.holds s hholds.2.1 (hd.store.resumes hr).1) hs.1
  · obtain ⟨hlive, ha, hdurable⟩ := hl
    obtain ⟨hc, hlater⟩ := hd.store.resumes hr
    exact ⟨hd.inOrder, .holds s hholds.2.1 hc, fun _ => ⟨ha, hdurable ▸ hc, hdurable ▸ hlater⟩⟩

theorem Driving.shutdown (hd : Driving J s₀ outs h) :
    Driving J s₀ outs (RuntimeHarness.shutdown.exec h).2 := by
  obtain ⟨hs, -, -, -, hstore⟩ := shutdown_effect h
  exact hd.halted (hstore ▸ hd.store) hs.1

theorem Driving.runTick (hJ : J.RoundTrips) (hd : Driving J s₀ outs h) :
    Driving J s₀ (outs ++ ((runTick J).exec h).2.published.drop h.published.length)
      ((runTick J).exec h).2 := by
  have hnone {p : List CommittedOutput} (hp : p = h.published) :
      outs ++ p.drop h.published.length = outs := by
    rw [hp, List.drop_length, List.append_nil]
  cases hlive : h.live with
  | false =>
    rw [runTick_of_not_live hlive, hnone rfl]
    exact hd
  | true =>
    obtain ⟨ha, hc, hlater⟩ := hd.running hlive
    cases runTick_effect hJ ha hlive with
    | stopped hs hu =>
      rw [hnone hu.published]
      exact hd.halted (hu.storeFrom hc) hs.1
    | limited hl ha' hu hdurable =>
      rw [hnone hu.published]
      exact ⟨hd.inOrder, hu.storeFrom hc, fun _ => ⟨ha', hdurable ▸ hc, hdurable ▸ hlater⟩⟩
    | skipped hl ha' hu hdurable =>
      rw [hnone hu.published]
      exact ⟨hd.inOrder, hu.storeFrom hc, fun _ => ⟨ha', hdurable ▸ hc, hdurable ▸ hlater⟩⟩
    | committed packet rest out hsrc hfresh hp hnext =>
      have hone : ((RuntimeHarness.runTick J).exec h).2.published.drop h.published.length = [out] := by
        rw [hp.published, List.drop_left]
      have hc' := hc.snoc ha hfresh hp
      rw [hone]
      refine ⟨hd.inOrder.snoc hc ha hlater hfresh hp, .holds _ hp.store.2.1 hc', fun hl => ?_⟩
      rcases hnext with hs | ⟨-, ha', hdurable, -⟩
      · rw [hs.1] at hl
        cases hl
      · rw [hdurable]
        exact ⟨ha', hc', hlater⟩

theorem Driving.perform (hJ : J.RoundTrips) (hd : Driving J s₀ outs h) {c : Call}
    (hc : c ≠ .runTick) : Driving J s₀ outs (h.perform J c) := by
  cases c with
  | runTick => exact absurd rfl hc
  | boot => exact hd.boot hJ
  | shutdown => exact hd.shutdown
  | armFault point =>
    exact { hd with running := fun hl => ⟨{ (hd.running hl).1 with }, (hd.running hl).2⟩ }
  | pushIngress packet =>
    exact { hd with running := fun hl => ⟨{ (hd.running hl).1 with }, (hd.running hl).2⟩ }
  | pushIngressFront packet =>
    exact { hd with running := fun hl => ⟨{ (hd.running hl).1 with }, (hd.running hl).2⟩ }

theorem Driving.undertake (hJ : J.RoundTrips) (hd : Driving J s₀ outs h) {deed : Deed} {noted : Noted}
    (hs : h.undertake J deed = some (noted, h')) : Driving J s₀ (outs ++ noted.outputs) h' := by
  rcases undertake_cases hs with ⟨seed, armed, packets, -, rfl, rfl⟩ | ⟨-, rfl, rfl⟩ |
    ⟨c, -, hc, rfl, rfl⟩
  · rw [List.append_nil]
    exact .build hd.inOrder hd.store
  · exact hd.runTick hJ
  · rw [List.append_nil]
    exact hd.perform hJ hc

end Driving

/-! ## What a tick answers -/

section Answers

open RuntimeHarness Proc

variable {J : SerdeJson} {h h' : RuntimeHarness}

/-- A tick of a live harness answers `Committed` if and only if it published; a failed one has
published nothing, or has died after the commit. -/
theorem runTick_answers (hJ : J.RoundTrips) (ha : Agrees J h) (hlive : h.live = true) :
    wp (runTick J)
      (fun r h' => (r = .committed → ∃ out, h'.published = h.published ++ [out]) ∧
        (r ≠ .committed → h'.published = h.published) ∧
        h'.stepsTaken.toNat = h.stepsTaken.toNat + 1)
      (fun _ h' => h'.published = h.published ∨ h.injector.armed = some (.after .metricPublish) ∧
        h'.stepsTaken.toNat = h.stepsTaken.toNat + 1) h := by
  unfold runTick
  simp only [wp_bind]
  refine wp_mono (beginTick_effect hlive) ?_ ?_
  · rintro _ _ ⟨clock, steps, rfl, hsteps, -⟩
    have ha₁ : Agrees J { h with clock := clock, stepsTaken := steps } := { ha with }
    refine wp_ingress ha₁.channel (fun _ _ _ _ _ => .inl rfl) fun _ => ?_
    split
    · exact ⟨fun hc => TickResult.noConfusion hc, fun _ => rfl, hsteps⟩
    · next packet hhead =>
      simp only [wp_bind, wp_get, wp_ite, wp_set, wp_pure]
      refine ⟨fun _ => ⟨fun hc => TickResult.noConfusion hc, fun _ => trivial, hsteps⟩, fun hgt => ?_⟩
      have hfresh : h.durable.committedIngressSeq < packet.seq := UInt64.not_le.1 hgt
      have ha₂ : Agrees J { h with
        clock := clock, stepsTaken := steps, source := ⟨h.source.packets.tail⟩ } := { ha with }
      refine wp_executeTick hJ (fun _ ht => inflightState_valid ha₂ ht hfresh)
        (fun _ _ => .inl rfl) (fun _ _ => .inl rfl) (fun _ _ _ _ _ _ _ _ => .inl rfl) ?_
      intro tickSeq spikeIds store core _ _ _ _
      refine wp_publishMetrics hJ ha₂.channel (committedState_valid ha₂ tickSeq packet)
        (fun _ _ _ _ _ => .inl rfl) (fun harm _ _ _ => .inr ⟨harm, hsteps⟩) fun _ store' _ => ?_
      exact ⟨fun _ => ⟨_, rfl⟩, fun hne => absurd rfl hne, hsteps⟩
  · rintro _ _ ⟨steps, rfl, -, -⟩
    exact .inl rfl

/-- What is published comes from the head of the source and takes a step of its process, and the
answer tells it. -/
structure Honest (h : RuntimeHarness) (noted : Noted) (h' : RuntimeHarness) : Prop where
  source : ∀ out ∈ noted.outputs, ∃ packet rest, h.source.packets = packet :: rest ∧
    out.ingressSeq = packet.seq ∧ out.sessionId = h.sessionId ∧
    (FakeCore.default.step packet.stimuli).1 = .ok out.spikeIds
  step : noted.outputs ≠ [] → noted.outputs.length = 1 ∧ h.stepsTaken.toNat < 64 ∧
    h'.stepsTaken.toNat = h.stepsTaken.toNat + 1
  committed : noted.answer = some (.ok .committed) → noted.outputs.length = 1
  nothing : noted.answer = some (.ok .skippedReplay) ∨ noted.answer = some (.ok .noIngress) →
    noted.outputs = []
  failed : ∀ e, noted.answer = some (.error e) →
    noted.outputs = [] ∨ h.injector.armed = some (.after .metricPublish)

theorem honest_silent : Honest h ⟨none, []⟩ h' :=
  ⟨nofun, fun hne => absurd rfl hne, nofun, fun _ => rfl, nofun⟩

/-- The two sides of a tick of a live harness: what it did, and what it answers. -/
theorem honest_live (hJ : J.RoundTrips) (ha : Agrees J h) (hlive : h.live = true)
    {answer : Except String TickResult} (hx : (runTick J).exec h = (answer, h')) :
    Honest h ⟨some answer, h'.published.drop h.published.length⟩ h' := by
  have heffect := runTick_effect hJ ha hlive
  have hanswers := runTick_answers hJ ha hlive
  rw [hx] at heffect
  have hdropped {p : List CommittedOutput} (hp : h'.published = h.published ++ p) :
      h'.published.drop h.published.length = p := by
    rw [hp, List.drop_left]
  have hsame (hp : h'.published = h.published) : h'.published.drop h.published.length = [] :=
    hdropped (hp.trans (List.append_nil _).symm)
  -- what was published, if anything, and from where
  have hcases : h'.published.drop h.published.length = [] ∨
      ∃ packet rest out, h.source.packets = packet :: rest ∧ Published J h packet out h' ∧
        h'.published.drop h.published.length = [out] ∧ h.stepsTaken.toNat + 1 ≤ 64 := by
    cases heffect with
    | stopped _ hu => exact .inl (hsame hu.published)
    | limited _ _ hu => exact .inl (hsame hu.published)
    | skipped _ _ hu => exact .inl (hsame hu.published)
    | committed packet rest out hsrc _ hp _ hbound =>
      exact .inr ⟨packet, rest, out, hsrc, hp, hdropped hp.published, hbound.1⟩
  refine ⟨fun out hout => ?_, fun hne => ?_, fun hcommitted => ?_, fun hnothing => ?_, fun e he => ?_⟩
  · dsimp only at hout
    rcases hcases with hnil | ⟨packet, rest, out', hsrc, hp, hone, -⟩
    · rw [hnil] at hout
      cases hout
    · rw [hone, List.mem_singleton] at hout
      subst hout
      exact ⟨packet, rest, hsrc, hp.ingress, hp.session, hp.spikes⟩
  · dsimp only at hne ⊢
    rcases hcases with hnil | ⟨_, _, out, -, -, hone, hbound⟩
    · exact absurd hnil hne
    · rw [hone]
      refine ⟨rfl, by omega, ?_⟩
      cases answer with
      | ok r => exact (wp_of_exec_ok hanswers hx).2.2
      | error e =>
        rcases wp_of_exec_error hanswers hx with hp | ⟨-, hsteps⟩
        · rw [hsame hp] at hone
          cases hone
        · exact hsteps
  · cases hcommitted
    obtain ⟨out, hp⟩ := (wp_of_exec_ok hanswers hx).1 rfl
    exact congrArg List.length (hdropped hp)
  · have hother : ∃ r, answer = .ok r ∧ r ≠ .committed := by
      rcases hnothing with hnothing | hnothing <;> cases hnothing
      · exact ⟨_, rfl, nofun⟩
      · exact ⟨_, rfl, nofun⟩
    obtain ⟨r, rfl, hr⟩ := hother
    exact hsame ((wp_of_exec_ok hanswers hx).2.1 hr)
  · cases he
    exact (wp_of_exec_error hanswers hx).imp hsame And.left

theorem honest_halted (hlive : h.live = false) {answer : Except String TickResult}
    (hx : (runTick J).exec h = (answer, h')) :
    Honest h ⟨some answer, h'.published.drop h.published.length⟩ h' := by
  obtain ⟨e, he⟩ := runTick_refuses (J := J) hlive
  rw [he] at hx
  cases hx
  rw [List.drop_length]
  exact ⟨nofun, fun hne => absurd rfl hne, nofun, fun _ => rfl, fun _ _ => .inl rfl⟩

theorem honest_undertake (hJ : J.RoundTrips) (hruns : h.live = true → Agrees J h) {deed : Deed}
    {noted : Noted} (hs : h.undertake J deed = some (noted, h')) : Honest h noted h' := by
  rcases undertake_cases hs with ⟨seed, armed, packets, -, rfl, -⟩ | ⟨-, rfl, rfl⟩ | ⟨c, -, -, rfl, -⟩
  · exact honest_silent
  · cases hlive : h.live with
    | true => exact honest_live hJ (hruns hlive) hlive rfl
    | false => exact honest_halted hlive rfl
  · exact honest_silent

end Answers

/-! ## Whole runs -/

open RuntimeHarness in
/-- **Published in order.**  Over any run, on any store, with any packets pushed in any order and
any faults and restarts: each tick goes on counting where the store stopped, no packet number is
published twice or after a greater one, sessions only move on, the store that can be read counts
exactly what was published, and every tick answers what it did. -/
theorem published_in_order {J : SerdeJson} (hJ : J.RoundTrips) (seed : UInt64) (store : DurableStore)
    (armed : Option FaultPoint) (packets : List SequencedIngress)
    {trace : List (Noted × RuntimeHarness)} {h : RuntimeHarness}
    (hr : Run (undertake J) (build seed store armed packets) trace h) :
    let outs := outputs (build seed store armed packets) trace
    InOrder (store.base J) outs ∧
      (∀ s, h.store.load J = .ok (some s) → Continues (store.base J) outs s) ∧
      Run.Each Honest (build seed store armed packets) trace := by
  intro outs
  have hstart : Driving J (store.base J) [] (build seed store armed packets) :=
    .build (.nil _) (storeFrom_base J store)
  have hd : Driving J (store.base J) outs h := by
    refine hr.invariant (I := fun trace h => Driving J (store.base J)
      (outputs (build seed store armed packets) trace) h) hstart ?_
    intro trace h deed noted h' hd hs
    unfold outputs at hd ⊢
    rw [Run.collect_concat]
    exact hd.undertake hJ hs
  refine ⟨hd.inOrder, fun s hs => ?_, ?_⟩
  · cases hd.store with
    | empty hl =>
      rw [hl] at hs
      cases hs
    | holds t hl hc =>
      rw [hl] at hs
      cases hs
      exact hc
    | unreadable e hl =>
      rw [hl] at hs
      cases hs
  · refine (hr.each (I := fun h => ∃ outs, Driving J (store.base J) outs h) ⟨[], hstart⟩ ?_ ?_).2
    · rintro h deed noted h' ⟨outs, hd⟩ hs
      exact ⟨_, hd.undertake hJ hs⟩
    · rintro h deed noted h' ⟨outs, hd⟩ hs
      exact honest_undertake hJ (fun hl => (hd.running hl).1) hs

/-- Packets out of order and twice, a death after the commit, and a restart. -/
def disordered : List Deed :=
  [.call .boot, .call .runTick, .call .runTick, .call (.pushIngressFront ⟨4, [F32.one]⟩),
    .call (.armFault (.after .metricPublish)), .call .runTick,
    .restart 2 none [⟨4, []⟩, ⟨7, [0, F32.one]⟩], .call .boot, .call .runTick, .call .runTick]

theorem published_in_order_disordered :
    let h₀ := RuntimeHarness.build 1 .empty none [⟨3, []⟩, ⟨2, [F32.one]⟩]
    ∃ (trace : List (Noted × RuntimeHarness)) (h : RuntimeHarness),
      Run (RuntimeHarness.undertake serdeJson) h₀ trace h ∧
        (outputs h₀ trace).map (·.ingressSeq) = [3, 4, 7] ∧
        InOrder .fresh (outputs h₀ trace) ∧ Run.Each Honest h₀ trace := by
  intro h₀
  have hrun : (Run.exec (RuntimeHarness.undertake serdeJson) disordered ([], h₀)).map
      (fun r => (outputs h₀ r.1).map (·.ingressSeq)) = some [3, 4, 7] := by
    decide +kernel
  obtain ⟨⟨trace, h⟩, hx, hm⟩ := Option.map_eq_some_iff.1 hrun
  have hr := Run.of_exec .refl hx
  have hordered := published_in_order serdeJson_roundTrips 1 .empty none
    [⟨3, []⟩, ⟨2, [F32.one]⟩] hr
  exact ⟨trace, h, hr, hm, hordered.1, hordered.2.2⟩

end Brainstem.Runtime
