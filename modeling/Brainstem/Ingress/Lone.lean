import Brainstem.Ingress.Handle

/-!
# A tick with nobody else on the ingress

When no other thread comes between the sections of a tick, its methods have closed forms: a
push is one section, the drain reads the queues as they were, and what is left is known.
-/

namespace Brainstem.Ingress

def nobody : Others := fun _ => []

namespace BoundedQueue

variable {bq : BoundedQueue} {q : QueueState}

/-- Whatever the policy, an open queue is one deeper after a push that never waits, or full. -/
theorem pushSection_depth (hf : bq.Fits q) (packet : IngressPacket) (now : Instant) :
    (bq.pushSection q packet none now).guard.items.length =
      if q.closed || bq.payloadTooLarge packet then q.items.length
      else min (q.items.length + 1) bq.capacity := by
  have hcap := Nat.le_trans hf.depth hf.highWaterMark
  have hpos := bq.capacity_pos
  unfold pushSection
  cases hlarge : bq.payloadTooLarge packet with
  | true =>
    cases q.closed <;> simp [Attempt.ofPair, Attempt.guard, refuseShutdown, refuse]
  | false =>
    cases hclosed : q.closed with
    | true => simp [pushLocked, hclosed, Attempt.ofPair, Attempt.guard, refuseShutdown]
    | false =>
      simp only [pushLocked, hclosed, Bool.false_eq_true, if_false, Bool.or_self]
      split
      · next hc =>
        have hone := bq.coalesce_single hc
        simp only [Attempt.ofPair, Attempt.guard, pushCoalesce]
        split
        · next he =>
          have hnil : q.items = [] := List.isEmpty_iff.1 he
          simp [pushFree, hnil, hone]
        · simp only [List.length_singleton]
          omega
      · split
        · next hroom =>
          simp only [Attempt.ofPair, Attempt.guard, pushFree, List.length_append,
            List.length_singleton]
          omega
        · next hfull =>
          split
          · simp only [Attempt.ofPair, Attempt.guard, refuse]
            omega
          · simp only [Attempt.ofPair, Attempt.guard, dropOldestAndPush, pushFree, List.length_append,
              List.length_tail, List.length_singleton]
            omega
          · next hc _ h => exact absurd h hc
          · simp only [waitForSlot, if_true, Attempt.ofPair, Attempt.guard, refuse]
            omega

/-- Every policy takes a packet into an empty open queue. -/
theorem pushSection_empty {packet : IngressPacket} (now : Instant) (hempty : q.items = [])
    (hopen : q.closed = false) (hfits : bq.payloadTooLarge packet = false) :
    (bq.pushSection q packet none now).guard = (pushFree q packet).2 := by
  have hpos := bq.capacity_pos
  have hroom : q.items.length < bq.capacity := by
    rw [hempty, List.length_nil]
    omega
  unfold pushSection pushLocked
  simp only [hfits, hopen, Bool.false_eq_true, if_false, hroom, if_true]
  split
  · unfold pushCoalesce
    rw [if_pos (by rw [hempty]; rfl)]
    rfl
  · rfl

end BoundedQueue

namespace BoundedIngress

/-- A push on class `c` is let into the queue. -/
def accepting (s : BoundedIngress) (c : MessageClass) : Bool := !s.shuttingDown && !(s.queues c).closed

/-- The queue of `c` after `try_enqueue`. -/
def pushInto (s : BoundedIngress) (c : MessageClass) (packet : IngressPacket) : QueueState :=
  if s.shuttingDown then (BoundedQueue.refuseClosed (s.queues c)).2
  else ((s.queue c).pushSection (s.queues c) packet none 0).guard

theorem pushInto_depth {s : BoundedIngress} (hf : s.Fits) (c : MessageClass) (packet : IngressPacket) :
    (s.pushInto c packet).items.length =
      if s.accepting c && !(s.queue c).payloadTooLarge packet then
        min ((s.queues c).items.length + 1) (s.config.effectiveCapacity c)
      else (s.queues c).items.length := by
  have hdepth := BoundedQueue.pushSection_depth (hf c) packet 0
  unfold pushInto accepting
  cases s.shuttingDown with
  | true => simp [BoundedQueue.refuseClosed, BoundedQueue.refuseShutdown]
  | false =>
    simp only [Bool.false_eq_true, if_false, hdepth]
    cases (s.queues c).closed <;> cases (s.queue c).payloadTooLarge packet <;> rfl

theorem pushInto_empty {s : BoundedIngress} {c : MessageClass} {packet : IngressPacket}
    (hacc : s.accepting c = true) (hempty : (s.queues c).items = [])
    (hfits : (s.queue c).payloadTooLarge packet = false) :
    s.pushInto c packet = (BoundedQueue.pushFree (s.queues c) packet).2 := by
  unfold accepting at hacc
  simp only [Bool.and_eq_true, Bool.not_eq_true'] at hacc
  unfold pushInto
  rw [hacc.1]
  exact BoundedQueue.pushSection_empty 0 hempty hacc.2 hfits

/-- `s` and `t` agree on everything that a push on `c` reads. -/
structure SameFor (c : MessageClass) (s t : BoundedIngress) : Prop where
  queue : t.queue c = s.queue c
  queues : t.queues c = s.queues c
  shuttingDown : t.shuttingDown = s.shuttingDown

theorem SameFor.pushInto {c : MessageClass} {s t : BoundedIngress} (h : SameFor c s t)
    (packet : IngressPacket) : t.pushInto c packet = s.pushInto c packet := by
  unfold BoundedIngress.pushInto
  rw [h.queue, h.queues, h.shuttingDown]

theorem tryEnqueue_nobody (s : BoundedIngress) (cls : MessageClass) (packet : IngressPacket) :
    (s.runSteps (s.tryEnqueue nobody cls packet)).queues cls = s.pushInto cls packet ∧
      (s.runSteps (s.tryEnqueue nobody cls packet)).shuttingDown = s.shuttingDown ∧
      ∀ c, c ≠ cls → SameFor c s (s.runSteps (s.tryEnqueue nobody cls packet)) := by
  have hsteps : s.runSteps (s.tryEnqueue nobody cls packet) =
      s.perform (if s.shuttingDown then .refuse cls else .push cls packet none 0) := rfl
  rw [hsteps]
  unfold BoundedIngress.pushInto
  cases hsd : s.shuttingDown with
  | true =>
    exact ⟨s.setQueue_self _ _, hsd, fun c hc => ⟨rfl, s.setQueue_ne _ hc, rfl⟩⟩
  | false =>
    exact ⟨s.setQueue_self _ _, hsd, fun c hc => ⟨rfl, s.setQueue_ne _ hc, rfl⟩⟩

/-- The part of a backend packet that goes to class `c`. -/
def partOf (packet : IngressPacket) : MessageClass → Option IngressPacket
  | .sensory => if packet.stimuli.isEmpty then none else some { packet with modulators := none }
  | .reward =>
    (packet.modulators.filter fun m => !m.isEmpty).map fun m =>
      { IngressPacket.default with modulators := some m }
  | .control | .telemetry => none

/-- **Admission with nobody else around**: each class gets its part, by one push. -/
theorem admitBackendPacket_nobody (s : BoundedIngress) (packet : IngressPacket) :
    (∀ c, (s.runSteps (s.admitBackendPacket nobody packet)).queues c =
      ((partOf packet c).map (s.pushInto c)).getD (s.queues c)) ∧
      (s.runSteps (s.admitBackendPacket nobody packet)).shuttingDown = s.shuttingDown := by
  -- the sensory part comes first, and leaves alone what the reward part reads
  let rest := { packet with modulators := none }
  let s₁ := s.runSteps (s.tryEnqueue nobody .sensory rest)
  obtain ⟨hq, hsd, hother⟩ := tryEnqueue_nobody s .sensory rest
  unfold admitBackendPacket admitParts
  cases hstim : packet.stimuli.isEmpty with
  | true =>
    cases hmods : packet.modulators.filter fun m => !m.isEmpty with
    | none =>
      refine ⟨?_, rfl⟩
      intro c
      cases c <;> simp [partOf, hstim, hmods, enqueueParts]
    | some mods =>
      obtain ⟨hq', hsd', hother'⟩ := tryEnqueue_nobody s .reward
        { IngressPacket.default with modulators := some mods }
      simp only [if_true, List.nil_append, enqueueParts, List.append_nil]
      refine ⟨?_, hsd'⟩
      intro c
      cases c with
      | reward => simp only [partOf, hmods, Option.map_some, Option.getD_some, hq']
      | _ => simp [partOf, hstim, (hother' _ _).queues]
  | false =>
    cases hmods : packet.modulators.filter fun m => !m.isEmpty with
    | none =>
      simp only [Bool.false_eq_true, if_false, List.append_nil, enqueueParts]
      refine ⟨?_, hsd⟩
      intro c
      cases c with
      | sensory => simp only [partOf, hstim, Bool.false_eq_true, if_false, Option.map_some,
          Option.getD_some, rest, hq]
      | reward => simp [partOf, hmods, (hother _ _).queues, rest]
      | _ => simp [partOf, (hother _ _).queues, rest]
    | some mods =>
      obtain ⟨hq', hsd', hother'⟩ := tryEnqueue_nobody s₁ .reward
        { IngressPacket.default with modulators := some mods }
      simp only [Bool.false_eq_true, if_false, List.singleton_append, List.append_nil, enqueueParts,
        runSteps_append]
      refine ⟨?_, hsd'.trans hsd⟩
      intro c
      cases c with
      | sensory =>
        have hsame := (hother' .sensory (by simp)).queues
        simp only [partOf, hstim, Bool.false_eq_true, if_false, Option.map_some, Option.getD_some]
        exact hsame.trans hq
      | reward =>
        simp only [partOf, hmods, Option.map_some, Option.getD_some]
        exact hq'.trans ((hother .reward (by simp)).pushInto _)
      | control =>
        exact ((hother' .control (by simp)).queues).trans (hother .control (by simp)).queues
      | telemetry =>
        exact ((hother' .telemetry (by simp)).queues).trans (hother .telemetry (by simp)).queues

/-! ## The drain -/

theorem drainForTick_nobody (s : BoundedIngress) : (s.drainForTick nobody).2 =
    { control := (s.queues .control).items
      reward := (s.queues .reward).items.head?
      sensory := (s.queues .sensory).items.head?
      telemetryDrained := (s.queues .telemetry).items.length } := by
  simp [drainForTick, nobody, perform, setQueue, BoundedQueue.drainAll, BoundedQueue.pop]

/-- What the drain leaves of a queue: control and telemetry are emptied, the others lose one. -/
def drained (c : MessageClass) (q : QueueState) : QueueState :=
  match c with
  | .control | .telemetry => (BoundedQueue.drainAll q).2
  | .reward | .sensory => (BoundedQueue.pop q).2

theorem drainForTick_nobody_queues (s : BoundedIngress) (c : MessageClass) :
    (s.runSteps (s.drainForTick nobody).1).queues c = drained c (s.queues c) := by
  cases c <;> simp [drainForTick, nobody, perform, setQueue, drained]

theorem drainForTick_nobody_shuttingDown (s : BoundedIngress) :
    (s.runSteps (s.drainForTick nobody).1).shuttingDown = s.shuttingDown := rfl

theorem readMetrics_nobody (s : BoundedIngress) :
    s.readMetrics nobody = ([], fun c => (s.queues c).metrics) := by
  unfold readMetrics
  refine Prod.ext rfl ?_
  funext c
  cases c <;> rfl

end BoundedIngress

end Brainstem.Ingress
