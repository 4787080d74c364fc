import Brainstem.Ingress.Threads

/-!
# Event conservation

In every state any interleaving can reach, and for each class: what was accepted is queued,
was evicted or was handed out; the completed calls are those accepted, rejected or refused;
and the high-water mark is the greatest depth there ever was, within the capacity.

    accepted = depth + dropped + coalesced + removed trace c
    completed trace c = accepted + rejected + shutdownRefused
-/

namespace Brainstem.Ingress

namespace World

variable {Tid : Type}

/-- How many packets of class `c` were handed out along a trace. -/
def removed (trace : List (Label Tid × World Tid)) (c : MessageClass) : ℕ :=
  (trace.map fun e => (e.1.taken c).length).sum

/-- How many pushes of class `c` returned along a trace. -/
def completed (trace : List (Label Tid × World Tid)) (c : MessageClass) : ℕ :=
  (trace.filter fun e => (e.1.outcome c).isSome).length

def depth (w : World Tid) (c : MessageClass) : ℕ := (w.shared.queues c).items.length

/-! ## One step, seen from one class -/

/-- Every label and every step agree with one critical section on the queue of `c`. -/
structure StepEffect (w : World Tid) (l : Label Tid) (w' : World Tid) (c : MessageClass) : Prop where
  queue : w'.shared.queue c = w.shared.queue c
  moves : ∃ evs, (w.shared.queue c).Section (l.outcome c) evs (w.shared.queues c)
    (w'.shared.queues c) ∧ BoundedQueue.taken evs = (l.taken c).length

variable {w w' : World Tid} {l : Label Tid} {shared : BoundedIngress}
  {trace : List (Label Tid × World Tid)}

/-! ## One more step -/

theorem removed_concat (trace : List (Label Tid × World Tid)) (e : Label Tid × World Tid)
    (c : MessageClass) : removed (trace ++ [e]) c = removed trace c + (e.1.taken c).length := by
  simp [removed]

theorem completed_concat (trace : List (Label Tid × World Tid)) (e : Label Tid × World Tid)
    (c : MessageClass) :
    completed (trace ++ [e]) c = completed trace c + if (e.1.outcome c).isSome then 1 else 0 := by
  unfold completed
  rw [List.filter_append, List.length_append]
  cases h : (e.1.outcome c).isSome <;> simp [h]

/-- One completed call moves exactly one of the three call counters, by one. -/
theorem Tally.calls {o : Option EnqueueOutcome} {q q' : QueueState}
    (h : BoundedQueue.Tally o q q') :
    q'.accepted + q'.rejected + q'.shutdownRefused =
      q.accepted + q.rejected + q.shutdownRefused + if o.isSome then 1 else 0 := by
  rw [h.accepted, h.rejected, h.shutdownRefused]
  rcases o with _ | (_ | _ | _ | _ | _) <;> simp [EnqueueOutcome.isAccepted] <;> omega

/-- What holds of the queue of `c` at the end of a trace. -/
structure Accounts (w₀ : World Tid) (trace : List (Label Tid × World Tid)) (w : World Tid)
    (c : MessageClass) : Prop where
  queue : w.shared.queue c = w₀.shared.queue c
  accepted : (w.shared.queues c).accepted = w.depth c + (w.shared.queues c).dropped +
    (w.shared.queues c).coalesced + removed trace c
  calls : completed trace c = (w.shared.queues c).accepted + (w.shared.queues c).rejected +
    (w.shared.queues c).shutdownRefused
  reached : ∀ v ∈ Run.visited w₀ trace, v.depth c ≤ (w.shared.queues c).highWaterMark
  attained : ∃ v ∈ Run.visited w₀ trace, v.depth c = (w.shared.queues c).highWaterMark

theorem Accounts.start (hnew : ∀ c, shared.queues c = .new) (c : MessageClass) :
    Accounts (World.start shared : World Tid) [] (World.start shared) c := by
  have hq : (World.start shared : World Tid).shared.queues c = .new := hnew c
  refine ⟨rfl, ?_, ?_, ?_, World.start shared, by simp, ?_⟩ <;>
    simp [depth, hq, QueueState.new, removed, completed]

theorem Accounts.step {w₀ : World Tid} {c : MessageClass} (ha : Accounts w₀ trace w c)
    (he : StepEffect w l w' c) : Accounts w₀ (trace ++ [(l, w')]) w' c := by
  obtain ⟨evs, hs, htaken⟩ := he.moves
  have hhwm : (w'.shared.queues c).highWaterMark =
      max (w.shared.queues c).highWaterMark (w'.depth c) := hs.highWaterMark
  refine ⟨he.queue.trans ha.queue, ?_, ?_, ?_, ?_⟩
  · rw [removed_concat, ← htaken]
    exact hs.moves.conserves ha.accepted
  · rw [completed_concat, ha.calls, Tally.calls hs.tally]
  · intro v hv
    rw [Run.visited_concat, List.mem_append, List.mem_singleton] at hv
    rcases hv with hv | rfl
    · have hle := ha.reached v hv
      omega
    · exact hhwm ▸ Nat.le_max_right _ _
  · obtain ⟨v, hv, hmax⟩ := ha.attained
    rw [Run.visited_concat]
    by_cases hle : w'.depth c ≤ (w.shared.queues c).highWaterMark
    · exact ⟨v, List.mem_append_left _ hv, by omega⟩
    · exact ⟨w', by simp, by omega⟩

/-! ## Runs -/

variable [DecidableEq Tid] {horizon : Instant}

theorem step_effect (hf : w.shared.Fits) {a : Action Tid} (h : step horizon w a = some (l, w'))
    (c : MessageClass) : StepEffect w l w' c := by
  cases step_shared h with
  | silent hl hs =>
    subst hl
    refine ⟨by rw [hs], [], ?_, rfl⟩
    rw [hs]
    exact BoundedIngress.section_refl (hf c)
  | atomic t st hl hs =>
    subst hl
    refine ⟨by rw [hs]; exact BoundedIngress.perform_queue _ st c, w.shared.events st c, ?_, ?_⟩
    · rw [perform_outcome, hs]
      exact BoundedIngress.perform_section hf st c
    · rw [perform_taken]
      exact BoundedIngress.taken_events _ st c

theorem step_fits (hf : w.shared.Fits) {a : Action Tid} (h : step horizon w a = some (l, w')) :
    w'.shared.Fits := by
  cases step_shared h with
  | silent _ hs => rw [hs]; exact hf
  | atomic t st _ hs => rw [hs]; exact hf.perform st

theorem run_accounts {w₀ : World Tid} (h0 : w₀.shared.Fits) (ha : ∀ c, Accounts w₀ [] w₀ c)
    (hr : Run (step horizon) w₀ trace w) : w.shared.Fits ∧ ∀ c, Accounts w₀ trace w c := by
  refine Run.invariant (I := fun trace w => w.shared.Fits ∧ ∀ c, Accounts w₀ trace w c) ⟨h0, ha⟩ ?_ hr
  intro trace w a l w' hi hs
  exact ⟨step_fits hi.1 hs, fun c => (hi.2 c).step (step_effect hi.1 hs c)⟩

/-- **Event conservation in every class queue.** -/
theorem event_conservation {config : IngressConfig} (hnew : BoundedIngress.new config = .ok shared)
    (hr : Run (step horizon) (World.start shared : World Tid) trace w) (c : MessageClass) :
    let q := w.shared.queues c
    q.accepted = q.items.length + q.dropped + q.coalesced + removed trace c ∧
    completed trace c = q.accepted + q.rejected + q.shutdownRefused ∧
    Run.Each (fun v l v' => BoundedQueue.Tally (l.outcome c) (v.shared.queues c) (v'.shared.queues c))
      (World.start shared) trace ∧
    q.items.length ≤ q.highWaterMark ∧ q.highWaterMark ≤ config.effectiveCapacity c ∧
    (∀ v ∈ Run.visited (World.start shared) trace, (v.shared.queues c).items.length ≤ q.highWaterMark) ∧
    ∃ v ∈ Run.visited (World.start shared) trace, (v.shared.queues c).items.length = q.highWaterMark := by
  intro q
  obtain ⟨hv, rfl⟩ := BoundedIngress.new_eq_ok hnew
  have hfits := BoundedIngress.Fits.new hnew
  obtain ⟨hf, ha⟩ := run_accounts hfits (fun c => Accounts.start (fun _ => rfl) c) hr
  have hqueue : w.shared.queue c = config.queue hv c := (ha c).queue
  have hcap : q.highWaterMark ≤ (config.queue hv c).capacity := hqueue ▸ (hf c).highWaterMark
  have heach := Run.each (I := fun w : World Tid => w.shared.Fits)
    (P := fun v l v' => BoundedQueue.Tally (l.outcome c) (v.shared.queues c) (v'.shared.queues c))
    hfits (fun _ _ _ _ hf hs => step_fits hf hs) ?_ hr
  · exact ⟨(ha c).accepted, (ha c).calls, heach.2, (hf c).depth, hcap, (ha c).reached, (ha c).attained⟩
  · intro v a l v' hf hs
    obtain ⟨evs, hsec, -⟩ := (step_effect hf hs c).moves
    exact hsec.tally

/-- One packet is pushed by one thread and taken by another. -/
theorem event_conservation_after_pop :
    let w₀ : World Bool := start ⟨.tinyFixture, IngressConfig.validate_tinyFixture, fun _ => .new, false⟩
    ∃ (trace : List (Label Bool × World Bool)) (w : World Bool), Run (step 1000) w₀ trace w ∧
      w.depth .sensory = 0 ∧ completed trace .sensory = 1 ∧ removed trace .sensory = 1 := by
  intro w₀
  have hnew : BoundedIngress.new .tinyFixture = .ok w₀.shared := rfl
  have hrun : (Run.exec (step 1000)
      [.call true .sensory .default .never, .loadFlag true, .readClock true, .lock true,
        .pop false .sensory none] ([], w₀)).map
      (fun r => (r.2.shared.queues .sensory).metrics) = some ⟨1, 0, 0, 0, 0, 0, 1, 0, 0⟩ := rfl
  obtain ⟨⟨trace, w⟩, hx, hm⟩ := Option.map_eq_some_iff.1 hrun
  have hr := Run.of_exec .refl hx
  obtain ⟨hacc, hcalls, -⟩ := event_conservation hnew hr .sensory
  injection hm with h1 h2 h3 h4 h5 h6
  rw [h1, h6, h3, h4] at hacc
  rw [h1, h2, h5] at hcalls
  exact ⟨trace, w, hr, h6, hcalls, by simpa using hacc.symm⟩

end World

end Brainstem.Ingress
