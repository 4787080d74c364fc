import Brainstem.Ingress.Conservation

/-!
# Queue contents follow acceptance order

Along any interleaving, the packets of a class in the order in which they were accepted are
those that departed, in the order in which they departed, followed by those still queued:

    acceptedAlong c = departedAlong c ++ items

Consumers got the departed packets that were not evicted; which evictions there are is the
policy's.
-/

namespace Brainstem.Ingress

/-- The packet a thread brings into a critical section. -/
def Pc.packet : Pc → Option IngressPacket
  | .locking _ packet _ | .woken _ packet _ _ _ => some packet
  | _ => none

namespace World

variable {Tid : Type}

/-- The packet of class `c` that a step accepted. -/
def acceptedIn (c : MessageClass) (v : World Tid) (l : Label Tid) : List IngressPacket :=
  match l.returned with
  | some (t, cls, o) => if cls = c ∧ o.isAccepted then (v.threads t).packet.toList else []
  | none => []

/-- The packets of class `c` that left their queue in a step, and why. -/
def departedIn (c : MessageClass) (v : World Tid) (l : Label Tid) : List (Leave × IngressPacket) :=
  BoundedQueue.departures (v.shared.queues c) (l.outcome c) (l.taken c)

def acceptedAlong (c : MessageClass) (v : World Tid) (trace : List (Label Tid × World Tid)) :
    List IngressPacket :=
  Run.collect (acceptedIn c) v trace

def departedAlong (c : MessageClass) (v : World Tid) (trace : List (Label Tid × World Tid)) :
    List (Leave × IngressPacket) :=
  Run.collect (departedIn c) v trace

/-- The packets of class `c` that consumers got. -/
def deliveredAlong (c : MessageClass) (v : World Tid) (trace : List (Label Tid × World Tid)) :
    List IngressPacket :=
  Run.collect (fun _ l => l.taken c) v trace

variable {horizon : Instant} {w w' : World Tid} {l : Label Tid} {shared : BoundedIngress}
  {trace : List (Label Tid × World Tid)}

/-! ## One step -/

/-- Of the departures, those that a consumer got. -/
def handedOver (ds : List (Leave × IngressPacket)) : List IngressPacket :=
  (ds.filter fun d => d.1 == .taken).map Prod.snd

theorem handedOver_append (ds es : List (Leave × IngressPacket)) :
    handedOver (ds ++ es) = handedOver ds ++ handedOver es := by
  simp [handedOver]

theorem handedOver_map (r : Leave) (ps : List IngressPacket) :
    handedOver (ps.map fun p => (r, p)) = if r = .taken then ps else [] := by
  unfold handedOver
  induction ps with
  | nil => simp
  | cons p ps ih =>
    cases r <;> simp_all

/-- Nothing is handed out in a section that evicts. -/
theorem handedOver_departures {q : QueueState} {o : Option EnqueueOutcome}
    {packets : List IngressPacket} (h : o.isSome = true → packets = []) :
    handedOver (BoundedQueue.departures q o packets) = packets := by
  unfold BoundedQueue.departures
  split
  · next depth =>
    rw [handedOver_map, h rfl]
    rfl
  · next depth =>
    rw [handedOver_map, h rfl]
    rfl
  · rw [handedOver_map, if_pos rfl]

/-- What one step does to the queue of `c`, in order. -/
structure Ordered (c : MessageClass) (w : World Tid) (l : Label Tid) (w' : World Tid) : Prop where
  ledger : (w.shared.queues c).items ++ acceptedIn c w l =
    (departedIn c w l).map Prod.snd ++ (w'.shared.queues c).items
  handed : handedOver (departedIn c w l) = l.taken c
  evicts : ∀ d ∈ departedIn c w l, d.1 = .taken ∨
    d.1 = .dropped ∧ (w.shared.queue c).policy = .dropOldest ∧
      (w.shared.queue c).capacity ≤ (w.shared.queues c).items.length ∨
    d.1 = .coalesced ∧ (w.shared.queue c).policy = .coalesce

theorem acceptedIn_perform (w : World Tid) (t : Tid) (st : BoundedIngress.Step) (c : MessageClass) :
    acceptedIn c w (w.perform t st).1 =
      if (w.shared.outcome st c).any (·.isAccepted) then (w.threads t).packet.toList else [] := by
  unfold acceptedIn perform BoundedIngress.outcome
  cases hc : st.cls with
  | none => simp
  | some cls =>
    rcases ha : w.shared.attempt st with _ | (⟨o, q⟩ | q)
    · simp
    · by_cases hcls : cls = c <;> simp [hcls]
    · simp

/-- A step that takes a thread through one critical section, with the packet it brought. -/
theorem Ordered.of_perform (hf : w.shared.Fits) {t : Tid} {st : BoundedIngress.Step}
    {c : MessageClass} (hp : (w.shared.outcome st c).any (·.isAccepted) = true →
      (w.threads t).packet = st.packet)
    (hs : w'.shared = w.shared.perform st) : Ordered c w (w.perform t st).1 w' := by
  obtain ⟨henter, hleft⟩ := w.shared.events_spec st c
  have hd : departedIn c w (w.perform t st).1 = Fifo.left (w.shared.events st c) := by
    rw [hleft, departedIn, perform_outcome, perform_taken]
  have hrun := (BoundedIngress.perform_section hf st c).moves.runs.ledger
  refine ⟨?_, ?_, ?_⟩
  · rw [hd, hs, ← hrun, henter, acceptedIn_perform]
    congr 1
    split
    · next hacc => rw [hp hacc]
    · rfl
  · rw [departedIn, perform_outcome, perform_taken]
    refine handedOver_departures fun ho => ?_
    -- a step that returns an outcome is a push, which hands nothing out
    unfold BoundedIngress.outcome at ho
    unfold BoundedIngress.takenFrom
    split at ho
    · next hcls =>
      rw [if_pos hcls]
      cases st <;> first | rfl | cases ho
    · cases ho
  · intro d hmem
    rw [departedIn, perform_outcome, perform_taken] at hmem
    unfold BoundedQueue.departures at hmem
    obtain ⟨hdrop, hcoal⟩ := w.shared.outcome_evicts st c
    split at hmem
    · next depth ho =>
      obtain ⟨p, -, rfl⟩ := List.mem_map.1 hmem
      exact .inr (.inl ⟨rfl, hdrop depth ho⟩)
    · next depth ho =>
      obtain ⟨p, -, rfl⟩ := List.mem_map.1 hmem
      exact .inr (.inr ⟨rfl, hcoal depth ho⟩)
    · obtain ⟨p, -, rfl⟩ := List.mem_map.1 hmem
      exact .inl rfl

theorem Ordered.silent {c : MessageClass} (hs : w'.shared = w.shared) : Ordered c w .silent w' := by
  have hd : departedIn c w (.silent : Label Tid) = [] := rfl
  refine ⟨?_, ?_, ?_⟩
  · rw [hd, hs]
    exact List.append_nil _
  · rw [hd]
    rfl
  · rw [hd]
    exact fun d hmem => absurd hmem List.not_mem_nil

theorem Pushes.packet_eq {t : Tid} {cls : MessageClass} {packet : IngressPacket}
    {deadline : Option Instant} {st : BoundedIngress.Step} (hp : w.Pushes t cls packet deadline st) :
    (w.threads t).packet = st.packet := by
  cases hp with
  | first hpc =>
    rw [hpc]
    rfl
  | again hpc =>
    rw [hpc]
    rfl

variable [DecidableEq Tid]

theorem step_ordered (hf : w.shared.Fits) {a : Action Tid} (h : step horizon w a = some (l, w'))
    (c : MessageClass) : Ordered c w l w' := by
  have hnone : ∀ {st : BoundedIngress.Step}, st.packet = none → ∀ {t : Tid},
      (w.shared.outcome st c).any (·.isAccepted) = true → (w.threads t).packet = st.packet := by
    intro st hp t hacc
    rw [(BoundedIngress.seen_of_no_packet hp).1] at hacc
    cases hacc
  cases step_acts h with
  | pass ns _ hl hw =>
    rw [hl]
    exact .silent (by rw [hw])
  | proceed t pc hp hl hw =>
    rw [hl]
    exact .silent (by rw [hw]; rfl)
  | wake t cls packet deadline since timedOut _ hpc hdue hl hw =>
    rw [hl]
    exact .silent (by rw [hw]; rfl)
  | quiet t st pc hq hl hw =>
    rw [hl]
    refine .of_perform hf ?_ (by rw [hw]; rfl)
    cases hq with
    | refuse hpc => exact hnone rfl
    | push hp ha => exact fun _ => hp.packet_eq
    | storeFlag hpc => exact hnone rfl
  | park t cls packet deadline st q _ hp ha hl hw =>
    rw [hl]
    exact .of_perform hf (fun _ => hp.packet_eq) (by rw [hw]; rfl)
  | notify t cls st pc us hn hl hw =>
    rw [hl]
    refine .of_perform hf ?_ (by rw [hw]; rfl)
    cases hn <;> exact hnone rfl

/-! ## Runs -/

/-- What holds of the queue of `c` at the end of a trace. -/
structure InOrder (c : MessageClass) (w₀ : World Tid) (trace : List (Label Tid × World Tid))
    (w : World Tid) : Prop where
  fits : w.shared.Fits
  queue : w.shared.queue c = w₀.shared.queue c
  ledger : acceptedAlong c w₀ trace =
    (departedAlong c w₀ trace).map Prod.snd ++ (w.shared.queues c).items
  handed : handedOver (departedAlong c w₀ trace) = deliveredAlong c w₀ trace
  evicts : Run.Each (fun v l _ => ∀ d ∈ departedIn c v l, d.1 = .taken ∨
    d.1 = .dropped ∧ (w₀.shared.queue c).policy = .dropOldest ∧
      (w₀.shared.queue c).capacity = (v.shared.queues c).items.length ∨
    d.1 = .coalesced ∧ (w₀.shared.queue c).policy = .coalesce) w₀ trace

omit [DecidableEq Tid] in
theorem InOrder.start {c : MessageClass} (hf : shared.Fits) (hnew : shared.queues c = .new) :
    InOrder c (World.start shared : World Tid) [] (World.start shared) := by
  refine ⟨hf, rfl, ?_, rfl, trivial⟩
  show [] = [] ++ (shared.queues c).items
  rw [hnew]
  rfl

theorem InOrder.step {c : MessageClass} {w₀ : World Tid} (hr : Run (step horizon) w₀ trace w)
    (hi : InOrder c w₀ trace w) {a : Action Tid} (h : step horizon w a = some (l, w')) :
    InOrder c w₀ (trace ++ [(l, w')]) w' := by
  obtain ⟨hledger, hhanded, hevicts⟩ := step_ordered hi.fits h c
  have hlast := Run.last_eq hr
  refine ⟨step_fits hi.fits h, (step_effect hi.fits h c).queue.trans hi.queue, ?_, ?_, ?_⟩
  · unfold acceptedAlong departedAlong
    rw [Run.collect_concat, Run.collect_concat, hlast, List.map_append, List.append_assoc, ← hledger,
      ← List.append_assoc]
    exact congrArg (· ++ acceptedIn c w l) hi.ledger
  · unfold departedAlong deliveredAlong
    rw [Run.collect_concat, Run.collect_concat, hlast, handedOver_append, hhanded]
    exact congrArg (· ++ l.taken c) hi.handed
  · refine (Run.each_concat _ _).2 ⟨hi.evicts, ?_⟩
    rw [hlast, ← hi.queue]
    intro d hd
    have hcap := Nat.le_trans (hi.fits c).depth (hi.fits c).highWaterMark
    rcases hevicts d hd with ht | ⟨hr, hp, hfull⟩ | hc
    · exact .inl ht
    · exact .inr (.inl ⟨hr, hp, Nat.le_antisymm hfull hcap⟩)
    · exact .inr (.inr hc)

theorem run_inOrder {c : MessageClass} (hf : shared.Fits) (hnew : shared.queues c = .new)
    (hr : Run (World.step horizon) (World.start shared : World Tid) trace w) :
    InOrder c (World.start shared) trace w := by
  induction hr with
  | refl => exact .start hf hnew
  | snoc a hr hs ih => exact ih.step hr hs

omit [DecidableEq Tid] in
theorem mem_collect {γ : Type} {f : World Tid → Label Tid → List γ} {P : γ → Prop} {v : World Tid}
    (h : Run.Each (fun v l _ => ∀ d ∈ f v l, P d) v trace) : ∀ d ∈ Run.collect f v trace, P d := by
  induction trace generalizing v with
  | nil => exact fun d hd => absurd hd List.not_mem_nil
  | cons e trace ih =>
    intro d hd
    rcases List.mem_append.1 hd with hd | hd
    · exact h.1 d hd
    · exact ih h.2 d hd

omit [DecidableEq Tid] in
/-- Only a policy that evicts makes a packet leave unless it is handed out. -/
theorem InOrder.delivered_eq_departed {c : MessageClass} {w₀ : World Tid} (hi : InOrder c w₀ trace w)
    (hdrop : (w₀.shared.queue c).policy ≠ .dropOldest)
    (hcoalesce : (w₀.shared.queue c).policy ≠ .coalesce) :
    deliveredAlong c w₀ trace = (departedAlong c w₀ trace).map Prod.snd := by
  have hall : ∀ d ∈ departedAlong c w₀ trace, d.1 = .taken := by
    refine mem_collect (hi.evicts.imp fun v l v' hev d hd => ?_)
    rcases hev d hd with ht | ⟨-, h, -⟩ | ⟨-, h⟩
    · exact ht
    · exact absurd h hdrop
    · exact absurd h hcoalesce
  have hkeep : (departedAlong c w₀ trace).filter (fun d => d.1 == .taken) =
      departedAlong c w₀ trace := by
    refine List.filter_eq_self.2 fun d hd => ?_
    rw [hall d hd]
    rfl
  rw [← hi.handed, handedOver, hkeep]

/-- **Queue contents follow acceptance order**, for every class and interleaving.  The contents
are the end of what was accepted, no more than the capacity; before them come, in order, the
packets that departed, and those the consumers got are these less the evicted ones. -/
theorem acceptance_order {config : IngressConfig} (hnew : BoundedIngress.new config = .ok shared)
    (hr : Run (step horizon) (World.start shared : World Tid) trace w) (c : MessageClass) :
    let accepted := acceptedAlong c (World.start shared) trace
    let delivered := deliveredAlong c (World.start shared) trace
    let departed := departedAlong c (World.start shared) trace
    let items := (w.shared.queues c).items
    (∃ gone, accepted = gone ++ items ∧ delivered.Sublist gone) ∧
    items.length ≤ config.effectiveCapacity c ∧
    (config.policy c = .reject ∨ config.policy c = .blockTimeout → accepted = delivered ++ items) ∧
    (config.policy c = .dropOldest → accepted = departed.map Prod.snd ++ items ∧
      delivered = handedOver departed ∧
      Run.Each (fun v l _ => ∀ d ∈ departedIn c v l, d.1 = .taken ∨
        d.1 = .dropped ∧ (v.shared.queues c).items.length = config.effectiveCapacity c)
        (World.start shared) trace) ∧
    (config.policy c = .coalesce → ∀ p ∈ items, items = [p] ∧ accepted.getLast? = some p) := by
  intro accepted delivered departed items
  obtain ⟨hv, rfl⟩ := BoundedIngress.new_eq_ok hnew
  have hi := run_inOrder (BoundedIngress.Fits.new hnew) rfl hr (c := c)
  have hledger : accepted = departed.map Prod.snd ++ items := hi.ledger
  have hhanded : delivered = handedOver departed := hi.handed.symm
  have hcap : items.length ≤ config.effectiveCapacity c := by
    have hqueue : w.shared.queue c = config.queue hv c := hi.queue
    have hle := Nat.le_trans (hi.fits c).depth (hi.fits c).highWaterMark
    rw [hqueue] at hle
    exact hle
  refine ⟨⟨departed.map Prod.snd, hledger, ?_⟩, hcap, fun hp => ?_, fun hp => ?_, fun hp p hmem => ?_⟩
  · rw [hhanded]
    exact List.filter_sublist.map Prod.snd
  · have hkeeps : config.policy c ≠ .dropOldest ∧ config.policy c ≠ .coalesce := by
      rcases hp with hp | hp <;> rw [hp] <;> exact ⟨nofun, nofun⟩
    have hdeparted : delivered = departed.map Prod.snd :=
      hi.delivered_eq_departed hkeeps.1 hkeeps.2
    rw [hledger, hdeparted]
  · refine ⟨hledger, hhanded, hi.evicts.imp fun v l v' hev d hd => ?_⟩
    rcases hev d hd with ht | ⟨hr, -, hfull⟩ | ⟨-, h⟩
    · exact .inl ht
    · exact .inr ⟨hr, hfull.symm⟩
    · have h : config.policy c = .coalesce := h
      rw [hp] at h
      cases h
  · have hone : items.length ≤ 1 := by
      simpa [IngressConfig.effectiveCapacity, hp] using hcap
    have hpos := List.length_pos_of_mem hmem
    obtain ⟨q, hitems⟩ := List.length_eq_one_iff.1 (show items.length = 1 by omega)
    rw [hitems, List.mem_singleton] at hmem
    subst hmem
    refine ⟨hitems, ?_⟩
    rw [hledger, hitems, List.getLast?_append, List.getLast?_singleton]
    rfl

/-- A packet with one stimulus. -/
def carrying (v : F32) : IngressPacket := { IngressPacket.default with stimuli := [v] }

/-- Three packets into a queue of two: the oldest is evicted, the next one handed out. -/
theorem acceptance_order_three_packets :
    ∃ (trace : List (Label Bool × World Bool)) (w : World Bool), Run (step 1000) tiny trace w ∧
      acceptedAlong .sensory tiny trace = [carrying 0, carrying .one, carrying .half] ∧
      departedAlong .sensory tiny trace = [(.dropped, carrying 0), (.taken, carrying .one)] ∧
      (w.shared.queues .sensory).items = [carrying .half] := by
  have hrun : (Run.exec (step 1000)
      (pushActions true .sensory (carrying 0) .never ++
        pushActions false .sensory (carrying .one) .never ++
        pushActions true .sensory (carrying .half) .honorPolicy ++ [.pop false .sensory none])
      ([], tiny)).map
      (fun r => (departedAlong .sensory tiny r.1, (r.2.shared.queues .sensory).items)) =
        some ([(.dropped, carrying 0), (.taken, carrying .one)], [carrying .half]) := by
    decide +kernel
  obtain ⟨⟨trace, w⟩, hx, hm⟩ := Option.map_eq_some_iff.1 hrun
  injection hm with hdeparted hitems
  have hr := Run.of_exec .refl hx
  have horder := acceptance_order tiny_new hr .sensory
  have haccepted : acceptedAlong .sensory tiny trace =
      (departedAlong .sensory tiny trace).map Prod.snd ++ (w.shared.queues .sensory).items :=
    (horder.2.2.2.1 rfl).1
  refine ⟨trace, w, hr, ?_, hdeparted, hitems⟩
  rw [haccepted, hdeparted, hitems]
  rfl

end World

end Brainstem.Ingress
