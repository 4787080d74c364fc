import Brainstem.Ingress.Bounded

/-!
# The methods the tick loop calls

`try_enqueue`, `admit_backend_packet`, `drain_for_tick` and `metrics` are sequences of
atomic steps, and other threads may come between any two of them.  `Others` says what they
do there; each method gives the list of all steps that were made, its own and theirs, so
the state afterwards is `runSteps` of that list.

    Moves (s.queues c) ((s.runSteps steps).queues c) (s.eventsAlong steps c)   (runSteps_moves)
-/

namespace Brainstem.Ingress

/-- The places in a tick where the ingress is not locked by the tick. -/
inductive TickPoint where
  | loadFlag (cls : MessageClass)
  /-- between the load of the flag and the lock -/
  | enqueue (cls : MessageClass)
  | drain (cls : MessageClass)
  | metrics (cls : MessageClass)
  deriving DecidableEq, Repr

/-- What other threads do at each of these places. -/
abbrev Others := TickPoint → List BoundedIngress.Step

namespace BoundedIngress

/-! ## Sequences of steps -/

def runSteps (s : BoundedIngress) (steps : List Step) : BoundedIngress := steps.foldl perform s

@[simp] theorem runSteps_nil (s : BoundedIngress) : s.runSteps [] = s := rfl

@[simp] theorem runSteps_cons (s : BoundedIngress) (st : Step) (steps : List Step) :
    s.runSteps (st :: steps) = (s.perform st).runSteps steps := rfl

theorem runSteps_append (s : BoundedIngress) (l m : List Step) :
    s.runSteps (l ++ m) = (s.runSteps l).runSteps m := List.foldl_append

theorem runSteps_config (s : BoundedIngress) (steps : List Step) :
    (s.runSteps steps).config = s.config := by
  induction steps generalizing s with
  | nil => rfl
  | cons st steps ih => rw [runSteps_cons, ih, perform_config]

theorem Fits.runSteps {s : BoundedIngress} (hf : s.Fits) (steps : List Step) :
    (s.runSteps steps).Fits := by
  induction steps generalizing s with
  | nil => exact hf
  | cons st steps ih => exact ih (hf.perform st)

/-- The ledger of the queue of `c` along a sequence of steps. -/
def eventsAlong (s : BoundedIngress) : List Step → MessageClass → Events
  | [], _ => []
  | st :: steps, c => s.events st c ++ (s.perform st).eventsAlong steps c

theorem eventsAlong_append (s : BoundedIngress) (l m : List Step) (c : MessageClass) :
    s.eventsAlong (l ++ m) c = s.eventsAlong l c ++ (s.runSteps l).eventsAlong m c := by
  induction l generalizing s with
  | nil => rfl
  | cons st l ih => rw [List.cons_append, eventsAlong, ih, eventsAlong, List.append_assoc, runSteps_cons]

/-- **The ledger of one class over any sequence of steps.** -/
theorem runSteps_moves {s : BoundedIngress} (hf : s.Fits) (steps : List Step) (c : MessageClass) :
    BoundedQueue.Moves (s.queues c) ((s.runSteps steps).queues c) (s.eventsAlong steps c) := by
  induction steps generalizing s with
  | nil => exact .refl _
  | cons st steps ih => exact (perform_section hf st c).moves.append (ih (hf.perform st))

/-- It takes packets out of the queue of `c`. -/
def Step.consumes (st : Step) (c : MessageClass) : Bool := st == .pop c || st == .drainAll c

theorem takenPackets_events (s : BoundedIngress) (st : Step) (c : MessageClass) :
    BoundedQueue.takenPackets (s.events st c) = s.takenFrom st c := by
  unfold events takenFrom
  split
  · split
    · exact BoundedQueue.takenPackets_pushEvents _ _ _
    · exact BoundedQueue.takenPackets_pushEvents _ _ _
    · exact BoundedQueue.takenPackets_clear _
  · rfl

theorem takenFrom_eq_nil (s : BoundedIngress) {st : Step} {c : MessageClass}
    (h : st.consumes c = false) : s.takenFrom st c = [] := by
  unfold takenFrom
  split
  · next hc =>
    cases st with
    | pop cls =>
      cases hc
      simp [Step.consumes] at h
    | drainAll cls =>
      cases hc
      simp [Step.consumes] at h
    | _ => rfl
  · rfl

/-- Where nobody takes, nothing is taken. -/
theorem takenPackets_eventsAlong (s : BoundedIngress) {steps : List Step} {c : MessageClass}
    (h : ∀ st ∈ steps, st.consumes c = false) :
    BoundedQueue.takenPackets (s.eventsAlong steps c) = [] := by
  induction steps generalizing s with
  | nil => rfl
  | cons st steps ih =>
    rw [eventsAlong, BoundedQueue.takenPackets_append, takenPackets_events,
      takenFrom_eq_nil s (h st List.mem_cons_self),
      ih _ fun st' hst' => h st' (List.mem_cons_of_mem _ hst')]
    rfl

/-! ## The methods -/

/-- `try_enqueue`: it never waits, so there is no deadline and no clock reading. -/
def tryEnqueue (others : Others) (s : BoundedIngress) (cls : MessageClass) (packet : IngressPacket) :
    List Step :=
  let shuttingDown := (s.runSteps (others (.loadFlag cls))).shuttingDown
  others (.loadFlag cls) ++ others (.enqueue cls) ++
    [if shuttingDown then .refuse cls else .push cls packet none 0]

def enqueueParts (others : Others) (s : BoundedIngress) :
    List (MessageClass × IngressPacket) → List Step
  | [] => []
  | (cls, packet) :: parts =>
    let steps := s.tryEnqueue others cls packet
    steps ++ enqueueParts others (s.runSteps steps) parts

def admitBackendPacket (others : Others) (s : BoundedIngress) (packet : IngressPacket) : List Step :=
  s.enqueueParts others (admitParts packet)

/-- All control, one reward, one sensory, all telemetry. -/
def drainForTick (others : Others) (s : BoundedIngress) : List Step × DrainedTick :=
  let s₁ := s.runSteps (others (.drain .control))
  let s₂ := (s₁.perform (.drainAll .control)).runSteps (others (.drain .reward))
  let s₃ := (s₂.perform (.pop .reward)).runSteps (others (.drain .sensory))
  let s₄ := (s₃.perform (.pop .sensory)).runSteps (others (.drain .telemetry))
  (others (.drain .control) ++ .drainAll .control :: others (.drain .reward) ++
      .pop .reward :: others (.drain .sensory) ++ .pop .sensory :: others (.drain .telemetry) ++
      [.drainAll .telemetry],
    { control := (BoundedQueue.drainAll (s₁.queues .control)).1
      reward := (BoundedQueue.pop (s₂.queues .reward)).1
      sensory := (BoundedQueue.pop (s₃.queues .sensory)).1
      telemetryDrained := (BoundedQueue.drainAll (s₄.queues .telemetry)).1.length })

/-- `metrics()` locks the four queues one after the other, in this order. -/
def readMetrics (others : Others) (s : BoundedIngress) : List Step × (MessageClass → ClassMetrics) :=
  let s₁ := s.runSteps (others (.metrics .sensory))
  let s₂ := s₁.runSteps (others (.metrics .reward))
  let s₃ := s₂.runSteps (others (.metrics .control))
  let s₄ := s₃.runSteps (others (.metrics .telemetry))
  (others (.metrics .sensory) ++ others (.metrics .reward) ++ others (.metrics .control) ++
      others (.metrics .telemetry),
    fun
      | .sensory => s₁.metrics .sensory
      | .reward => s₂.metrics .reward
      | .control => s₃.metrics .control
      | .telemetry => s₄.metrics .telemetry)

/-! ## What they take -/

theorem tryEnqueue_consumes {others : Others} {s : BoundedIngress} {cls : MessageClass}
    {packet : IngressPacket} {c : MessageClass}
    (h : ∀ point, ∀ st ∈ others point, st.consumes c = false) :
    ∀ st ∈ s.tryEnqueue others cls packet, st.consumes c = false := by
  intro st hst
  unfold tryEnqueue at hst
  simp only [List.mem_append, List.mem_singleton] at hst
  rcases hst with (hst | hst) | rfl
  · exact h _ st hst
  · exact h _ st hst
  · split <;> rfl

theorem admitBackendPacket_consumes {others : Others} {c : MessageClass} (s : BoundedIngress)
    (packet : IngressPacket) (h : ∀ point, ∀ st ∈ others point, st.consumes c = false) :
    ∀ st ∈ s.admitBackendPacket others packet, st.consumes c = false := by
  unfold admitBackendPacket
  induction admitParts packet generalizing s with
  | nil => simp [enqueueParts]
  | cons part parts ih =>
    intro st hst
    rcases List.mem_append.1 hst with hst | hst
    · exact tryEnqueue_consumes h st hst
    · exact ih _ st hst

theorem readMetrics_consumes {others : Others} {s : BoundedIngress} {c : MessageClass}
    (h : ∀ point, ∀ st ∈ others point, st.consumes c = false) :
    ∀ st ∈ (s.readMetrics others).1, st.consumes c = false := by
  intro st hst
  unfold readMetrics at hst
  simp only [List.mem_append] at hst
  rcases hst with ((hst | hst) | hst) | hst <;> exact h _ st hst

/-! ## The shutdown -/

/-- `shutdown`: the shared flag, then the queues; `others` is what other threads do before
each of them is closed. -/
def shutdownSteps (others : MessageClass → List Step) : List Step :=
  .storeFlag :: MessageClass.byIndex.flatMap fun cls => others cls ++ [.close cls]

/-- No push is let in any more. -/
structure IsShut (s : BoundedIngress) : Prop where
  shuttingDown : s.shuttingDown = true
  closed : ∀ c, (s.queues c).closed = true

theorem perform_shuttingDown (s : BoundedIngress) (step : Step) :
    (s.perform step).shuttingDown = true ↔ s.shuttingDown = true ∨ step = .storeFlag := by
  cases step <;> simp [perform, setQueue]

/-- The flag and the queues close for good. -/
theorem runSteps_shut (s : BoundedIngress) (steps : List Step) :
    (s.shuttingDown = true ∨ .storeFlag ∈ steps → (s.runSteps steps).shuttingDown = true) ∧
      ∀ c, (s.queues c).closed = true ∨ .close c ∈ steps →
        ((s.runSteps steps).queues c).closed = true := by
  induction steps generalizing s with
  | nil => exact ⟨fun h => h.resolve_right List.not_mem_nil, fun c h => h.resolve_right List.not_mem_nil⟩
  | cons st steps ih =>
    obtain ⟨hflag, hclosed⟩ := ih (s.perform st)
    rw [runSteps_cons]
    refine ⟨fun h => hflag ?_, fun c h => hclosed c ?_⟩
    · rw [perform_shuttingDown, or_assoc, eq_comm (a := st), ← List.mem_cons]
      exact h
    · rw [perform_closed, or_assoc, eq_comm (a := st), ← List.mem_cons]
      exact h

theorem mem_shutdownSteps (others : MessageClass → List Step) (c : MessageClass) :
    .close c ∈ shutdownSteps others := by
  have hc : c ∈ MessageClass.byIndex := List.mem_of_getElem? c.byIndex_index
  exact List.mem_cons_of_mem _ (List.mem_flatMap.2
    ⟨c, hc, List.mem_append_right _ (List.mem_singleton_self _)⟩)

/-- **A shutdown shuts the handle**, whatever others did before it and do after it. -/
theorem isShut_of_shutdownSteps (s : BoundedIngress) (before after : List Step)
    (others : MessageClass → List Step) :
    (s.runSteps (before ++ shutdownSteps others ++ after)).IsShut := by
  have hmem : ∀ st ∈ shutdownSteps others, st ∈ before ++ shutdownSteps others ++ after :=
    fun st hst => List.mem_append_left _ (List.mem_append_right _ hst)
  obtain ⟨hflag, hclosed⟩ := runSteps_shut s (before ++ shutdownSteps others ++ after)
  exact ⟨hflag (.inr (hmem _ List.mem_cons_self)),
    fun c => hclosed c (.inr (hmem _ (mem_shutdownSteps others c)))⟩

end BoundedIngress

end Brainstem.Ingress
