import Brainstem.Daemon.Drain
import Brainstem.Daemon.StepInput

/-!
# What becomes of a sensory packet

The ledger of the sensory queue over a run of the tick loop, from admission to the network
step.  What entered is what left and what is queued, in this order; what left was evicted,
and is counted, or was drained by a tick; and a drained packet was stepped in that tick
unless the second gate refused it, together with the modulators drained beside it.

    entered = left ++ queued,   taken = drained by the ticks               (sensory_fate)
-/

namespace Brainstem.Daemon

open Brainstem.Health
open Brainstem.Ingress hiding Instant
open Fifo BoundedQueue

variable {Network Entropy : Type} {nm : Neuromod Network Entropy} {fl : ℚ → ℚ}
  {d d' d₀ : TickLoop Network} {trace : List (Label Entropy × TickLoop Network)}

/-- The atomic steps on the ingress behind a label. -/
def Label.steps : Label Entropy → List BoundedIngress.Step
  | .ticked _ t => t.sections
  | .other st => [st]

/-- Nobody but the tick loop takes packets of class `c`. -/
def Label.SoleConsumer (c : MessageClass) : Label Entropy → Prop
  | .ticked input _ => ∀ point, ∀ st ∈ input.others point, st.consumes c = false
  | .other st => st.consumes c = false

/-- The sensory packet that a tick drained. -/
def Label.drainedSensory : Label Entropy → List IngressPacket
  | .ticked _ t => t.drained.sensory.toList
  | .other _ => []

/-- Those that the ticks of a trace drained, in order. -/
def drainedSensory (trace : List (Label Entropy × TickLoop Network)) : List IngressPacket :=
  trace.flatMap fun e => e.1.drainedSensory

/-- The ledger of the queue of `c` along a trace that starts in `d`. -/
def ledger (c : MessageClass) : TickLoop Network → List (Label Entropy × TickLoop Network) → Events
  | _, [] => []
  | d, (l, d') :: rest => d.ingress.eventsAlong l.steps c ++ ledger c d' rest

theorem ledger_concat (c : MessageClass) (d : TickLoop Network)
    (trace : List (Label Entropy × TickLoop Network)) (l : Label Entropy) (d' : TickLoop Network) :
    ledger c d (trace ++ [(l, d')]) =
      ledger c d trace ++ (Run.last d trace).ingress.eventsAlong l.steps c := by
  induction trace generalizing d with
  | nil => simp [ledger, Run.last]
  | cons e trace ih =>
    rw [List.cons_append, ledger, ih, ledger, Run.last, List.append_assoc]

/-- On the ingress a step of the loop is the sequence of the atomic steps behind it. -/
theorem steps_ingress {l : Label Entropy} (h : Steps nm fl d l d') :
    d'.ingress = d.ingress.runSteps l.steps := by
  cases h <;> rfl

/-! ## One tick -/

/-- The drained packet has a value that is not finite. -/
def HasNonFinite (values : List F32) : Prop := ∃ v ∈ values, v.isFinite = false

theorem intoPacket_refused {drained : DrainedTick} {p : IngressPacket}
    (h : drained.sensory = some p) : firstNonFinite drained.intoPacket ≠ none ↔
      HasNonFinite p.stimuli ∨ ∃ r ∈ drained.reward, ∃ mods ∈ r.modulators, HasNonFinite mods := by
  have hall : ∀ values : List F32, HasNonFinite values ↔ ¬∀ v ∈ values, v.isFinite = true := by
    intro values
    simp [HasNonFinite]
  rw [Ne, firstNonFinite_eq_none, not_and_or]
  simp only [DrainedTick.intoPacket, h, Option.getD_some, hall]
  refine or_congr Iff.rfl ?_
  cases drained.reward with
  | none => simp
  | some r =>
    simp only [Option.bind_some, Option.mem_def, Option.some.injEq, exists_eq_left']
    cases r.modulators <;> simp

theorem slot_intoPacket {drained : DrainedTick} {p : IngressPacket} (h : drained.sensory = some p) :
    slot drained.intoPacket = slot p := by
  funext i
  simp only [slot, DrainedTick.intoPacket, h, Option.getD_some]

/-- What becomes of a sensory packet `p` that a tick drained: it is refused exactly if it has, or
the modulators drained in the same tick have, a value that is not finite; else the network is
stepped with its stimuli. -/
structure Fate (channels : ℕ) (p : IngressPacket) (t : TickTrace) : Prop where
  refused : t.stepped = none ↔ HasNonFinite p.stimuli ∨
    ∃ r ∈ t.drained.reward, ∃ mods ∈ r.modulators, HasNonFinite mods
  delivered : ∀ call, t.stepped = some call → call.stimuli = (List.range channels).map (slot p)

theorem tick_fate (nm : Neuromod Network Entropy) (fl : ℚ → ℚ) (input : TickInput Entropy) {p : IngressPacket}
    (hp : (runTick nm fl d input).1.drained.sensory = some p) :
    Fate d.stimuli.length p (runTick nm fl d input).1 := by
  generalize ht : (runTick nm fl d input).1 = t at hp
  have hstepped : t.stepped = (advance nm d input t.drained.intoPacket (ingest d input).stats
    (ingest d input).diagnostics).stepped := by
    rw [← ht]
    rfl
  have hrefused := intoPacket_refused hp
  cases h : firstNonFinite t.drained.intoPacket with
  | some offender =>
    rw [advance_eq_refused _ _ _ _ _ _ h] at hstepped
    refine ⟨⟨fun _ => hrefused.1 (by simp [h]), fun _ => hstepped⟩, ?_⟩
    intro call hcall
    rw [hstepped] at hcall
    cases hcall
  | none =>
    rw [(advance_stepped nm d input _ _ _ h).1] at hstepped
    refine ⟨⟨fun hnone => ?_, fun hbad => absurd h (hrefused.2 hbad)⟩, ?_⟩
    · rw [hstepped] at hnone
      cases hnone
    · intro call hcall
      rw [hstepped, Option.some.injEq] at hcall
      subst hcall
      rw [← slot_intoPacket hp]
      exact decodeInputs_stimuli _ _

/-! ## Runs -/

/-- What a run keeps of the queue of `c`. -/
structure Kept (c : MessageClass) (d₀ : TickLoop Network)
    (trace : List (Label Entropy × TickLoop Network)) (d : TickLoop Network) : Prop where
  fits : d.ingress.Fits
  moves : Moves (d₀.ingress.queues c) (d.ingress.queues c) (ledger c d₀ trace)

theorem run_kept (c : MessageClass) (hf : d₀.ingress.Fits) (hr : Run (TickLoop.step nm fl) d₀ trace d) :
    Kept c d₀ trace d := by
  induction hr with
  | refl => exact ⟨hf, .refl _⟩
  | @snoc trace d d' l a hr hs ih =>
    have hingress := steps_ingress (steps_of_step hs)
    refine ⟨?_, ?_⟩
    · rw [hingress]
      exact ih.fits.runSteps _
    · rw [ledger_concat, Run.last_eq hr, hingress]
      exact ih.moves.append (BoundedIngress.runSteps_moves ih.fits _ c)

theorem run_takes (hr : Run (TickLoop.step nm fl) d₀ trace d)
    (hsole : ∀ e ∈ trace, e.1.SoleConsumer .sensory) :
    takenPackets (ledger .sensory d₀ trace) = drainedSensory trace := by
  induction hr with
  | refl => rfl
  | @snoc trace d d' l a hr hs ih =>
    have hl : l.SoleConsumer .sensory := hsole (l, d') (by simp)
    have hdrained : drainedSensory (trace ++ [(l, d')]) = drainedSensory trace ++ l.drainedSensory := by
      simp [drainedSensory]
    rw [ledger_concat, Run.last_eq hr, takenPackets_append,
      ih fun e he => hsole e (List.mem_append_left _ he), hdrained]
    congr 1
    cases steps_of_step hs with
    | other st =>
      refine BoundedIngress.takenPackets_eventsAlong _ ?_
      intro st' hst'
      rw [Label.steps, List.mem_singleton] at hst'
      subst hst'
      exact hl
    | ticked input => exact takenPackets_sections hl (.inl rfl) nm fl

/-- **No admitted sensory packet is lost.**  Of those that entered the queue each, in order, was
dropped, was coalesced, was drained by a tick, or is still queued; the first two are what the
counters say; and a drained one has the `Fate` of that tick. -/
theorem sensory_fate {net : NetParsers} {cfg : DaemonConfig} (h0 : Enters nm net fl cfg d₀)
    (hr : Run (TickLoop.step nm fl) d₀ trace d) (hsole : ∀ e ∈ trace, e.1.SoleConsumer .sensory) :
    let q := d.ingress.queues .sensory
    let evs := ledger .sensory d₀ trace
    entered evs = (left evs).map Prod.snd ++ q.items ∧
    q.accepted = (entered evs).length ∧
    q.dropped = leftCount (· == .dropped) evs ∧
    q.coalesced = leftCount (· == .coalesced) evs ∧
    takenPackets evs = drainedSensory trace ∧
    Run.Each (fun d l _ => ∀ input t p, l = .ticked input t → t.drained.sensory = some p →
      Fate d.stimuli.length p t) d₀ trace := by
  intro q evs
  have hnew : d₀.ingress.queues .sensory = .new := by
    obtain ⟨hv, hi⟩ := BoundedIngress.new_eq_ok h0.ingress_new
    rw [hi]
  have hkept := run_kept .sensory (BoundedIngress.Fits.new h0.ingress_new) hr
  have hmoves : Moves .new q evs := hnew ▸ hkept.moves
  refine ⟨hmoves.runs.ledger, ?_, ?_, ?_, run_takes hr hsole, ?_⟩
  · rw [hmoves.accepted, QueueState.new, Nat.zero_add]
  · rw [hmoves.dropped, QueueState.new, Nat.zero_add]
  · rw [hmoves.coalesced, QueueState.new, Nat.zero_add]
  · refine (Run.each (I := fun _ => True) trivial (fun _ _ _ _ _ _ => trivial) ?_ hr).2
    intro d a l d' _ hs input t p hl hp
    cases steps_of_step hs with
    | other st => cases hl
    | ticked _ =>
      cases hl
      exact tick_fate nm fl input hp

/-- One tick of the quiet daemon, after other threads made the given steps. -/
def tickAfter (sts : List BoundedIngress.Step) : TickTrace × TickLoop (ℕ × ℕ × ℕ) :=
  runTickPublished .quiet id
    { TickLoop.quiet id with ingress := (TickLoop.quiet id).ingress.runSteps sts } .idle

/-- A short packet is enqueued, and the tick steps the network with it. -/
theorem sensory_fate_delivered :
    let p : IngressPacket := { IngressPacket.default with stimuli := [.one] }
    let r := tickAfter [.push .sensory p none 0]
    r.1.drained.sensory = some p ∧
      r.1.stepped.map StepCall.stimuli = some ((List.range 2).map (slot p)) := by
  intro p r
  let st : BoundedIngress.Step := .push .sensory p none 0
  have hr : Run (TickLoop.step .quiet id) (TickLoop.quiet id)
      [(.other st, { TickLoop.quiet id with ingress := (TickLoop.quiet id).ingress.runSteps [st] }),
        (.ticked .idle r.1, r.2)] r.2 :=
    .snoc (.tick .idle) (.snoc (.other st) .refl rfl) rfl
  obtain ⟨-, -, -, -, -, -, hfate, -⟩ := sensory_fate (TickLoop.enters_quiet id) hr (by
    intro e he
    rcases List.mem_cons.1 he with rfl | he
    · rfl
    · rw [List.mem_singleton] at he
      subst he
      intro point st' hst'
      cases hst')
  have hp : r.1.drained.sensory = some p := rfl
  have hcall : r.1.stepped = some ⟨[.one, 0], ⟨.half, .half, .half, .half⟩, .ok []⟩ := rfl
  have hdelivered := (hfate .idle r.1 p rfl hp).delivered _ hcall
  refine ⟨hp, ?_⟩
  rw [hcall]
  exact congrArg some hdelivered

/-- A finite sensory packet and a reward packet with a NaN are drained in one tick: the sensory
packet is gone, it was not evicted, and the network was not stepped. -/
theorem finite_sensory_refused : ∃ (trace : List (Label Unit × TickLoop (ℕ × ℕ × ℕ)))
    (d : TickLoop (ℕ × ℕ × ℕ)) (t : TickTrace) (p : IngressPacket),
    Enters .quiet .any id .quiet (TickLoop.quiet id) ∧
    Run (TickLoop.step .quiet id) (TickLoop.quiet id) trace d ∧
    trace.getLast? = some (.ticked .idle t, d) ∧
    t.drained.sensory = some p ∧ (∀ v ∈ p.stimuli, v.isFinite = true) ∧ t.stepped = none ∧
    (d.ingress.queues .sensory).metrics = ⟨1, 0, 0, 0, 0, 0, 1, 0, 0⟩ := by
  let p : IngressPacket := { IngressPacket.default with stimuli := [.one] }
  let sensory : BoundedIngress.Step := .push .sensory p none 0
  let reward : BoundedIngress.Step :=
    .push .reward { IngressPacket.default with modulators := some [.nan] } none 0
  let d₁ := { TickLoop.quiet id with ingress := (TickLoop.quiet id).ingress.perform sensory }
  let d₂ := { d₁ with ingress := d₁.ingress.perform reward }
  let r := runTickPublished .quiet id d₂ .idle
  have hr : Run (TickLoop.step .quiet id) (TickLoop.quiet id)
      [(.other sensory, d₁), (.other reward, d₂), (.ticked .idle r.1, r.2)] r.2 :=
    .snoc (.tick .idle) (.snoc (.other reward) (.snoc (.other sensory) .refl rfl) rfl) rfl
  have hfinite : ∀ v ∈ p.stimuli, v.isFinite = true := by decide
  have hmetrics : (r.2.ingress.queues .sensory).metrics = ⟨1, 0, 0, 0, 0, 0, 1, 0, 0⟩ := by
    decide +kernel
  exact ⟨_, r.2, r.1, p, TickLoop.enters_quiet id, hr, rfl, rfl, hfinite, rfl, hmetrics⟩

end Brainstem.Daemon
