import Brainstem.Daemon.Effects

/-!
# The drain of one class in a tick

The atomic steps of a tick are those before it drains a class, that drain, and those after it,
whatever way the tick ends.  If nobody but the tick loop takes packets of a class that goes into
the network step, what the tick takes is what it merges:

    takenPackets (the ledger of the tick) = (merged c drained).toList      (takenPackets_sections)
-/

namespace Brainstem.Daemon

open Brainstem.Health
open Brainstem.Ingress hiding Instant
open Fifo BoundedQueue

variable {Network Entropy : Type} {d : TickLoop Network}

/-! ## Before and after -/

section Drain

variable (d : TickLoop Network) (input : TickInput Entropy)

/-- The step that drains `c`. -/
def drainStep : MessageClass → BoundedIngress.Step
  | .control => .drainAll .control
  | .reward => .pop .reward
  | .sensory => .pop .sensory
  | .telemetry => .drainAll .telemetry

/-- The steps of a tick before it drains `c`. -/
def beforeDrain (c : MessageClass) : List BoundedIngress.Step :=
  let admission := (accountAndAdmit d input).2
  let control := admission ++ input.others (.drain .control)
  let reward := control ++ drainStep .control :: input.others (.drain .reward)
  let sensory := reward ++ drainStep .reward :: input.others (.drain .sensory)
  match c with
  | .control => control
  | .reward => reward
  | .sensory => sensory
  | .telemetry => sensory ++ drainStep .sensory :: input.others (.drain .telemetry)

/-- The steps of a tick after it has drained `c`. -/
def afterDrain (c : MessageClass) : List BoundedIngress.Step :=
  let admitted := d.ingress.runSteps (accountAndAdmit d input).2
  let drained := admitted.runSteps (admitted.drainForTick input.others).1
  let telemetry := (queuePressure input.others drained).1
  let sensory := input.others (.drain .telemetry) ++ drainStep .telemetry :: telemetry
  let reward := input.others (.drain .sensory) ++ drainStep .sensory :: sensory
  match c with
  | .control => input.others (.drain .reward) ++ drainStep .reward :: reward
  | .reward => reward
  | .sensory => sensory
  | .telemetry => telemetry

/-- **A tick drains each class once**, whatever it ends in. -/
theorem sections_eq (nm : Neuromod Network Entropy) (fl : ℚ → ℚ) (c : MessageClass) :
    (runTick nm fl d input).1.sections =
      beforeDrain d input c ++ drainStep c :: afterDrain d input c := by
  let admitted := d.ingress.runSteps (accountAndAdmit d input).2
  let reads := (queuePressure input.others (admitted.runSteps (admitted.drainForTick input.others).1)).1
  have hsections : (runTick nm fl d input).1.sections =
      (accountAndAdmit d input).2 ++
        (input.others (.drain .control) ++ drainStep .control :: input.others (.drain .reward) ++
          drainStep .reward :: input.others (.drain .sensory) ++
          drainStep .sensory :: input.others (.drain .telemetry) ++ [drainStep .telemetry]) ++
        reads := rfl
  have hreads : (queuePressure input.others
      (admitted.runSteps (admitted.drainForTick input.others).1)).1 = reads := rfl
  rw [hsections]
  unfold beforeDrain afterDrain
  dsimp only
  rw [hreads]
  cases c with
  | _ => simp only [List.append_assoc, List.cons_append, List.nil_append]

end Drain

/-- The packets that the drain of `c` takes out of these. -/
def served : MessageClass → List IngressPacket → List IngressPacket
  | .reward, items | .sensory, items => items.head?.toList
  | .control, items | .telemetry, items => items

theorem events_drainStep (s : BoundedIngress) (c : MessageClass) :
    s.events (drainStep c) c = (served c (s.queues c).items).map (.leave .taken) := by
  cases c <;> rfl

/-- What the drain of a class gives to the merge. -/
def merged : MessageClass → DrainedTick → Option IngressPacket
  | .sensory, drained => drained.sensory
  | .reward, drained => drained.reward
  | .control, _ | .telemetry, _ => none

/-- One packet of the class goes into the packet of the network step. -/
def Merges (c : MessageClass) : Prop := c = .sensory ∨ c = .reward

theorem served_of_merges {c : MessageClass} (hc : Merges c) (items : List IngressPacket) :
    served c items = items.head?.toList := by
  rcases hc with rfl | rfl <;> rfl

theorem merged_drained (nm : Neuromod Network Entropy) (fl : ℚ → ℚ) (d : TickLoop Network)
    (input : TickInput Entropy) {c : MessageClass} (hc : Merges c) :
    merged c (runTick nm fl d input).1.drained =
      ((d.ingress.runSteps (beforeDrain d input c)).queues c).items.head? := by
  have hdrained : (runTick nm fl d input).1.drained =
      ((d.ingress.runSteps (accountAndAdmit d input).2).drainForTick input.others).2 := rfl
  rw [hdrained]
  rcases hc with rfl | rfl
  · simp only [beforeDrain, BoundedIngress.runSteps_append, BoundedIngress.runSteps_cons]
    rfl
  · simp only [beforeDrain, BoundedIngress.runSteps_append, BoundedIngress.runSteps_cons]
    rfl

/-! ## Sole consumers -/

section Sole

variable {input : TickInput Entropy} {c : MessageClass}
  (h : ∀ point, ∀ st ∈ input.others point, st.consumes c = false)
include h

theorem accountAndAdmit_consumes :
    ∀ st ∈ (accountAndAdmit d input).2, st.consumes c = false := by
  have hnil : ∀ st ∈ ([] : List BoundedIngress.Step), st.consumes c = false := by simp
  have hadmit := fun p : IngressPacket =>
    BoundedIngress.admitBackendPacket_consumes d.ingress p h
  unfold accountAndAdmit
  simp only
  split
  · unfold accountAndAdmitBackendPacket
    split
    · split
      · exact hadmit _
      · exact hnil
    · exact hadmit _
  · exact hnil

theorem beforeDrain_consumes (hc : Merges c) :
    ∀ st ∈ beforeDrain d input c, st.consumes c = false := by
  have hadmit := accountAndAdmit_consumes h (d := d)
  intro st hst
  rcases hc with rfl | rfl
  · simp only [beforeDrain, List.mem_append, List.mem_cons] at hst
    rcases hst with ((hst | hst) | rfl | hst) | rfl | hst
    · exact hadmit st hst
    · exact h _ st hst
    · rfl
    · exact h _ st hst
    · rfl
    · exact h _ st hst
  · simp only [beforeDrain, List.mem_append, List.mem_cons] at hst
    rcases hst with (hst | hst) | rfl | hst
    · exact hadmit st hst
    · exact h _ st hst
    · rfl
    · exact h _ st hst

theorem afterDrain_consumes (hc : Merges c) :
    ∀ st ∈ afterDrain d input c, st.consumes c = false := by
  have hreads : ∀ s : BoundedIngress, ∀ st ∈ (queuePressure input.others s).1,
      st.consumes c = false := fun s => BoundedIngress.readMetrics_consumes (s := s) h
  intro st hst
  rcases hc with rfl | rfl
  · simp only [afterDrain, List.mem_append, List.mem_cons] at hst
    rcases hst with hst | rfl | hst
    · exact h _ st hst
    · rfl
    · exact hreads _ st hst
  · simp only [afterDrain, List.mem_append, List.mem_cons] at hst
    rcases hst with hst | rfl | hst | rfl | hst
    · exact h _ st hst
    · rfl
    · exact h _ st hst
    · rfl
    · exact hreads _ st hst

/-- What a tick takes out of a class that merges is what its drain serves. -/
theorem takenPackets_sections (hc : Merges c) (nm : Neuromod Network Entropy) (fl : ℚ → ℚ) :
    takenPackets (d.ingress.eventsAlong (runTick nm fl d input).1.sections c) =
      (merged c (runTick nm fl d input).1.drained).toList := by
  rw [sections_eq d input nm fl c, BoundedIngress.eventsAlong_append, BoundedIngress.eventsAlong,
    takenPackets_append, takenPackets_append,
    BoundedIngress.takenPackets_eventsAlong _ (beforeDrain_consumes h hc),
    BoundedIngress.takenPackets_eventsAlong _ (afterDrain_consumes h hc), events_drainStep,
    takenPackets_clear, served_of_merges hc, merged_drained nm fl d input hc, List.nil_append,
    List.append_nil]

end Sole

end Brainstem.Daemon
