import Brainstem.Daemon.SensoryFate
import Brainstem.Lib.Rounds

/-!
# How old queued input can get

Every tick drains each class once, on every way out.  The drain serves one reward and one
sensory packet and takes all of control and telemetry, so a packet waits for as many drains as
its queue has places, at most:

    entered before the drain of tick i  <+:  gone by the end of that of tick i + C - 1  (bounded_age)
-/

namespace Brainstem.Daemon

open Brainstem.Health
open Brainstem.Ingress hiding Instant
open Fifo BoundedQueue

variable {Network Entropy : Type} {nm : Neuromod Network Entropy} {fl : ℚ → ℚ}
  {d d' d₀ : TickLoop Network} {trace : List (Label Entropy × TickLoop Network)}

/-! ## The drains of a trace -/

/-- The ledger of a queue around its drain in one tick. -/
structure DrainPoint where
  round : Round IngressPacket Leave
  tick : TickTrace

/-- `evs` is the ledger before the tick. -/
def DrainPoint.ofTick (c : MessageClass) (evs : Events) (d : TickLoop Network)
    (input : TickInput Entropy) (t : TickTrace) : DrainPoint :=
  let before := evs ++ d.ingress.eventsAlong (beforeDrain d input c) c
  let drained := (d.ingress.runSteps (beforeDrain d input c)).events (drainStep c) c
  ⟨⟨before, before ++ drained⟩, t⟩

def drainPoint (c : MessageClass) (evs : Events) (d : TickLoop Network) :
    Label Entropy → List DrainPoint
  | .ticked input t => [.ofTick c evs d input t]
  | .other _ => []

/-- One for each tick, in order. -/
def drainPoints (c : MessageClass) :
    TickLoop Network → Events → List (Label Entropy × TickLoop Network) → List DrainPoint
  | _, _, [] => []
  | d, evs, (l, d') :: rest =>
    drainPoint c evs d l ++ drainPoints c d' (evs ++ d.ingress.eventsAlong l.steps c) rest

def ticks (trace : List (Label Entropy × TickLoop Network)) : List TickTrace :=
  trace.filterMap fun e => match e.1 with
    | .ticked _ t => some t
    | .other _ => none

theorem drainPoints_concat (c : MessageClass) (d : TickLoop Network) (evs : Events)
    (trace : List (Label Entropy × TickLoop Network)) (l : Label Entropy) (d' : TickLoop Network) :
    drainPoints c d evs (trace ++ [(l, d')]) =
      drainPoints c d evs trace ++ drainPoint c (evs ++ ledger c d trace) (Run.last d trace) l := by
  induction trace generalizing d evs with
  | nil => simp [drainPoints, ledger, Run.last]
  | cons e trace ih =>
    obtain ⟨l', d''⟩ := e
    rw [List.cons_append, drainPoints, ih, drainPoints, ledger, Run.last, List.append_assoc,
      List.append_assoc]

/-! ## What a drain does to the ledger -/

/-- The queue fits its capacity when it is drained, and `served` says what leaves. -/
theorem drain_ledger {c : MessageClass} {evs : Events} (hf : d.ingress.Fits)
    (hmoves : Moves .new (d.ingress.queues c) evs) (input : TickInput Entropy) :
    let items := ((d.ingress.runSteps (beforeDrain d input c)).queues c).items
    Runs [] (evs ++ d.ingress.eventsAlong (beforeDrain d input c) c) items ∧
      items.length ≤ d.ingress.config.effectiveCapacity c := by
  intro items
  have hruns := (hmoves.append (BoundedIngress.runSteps_moves hf (beforeDrain d input c) c)).runs
  have hfits := hf.runSteps (beforeDrain d input c) c
  refine ⟨hruns, Nat.le_trans hfits.depth (Nat.le_trans hfits.highWaterMark ?_)⟩
  show (d.ingress.runSteps (beforeDrain d input c)).config.effectiveCapacity c ≤ _
  rw [BoundedIngress.runSteps_config]

/-! ## Runs -/

/-- What holds of the drains of a run, and of its ledger. -/
structure Aged (c : MessageClass) (d₀ : TickLoop Network)
    (trace : List (Label Entropy × TickLoop Network)) (d : TickLoop Network) : Prop where
  config : d.ingress.config = d₀.ingress.config
  ledger : ∀ p ∈ drainPoints c d₀ [] trace, p.round.through <+: ledger c d₀ trace
  rounds : Merges c → Rounds (d₀.ingress.config.effectiveCapacity c)
    ((drainPoints c d₀ [] trace).map DrainPoint.round)
  merged : Merges c → ∀ p ∈ drainPoints c d₀ [] trace, merged c p.tick.drained =
    (entered p.round.before)[(left p.round.before).length]?
  emptied : ¬Merges c → ∀ p ∈ drainPoints c d₀ [] trace,
    entered p.round.before = (left p.round.through).map Prod.snd

theorem left_served {c : MessageClass} {evs : Events} {items : List IngressPacket}
    (h : Runs [] evs items) (hc : ¬Merges c) :
    entered evs = (left (evs ++ (served c items).map (.leave .taken))).map Prod.snd := by
  have hall : served c items = items := by
    cases c with
    | sensory => exact absurd (.inl rfl) hc
    | reward => exact absurd (.inr rfl) hc
    | control => rfl
    | telemetry => rfl
  have hledger := h.ledger
  rw [List.nil_append] at hledger
  rw [hledger, hall, left_append, left_clear, List.map_append, List.map_map]
  simp [Function.comp_def]

theorem drainPoints_snoc (hr : Run (TickLoop.step nm fl) d₀ trace d) (c : MessageClass)
    (l : Label Entropy) (d' : TickLoop Network) : drainPoints c d₀ [] (trace ++ [(l, d')]) =
      drainPoints c d₀ [] trace ++ drainPoint c (ledger c d₀ trace) d l := by
  have hpoints := drainPoints_concat c d₀ [] trace l d'
  rw [List.nil_append, Run.last_eq hr] at hpoints
  exact hpoints

/-- One more tick adds one drain, of a queue that the ledger so far accounts for. -/
theorem Aged.tick {c : MessageClass} (ha : Aged c d₀ trace d) (hf : d₀.ingress.Fits)
    (hnew : d₀.ingress.queues c = .new) (hr : Run (TickLoop.step nm fl) d₀ trace d)
    (input : TickInput Entropy) :
    let r := runTickPublished nm fl d input
    Aged c d₀ (trace ++ [(.ticked input r.1, r.2)]) r.2 := by
  intro r
  have hkept := run_kept c hf hr
  obtain ⟨hruns, hlen⟩ := drain_ledger hkept.fits (hnew ▸ hkept.moves) input
  rw [ha.config] at hlen
  let point : DrainPoint := .ofTick c (Brainstem.Daemon.ledger c d₀ trace) d input r.1
  have hpoints : drainPoints c d₀ [] (trace ++ [(.ticked input r.1, r.2)]) =
      drainPoints c d₀ [] trace ++ [point] := drainPoints_snoc hr c _ _
  have hledger := ledger_concat c d₀ trace (.ticked input r.1) r.2
  rw [Run.last_eq hr] at hledger
  have hthrough : point.round.through = point.round.before ++
      (served c ((d.ingress.runSteps (beforeDrain d input c)).queues c).items).map
        (.leave .taken) := by
    rw [← events_drainStep]
    rfl
  have heach {P : DrainPoint → Prop} (hbefore : ∀ p ∈ drainPoints c d₀ [] trace, P p)
      (hpoint : P point) :
      ∀ p ∈ drainPoints c d₀ [] (trace ++ [(.ticked input r.1, r.2)]), P p := by
    intro p hp
    rw [hpoints, List.mem_append, List.mem_singleton] at hp
    rcases hp with hp | rfl
    · exact hbefore p hp
    · exact hpoint
  have hprefix : ∀ p ∈ drainPoints c d₀ [] trace, p.round.through <+: point.round.before :=
    fun p hp => (ha.ledger p hp).trans (List.prefix_append _ _)
  refine ⟨?_, heach ?_ ?_, fun hc => ?_, fun hc => heach (ha.merged hc) ?_,
    fun hc => heach (ha.emptied hc) (hthrough ▸ left_served hruns hc)⟩
  · rw [@steps_ingress _ _ nm fl _ _ _ (.ticked input), BoundedIngress.runSteps_config, ha.config]
  · intro p hp
    rw [hledger]
    exact (ha.ledger p hp).trans (List.prefix_append _ _)
  · have hsections : Label.steps (.ticked input r.1) =
        beforeDrain d input c ++ drainStep c :: afterDrain d input c := sections_eq d input nm fl c
    rw [hledger, hsections, BoundedIngress.eventsAlong_append, BoundedIngress.eventsAlong,
      ← List.append_assoc, ← List.append_assoc]
    exact List.prefix_append _ _
  · rw [hpoints, List.map_append, List.map_singleton]
    refine (ha.rounds hc).concat ⟨_, .taken, hruns, hlen, ?_⟩ ?_
    · rw [← served_of_merges hc]
      exact hthrough
    · intro round hround
      obtain ⟨p, hp, rfl⟩ := List.mem_map.1 hround
      exact hprefix p hp
  · exact (merged_drained nm fl d input hc).trans hruns.head?.symm

end Brainstem.Daemon
