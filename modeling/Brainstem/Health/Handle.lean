import Brainstem.Health.Consistency

/-!
# The health handle

The machine stands behind a lock.  `apply` takes it for writing, `try_snapshot` reads only
while nobody writes, so what a reader gets is the machine between two events.  Events only
move it forward: a counter never falls, and starting, draining and a fatal state stay.
-/

namespace Brainstem.Health

/-! ## Forward -/

theorem RuntimeCounters.Le.refl (a : RuntimeCounters) : a.Le a :=
  ⟨le_rfl, le_rfl, le_rfl, le_rfl, le_rfl, le_rfl, le_rfl, le_rfl⟩

theorem RuntimeCounters.Le.trans {a b c : RuntimeCounters} (h : a.Le b) (h' : b.Le c) : a.Le c where
  ticks := h.ticks.trans h'.ticks
  acceptedBatches := h.acceptedBatches.trans h'.acceptedBatches
  rejectedBatches := h.rejectedBatches.trans h'.rejectedBatches
  receiveErrors := h.receiveErrors.trans h'.receiveErrors
  emitErrors := h.emitErrors.trans h'.emitErrors
  droppedSpikes := h.droppedSpikes.trans h'.droppedSpikes
  diagnosticEmissions := h.diagnosticEmissions.trans h'.diagnosticEmissions
  suppressedDiagnostics := h.suppressedDiagnostics.trans h'.suppressedDiagnostics

theorem RuntimeCounters.le_mergedMonotonic (a b : RuntimeCounters) : a.Le (a.mergedMonotonic b) := by
  constructor <;> exact le_max_left _ _

namespace HealthMachine

/-- What no event takes back. -/
structure Forward (m m' : HealthMachine) : Prop where
  counters : m.counters.Le m'.counters
  started : m.started = true → m'.started = true
  draining : m.draining = true → m'.draining = true
  fatal : ∀ f, m.fatal = some f → m'.fatal = some f

theorem Forward.refl (m : HealthMachine) : Forward m m := ⟨.refl _, id, id, fun _ => id⟩

theorem Forward.trans {a b c : HealthMachine} (h : Forward a b) (h' : Forward b c) : Forward a c where
  counters := h.counters.trans h'.counters
  started := h'.started ∘ h.started
  draining := h'.draining ∘ h.draining
  fatal f := h'.fatal f ∘ h.fatal f

theorem enterFatal_forward (m : HealthMachine) (code : FatalCode) (detail : String) :
    Forward m (m.enterFatal code detail) := by
  unfold enterFatal
  split
  · exact .refl m
  · next hnone =>
    refine ⟨.refl _, id, id, fun f hf => ?_⟩
    rw [hf] at hnone
    exact absurd rfl hnone

theorem fatalIfStarted_forward (m : HealthMachine) (code : FatalCode) (detail : String) :
    Forward m (m.fatalIfStarted code detail) := by
  unfold fatalIfStarted
  split
  · exact m.enterFatal_forward code detail
  · exact .refl m

theorem apply_forward (fl : ℚ → ℚ) (m : HealthMachine) (e : HealthEvent) (now : Instant) :
    Forward m (m.apply fl e now) := by
  cases e with
  | processStarted =>
    show Forward m (m.markStarted now)
    unfold markStarted
    split
    · exact .refl m
    · exact ⟨.refl _, fun _ => rfl, id, fun _ => id⟩
  | initializationCompleted =>
    show Forward m m.markInitialized
    unfold markInitialized
    split
    · exact ⟨.refl _, id, id, fun _ => id⟩
    · exact .refl m
  | initializationFailed detail => exact m.fatalIfStarted_forward _ detail
  | checkpointValidated identity =>
    show Forward m (if m.canAcceptCheckpoint then
      { m with checkpoint := some identity, checkpointOk := true, checkpointAt := some now } else m)
    split
    · exact ⟨.refl _, id, id, fun _ => id⟩
    · exact .refl m
  | checkpointRejected detail => exact m.fatalIfStarted_forward _ detail
  | tickSucceeded => exact ⟨.refl _, id, id, fun _ => id⟩
  | ingressObserved => exact ⟨.refl _, id, id, fun _ => id⟩
  | queuePressure depth capacity => exact ⟨.refl _, id, id, fun _ => id⟩
  | countersPublished next => exact ⟨m.counters.le_mergedMonotonic next, id, id, fun _ => id⟩
  | beginDrain =>
    show Forward m (if m.fatal.isNone then { m with draining := true } else m)
    split
    · exact ⟨.refl _, id, fun _ => rfl, fun _ => id⟩
    · exact .refl m
  | fatal code detail => exact m.enterFatal_forward code detail

theorem run_forward (fl : ℚ → ℚ) (m : HealthMachine) (events : List (HealthEvent × Instant)) :
    Forward m (m.run fl events) := by
  induction events generalizing m with
  | nil => exact .refl m
  | cons e events ih => exact (m.apply_forward fl e.1 e.2).trans (ih _)

end HealthMachine

/-- What a supervisor can rely on when it reads one snapshot after another. -/
structure HealthSnapshot.Forward (s s' : HealthSnapshot) : Prop where
  counters : s.counters.Le s'.counters
  live : s.live = true → s'.live = true
  fatal : ∀ f, s.fatal = some f → s'.fatal = some f
  withdrawn : s.phase = .draining ∨ s.phase = .fatal → s'.ready = false

theorem HealthMachine.draining_of_phase {m : HealthMachine} {stale : Bool}
    (h : m.phase stale = .draining) : m.draining = true := by
  by_contra hdraining
  rw [Bool.not_eq_true] at hdraining
  unfold HealthMachine.phase terminalPhase at h
  rw [hdraining] at h
  split at h
  · cases h
  · -- no other phase is called draining
    unfold operationalPhase checkpointPhase at h
    simp only [Bool.false_eq_true, if_false, Option.getD_none] at h
    split at h
    · cases h
    · split at h
      · cases h
      · split at h <;> cases h

theorem HealthMachine.Forward.snapshot {m m' : HealthMachine} (h : m.Forward m') (fl : ℚ → ℚ)
    (now now' : Instant) : (m.snapshot fl now).Forward (m'.snapshot fl now') where
  counters := h.counters
  live := h.started
  fatal := h.fatal
  withdrawn := by
    show m.phase (m.computeStale now) = .draining ∨ m.phase (m.computeStale now) = .fatal →
      m'.isReady = false
    unfold HealthMachine.isReady isServing
    rintro (hphase | hphase)
    · rw [h.draining (draining_of_phase hphase)]
      simp
    · obtain ⟨f, hf⟩ := Option.isSome_iff_exists.1 (phase_eq_fatal.1 hphase)
      rw [h.fatal f hf]
      simp

/-! ## The lock -/

/-- The machine, and whether an `apply` is under way. -/
structure HealthHandle where
  inner : HealthMachine
  writing : Bool

namespace HealthHandle

variable (fl : ℚ → ℚ)

def fromMachine (machine : HealthMachine) : HealthHandle := ⟨machine, false⟩

def started (limits : HealthLimits) (now : Instant) : HealthHandle :=
  fromMachine ((HealthMachine.new fl limits).apply fl .processStarted now)

/-- An `apply` takes the lock, once nobody else writes. -/
def beginApply (self : HealthHandle) : Option HealthHandle :=
  if self.writing then none else some { self with writing := true }

/-- It changes the machine and gives the lock back. -/
def endApply (self : HealthHandle) (event : HealthEvent) (now : Instant) : HealthHandle :=
  ⟨self.inner.apply fl event now, false⟩

def trySnapshot (self : HealthHandle) (now : Instant) : Option HealthSnapshot :=
  if self.writing then none else some (self.inner.snapshot fl now)

theorem trySnapshot_eq_none {self : HealthHandle} {now : Instant} :
    self.trySnapshot fl now = none ↔ self.writing = true := by
  unfold trySnapshot
  split
  · next hwriting => exact ⟨fun _ => hwriting, fun _ => rfl⟩
  · next hfree =>
    constructor
    · intro h
      cases h
    · exact fun h => absurd h hfree

theorem trySnapshot_eq_some {self : HealthHandle} {now : Instant} {snap : HealthSnapshot}
    (h : self.trySnapshot fl now = some snap) : snap = self.inner.snapshot fl now := by
  unfold trySnapshot at h
  split at h
  · cases h
  · cases h
    rfl

theorem inner_beginApply {self self' : HealthHandle} (h : self.beginApply = some self') :
    self'.inner = self.inner := by
  unfold beginApply at h
  split at h
  · cases h
  · cases h
    rfl

end HealthHandle

end Brainstem.Health
