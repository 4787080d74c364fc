import Brainstem.Daemon.Lifecycle

/-!
# The order of the calls on the backend

Whatever the pair answers, the calls of a run are `initialize`, one round for each tick, and
the two calls that clean up:

    calls = .initializeWith path :: rounds.flatten ++ [.flush, .shutdown]    (backend_protocol)

There are no rounds if the boot failed, and nothing but the cleanup if the control surface
could not be bound.
-/

namespace Brainstem.Daemon

open Brainstem.Health
open Brainstem.Ingress hiding Instant

variable {Network Entropy : Type}

/-- A poll of the source and at most one emission. -/
def IsRound (calls : List BackendCall) : Prop :=
  calls = [.nextIngress] ∨ ∃ spikes batchTime, calls = [.nextIngress, .emit spikes batchTime]

/-- The calls of a run that made `n` ticks. -/
def InOrder (modelPath : String) (n : ℕ) (calls : List BackendCall) : Prop :=
  ∃ rounds : List (List BackendCall), rounds.length = n ∧ (∀ r ∈ rounds, IsRound r) ∧
    calls = .initializeWith modelPath :: rounds.flatten ++ [.flush, .shutdown]

/-- The source initialized, and the network was restored and passed the checks. -/
def Boots (nm : Neuromod Network Entropy)
    (restore : DaemonConfig → Except String (Network × ModelProvenance)) (answers : BackendAnswers)
    (cfg : DaemonConfig) (restored : Option (Network × ModelProvenance)) : Prop :=
  answers.initialized = .ok () ∧ ∃ pair, takeRestoredNetwork nm restore cfg restored = .ok pair

/-- What `run_for_ticks` keeps to. -/
structure BoundedProtocol (booted : Prop) (modelPath : String) (answers : BackendAnswers)
    (ticks : ℕ) (r : Returned RuntimeStats) : Prop where
  ticked : booted → InOrder modelPath ticks r.calls
  aborted : ¬booted → InOrder modelPath 0 r.calls
  shut : r.ingress.IsShut
  error_iff : (∃ e, r.result = .error e) ↔
    ¬booted ∨ (∃ e, answers.flush = .error e) ∨ ∃ e, answers.shutdown = .error e
  flush_first : booted → (∃ e, answers.flush = .error e) →
    r.result = .error "failed to flush spike sink"

/-- What `run_loop` keeps to. -/
structure LoopProtocol (control : Except String Unit) (booted : Prop) (modelPath : String)
    (ticks : ℕ) (r : Returned Unit) : Prop where
  unbound : ∀ e, control = .error e → r.calls = [.flush, .shutdown] ∧ r.result = .error e
  ticked : control = .ok () → booted → InOrder modelPath ticks r.calls ∧ r.result = .ok ()
  aborted : control = .ok () → ¬booted → InOrder modelPath 0 r.calls ∧ ∃ e, r.result = .error e
  shut : r.ingress.IsShut

variable {nm : Neuromod Network Entropy} {fl : ℚ → ℚ}
  {restore : DaemonConfig → Except String (Network × ModelProvenance)} {answers : BackendAnswers}
  {around : Around Entropy} {self : BrainstemDaemon}

/-! ## The boot -/

theorem boots_iff {cfg : DaemonConfig} {restored : Option (Network × ModelProvenance)} :
    Boots nm restore answers cfg restored ↔
      ∃ pair, (bootNetwork nm restore answers.initialized cfg restored).2 = .ok pair := by
  simp only [Boots, bootNetwork_eq_ok, exists_and_left]

/-- The state in which the ticks start is one in which a daemon enters the loop. -/
theorem enters_of_boot {net : NetParsers} {now : Instant}
    (hbuild : tryWithBackend net fl self.config now = .ok (self.ingress, self.health))
    {restored : Option (Network × ModelProvenance)} {pair : Network × ModelProvenance}
    (hboot : (boot nm fl restore answers around self restored).1 = .ok pair)
    (loadedCheckpoint : Option ModelProvenance) :
    Enters nm net fl self.config (firstLoop self (boot nm fl restore answers around self restored).2
      pair loadedCheckpoint) := by
  refine .mk now restore answers.initialized restored loadedCheckpoint hbuild ?_
  rw [map_fst_stamped]
  exact Prod.ext rfl hboot

/-! ## The ticks -/

theorem isRound_calls (t : TickTrace) : IsRound t.calls := by
  unfold TickTrace.calls
  cases t.emitted with
  | none => exact .inl rfl
  | some call => exact .inr ⟨call.spikes, call.batchTime, rfl⟩

/-- One round for each tick. -/
theorem driveTicks_rounds (d : TickLoop Network) (n : ℕ) :
    ∃ rounds : List (List BackendCall), rounds.length = n ∧ (∀ r ∈ rounds, IsRound r) ∧
      (driveTicks nm fl around d n).1 = rounds.flatten := by
  induction n with
  | zero => exact ⟨[], rfl, by simp, rfl⟩
  | succ n ih =>
    obtain ⟨rounds, hlen, hrounds, hcalls⟩ := ih
    let before := (driveTicks nm fl around d n).2
    let t := (runTickPublished nm fl
      { before with ingress := before.ingress.runSteps (around.before n) } (around.tick n)).1
    refine ⟨rounds ++ [t.calls], ?_, ?_, ?_⟩
    · rw [List.length_append, hlen]
      rfl
    · intro r hr
      rcases List.mem_append.1 hr with hr | hr
      · exact hrounds r hr
      · rw [List.mem_singleton.1 hr]
        exact isRound_calls t
    · show (driveTicks nm fl around d n).1 ++ t.calls = _
      rw [hcalls, List.flatten_append, List.flatten_singleton]

/-- The calls of a step of the tick loop. -/
def Label.calls : Label Entropy → List BackendCall
  | .ticked _ t => t.calls
  | .other _ => []

theorem run_runSteps {d₀ d : TickLoop Network} {trace : List (Label Entropy × TickLoop Network)}
    (hr : Run (TickLoop.step nm fl) d₀ trace d) (steps : List BoundedIngress.Step) :
    ∃ trace', Run (TickLoop.step nm fl) d₀ trace' { d with ingress := d.ingress.runSteps steps } ∧
      trace'.flatMap (fun e => e.1.calls) = trace.flatMap fun e => e.1.calls := by
  induction steps generalizing d trace with
  | nil => exact ⟨trace, hr, rfl⟩
  | cons st steps ih =>
    obtain ⟨trace', hr', hcalls⟩ := ih (hr.snoc (.other st) rfl)
    refine ⟨trace', hr', hcalls.trans ?_⟩
    rw [List.flatMap_append]
    exact List.append_nil _

/-- The ticks are a run of the tick loop. -/
theorem driveTicks_run (d : TickLoop Network) (n : ℕ) :
    ∃ trace, Run (TickLoop.step nm fl) d trace (driveTicks nm fl around d n).2 ∧
      (driveTicks nm fl around d n).1 = trace.flatMap fun e => e.1.calls := by
  induction n with
  | zero => exact ⟨[], .refl, rfl⟩
  | succ n ih =>
    obtain ⟨trace, hr, hcalls⟩ := ih
    obtain ⟨trace', hr', hcalls'⟩ := run_runSteps hr (around.before n)
    refine ⟨_, hr'.snoc (.tick (around.tick n)) rfl, ?_⟩
    rw [List.flatMap_append, hcalls', ← hcalls]
    show _ = (driveTicks nm fl around d n).1 ++ (TickTrace.calls _ ++ [])
    rw [List.append_nil]
    rfl

/-! ## The end -/

theorem finishBoundedRun_error : (∃ e, (finishBoundedRun answers).2 = .error e) ↔
    (∃ e, answers.flush = .error e) ∨ ∃ e, answers.shutdown = .error e := by
  unfold finishBoundedRun
  cases answers.flush with
  | error e => simp
  | ok u => cases answers.shutdown <;> simp

theorem closeIngress_isShut (n : ℕ) (ingress : BoundedIngress) :
    (closeIngress around n ingress).IsShut :=
  BoundedIngress.isShut_of_shutdownSteps ingress (around.before n) around.after around.closing

/-! ## Whole runs -/

theorem inOrder_ticks (d : TickLoop Network) (modelPath : String) (n : ℕ) :
    InOrder modelPath n
      (.initializeWith modelPath :: (driveTicks nm fl around d n).1 ++ [.flush, .shutdown]) := by
  have hrounds : ∃ rounds : List (List BackendCall), rounds.length = n ∧ (∀ r ∈ rounds, IsRound r) ∧
      (driveTicks nm fl around d n).1 = rounds.flatten := driveTicks_rounds d n
  obtain ⟨rounds, hlen, hround, hcalls⟩ := hrounds
  exact ⟨rounds, hlen, hround, by rw [hcalls]⟩

theorem inOrder_failed (modelPath : String) :
    InOrder modelPath 0 (.initializeWith modelPath :: shutdownBackend) :=
  ⟨[], rfl, by simp, rfl⟩

variable (nm fl restore answers around self)

/-- A boot ends with a network or with an error. -/
theorem boot_cases (restored : Option (Network × ModelProvenance)) :
    (∃ pair, Boots nm restore answers self.config restored ∧
      (boot nm fl restore answers around self restored).1 = .ok pair) ∨
    ∃ e, ¬Boots nm restore answers self.config restored ∧
      (boot nm fl restore answers around self restored).1 = .error e := by
  rw [boots_iff]
  show (∃ pair, _ ∧ (bootNetwork nm restore answers.initialized self.config restored).2 = _) ∨
    ∃ e, _ ∧ (bootNetwork nm restore answers.initialized self.config restored).2 = _
  cases (bootNetwork nm restore answers.initialized self.config restored).2 with
  | error e => exact .inr ⟨e, by simp, rfl⟩
  | ok pair => exact .inl ⟨pair, ⟨pair, rfl⟩, rfl⟩

theorem runForTicks_protocol (ticks : ℕ) :
    BoundedProtocol (Boots nm restore answers self.config none) self.config.modelPath answers ticks
      (runForTicks nm fl restore answers around self ticks) := by
  rcases boot_cases nm fl restore answers around self none with
    ⟨pair, hbooted, hboot⟩ | ⟨e, hfailed, hboot⟩
  · rw [runForTicks_booted hboot ticks]
    refine ⟨fun _ => inOrder_ticks _ _ _, fun h => absurd hbooted h, closeIngress_isShut _ _, ?_,
      fun _ => ?_⟩
    · simp only
      cases hresult : (finishBoundedRun answers).2 with
      | error e => exact ⟨fun _ => .inr (finishBoundedRun_error.1 ⟨e, hresult⟩), fun _ => ⟨e, rfl⟩⟩
      | ok u =>
        refine ⟨by rintro ⟨e, ⟨⟩⟩, fun h => ?_⟩
        obtain ⟨e, he⟩ := finishBoundedRun_error.2 (h.resolve_left fun hn => hn hbooted)
        rw [hresult] at he
        cases he
    · rintro ⟨e, he⟩
      have hfinish : (finishBoundedRun answers).2 = .error "failed to flush spike sink" := by
        simp [finishBoundedRun, he]
      simp only [hfinish]
  · rw [runForTicks_failed hboot ticks]
    exact ⟨fun h => absurd h hfailed, fun _ => inOrder_failed _, closeIngress_isShut _ _,
      ⟨fun _ => .inl hfailed, fun _ => ⟨e, rfl⟩⟩, fun h => absurd h hfailed⟩

theorem runLoop_protocol (bound : Except String Unit)
    (restored : Option (Network × ModelProvenance)) (ticks : ℕ) :
    LoopProtocol (startControl self.config.controlBind bound)
      (Boots nm restore answers self.config restored) self.config.modelPath ticks
      (runLoop nm fl restore answers around self bound restored ticks) := by
  cases hbound : startControl self.config.controlBind bound with
  | error e =>
    rw [runLoop_unbound hbound restored ticks]
    refine ⟨?_, by rintro ⟨⟩, by rintro ⟨⟩, closeIngress_isShut _ _⟩
    rintro e' ⟨⟩
    exact ⟨rfl, rfl⟩
  | ok u =>
    rcases boot_cases nm fl restore answers around self restored with
      ⟨pair, hbooted, hboot⟩ | ⟨e, hfailed, hboot⟩
    · rw [runLoop_booted hbound hboot ticks]
      exact ⟨by rintro e ⟨⟩, fun _ _ => ⟨inOrder_ticks _ _ _, rfl⟩, fun _ h => absurd hbooted h,
        closeIngress_isShut _ _⟩
    · rw [runLoop_failed hbound hboot ticks]
      exact ⟨by rintro e ⟨⟩, fun _ h => absurd h hfailed, fun _ _ => ⟨inOrder_failed _, e, rfl⟩,
        closeIngress_isShut _ _⟩

/-- **The calls on the backend pair, in every run**: `initialize`, a round for each tick if the
boot went through, one flush and one shutdown; the handle is shut at the end, and a bounded
run fails exactly if the boot, the flush or the shutdown did. -/
theorem backend_protocol (ticks : ℕ) :
    BoundedProtocol (Boots nm restore answers self.config none) self.config.modelPath answers ticks
        (runForTicks nm fl restore answers around self ticks) ∧
      ∀ bound restored, LoopProtocol (startControl self.config.controlBind bound)
        (Boots nm restore answers self.config restored) self.config.modelPath ticks
        (runLoop nm fl restore answers around self bound restored ticks) :=
  ⟨runForTicks_protocol nm fl restore answers around self ticks,
    fun bound restored => runLoop_protocol nm fl restore answers around self bound restored ticks⟩

end Brainstem.Daemon
