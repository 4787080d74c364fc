import Brainstem.Daemon.Effects
import Brainstem.Daemon.Lifecycle
import Brainstem.Health.Readiness

/-!
# A run in program order

`runLoop` says which calls a run makes and what becomes of the health machine; here the calls, the
health events and the shutdowns stand in one list, in the order of the program.  Then `ready` is
up in a window of it:

    start control, initialize, ..., checkpoint │ ticks │ drain, shut ingress, stop control, ...

It goes up with the checkpoint, and is down before the ingress, the control surface or the backend
are shut down.
-/

namespace Brainstem.Daemon

open Brainstem.Health
open Brainstem.Ingress hiding Instant

/-- One thing that a run does. -/
inductive LifeEffect where
  | startControl
  | call (c : BackendCall)
  | apply (event : HealthEvent) (now : Instant)
  | shutIngress
  | stopControl

namespace LifeEffect

def call? : LifeEffect → Option BackendCall
  | .call c => some c
  | _ => none

def event? : LifeEffect → Option (HealthEvent × Instant)
  | .apply event now => some (event, now)
  | _ => none

end LifeEffect

def calls (script : List LifeEffect) : List BackendCall := script.filterMap LifeEffect.call?

def events (script : List LifeEffect) : List (HealthEvent × Instant) :=
  script.filterMap LifeEffect.event?

variable {Network Entropy : Type}

/-! ## The scripts -/

/-- The events of a tick come before the emission, but for the one that tells its outcome. -/
def TickTrace.script (t : TickTrace) (published : HealthEvent × Instant) : List LifeEffect :=
  .call .nextIngress :: t.events.dropLast.map (fun e => .apply e.1 e.2) ++
    t.emitted.toList.map (fun call => .call (.emit call.spikes call.batchTime)) ++
    t.events.getLast?.toList.map (fun e => .apply e.1 e.2) ++ [.apply published.1 published.2]

/-- The `n`-th tick of a run that starts in `d`. -/
def nthTick (nm : Neuromod Network Entropy) (fl : ℚ → ℚ) (around : Around Entropy)
    (d : TickLoop Network) (n : ℕ) : TickTrace × TickLoop Network :=
  let before := (driveTicks nm fl around d n).2
  runTickPublished nm fl { before with ingress := before.ingress.runSteps (around.before n) }
    (around.tick n)

def tickScript (nm : Neuromod Network Entropy) (fl : ℚ → ℚ) (around : Around Entropy)
    (d : TickLoop Network) : ℕ → List LifeEffect
  | 0 => []
  | n + 1 =>
    let r := nthTick nm fl around d n
    tickScript nm fl around d n ++
      r.1.script (.countersPublished r.2.stats.counters, (around.tick n).clock .published)

/-- The end of every run; the errors of the backend are logged. -/
def closingScript : List LifeEffect := [.shutIngress, .stopControl, .call .flush, .call .shutdown]

/-- The boot, whatever becomes of it. -/
def bootScript (modelPath : String) (booted : List (HealthEvent × Instant)) : List LifeEffect :=
  [.startControl, .call (.initializeWith modelPath)] ++ booted.map fun e => .apply e.1 e.2

def runLoopScript (nm : Neuromod Network Entropy) (fl : ℚ → ℚ)
    (restore : DaemonConfig → Except String (Network × ModelProvenance))
    (answers : BackendAnswers) (around : Around Entropy) (self : BrainstemDaemon)
    (bound : Except String Unit) (restored : Option (Network × ModelProvenance)) (ticks : ℕ) :
    List LifeEffect :=
  match startControl self.config.controlBind bound with
  | .error _ => closingScript
  | .ok () =>
    let booted := bootNetwork nm restore answers.initialized self.config restored
    let start := bootScript self.config.modelPath (stamped around.bootClock booted.1)
    match booted.2 with
    | .error _ => start ++ closingScript
    | .ok pair =>
      let health := self.health.run fl (stamped around.bootClock booted.1)
      start ++ tickScript nm fl around (firstLoop self health pair none) ticks ++
        .apply .beginDrain around.drainClock :: closingScript

/-! ## The script and the run -/

theorem calls_append (a b : List LifeEffect) : calls (a ++ b) = calls a ++ calls b :=
  List.filterMap_append

theorem events_append (a b : List LifeEffect) : events (a ++ b) = events a ++ events b :=
  List.filterMap_append

theorem calls_applied (es : List (HealthEvent × Instant)) :
    calls (es.map fun e => .apply e.1 e.2) = [] := by
  induction es with
  | nil => rfl
  | cons e es ih => exact ih

theorem events_applied (es : List (HealthEvent × Instant)) :
    events (es.map fun e => .apply e.1 e.2) = es := by
  induction es with
  | nil => rfl
  | cons e es ih => exact congrArg (e :: ·) ih

theorem dropLast_append_getLast? {α : Type} (l : List α) : l.dropLast ++ l.getLast?.toList = l := by
  cases h : l.getLast? with
  | none =>
    rw [List.getLast?_eq_none_iff] at h
    rw [h]
    rfl
  | some a => exact List.dropLast_append_getLast? a h

theorem calls_bootScript (modelPath : String) (booted : List (HealthEvent × Instant)) :
    calls (bootScript modelPath booted) = [.initializeWith modelPath] := by
  unfold bootScript
  rw [calls_append, calls_applied]
  rfl

theorem events_bootScript (modelPath : String) (booted : List (HealthEvent × Instant)) :
    events (bootScript modelPath booted) = booted := by
  unfold bootScript
  rw [events_append, events_applied]
  rfl

section Tick

variable (t : TickTrace) (published : HealthEvent × Instant)

theorem calls_script : calls (t.script published) = t.calls := by
  have hemit : calls (t.emitted.toList.map fun call => .call (.emit call.spikes call.batchTime)) =
      t.emitted.toList.map fun call => .emit call.spikes call.batchTime := by
    cases t.emitted <;> rfl
  have hpoll (rest : List LifeEffect) :
      calls (.call .nextIngress :: rest) = .nextIngress :: calls rest := rfl
  unfold TickTrace.script TickTrace.calls
  rw [List.cons_append, List.cons_append, List.cons_append, hpoll, calls_append, calls_append,
    calls_append, calls_applied, calls_applied, hemit]
  simp [calls, LifeEffect.call?]

theorem events_script : events (t.script published) = t.events ++ [published] := by
  have hemit : events (t.emitted.toList.map fun call => .call (.emit call.spikes call.batchTime)) =
      [] := by
    cases t.emitted <;> rfl
  have hpoll (rest : List LifeEffect) : events (.call .nextIngress :: rest) = events rest := rfl
  unfold TickTrace.script
  rw [List.cons_append, List.cons_append, List.cons_append, hpoll, events_append, events_append,
    events_append, events_applied, events_applied, hemit,
    List.append_nil, dropLast_append_getLast?]
  rfl

end Tick

section Run

variable {nm : Neuromod Network Entropy} {fl : ℚ → ℚ}
  {restore : DaemonConfig → Except String (Network × ModelProvenance)} {answers : BackendAnswers}
  {around : Around Entropy} {self : BrainstemDaemon}

theorem driveTicks_succ (d : TickLoop Network) (n : ℕ) : driveTicks nm fl around d (n + 1) =
    ((driveTicks nm fl around d n).1 ++ (nthTick nm fl around d n).1.calls,
      (nthTick nm fl around d n).2) := rfl

theorem calls_tickScript (d : TickLoop Network) (n : ℕ) :
    calls (tickScript nm fl around d n) = (driveTicks nm fl around d n).1 := by
  induction n with
  | zero => rfl
  | succ n ih =>
    rw [driveTicks_succ, tickScript, calls_append, ih, calls_script]

theorem events_tickScript (d : TickLoop Network) (n : ℕ) :
    d.health.run fl (events (tickScript nm fl around d n)) =
      (driveTicks nm fl around d n).2.health := by
  induction n with
  | zero => rfl
  | succ n ih =>
    rw [driveTicks_succ, tickScript, events_append, HealthMachine.run_append, ih, events_script,
      HealthMachine.run_concat]
    rfl

/-- The script has the calls of the run, and applies what the run applies. -/
theorem runLoopScript_agrees (bound : Except String Unit)
    (restored : Option (Network × ModelProvenance)) (ticks : ℕ) :
    let script := runLoopScript nm fl restore answers around self bound restored ticks
    let r := runLoop nm fl restore answers around self bound restored ticks
    calls script = r.calls ∧ self.health.run fl (events script) = r.health := by
  intro script r
  unfold script r runLoopScript
  cases hbound : startControl self.config.controlBind bound with
  | error e =>
    rw [runLoop_unbound hbound]
    exact ⟨rfl, rfl⟩
  | ok _ =>
    dsimp only
    have hclosing : events closingScript = [] := rfl
    have hdrain : events (.apply .beginDrain around.drainClock :: closingScript) =
        [(.beginDrain, around.drainClock)] := rfl
    have hend : calls (.apply .beginDrain around.drainClock :: closingScript) =
        [.flush, .shutdown] := rfl
    cases hb : (bootNetwork nm restore answers.initialized self.config restored).2 with
    | error e =>
      rw [runLoop_failed hbound hb]
      dsimp only
      rw [calls_append, events_append, calls_bootScript, events_bootScript, hclosing,
        List.append_nil]
      exact ⟨rfl, rfl⟩
    | ok pair =>
      rw [runLoop_booted hbound hb]
      dsimp only
      rw [calls_append, calls_append, events_append, events_append, calls_bootScript,
        events_bootScript, calls_tickScript, hdrain, hend, HealthMachine.run_concat,
        HealthMachine.run_append]
      let d := firstLoop self (boot nm fl restore answers around self restored).2 pair none
      have hticks : d.health.run fl (events (tickScript nm fl around d ticks)) =
        (driveTicks nm fl around d ticks).2.health := events_tickScript d ticks
      exact ⟨rfl, congrArg (·.apply fl .beginDrain around.drainClock) hticks⟩

end Run

/-! ## The window -/

/-- What a run does in its ticks. -/
def LifeEffect.OfTick : LifeEffect → Prop
  | .call .nextIngress | .call (.emit _ _) => True
  | .apply .ingressObserved _ | .apply (.queuePressure _ _) _ | .apply .tickSucceeded _ => True
  | .apply (.fatal _ _) _ | .apply (.countersPublished _) _ => True
  | _ => False

section Window

theorem runTick_events (nm : Neuromod Network Entropy) (fl : ℚ → ℚ) (d : TickLoop Network)
    (input : TickInput Entropy) :
    ∀ e ∈ (runTick nm fl d input).1.events, (LifeEffect.apply e.1 e.2).OfTick := by
  intro e he
  let i := ingest d input
  have hevents : (runTick nm fl d input).1.events = observed d input ++
      [(.queuePressure _ _, input.clock .pressure)] ++
      [((advance nm d input i.packet i.stats i.diagnostics).event, input.clock .outcome)] := rfl
  rw [hevents, List.mem_append, List.mem_append, List.mem_singleton, List.mem_singleton] at he
  rcases he with (he | rfl) | rfl
  · unfold observed at he
    split at he
    · rw [List.mem_singleton] at he
      subst he
      trivial
    · cases he
  · trivial
  · rcases advance_event nm d input i.packet i.stats i.diagnostics with h | ⟨detail, h⟩ <;>
      rw [h] <;> trivial

theorem ofTick_script {t : TickTrace} (h : ∀ e ∈ t.events, (LifeEffect.apply e.1 e.2).OfTick)
    (counters : RuntimeCounters) (now : Instant) :
    ∀ x ∈ t.script (.countersPublished counters, now), x.OfTick := by
  intro x hx
  unfold TickTrace.script at hx
  simp only [List.cons_append, List.mem_cons, List.mem_append, List.mem_map, List.not_mem_nil,
    or_false] at hx
  rcases hx with rfl | ((⟨e, he, rfl⟩ | ⟨call, -, rfl⟩) | ⟨e, he, rfl⟩) | rfl
  · trivial
  · exact h e (List.dropLast_subset _ he)
  · trivial
  · exact h e (List.mem_of_getLast? (Option.mem_toList.1 he))
  · trivial

theorem ofTick_tickScript (nm : Neuromod Network Entropy) (fl : ℚ → ℚ) (around : Around Entropy)
    (d : TickLoop Network) (n : ℕ) :
    ∀ x ∈ tickScript nm fl around d n, x.OfTick := by
  induction n with
  | zero => exact nofun
  | succ n ih =>
    intro x hx
    rw [tickScript, List.mem_append] at hx
    rcases hx with hx | hx
    · exact ih x hx
    · exact ofTick_script (runTick_events nm fl _ _) _ _ x hx

end Window

section Prefix

variable {α : Type} {p l r : List α} {x : α}

/-- A prefix that reaches beyond `l`. -/
theorem prefix_beyond (h : p <+: l ++ r) (hx : x ∈ p) (hl : x ∉ l) : ∃ q, p = l ++ q ∧ q <+: r := by
  have hlen : l.length ≤ p.length := by
    by_contra hlt
    have hle : p.length ≤ l.length := by omega
    exact hl ((List.prefix_of_prefix_length_le h (List.prefix_append l r) hle).subset hx)
  obtain ⟨q, rfl⟩ := List.prefix_of_prefix_length_le (List.prefix_append l r) h hlen
  exact ⟨q, rfl, (List.prefix_append_right_inj l).1 h⟩

/-- A prefix that stops before `x`. -/
theorem prefix_before (h : p <+: l ++ x :: r) (hx : x ∉ p) : p <+: l := by
  by_cases hle : p.length ≤ l.length
  · exact List.prefix_of_prefix_length_le h (List.prefix_append l (x :: r)) hle
  · obtain ⟨q, rfl⟩ := List.prefix_of_prefix_length_le (List.prefix_append l (x :: r)) h (by omega)
    have hq : q <+: x :: r := (List.prefix_append_right_inj l).1 h
    cases q with
    | nil => simp at hle
    | cons y q =>
      obtain rfl : y = x := (List.cons_prefix_cons.1 hq).1
      exact absurd (List.mem_append_right l List.mem_cons_self) hx

end Prefix

theorem mem_events {script : List LifeEffect} {e : HealthEvent} :
    e ∈ (events script).map Prod.fst ↔ ∃ now, .apply e now ∈ script := by
  constructor
  · intro h
    obtain ⟨⟨event, now⟩, hmem, rfl⟩ := List.mem_map.1 h
    obtain ⟨x, hx, heq⟩ := List.mem_filterMap.1 hmem
    refine ⟨now, ?_⟩
    cases x with
    | apply event' now' =>
      cases heq
      exact hx
    | _ => cases heq
  · rintro ⟨now, hmem⟩
    exact List.mem_map.2 ⟨(e, now), List.mem_filterMap.2 ⟨_, hmem, rfl⟩, rfl⟩

section Ready

variable {nm : Neuromod Network Entropy} {fl : ℚ → ℚ}
  {restore : DaemonConfig → Except String (Network × ModelProvenance)} {answers : BackendAnswers}
  {around : Around Entropy} {self : BrainstemDaemon}

/-- What has been done when `ready` is up. -/
structure Open (nm : Neuromod Network Entropy)
    (restore : DaemonConfig → Except String (Network × ModelProvenance)) (answers : BackendAnswers)
    (self : BrainstemDaemon) (restored : Option (Network × ModelProvenance))
    (done : List LifeEffect) : Prop where
  initialized : .call (.initializeWith self.config.modelPath) ∈ done
  booted : ∃ pair now,
    (bootNetwork nm restore answers.initialized self.config restored).2 = .ok pair ∧
    .apply (.checkpointValidated (checkpointIdentity pair.2)) now ∈ done
  ingress : .shutIngress ∉ done
  control : .stopControl ∉ done
  flush : .call .flush ∉ done
  shutdown : .call .shutdown ∉ done

/-- The part of a run that has been done puts `ready` up. -/
def PutsReady (done : List LifeEffect) : Prop :=
  (∃ identity now, .apply (.checkpointValidated identity) now ∈ done) ∧
    (∀ now, .apply .beginDrain now ∉ done) ∧
    ∀ code detail now, .apply (.fatal code detail) now ∉ done

theorem ready_of_flags {m : HealthMachine} (hflags : Flags [.processStarted] m)
    (done : List LifeEffect) :
    (m.run fl (events done)).isReady = true ↔
      BootsIn (.processStarted :: (events done).map Prod.fst) ∧
        ¬Blocked (.processStarted :: (events done).map Prod.fst) :=
  (hflags.run fl (events done)).ready_iff

theorem putsReady_of_ready {m : HealthMachine} (hflags : Flags [.processStarted] m)
    {done : List LifeEffect} (h : (m.run fl (events done)).isReady = true) : PutsReady done := by
  obtain ⟨⟨identity, hboot⟩, hblocked⟩ := (ready_of_flags hflags done).1 h
  refine ⟨?_, fun now hdrain => hblocked ?_, fun code detail now hfatal => hblocked ?_⟩
  · have hmem := hboot.subset (show HealthEvent.checkpointValidated identity ∈ _ by simp)
    rcases List.mem_cons.1 hmem with heq | hmem
    · cases heq
    · exact ⟨identity, mem_events.1 hmem⟩
  · exact .inl (List.mem_cons_of_mem _ (mem_events.2 ⟨now, hdrain⟩))
  · exact .inr (.inl ⟨code, detail, List.mem_cons_of_mem _ (mem_events.2 ⟨now, hfatal⟩)⟩)

/-- The boot that went through: its checkpoint is the last of its effects. -/
theorem bootScript_booted {restored : Option (Network × ModelProvenance)}
    {pair : Network × ModelProvenance}
    (h : (bootNetwork nm restore answers.initialized self.config restored).2 = .ok pair) :
    bootScript self.config.modelPath (stamped around.bootClock
      (bootNetwork nm restore answers.initialized self.config restored).1) =
    [.startControl, .call (.initializeWith self.config.modelPath),
      .apply .initializationCompleted (around.bootClock 0)] ++
      [.apply (.checkpointValidated (checkpointIdentity pair.2)) (around.bootClock 1)] := by
  rw [(bootNetwork_ok h).2]
  rfl

/-- A boot that failed validates no checkpoint. -/
theorem bootNetwork_failed {restored : Option (Network × ModelProvenance)} {e : String}
    (h : (bootNetwork nm restore answers.initialized self.config restored).2 = .error e)
    (identity : CheckpointIdentity) :
    .checkpointValidated identity ∉
      (bootNetwork nm restore answers.initialized self.config restored).1 := by
  unfold bootNetwork at h ⊢
  split
  · simp
  · next heq =>
    rw [heq] at h
    dsimp only at h
    split
    · simp
    · next hpair =>
      rw [hpair] at h
      cases h

theorem runLoopScript_failed {bound : Except String Unit}
    {restored : Option (Network × ModelProvenance)} {ticks : ℕ}
    (h : startControl self.config.controlBind bound = .ok () →
      ∃ e, (bootNetwork nm restore answers.initialized self.config restored).2 = .error e)
    (identity : CheckpointIdentity) (now : Instant) :
    .apply (.checkpointValidated identity) now ∉
      runLoopScript nm fl restore answers around self bound restored ticks := by
  unfold runLoopScript
  cases hbound : startControl self.config.controlBind bound with
  | error e => simp [closingScript]
  | ok _ =>
    obtain ⟨e, he⟩ := h hbound
    have hnone := bootNetwork_failed he identity
    dsimp only
    rw [he]
    unfold bootScript closingScript
    simp only [List.mem_append, List.mem_map, not_or, List.mem_cons, List.not_mem_nil, or_false]
    refine ⟨⟨by simp, ?_⟩, by simp⟩
    rintro ⟨⟨event, time⟩, hmem, heq⟩
    cases heq
    rw [← map_fst_stamped around.bootClock
      (bootNetwork nm restore answers.initialized self.config restored).1] at hnone
    exact hnone (List.mem_map.2 ⟨_, hmem, rfl⟩)

/-- The script of a run that came to its ticks. -/
theorem runLoopScript_booted {bound : Except String Unit}
    {restored : Option (Network × ModelProvenance)} {ticks : ℕ} {pair : Network × ModelProvenance}
    (hbound : startControl self.config.controlBind bound = .ok ())
    (h : (bootNetwork nm restore answers.initialized self.config restored).2 = .ok pair) :
    ∃ script, (∀ x ∈ script, LifeEffect.OfTick x) ∧
      runLoopScript nm fl restore answers around self bound restored ticks =
      [.startControl, .call (.initializeWith self.config.modelPath),
        .apply .initializationCompleted (around.bootClock 0)] ++
      .apply (.checkpointValidated (checkpointIdentity pair.2)) (around.bootClock 1) ::
        (script ++ .apply .beginDrain around.drainClock :: closingScript) := by
  refine ⟨_, ofTick_tickScript nm fl around (firstLoop self (self.health.run fl
    (stamped around.bootClock (bootNetwork nm restore answers.initialized self.config restored).1))
    pair none) ticks, ?_⟩
  unfold runLoopScript
  rw [hbound]
  dsimp only
  rw [h, bootScript_booted h]
  simp

section Booted

variable {script done : List LifeEffect} {modelPath : String} {identity : CheckpointIdentity}
  {t₀ t₁ t₂ : Instant}

/-- What has been done of a run that comes to its ticks, once the checkpoint is there and as long
as no drain has begun. -/
theorem booted_prefix (hscript : ∀ x ∈ script, LifeEffect.OfTick x)
    (hdone : done <+: [.startControl, .call (.initializeWith modelPath),
        .apply .initializationCompleted t₀] ++ .apply (.checkpointValidated identity) t₁ ::
        (script ++ .apply .beginDrain t₂ :: closingScript))
    (h : PutsReady done) : ∃ rest, (∀ x ∈ rest, LifeEffect.OfTick x) ∧
      done = [.startControl, .call (.initializeWith modelPath), .apply .initializationCompleted t₀,
        .apply (.checkpointValidated identity) t₁] ++ rest := by
  obtain ⟨⟨identity', now, hmem⟩, hdrain, -⟩ := h
  obtain ⟨q, rfl, hq⟩ := prefix_beyond hdone hmem (by simp)
  cases q with
  | nil => simp at hmem
  | cons y q =>
    obtain ⟨rfl, hticks⟩ := List.cons_prefix_cons.1 hq
    have hnone : .apply .beginDrain t₂ ∉ q := fun hmem => hdrain t₂ (by simp [hmem])
    have hrest : q <+: script := prefix_before hticks hnone
    exact ⟨q, fun x hx => hscript x (hrest.subset hx), by simp⟩

theorem not_blocked {rest : List LifeEffect} (hrest : ∀ x ∈ rest, LifeEffect.OfTick x)
    (hfatal : ∀ code detail now, .apply (.fatal code detail) now ∉ rest) :
    ¬Blocked (.processStarted :: .initializationCompleted :: .checkpointValidated identity ::
      (events rest).map Prod.fst) := by
  have hnone (e : HealthEvent) (he : ∀ now, ¬(LifeEffect.apply e now).OfTick) :
      e ∉ (events rest).map Prod.fst := by
    intro hmem
    obtain ⟨now, hnow⟩ := mem_events.1 hmem
    exact he now (hrest _ hnow)
  rintro (h | ⟨code, detail, h⟩ | ⟨e, hfailure, h⟩)
  · simp only [List.mem_cons, reduceCtorEq, false_or] at h
    exact hnone _ (fun _ => id) h
  · simp only [List.mem_cons, reduceCtorEq, false_or] at h
    obtain ⟨now, hnow⟩ := mem_events.1 h
    exact hfatal code detail now hnow
  · have hmem := h.subset (show e ∈ _ by simp)
    rcases hfailure with ⟨detail, rfl⟩ | ⟨detail, rfl⟩ <;>
      simp only [List.mem_cons, reduceCtorEq, false_or] at hmem <;>
      exact hnone _ (fun _ => id) hmem

end Booted

/-- After any part of a run, `ready` is up if and only if a checkpoint has been validated, no
drain has begun and nothing fatal has happened; and then the source is initialized, the network
went through the checks, and neither the ingress nor the control surface nor the backend has been
shut down. -/
theorem script_ready (hflags : Flags [.processStarted] self.health) {bound : Except String Unit}
    {restored : Option (Network × ModelProvenance)} {ticks : ℕ} {done : List LifeEffect}
    (hdone : done <+: runLoopScript nm fl restore answers around self bound restored ticks) :
    ((self.health.run fl (events done)).isReady = true ↔ PutsReady done) ∧
      (PutsReady done → Open nm restore answers self restored done) := by
  cases hboot : (bootNetwork nm restore answers.initialized self.config restored).2 with
  | error e =>
    have hnone : ¬PutsReady done := by
      rintro ⟨⟨identity, now, hmem⟩, -⟩
      exact runLoopScript_failed (fun _ => ⟨e, hboot⟩) identity now (hdone.subset hmem)
    exact ⟨⟨fun h => absurd (putsReady_of_ready hflags h) hnone, fun h => absurd h hnone⟩,
      fun h => absurd h hnone⟩
  | ok pair =>
    cases hbound : startControl self.config.controlBind bound with
    | error e =>
      have hnone : ¬PutsReady done := by
        rintro ⟨⟨identity, now, hmem⟩, -⟩
        refine runLoopScript_failed (fun h => ?_) identity now (hdone.subset hmem)
        rw [hbound] at h
        cases h
      exact ⟨⟨fun h => absurd (putsReady_of_ready hflags h) hnone, fun h => absurd h hnone⟩,
        fun h => absurd h hnone⟩
    | ok _ =>
      obtain ⟨script, hscript, hrun⟩ := runLoopScript_booted hbound hboot
      rw [hrun] at hdone
      refine ⟨⟨putsReady_of_ready hflags, fun h => ?_⟩, fun h => ?_⟩
      · obtain ⟨rest, hrest, rfl⟩ := booted_prefix hscript hdone h
        rw [ready_of_flags hflags]
        refine ⟨⟨checkpointIdentity pair.2, ?_⟩, ?_⟩
        · exact List.sublist_append_left [HealthEvent.processStarted, .initializationCompleted,
            .checkpointValidated (checkpointIdentity pair.2)] ((events rest).map Prod.fst)
        · exact not_blocked hrest fun code detail now hmem =>
            h.2.2 code detail now (List.mem_append_right _ hmem)
      · obtain ⟨rest, hrest, rfl⟩ := booted_prefix hscript hdone h
        have hnone (x : LifeEffect) (hx : ¬x.OfTick) : x ∉ rest := fun hmem => hx (hrest x hmem)
        refine ⟨by simp, ⟨pair, around.bootClock 1, hboot, by simp⟩, ?_, ?_, ?_, ?_⟩
        · simpa using hnone .shutIngress id
        · simpa using hnone .stopControl id
        · simpa using hnone (.call .flush) id
        · simpa using hnone (.call .shutdown) id

end Ready

end Brainstem.Daemon
