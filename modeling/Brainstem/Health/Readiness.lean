import Brainstem.Health.Machine
import Mathlib.Data.List.Basic

/-!
# Readiness is a condition on the events

The hidden flags of the machine are determined by the sequence of events alone
(`Flags`): `started` by the first start, `fatal` by the first fatal event that counts
(`firstFatal`), and, as long as nothing blocks, `initialized` and `checkpointOk` by how far
the boot sequence has come.

    ready  ↔  start, initialization, checkpoint in this order, and nothing blocks
-/

namespace Brainstem.Health

/-! ## What the events say -/

/-- The fatal state an event asks for, given whether the process had started. -/
def HealthEvent.fatalState (started : Bool) : HealthEvent → Option FatalState
  | .fatal code detail => some ⟨code, detail⟩
  | .initializationFailed detail => if started then some ⟨.initializationFailed, detail⟩ else none
  | .checkpointRejected detail => if started then some ⟨.checkpointInvalid, detail⟩ else none
  | _ => none

/-- The first fatal state that any event of the sequence asks for. -/
def firstFatal (started : Bool) : List HealthEvent → Option FatalState
  | [] => none
  | e :: es => (e.fatalState started).or (firstFatal (started || e == .processStarted) es)

/-- A failed initialization or a rejected checkpoint. -/
def HealthEvent.BootFailure (e : HealthEvent) : Prop :=
  (∃ detail, e = .initializationFailed detail) ∨ ∃ detail, e = .checkpointRejected detail

/-- The whole boot sequence, in this order and with anything in between. -/
def BootsIn (es : List HealthEvent) : Prop :=
  ∃ identity, [.processStarted, .initializationCompleted, .checkpointValidated identity].Sublist es

/-- An event that ends readiness for good. -/
def Blocked (es : List HealthEvent) : Prop :=
  .beginDrain ∈ es ∨ (∃ code detail, .fatal code detail ∈ es) ∨
    ∃ e : HealthEvent, e.BootFailure ∧ [.processStarted, e].Sublist es

/-! ## One more event -/

theorem sublist_concat {α : Type} (l es : List α) (a e : α) :
    (l ++ [a]).Sublist (es ++ [e]) ↔ (l ++ [a]).Sublist es ∨ a = e ∧ l.Sublist es := by
  have hlong : (l ++ [a]).reverse.Sublist es.reverse ↔ (l ++ [a]).Sublist es := List.reverse_sublist
  have hshort : l.reverse.Sublist es.reverse ↔ l.Sublist es := List.reverse_sublist
  rw [← List.reverse_sublist, ← hlong, ← hshort]
  simp only [List.reverse_append, List.reverse_singleton, List.singleton_append]
  exact List.cons_sublist_cons'

variable {es : List HealthEvent} {e : HealthEvent}

theorem pair_concat (a : HealthEvent) : [.processStarted, a].Sublist (es ++ [e]) ↔
    [.processStarted, a].Sublist es ∨ a = e ∧ .processStarted ∈ es := by
  rw [← List.singleton_sublist]
  exact sublist_concat [.processStarted] es a e

theorem bootsIn_concat : BootsIn (es ++ [e]) ↔ BootsIn es ∨
    (∃ identity, e = .checkpointValidated identity) ∧
      [HealthEvent.processStarted, .initializationCompleted].Sublist es := by
  have hstep := fun identity => sublist_concat [HealthEvent.processStarted, .initializationCompleted]
    es (.checkpointValidated identity) e
  constructor
  · rintro ⟨identity, hs⟩
    rcases (hstep identity).1 hs with hs | ⟨he, hs⟩
    · exact .inl ⟨identity, hs⟩
    · exact .inr ⟨⟨identity, he.symm⟩, hs⟩
  · rintro (⟨identity, hs⟩ | ⟨⟨identity, rfl⟩, hs⟩)
    · exact ⟨identity, (hstep identity).2 (.inl hs)⟩
    · exact ⟨identity, (hstep identity).2 (.inr ⟨rfl, hs⟩)⟩

theorem blocked_concat : Blocked (es ++ [e]) ↔ Blocked es ∨ e = .beginDrain ∨
    (∃ code detail, e = .fatal code detail) ∨ e.BootFailure ∧ .processStarted ∈ es := by
  unfold Blocked
  simp only [List.mem_append, List.mem_singleton, pair_concat]
  constructor
  · rintro ((h | h) | ⟨c, d, h | h⟩ | ⟨b, hb, h | ⟨rfl, h⟩⟩)
    · exact .inl (.inl h)
    · exact .inr (.inl h.symm)
    · exact .inl (.inr (.inl ⟨c, d, h⟩))
    · exact .inr (.inr (.inl ⟨c, d, h.symm⟩))
    · exact .inl (.inr (.inr ⟨b, hb, h⟩))
    · exact .inr (.inr (.inr ⟨hb, h⟩))
  · rintro ((h | ⟨c, d, h⟩ | ⟨b, hb, h⟩) | h | ⟨c, d, h⟩ | ⟨hb, h⟩)
    · exact .inl (.inl h)
    · exact .inr (.inl ⟨c, d, .inl h⟩)
    · exact .inr (.inr ⟨b, hb, .inl h⟩)
    · exact .inl (.inr h.symm)
    · exact .inr (.inl ⟨c, d, .inr h.symm⟩)
    · exact .inr (.inr ⟨e, hb, .inr ⟨rfl, h⟩⟩)

theorem firstFatal_append (started : Bool) (s t : List HealthEvent) :
    firstFatal started (s ++ t) =
      (firstFatal started s).or (firstFatal (started || s.contains .processStarted) t) := by
  induction s generalizing started with
  | nil => simp [firstFatal]
  | cons e s ih =>
    have hc : (started || e == .processStarted || s.contains .processStarted) =
        (started || (e :: s).contains .processStarted) := by
      rw [List.contains_cons, Bool.or_assoc, BEq.comm]
    simp only [List.cons_append, firstFatal, ih, hc, Option.or_assoc]

theorem Blocked.append {s : List HealthEvent} (h : Blocked s) (t : List HealthEvent) :
    Blocked (s ++ t) := by
  rcases h with h | ⟨c, d, h⟩ | ⟨b, hb, h⟩
  · exact .inl (List.mem_append_left t h)
  · exact .inr (.inl ⟨c, d, List.mem_append_left t h⟩)
  · exact .inr (.inr ⟨b, hb, h.trans (List.sublist_append_left s t)⟩)

/-! ## What the machine remembers of them -/

structure Flags (es : List HealthEvent) (m : HealthMachine) : Prop where
  started : m.started = true ↔ .processStarted ∈ es
  fatal : m.fatal = firstFatal false es
  blocked : (m.draining = true ∨ m.fatal.isSome = true) ↔ Blocked es
  initialized : ¬Blocked es →
    (m.initialized = true ↔ [HealthEvent.processStarted, .initializationCompleted].Sublist es)
  checkpointOk : ¬Blocked es → (m.checkpointOk = true ↔ BootsIn es)

variable {m m' : HealthMachine} {fl : ℚ → ℚ}

theorem Flags.new (fl : ℚ → ℚ) (limits : HealthLimits) : Flags [] (.new fl limits) where
  started := by simp [HealthMachine.new]
  fatal := rfl
  blocked := by simp [HealthMachine.new, Blocked]
  initialized := by simp [HealthMachine.new]
  checkpointOk := by simp [HealthMachine.new, BootsIn]

/-- An event that sets no flag and is none of those the flags depend on. -/
theorem Flags.unchanged (hf : Flags es m) (hstart : e ≠ .processStarted)
    (hinit : e ≠ .initializationCompleted) (hcheck : ∀ i, e ≠ .checkpointValidated i)
    (hfatal : e.fatalState m.started = none) (hblocked : ¬Blocked es → ¬Blocked (es ++ [e]))
    (hm : m'.started = m.started ∧ m'.fatal = m.fatal ∧ m'.draining = m.draining ∧
      m'.initialized = m.initialized ∧ m'.checkpointOk = m.checkpointOk) :
    Flags (es ++ [e]) m' := by
  obtain ⟨h1, h2, h3, h4, h5⟩ := hm
  have hcontains : es.contains .processStarted = m.started := by
    rw [Bool.eq_iff_iff, List.contains_iff_mem, hf.started]
  have hiff : Blocked (es ++ [e]) ↔ Blocked es :=
    ⟨fun hb => by_contra fun hn => hblocked hn hb, fun hb => hb.append [e]⟩
  refine ⟨?_, ?_, ?_, fun hb => ?_, fun hb => ?_⟩
  · rw [h1, hf.started, List.mem_append, List.mem_singleton]
    exact ⟨.inl, fun h => h.resolve_right (Ne.symm hstart)⟩
  · rw [h2, hf.fatal, firstFatal_append, Bool.false_or, hcontains]
    simp [firstFatal, hfatal]
  · rw [h2, h3, hf.blocked, hiff]
  · rw [h4, hf.initialized (fun h => hb (h.append [e])), pair_concat]
    exact ⟨.inl, fun h => h.resolve_right fun hc => hinit hc.1.symm⟩
  · rw [h5, hf.checkpointOk (fun h => hb (h.append [e])), bootsIn_concat]
    exact ⟨.inl, fun h => h.resolve_right fun hc => hc.1.elim hcheck⟩

/-- A fatal event that counts. -/
theorem Flags.enterFatal (hf : Flags es m) {code : FatalCode} {detail : String}
    (hfatal : e.fatalState m.started = some ⟨code, detail⟩) (hstart : e ≠ .processStarted)
    (hblocked : Blocked (es ++ [e])) : Flags (es ++ [e]) (m.enterFatal code detail) := by
  have hcontains : es.contains .processStarted = m.started := by
    rw [Bool.eq_iff_iff, List.contains_iff_mem, hf.started]
  refine ⟨?_, ?_, ?_, fun hb => absurd hblocked hb, fun hb => absurd hblocked hb⟩
  · have h1 : (m.enterFatal code detail).started = m.started := by
      unfold HealthMachine.enterFatal
      split <;> rfl
    rw [h1, hf.started, List.mem_append, List.mem_singleton]
    exact ⟨.inl, fun h => h.resolve_right (Ne.symm hstart)⟩
  · rw [firstFatal_append, Bool.false_or, hcontains, ← hf.fatal]
    unfold HealthMachine.enterFatal
    cases h : m.fatal <;> simp [firstFatal, hfatal, h]
  · refine ⟨fun _ => hblocked, fun _ => .inr ?_⟩
    unfold HealthMachine.enterFatal
    split
    · next h => exact h
    · rfl

/-- A failed boot step is fatal if the process had started, and nothing otherwise. -/
theorem Flags.fatalIfStarted (hf : Flags es m) {code : FatalCode} {detail : String}
    (hb : e.BootFailure)
    (hfatal : ∀ started, e.fatalState started = if started then some ⟨code, detail⟩ else none) :
    Flags (es ++ [e]) (m.fatalIfStarted code detail) := by
  have hne : e ≠ .processStarted ∧ e ≠ .initializationCompleted ∧ e ≠ .beginDrain ∧
      (∀ i, e ≠ .checkpointValidated i) ∧ ∀ c d, e ≠ .fatal c d := by
    rcases hb with ⟨d, rfl⟩ | ⟨d, rfl⟩ <;> simp
  obtain ⟨hstart, hinit, hdrain, hcheck, hnf⟩ := hne
  unfold HealthMachine.fatalIfStarted
  cases hs : m.started with
  | true =>
    refine hf.enterFatal (by rw [hfatal, hs]; rfl) hstart ?_
    rw [blocked_concat]
    exact .inr (.inr (.inr ⟨hb, hf.started.1 hs⟩))
  | false =>
    refine hf.unchanged hstart hinit hcheck (by rw [hfatal, hs]; rfl) (fun hn => ?_)
      ⟨rfl, rfl, rfl, rfl, rfl⟩
    rw [blocked_concat]
    rintro (h | h | ⟨c, d, h⟩ | ⟨-, h⟩)
    · exact hn h
    · exact hdrain h
    · exact hnf c d h
    · rw [hf.started.2 h] at hs
      cases hs

theorem Flags.serving (hf : Flags es m) (hb : ¬Blocked es) : m.draining = false ∧ m.fatal = none := by
  rw [← hf.blocked, not_or] at hb
  simpa using hb

/-- An event that neither drains nor fails leaves what blocks and what is fatal, and moves the
boot flags alone. -/
theorem Flags.boot (hf : Flags es m) (hdrain : e ≠ .beginDrain) (hnf : ∀ c d, e ≠ .fatal c d)
    (hfail : ¬e.BootFailure)
    (hstarted : m'.started = true ↔ m.started = true ∨ .processStarted = e)
    (hserving : m'.fatal = m.fatal ∧ m'.draining = m.draining)
    (hinit : ¬Blocked es → (m'.initialized = true ↔
      m.initialized = true ∨ .initializationCompleted = e ∧ m.started = true))
    (hcheck : ¬Blocked es → (m'.checkpointOk = true ↔
      m.checkpointOk = true ∨ (∃ i, e = .checkpointValidated i) ∧ m.initialized = true)) :
    Flags (es ++ [e]) m' := by
  have hiff : Blocked (es ++ [e]) ↔ Blocked es := by
    refine ⟨fun hb => ?_, fun hb => hb.append [e]⟩
    rw [blocked_concat] at hb
    rcases hb with h | h | ⟨c, d, h⟩ | ⟨h, -⟩
    · exact h
    · exact absurd h hdrain
    · exact absurd h (hnf c d)
    · exact absurd h hfail
  have hquiet : ∀ started, e.fatalState started = none := by
    intro started
    cases e <;> simp_all [HealthEvent.fatalState, HealthEvent.BootFailure]
  refine ⟨?_, ?_, ?_, fun hb => ?_, fun hb => ?_⟩
  · rw [hstarted, hf.started, List.mem_append, List.mem_singleton]
  · rw [hserving.1, hf.fatal, firstFatal_append]
    simp [firstFatal, hquiet]
  · rw [hserving.1, hserving.2, hf.blocked, hiff]
  · rw [hiff] at hb
    rw [hinit hb, hf.initialized hb, hf.started, pair_concat]
  · rw [hiff] at hb
    rw [hcheck hb, hf.checkpointOk hb, hf.initialized hb, bootsIn_concat]

theorem Flags.markStarted (hf : Flags es m) (now : Instant) :
    Flags (es ++ [.processStarted]) (m.markStarted now) := by
  have hfields : (m.markStarted now).started = true ∧ (m.markStarted now).fatal = m.fatal ∧
      (m.markStarted now).draining = m.draining ∧
      (m.markStarted now).initialized = m.initialized ∧
      (m.markStarted now).checkpointOk = m.checkpointOk := by
    unfold HealthMachine.markStarted
    split
    · next h => exact ⟨h, rfl, rfl, rfl, rfl⟩
    · exact ⟨rfl, rfl, rfl, rfl, rfl⟩
  obtain ⟨hstarted, hfatal, hdraining, hinit, hcheck⟩ := hfields
  exact hf.boot (by simp) (by simp) (by simp [HealthEvent.BootFailure]) (by simp [hstarted])
    ⟨hfatal, hdraining⟩ (by simp [hinit]) (by simp [hcheck])

theorem Flags.markInitialized (hf : Flags es m) :
    Flags (es ++ [.initializationCompleted]) m.markInitialized := by
  have hfields : m.markInitialized.started = m.started ∧ m.markInitialized.fatal = m.fatal ∧
      m.markInitialized.draining = m.draining ∧
      m.markInitialized.checkpointOk = m.checkpointOk := by
    unfold HealthMachine.markInitialized
    split <;> exact ⟨rfl, rfl, rfl, rfl⟩
  obtain ⟨hstarted, hfatal, hdraining, hcheck⟩ := hfields
  refine hf.boot (by simp) (by simp) (by simp [HealthEvent.BootFailure]) (by simp [hstarted])
    ⟨hfatal, hdraining⟩ (fun hb => ?_) (by simp [hcheck])
  obtain ⟨hd, hf'⟩ := hf.serving hb
  unfold HealthMachine.markInitialized
  cases m.started <;> simp [hd, hf']

theorem Flags.checkpointValidated (hf : Flags es m) (identity : CheckpointIdentity) (now : Instant) :
    Flags (es ++ [.checkpointValidated identity])
      (m.applyCheckpoint (.checkpointValidated identity) now) := by
  generalize hm' : m.applyCheckpoint (.checkpointValidated identity) now = m'
  have hfields : m'.started = m.started ∧ m'.fatal = m.fatal ∧ m'.draining = m.draining ∧
      m'.initialized = m.initialized ∧
      m'.checkpointOk = (m.checkpointOk || m.canAcceptCheckpoint) := by
    rw [← hm', HealthMachine.applyCheckpoint]
    split
    · next h => exact ⟨rfl, rfl, rfl, rfl, by simp [h]⟩
    · next h => exact ⟨rfl, rfl, rfl, rfl, by simp [h]⟩
  obtain ⟨hstarted, hfatal, hdraining, hinit, hcheck⟩ := hfields
  refine hf.boot (by simp) (by simp) (by simp [HealthEvent.BootFailure]) (by simp [hstarted])
    ⟨hfatal, hdraining⟩ (by simp [hinit]) (fun hb => ?_)
  obtain ⟨hd, hf'⟩ := hf.serving hb
  -- `initialized` implies `started`, so accepting a checkpoint asks for `initialized` only
  have haccept : m.canAcceptCheckpoint = true ↔ m.initialized = true := by
    simp only [HealthMachine.canAcceptCheckpoint, hd, hf', Bool.and_eq_true,
      Option.isNone_none, Bool.not_false, and_true]
    refine ⟨And.right, fun hi => ⟨?_, hi⟩⟩
    rw [hf.initialized hb] at hi
    exact hf.started.2 (hi.subset (by simp))
  rw [hcheck, Bool.or_eq_true, haccept]
  simp

/-- One event more. -/
theorem Flags.apply (hf : Flags es m) (fl : ℚ → ℚ) (e : HealthEvent) (now : Instant) :
    Flags (es ++ [e]) (m.apply fl e now) := by
  cases e with
  | processStarted => exact hf.markStarted now
  | initializationCompleted => exact hf.markInitialized
  | initializationFailed detail =>
    exact hf.fatalIfStarted (.inl ⟨detail, rfl⟩) (fun _ => rfl)
  | checkpointValidated identity => exact hf.checkpointValidated identity now
  | checkpointRejected detail =>
    exact hf.fatalIfStarted (.inr ⟨detail, rfl⟩) (fun _ => rfl)
  | fatal code detail =>
    exact hf.enterFatal rfl (by simp) (blocked_concat.2 (.inr (.inr (.inl ⟨code, detail, rfl⟩))))
  | beginDrain =>
    have hb : Blocked (es ++ [.beginDrain]) := blocked_concat.2 (.inr (.inl rfl))
    have hfields : (m.applyTerminal .beginDrain).started = m.started ∧
        (m.applyTerminal .beginDrain).fatal = m.fatal ∧
        ((m.applyTerminal .beginDrain).draining = true ∨ m.fatal.isSome = true) := by
      cases h : m.fatal <;> simp [HealthMachine.applyTerminal, h]
    obtain ⟨h1, h2, h3⟩ := hfields
    refine ⟨?_, ?_, ⟨fun _ => hb, fun _ => ?_⟩, fun h => absurd hb h, fun h => absurd hb h⟩
    · show (m.applyTerminal .beginDrain).started = true ↔ _
      rw [h1, hf.started]
      simp
    · show (m.applyTerminal .beginDrain).fatal = _
      rw [h2, hf.fatal, firstFatal_append]
      simp [firstFatal, HealthEvent.fatalState]
    · show (m.applyTerminal .beginDrain).draining = true ∨ (m.applyTerminal .beginDrain).fatal.isSome = true
      rw [h2]
      exact h3
  | _ =>
    -- the four runtime events
    refine hf.boot (by simp) (by simp) (by simp [HealthEvent.BootFailure]) ?_ ⟨rfl, rfl⟩ ?_ ?_ <;>
      simp [HealthMachine.apply, HealthMachine.applyRuntime]

theorem Flags.run (hf : Flags es m) (fl : ℚ → ℚ) (trace : List (HealthEvent × Instant)) :
    Flags (es ++ trace.map Prod.fst) (m.run fl trace) := by
  induction trace generalizing es m with
  | nil => rw [List.map_nil, List.append_nil]; exact hf
  | cons e trace ih =>
    have hnext := ih (hf.apply fl e.1 e.2)
    rw [List.append_assoc] at hnext
    exact hnext

theorem Flags.ready_iff (hf : Flags es m) : m.isReady = true ↔ BootsIn es ∧ ¬Blocked es := by
  by_cases hb : Blocked es
  · have hs : m.isServing = false := by
      rcases hf.blocked.2 hb with h | h
      · simp [HealthMachine.isServing, h]
      · rw [HealthMachine.isServing, Option.isNone_eq_false_iff.2 h, Bool.and_false]
    simp [HealthMachine.isReady, hs, hb]
  · obtain ⟨hdrain, hfatal⟩ := hf.serving hb
    simp only [HealthMachine.isReady, HealthMachine.isInitialized, HealthMachine.isServing, hdrain,
      hfatal, Bool.not_false, Option.isNone_none, Bool.and_true, Bool.and_eq_true, hf.started,
      hf.initialized hb, hf.checkpointOk hb, hb, not_false_eq_true, and_true]
    refine ⟨And.right, fun hboot => ⟨⟨?_, ?_⟩, hboot⟩⟩
    · obtain ⟨identity, hs⟩ := hboot
      exact hs.subset (by simp)
    · obtain ⟨identity, hs⟩ := hboot
      exact (List.sublist_append_left [HealthEvent.processStarted, .initializationCompleted]
        [.checkpointValidated identity]).trans hs

/-! ## Readiness -/

/-- **Readiness is exactly the documented condition on the trace.**  Liveness, readiness and
the fatal state of any snapshot are read off the events; the fatal state is the first one and
stays; and readiness, once lost, does not come back. -/
theorem readiness (limits : HealthLimits) (trace : List (HealthEvent × Instant)) (now : Instant) :
    let es := trace.map Prod.fst
    let snap := ((HealthMachine.new fl limits).run fl trace).snapshot fl now
    (snap.live = true ↔ .processStarted ∈ es) ∧
    (snap.ready = true ↔ BootsIn es ∧ .beginDrain ∉ es ∧ (∀ code detail, .fatal code detail ∉ es) ∧
      ∀ e : HealthEvent, e.BootFailure → ¬[.processStarted, e].Sublist es) ∧
    snap.fatal = firstFatal false es ∧
    ∀ (more : List (HealthEvent × Instant)) (later : Instant),
      let snap' := ((HealthMachine.new fl limits).run fl (trace ++ more)).snapshot fl later
      (snap.fatal.isSome = true → snap'.fatal = snap.fatal) ∧
      (.beginDrain ∈ es ∨ snap.fatal.isSome = true → snap'.ready = false) ∧
      (snap.ready = true → snap'.ready = false →
        ∀ (rest : List (HealthEvent × Instant)) (last : Instant),
          (((HealthMachine.new fl limits).run fl (trace ++ more ++ rest)).snapshot fl last).ready
            = false) := by
  intro es snap
  have hflags : ∀ t : List (HealthEvent × Instant),
      Flags (t.map Prod.fst) ((HealthMachine.new fl limits).run fl t) := fun t => by
    have hrun := (Flags.new fl limits).run fl t
    rwa [List.nil_append] at hrun
  have hready : ∀ (t : List (HealthEvent × Instant)) (at' : Instant),
      ((((HealthMachine.new fl limits).run fl t).snapshot fl at').ready = true ↔
        BootsIn (t.map Prod.fst) ∧ ¬Blocked (t.map Prod.fst)) := fun t _ => (hflags t).ready_iff
  have hlost : ∀ (s t : List (HealthEvent × Instant)) (at' : Instant), Blocked (s.map Prod.fst) →
      (((HealthMachine.new fl limits).run fl (s ++ t)).snapshot fl at').ready = false := by
    intro s t at' hb
    rw [← Bool.not_eq_true, hready, List.map_append]
    exact fun h => h.2 (hb.append _)
  refine ⟨(hflags trace).started, ?_, (hflags trace).fatal, fun more later => ⟨?_, ?_, ?_⟩⟩
  · rw [hready trace now]
    simp only [Blocked, not_or, not_exists, not_and]
    exact Iff.rfl
  · intro hf
    have h1 : snap.fatal = firstFatal false es := (hflags trace).fatal
    have h2 := (hflags (trace ++ more)).fatal
    rw [List.map_append, firstFatal_append, ← h1, Option.or_of_isSome hf] at h2
    exact h2
  · intro h
    refine hlost trace more later ((hflags trace).blocked.1 ?_)
    rcases h with h | h
    · exact (hflags trace).blocked.2 (.inl h)
    · exact .inr h
  · intro hup hdown rest last
    refine hlost (trace ++ more) rest last ?_
    rw [← Bool.not_eq_true, hready, not_and, not_not] at hdown
    -- the boot sequence is still there, so only a blocking event can have ended readiness
    refine hdown ?_
    obtain ⟨identity, hs⟩ := ((hready trace now).1 hup).1
    rw [List.map_append]
    exact ⟨identity, hs.trans (List.sublist_append_left _ _)⟩

end Brainstem.Health
