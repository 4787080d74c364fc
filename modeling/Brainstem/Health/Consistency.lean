import Brainstem.Health.Machine

/-!
# The fields of a snapshot agree

`phase`, `reasons`, `ready` and `stale` are computed by separate functions from the same
hidden flags.  They agree because the flags of a reachable machine are ordered
(`Coherent`):

    checkpointOk  →  initialized  →  started        fatal  →  ¬checkpointOk
-/

namespace Brainstem.Health

variable {fl : ℚ → ℚ} {m : HealthMachine}

/-! ## The order of the flags -/

/-- What holds of the hidden flags of every reachable machine. -/
structure HealthMachine.Coherent (m : HealthMachine) : Prop where
  initialized : m.initialized = true → m.started = true
  checkpointOk : m.checkpointOk = true → m.initialized = true
  fatal : m.fatal.isSome = true → m.checkpointOk = false
  identity : m.checkpointOk = true → m.checkpoint.isSome = true ∧ m.checkpointAt.isSome = true

namespace HealthMachine

theorem Coherent.new (fl : ℚ → ℚ) (limits : HealthLimits) : Coherent (.new fl limits) := by
  constructor <;> intro h <;> cases h

/-- A machine that keeps the flags, the checkpoint and the fatal state stays coherent. -/
theorem Coherent.of_flags {m' : HealthMachine} (hm : m.Coherent)
    (hstarted : m.started = true → m'.started = true) (hinit : m'.initialized = m.initialized)
    (hok : m'.checkpointOk = m.checkpointOk) (hfatal : m'.fatal = m.fatal)
    (hcheck : m'.checkpoint = m.checkpoint ∧ m'.checkpointAt = m.checkpointAt) : m'.Coherent := by
  refine ⟨fun h => ?_, fun h => ?_, fun h => ?_, fun h => ?_⟩
  · rw [hinit] at h
    exact hstarted (hm.initialized h)
  · rw [hok] at h
    rw [hinit]
    exact hm.checkpointOk h
  · rw [hfatal] at h
    rw [hok]
    exact hm.fatal h
  · rw [hok] at h
    rw [hcheck.1, hcheck.2]
    exact hm.identity h

theorem Coherent.enterFatal (hm : m.Coherent) (code : FatalCode) (detail : String) :
    (m.enterFatal code detail).Coherent := by
  unfold HealthMachine.enterFatal
  split
  · exact hm
  · exact ⟨hm.initialized, fun h => Bool.noConfusion h, fun _ => rfl, fun h => Bool.noConfusion h⟩

theorem Coherent.fatalIfStarted (hm : m.Coherent) (code : FatalCode) (detail : String) :
    (m.fatalIfStarted code detail).Coherent := by
  unfold HealthMachine.fatalIfStarted
  split
  · exact hm.enterFatal code detail
  · exact hm

theorem Coherent.markStarted (hm : m.Coherent) (now : Instant) : (m.markStarted now).Coherent := by
  unfold HealthMachine.markStarted
  split
  · exact hm
  · exact hm.of_flags (fun _ => rfl) rfl rfl rfl ⟨rfl, rfl⟩

theorem Coherent.markInitialized (hm : m.Coherent) : m.markInitialized.Coherent := by
  unfold HealthMachine.markInitialized
  split
  · next h =>
    have hstarted : m.started = true := by
      simp only [Bool.and_eq_true] at h
      exact h.1.1
    exact ⟨fun _ => hstarted, fun _ => rfl, hm.fatal, hm.identity⟩
  · exact hm

theorem Coherent.checkpointValidated (hm : m.Coherent) (identity : CheckpointIdentity)
    (now : Instant) : (m.applyCheckpoint (.checkpointValidated identity) now).Coherent := by
  unfold HealthMachine.applyCheckpoint
  dsimp only
  split
  · next h =>
    simp only [canAcceptCheckpoint, Bool.and_eq_true] at h
    obtain ⟨⟨⟨-, hnone⟩, -⟩, hinit⟩ := h
    refine ⟨hm.initialized, fun _ => hinit, fun hf => ?_, fun _ => ⟨rfl, rfl⟩⟩
    -- a checkpoint is accepted only while nothing is fatal
    rw [Option.isNone_iff_eq_none] at hnone
    rw [hnone] at hf
    cases hf
  · exact hm

theorem Coherent.apply (hm : m.Coherent) (fl : ℚ → ℚ) (e : HealthEvent) (now : Instant) :
    (m.apply fl e now).Coherent := by
  cases e with
  | processStarted => exact hm.markStarted now
  | initializationCompleted => exact hm.markInitialized
  | initializationFailed detail => exact hm.fatalIfStarted _ detail
  | checkpointValidated identity => exact hm.checkpointValidated identity now
  | checkpointRejected detail => exact hm.fatalIfStarted _ detail
  | fatal code detail => exact hm.enterFatal code detail
  | beginDrain =>
    show (m.applyTerminal .beginDrain).Coherent
    unfold HealthMachine.applyTerminal
    dsimp only
    split
    · exact hm.of_flags id rfl rfl rfl ⟨rfl, rfl⟩
    · exact hm
  | _ =>
    -- the four runtime events touch no flag
    exact hm.of_flags id rfl rfl rfl ⟨rfl, rfl⟩

theorem Coherent.run (hm : m.Coherent) (fl : ℚ → ℚ) (trace : List (HealthEvent × Instant)) :
    (m.run fl trace).Coherent := by
  induction trace generalizing m with
  | nil => exact hm
  | cons e trace ih => exact ih (hm.apply fl e.1 e.2)

/-! ## What the snapshot reads off the flags -/

/-- When a reason is reported. -/
def Raised (m : HealthMachine) (stale : Bool) : ReasonCode → Prop
  | .fatal => m.fatal.isSome = true
  | .starting => m.fatal = none ∧ m.initialized = false
  | .checkpointPending => m.fatal = none ∧ m.initialized = true ∧ m.checkpointOk = false
  | .draining => m.fatal = none ∧ m.draining = true
  | .staleInput => m.fatal = none ∧ stale = true
  | .overload => m.fatal = none ∧ m.overloaded = true

theorem mem_pushRuntimeReasons {rs : List ReasonCode} {stale : Bool} {r : ReasonCode} :
    r ∈ m.pushRuntimeReasons rs stale ↔ r ∈ rs ∨ r = .draining ∧ m.draining = true ∨
      r = .staleInput ∧ stale = true ∨ r = .overload ∧ m.overloaded = true := by
  unfold pushRuntimeReasons
  cases m.draining <;> cases stale <;> cases m.overloaded <;> simp

theorem mem_bootReasons {r : ReasonCode} : r ∈ m.bootReasons ↔
    r = .starting ∧ m.initialized = false ∨
      r = .checkpointPending ∧ m.initialized = true ∧ m.checkpointOk = false := by
  unfold bootReasons
  cases m.initialized <;> cases m.checkpointOk <;> simp

theorem mem_reasons {stale : Bool} {r : ReasonCode} : r ∈ m.reasons stale ↔ m.Raised stale r := by
  unfold reasons
  cases hf : m.fatal with
  | some f =>
    rw [Option.isSome_some, if_pos rfl, List.mem_singleton]
    cases r <;> simp [Raised, hf]
  | none =>
    rw [Option.isSome_none, if_neg Bool.false_ne_true, mem_pushRuntimeReasons, mem_bootReasons]
    cases r <;> simp [Raised, hf]

theorem reasons_nodup (m : HealthMachine) (stale : Bool) : (m.reasons stale).Nodup := by
  unfold reasons bootReasons pushRuntimeReasons
  by_cases hf : m.fatal.isSome = true
  · rw [if_pos hf]
    exact List.pairwise_singleton _ _
  · rw [if_neg hf]
    cases m.initialized <;> cases m.checkpointOk <;> cases m.draining <;> cases stale <;>
      cases m.overloaded <;> decide

theorem reasons_eq_fatal {stale : Bool} : m.reasons stale = [.fatal] ↔ m.fatal.isSome = true := by
  constructor
  · intro h
    have hmem : ReasonCode.fatal ∈ m.reasons stale := by
      rw [h]
      exact List.mem_singleton.2 rfl
    exact mem_reasons.1 hmem
  · intro h
    rw [reasons, if_pos h]

theorem isReady_iff (hm : m.Coherent) : m.isReady = true ↔
    m.fatal = none ∧ m.initialized = true ∧ m.checkpointOk = true ∧ m.draining = false := by
  simp only [isReady, isInitialized, isServing, Bool.and_eq_true, Bool.not_eq_true',
    Option.isNone_iff_eq_none]
  constructor
  · rintro ⟨⟨⟨-, hi⟩, hc⟩, hd, hf⟩
    exact ⟨hf, hi, hc, hd⟩
  · rintro ⟨hf, hi, hc, hd⟩
    exact ⟨⟨⟨hm.initialized hi, hi⟩, hc⟩, hd, hf⟩

/-- A ready machine reports at most that its input is stale and its queue overloaded. -/
theorem isReady_iff_reasons (hm : m.Coherent) (stale : Bool) : m.isReady = true ↔
    ∀ r ∈ m.reasons stale, r = .staleInput ∨ r = .overload := by
  rw [isReady_iff hm]
  simp only [mem_reasons]
  constructor
  · rintro ⟨hf, hi, hc, hd⟩ r hr
    cases r with
    | staleInput => exact .inl rfl
    | overload => exact .inr rfl
    | _ => simp [Raised, hf, hi, hc, hd] at hr
  · intro h
    have hno : ∀ r, r ≠ .staleInput → r ≠ .overload → ¬m.Raised stale r := fun r h1 h2 hr =>
      (h r hr).elim h1 h2
    have hf : m.fatal = none := by
      simpa [Raised] using hno .fatal (by simp) (by simp)
    have hi : m.initialized = true := by
      simpa [Raised, hf] using hno .starting (by simp) (by simp)
    have hc : m.checkpointOk = true := by
      simpa [Raised, hf, hi] using hno .checkpointPending (by simp) (by simp)
    have hd : m.draining = false := by
      simpa [Raised, hf] using hno .draining (by simp) (by simp)
    exact ⟨hf, hi, hc, hd⟩

/-- Without a fatal error the other flags decide the phase. -/
theorem phase_of_not_fatal (hf : m.fatal = none) (stale : Bool) :
    m.phase stale ≠ .fatal ∧ (m.phase stale = .draining ↔ m.draining = true) ∧
    (m.phase stale = .running ↔ (m.initialized = true ∧ m.checkpointOk = true ∧ m.draining = false) ∧
      stale = false ∧ m.overloaded = false) ∧
    (m.phase stale = .degraded ↔ (m.initialized = true ∧ m.checkpointOk = true ∧ m.draining = false) ∧
      (stale = true ∨ m.overloaded = true)) := by
  unfold phase terminalPhase operationalPhase checkpointPhase
  rw [hf]
  cases m.draining <;> cases m.initialized <;> cases m.checkpointOk <;> cases stale <;>
    cases m.overloaded <;> decide

theorem phase_eq_fatal {stale : Bool} : m.phase stale = .fatal ↔ m.fatal.isSome = true := by
  constructor
  · intro h
    by_contra hf
    rw [Bool.not_eq_true, Option.isSome_eq_false_iff, Option.isNone_iff_eq_none] at hf
    exact (phase_of_not_fatal hf stale).1 h
  · intro hf
    unfold phase terminalPhase
    rw [if_pos hf]
    rfl

/-- The two serving phases, told apart by what degrades. -/
theorem phase_eq_serving (hm : m.Coherent) (stale : Bool) :
    (m.phase stale = .running ↔ m.isReady = true ∧ stale = false ∧ m.overloaded = false) ∧
    (m.phase stale = .degraded ↔ m.isReady = true ∧ (stale = true ∨ m.overloaded = true)) := by
  rw [isReady_iff hm]
  cases hf : m.fatal with
  | some f =>
    have hphase : m.phase stale = .fatal := phase_eq_fatal.2 (by rw [hf]; rfl)
    rw [hphase]
    simp
  | none =>
    obtain ⟨-, -, hrunning, hdegraded⟩ := phase_of_not_fatal hf stale
    rw [hrunning, hdegraded]
    simp only [true_and, and_assoc]

/-- Staleness needs a validated checkpoint, which also gives the age it is judged by. -/
theorem computeStale_spec (hm : m.Coherent) {now : Instant} (h : m.computeStale now = true) :
    m.checkpointOk = true ∧ m.fatal = none ∧ m.checkpoint.isSome = true ∧
      (m.inputAgeMs now).isSome = true := by
  have hok : m.checkpointOk = true := by
    by_contra hc
    rw [Bool.not_eq_true] at hc
    simp [computeStale, hc] at h
  have hf : m.fatal = none := by
    by_contra hc
    rw [← ne_eq, Option.ne_none_iff_isSome] at hc
    rw [hm.fatal hc] at hok
    cases hok
  obtain ⟨hid, hat⟩ := hm.identity hok
  refine ⟨hok, hf, hid, ?_⟩
  rw [inputAgeMs, Option.isSome_map, Option.isSome_or, hat, Bool.or_true]

/-- With nothing worse to report, an empty list of reasons is one without these two. -/
theorem reasons_eq_nil (hm : m.Coherent) (hready : m.isReady = true) :
    m.reasons stale = [] ↔ stale = false ∧ m.overloaded = false := by
  have hf := ((isReady_iff hm).1 hready).1
  constructor
  · intro h
    have hs : ¬ m.Raised stale .staleInput := by
      rw [← mem_reasons, h]
      exact List.not_mem_nil
    have ho : ¬ m.Raised stale .overload := by
      rw [← mem_reasons, h]
      exact List.not_mem_nil
    simp only [Raised, hf, true_and, Bool.not_eq_true] at hs ho
    exact ⟨hs, ho⟩
  · rintro ⟨hs, ho⟩
    refine List.eq_nil_iff_forall_not_mem.2 fun r hmem => ?_
    have hraised := mem_reasons.1 hmem
    rcases (isReady_iff_reasons hm stale).1 hready r hmem with rfl | rfl
    · rw [hs] at hraised
      cases hraised.2
    · rw [Raised, ho] at hraised
      cases hraised.2

theorem isReady_of_reasons_eq_nil (hm : m.Coherent) (h : m.reasons stale = []) :
    m.isReady = true := by
  rw [isReady_iff_reasons hm stale, h]
  exact fun r hr => absurd hr List.not_mem_nil

end HealthMachine

/-! ## Consistency -/

/-- **No two fields of a snapshot contradict each other**, whatever the limits, the events and
the clock. -/
theorem snapshot_consistent (limits : HealthLimits) (trace : List (HealthEvent × Instant))
    (now : Instant) :
    let m := (HealthMachine.new fl limits).run fl trace
    let snap := m.snapshot fl now
    (snap.ready = true ↔ snap.phase = .running ∨ snap.phase = .degraded) ∧
    (snap.phase = .running ↔ snap.reasons = []) ∧
    (snap.phase = .degraded ↔ snap.ready = true ∧ snap.reasons ≠ [] ∧
      ∀ r ∈ snap.reasons, r = .staleInput ∨ r = .overload) ∧
    (snap.phase = .fatal ↔ snap.fatal.isSome = true) ∧
    (snap.fatal.isSome = true ↔ snap.reasons = [.fatal]) ∧
    (snap.fatal = none → (.draining ∈ snap.reasons ↔ snap.phase = .draining)) ∧
    (snap.inputFreshness.stale = true ↔ .staleInput ∈ snap.reasons) ∧
    (snap.fatal = none → (snap.queuePressure.overloaded = true ↔ .overload ∈ snap.reasons)) ∧
    snap.reasons.Nodup ∧
    (snap.inputFreshness.stale = true →
      m.checkpointOk = true ∧ snap.checkpoint.isSome = true ∧
        snap.inputFreshness.ageMs.isSome = true) := by
  intro m snap
  have hm : m.Coherent := (HealthMachine.Coherent.new fl limits).run fl trace
  generalize hstale : m.computeStale now = stale
  have hready : snap.ready = m.isReady := rfl
  have hphase : snap.phase = m.phase stale := by rw [← hstale]; rfl
  have hreasons : snap.reasons = m.reasons stale := by rw [← hstale]; rfl
  have hfresh : snap.inputFreshness.stale = stale := hstale
  have hover : snap.queuePressure.overloaded = m.overloaded := rfl
  have hfatal : snap.fatal = m.fatal := rfl
  rw [hready, hphase, hreasons, hfresh, hover, hfatal]
  obtain ⟨hrunning, hdegraded⟩ := HealthMachine.phase_eq_serving hm stale
  have hsub := HealthMachine.isReady_iff_reasons hm stale
  have hempty : m.isReady = true → (m.reasons stale = [] ↔ stale = false ∧ m.overloaded = false) :=
    HealthMachine.reasons_eq_nil hm
  have hnil : m.reasons stale = [] → m.isReady = true := HealthMachine.isReady_of_reasons_eq_nil hm
  refine ⟨?_, ?_, ?_, HealthMachine.phase_eq_fatal, HealthMachine.reasons_eq_fatal.symm, ?_, ?_, ?_,
    HealthMachine.reasons_nodup m stale, ?_⟩
  · rw [hrunning, hdegraded]
    cases m.isReady <;> cases stale <;> cases m.overloaded <;> simp
  · rw [hrunning]
    exact ⟨fun h => (hempty h.1).2 h.2, fun h => ⟨hnil h, (hempty (hnil h)).1 h⟩⟩
  · rw [hdegraded]
    constructor
    · rintro ⟨hr, hd⟩
      refine ⟨hr, fun hn => ?_, hsub.1 hr⟩
      obtain ⟨h1, h2⟩ := (hempty hr).1 hn
      rw [h1, h2] at hd
      simp at hd
    · rintro ⟨hr, hne, -⟩
      refine ⟨hr, ?_⟩
      rw [Ne, hempty hr] at hne
      cases stale <;> cases ho : m.overloaded <;> simp_all
  · intro hf
    rw [HealthMachine.mem_reasons, (HealthMachine.phase_of_not_fatal hf stale).2.1, HealthMachine.Raised]
    exact ⟨And.right, fun h => ⟨hf, h⟩⟩
  · rw [HealthMachine.mem_reasons, HealthMachine.Raised]
    refine ⟨fun h => ⟨?_, h⟩, And.right⟩
    exact (HealthMachine.computeStale_spec hm (hstale.trans h)).2.1
  · intro hf
    rw [HealthMachine.mem_reasons, HealthMachine.Raised]
    exact ⟨fun h => ⟨hf, h⟩, And.right⟩
  · intro h
    obtain ⟨hok, -, hid, hage⟩ := HealthMachine.computeStale_spec hm (hstale.trans h)
    exact ⟨hok, hid, hage⟩

end Brainstem.Health
