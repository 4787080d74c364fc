import Brainstem.Health.Machine
import Brainstem.Lib.Latch
import Mathlib.Tactic.NormNum

/-!
# The overload flag is a latch

The sanitizer leaves two watermarks that are apart, whatever it is given.  The flag is then a
latch on the queue reports: a ratio at the high watermark raises it, a ratio at the low one
or a queue without capacity clears it.

    overloaded  ↔  since the last empty capacity some ratio reached `high`,
                   and every later one stayed above `low`
-/

namespace Brainstem.Health

/-! ## Watermarks -/

namespace HealthLimits

/-- Both watermarks are in the unit interval and leave a gap. -/
structure Apart (limits : HealthLimits) (low high : ℚ) : Prop where
  overloadLow : limits.overloadLow = .finite low
  overloadHigh : limits.overloadHigh = .finite high
  nonneg : 0 ≤ low
  gap : low < high
  le_one : high ≤ 1

/-- The built-in watermarks stay apart when they are rounded. -/
def Calibrated (fl : ℚ → ℚ) : Prop := 0 ≤ fl (7 / 10) ∧ fl (7 / 10) < fl (9 / 10) ∧ fl (9 / 10) ≤ 1

theorem calibrated_id : Calibrated id := by
  refine ⟨?_, ?_, ?_⟩ <;> norm_num

theorem calibrated_binary64 : Calibrated F64.binary64 := by
  refine ⟨?_, ?_, ?_⟩ <;> decide +kernel

variable {limits : HealthLimits} {fl : ℚ → ℚ} {low high : ℚ}

theorem inUnit_finite (q : ℚ) : inUnit (.finite q) = true ↔ 0 ≤ q ∧ q ≤ 1 := by
  simp [inUnit, F64.le, F64.lt]

theorem finiteOr_isFinite (value : F64) (q : ℚ) : ∃ r, finiteOr value (.finite q) = .finite r := by
  unfold finiteOr
  cases value with
  | finite r => exact ⟨r, rfl⟩
  | nan => exact ⟨q, rfl⟩
  | inf negative => exact ⟨q, rfl⟩

theorem apart_sanitized (hfl : Calibrated fl) (limits : HealthLimits) :
    ∃ low high, (limits.sanitized fl).Apart low high := by
  obtain ⟨h0, h1, h2⟩ := hfl
  obtain ⟨high, hhigh⟩ := finiteOr_isFinite limits.overloadHigh (fl (9 / 10))
  obtain ⟨low, hlow⟩ := finiteOr_isFinite limits.overloadLow (fl (7 / 10))
  unfold sanitized
  dsimp only
  split
  · next h =>
    rw [hhigh, hlow, Bool.and_eq_true_iff, Bool.and_eq_true_iff, inUnit_finite, inUnit_finite] at h
    obtain ⟨⟨hu, hl⟩, hlt⟩ := h
    exact ⟨low, high, ⟨hlow, hhigh, hl.1, by simpa [F64.lt] using hlt, hu.2⟩⟩
  · exact ⟨fl (7 / 10), fl (9 / 10), ⟨rfl, rfl, h0, h1, h2⟩⟩

/-- Watermarks that are apart are kept. -/
theorem Apart.sanitized_eq (h : limits.Apart low high) (fl : ℚ → ℚ) : limits.sanitized fl = limits := by
  have hhigh : finiteOr limits.overloadHigh (.finite (fl (9 / 10))) = .finite high := by
    rw [h.overloadHigh]
    rfl
  have hlow : finiteOr limits.overloadLow (.finite (fl (7 / 10))) = .finite low := by
    rw [h.overloadLow]
    rfl
  have hgap := h.gap
  have hkept : (inUnit (.finite high) && inUnit (.finite low) &&
      (F64.finite low).lt (.finite high)) = true := by
    rw [Bool.and_eq_true_iff, Bool.and_eq_true_iff, inUnit_finite, inUnit_finite]
    refine ⟨⟨⟨?_, h.le_one⟩, h.nonneg, ?_⟩, by simpa [F64.lt] using hgap⟩
    · exact h.nonneg.trans hgap.le
    · exact hgap.le.trans h.le_one
  unfold sanitized
  dsimp only
  rw [hhigh, hlow, if_pos hkept]
  cases limits
  simp only [mk.injEq, true_and]
  exact ⟨h.overloadHigh.symm, h.overloadLow.symm⟩

theorem staleAfter_sanitized (fl : ℚ → ℚ) (limits : HealthLimits) :
    (limits.sanitized fl).staleAfter = limits.staleAfter := by
  unfold sanitized
  dsimp only
  split <;> rfl

end HealthLimits

/-! ## The flag -/

/-- A queue report that raises the flag. -/
def HealthEvent.rises (fl : ℚ → ℚ) (high : F64) : HealthEvent → Bool
  | .queuePressure depth capacity => capacity != 0 && high.le (F64.ratio fl depth capacity)
  | _ => false

/-- Anything but a queue report that clears the flag. -/
def HealthEvent.holds (fl : ℚ → ℚ) (low : F64) : HealthEvent → Bool
  | .queuePressure depth capacity => capacity != 0 && low.lt (F64.ratio fl depth capacity)
  | _ => true

namespace HealthMachine

variable {fl : ℚ → ℚ}

/-- What queue reports alone set is the same in both machines. -/
def SameOverload (m m' : HealthMachine) : Prop :=
  m'.overloaded = m.overloaded ∧ m'.limits = m.limits

theorem sameOverload_enterFatal (m : HealthMachine) (code : FatalCode) (detail : String) :
    SameOverload m (m.enterFatal code detail) := by
  unfold enterFatal
  split <;> exact ⟨rfl, rfl⟩

theorem sameOverload_fatalIfStarted (m : HealthMachine) (code : FatalCode) (detail : String) :
    SameOverload m (m.fatalIfStarted code detail) := by
  unfold fatalIfStarted
  split
  · exact m.sameOverload_enterFatal code detail
  · exact ⟨rfl, rfl⟩

theorem sameOverload_lifecycle (m : HealthMachine) (e : HealthEvent) (now : Instant) :
    SameOverload m (m.applyLifecycle e now) := by
  unfold applyLifecycle
  split
  · show SameOverload m (m.markStarted now)
    unfold markStarted
    split <;> exact ⟨rfl, rfl⟩
  · show SameOverload m m.markInitialized
    unfold markInitialized
    split <;> exact ⟨rfl, rfl⟩
  · exact m.sameOverload_fatalIfStarted _ _
  · unfold applyCheckpoint
    dsimp only
    split <;> exact ⟨rfl, rfl⟩
  · exact m.sameOverload_fatalIfStarted _ _
  · unfold applyTerminal
    dsimp only
    split <;> exact ⟨rfl, rfl⟩
  · exact m.sameOverload_enterFatal _ _
  · exact ⟨rfl, rfl⟩

theorem apply_limits (m : HealthMachine) (e : HealthEvent) (now : Instant) :
    (m.apply fl e now).limits = m.limits := by
  unfold apply
  split
  · rfl
  · rfl
  · rfl
  · rfl
  · exact (m.sameOverload_lifecycle e now).2

/-- **Events other than queue reports never change the flag.** -/
theorem apply_overloaded_of_ne (m : HealthMachine) {e : HealthEvent}
    (he : ∀ depth capacity, e ≠ .queuePressure depth capacity) (now : Instant) :
    (m.apply fl e now).overloaded = m.overloaded := by
  unfold apply
  split
  · rfl
  · rfl
  · exact absurd rfl (he _ _)
  · rfl
  · exact (m.sameOverload_lifecycle e now).1

/-- One event, through the latch. -/
theorem apply_overloaded (m : HealthMachine) (e : HealthEvent) (now : Instant) :
    (m.apply fl e now).overloaded =
      Latch.next (·.rises fl m.limits.overloadHigh) (·.holds fl m.limits.overloadLow) m.overloaded e := by
  by_cases he : ∃ depth capacity, e = .queuePressure depth capacity
  · obtain ⟨depth, capacity, rfl⟩ := he
    show nextOverload fl m.overloaded depth capacity _ _ = _
    unfold nextOverload Latch.next HealthEvent.rises HealthEvent.holds
    by_cases hc : capacity = 0 <;> cases m.overloaded <;> simp [hc]
  · rw [m.apply_overloaded_of_ne fun d c h => he ⟨d, c, h⟩]
    unfold Latch.next
    cases e <;> cases m.overloaded <;> first | rfl | exact absurd ⟨_, _, rfl⟩ he

theorem run_overloaded (m : HealthMachine) (events : List (HealthEvent × Instant)) :
    (m.run fl events).overloaded =
        Latch.run (·.rises fl m.limits.overloadHigh) (·.holds fl m.limits.overloadLow) m.overloaded
          (events.map Prod.fst) ∧
      (m.run fl events).limits = m.limits := by
  induction events using List.reverseRecOn with
  | nil => exact ⟨rfl, rfl⟩
  | append_singleton events e ih =>
    obtain ⟨hflag, hlimits⟩ := ih
    rw [run_concat]
    refine ⟨?_, (apply_limits _ _ _).trans hlimits⟩
    rw [apply_overloaded, hlimits, hflag, List.map_append, List.map_singleton, Latch.run_concat]

end HealthMachine

/-! ## Main result -/

/-- Since the last report of an empty capacity some ratio reached `high`, and every later one
stayed above `low`. -/
def Overloads (low high : ℚ) (events : List HealthEvent) : Prop :=
  ∃ (before : List HealthEvent) (depth capacity : ℕ) (after : List HealthEvent),
    events = before ++ .queuePressure depth capacity :: after ∧
    capacity ≠ 0 ∧ high ≤ (depth : ℚ) / capacity ∧
    ∀ depth' capacity' : ℕ, .queuePressure depth' capacity' ∈ after →
      capacity' ≠ 0 ∧ low < (depth' : ℚ) / capacity'

theorem rises_id (high : ℚ) (e : HealthEvent) : e.rises id (.finite high) = true ↔
    ∃ depth capacity : ℕ, e = .queuePressure depth capacity ∧ capacity ≠ 0 ∧
      high ≤ (depth : ℚ) / capacity := by
  cases e <;> simp [HealthEvent.rises, F64.ratio, F64.le, F64.lt]

theorem holds_id (low : ℚ) (e : HealthEvent) : e.holds id (.finite low) = true ↔
    ∀ depth capacity : ℕ, e = .queuePressure depth capacity →
      capacity ≠ 0 ∧ low < (depth : ℚ) / capacity := by
  cases e <;> simp [HealthEvent.holds, F64.ratio, F64.lt]

theorem latch_iff_overloads {low high : ℚ} (hgap : low < high) (events : List HealthEvent) :
    Latch.run (·.rises id (.finite high)) (·.holds id (.finite low)) false events = true ↔
      Overloads low high events := by
  rw [Latch.run_eq_true]
  · constructor
    · rintro ⟨before, e, after, rfl, he, hafter⟩
      obtain ⟨depth, capacity, rfl, hc, hhigh⟩ := (rises_id high e).1 he
      refine ⟨before, depth, capacity, after, rfl, hc, hhigh, fun depth' capacity' hmem => ?_⟩
      exact (holds_id low _).1 (hafter _ hmem) depth' capacity' rfl
    · rintro ⟨before, depth, capacity, after, rfl, hc, hhigh, hafter⟩
      refine ⟨before, _, after, rfl, (rises_id high _).2 ⟨depth, capacity, rfl, hc, hhigh⟩, ?_⟩
      intro e he
      refine (holds_id low e).2 fun depth' capacity' heq => ?_
      subst heq
      exact hafter depth' capacity' he
  · intro e he
    obtain ⟨depth, capacity, rfl, hc, hhigh⟩ := (rises_id high e).1 he
    refine (holds_id low _).2 fun depth' capacity' heq => ?_
    cases heq
    exact ⟨hc, hgap.trans_le hhigh⟩

/-- **Overload hysteresis**: whatever the limits, the effective watermarks lie apart in the
unit interval and are kept by the sanitizer; and after any events the machine is overloaded
exactly when some ratio since the last empty capacity reached the high watermark and none
after it fell to the low one. -/
theorem overload_hysteresis (limits : HealthLimits) (events : List (HealthEvent × Instant)) :
    (∀ fl ∈ [id, F64.binary64], let effective := (HealthMachine.new fl limits).limits
      (∃ low high, effective.Apart low high) ∧ effective.sanitized fl = effective ∧
        effective.staleAfter = limits.staleAfter) ∧
    (∃ low high, (HealthMachine.new id limits).limits.Apart low high ∧
      (((HealthMachine.new id limits).run id events).overloaded = true ↔
        Overloads low high (events.map Prod.fst))) ∧
    ∀ fl (m : HealthMachine) e now, (∀ depth capacity, e ≠ .queuePressure depth capacity) →
      (m.apply fl e now).overloaded = m.overloaded := by
  refine ⟨fun fl hfl => ?_, ?_, fun fl m e now he => m.apply_overloaded_of_ne he now⟩
  · have hcal : HealthLimits.Calibrated fl := by
      rcases List.mem_cons.1 hfl with rfl | hfl
      · exact HealthLimits.calibrated_id
      · rw [List.mem_singleton.1 hfl]
        exact HealthLimits.calibrated_binary64
    obtain ⟨low, high, h⟩ := HealthLimits.apart_sanitized hcal limits
    exact ⟨⟨low, high, h⟩, h.sanitized_eq fl, HealthLimits.staleAfter_sanitized fl limits⟩
  · obtain ⟨low, high, h⟩ := HealthLimits.apart_sanitized HealthLimits.calibrated_id limits
    refine ⟨low, high, h, ?_⟩
    obtain ⟨hflag, -⟩ := @HealthMachine.run_overloaded id (HealthMachine.new id limits) events
    rw [hflag, show (HealthMachine.new id limits).limits = limits.sanitized id from rfl,
      h.overloadHigh, h.overloadLow]
    exact latch_iff_overloads h.gap _

end Brainstem.Health
