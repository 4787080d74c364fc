import Brainstem.Lib.Cast

/-!
# Where rounding to single precision ends up

What the nearest single is comes down to what `roundEven` rounds to, at an exponent that is
the binary exponent of the number.  At the two ends of the unit interval:

    0 < nearestBits q            ↔  2 ^ -150 < q                         (nearestBits_pos)
    nearestBits q < ONE_BITS     ↔  q < 1 - 2 ^ -25                      (nearestBits_lt_one)
-/

namespace F64

/-! ## Nearest integers -/

/-- The half below an even integer rounds up to it, the half below an odd one does not. -/
theorem le_roundEven_iff {n : ℤ} {q : ℚ} :
    n ≤ roundEven q ↔ (n : ℚ) - 1 / 2 < q ∨ ((n : ℚ) - 1 / 2 = q ∧ n % 2 = 0) := by
  obtain ⟨f, hf⟩ : ∃ f, f = ⌊q⌋ := ⟨_, rfl⟩
  have hlow : (f : ℚ) ≤ q := by rw [hf]; exact Int.floor_le q
  have hhigh : q < f + 1 := by rw [hf]; exact Int.lt_floor_add_one q
  unfold roundEven
  rw [← hf]
  dsimp only
  rcases lt_trichotomy n (f + 1) with hn | rfl | hn
  · have hnf : (n : ℚ) ≤ f := by exact_mod_cast (show n ≤ f by omega)
    have hleft : n ≤ if q - f < 1 / 2 then f else
        if 1 / 2 < q - f then f + 1 else if f % 2 = 0 then f else f + 1 := by
      split_ifs <;> omega
    exact ⟨fun _ => .inl (by linarith), fun _ => hleft⟩
  · push_cast
    rcases lt_trichotomy (q - f) (1 / 2) with h | h | h
    · rw [if_pos h]
      constructor
      · intro hle
        omega
      · rintro (hlt | ⟨heq, -⟩) <;> linarith
    · rw [if_neg (by linarith), if_neg (by linarith)]
      have heq : (f : ℚ) + 1 - 1 / 2 = q := by linarith
      split_ifs with heven
      · constructor
        · intro hle
          omega
        · rintro (hlt | ⟨-, hodd⟩)
          · linarith
          · omega
      · exact ⟨fun _ => .inr ⟨heq, by omega⟩, fun _ => le_refl _⟩
    · rw [if_neg (by linarith), if_pos h]
      exact ⟨fun _ => .inl (by linarith), fun _ => le_refl _⟩
  · have hfn : (f : ℚ) + 2 ≤ n := by exact_mod_cast (show f + 2 ≤ n by omega)
    constructor
    · intro hle
      exfalso
      have hright : (if q - f < 1 / 2 then f else
          if 1 / 2 < q - f then f + 1 else if f % 2 = 0 then f else f + 1) ≤ f + 1 := by
        split_ifs <;> omega
      omega
    · rintro (hlt | ⟨heq, -⟩) <;> linarith

/-! ## Binary exponents -/

theorem div_lt_two_zpow {x y : ℚ} {m n : ℕ} (hx : x < 2 ^ m) (hy : 2 ^ n ≤ y) :
    x / y < (2 : ℚ) ^ ((m : ℤ) - n) := by
  rw [zpow_sub₀ two_ne_zero, zpow_natCast, zpow_natCast]
  exact div_lt_div₀ hx hy (by positivity) (by positivity)

theorem two_zpow_lt_div {x y : ℚ} {m n : ℕ} (hx : 2 ^ m ≤ x) (hpos : 0 < y) (hy : y < 2 ^ n) :
    (2 : ℚ) ^ ((m : ℤ) - n) < x / y := by
  have hm : (0 : ℚ) < 2 ^ m := by positivity
  rw [zpow_sub₀ two_ne_zero, zpow_natCast, zpow_natCast]
  exact div_lt_div₀' hx hy (hm.trans_le hx) hpos

theorem exponent_bounds {q : ℚ} (h : 0 < q) :
    (2 : ℚ) ^ exponent q ≤ q ∧ q < (2 : ℚ) ^ (exponent q + 1) := by
  have hnum : q.num.natAbs ≠ 0 := by
    rw [Int.natAbs_ne_zero, Rat.num_ne_zero]
    exact h.ne'
  obtain ⟨a, ha⟩ : ∃ a, a = Nat.log2 q.num.natAbs := ⟨_, rfl⟩
  obtain ⟨b, hb⟩ : ∃ b, b = Nat.log2 q.den := ⟨_, rfl⟩
  have hnumLow : (2 : ℚ) ^ a ≤ q.num.natAbs := by
    exact_mod_cast (ha ▸ Nat.log2_self_le hnum)
  have hnumHigh : (q.num.natAbs : ℚ) < 2 ^ (a + 1) := by
    exact_mod_cast (ha ▸ Nat.lt_log2_self)
  have hdenLow : (2 : ℚ) ^ b ≤ q.den := by
    exact_mod_cast (hb ▸ Nat.log2_self_le q.den_nz)
  have hdenHigh : (q.den : ℚ) < 2 ^ (b + 1) := by
    exact_mod_cast (hb ▸ Nat.lt_log2_self)
  have hden : (0 : ℚ) < q.den := by exact_mod_cast q.den_pos
  have hq : (q.num.natAbs : ℚ) / q.den = q := by
    rw [Nat.cast_natAbs, abs_of_pos (Rat.num_pos.2 h), Rat.num_div_den]
  have hlow : (2 : ℚ) ^ ((a : ℤ) - b - 1) < q := by
    rw [show (a : ℤ) - b - 1 = (a : ℤ) - ((b + 1 : ℕ) : ℤ) by push_cast; omega, ← hq]
    exact two_zpow_lt_div hnumLow hden hdenHigh
  have hhigh : q < (2 : ℚ) ^ ((a : ℤ) - b + 1) := by
    rw [show (a : ℤ) - b + 1 = ((a + 1 : ℕ) : ℤ) - b by push_cast; omega, ← hq]
    exact div_lt_two_zpow hnumHigh hdenLow
  unfold exponent
  rw [← ha, ← hb]
  dsimp only
  split
  · next hle => exact ⟨hle, hhigh⟩
  · next hlt =>
    rw [sub_add_cancel]
    exact ⟨hlow.le, not_le.1 hlt⟩

end F64

namespace F32

open F64 (le_roundEven_iff exponent_bounds)

/-- The bits of one. -/
def ONE_BITS : ℕ := 127 * 2 ^ 23

/-- Steps of `2 ^ k`, at most `2 ^ 24` of them, the leading one counted into the exponent. -/
theorem nearestBits_steps {q : ℚ} (h : 0 < q) : ∃ k m : ℤ, k = Max.max (F64.exponent q - 23) (-149) ∧
    m = F64.roundEven (q / (2 : ℚ) ^ k) ∧ 0 ≤ m ∧ m ≤ 2 ^ 24 ∧
    nearestBits q = min INFINITY_BITS ((k + 149).toNat * 2 ^ 23 + m.toNat) := by
  obtain ⟨k, hk⟩ : ∃ k, k = Max.max (F64.exponent q - 23) (-149) := ⟨_, rfl⟩
  have hstep : (0 : ℚ) < (2 : ℚ) ^ k := zpow_pos two_pos k
  have hquotient : 0 < q / (2 : ℚ) ^ k := div_pos h hstep
  refine ⟨k, _, hk, rfl, ?_, ?_, ?_⟩
  · rw [le_roundEven_iff]
    left
    push_cast
    linarith
  · have hhigh : q / (2 : ℚ) ^ k < 2 ^ 24 := by
      rw [div_lt_iff₀ hstep, ← zpow_natCast, ← zpow_add₀ two_ne_zero]
      refine (exponent_bounds h).2.trans_le (zpow_le_zpow_right₀ one_le_two ?_)
      push_cast
      omega
    by_contra hlt
    have hle : (2 ^ 24 + 1 : ℤ) ≤ F64.roundEven (q / (2 : ℚ) ^ k) := by omega
    rw [le_roundEven_iff] at hle
    push_cast at hle
    rcases hle with hle | ⟨heq, -⟩ <;> linarith
  · unfold nearestBits
    rw [if_neg h.ne', ← hk]

/-- Half of the least subnormal, and what is below it, goes to zero. -/
theorem nearestBits_pos {q : ℚ} (h : 0 < q) : 0 < nearestBits q ↔ 1 / 2 ^ 150 < q := by
  obtain ⟨k, m, hk, hm, hm0, -, hbits⟩ := nearestBits_steps h
  have hinf : INFINITY_BITS = 2139095040 := rfl
  have hpos : 0 < nearestBits q ↔ -149 < k ∨ 1 ≤ m := by
    rw [hbits, hinf]
    omega
  rw [hpos]
  by_cases hsub : -149 < k
  · have hbound : (1 : ℚ) / 2 ^ 150 < q := by
      have hexp : (-126 : ℤ) ≤ F64.exponent q := by omega
      calc (1 : ℚ) / 2 ^ 150 < (2 : ℚ) ^ (-126 : ℤ) := by norm_num
        _ ≤ (2 : ℚ) ^ F64.exponent q := zpow_le_zpow_right₀ one_le_two hexp
        _ ≤ q := (exponent_bounds h).1
    exact ⟨fun _ => hbound, fun _ => .inl hsub⟩
  · have hk149 : k = -149 := by omega
    have hm1 : 1 ≤ m ↔ (1 : ℚ) / 2 < q / (2 : ℚ) ^ (-149 : ℤ) := by
      rw [hm, hk149, le_roundEven_iff]
      norm_num
    rw [hm1, lt_div_iff₀ (by positivity)]
    have hhalf : (1 : ℚ) / 2 * (2 : ℚ) ^ (-149 : ℤ) = 1 / 2 ^ 150 := by norm_num
    rw [hhalf]
    exact ⟨fun hor => hor.resolve_left hsub, .inr⟩

/-- The half between one and the single below it goes to one. -/
theorem nearestBits_lt_one {q : ℚ} (h : 0 < q) (h1 : q < 1) :
    nearestBits q < ONE_BITS ↔ q < 1 - 1 / 2 ^ 25 := by
  obtain ⟨k, m, hk, hm, hm0, hm24, hbits⟩ := nearestBits_steps h
  have hinf : INFINITY_BITS = 2139095040 := rfl
  have hone : ONE_BITS = 1065353216 := rfl
  obtain ⟨hlow, hhigh⟩ := exponent_bounds h
  have hexp : F64.exponent q < 0 := by
    by_contra hge
    have hge1 : (1 : ℚ) ≤ (2 : ℚ) ^ F64.exponent q := one_le_zpow₀ one_le_two (by omega)
    linarith
  by_cases hk24 : k = -24
  · have hm1 : (2 ^ 24 : ℤ) ≤ m ↔ (2 ^ 24 - 1 / 2 : ℚ) ≤ q / (2 : ℚ) ^ (-24 : ℤ) := by
      rw [hm, hk24, le_roundEven_iff, le_iff_lt_or_eq]
      norm_num
    have hm2 : (2 ^ 24 : ℤ) ≤ m ↔ 1 - 1 / 2 ^ 25 ≤ q := by
      rw [hm1, le_div_iff₀ (by positivity)]
      have hhalf : (2 ^ 24 - 1 / 2 : ℚ) * (2 : ℚ) ^ (-24 : ℤ) = 1 - 1 / 2 ^ 25 := by norm_num
      rw [hhalf]
    rw [← not_le, ← not_le (a := 1 - 1 / 2 ^ 25), ← hm2, hbits, hinf, hone]
    omega
  · have hbound : q < 1 - 1 / 2 ^ 25 := by
      have hle : F64.exponent q + 1 ≤ -1 := by omega
      calc q < (2 : ℚ) ^ (F64.exponent q + 1) := hhigh
        _ ≤ (2 : ℚ) ^ (-1 : ℤ) := zpow_le_zpow_right₀ one_le_two hle
        _ < 1 - 1 / 2 ^ 25 := by norm_num
    refine ⟨fun _ => hbound, fun _ => ?_⟩
    rw [hbits, hinf, hone]
    omega

/-- A magnitude up to infinity is a number, and stands for itself. -/
theorem magnitude_signed {magnitude : ℕ} (h : magnitude ≤ INFINITY_BITS) :
    (signed false magnitude).magnitude = magnitude ∧ (signed false magnitude).isNan = false := by
  have hinf : INFINITY_BITS = 2139095040 := rfl
  have hbits : (signed false magnitude).bits.toNat = magnitude := by
    unfold signed
    rw [if_neg Bool.false_ne_true, UInt32.toNat_ofNat']
    omega
  constructor
  · unfold F32.magnitude isNegative
    rw [hbits, if_neg (by rw [decide_eq_true_eq]; omega), Nat.mod_eq_of_lt (by omega)]
  · unfold isNan exponent fraction
    rw [hbits, Bool.and_eq_false_iff, beq_eq_false_iff_ne, bne_eq_false_iff_eq]
    omega

/-- Strictly between zero and one. -/
def InUnit (x : F32) : Prop := F32.lt 0 x = true ∧ x.lt one = true

instance (x : F32) : Decidable x.InUnit := inferInstanceAs (Decidable (_ ∧ _))

/-- **The doubles that stay inside the unit interval** when they are rounded to a single: not
all that are inside it. -/
theorem inUnit_toF32 {q : ℚ} (h0 : 0 < q) (h1 : q < 1) :
    (F64.finite q).toF32.InUnit ↔ 1 / 2 ^ 150 < q ∧ q < 1 - 1 / 2 ^ 25 := by
  have hsingle : (F64.finite q).toF32 = signed false (nearestBits q) := by
    show signed (decide (q < 0)) (nearestBits |q|) = _
    rw [decide_eq_false (not_lt.2 h0.le), abs_of_pos h0]
  obtain ⟨hmagnitude, hnan⟩ := magnitude_signed (nearestBits_le q)
  have hzero : (0 : F32).isNan = false ∧ (0 : F32).magnitude = 0 := by decide
  have hone : one.isNan = false ∧ one.magnitude = (ONE_BITS : ℤ) := by decide
  rw [← nearestBits_pos h0, ← nearestBits_lt_one h0 h1, hsingle]
  unfold InUnit lt
  rw [hnan, hmagnitude, hzero.1, hzero.2, hone.1, hone.2]
  simp only [Bool.not_false, Bool.true_and, decide_eq_true_eq]
  omega

end F32
