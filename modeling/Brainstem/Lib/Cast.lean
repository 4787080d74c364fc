import Brainstem.Lib.F32
import Brainstem.Lib.F64

/-!
# From double to single precision

`as f32` rounds to the nearest single, ties to even, and a magnitude that is too large
becomes infinite.  The sign goes by itself, so the conversion commutes with the absolute
value:

    x.abs.toF32 = x.toF32.abs                                            (F64.toF32_abs)
-/

namespace F32

/-- The bits of infinity. -/
def INFINITY_BITS : ℕ := 255 * 2 ^ 23

def signed (negative : Bool) (magnitude : ℕ) : F32 :=
  ⟨UInt32.ofNat (if negative then magnitude + 2 ^ 31 else magnitude)⟩

def abs (x : F32) : F32 := ⟨UInt32.ofNat (x.bits.toNat % 2 ^ 31)⟩

/-- `x <= y`; false when either is NaN. -/
def le (x y : F32) : Bool := !x.isNan && !y.isNan && decide (x.magnitude ≤ y.magnitude)

/-- `f32::max`: a NaN is passed over. -/
def max (x y : F32) : F32 := if x.isNan then y else if y.isNan then x else if x.lt y then y else x

/-- The bits of the single nearest to `q`, which is not negative.  It is `m` steps of `2 ^ k`;
the leading one of `m` counts into the exponent field, so does the carry of a rounding up. -/
def nearestBits (q : ℚ) : ℕ :=
  if q = 0 then 0
  else
    let k : ℤ := Max.max (F64.exponent q - 23) (-149)
    let m := F64.roundEven (q / (2 : ℚ) ^ k)
    min INFINITY_BITS ((k + 149).toNat * 2 ^ 23 + m.toNat)

theorem nearestBits_le (q : ℚ) : nearestBits q ≤ INFINITY_BITS := by
  unfold nearestBits
  split
  · exact Nat.zero_le _
  · exact Nat.min_le_left _ _

theorem abs_signed (negative : Bool) {magnitude : ℕ} (h : magnitude ≤ INFINITY_BITS) :
    (signed negative magnitude).abs = signed false magnitude := by
  have hbound : INFINITY_BITS = 2139095040 := rfl
  have hbits : (UInt32.ofNat (if negative then magnitude + 2 ^ 31 else magnitude)).toNat =
      if negative then magnitude + 2 ^ 31 else magnitude := by
    rw [UInt32.toNat_ofNat']
    apply Nat.mod_eq_of_lt
    split <;> omega
  unfold abs signed
  simp only [hbits, Bool.false_eq_true, if_false]
  congr 2
  split <;> omega

theorem abs_finite (x : F32) : x.abs.isFinite = x.isFinite := by
  have hbits : x.abs.bits.toNat = x.bits.toNat % 2 ^ 31 := by
    unfold abs
    rw [UInt32.toNat_ofNat']
    omega
  unfold isFinite exponent
  rw [hbits]
  congr 1
  omega

theorem isNan_of_isFinite {x : F32} (h : x.isFinite = true) : x.isNan = false := by
  unfold isFinite at h
  unfold isNan
  rw [bne_iff_ne] at h
  simp [h]

theorem le_eq_false {x y : F32} (hx : x.isNan = false) (hy : y.isNan = false) :
    x.le y = false ↔ y.lt x = true := by
  unfold le lt
  rw [hx, hy]
  simp

theorem isNan_max {x y : F32} (hx : x.isNan = false) (hy : y.isNan = false) :
    (x.max y).isNan = false := by
  unfold max
  rw [if_neg (by rw [hx]; decide), if_neg (by rw [hy]; decide)]
  split
  · exact hy
  · exact hx

theorem lt_max {c x y : F32} (hx : x.isNan = false) (hy : y.isNan = false) :
    c.lt (x.max y) = true ↔ c.lt x = true ∨ c.lt y = true := by
  unfold max
  rw [if_neg (by rw [hx]; decide), if_neg (by rw [hy]; decide)]
  by_cases hc : c.isNan = true
  · simp [lt, hc]
  · unfold lt
    rw [hx, hy, Bool.eq_false_iff.2 hc]
    simp only [Bool.not_false, Bool.true_and, decide_eq_true_eq]
    split
    · rw [hy]
      simp only [Bool.not_false, Bool.true_and, decide_eq_true_eq]
      omega
    · rw [hx]
      simp only [Bool.not_false, Bool.true_and, decide_eq_true_eq]
      omega

/-- The greatest of some singles is above `c` when one of them is. -/
theorem lt_foldl_max {c : F32} (l : List F32) (hl : ∀ x ∈ l, x.isNan = false) {a : F32}
    (ha : a.isNan = false) : (l.foldl max a).isNan = false ∧
      (c.lt (l.foldl max a) = true ↔ c.lt a = true ∨ ∃ x ∈ l, c.lt x = true) := by
  induction l generalizing a with
  | nil => exact ⟨ha, by simp⟩
  | cons x l ih =>
    have hx : x.isNan = false := hl x List.mem_cons_self
    obtain ⟨hnan, hlt⟩ := ih (fun y hy => hl y (List.mem_cons_of_mem x hy)) (isNan_max ha hx)
    refine ⟨hnan, hlt.trans ?_⟩
    rw [lt_max ha hx, or_assoc]
    simp

end F32

namespace F64

def abs : F64 → F64
  | .nan => .nan
  | .inf _ => .inf false
  | .finite q => .finite |q|

/-- `value as f32`. -/
def toF32 : F64 → F32
  | .nan => .nan
  | .inf negative => .signed negative F32.INFINITY_BITS
  | .finite q => .signed (decide (q < 0)) (F32.nearestBits |q|)

theorem toF32_abs (x : F64) : x.abs.toF32 = x.toF32.abs := by
  cases x with
  | nan => rfl
  | inf negative => exact (F32.abs_signed negative (Nat.le_refl _)).symm
  | finite q =>
    have hnonneg : ¬|q| < 0 := not_lt.2 (abs_nonneg q)
    show F32.signed (decide (|q| < 0)) (F32.nearestBits |(|q|)|) = F32.abs (F32.signed _ _)
    rw [F32.abs_signed _ (F32.nearestBits_le _), abs_abs, decide_eq_false hnonneg]

example : (F64.finite (-1 / 2)).toF32 = ⟨0xBF000000⟩ ∧
    (F64.finite (1 / 1000000)).toF32 = ⟨0x358637BD⟩ ∧
    (F64.finite (2 ^ 128)).toF32 = ⟨0x7F800000⟩ ∧ (F64.finite (1 / 2 ^ 149)).toF32 = ⟨1⟩ := by
  decide +kernel

end F64
