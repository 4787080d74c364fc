import Mathlib.Data.Rat.Floor
import Mathlib.Algebra.Order.Field.Rat

/-!
# 64-bit floats as rationals

A float is a NaN, an infinity or a rational.  The two zeros are one value: no comparison tells
them apart, but their bits do, so what is said of a value is said up to the sign of a zero (a
`-0.0` that is converted or stored is `0` here).  Arithmetic is exact arithmetic followed by a
rounding `fl : ℚ → ℚ`, which stays a parameter wherever nothing depends on it; `binary64` is the
rounding to nearest, ties to even, of the IEEE format.
-/

inductive F64 where
  | nan
  | inf (negative : Bool)
  | finite (q : ℚ)
  deriving DecidableEq, Repr

namespace F64

def isFinite : F64 → Bool
  | .finite _ => true
  | _ => false

/-- `a < b`, false on a NaN. -/
def lt : F64 → F64 → Bool
  | .finite a, .finite b => decide (a < b)
  | .inf true, .finite _ => true
  | .inf true, .inf false => true
  | .finite _, .inf false => true
  | _, _ => false

/-- `a <= b`, false on a NaN. -/
def le : F64 → F64 → Bool
  | .nan, _ => false
  | _, .nan => false
  | a, b => !(lt b a)

/-- The quotient of two integers that were converted first, the divisor not zero. -/
def ratio (fl : ℚ → ℚ) (a b : ℕ) : F64 := .finite (fl (fl a / fl b))

/-! ## Rounding to nearest -/

/-- The `e` with `2 ^ e ≤ q < 2 ^ (e + 1)`, for a positive `q`. -/
def exponent (q : ℚ) : ℤ :=
  let e : ℤ := (Nat.log2 q.num.natAbs : ℤ) - Nat.log2 q.den
  if (2 : ℚ) ^ e ≤ q then e else e - 1

/-- Nearest integer, ties to even. -/
def roundEven (q : ℚ) : ℤ :=
  let f := ⌊q⌋
  if q - f < 1 / 2 then f else if 1 / 2 < q - f then f + 1 else if f % 2 = 0 then f else f + 1

/-- Rounding to 53 significant bits, or to the least subnormal step. -/
def binary64 (q : ℚ) : ℚ :=
  if q = 0 then 0
  else
    let step : ℚ := 2 ^ max (exponent |q| - 52) (-1074)
    roundEven (q / step) * step

end F64
