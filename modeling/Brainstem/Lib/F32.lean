import Mathlib.Algebra.GroupWithZero.Nat
import Mathlib.Tactic.Common

/-!
# IEEE 754 single precision, by bit pattern

Only what a program can see without arithmetic: which values are finite, and how
two of them compare.  Sign, eight exponent bits, twenty-three fraction bits; an
exponent of all ones is an infinity (fraction zero) or a NaN.
-/

structure F32 where
  bits : UInt32
  deriving DecidableEq, Repr

namespace F32

def exponent (x : F32) : Nat := (x.bits.toNat / 2 ^ 23) % 2 ^ 8

def fraction (x : F32) : Nat := x.bits.toNat % 2 ^ 23

def isNegative (x : F32) : Bool := 2 ^ 31 ≤ x.bits.toNat

def isFinite (x : F32) : Bool := x.exponent != 255

def isNan (x : F32) : Bool := x.exponent == 255 && x.fraction != 0

/-- Signed magnitude: both zeros are `0`, and the order of values that are not NaN
is the order of these integers. -/
def magnitude (x : F32) : Int :=
  let m : Int := (x.bits.toNat % 2 ^ 31 : Nat)
  if x.isNegative then -m else m

/-- `x < y`; false when either is NaN. -/
def lt (x y : F32) : Bool := !x.isNan && !y.isNan && decide (x.magnitude < y.magnitude)

instance : Zero F32 := ⟨⟨0⟩⟩

def half : F32 := ⟨0x3F000000⟩
def one : F32 := ⟨0x3F800000⟩
def nan : F32 := ⟨0x7FC00000⟩

instance : Inhabited F32 := ⟨0⟩

theorem isFinite_zero : (0 : F32).isFinite = true := by decide

example : lt half one = true ∧ lt nan one = false ∧ nan.isFinite = false := by decide

end F32
