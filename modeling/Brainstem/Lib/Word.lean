import Mathlib.Algebra.GroupWithZero.Nat
import Mathlib.Tactic.Common

/-! # Checked and saturating addition on fixed-width words -/

namespace UInt64

/-- `u64::MAX`. -/
def max : UInt64 := 0xFFFFFFFFFFFFFFFF

/-- `checked_add`: `none` on overflow. -/
def checkedAdd (a b : UInt64) : Option UInt64 :=
  if a.toNat + b.toNat < 2 ^ 64 then some (a + b) else none

/-- `saturating_add`. -/
def saturatingAdd (a b : UInt64) : UInt64 :=
  (a.checkedAdd b).getD max

theorem ext_toNat {a b : UInt64} (h : a.toNat = b.toNat) : a = b := UInt64.toNat_inj.1 h

theorem checkedAdd_one_eq_some {a b : UInt64} :
    a.checkedAdd 1 = some b ↔ b.toNat = a.toNat + 1 := by
  have hb := b.toNat_lt
  unfold checkedAdd
  constructor
  · intro h
    split at h
    · next hlt =>
      cases h
      simp only [UInt64.toNat_add]
      exact Nat.mod_eq_of_lt hlt
    · cases h
  · intro h
    have hlt : a.toNat + (1 : UInt64).toNat < 2 ^ 64 := by rw [UInt64.toNat_one]; omega
    rw [if_pos hlt]
    congr 1
    apply ext_toNat
    rw [UInt64.toNat_add, Nat.mod_eq_of_lt hlt, UInt64.toNat_one, h]

theorem checkedAdd_one_eq_none {a : UInt64} : a.checkedAdd 1 = none ↔ a = max := by
  have ha := a.toNat_lt
  constructor
  · intro h
    apply ext_toNat
    unfold checkedAdd at h
    split at h
    · cases h
    · next hlt => rw [UInt64.toNat_one] at hlt; show _ = 2 ^ 64 - 1; omega
  · rintro rfl
    rfl

theorem exists_checkedAdd_one {a : UInt64} (h : a ≠ max) : ∃ b, a.checkedAdd 1 = some b := by
  cases hb : a.checkedAdd 1 with
  | none => exact absurd (checkedAdd_one_eq_none.1 hb) h
  | some b => exact ⟨b, rfl⟩

theorem lt_max_iff {a : UInt64} : a < max ↔ a ≠ max := by
  have ha := a.toNat_lt
  rw [UInt64.lt_iff_toNat_lt, ← UInt64.toNat_inj.ne, show max.toNat = 2 ^ 64 - 1 from rfl]
  omega

end UInt64

/-- `u32::saturating_add`. -/
def UInt32.saturatingAdd (a b : UInt32) : UInt32 :=
  if a.toNat + b.toNat < 2 ^ 32 then a + b else 0xFFFFFFFF

theorem UInt32.saturatingAdd_one (a : UInt32) : (a.saturatingAdd 1).toNat = a.toNat + 1 ∨
    (a.saturatingAdd 1).toNat = 2 ^ 32 - 1 ∧ a.toNat = 2 ^ 32 - 1 := by
  have ha := a.toNat_lt
  unfold saturatingAdd
  split
  · next hlt =>
    left
    rw [UInt32.toNat_add]
    exact Nat.mod_eq_of_lt hlt
  · next hge =>
    right
    rw [UInt32.toNat_one] at hge
    exact ⟨rfl, by omega⟩
