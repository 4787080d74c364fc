import Brainstem.Lib.F32

/-!
# Ingress packets

The packet of one tick, and the check that every value in it is finite.
-/

namespace Brainstem.Ingress

structure IngressPacket where
  stimuli : List F32
  /-- in the order dopamine, serotonin, acetylcholine, norepinephrine -/
  modulators : Option (List F32)
  validMask : Option (List Bool)
  batchId : Option ℕ
  timestampNs : Option ℕ
  sessionId : Option String
  rejected : Bool
  deriving DecidableEq, Repr

def IngressPacket.default : IngressPacket where
  stimuli := []
  modulators := none
  validMask := none
  batchId := none
  timestampNs := none
  sessionId := none
  rejected := false

inductive NonFiniteInput where
  | stimulus (index : ℕ)
  | modulator (index : ℕ)
  deriving DecidableEq, Repr

/-- The first value that is not finite: stimuli first, masked or not, then modulators. -/
def firstNonFinite (packet : IngressPacket) : Option NonFiniteInput :=
  match packet.stimuli.findIdx? fun v => !v.isFinite with
  | some index => some (.stimulus index)
  | none =>
    match packet.modulators with
    | some mods => (mods.findIdx? fun v => !v.isFinite).map .modulator
    | none => none

theorem findIdx?_not_eq_none {α : Type} (p : α → Bool) (l : List α) :
    (l.findIdx? fun v => !p v) = none ↔ ∀ v ∈ l, p v = true := by
  simp [List.findIdx?_eq_none_iff]

/-- The gate passes exactly the packets whose values are all finite. -/
theorem firstNonFinite_eq_none (packet : IngressPacket) : firstNonFinite packet = none ↔
    (∀ v ∈ packet.stimuli, v.isFinite = true) ∧
      ∀ mods ∈ packet.modulators, ∀ v ∈ mods, v.isFinite = true := by
  unfold firstNonFinite
  cases hs : packet.stimuli.findIdx? fun v => !v.isFinite with
  | some index =>
    have hne : ¬∀ v ∈ packet.stimuli, v.isFinite = true := by
      rw [← findIdx?_not_eq_none F32.isFinite, hs]
      simp
    simp [hne]
  | none =>
    have hall := (findIdx?_not_eq_none F32.isFinite _).1 hs
    cases hm : packet.modulators with
    | none => simpa using hall
    | some mods =>
      simp only [Option.map_eq_none_iff, findIdx?_not_eq_none F32.isFinite, Option.mem_def,
        Option.some.injEq, forall_eq']
      exact ⟨fun h => ⟨hall, h⟩, And.right⟩

end Brainstem.Ingress
