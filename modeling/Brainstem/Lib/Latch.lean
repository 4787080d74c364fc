import Mathlib.Data.List.Induction
import Mathlib.Tactic.Common

/-!
# A latch with hysteresis

A flag that one input can raise and another can clear: while it is down an input that
`rises` raises it, and while it is up it stays up as long as each input `holds` it.  When
whatever raises the flag would also have held it, the flag after a whole sequence does not
depend on the order in which it went up and down before:

    up  ↔  some input rose, and every later one held
-/

namespace Latch

variable {α : Type} (rises holds : α → Bool)

def next (up : Bool) (a : α) : Bool := if up then holds a else rises a

/-- The flag after a sequence of inputs. -/
def run (up : Bool) (inputs : List α) : Bool := inputs.foldl (next rises holds) up

theorem run_concat (up : Bool) (inputs : List α) (a : α) :
    run rises holds up (inputs ++ [a]) = next rises holds (run rises holds up inputs) a := by
  simp [run]

/-- What was singled out in a list that got one more element is that element, or was there. -/
theorem concat_eq_split {inputs before after : List α} {last a : α}
    (h : inputs ++ [last] = before ++ a :: after) :
    (inputs = before ∧ last = a ∧ after = []) ∨
      ∃ after', after = after' ++ [last] ∧ inputs = before ++ a :: after' := by
  rcases List.eq_nil_or_concat after with rfl | ⟨after', b, rfl⟩
  · obtain ⟨hinputs, hlast⟩ := List.append_inj' h rfl
    exact .inl ⟨hinputs, List.singleton_inj.1 hlast, rfl⟩
  · rw [List.concat_eq_append, ← List.cons_append, ← List.append_assoc] at h
    obtain ⟨hinputs, hlast⟩ := List.append_inj' h rfl
    rw [List.singleton_inj.1 hlast]
    exact .inr ⟨after', List.concat_eq_append, hinputs⟩

variable {rises holds}

theorem run_eq_true (h : ∀ a, rises a = true → holds a = true) (inputs : List α) :
    run rises holds false inputs = true ↔
      ∃ before a after, inputs = before ++ a :: after ∧ rises a = true ∧ ∀ b ∈ after, holds b = true := by
  induction inputs using List.reverseRecOn with
  | nil => simp [run]
  | append_singleton inputs last ih =>
    rw [run_concat]
    constructor
    · intro hup
      unfold next at hup
      split at hup
      · next hrun =>
        obtain ⟨before, a, after, rfl, ha, hafter⟩ := ih.1 hrun
        refine ⟨before, a, after ++ [last], by simp, ha, ?_⟩
        intro b hb
        rcases List.mem_append.1 hb with hb | hb
        · exact hafter b hb
        · rw [List.mem_singleton.1 hb]
          exact hup
      · exact ⟨inputs, last, [], rfl, hup, by simp⟩
    · rintro ⟨before, a, after, heq, ha, hafter⟩
      unfold next
      rcases concat_eq_split heq with ⟨rfl, rfl, rfl⟩ | ⟨after', rfl, rfl⟩
      · split
        · exact h last ha
        · exact ha
      · rw [if_pos (ih.2 ⟨before, a, after', rfl, ha, fun b hb => hafter b (by simp [hb])⟩)]
        exact hafter last (by simp)

end Latch
