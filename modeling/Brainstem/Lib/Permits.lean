import Mathlib.Data.List.Basic

/-!
# Permits held by tasks

A semaphore hands out permits, and each task of a list holds one or none.  However the tasks
move, nothing is lost as long as a permit is taken when a task starts to hold one and comes
back when it stops:

    free + tasks.countP holds = cap                                          (Balanced)

so a permit is refused exactly while `cap` tasks hold one.
-/

namespace Permits

variable {τ : Type}

/-- Every permit is free or held by one task. -/
def Balanced (holds : τ → Bool) (cap free : ℕ) (tasks : List τ) : Prop :=
  free + tasks.countP holds = cap

/-- One permit is taken, if there is one. -/
def tryAcquire (free : ℕ) : Option ℕ := if 0 < free then some (free - 1) else none

def release (free : ℕ) : ℕ := free + 1

variable {holds : τ → Bool} {cap free : ℕ} {tasks : List τ}

theorem Balanced.start (holds : τ → Bool) (cap : ℕ) : Balanced holds cap cap [] := by
  unfold Balanced
  rw [List.countP_nil, Nat.add_zero]

theorem Balanced.held_le (h : Balanced holds cap free tasks) : tasks.countP holds ≤ cap := by
  unfold Balanced at h
  omega

theorem Balanced.tryAcquire_eq_none (h : Balanced holds cap free tasks) :
    tryAcquire free = none ↔ tasks.countP holds = cap := by
  unfold Balanced at h
  unfold tryAcquire
  split
  · next hfree =>
    constructor
    · intro hnone
      cases hnone
    · intro hall
      omega
  · next hfree => exact ⟨fun _ => by omega, fun _ => rfl⟩

/-! ## New tasks -/

/-- A task that starts with the permit that was taken for it. -/
theorem Balanced.spawn_holder (h : Balanced holds cap free tasks) {free' : ℕ}
    (hacquired : tryAcquire free = some free') {t : τ} (ht : holds t = true) :
    Balanced holds cap free' (tasks ++ [t]) := by
  unfold tryAcquire at hacquired
  split at hacquired
  · next hfree =>
    cases hacquired
    unfold Balanced at h ⊢
    rw [List.countP_append, List.countP_singleton, if_pos ht]
    omega
  · cases hacquired

theorem Balanced.spawn (h : Balanced holds cap free tasks) {t : τ} (ht : holds t = false) :
    Balanced holds cap free (tasks ++ [t]) := by
  unfold Balanced at h ⊢
  rw [List.countP_append, List.countP_singleton, ht]
  exact h

/-! ## Tasks that move -/

section Move

variable {i : ℕ} {t t' : τ}

theorem countP_set (hi : tasks[i]? = some t) (t' : τ) :
    (tasks.set i t').countP holds + (if holds t = true then 1 else 0) =
      tasks.countP holds + (if holds t' = true then 1 else 0) := by
  obtain ⟨hlen, hget⟩ := List.getElem?_eq_some_iff.1 hi
  have hset := List.countP_set (p := holds) (a := t') hlen
  have hmem : holds t = true → 0 < tasks.countP holds := by
    intro ht
    rw [List.countP_pos_iff]
    exact ⟨t, hget ▸ List.getElem_mem hlen, ht⟩
  rw [hget] at hset
  by_cases ht : holds t = true
  · have := hmem ht
    rw [if_pos ht] at hset ⊢
    omega
  · rw [if_neg ht] at hset ⊢
    omega

/-- A task that goes on holds its permit, if it had one. -/
theorem Balanced.move (h : Balanced holds cap free tasks) (hi : tasks[i]? = some t)
    (ht : holds t' = holds t) : Balanced holds cap free (tasks.set i t') := by
  have hset : (tasks.set i t').countP holds + _ = tasks.countP holds + _ := countP_set hi t'
  rw [ht] at hset
  unfold Balanced at h ⊢
  omega

/-- The permit of a task that stops is free again. -/
theorem Balanced.finish (h : Balanced holds cap free tasks) (hi : tasks[i]? = some t)
    (ht : holds t = true) (ht' : holds t' = false) :
    Balanced holds cap (release free) (tasks.set i t') := by
  have hset : (tasks.set i t').countP holds + _ = tasks.countP holds + _ := countP_set hi t'
  rw [if_pos ht, if_neg (by simp [ht'])] at hset
  unfold Balanced at h ⊢
  unfold release
  omega

end Move

end Permits
