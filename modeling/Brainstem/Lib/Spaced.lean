import Mathlib.Data.List.Basic

/-!
# Stamps that keep a distance

A list of numbers, the latest first, in which each is at least `d` above those before it.  Then
few of them lie close together:

    (stamps.filter (t ≤ · < t + k * d)).length ≤ k                       (Spaced.window)
-/

/-- The latest stamp is first, and any two are at least `d` apart. -/
def Spaced (d : ℕ) (stamps : List ℕ) : Prop := stamps.Pairwise fun later earlier => earlier + d ≤ later

namespace Spaced

variable {d : ℕ} {stamps : List ℕ}

/-- The latest stamp, or zero if there is none. -/
def latest (stamps : List ℕ) : ℕ := stamps.headD 0

theorem le_latest (h : Spaced d stamps) {s : ℕ} (hs : s ∈ 0 :: stamps) : s ≤ latest stamps := by
  rcases List.mem_cons.1 hs with rfl | hs
  · exact Nat.zero_le _
  · cases stamps with
    | nil => cases hs
    | cons later stamps =>
      rcases List.mem_cons.1 hs with rfl | hs
      · exact Nat.le_refl _
      · exact Nat.le_trans (Nat.le_add_right s d) (List.rel_of_pairwise_cons h hs)

theorem push (h : Spaced d stamps) {now : ℕ} (hnow : latest stamps + d ≤ now) :
    Spaced d (now :: stamps) := by
  refine List.pairwise_cons.2 ⟨fun s hs => ?_, h⟩
  have := h.le_latest (List.mem_cons_of_mem 0 hs)
  omega

theorem latest_mem (stamps : List ℕ) : latest stamps ∈ 0 :: stamps := by
  cases stamps with
  | nil => exact List.mem_cons_self
  | cons s stamps => exact List.mem_cons_of_mem _ List.mem_cons_self

theorem length_le (h : Spaced d stamps) {t k : ℕ} (hlow : ∀ s ∈ stamps, t ≤ s)
    (hhigh : ∀ s ∈ stamps, s < t + k * d) : stamps.length ≤ k := by
  induction stamps generalizing k with
  | nil => exact Nat.zero_le k
  | cons s stamps ih =>
    obtain ⟨hspaced, h⟩ := List.pairwise_cons.1 h
    have hs := hhigh s List.mem_cons_self
    have hts := hlow s List.mem_cons_self
    cases k with
    | zero => omega
    | succ k =>
      rw [Nat.succ_mul] at hs
      have hlen := ih h (fun s hs => hlow s (List.mem_cons_of_mem _ hs)) (k := k) fun r hr => by
        have := hspaced r hr
        omega
      rw [List.length_cons]
      omega

/-- In a window of `k` distances there are at most `k` stamps. -/
theorem window (h : Spaced d stamps) (t k : ℕ) :
    (stamps.filter fun s => t ≤ s ∧ s < t + k * d).length ≤ k := by
  refine length_le (h.sublist List.filter_sublist) (t := t) (d := d) ?_ ?_
  · intro s hs
    have := (List.mem_filter.1 hs).2
    simp only [decide_eq_true_eq] at this
    exact this.1
  · intro s hs
    have := (List.mem_filter.1 hs).2
    simp only [decide_eq_true_eq] at this
    exact this.2

end Spaced
