import Mathlib.Data.List.Basic

/-!
# Taking text apart

`rsplitOnce` cuts a list at the last separator.  Where the part after a separator has none,
that is where the cut is:

    rsplitOnce c (front ++ c :: back) = some (front, back)               (rsplitOnce_append)
-/

namespace Split

theorem isPrefixOf?_append {α : Type} [BEq α] [LawfulBEq α] (p l : List α) :
    p.isPrefixOf? (p ++ l) = some l := List.isPrefixOf?_eq_some_iff_append_eq.2 rfl

variable {α : Type} [DecidableEq α]

/-- `rsplit_once`. -/
def rsplitOnce (c : α) (s : List α) : Option (List α × List α) :=
  match s.reverse.dropWhile (· ≠ c) with
  | [] => none
  | _ :: front => some (front.reverse, (s.reverse.takeWhile (· ≠ c)).reverse)

theorem rsplitOnce_append {c : α} {front back : List α} (h : c ∉ back) :
    rsplitOnce c (front ++ c :: back) = some (front, back) := by
  have hreverse : (front ++ c :: back).reverse = back.reverse ++ c :: front.reverse := by simp
  have hback : ∀ d ∈ back.reverse, decide (d ≠ c) = true := by
    intro d hd
    rw [decide_eq_true_eq]
    rintro rfl
    exact h (List.mem_reverse.1 hd)
  unfold rsplitOnce
  rw [hreverse, List.dropWhile_append_of_pos hback, List.takeWhile_append_of_pos hback,
    List.dropWhile_cons_of_neg (by simp), List.takeWhile_cons_of_neg (by simp)]
  simp

/-- What is in a list is a separator, or in one of the pieces. -/
theorem mem_splitOn {a sep : α} {s : List α} (h : a ∈ s) :
    a = sep ∨ ∃ piece ∈ s.splitOn sep, a ∈ piece := by
  induction s with
  | nil => cases h
  | cons x s ih =>
    rw [List.splitOn_cons_eq_if_modifyHead]
    obtain ⟨first, rest, hsplit⟩ := List.exists_cons_of_ne_nil (List.splitOn_ne_nil sep s)
    rw [hsplit] at ih ⊢
    by_cases hx : x = sep
    · rw [if_pos (beq_iff_eq.2 hx)]
      rcases List.mem_cons.1 h with rfl | hs
      · exact .inl hx
      · rcases ih hs with hsep | ⟨piece, hpiece, ha⟩
        · exact .inl hsep
        · exact .inr ⟨piece, List.mem_cons_of_mem _ hpiece, ha⟩
    · rw [if_neg (by rwa [beq_iff_eq]), List.modifyHead_cons]
      rcases List.mem_cons.1 h with rfl | hs
      · exact .inr ⟨_, List.mem_cons_self, List.mem_cons_self⟩
      · rcases ih hs with hsep | ⟨piece, hpiece, ha⟩
        · exact .inl hsep
        · rcases List.mem_cons.1 hpiece with rfl | hrest
          · exact .inr ⟨_, List.mem_cons_self, List.mem_cons_of_mem _ ha⟩
          · exact .inr ⟨piece, List.mem_cons_of_mem _ hrest, ha⟩

end Split
