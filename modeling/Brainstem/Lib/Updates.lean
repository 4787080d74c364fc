import Mathlib.Data.List.Dedup
import Mathlib.Data.List.Induction
import Mathlib.Logic.Relation

/-!
# Maps written by a list of updates

An update puts a value at its key, or removes what is there.  After a list of updates every
key holds what the last update of it left:

    (applyAll key value m ws)[k]? = match last key ws k with
      | some w => value w
      | none => m[k]?                                                 (getElem?_applyAll)

so only the order among the updates of one key matters (`applyAll_equiv`).
-/

namespace Updates

variable {α β ω : Type}

/-! ## The last update of a key -/

section Last

variable [BEq α] (key : ω → α)

def last (ws : List ω) (k : α) : Option ω := ws.findRev? fun w => key w == k

/-- Two neighbours with different keys change places. -/
inductive Swap : List ω → List ω → Prop
  | swap (front : List ω) (a b : ω) (back : List ω) (h : key a ≠ key b) :
      Swap (front ++ a :: b :: back) (front ++ b :: a :: back)

variable {key}

theorem last_eq_find? (ws : List ω) (k : α) :
    last key ws k = ws.reverse.find? fun w => key w == k := by
  unfold last
  rw [List.findRev?_eq_findRev?TR, List.findRev?TR]

theorem last_concat (ws : List ω) (w : ω) (k : α) :
    last key (ws ++ [w]) k = if key w == k then some w else last key ws k := by
  rw [last_eq_find?, last_eq_find?, List.reverse_append, List.reverse_singleton,
    List.singleton_append, List.find?_cons]
  split
  · next h => rw [if_pos h]
  · next h => rw [if_neg (by rw [h]; decide)]

theorem mem_of_last [LawfulBEq α] {ws : List ω} {k : α} {w : ω} (h : last key ws k = some w) :
    w ∈ ws ∧ key w = k := by
  rw [last_eq_find?] at h
  have hkey := List.find?_some h
  exact ⟨List.mem_reverse.1 (List.mem_of_find?_eq_some h), eq_of_beq hkey⟩

theorem last_swap [LawfulBEq α] {ws ws' : List ω} (h : Swap key ws ws') (k : α) :
    last key ws k = last key ws' k := by
  obtain ⟨front, a, b, back, hne⟩ := h
  have hreverse : ∀ c d : ω,
      (front ++ c :: d :: back).reverse = back.reverse ++ d :: c :: front.reverse := by
    intro c d
    simp
  rw [last_eq_find?, last_eq_find?, hreverse, hreverse, List.find?_append, List.find?_append]
  congr 1
  simp only [List.find?_cons]
  by_cases ha : (key a == k) = true
  · have hb : (key b == k) = false :=
      beq_eq_false_iff_ne.2 fun hb => hne ((eq_of_beq ha).trans hb.symm)
    rw [ha, hb]
  · rw [Bool.eq_false_iff.2 ha]

end Last

/-! ## The map -/

variable [BEq α] [Hashable α] (key : ω → α) (value : ω → Option β)

def apply (m : Std.HashMap α β) (w : ω) : Std.HashMap α β :=
  match value w with
  | some v => m.insert (key w) v
  | none => m.erase (key w)

def applyAll (m : Std.HashMap α β) (ws : List ω) : Std.HashMap α β := ws.foldl (apply key value) m

variable {key} {value} [LawfulBEq α] [LawfulHashable α]

theorem getElem?_apply (m : Std.HashMap α β) (w : ω) (k : α) :
    (apply key value m w)[k]? = if key w == k then value w else m[k]? := by
  unfold apply
  split
  · next v hv => rw [Std.HashMap.getElem?_insert, hv]
  · next hv => rw [Std.HashMap.getElem?_erase, hv]

theorem getElem?_applyAll (m : Std.HashMap α β) (ws : List ω) (k : α) :
    (applyAll key value m ws)[k]? = match last key ws k with
      | some w => value w
      | none => m[k]? := by
  induction ws using List.reverseRecOn with
  | nil => rfl
  | append_singleton ws w ih =>
    unfold applyAll at ih ⊢
    rw [List.foldl_append, List.foldl_cons, List.foldl_nil, getElem?_apply, last_concat, ih]
    by_cases h : (key w == k) = true
    · rw [if_pos h, if_pos h]
    · rw [if_neg h, if_neg h]

/-- From an empty map, the keys present are those whose last update put a value. -/
theorem mem_applyAll {m : Std.HashMap α β} (hm : m.isEmpty) (ws : List ω) (k : α) :
    k ∈ applyAll key value m ws ↔ ∃ w, last key ws k = some w ∧ (value w).isSome = true := by
  rw [Std.HashMap.mem_iff_isSome_getElem?, getElem?_applyAll]
  cases last key ws k with
  | none => simp [Std.HashMap.getElem?_of_isEmpty hm]
  | some w => simp

/-- They are counted among the keys that occur. -/
theorem size_applyAll [DecidableEq α] {m : Std.HashMap α β} (hm : m.isEmpty) (ws : List ω) :
    (applyAll key value m ws).size =
      ((ws.map key).dedup.filter fun k =>
        (last key ws k).any fun w => (value w).isSome).length := by
  rw [← Std.HashMap.length_keys]
  apply List.Perm.length_eq
  rw [List.perm_ext_iff_of_nodup Std.HashMap.nodup_keys ((List.nodup_dedup _).filter _)]
  intro k
  rw [Std.HashMap.mem_keys, mem_applyAll hm, List.mem_filter, List.mem_dedup, List.mem_map]
  constructor
  · rintro ⟨w, hlast, hvalue⟩
    refine ⟨⟨w, mem_of_last hlast⟩, ?_⟩
    rw [hlast]
    exact hvalue
  · rintro ⟨-, hany⟩
    exact (Option.any_eq_true _ _).1 hany

/-- Moving updates of different keys past each other leaves the map as it was. -/
theorem applyAll_equiv {m m' : Std.HashMap α β} {ws ws' : List ω} (hm : m.Equiv m')
    (h : Relation.ReflTransGen (Swap key) ws ws') :
    (applyAll key value m ws).Equiv (applyAll key value m' ws') := by
  have hlast : ∀ k, last key ws k = last key ws' k := by
    intro k
    induction h with
    | refl => rfl
    | tail _ hswap ih => exact ih.trans (last_swap hswap k)
  apply Std.HashMap.Equiv.of_forall_getElem?_eq
  intro k
  rw [getElem?_applyAll, getElem?_applyAll, hlast, hm.getElem?_eq]

end Updates
