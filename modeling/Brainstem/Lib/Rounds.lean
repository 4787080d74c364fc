import Brainstem.Lib.Fifo

/-!
# A bounded queue that is served once a round

In each round elements enter and leave as they like; then the first in the queue, if there is
one, is served and leaves.  If the queue never holds more than `C` elements when it is served,
an element waits for `C` servings at most:

    entered before the serving of round i  <+:  left by that of round i + C - 1     (Rounds.gone)
-/

namespace Fifo

variable {α ρ : Type}

/-- The ledger up to the serving, and with it. -/
structure Round (α ρ : Type) where
  before : List (Event α ρ)
  through : List (Event α ρ)

/-- The first of at most `C` elements is served. -/
def Round.Serves (C : ℕ) (r : Round α ρ) : Prop :=
  ∃ xs reason, Runs [] r.before xs ∧ xs.length ≤ C ∧
    r.through = r.before ++ xs.head?.toList.map (.leave reason)

structure Rounds (C : ℕ) (rounds : List (Round α ρ)) : Prop where
  serves : ∀ r ∈ rounds, r.Serves C
  chain : ∀ i p q, rounds[i]? = some p → rounds[i + 1]? = some q → p.through <+: q.before

variable {C : ℕ} {p q r : Round α ρ} {rounds : List (Round α ρ)}

theorem entered_prefix {s t : List (Event α ρ)} (h : s <+: t) : entered s <+: entered t := by
  obtain ⟨u, rfl⟩ := h
  rw [entered_append]
  exact List.prefix_append _ _

theorem left_mono {s t : List (Event α ρ)} (h : s <+: t) : left s <+: left t := by
  obtain ⟨u, rfl⟩ := h
  rw [left_append]
  exact List.prefix_append _ _

/-- The first in the queue is the first that entered and has not left. -/
theorem Runs.head? {evs : List (Event α ρ)} {xs : List α} (h : Runs [] evs xs) :
    (entered evs)[(left evs).length]? = xs.head? := by
  have hledger := h.ledger
  have hlen : (left evs).length = ((left evs).map Prod.snd).length := by rw [List.length_map]
  rw [List.nil_append] at hledger
  rw [hledger, hlen, List.getElem?_append_right (Nat.le_refl _), Nat.sub_self,
    List.head?_eq_getElem?]

/-! ## One round -/

/-- The one that is served is the first that entered and has not left. -/
theorem Round.Serves.next (h : r.Serves C) : ∃ reason,
    left r.through = left r.before ++
      ((entered r.before)[(left r.before).length]?).toList.map fun a => (reason, a) := by
  obtain ⟨xs, reason, hruns, -, hthrough⟩ := h
  refine ⟨reason, ?_⟩
  rw [hthrough, hruns.head?, left_append]
  cases xs with
  | nil => rfl
  | cons a xs => rfl

theorem Round.Serves.entered_through (h : r.Serves C) : entered r.through = entered r.before := by
  obtain ⟨xs, reason, -, -, hthrough⟩ := h
  rw [hthrough, entered_append]
  cases xs with
  | nil => simp [entered]
  | cons a xs => simp [entered]

theorem Round.Serves.waiting (h : r.Serves C) :
    (entered r.before).length ≤ (left r.before).length + C := by
  obtain ⟨xs, reason, hruns, hlen, -⟩ := h
  have hlength := hruns.length
  rw [List.length_nil, Nat.zero_add] at hlength
  omega

/-- One more has left, or all have. -/
theorem Round.Serves.progress (h : r.Serves C) :
    min (entered r.before).length ((left r.before).length + 1) ≤ (left r.through).length := by
  obtain ⟨reason, hnext⟩ := h.next
  rw [hnext, List.length_append, List.length_map]
  by_cases hall : (left r.before).length < (entered r.before).length
  · rw [List.getElem?_eq_getElem hall, Option.toList_some, List.length_singleton]
    omega
  · omega

/-- What has left are the first ones that entered. -/
theorem Round.Serves.left_through (h : r.Serves C) :
    (left r.through).map Prod.snd <+: entered r.before := by
  obtain ⟨xs, reason, hruns, -, hthrough⟩ := h
  have hledger := hruns.ledger
  rw [List.nil_append] at hledger
  rw [hthrough, hledger, left_append, List.map_append]
  cases xs with
  | nil => exact List.prefix_refl _
  | cons a xs => exact ⟨xs, by simp [left]⟩

/-! ## Many rounds -/

/-- An entry of a list that grew by one is an old one or the last. -/
theorem getElem?_concat_cases {β : Type} {l : List β} {a b : β} {i : ℕ}
    (h : (l ++ [a])[i]? = some b) : l[i]? = some b ∨ i = l.length ∧ a = b := by
  by_cases hi : i < l.length
  · rw [List.getElem?_append_left hi] at h
    exact .inl h
  · have hbound := (List.getElem?_eq_some_iff.1 h).1
    rw [List.length_append, List.length_singleton] at hbound
    obtain rfl : i = l.length := by omega
    rw [List.getElem?_concat_length] at h
    exact .inr ⟨rfl, Option.some.inj h⟩

theorem Rounds.nil : Rounds C ([] : List (Round α ρ)) where
  serves := nofun
  chain := nofun

theorem Rounds.concat (h : Rounds C rounds) (hr : r.Serves C)
    (hlast : ∀ p ∈ rounds, p.through <+: r.before) : Rounds C (rounds ++ [r]) where
  serves := by
    intro p hp
    rcases List.mem_append.1 hp with hp | hp
    · exact h.serves p hp
    · rw [List.mem_singleton] at hp
      exact hp ▸ hr
  chain := by
    intro i p q hp hq
    rcases getElem?_concat_cases hp with hp | ⟨rfl, -⟩
    · rcases getElem?_concat_cases hq with hq | ⟨-, rfl⟩
      · exact h.chain i p q hp hq
      · exact hlast p (List.mem_of_getElem? hp)
    · -- nothing comes after the last round
      have hbound := (List.getElem?_eq_some_iff.1 hq).1
      rw [List.length_append, List.length_singleton] at hbound
      omega

/-- `j` rounds later `j` more have been served, or all that had entered have left. -/
theorem Rounds.progress (h : Rounds C rounds) {i j : ℕ} (hp : rounds[i]? = some p)
    (hq : rounds[i + j]? = some q) :
    min (entered p.before).length ((left p.before).length + 1 + j) ≤ (left q.through).length ∧
      entered p.before <+: entered q.before := by
  induction j generalizing q with
  | zero =>
    obtain rfl : p = q := Option.some.inj (hp.symm.trans hq)
    exact ⟨(h.serves p (List.mem_of_getElem? hp)).progress, List.prefix_refl _⟩
  | succ j ih =>
    have hbound := (List.getElem?_eq_some_iff.1 hq).1
    obtain ⟨r, hr⟩ : ∃ r, rounds[i + j]? = some r :=
      ⟨_, List.getElem?_eq_getElem (show i + j < rounds.length by omega)⟩
    obtain ⟨hleft, hentered⟩ := ih hr
    have hchain := h.chain (i + j) r q hr hq
    have hsame := (h.serves r (List.mem_of_getElem? hr)).entered_through
    have hmore : entered p.before <+: entered q.before :=
      hentered.trans (hsame ▸ entered_prefix hchain)
    refine ⟨?_, hmore⟩
    have hstep := (h.serves q (List.mem_of_getElem? hq)).progress
    have hkept := (left_mono hchain).length_le
    have hlen := hmore.length_le
    omega

/-- **After `C` servings all that was there has left.** -/
theorem Rounds.gone (h : Rounds C rounds) {i : ℕ} (hp : rounds[i]? = some p)
    (hq : rounds[i + (C - 1)]? = some q) : entered p.before <+: (left q.through).map Prod.snd := by
  obtain ⟨hleft, hentered⟩ := h.progress hp hq
  have hwaiting := (h.serves p (List.mem_of_getElem? hp)).waiting
  refine List.prefix_of_prefix_length_le hentered (h.serves q (List.mem_of_getElem? hq)).left_through ?_
  rw [List.length_map]
  omega

/-- So the next to be served has entered after that. -/
theorem Rounds.fresh (h : Rounds C rounds) (hC : 1 ≤ C) {i : ℕ} (hp : rounds[i]? = some p)
    (hq : rounds[i + C]? = some q) : (entered p.before).length ≤ (left q.before).length := by
  have hbound := (List.getElem?_eq_some_iff.1 hq).1
  obtain ⟨r, hr⟩ : ∃ r, rounds[i + (C - 1)]? = some r :=
    ⟨_, List.getElem?_eq_getElem (show i + (C - 1) < rounds.length by omega)⟩
  have hgone := (h.gone hp hr).length_le
  rw [List.length_map] at hgone
  have hchain := h.chain (i + (C - 1)) r q hr (by rwa [show i + (C - 1) + 1 = i + C by omega])
  exact Nat.le_trans hgone (left_mono hchain).length_le

end Fifo
