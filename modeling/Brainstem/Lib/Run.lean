import Mathlib.Tactic.Common

/-!
# Runs of a labelled system

A system takes an action in a state, when the action is possible there, to a label and a
next state.  `Run step s₀ trace s` is a run from `s₀` to `s`; the trace keeps the label and
the state after each step, so that a property can speak of everything that was visited.
-/

inductive Run {σ α β : Type} (step : σ → α → Option (β × σ)) (s₀ : σ) : List (β × σ) → σ → Prop where
  | refl : Run step s₀ [] s₀
  | snoc {trace : List (β × σ)} {s s' : σ} {b : β} (a : α) (hr : Run step s₀ trace s)
      (hs : step s a = some (b, s')) : Run step s₀ (trace ++ [(b, s')]) s'

namespace Run

variable {σ α β : Type} {step : σ → α → Option (β × σ)} {s₀ s : σ} {trace : List (β × σ)}

/-- What holds at the start and is kept by every step holds at the end of every run. -/
theorem invariant {I : List (β × σ) → σ → Prop} (h0 : I [] s₀)
    (hstep : ∀ trace s a b s', I trace s → step s a = some (b, s') → I (trace ++ [(b, s')]) s')
    (hr : Run step s₀ trace s) : I trace s := by
  induction hr with
  | refl => exact h0
  | snoc a _ hs ih => exact hstep _ _ a _ _ ih hs

theorem trans {trace' : List (β × σ)} {s' : σ} (hr : Run step s₀ trace s)
    (hr' : Run step s trace' s') : Run step s₀ (trace ++ trace') s' := by
  induction hr' with
  | refl =>
    rw [List.append_nil]
    exact hr
  | snoc a _ hs ih =>
    rw [← List.append_assoc]
    exact ih.snoc a hs

/-- The states a run has been in, the first included. -/
def visited (s₀ : σ) (trace : List (β × σ)) : List σ := s₀ :: trace.map Prod.snd

@[simp] theorem visited_nil (s₀ : σ) : visited s₀ ([] : List (β × σ)) = [s₀] := rfl

@[simp] theorem visited_concat (s₀ : σ) (trace : List (β × σ)) (e : β × σ) :
    visited s₀ (trace ++ [e]) = visited s₀ trace ++ [e.2] := by
  simp [visited]

/-! ## Keeping the actions -/

/-- The same system, with each action in the label of its step. -/
def logged (step : σ → α → Option (β × σ)) (s : σ) (a : α) : Option ((α × β) × σ) :=
  (step s a).map fun e => ((a, e.1), e.2)

theorem logged_eq_some {a b : α} {l : β} {s' : σ} :
    logged step s a = some ((b, l), s') ↔ b = a ∧ step s a = some (l, s') := by
  unfold logged
  rw [Option.map_eq_some_iff]
  constructor
  · rintro ⟨e, he, heq⟩
    cases heq
    exact ⟨rfl, he⟩
  · rintro ⟨rfl, h⟩
    exact ⟨(l, s'), h, rfl⟩

/-! ## Executing a list of actions -/

/-- The run that takes the given actions, if each is possible when its turn comes. -/
def exec (step : σ → α → Option (β × σ)) : List α → List (β × σ) × σ → Option (List (β × σ) × σ)
  | [], r => some r
  | a :: actions, r =>
    match step r.2 a with
    | none => none
    | some e => exec step actions (r.1 ++ [e], e.2)

theorem of_exec {r : List (β × σ) × σ} {actions : List α} (hr : Run step s₀ trace s)
    (h : exec step actions (trace, s) = some r) : Run step s₀ r.1 r.2 := by
  induction actions generalizing trace s with
  | nil =>
    cases h
    exact hr
  | cons a actions ih =>
    unfold exec at h
    split at h
    · cases h
    · next e he => exact ih (hr.snoc a he) h

/-- The trace that was there before stays in front. -/
theorem exec_trace (actions : List α) (trace : List (β × σ)) (s : σ) :
    exec step actions (trace, s) = (exec step actions ([], s)).map fun r => (trace ++ r.1, r.2) := by
  induction actions generalizing trace s with
  | nil => simp [exec]
  | cons a actions ih =>
    unfold exec
    cases step s a with
    | none => rfl
    | some e =>
      simp only [List.nil_append]
      rw [ih (trace ++ [e]) e.2, ih [e] e.2, Option.map_map]
      simp [Function.comp_def]

theorem exec_cons_eq_some {a : α} {actions : List α} {r : List (β × σ) × σ} :
    exec step (a :: actions) ([], s) = some r ↔
      ∃ e r', step s a = some e ∧ exec step actions ([], e.2) = some r' ∧ r = (e :: r'.1, r'.2) := by
  constructor
  · intro h
    unfold exec at h
    split at h
    · cases h
    · next e he =>
      rw [exec_trace, Option.map_eq_some_iff] at h
      obtain ⟨r', hr', rfl⟩ := h
      exact ⟨e, r', he, hr', rfl⟩
  · rintro ⟨e, r', he, hr', rfl⟩
    unfold exec
    simp only [he]
    rw [exec_trace, hr']
    rfl

theorem exec_append_eq_some {l m : List α} {r : List (β × σ) × σ} :
    exec step (l ++ m) ([], s) = some r ↔
      ∃ r₁ r₂, exec step l ([], s) = some r₁ ∧ exec step m ([], r₁.2) = some r₂ ∧
        r = (r₁.1 ++ r₂.1, r₂.2) := by
  induction l generalizing s r with
  | nil =>
    constructor
    · intro h
      exact ⟨([], s), r, rfl, h, rfl⟩
    · rintro ⟨r₁, r₂, h₁, h₂, rfl⟩
      cases h₁
      exact h₂
  | cons a l ih =>
    rw [List.cons_append, exec_cons_eq_some]
    constructor
    · rintro ⟨e, r', he, hr', rfl⟩
      obtain ⟨r₁, r₂, h₁, h₂, rfl⟩ := ih.1 hr'
      exact ⟨(e :: r₁.1, r₁.2), r₂, exec_cons_eq_some.2 ⟨e, r₁, he, h₁, rfl⟩, h₂, rfl⟩
    · rintro ⟨r₁, r₂, h₁, h₂, rfl⟩
      obtain ⟨e, r', he, hr', rfl⟩ := exec_cons_eq_some.1 h₁
      exact ⟨e, (r'.1 ++ r₂.1, r₂.2), he, ih.2 ⟨r', r₂, hr', h₂, rfl⟩, rfl⟩

/-- Naming the actions otherwise. -/
theorem exec_map {γ : Type} (f : γ → α) (actions : List γ) (r : List (β × σ) × σ) :
    exec step (actions.map f) r = exec (fun s a => step s (f a)) actions r := by
  induction actions generalizing r with
  | nil => rfl
  | cons a actions ih =>
    simp only [List.map_cons, exec, ih]

/-! ## What the steps yield -/

/-- What the steps of a trace that starts in `s` yield, one after the other. -/
def collect {γ : Type} (f : σ → β → List γ) : σ → List (β × σ) → List γ
  | _, [] => []
  | s, (b, s') :: rest => f s b ++ collect f s' rest

/-! ## Sums over the steps -/

/-- The sum of `f` over the labels of a trace. -/
def total (f : β → ℕ) : List (β × σ) → ℕ
  | [] => 0
  | e :: trace => f e.1 + total f trace

theorem total_concat (f : β → ℕ) (trace : List (β × σ)) (e : β × σ) :
    total f (trace ++ [e]) = total f trace + f e.1 := by
  induction trace with
  | nil => exact Nat.add_comm _ _
  | cons g trace ih =>
    simp only [List.cons_append, total, ih]
    omega

theorem total_mono {f g : β → ℕ} (h : ∀ b, f b ≤ g b) (trace : List (β × σ)) :
    total f trace ≤ total g trace := by
  induction trace with
  | nil => exact Nat.le_refl _
  | cons e trace ih =>
    have := h e.1
    simp only [total]
    omega

/-! ## Observing the steps -/

/-- What the labels of a trace show, in order. -/
def observe {γ : Type} (f : β → Option γ) (trace : List (β × σ)) : List γ :=
  trace.filterMap fun e => f e.1

theorem observe_concat {γ : Type} (f : β → Option γ) (trace : List (β × σ)) (e : β × σ) :
    observe f (trace ++ [e]) = observe f trace ++ (f e.1).toList := by
  unfold observe
  cases h : f e.1 <;> simp [List.filterMap_append, h]

theorem length_observe {γ : Type} (f : β → Option γ) (trace : List (β × σ)) :
    (observe f trace).length = total (fun b => (f b).isSome.toNat) trace := by
  induction trace with
  | nil => rfl
  | cons e trace ih =>
    unfold observe at ih ⊢
    rw [List.filterMap_cons, total, ← ih]
    cases h : f e.1 <;> simp [Nat.add_comm]

/-! ## Properties of every step -/

/-- `P` holds of every step of a trace that starts in `s`. -/
def Each (P : σ → β → σ → Prop) : σ → List (β × σ) → Prop
  | _, [] => True
  | s, (b, s') :: rest => P s b s' ∧ Each P s' rest

/-- The state at the end of a trace that starts in `s`. -/
def last : σ → List (β × σ) → σ
  | s, [] => s
  | _, (_, s') :: rest => last s' rest

theorem last_concat (s : σ) (trace : List (β × σ)) (e : β × σ) : last s (trace ++ [e]) = e.2 := by
  induction trace generalizing s with
  | nil => rfl
  | cons f trace ih => exact ih f.2

theorem last_eq (hr : Run step s₀ trace s) : last s₀ trace = s := by
  cases hr with
  | refl => rfl
  | snoc a hr hs => rw [last_concat]

theorem collect_concat {γ : Type} (f : σ → β → List γ) (s : σ) (e : β × σ) :
    collect f s (trace ++ [e]) = collect f s trace ++ f (last s trace) e.1 := by
  induction trace generalizing s with
  | nil => simp [collect, last]
  | cons g trace ih => simp only [List.cons_append, collect, last, ih, List.append_assoc]

theorem each_concat {P : σ → β → σ → Prop} (s : σ) (e : β × σ) :
    Each P s (trace ++ [e]) ↔ Each P s trace ∧ P (last s trace) e.1 e.2 := by
  induction trace generalizing s with
  | nil => simp [Each, last]
  | cons f trace ih => simp only [List.cons_append, Each, last, ih, and_assoc]

theorem each_of_labels {P : β → Prop} (s : σ) (h : ∀ e ∈ trace, P e.1) :
    Each (fun _ b _ => P b) s trace := by
  induction trace generalizing s with
  | nil => trivial
  | cons e trace ih =>
    exact ⟨h e List.mem_cons_self, ih _ fun f hf => h f (List.mem_cons_of_mem e hf)⟩

theorem Each.imp {P Q : σ → β → σ → Prop} (h : ∀ s b s', P s b s' → Q s b s') {s : σ}
    (hP : Each P s trace) : Each Q s trace := by
  induction trace generalizing s with
  | nil => trivial
  | cons e trace ih => exact ⟨h _ _ _ hP.1, ih hP.2⟩

theorem Each.congr {P Q : σ → β → σ → Prop} {s : σ}
    (h : Each (fun s b s' => P s b s' ↔ Q s b s') s trace) : Each P s trace ↔ Each Q s trace := by
  induction trace generalizing s with
  | nil => exact Iff.rfl
  | cons e trace ih => exact and_congr h.1 (ih h.2)

theorem Each.mp {P Q : σ → β → σ → Prop} {s : σ} (h : Each (fun s b s' => P s b s' → Q s b s') s trace)
    (hP : Each P s trace) : Each Q s trace := by
  induction trace generalizing s with
  | nil => trivial
  | cons e trace ih => exact ⟨h.1 hP.1, ih h.2 hP.2⟩

/-- A step property that an invariant of the states implies holds of every step of a run, where
the labels of the run are of one kind. -/
theorem each_of_forall {I : σ → Prop} {L : β → Prop} {P : σ → β → σ → Prop} (h0 : I s₀)
    (hI : ∀ s a b s', I s → L b → step s a = some (b, s') → I s')
    (hP : ∀ s a b s', I s → L b → step s a = some (b, s') → P s b s')
    (hlabels : ∀ e ∈ trace, L e.1) (hr : Run step s₀ trace s) : I s ∧ Each P s₀ trace := by
  induction hr with
  | refl => exact ⟨h0, trivial⟩
  | snoc a hr hs ih =>
    obtain ⟨hi, heach⟩ := ih fun e he => hlabels e (List.mem_append_left _ he)
    have hl : L _ := hlabels _ (List.mem_append_right _ (List.mem_singleton_self _))
    refine ⟨hI _ a _ _ hi hl hs, (each_concat _ _).2 ⟨heach, ?_⟩⟩
    rw [last_eq hr]
    exact hP _ a _ _ hi hl hs

theorem each {I : σ → Prop} {P : σ → β → σ → Prop} (h0 : I s₀)
    (hI : ∀ s a b s', I s → step s a = some (b, s') → I s')
    (hP : ∀ s a b s', I s → step s a = some (b, s') → P s b s') (hr : Run step s₀ trace s) :
    I s ∧ Each P s₀ trace :=
  each_of_forall (L := fun _ => True) h0 (fun s a b s' hi _ => hI s a b s' hi)
    (fun s a b s' hi _ => hP s a b s' hi) (fun _ _ => trivial) hr

end Run
