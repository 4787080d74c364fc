import Mathlib.Tactic.Common

/-!
# Procedures that update a state and may fail

A `Proc σ α` reads and writes a state `σ` and ends in a value or in an error
text.  What it wrote before failing stays: this is a method `&mut self` that
returns a `Result`.  `wp x ok err s` says that `x`, started in `s`, ends in `ok`
when it returns and in `err` when it fails; the rules below are an
equivalence for each way of building a procedure, so a proof walks through the
code from top to bottom and weakens (`wp_mono`) what is known of each procedure called.
-/

abbrev Proc (σ α : Type) := ExceptT String (StateM σ) α

namespace Proc

variable {σ α β : Type}

/-- Result and final state. -/
def exec (x : Proc σ α) (s : σ) : Except String α × σ := x.run.run s

def wp (x : Proc σ α) (ok : α → σ → Prop) (err : String → σ → Prop) (s : σ) : Prop :=
  match x.exec s with
  | (.ok a, t) => ok a t
  | (.error e, t) => err e t

/-! ## One rule for each construct -/

@[simp] theorem wp_pure (a : α) (ok : α → σ → Prop) (err : String → σ → Prop) (s : σ) :
    wp (pure a : Proc σ α) ok err s ↔ ok a s := Iff.rfl

@[simp] theorem wp_throw (e : String) (ok : α → σ → Prop) (err : String → σ → Prop) (s : σ) :
    wp (throw e : Proc σ α) ok err s ↔ err e s := Iff.rfl

@[simp] theorem wp_get (ok : σ → σ → Prop) (err : String → σ → Prop) (s : σ) :
    wp (get : Proc σ σ) ok err s ↔ ok s s := Iff.rfl

@[simp] theorem wp_set (t : σ) (ok : PUnit → σ → Prop) (err : String → σ → Prop) (s : σ) :
    wp (set t : Proc σ PUnit) ok err s ↔ ok ⟨⟩ t := Iff.rfl

@[simp] theorem wp_modify (f : σ → σ) (ok : PUnit → σ → Prop) (err : String → σ → Prop) (s : σ) :
    wp (modify f : Proc σ PUnit) ok err s ↔ ok ⟨⟩ (f s) := Iff.rfl

/-- `x?` for a result that was computed without the state. -/
theorem exec_ofExcept (x : Except String α) (s : σ) : (ofExcept x : Proc σ α).exec s = (x, s) := by
  cases x <;> rfl

theorem exec_bind (x : Proc σ α) (f : α → Proc σ β) (s : σ) :
    (x >>= f).exec s = match x.exec s with
      | (.ok a, t) => (f a).exec t
      | (.error e, t) => (.error e, t) := by
  show (ExceptT.bindCont f _) _ = _
  simp only [exec, ExceptT.run, StateT.run]
  rcases h : x s with ⟨_ | _, t⟩ <;> rfl

@[simp] theorem wp_bind (x : Proc σ α) (f : α → Proc σ β) (ok : β → σ → Prop)
    (err : String → σ → Prop) (s : σ) :
    wp (x >>= f) ok err s ↔ wp x (fun a t => wp (f a) ok err t) err s := by
  unfold wp
  rw [exec_bind]
  rcases x.exec s with ⟨_ | _, t⟩ <;> rfl

@[simp] theorem wp_ite (c : Prop) [Decidable c] (x y : Proc σ α) (ok : α → σ → Prop)
    (err : String → σ → Prop) (s : σ) :
    wp (if c then x else y) ok err s ↔ (c → wp x ok err s) ∧ (¬c → wp y ok err s) := by
  by_cases h : c <;> simp [h]

/-! ## Weakening -/

theorem wp_mono {x : Proc σ α} {ok ok' : α → σ → Prop} {err err' : String → σ → Prop} {s : σ}
    (h : wp x ok err s) (hok : ∀ a t, ok a t → ok' a t) (herr : ∀ e t, err e t → err' e t) :
    wp x ok' err' s := by
  unfold wp at h ⊢
  rcases hx : x.exec s with ⟨e | a, t⟩ <;> rw [hx] at h
  · exact herr e t h
  · exact hok a t h

/-! ## Reading a result back -/

theorem wp_of_exec_ok {x : Proc σ α} {ok : α → σ → Prop} {err : String → σ → Prop} {s t : σ} {a : α}
    (h : wp x ok err s) (hx : x.exec s = (.ok a, t)) : ok a t := by
  unfold wp at h; rwa [hx] at h

theorem wp_of_exec_error {x : Proc σ α} {ok : α → σ → Prop} {err : String → σ → Prop} {s t : σ}
    {e : String} (h : wp x ok err s) (hx : x.exec s = (.error e, t)) : err e t := by
  unfold wp at h; rwa [hx] at h

/-- What holds on both exits holds of the final state. -/
theorem wp_final {x : Proc σ α} {q : σ → Prop} {s : σ}
    (h : wp x (fun _ t => q t) (fun _ t => q t) s) : q (x.exec s).2 := by
  unfold wp at h
  rcases hx : x.exec s with ⟨_ | _, t⟩ <;> rw [hx] at h <;> exact h

end Proc

/-- Checks in a row pass when each of them does. -/
theorem Except.seq_eq_ok {ε β : Type} {x : Except ε Unit} {y : Except ε β} {b : β} :
    (x >>= fun _ => y) = .ok b ↔ x = .ok () ∧ y = .ok b := by
  cases x <;> simp [bind, Except.bind]

theorem Except.bind_eq_ok {ε α β : Type} {x : Except ε α} {f : α → Except ε β} {b : β} :
    (x >>= f) = .ok b ↔ ∃ a, x = .ok a ∧ f a = .ok b := by
  cases x <;> simp [bind, Except.bind]

/-- `for (index, item) in items.iter().enumerate()`, up to the first error. -/
def Except.forEnumerate {ε α : Type} (items : List α) (body : ℕ → α → Except ε Unit) :
    Except ε Unit :=
  items.zipIdx.forM fun e => body e.2 e.1

/-- The loop ends well when each item passes; at which index it stands plays no part. -/
theorem Except.forEnumerate_eq_ok {ε α : Type} {items : List α} {body : ℕ → α → Except ε Unit}
    {P : α → Prop} (hbody : ∀ index item, body index item = .ok () ↔ P item) :
    Except.forEnumerate items body = .ok () ↔ ∀ item ∈ items, P item := by
  have hfrom : ∀ start, (items.zipIdx start).forM (fun e => body e.2 e.1) = .ok () ↔
      ∀ item ∈ items, P item := by
    induction items with
    | nil => exact fun _ => ⟨fun _ => by simp, fun _ => rfl⟩
    | cons item items ih =>
      intro start
      show (body start item >>= fun _ => (items.zipIdx (start + 1)).forM _) = _ ↔ _
      rw [Except.seq_eq_ok, hbody, ih, List.forall_mem_cons]
  exact hfrom 0
