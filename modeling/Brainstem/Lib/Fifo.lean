import Mathlib.Tactic.Common

/-!
# The ledger of a first-in first-out queue

A queue changes by elements entering at the back and leaving at the front, each leaving
for a reason.  `Runs xs evs ys` says that the events `evs` take the contents from `xs` to
`ys`.  What follows holds of every such queue, whatever decides its events:

    xs ++ entered evs = left evs ++ ys                                   (Runs.ledger)

so elements leave in the order in which they entered, each at most once, and what has not
left is still there.
-/

namespace Fifo

inductive Event (α ρ : Type) where
  | enter (a : α)
  | leave (reason : ρ) (a : α)
  deriving DecidableEq, Repr

variable {α ρ : Type}

inductive Runs : List α → List (Event α ρ) → List α → Prop where
  | nil (xs : List α) : Runs xs [] xs
  | enter {xs ys : List α} {a : α} {evs : List (Event α ρ)} (h : Runs (xs ++ [a]) evs ys) :
      Runs xs (.enter a :: evs) ys
  | leave {xs ys : List α} {a : α} {r : ρ} {evs : List (Event α ρ)} (h : Runs xs evs ys) :
      Runs (a :: xs) (.leave r a :: evs) ys

/-- What came in, in order. -/
def entered : List (Event α ρ) → List α
  | [] => []
  | .enter a :: evs => a :: entered evs
  | .leave _ _ :: evs => entered evs

/-- What went out, in order, with the reason. -/
def left : List (Event α ρ) → List (ρ × α)
  | [] => []
  | .enter _ :: evs => left evs
  | .leave r a :: evs => (r, a) :: left evs

@[simp] theorem entered_append (s t : List (Event α ρ)) : entered (s ++ t) = entered s ++ entered t := by
  induction s with
  | nil => rfl
  | cons e s ih => cases e <;> simp [entered, ih]

@[simp] theorem left_append (s t : List (Event α ρ)) : left (s ++ t) = left s ++ left t := by
  induction s with
  | nil => rfl
  | cons e s ih => cases e <;> simp [left, ih]

theorem Runs.append {xs ys zs : List α} {s t : List (Event α ρ)} (hs : Runs xs s ys)
    (ht : Runs ys t zs) : Runs xs (s ++ t) zs := by
  induction hs with
  | nil => exact ht
  | enter _ ih => exact .enter (ih ht)
  | leave _ ih => exact .leave (ih ht)

/-- **The ledger.**  What was there and what entered is what left and what is there. -/
theorem Runs.ledger {xs ys : List α} {evs : List (Event α ρ)} (h : Runs xs evs ys) :
    xs ++ entered evs = (left evs).map Prod.snd ++ ys := by
  induction h with
  | nil => simp [entered, left]
  | enter _ ih => simpa [entered, left] using ih
  | leave _ ih => simp [entered, left, ih]

/-- How many left for a reason in `p`. -/
def leftCount (p : ρ → Bool) (evs : List (Event α ρ)) : ℕ := ((left evs).filter fun e => p e.1).length

@[simp] theorem leftCount_append (p : ρ → Bool) (s t : List (Event α ρ)) :
    leftCount p (s ++ t) = leftCount p s + leftCount p t := by
  simp [leftCount]

/-- The same as numbers. -/
theorem Runs.length {xs ys : List α} {evs : List (Event α ρ)} (h : Runs xs evs ys) :
    xs.length + (entered evs).length = (left evs).length + ys.length := by
  have hl := congrArg List.length h.ledger
  simpa using hl

/-! ## The ways in and out -/

theorem runs_push (xs : List α) (a : α) : Runs (ρ := ρ) xs [.enter a] (xs ++ [a]) := .enter (.nil _)

theorem runs_pop (r : ρ) (a : α) (xs : List α) : Runs (a :: xs) [.leave r a] xs := .leave (.nil _)

theorem runs_clear (r : ρ) (xs : List α) : Runs xs (xs.map (.leave r)) [] := by
  induction xs with
  | nil => exact .nil []
  | cons a xs ih => exact .leave ih

@[simp] theorem entered_clear (r : ρ) (xs : List α) : entered (xs.map (Event.leave r)) = [] := by
  induction xs with
  | nil => rfl
  | cons a xs ih => simp [entered, ih]

@[simp] theorem left_clear (r : ρ) (xs : List α) :
    left (xs.map (Event.leave r)) = xs.map fun a => (r, a) := by
  induction xs with
  | nil => rfl
  | cons a xs ih => simp [left, ih]

end Fifo
