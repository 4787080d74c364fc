import Brainstem.Lib.Run

/-!
# Separation by unwinding

A system answers each call with messages, and each message is for one user.  `share c a` is
what is left of the call `a` when everything that does not concern the user `c` is deleted.
If single calls are separated, from states that look alike to `c`, then whole runs are:

    said trace' = heard c (said trace)                                   (Separates.run)

so the user `c` hears in a run what it would hear if nobody else had called.
-/

namespace Unwinding

variable {σ α κ β γ : Type}

/-- All messages of a run. -/
def said (trace : List (List (κ × β) × σ)) : List (κ × β) := trace.flatMap Prod.fst

@[simp] theorem said_nil : said ([] : List (List (κ × β) × σ)) = [] := rfl

@[simp] theorem said_cons (e : List (κ × β) × σ) (trace : List (List (κ × β) × σ)) :
    said (e :: trace) = e.1 ++ said trace := rfl

@[simp] theorem said_append (l m : List (List (κ × β) × σ)) : said (l ++ m) = said l ++ said m :=
  List.flatMap_append

/-- The messages for one user. -/
def heard [DecidableEq κ] (c : κ) (messages : List (κ × β)) : List (κ × β) :=
  messages.filter fun m => m.1 = c

variable [DecidableEq κ]

@[simp] theorem heard_nil (c : κ) : heard c ([] : List (κ × β)) = [] := rfl

@[simp] theorem heard_append (c : κ) (l m : List (κ × β)) : heard c (l ++ m) = heard c l ++ heard c m :=
  List.filter_append l m

theorem heard_self (c : κ) (b : β) : heard c [(c, b)] = [(c, b)] := by
  simp [heard]

theorem heard_ne {c d : κ} (h : d ≠ c) (b : β) : heard c [(d, b)] = [] := by
  simp [heard, h]

/-- One call, in states that look alike to `c`: its share can be made, with the same messages
for `c` and no others, and the states look alike afterwards. -/
def Separates (step : σ → α → Option (List (κ × β) × σ)) (c : κ) (share : α → List α)
    (R : σ → σ → Prop) : Prop :=
  ∀ s t a e, R s t → step s a = some e →
    ∃ r, Run.exec step (share a) ([], t) = some r ∧ said r.1 = heard c e.1 ∧ R e.2 r.2

/-- **Separation of runs.** -/
theorem Separates.run {step : σ → α → Option (List (κ × β) × σ)} {c : κ} {share : α → List α}
    {R : σ → σ → Prop} (hsep : Separates step c share R) {s t : σ} (hR : R s t) {calls : List α}
    {r : List (List (κ × β) × σ) × σ} (h : Run.exec step calls ([], s) = some r) :
    ∃ r', Run.exec step (calls.flatMap share) ([], t) = some r' ∧
      said r'.1 = heard c (said r.1) ∧ R r.2 r'.2 := by
  induction calls generalizing s t r with
  | nil =>
    cases h
    exact ⟨([], t), rfl, rfl, hR⟩
  | cons a calls ih =>
    obtain ⟨e, rest, he, hrest, rfl⟩ := Run.exec_cons_eq_some.1 h
    obtain ⟨r₁, h₁, hsaid₁, hR₁⟩ := hsep s t a e hR he
    obtain ⟨r₂, h₂, hsaid₂, hR₂⟩ := ih hR₁ hrest
    refine ⟨(r₁.1 ++ r₂.1, r₂.2), ?_, ?_, hR₂⟩
    · rw [List.flatMap_cons]
      exact Run.exec_append_eq_some.2 ⟨r₁, r₂, h₁, h₂, rfl⟩
    · rw [said_append, hsaid₁, hsaid₂, said_cons, heard_append]

omit [DecidableEq κ] in
/-- **What a call leaves open does not matter.**  Two runs of calls that are the same up to
`erase` say the same, if any two such calls do in states that look alike. -/
theorem said_eq_of_erase {step : σ → α → Option (List (κ × β) × σ)} {erase : α → γ}
    {R : σ → σ → Prop}
    (hstep : ∀ s t a b e f, R s t → erase a = erase b → step s a = some e → step t b = some f →
      e.1 = f.1 ∧ R e.2 f.2)
    {s t : σ} (hR : R s t) {as bs : List α} (herase : as.map erase = bs.map erase)
    {r r' : List (List (κ × β) × σ) × σ} (h : Run.exec step as ([], s) = some r)
    (h' : Run.exec step bs ([], t) = some r') : said r.1 = said r'.1 ∧ R r.2 r'.2 := by
  induction as generalizing bs s t r r' with
  | nil =>
    rw [List.map_nil, eq_comm, List.map_eq_nil_iff] at herase
    subst herase
    cases h
    cases h'
    exact ⟨rfl, hR⟩
  | cons a as ih =>
    rw [List.map_cons, eq_comm, List.map_eq_cons_iff] at herase
    obtain ⟨b, bs, rfl, hab, hrest⟩ := herase
    obtain ⟨e, r₁, he, h₁, rfl⟩ := Run.exec_cons_eq_some.1 h
    obtain ⟨f, r₂, hf, h₂, rfl⟩ := Run.exec_cons_eq_some.1 h'
    obtain ⟨hsay, hR'⟩ := hstep s t a b e f hR hab.symm he hf
    obtain ⟨hsaid, hend⟩ := ih hR' hrest.symm h₁ h₂
    rw [said_cons, said_cons, hsay, hsaid]
    exact ⟨rfl, hend⟩

end Unwinding
