import Brainstem.Ingress.Config
import Brainstem.Lib.Run
import Brainstem.Lib.Spaced

/-!
# Logging overflow

Every overflow calls `log_overflow`, from any thread and for any ingress: it reads the clock,
loads when the class was last logged, and logs if that is a second ago and nobody has logged in
between.  The cells are relaxed atomics, so a load may return any value that the cell has had,
and the clock may jump.  Still, over any interleaving:

    the stamps logged for a class are a second apart                       (overflow_log)

and a call that stays silent has a reason: the log that it has seen is not yet a second ago, by a
clock that may have gone back; or it has not seen the latest log; or it has seen none, and its clock
reads less than a second.
-/

namespace Brainstem.Ingress

namespace OverflowLog

def INTERVAL_NS : ℕ := 1000000000

/-- Where a thread is in `log_overflow`. -/
inductive Pc where
  | idle
  | clocked (cls : MessageClass) (outcome : String) (now : ℕ)
  | loaded (cls : MessageClass) (outcome : String) (now last : ℕ)
  deriving DecidableEq, Repr

/-- `stamps c` is what has been stored into `LAST_NS[c]`, the latest first. -/
structure State (Tid : Type) where
  stamps : MessageClass → List ℕ
  pcs : Tid → Pc

inductive Action (Tid : Type) where
  | call (t : Tid) (cls : MessageClass) (outcome : String) (now : ℕ)
  | load (t : Tid) (last : ℕ)
  | finish (t : Tid)

inductive Label where
  | quiet
  | logged (cls : MessageClass) (outcome : String) (now : ℕ)
  | silent (cls : MessageClass) (now last : ℕ)
  deriving DecidableEq, Repr

variable {Tid : Type}

def start : State Tid := ⟨fun _ => [], fun _ => .idle⟩

def State.setPc [DecidableEq Tid] (s : State Tid) (t : Tid) (pc : Pc) : State Tid :=
  { s with pcs := fun u => if u = t then pc else s.pcs u }

def State.store (s : State Tid) (cls : MessageClass) (now : ℕ) : State Tid :=
  { s with stamps := fun c => if c = cls then now :: s.stamps c else s.stamps c }

/-- `compare_exchange` sees the latest value. -/
def compareExchange (s : State Tid) (cls : MessageClass) (last now : ℕ) : Option (State Tid) :=
  if Spaced.latest (s.stamps cls) = last then some (s.store cls now) else none

/-- What is left of `log_overflow` after the load. -/
def finish (s : State Tid) (cls : MessageClass) (outcome : String) (now last : ℕ) :
    Label × State Tid :=
  if now - last < INTERVAL_NS then (.silent cls now last, s)
  else
    match compareExchange s cls last now with
    | some s' => (.logged cls outcome now, s')
    | none => (.silent cls now last, s)

def step [DecidableEq Tid] (s : State Tid) : Action Tid → Option (Label × State Tid)
  | .call t cls outcome now =>
    match s.pcs t with
    | .idle => some (.quiet, s.setPc t (.clocked cls outcome now))
    | _ => none
  | .load t last =>
    match s.pcs t with
    | .clocked cls outcome now =>
      if last ∈ 0 :: s.stamps cls then some (.quiet, s.setPc t (.loaded cls outcome now last))
      else none
    | _ => none
  | .finish t =>
    match s.pcs t with
    | .loaded cls outcome now last =>
      some ((finish s cls outcome now last).1, (finish s cls outcome now last).2.setPc t .idle)
    | _ => none

/-! ## What a step does -/

/-- Why a call stays silent that read the clock at `now` and loaded `last`. -/
inductive Justified (stamps : List ℕ) (now last : ℕ) : Prop where
  /-- a second has not passed since that log, or the clock has gone back behind it -/
  | recent (hlast : last ∈ stamps) (hnow : now < last + INTERVAL_NS)
  | missed (s : ℕ) (hs : s ∈ stamps) (hlater : last < s)
  /-- the clock is in the first second of its epoch, or before it -/
  | early (hlast : last = 0) (hnow : now < INTERVAL_NS)

/-- A load returned a value that the cell has had. -/
def Seen (s : State Tid) : Prop :=
  ∀ t cls outcome now last, s.pcs t = .loaded cls outcome now last → last ∈ 0 :: s.stamps cls

structure Inv (s : State Tid) : Prop where
  spaced : ∀ cls, Spaced INTERVAL_NS (s.stamps cls)
  /-- The cells start at zero. -/
  first : ∀ cls, ∀ stamp ∈ s.stamps cls, INTERVAL_NS ≤ stamp
  seen : Seen s

/-- One step stores at most one stamp, which is logged. -/
structure Logs (s : State Tid) (l : Label) (s' : State Tid) : Prop where
  logged : ∀ cls outcome now, l = .logged cls outcome now →
    s'.stamps cls = now :: s.stamps cls ∧ ∀ c, c ≠ cls → s'.stamps c = s.stamps c
  others : (∀ cls outcome now, l ≠ .logged cls outcome now) → s'.stamps = s.stamps
  silent : ∀ cls now last, l = .silent cls now last → Justified (s.stamps cls) now last

variable {s : State Tid}

theorem Inv.start : Inv (start : State Tid) where
  spaced _ := List.Pairwise.nil
  first _ _ h := absurd h List.not_mem_nil
  seen _ _ _ _ _ h := by cases h

theorem mem_store {cls c : MessageClass} {now last : ℕ} (h : last ∈ 0 :: s.stamps c) :
    last ∈ 0 :: (s.store cls now).stamps c := by
  show last ∈ 0 :: (if c = cls then now :: s.stamps c else s.stamps c)
  split
  · rcases List.mem_cons.1 h with rfl | h
    · exact List.mem_cons_self
    · exact List.mem_cons_of_mem _ (List.mem_cons_of_mem _ h)
  · exact h

theorem Inv.store (h : Inv s) {cls : MessageClass} {now : ℕ}
    (hnow : Spaced.latest (s.stamps cls) + INTERVAL_NS ≤ now) : Inv (s.store cls now) := by
  refine ⟨fun c => ?_, fun c stamp hmem => ?_, fun t c outcome now' last hpc => ?_⟩
  · show Spaced INTERVAL_NS (if c = cls then now :: s.stamps c else s.stamps c)
    split
    · next hc =>
      subst hc
      exact (h.spaced c).push hnow
    · exact h.spaced c
  · have hmem : stamp ∈ if c = cls then now :: s.stamps c else s.stamps c := hmem
    split at hmem
    · rcases List.mem_cons.1 hmem with rfl | hmem
      · omega
      · exact h.first c stamp hmem
    · exact h.first c stamp hmem
  · exact mem_store (h.seen t c outcome now' last hpc)

theorem Inv.setPc [DecidableEq Tid] (h : Inv s) (t : Tid) {pc : Pc}
    (hpc : ∀ cls outcome now last, pc = .loaded cls outcome now last → last ∈ 0 :: s.stamps cls) :
    Inv (s.setPc t pc) := by
  refine ⟨h.spaced, h.first, fun u cls outcome now last hu => ?_⟩
  have hu : (if u = t then pc else s.pcs u) = .loaded cls outcome now last := hu
  split at hu
  · exact hpc cls outcome now last hu
  · exact h.seen u cls outcome now last hu

theorem finish_spec (h : Inv s) {t : Tid} {cls : MessageClass} {outcome : String} {now last : ℕ}
    (hpc : s.pcs t = .loaded cls outcome now last) :
    Inv (finish s cls outcome now last).2 ∧
      Logs s (finish s cls outcome now last).1 (finish s cls outcome now last).2 := by
  have hlast := h.seen t cls outcome now last hpc
  have hsecond : 0 < INTERVAL_NS := by decide
  unfold finish
  split
  · next hsoon =>
    refine ⟨h, nofun, fun _ => rfl, ?_⟩
    rintro cls' now' last' heq
    cases heq
    rcases List.mem_cons.1 hlast with hzero | hmem
    · exact .early hzero (by omega)
    · exact .recent hmem (by omega)
  · next hago =>
    unfold compareExchange
    by_cases hcurrent : Spaced.latest (s.stamps cls) = last
    · rw [if_pos hcurrent]
      refine ⟨h.store (by omega), ?_, fun hother => absurd rfl (hother _ _ _), nofun⟩
      rintro cls' outcome' now' heq
      cases heq
      exact ⟨if_pos rfl, fun c hc => if_neg hc⟩
    · rw [if_neg hcurrent]
      refine ⟨h, nofun, fun _ => rfl, ?_⟩
      rintro cls' now' last' heq
      cases heq
      -- the cell has gone on to a later stamp
      have hle := (h.spaced cls).le_latest hlast
      rcases List.mem_cons.1 (Spaced.latest_mem (s.stamps cls)) with hzero | hmem
      · omega
      · exact .missed _ hmem (by omega)

theorem step_spec [DecidableEq Tid] (h : Inv s) {a : Action Tid} {l : Label} {s' : State Tid}
    (hs : step s a = some (l, s')) : Inv s' ∧ Logs s l s' := by
  unfold step at hs
  split at hs
  · split at hs
    · cases hs
      exact ⟨h.setPc _ nofun, nofun, fun _ => rfl, nofun⟩
    · cases hs
  · split at hs
    · split at hs
      · next hmem =>
        cases hs
        refine ⟨h.setPc _ ?_, nofun, fun _ => rfl, nofun⟩
        rintro cls outcome now last heq
        cases heq
        exact hmem
      · cases hs
    · cases hs
  · split at hs
    · next hpc =>
      cases hs
      obtain ⟨hinv, hlogs⟩ := finish_spec h hpc
      exact ⟨hinv.setPc _ nofun, hlogs.logged, hlogs.others, hlogs.silent⟩
    · cases hs

/-! ## Runs -/

/-- The stamp that a step logs for a class. -/
def Label.stamp? (cls : MessageClass) : Label → Option ℕ
  | .logged c _ now => if c = cls then some now else none
  | _ => none

/-- The stamps that a run logged for a class, in order. -/
def logged (cls : MessageClass) (trace : List (Label × State Tid)) : List ℕ :=
  Run.observe (Label.stamp? cls) trace

theorem logged_concat (cls : MessageClass) (trace : List (Label × State Tid)) {l : Label}
    {s' : State Tid} (h : Logs s l s') (hold : s.stamps cls = (logged cls trace).reverse) :
    s'.stamps cls = (logged cls (trace ++ [(l, s')])).reverse := by
  unfold logged at hold ⊢
  rw [Run.observe_concat, List.reverse_append, ← hold]
  cases l with
  | logged c outcome now =>
    obtain ⟨hsame, hother⟩ := h.logged c outcome now rfl
    by_cases hc : c = cls
    · subst hc
      simpa [Label.stamp?] using hsame
    · simpa [Label.stamp?, hc] using hother cls fun heq => hc heq.symm
  | quiet => exact congrFun (h.others nofun) cls
  | silent c now last => exact congrFun (h.others nofun) cls

/-- Over any interleaving of threads, with clocks that may jump and loads that may be stale: the
stamps logged for a class are a second apart, so any `k` seconds hold at most `k` of them, and no
call is silent without a reason.  A clock that is before the epoch reads zero, and logs nothing. -/
theorem overflow_log [DecidableEq Tid] {trace : List (Label × State Tid)} {s : State Tid}
    (hr : Run step start trace s) (cls : MessageClass) :
    (logged cls trace).Pairwise (fun earlier later => earlier + INTERVAL_NS ≤ later) ∧
      (∀ stamp ∈ logged cls trace, INTERVAL_NS ≤ stamp) ∧
      (∀ t k, ((logged cls trace).filter fun n => t ≤ n ∧ n < t + k * INTERVAL_NS).length ≤ k) ∧
      Run.Each (fun s l _ => ∀ now last, l = .silent cls now last → Justified (s.stamps cls) now last)
        start trace := by
  have hinv : Inv s ∧ s.stamps cls = (logged cls trace).reverse := by
    refine hr.invariant (I := fun trace s => Inv s ∧ s.stamps cls = (logged cls trace).reverse)
      ⟨.start, rfl⟩ ?_
    rintro trace s a l s' ⟨h, hold⟩ hs
    obtain ⟨hinv, hlogs⟩ := step_spec h hs
    exact ⟨hinv, logged_concat cls trace hlogs hold⟩
  have hspaced := hinv.1.spaced cls
  have hreverse : logged cls trace = (s.stamps cls).reverse := by
    rw [hinv.2, List.reverse_reverse]
  refine ⟨?_, fun stamp hmem => ?_, fun t k => ?_, ?_⟩
  · rw [hreverse, List.pairwise_reverse]
    exact hspaced
  · rw [hreverse, List.mem_reverse] at hmem
    exact hinv.1.first cls stamp hmem
  · rw [hreverse, List.filter_reverse, List.length_reverse]
    exact hspaced.window t k
  · exact (hr.each .start (fun s a l s' h hs => (step_spec h hs).1)
      fun s a l s' h hs => (step_spec h hs).2.silent cls).2

/-- Two threads overflow at once, and a third later. -/
def overflows : List (Action (Fin 3)) :=
  [.call 0 .sensory "rejected" 2000000000, .call 1 .sensory "rejected" 2000000001, .load 0 0,
    .load 1 0, .finish 0, .finish 1, .call 2 .sensory "dropped" 3500000000, .load 2 2000000000,
    .finish 2]

theorem overflow_log_three_calls :
    ∃ (trace : List (Label × State (Fin 3))) (s : State (Fin 3)), Run step start trace s ∧
      logged .sensory trace = [2000000000, 3500000000] ∧
      (logged .sensory trace).Pairwise (fun earlier later => earlier + INTERVAL_NS ≤ later) := by
  have hrun : (Run.exec step overflows ([], start)).map (fun r => logged .sensory r.1) =
      some [2000000000, 3500000000] := by
    decide +kernel
  obtain ⟨⟨trace, s⟩, hx, hm⟩ := Option.map_eq_some_iff.1 hrun
  have hr := Run.of_exec .refl hx
  exact ⟨trace, s, hr, hm, (overflow_log hr .sensory).1⟩

end OverflowLog

end Brainstem.Ingress
