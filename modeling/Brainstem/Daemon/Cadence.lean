import Brainstem.Daemon.Limiter
import Mathlib.Data.List.Induction
import Mathlib.Tactic.Linarith

/-!
# The limiter bounds what it emits and loses nothing

The calls of `record` fall into maximal blocks of one key (`Block`).  Within a block the log,
with the instant and the answer of each call, is `Paced`: its first call is emitted,
consecutive emissions are a multiple of the interval and at least the gap apart, and

    Σ (suppressed + 1) over the emissions  +  calls after the last one  =  length of the block
-/

namespace Brainstem.Daemon

open Brainstem.Health

namespace OccurrenceLimiter

/-- The instant and the answer of each call of a sequence, a call being a key and an instant. -/
def log (l : OccurrenceLimiter) : List (ℕ × Instant) → List (Instant × Option ℕ)
  | [] => []
  | c :: calls => (c.2, (l.record c.1 c.2).1) :: log (l.record c.1 c.2).2 calls

/-- The limiter after a sequence of calls. -/
def recordAll (l : OccurrenceLimiter) (calls : List (ℕ × Instant)) : OccurrenceLimiter :=
  calls.foldl (fun l c => (l.record c.1 c.2).2) l

@[simp] theorem recordAll_concat (l : OccurrenceLimiter) (calls : List (ℕ × Instant))
    (c : ℕ × Instant) : l.recordAll (calls ++ [c]) = ((l.recordAll calls).record c.1 c.2).2 := by
  simp [recordAll]

theorem log_append (l : OccurrenceLimiter) (s t : List (ℕ × Instant)) :
    l.log (s ++ t) = l.log s ++ (l.recordAll s).log t := by
  induction s generalizing l with
  | nil => rfl
  | cons c s ih => exact congrArg _ (ih _)

@[simp] theorem length_log (l : OccurrenceLimiter) (calls : List (ℕ × Instant)) :
    (l.log calls).length = calls.length := by
  induction calls generalizing l with
  | nil => rfl
  | cons c calls ih => exact congrArg (· + 1) (ih _)

theorem log_concat (l : OccurrenceLimiter) (s : List (ℕ × Instant)) (c : ℕ × Instant) :
    l.log (s ++ [c]) = l.log s ++ [(c.2, ((l.recordAll s).record c.1 c.2).1)] := by
  rw [log_append]
  rfl

theorem instants_log (l : OccurrenceLimiter) (calls : List (ℕ × Instant)) :
    (l.log calls).map Prod.fst = calls.map Prod.snd := by
  induction calls generalizing l with
  | nil => rfl
  | cons c calls ih => exact congrArg _ (ih _)

end OccurrenceLimiter

/-! ## A paced log -/

/-- The call at `i` was emitted. -/
def Emitted (log : List (Instant × Option ℕ)) (i : ℕ) (t : Instant) (suppressed : ℕ) : Prop :=
  log[i]? = some (t, some suppressed)

/-- No call strictly between `i` and `j` was. -/
def Quiet (log : List (Instant × Option ℕ)) (i j : ℕ) : Prop :=
  ∀ m, i < m → m < j → ∃ t, log[m]? = some (t, none)

/-- What the emissions account for, each for itself and the suppressed calls it tells of. -/
def accounted (log : List (Instant × Option ℕ)) : ℕ :=
  (log.map fun e => match e.2 with
    | some suppressed => suppressed + 1
    | none => 0).sum

structure Paced (interval : ℕ) (minGap : Duration) (log : List (Instant × Option ℕ)) : Prop where
  first : ∃ t, Emitted log 0 t 0
  spaced : ∀ i j t u r s, i < j → Emitted log i t r → Emitted log j u s → Quiet log i j →
    ∃ k, 1 ≤ k ∧ j = i + k * interval ∧ minGap ≤ u - t
  lossless : ∀ i t s, Emitted log i t s → Quiet log i log.length →
    accounted log + (log.length - (i + 1)) = log.length

/-! ## One more call -/

section Step

variable {log : List (Instant × Option ℕ)} {x : Instant × Option ℕ} {i j : ℕ}

@[simp] theorem accounted_concat (log : List (Instant × Option ℕ)) (t : Instant) (a : Option ℕ) :
    accounted (log ++ [(t, a)]) = accounted log + match a with
      | some suppressed => suppressed + 1
      | none => 0 := by
  simp [accounted]

theorem Emitted.lt_length {t : Instant} {s : ℕ} (h : Emitted log i t s) : i < log.length :=
  (List.getElem?_eq_some_iff.1 h).1

theorem emitted_concat {t : Instant} {s : ℕ} : Emitted (log ++ [x]) i t s ↔
    Emitted log i t s ∨ i = log.length ∧ x = (t, some s) := by
  unfold Emitted
  rcases Nat.lt_trichotomy i log.length with hi | rfl | hi
  · rw [List.getElem?_append_left hi]
    exact ⟨.inl, fun h => h.resolve_right fun hc => by omega⟩
  · rw [List.getElem?_concat_length, List.getElem?_eq_none (Nat.le_refl _)]
    simp
  · rw [List.getElem?_eq_none (by simpa using Nat.succ_le_of_lt hi),
      List.getElem?_eq_none (by omega)]
    simp only [reduceCtorEq, false_or, false_iff]
    omega

theorem Quiet.of_concat (h : Quiet (log ++ [x]) i j) (hj : j ≤ log.length) : Quiet log i j := by
  intro m him hmj
  have hm := h m him hmj
  rwa [List.getElem?_append_left (by omega)] at hm

theorem Quiet.concat (h : Quiet log i j) (x : Instant × Option ℕ) (hj : j ≤ log.length) :
    Quiet (log ++ [x]) i j := by
  intro m him hmj
  rw [List.getElem?_append_left (by omega)]
  exact h m him hmj

/-- Two last emissions are one. -/
theorem Quiet.unique {t u : Instant} {r s : ℕ} (hi : Emitted log i t r) (hj : Emitted log j u s)
    (hqi : Quiet log i log.length) (hqj : Quiet log j log.length) : i = j := by
  have hil := hi.lt_length
  have hjl := hj.lt_length
  rcases Nat.lt_trichotomy i j with h | h | h
  · obtain ⟨t', hm⟩ := hqi j h hjl
    rw [hj] at hm
    cases hm
  · exact h
  · obtain ⟨t', hm⟩ := hqj i h hil
    rw [hi] at hm
    cases hm

variable {interval : ℕ} {minGap : Duration}

/-- A call that is suppressed. -/
theorem Paced.suppressed (h : Paced interval minGap log) (now : Instant) :
    Paced interval minGap (log ++ [(now, none)]) := by
  obtain ⟨t₀, hfirst⟩ := h.first
  refine ⟨⟨t₀, emitted_concat.2 (.inl hfirst)⟩, ?_, ?_⟩
  · intro i j t u r s hij hi hj hq
    rcases emitted_concat.1 hi with hi' | ⟨-, hi'⟩
    · rcases emitted_concat.1 hj with hj' | ⟨-, hj'⟩
      · exact h.spaced i j t u r s hij hi' hj' (hq.of_concat hj'.lt_length.le)
      · cases hj'
    · cases hi'
  · intro i t s hi hq
    rw [List.length_append, List.length_singleton] at hq ⊢
    rcases emitted_concat.1 hi with hi' | ⟨-, hi'⟩
    · have hil := hi'.lt_length
      have hq' : Quiet (log ++ [(now, none)]) i log.length :=
        fun m hm hml => hq m hm (Nat.lt_succ_of_lt hml)
      have hrest := h.lossless i t s hi' (hq'.of_concat (Nat.le_refl _))
      rw [accounted_concat]
      dsimp only
      omega
    · cases hi'

/-- A call that is emitted, `e` being the last emission before. -/
theorem Paced.emitted (h : Paced interval minGap log) {e s : ℕ} {t now : Instant}
    (he : Emitted log e t s) (hquiet : Quiet log e log.length) (hacc : accounted log = e + 1)
    (hcount : ∃ k, 1 ≤ k ∧ log.length = e + k * interval) (hgap : minGap ≤ now - t) :
    Paced interval minGap (log ++ [(now, some (log.length - (e + 1)))]) := by
  have hlt := he.lt_length
  obtain ⟨t₀, hfirst⟩ := h.first
  refine ⟨⟨t₀, emitted_concat.2 (.inl hfirst)⟩, ?_, ?_⟩
  · intro i j t₁ t₂ r r' hij hi hj hq
    rcases emitted_concat.1 hi with hi' | ⟨rfl, -⟩
    · rcases emitted_concat.1 hj with hj' | ⟨rfl, hj'⟩
      · exact h.spaced i j t₁ t₂ r r' hij hi' hj' (hq.of_concat hj'.lt_length.le)
      · -- the emission before the new one is the last one that was there
        obtain rfl := Quiet.unique hi' he (hq.of_concat (Nat.le_refl _)) hquiet
        obtain ⟨k, hk, hlen⟩ := hcount
        rw [Emitted, he] at hi'
        cases hi'
        cases hj'
        exact ⟨k, hk, hlen, hgap⟩
    · have hjl := hj.lt_length
      rw [List.length_append, List.length_singleton] at hjl
      omega
  · intro i t' s' hi hq
    have hil := hi.lt_length
    rw [List.length_append, List.length_singleton] at hil hq ⊢
    have heq : i = log.length := by
      rcases Nat.lt_or_ge i log.length with hlt' | hge
      · obtain ⟨t'', hm⟩ := hq log.length hlt' (Nat.lt_succ_self _)
        rw [List.getElem?_concat_length] at hm
        cases hm
      · omega
    rw [accounted_concat, hacc, heq]
    dsimp only
    omega

end Step

namespace OccurrenceLimiter

/-- Where the limiter stands in a block of `key` with this log. -/
structure Within (interval : ℕ) (minGap : Duration) (key : ℕ) (log : List (Instant × Option ℕ))
    (l : OccurrenceLimiter) : Prop where
  interval_eq : l.interval = interval
  minGap_eq : l.minGap = minGap
  lastKey : l.lastKey = some key
  occurrences : l.occurrences = log.length
  last : ∃ e t s, l.emitted = e + 1 ∧ l.lastEmittedAt = some t ∧ Emitted log e t s ∧
    Quiet log e log.length ∧ interval ∣ e ∧ accounted log = e + 1
  paced : Paced interval minGap log

variable {interval key : ℕ} {minGap : Duration} {log : List (Instant × Option ℕ)}
  {l : OccurrenceLimiter}

/-- The first call of a block. -/
theorem record_first (l : OccurrenceLimiter) {key : ℕ} (hkey : l.lastKey ≠ some key) (now : Instant) :
    l.record key now = (some 0, ⟨l.interval, l.minGap, 1, 1, some key, some now⟩) := by
  unfold record rekey
  rw [if_neg hkey]
  simp [saturatingAdd, wrappingAdd]

theorem within_first (l : OccurrenceLimiter) {key : ℕ} (hkey : l.lastKey ≠ some key) (now : Instant) :
    (l.record key now).2.Within l.interval l.minGap key [(now, (l.record key now).1)] := by
  rw [record_first l hkey now]
  refine ⟨rfl, rfl, rfl, rfl, ⟨0, now, 0, rfl, rfl, rfl, ?_, by simp, by simp [accounted]⟩, ?_⟩
  · intro m hm hlen
    simp at hlen
    omega
  · refine ⟨⟨now, rfl⟩, ?_, ?_⟩
    · intro i j t u r s hij _ hj _
      have hjl := hj.lt_length
      simp at hjl
      omega
    · intro i t s hi _
      have hil := hi.lt_length
      simp at hil
      simp [accounted, hil]

/-- A later call of a block: emitted when both are due, the count since the first call and the
time since the last emission. -/
theorem Within.record_eq (h : l.Within interval minGap key log) (hlen : log.length + 1 < 2 ^ 64)
    {e : ℕ} {t : Instant} (hemitted : l.emitted = e + 1) (ht : l.lastEmittedAt = some t)
    (now : Instant) :
    l.record key now =
      if log.length % interval = 0 ∧ minGap ≤ now - t then
        (some (log.length - (e + 1)),
          { l with occurrences := log.length + 1, emitted := log.length + 1, lastEmittedAt := some now })
      else (none, { l with occurrences := log.length + 1 }) := by
  have hpos : log.length ≠ 0 := by
    obtain ⟨e', t', s, -, -, he, -⟩ := h.last
    have hlt := he.lt_length
    omega
  have hel : e < log.length := by
    obtain ⟨e', t', s, hem, -, he, -⟩ := h.last
    have hlt := he.lt_length
    omega
  have hocc : saturatingAdd l.occurrences 1 = log.length + 1 := by
    rw [h.occurrences]
    unfold saturatingAdd
    omega
  have hwrap : wrappingAdd (e + 1) 1 = e + 2 := by
    unfold wrappingAdd
    omega
  unfold OccurrenceLimiter.record rekey
  rw [if_pos h.lastKey]
  simp only [hocc, hemitted, ht, hwrap, h.interval_eq, h.minGap_eq]
  have hone : (log.length + 1 == 1) = false := by
    rw [beq_eq_false_iff_ne]
    omega
  simp only [hone, Bool.false_or, Nat.add_sub_cancel, Bool.and_eq_true_iff, beq_iff_eq,
    decide_eq_true_eq]
  split
  · rw [show log.length + 1 - (e + 2) = log.length - (e + 1) by omega]
  · rfl

theorem Within.record (h : l.Within interval minGap key log)
    (hlen : log.length + 1 < 2 ^ 64) (now : Instant) :
    (l.record key now).2.Within interval minGap key (log ++ [(now, (l.record key now).1)]) := by
  obtain ⟨e, t, s, hem, ht, he, hquiet, hdvd, hacc⟩ := h.last
  have hlt := he.lt_length
  rw [h.record_eq hlen hem ht now]
  split
  · next hdue =>
    have hdvd' : interval ∣ log.length := Nat.dvd_of_mod_eq_zero hdue.1
    have hcount : ∃ k, 1 ≤ k ∧ log.length = e + k * interval := by
      obtain ⟨k, hk⟩ := Nat.dvd_sub hdvd' hdvd
      refine ⟨k, Nat.pos_of_ne_zero ?_, ?_⟩
      · rintro rfl
        omega
      · rw [Nat.mul_comm k interval]
        omega
    refine ⟨h.interval_eq, h.minGap_eq, h.lastKey, by simp, ?_,
      h.paced.emitted he hquiet hacc hcount hdue.2⟩
    refine ⟨log.length, now, _, rfl, rfl, emitted_concat.2 (.inr ⟨rfl, rfl⟩), ?_, hdvd', ?_⟩
    · intro m hm hml
      rw [List.length_append, List.length_singleton] at hml
      omega
    · rw [accounted_concat, hacc]
      dsimp only
      omega
  · refine ⟨h.interval_eq, h.minGap_eq, h.lastKey, by simp, ?_, h.paced.suppressed now⟩
    refine ⟨e, t, s, hem, ht, emitted_concat.2 (.inl he), ?_, hdvd, ?_⟩
    · intro m hm hml
      rw [List.length_append, List.length_singleton] at hml
      rcases Nat.lt_or_ge m log.length with hlt' | hge
      · exact hquiet.concat _ (Nat.le_refl _) m hm hlt'
      · exact ⟨now, by rw [show m = log.length by omega]; exact List.getElem?_concat_length⟩
    · rw [accounted_concat, hacc]
      rfl

/-! ## Blocks -/

/-- A maximal block of calls with one key. -/
structure Block (calls before block after : List (ℕ × Instant)) (key : ℕ) : Prop where
  split : calls = before ++ block ++ after
  nonempty : block ≠ []
  same : ∀ c ∈ block, c.1 = key
  starts : ∀ c, before.getLast? = some c → c.1 ≠ key
  ends : ∀ c, after.head? = some c → c.1 ≠ key

theorem record_params (l : OccurrenceLimiter) (key : ℕ) (now : Instant) :
    (l.record key now).2.interval = l.interval ∧ (l.record key now).2.minGap = l.minGap ∧
      (l.record key now).2.lastKey = some key := by
  have hrekey : (l.rekey key).interval = l.interval ∧ (l.rekey key).minGap = l.minGap ∧
      (l.rekey key).lastKey = some key := by
    unfold rekey
    split
    · next h => exact ⟨rfl, rfl, h⟩
    · exact ⟨rfl, rfl, rfl⟩
  unfold record
  dsimp only
  split
  · exact hrekey
  · exact hrekey

theorem recordAll_params (l : OccurrenceLimiter) (calls : List (ℕ × Instant)) :
    (l.recordAll calls).interval = l.interval ∧ (l.recordAll calls).minGap = l.minGap := by
  induction calls using List.reverseRecOn with
  | nil => exact ⟨rfl, rfl⟩
  | append_singleton calls c ih =>
    obtain ⟨h1, h2, -⟩ := (l.recordAll calls).record_params c.1 c.2
    rw [recordAll_concat]
    exact ⟨h1.trans ih.1, h2.trans ih.2⟩

/-- The key of the last call is the one that is remembered. -/
theorem lastKey_recordAll (interval : ℕ) (minGap : Duration) (calls : List (ℕ × Instant)) :
    ((new interval minGap).recordAll calls).lastKey = calls.getLast?.map Prod.fst := by
  induction calls using List.reverseRecOn with
  | nil => rfl
  | append_singleton calls c =>
    rw [recordAll_concat, ((new interval minGap).recordAll calls).record_params c.1 c.2 |>.2.2,
      List.getLast?_concat]
    rfl

/-- Through a block, from a limiter that was not in it. -/
theorem within_block (l : OccurrenceLimiter) {key : ℕ} (hkey : l.lastKey ≠ some key)
    (block : List (ℕ × Instant)) (hne : block ≠ [])
    (hsame : ∀ c ∈ block, c.1 = key) (hlen : block.length < 2 ^ 64) :
    (l.recordAll block).Within l.interval l.minGap key (l.log block) := by
  induction block using List.reverseRecOn with
  | nil => exact absurd rfl hne
  | append_singleton block c ih =>
    obtain rfl : c.1 = key := hsame c (by simp)
    rw [List.length_append, List.length_singleton] at hlen
    rw [recordAll_concat, log_concat]
    rcases List.eq_nil_or_concat block with rfl | ⟨_, _, hblock⟩
    · exact l.within_first hkey c.2
    · have hwithin := ih (by rw [hblock]; simp)
        (fun d hd => hsame d (List.mem_append_left _ hd)) (by omega)
      exact hwithin.record (by rw [length_log]; exact hlen) c.2

end OccurrenceLimiter

open OccurrenceLimiter in
/-- **Rate limiting is bounded and lossless**: whatever the keys and the instants, the log of
every maximal block is paced. -/
theorem diagnostics_paced (interval : ℕ) (minGap : Duration)
    (calls : List (ℕ × Instant)) (hlen : calls.length < 2 ^ 64) {before block after : List (ℕ × Instant)}
    {key : ℕ} (hblock : Block calls before block after key) :
    ∃ front log back, (OccurrenceLimiter.new interval minGap).log calls = front ++ log ++ back ∧
      front.length = before.length ∧ log.map Prod.fst = block.map Prod.snd ∧
      Paced interval minGap log := by
  obtain ⟨rfl, hne, hsame, hstarts, -⟩ := hblock
  let l := (OccurrenceLimiter.new interval minGap).recordAll before
  obtain ⟨hint, hgap⟩ := recordAll_params (OccurrenceLimiter.new interval minGap) before
  have hkey : l.lastKey ≠ some key := by
    rw [show l.lastKey = _ from lastKey_recordAll interval minGap before]
    intro h
    obtain ⟨c, hc, hck⟩ := Option.map_eq_some_iff.1 h
    exact hstarts c hc hck
  have hwithin := within_block l hkey block hne hsame (by
    simp only [List.length_append] at hlen
    omega)
  rw [hint, hgap] at hwithin
  refine ⟨(OccurrenceLimiter.new interval minGap).log before, l.log block, (l.recordAll block).log after,
    ?_, length_log _ before, ?_, hwithin.paced⟩
  · rw [List.append_assoc, log_append, log_append, List.append_assoc]
  · exact instants_log l block

/-- A clock that goes back, an emission that waits for the gap, and a new key. -/
theorem diagnostics_paced_blocks :
    ∃ front log back, (OccurrenceLimiter.new 2 5).log
        [(7, 9), (7, 9), (7, 3), (7, 3), (7, 14), (8, 0)] = front ++ log ++ back ∧
      front.length = 0 ∧ log.map Prod.fst = [9, 9, 3, 3, 14] ∧ Paced 2 5 log :=
  diagnostics_paced 2 5 _ (by decide)
    (show OccurrenceLimiter.Block _ [] [(7, 9), (7, 9), (7, 3), (7, 3), (7, 14)] [(8, 0)] 7 from
      ⟨rfl, by decide, by decide, nofun, by decide⟩)

end Brainstem.Daemon
