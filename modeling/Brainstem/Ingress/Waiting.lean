import Brainstem.Ingress.Conservation
import Brainstem.Ingress.Order
import Brainstem.Ingress.Parking
import Mathlib.Data.Set.Card

/-!
# No lost wake-up

On a queue that makes producers wait, a free slot is never left to nobody: while a producer
is parked there, each free slot is matched by a producer that was woken and has yet to take
the lock (`Covered`).  Newcomers may take the slot first; the woken one then finds the queue
full again and nothing is lost.

    parked on c  →  capacity - depth ≤ number of producers woken on c
-/

namespace Brainstem.Ingress

namespace World

variable {Tid : Type} {horizon : Instant} {w w' : World Tid} {l : Label Tid} {c : MessageClass}
  {shared : BoundedIngress} {trace : List (Label Tid × World Tid)}

/-- The free slots of the queue of `c`. -/
def free (w : World Tid) (c : MessageClass) : ℕ :=
  (w.shared.queue c).capacity - (w.shared.queues c).items.length

/-- While somebody waits on `c`, each free slot has a woken producer of its own. -/
def Covered (c : MessageClass) (w : World Tid) : Prop :=
  w.waiters c ≠ [] → ∃ ws : List Tid, ws.Nodup ∧ (∀ t ∈ ws, (w.threads t).wokenOn = some c) ∧
    w.free c ≤ ws.length

/-- The same woken producers cover as many free slots or fewer. -/
theorem Covered.mono (hc : Covered c w) (hw : w'.waiters c ≠ [] → w.waiters c ≠ [])
    (ht : ∀ t, (w.threads t).wokenOn = some c → (w'.threads t).wokenOn = some c)
    (hfree : w'.free c ≤ w.free c) : Covered c w' := by
  intro hne
  obtain ⟨ws, hnodup, hwoken, hle⟩ := hc (hw hne)
  exact ⟨ws, hnodup, fun t hmem => ht t (hwoken t hmem), Nat.le_trans hfree hle⟩

variable [DecidableEq Tid]

/-! ## Who stays woken -/

theorem wokenOn_setPc {t : Tid} {pc : Pc} (ht : (w.threads t).wokenOn ≠ some c)
    (hthreads : w'.threads = Function.update w.threads t pc) (u : Tid)
    (hu : (w.threads u).wokenOn = some c) : (w'.threads u).wokenOn = some c := by
  have hne : u ≠ t := by
    rintro rfl
    exact ht hu
  rw [hthreads, Function.update_of_ne hne]
  exact hu

/-- A notification leaves the woken ones woken. -/
theorem wokenOn_unparkAll {cls : MessageClass} {us : List Tid} (u : Tid)
    (hu : (w.threads u).wokenOn = some c) :
    ((w.unparkAll cls us).threads u).wokenOn = some c := by
  simp only [unparkAll]
  split
  · rw [Pc.unpark_eq_self (Pc.parkedOn_of_wokenOn hu)]
    exact hu
  · exact hu

omit [DecidableEq Tid] in
theorem Proceeds.wokenOn {a : Action Tid} {t : Tid} {pc : Pc} (hp : Proceeds horizon w t a pc) :
    (w.threads t).wokenOn = none := by
  cases hp with
  | call cls packet wait hpc => rw [hpc]; rfl
  | refused hpc hflag => rw [hpc]; rfl
  | admitted hpc hflag => rw [hpc]; rfl
  | clock hpc => rw [hpc]; rfl
  | closed hpc => rw [hpc]; rfl

omit [DecidableEq Tid] in
theorem Notifies.wokenOn {a : Action Tid} {t : Tid} {cls : MessageClass} {st : BoundedIngress.Step} {pc : Pc}
    {us : List Tid} (hn : w.Notifies t cls a st pc us) : (w.threads t).wokenOn = none := by
  have hpops : ∀ {next : Option Tid} {before after : Pc}, PopsAt t next a before cls after →
      before.wokenOn = none := by
    rintro next before after (_ | _ | _) <;> rfl
  have hdrains : ∀ {before after : Pc}, DrainsAt before cls after → before.wokenOn = none := by
    rintro before after (_ | _) <;> rfl
  cases hn with
  | pop hpc hus => exact hpops hpc
  | drainAll hpc hus => exact hdrains hpc
  | close hpc => rw [hpc]; rfl

/-! ## One step -/

omit [DecidableEq Tid] in
theorem free_perform_of_ne (st : BoundedIngress.Step) (hc : st.cls ≠ some c)
    (hs : w'.shared = w.shared.perform st) : w'.free c = w.free c := by
  unfold free
  rw [hs, BoundedIngress.perform_queue, BoundedIngress.perform_of_ne _ _ _ hc]

omit [DecidableEq Tid] in
theorem no_eviction (hpol : (w.shared.queue c).policy = .blockTimeout) :
    (w.shared.queue c).policy ≠ .dropOldest ∧ (w.shared.queue c).policy ≠ .coalesce := by
  rw [hpol]
  exact ⟨by simp, by simp⟩

omit [DecidableEq Tid] in
/-- A step that hands nothing out frees no slot. -/
theorem free_le_of_taken_nil (hf : w.shared.Fits) (hpol : (w.shared.queue c).policy = .blockTimeout)
    (st : BoundedIngress.Step) (ht : w.shared.takenFrom st c = [])
    (hs : w'.shared = w.shared.perform st) : w'.free c ≤ w.free c := by
  have hdepth := BoundedIngress.depth_perform hf (no_eviction hpol) st
  rw [ht, List.length_nil] at hdepth
  unfold free
  rw [hs, BoundedIngress.perform_queue]
  omega

omit [DecidableEq Tid] in
/-- A woken producer of an open queue takes a slot, or there was none. -/
theorem free_of_again (hf : w.shared.Fits) (hpol : (w.shared.queue c).policy = .blockTimeout)
    (hopen : (w.shared.queues c).closed = false) {packet : IngressPacket}
    {deadline : Option Instant} {timedOut : Bool} {elapsed now : ℕ} {o : EnqueueOutcome}
    {q : QueueState}
    (ha : w.shared.attempt (.resume c packet deadline timedOut elapsed now) = some (.done o q))
    (hs : w'.shared = w.shared.perform (.resume c packet deadline timedOut elapsed now)) :
    w'.free c ≤ w.free c - 1 := by
  have hdec : BoundedQueue.Attempt.Decided (w.shared.queue c) (w.shared.queues c) deadline false timedOut
      ((w.shared.queue c).resumeWait (w.shared.queues c) packet deadline timedOut elapsed now) :=
    BoundedQueue.resumeWait_decided packet deadline timedOut elapsed now
  obtain ⟨ho, ht, -⟩ := BoundedIngress.seen_of_done (c := c) rfl rfl ha
  have hdepth := BoundedIngress.depth_perform hf (no_eviction hpol)
    (.resume c packet deadline timedOut elapsed now)
  rw [show (w.shared.queue c).resumeWait (w.shared.queues c) packet deadline timedOut elapsed now =
    .done o q from Option.some.inj ha] at hdec
  rw [ho, ht, List.length_nil] at hdepth
  unfold free
  rw [hs, BoundedIngress.perform_queue]
  cases o with
  | accepted depth =>
    simp only [Option.any_some, EnqueueOutcome.isAccepted, if_true] at hdepth
    omega
  | droppedOldest depth => exact absurd hdec.2.2.1 (no_eviction hpol).1
  | coalesced depth => exact absurd hdec.2.2.1 (no_eviction hpol).2
  | rejected =>
    have hfull := (hdec.2.resolve_left Bool.false_ne_true).1
    simp only [Option.any_some, EnqueueOutcome.isAccepted] at hdepth
    simp only [Bool.false_eq_true, if_false] at hdepth
    omega
  | shutdown =>
    rw [show (w.shared.queues c).closed = true from hdec] at hopen
    cases hopen

/-- A woken producer returns: it no longer counts as woken, and there is one free slot less to
cover. -/
theorem Covered.again (hf : w.shared.Fits) (hpol : (w.shared.queue c).policy = .blockTimeout)
    (hc : Covered c w) (hopen : (w.shared.queues c).closed = false) {t : Tid}
    {packet : IngressPacket} {deadline : Option Instant} {timedOut : Bool} {elapsed now : ℕ}
    {o : EnqueueOutcome} {q : QueueState}
    (ha : w.shared.attempt (.resume c packet deadline timedOut elapsed now) = some (.done o q))
    (hthreads : w'.threads = Function.update w.threads t .idle) (hwaiters : w'.waiters = w.waiters)
    (hs : w'.shared = w.shared.perform (.resume c packet deadline timedOut elapsed now)) :
    Covered c w' := by
  intro hne
  rw [hwaiters] at hne
  obtain ⟨ws, hnodup, hws, hle⟩ := hc hne
  refine ⟨ws.erase t, hnodup.erase t, fun u hu => ?_,
    Nat.le_trans (free_of_again hf hpol hopen ha hs) ?_⟩
  · obtain ⟨hne, hu⟩ := hnodup.mem_erase_iff.1 hu
    rw [hthreads, Function.update_of_ne hne]
    exact hws u hu
  · have hlen : ws.length - 1 ≤ (ws.erase t).length := by
      rw [List.length_erase]
      split <;> omega
    omega

/-- An atomic step that notifies nobody keeps the free slots covered. -/
theorem Covered.quiet (hf : w.shared.Fits) (hr : w.Roused)
    (hpol : (w.shared.queue c).policy = .blockTimeout) (hc : Covered c w) {t : Tid}
    {a : Action Tid} {st : BoundedIngress.Step} {pc : Pc} (hq : w.Quiet t a st pc) :
    Covered c ((w.perform t st).2.setPc t pc) := by
  cases hq with
  | refuse hpc =>
    refine hc.mono id (wokenOn_setPc ?_ rfl) (free_le_of_taken_nil hf hpol (.refuse _) ?_ rfl)
    · rw [hpc]
      simp [Pc.wokenOn]
    · unfold BoundedIngress.takenFrom
      split <;> rfl
  | storeFlag hpc =>
    refine hc.mono id (wokenOn_setPc ?_ rfl) (Nat.le_refl _)
    rw [hpc]
    simp [Pc.wokenOn]
  | push hpush ha =>
    have htaken : w.shared.takenFrom st c = [] := by
      unfold BoundedIngress.takenFrom
      cases hpush <;> split <;> rfl
    by_cases hwoken : (w.threads t).wokenOn = some c
    · cases hpush with
      | first hpc =>
        rw [hpc] at hwoken
        cases hwoken
      | again hpc =>
        rw [hpc] at hwoken
        cases hwoken
        intro hne
        have hopen : (w.shared.queues c).closed = false := by
          by_contra hclosed
          rw [Bool.not_eq_false] at hclosed
          exact hne (hr c hclosed)
        exact hc.again hf hpol hopen ha rfl rfl rfl hne
    · exact hc.mono id (wokenOn_setPc hwoken rfl) (free_le_of_taken_nil hf hpol st htaken rfl)

/-- Who parks found the queue full, and leaves it so. -/
theorem Covered.park (hf : w.shared.Fits) (hpol : (w.shared.queue c).policy = .blockTimeout)
    (hc : Covered c w) {t : Tid} {cls : MessageClass} {packet : IngressPacket}
    {deadline : Option Instant} {st : BoundedIngress.Step} {q : QueueState} {pc : Pc}
    (hpush : w.Pushes t cls packet deadline st) (ha : w.shared.attempt st = some (.park q))
    (hthreads : w'.threads = Function.update w.threads t pc)
    (hwaiters : w'.waiters = Function.update w.waiters cls (t :: w.waiters cls))
    (hs : w'.shared = w.shared.perform st) : Covered c w' := by
  obtain ⟨-, -, hfull, -⟩ := hpush.park_decided ha
  by_cases hcls : c = cls
  · subst hcls
    have htaken : w.shared.takenFrom st c = [] := (BoundedIngress.seen_of_park ha).2.1
    intro _
    refine ⟨[], List.nodup_nil, fun u hu => absurd hu List.not_mem_nil, ?_⟩
    refine Nat.le_trans (free_le_of_taken_nil hf hpol st htaken hs) (Nat.le_of_eq ?_)
    exact Nat.sub_eq_zero_of_le hfull
  · refine hc.mono (fun hne => ?_) (wokenOn_setPc ?_ hthreads) (Nat.le_of_eq ?_)
    · rw [hwaiters, Function.update_of_ne hcls] at hne
      exact hne
    · cases hpush with
      | first hpc =>
        rw [hpc]
        simp [Pc.wokenOn]
      | again hpc =>
        rw [hpc]
        simp [Pc.wokenOn, Ne.symm hcls]
    · refine free_perform_of_ne st ?_ hs
      rw [hpush.cls_eq]
      exact fun h => hcls (Option.some.inj h).symm

/-- The slot that a pop freed goes to the one that it notifies. -/
theorem Covered.pop (hf : w.shared.Fits) (hp : w.Parking)
    (hpol : (w.shared.queue c).policy = .blockTimeout) {t u : Tid} {pc : Pc}
    (ht : (w.threads t).parkedOn = none) (hu : u ∈ w.waiters c) {ws : List Tid}
    (hnodup : ws.Nodup) (hws : ∀ v ∈ ws, (w.threads v).wokenOn = some c)
    (hle : w.free c ≤ ws.length)
    (hkeep : ∀ v ∈ ws, ((((w.perform t (.pop c)).2.setPc t pc).unparkAll c [u]).threads v).wokenOn =
      some c) : Covered c (((w.perform t (.pop c)).2.setPc t pc).unparkAll c [u]) := by
  intro _
  have hdepth := BoundedIngress.depth_perform hf (no_eviction hpol) (.pop c)
  have hparked : (w.threads u).parkedOn = some c := (hp.mem c u).1 hu
  have hut : u ≠ t := by
    rintro rfl
    rw [ht] at hparked
    cases hparked
  have hnot : u ∉ ws := by
    intro hmem
    rw [Pc.parkedOn_of_wokenOn (hws u hmem)] at hparked
    cases hparked
  refine ⟨u :: ws, List.nodup_cons.2 ⟨hnot, hnodup⟩, fun v hv => ?_, ?_⟩
  · rcases List.mem_cons.1 hv with rfl | hv
    · simp only [unparkAll, List.mem_singleton, if_true]
      show ((Function.update w.threads t pc v).unpark false).wokenOn = some c
      rw [Function.update_of_ne hut]
      exact Pc.wokenOn_unpark hparked false
    · exact hkeep v hv
  · have htake : (w.shared.takenFrom (.pop c) c).length ≤ 1 := by
      have heq : w.shared.takenFrom (.pop c) c = (w.shared.queues c).items.head?.toList :=
        if_pos rfl
      rw [heq]
      cases (w.shared.queues c).items <;> simp
    have hfree : (w.shared.perform (.pop c)).queue c = w.shared.queue c :=
      BoundedIngress.perform_queue _ _ _
    show ((w.shared.perform (.pop c)).queue c).capacity -
      ((w.shared.perform (.pop c)).queues c).items.length ≤ (u :: ws).length
    unfold free at hle
    rw [hfree, List.length_cons]
    omega

/-- An atomic step that notifies, on the class itself. -/
theorem Covered.notify_self (hf : w.shared.Fits) (hp : w.Parking)
    (hpol : (w.shared.queue c).policy = .blockTimeout) (hc : Covered c w) {t : Tid} {a : Action Tid}
    {st : BoundedIngress.Step} {pc : Pc} {us : List Tid} (hn : w.Notifies t c a st pc us) :
    Covered c (((w.perform t st).2.setPc t pc).unparkAll c us) := by
  intro hne
  have hremain : (w.waiters c).diff us ≠ [] := by
    simp only [unparkAll, Function.update_self] at hne
    exact hne
  have hwait : w.waiters c ≠ [] := by
    intro hnil
    rw [hnil, List.nil_diff] at hremain
    exact hremain rfl
  obtain ⟨ws, hnodup, hws, hle⟩ := hc hwait
  have hkeep : ∀ u ∈ ws, ((((w.perform t st).2.setPc t pc).unparkAll c us).threads u).wokenOn =
      some c := fun u hu =>
    wokenOn_unparkAll u (wokenOn_setPc (by rw [hn.wokenOn]; simp) rfl u (hws u hu))
  cases hn with
  | pop hpc hus =>
    rcases hus with ⟨hempty | hnil, rfl⟩ | ⟨u, hu, rfl⟩
    · refine ⟨ws, hnodup, hkeep, Nat.le_trans ?_ hle⟩
      exact free_le_of_taken_nil hf hpol (.pop c) ((if_pos rfl).trans hempty) rfl
    · exact absurd hnil hwait
    · exact Covered.pop hf hp hpol hpc.parkedOn.1 hu hnodup hws hle hkeep hne
  | drainAll hpc hus =>
    split at hus
    · next hempty =>
      subst hus
      refine ⟨ws, hnodup, hkeep, Nat.le_trans ?_ hle⟩
      exact free_le_of_taken_nil hf hpol (.drainAll c) ((if_pos rfl).trans hempty) rfl
    · subst hus
      exact absurd (diff_self _) hremain
  | close hpc => exact absurd (diff_self _) hremain

theorem Covered.notify (hf : w.shared.Fits) (hp : w.Parking)
    (hpol : (w.shared.queue c).policy = .blockTimeout) (hc : Covered c w) {t : Tid}
    {cls : MessageClass} {a : Action Tid} {st : BoundedIngress.Step} {pc : Pc} {us : List Tid}
    (hn : w.Notifies t cls a st pc us) :
    Covered c (((w.perform t st).2.setPc t pc).unparkAll cls us) := by
  by_cases hcls : c = cls
  · subst hcls
    exact hc.notify_self hf hp hpol hn
  · have hmoved : ∀ u, (w.threads u).wokenOn = some c →
        (((w.perform t st).2.setPc t pc).threads u).wokenOn = some c :=
      wokenOn_setPc (by rw [hn.wokenOn]; simp) rfl
    refine hc.mono (fun hne => ?_) (fun u hu => wokenOn_unparkAll u (hmoved u hu)) (Nat.le_of_eq ?_)
    · simp only [unparkAll, Function.update_of_ne hcls] at hne
      exact hne
    · have hst : st.cls = some cls := by
        cases hn <;> rfl
      refine free_perform_of_ne st ?_ rfl
      rw [hst]
      exact fun h => hcls (Option.some.inj h).symm

/-- One step keeps the free slots covered. -/
theorem Covered.step (hf : w.shared.Fits) (hp : w.Parking) (hr : w.Roused)
    (hpol : (w.shared.queue c).policy = .blockTimeout) (hc : Covered c w) {a : Action Tid}
    (h : step horizon w a = some (l, w')) : Covered c w' := by
  cases step_acts h with
  | pass ns _ hl hw =>
    subst hw
    exact hc
  | proceed t pc hm hl hw =>
    subst hw
    refine hc.mono id (wokenOn_setPc ?_ rfl) (Nat.le_refl _)
    rw [hm.wokenOn]
    simp
  | wake t cls packet deadline since timedOut _ hpc hdue hl hw =>
    subst hw
    refine hc.mono (fun hne => ?_) (wokenOn_setPc ?_ rfl) (Nat.le_refl _)
    · by_cases hcls : c = cls
      · subst hcls
        have hmem : t ∈ w.waiters c := by
          rw [hp.mem, hpc]
          rfl
        exact List.ne_nil_of_mem hmem
      · simpa [Function.update_of_ne hcls] using hne
    · rw [hpc]
      simp [Pc.wokenOn]
  | quiet t st pc hq hl hw =>
    subst hw
    exact hc.quiet hf hr hpol hq
  | park t cls packet deadline st q _ hpush ha hl hw =>
    subst hw
    exact hc.park hf hpol hpush ha rfl rfl rfl
  | notify t cls st pc us hn hl hw =>
    subst hw
    exact hc.notify hf hp hpol hn

/-! ## `try_enqueue` -/

/-- In a call that never waits. -/
def Pc.Never : Pc → Prop
  | .entered _ _ wait | .admitted _ _ wait => wait = .never
  | .locking _ _ deadline => deadline = none
  | .refusing _ => True
  | _ => False

omit [DecidableEq Tid] in
theorem Pc.Never.parkedOn {pc : Pc} (h : Pc.Never pc) : pc.parkedOn = none := by
  cases pc <;> first | rfl | cases h

section Never

variable {t : Tid} {a : Action Tid} {pc : Pc}

omit [DecidableEq Tid] in
theorem Proceeds.never (hn : Pc.Never (w.threads t)) (hm : Proceeds horizon w t a pc) :
    Pc.Never pc ∨ pc = .idle := by
  cases hm with
  | call cls packet wait hpc =>
    rw [hpc] at hn
    cases hn
  | refused hpc hflag => exact .inl trivial
  | admitted hpc hflag =>
    rw [hpc] at hn
    exact .inl hn
  | clock hpc =>
    rw [hpc] at hn
    have hwait : _ = WaitMode.never := hn
    subst hwait
    exact .inl rfl
  | closed hpc => exact .inr rfl

omit [DecidableEq Tid] in
theorem Quiet.never (hn : Pc.Never (w.threads t)) {st : BoundedIngress.Step}
    (hq : w.Quiet t a st pc) : pc = .idle := by
  cases hq with
  | refuse hpc => rfl
  | push hp ha => rfl
  | storeFlag hpc =>
    rw [hpc] at hn
    cases hn

omit [DecidableEq Tid] in
/-- A push that parks has a deadline, or was parked before. -/
theorem Pushes.not_never {cls : MessageClass} {packet : IngressPacket} {deadline : Option Instant}
    {st : BoundedIngress.Step} {q : QueueState} (hp : w.Pushes t cls packet deadline st)
    (ha : w.shared.attempt st = some (.park q)) : ¬Pc.Never (w.threads t) := by
  intro hn
  have hdeadline := (hp.park_decided ha).2.2.2
  cases hp with
  | first hpc =>
    rw [hpc] at hn
    rw [show deadline = none from hn] at hdeadline
    cases hdeadline
  | again hpc =>
    rw [hpc] at hn
    cases hn

omit [DecidableEq Tid] in
theorem Notifies.not_never {cls : MessageClass} {st : BoundedIngress.Step} {us : List Tid}
    (hnot : w.Notifies t cls a st pc us) : ¬Pc.Never (w.threads t) := by
  intro hn
  cases hnot with
  | pop hpc hus =>
    generalize w.threads t = before at hpc hn
    cases hpc <;> exact hn
  | drainAll hpc hus =>
    generalize w.threads t = before at hpc hn
    cases hpc <;> exact hn
  | close hpc =>
    rw [hpc] at hn
    cases hn

/-- The thread keeps to a call that never waits until the call returns. -/
theorem step_never (hn : Pc.Never (w.threads t)) (h : step horizon w a = some (l, w')) :
    Pc.Never (w'.threads t) ∨ w'.threads t = .idle := by
  have hwas : Pc.Never (w.threads t) ∨ w.threads t = .idle := .inl hn
  -- another thread's move leaves `t` alone, and it is not among those that wake
  have hother : ∀ {u : Tid} {pc : Pc} {v : World Tid}, v.threads = Function.update w.threads u pc →
      t ≠ u → v.threads t = w.threads t := by
    intro u pc v hv hne
    rw [hv, Function.update_of_ne hne]
  have hown : ∀ {pc : Pc} {v : World Tid}, v.threads = Function.update w.threads t pc →
      v.threads t = pc := by
    intro pc v hv
    rw [hv, Function.update_self]
  cases step_acts h with
  | pass ns _ hl hw =>
    subst hw
    exact hwas
  | proceed u pc hm hl hw =>
    subst hw
    by_cases hu : t = u
    · subst hu
      rw [hown rfl]
      exact hm.never hn
    · rw [hother rfl hu]
      exact hwas
  | wake u cls packet deadline since timedOut _ hpc hdue hl hw =>
    subst hw
    have hu : t ≠ u := by
      rintro rfl
      rw [hpc] at hn
      cases hn
    rw [hother rfl hu]
    exact hwas
  | quiet u st pc hq hl hw =>
    subst hw
    by_cases hu : t = u
    · subst hu
      rw [hown rfl]
      exact .inr (hq.never hn)
    · rw [hother rfl hu]
      exact hwas
  | park u cls packet deadline st q _ hp ha hl hw =>
    subst hw
    have hu : t ≠ u := by
      rintro rfl
      exact hp.not_never ha hn
    rw [hother rfl hu]
    exact hwas
  | notify u cls st pc us hnot hl hw =>
    subst hw
    have hu : t ≠ u := by
      rintro rfl
      exact hnot.not_never hn
    have hsame : ((w.perform u st).2.setPc u pc).threads t = w.threads t := hother rfl hu
    simp only [unparkAll, hsame, Pc.unpark_eq_self hn.parkedOn, ite_self]
    exact hwas

end Never

/-- A call that never waits is not parked before it returns. -/
theorem run_never {t : Tid} (hn : Pc.Never (w.threads t)) (hr : Run (step horizon) w trace w')
    (hpending : ∀ v ∈ Run.visited w trace, v.threads t ≠ .idle) : Pc.Never (w'.threads t) := by
  induction hr with
  | refl => exact hn
  | snoc a hr hs ih =>
    rw [Run.visited_concat] at hpending
    have hbefore := ih fun v hv => hpending v (List.mem_append_left _ hv)
    refine (step_never hbefore hs).resolve_right (hpending _ ?_)
    exact List.mem_append_right _ (List.mem_singleton.2 rfl)

/-! ## Runs -/

omit [DecidableEq Tid] in
theorem encard_of_list {P : Tid → Prop} {ws : List Tid} {n : ℕ} (hnodup : ws.Nodup)
    (hws : ∀ t ∈ ws, P t) (hn : n ≤ ws.length) : (n : ℕ∞) ≤ {t | P t}.encard := by
  classical
  have hsub : (ws.toFinset : Set Tid) ⊆ {t | P t} := by
    intro t ht
    exact hws t (List.mem_toFinset.1 ht)
  refine le_trans ?_ (Set.encard_le_encard hsub)
  rw [Set.encard_coe_eq_coe_finsetCard, List.toFinset_card_of_nodup hnodup]
  exact_mod_cast hn

/-- What a run from a fresh ingress keeps, for a class that makes producers wait. -/
theorem run_covered {config : IngressConfig} (hnew : BoundedIngress.new config = .ok shared)
    (hpol : config.policy c = .blockTimeout)
    (hr : Run (World.step horizon) (World.start shared : World Tid) trace w) :
    w.shared.Fits ∧ w.Parking ∧ w.Roused ∧ Covered c w ∧
      w.shared.queue c = shared.queue c ∧ (shared.queue c).policy = .blockTimeout := by
  have hpol' : (shared.queue c).policy = .blockTimeout := by
    obtain ⟨hv, rfl⟩ := BoundedIngress.new_eq_ok hnew
    exact hpol
  refine Run.invariant (I := fun _ w => w.shared.Fits ∧ w.Parking ∧ w.Roused ∧ Covered c w ∧
    w.shared.queue c = shared.queue c ∧ (shared.queue c).policy = .blockTimeout)
    ⟨BoundedIngress.Fits.new hnew, .start shared, fun _ _ => rfl, fun h => absurd rfl h, rfl, hpol'⟩
    ?_ hr
  rintro trace v a l v' ⟨hf, hp, hro, hc, hq, -⟩ hs
  exact ⟨step_fits hf hs, hp.step hs, hro.step hs, hc.step hf hp hro (hq ▸ hpol') hs,
    (step_effect hf hs c).queue.trans hq, hpol'⟩

/-- A push that is rejected although its payload fits found the queue full. -/
theorem full_of_rejected (hf : w.shared.Fits) {a : Action Tid}
    (h : step horizon w a = some (l, w')) {t : Tid} (hret : l.returned = some (t, c, .rejected))
    {packet : IngressPacket} (hpacket : (w.threads t).packet = some packet)
    (hfits : (w.shared.queue c).payloadTooLarge packet = false) :
    (w.shared.queues c).items.length = (w.shared.queue c).capacity := by
  have hcap := Nat.le_trans (hf c).depth (hf c).highWaterMark
  cases (step_returned h hret).2 with
  | refused hpc ho => cases ho
  | pushed hp ha =>
    obtain ⟨big, late, hdec, hbig, -, -⟩ := hp.decided ha
    rw [hp.packet_eq, hp.packet_some] at hpacket
    cases hpacket
    have hsmall : ¬big = true := by
      intro hb
      rw [hbig hb] at hfits
      cases hfits
    exact Nat.le_antisymm hcap (hdec.2.resolve_left hsmall).1

/-- **No lost wake-up and no unjustified rejection** on a queue that makes producers wait.  While
a producer is parked there are at most as many free slots as producers that were woken and have
not taken the lock again; a payload that fits is rejected only by a full queue; and `try_enqueue`
is never parked before it returns. -/
theorem no_lost_wakeup {config : IngressConfig} (hnew : BoundedIngress.new config = .ok shared)
    (hpol : config.policy c = .blockTimeout)
    (hr : Run (step horizon) (World.start shared : World Tid) trace w) :
    ((∃ t, (w.threads t).parkedOn = some c) →
      ((config.effectiveCapacity c - (w.shared.queues c).items.length : ℕ) : ℕ∞) ≤
        {t | (w.threads t).wokenOn = some c}.encard) ∧
    (∀ a l w' t packet, step horizon w a = some (l, w') → l.returned = some (t, c, .rejected) →
      (w.threads t).packet = some packet → (w.shared.queue c).payloadTooLarge packet = false →
      (w.shared.queues c).items.length = config.effectiveCapacity c) ∧
    ∀ t cls packet more w', w.threads t = .entered cls packet .never →
      Run (step horizon) w more w' → (∀ v ∈ Run.visited w more, v.threads t ≠ .idle) →
      (w'.threads t).parkedOn = none := by
  obtain ⟨hf, hp, -, hc, hqueue, -⟩ := run_covered hnew hpol hr
  have hcap : (w.shared.queue c).capacity = config.effectiveCapacity c := by
    rw [hqueue]
    obtain ⟨hv, rfl⟩ := BoundedIngress.new_eq_ok hnew
    rfl
  refine ⟨?_, ?_, ?_⟩
  · rintro ⟨t, ht⟩
    have hwait : w.waiters c ≠ [] := List.ne_nil_of_mem ((hp.mem c t).2 ht)
    obtain ⟨ws, hnodup, hws, hle⟩ := hc hwait
    rw [← hcap]
    exact encard_of_list hnodup hws hle
  · intro a l w' t packet hs hret hpacket hfits
    rw [← hcap]
    exact full_of_rejected hf hs hret hpacket hfits
  · intro t cls packet more w' ht hmore hpending
    have hn : Pc.Never (w.threads t) := by
      rw [ht]
      rfl
    exact (run_never hn hmore hpending).parkedOn

/-- A single control slot that producers wait for. -/
def oneSlot : IngressConfig :=
  { IngressConfig.tinyFixture with
    controlCapacity := 1, controlPolicy := .blockTimeout, blockTimeoutMs := 5 }

def oneSlotStart : World (Fin 3) := .start ⟨oneSlot, by decide, fun _ => .new, false⟩

theorem oneSlot_new : BoundedIngress.new oneSlot = .ok oneSlotStart.shared := rfl

/-- Two producers wait for the slot; the pop that frees it wakes one of them. -/
theorem no_lost_wakeup_two_waiters :
    ∃ (trace : List (Label (Fin 3) × World (Fin 3))) (w : World (Fin 3)),
      Run (step 1000000000) oneSlotStart trace w ∧ (w.threads 2).parkedOn = some .control ∧
        (1 : ℕ∞) ≤ {t | (w.threads t).wokenOn = some .control}.encard := by
  have hrun : (Run.exec (step 1000000000)
      (pushActions 0 .control .default .honorPolicy ++ pushActions 1 .control .default .honorPolicy ++
        pushActions 2 .control .default .honorPolicy ++ [.pop 0 .control (some 1)])
      ([], oneSlotStart)).map (fun r => ((r.2.threads 2).parkedOn,
        oneSlot.effectiveCapacity .control - (r.2.shared.queues .control).items.length)) =
      some (some .control, 1) := by
    decide +kernel
  obtain ⟨⟨trace, w⟩, hx, hm⟩ := Option.map_eq_some_iff.1 hrun
  injection hm with hparked hfree
  have hr := Run.of_exec .refl hx
  have hcovered := (no_lost_wakeup oneSlot_new rfl hr).1 ⟨2, hparked⟩
  rw [hfree] at hcovered
  exact ⟨trace, w, hr, hparked, hcovered⟩

end World

end Brainstem.Ingress
