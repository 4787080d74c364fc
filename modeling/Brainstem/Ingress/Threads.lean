import Brainstem.Ingress.Bounded
import Brainstem.Lib.Run
import Mathlib.Data.List.Nodup

/-!
# Threads on the shared queues

Any number of threads use clones of one handle.  `World.step` interleaves their atomic
steps: loads of the shared flag, clock readings, critical sections, waits and wake-ups on
the `not_full` condition variable of a queue, and the passing of time.  Nobody waits on
`not_empty`, so it is left out.

Condition variable: `notify_one` wakes one parked waiter if there is one, `notify_all` all
of them; a parked waiter may also wake for no reason, or time out from its deadline on.

    step w a = some (l, w')  →  w' shares what one atomic step made of it  (step_shared)
-/

namespace Brainstem.Ingress

/-- The stages of `drain_for_tick`. -/
inductive DrainStage where
  | reward
  | sensory
  | telemetry
  deriving DecidableEq, Repr

/-- Where a thread is. -/
inductive Pc where
  | idle
  /-- in `push`, before the load of the shared flag -/
  | entered (cls : MessageClass) (packet : IngressPacket) (wait : WaitMode)
  /-- saw the flag set -/
  | refusing (cls : MessageClass)
  /-- saw the flag unset, before the clock reading for the deadline -/
  | admitted (cls : MessageClass) (packet : IngressPacket) (wait : WaitMode)
  | locking (cls : MessageClass) (packet : IngressPacket) (deadline : Option Instant)
  | parked (cls : MessageClass) (packet : IngressPacket) (deadline : Option Instant)
      (since : Instant)
  /-- woke up, before it has the lock again -/
  | woken (cls : MessageClass) (packet : IngressPacket) (deadline : Option Instant)
      (since : Instant) (timedOut : Bool)
  | draining (stage : DrainStage)
  | closing (rest : List MessageClass)
  deriving DecidableEq, Repr

def Pc.unpark (timedOut : Bool) : Pc → Pc
  | .parked cls packet deadline since => .woken cls packet deadline since timedOut
  | pc => pc

structure World (Tid : Type) where
  shared : BoundedIngress
  now : Instant
  threads : Tid → Pc
  /-- the wait sets of the condition variables -/
  waiters : MessageClass → List Tid

/-- What a step lets the callers see: a push that returned, packets that were handed out. -/
structure Label (Tid : Type) where
  returned : Option (Tid × MessageClass × EnqueueOutcome)
  handed : Option (Tid × MessageClass × List IngressPacket)
  deriving DecidableEq, Repr

namespace Label

variable {Tid : Type}

def silent : Label Tid := ⟨none, none⟩

/-- The outcome returned to a producer of class `c`. -/
def outcome (l : Label Tid) (c : MessageClass) : Option EnqueueOutcome :=
  match l.returned with
  | some (_, cls, o) => if cls = c then some o else none
  | none => none

/-- The packets of class `c` that were handed out. -/
def taken (l : Label Tid) (c : MessageClass) : List IngressPacket :=
  match l.handed with
  | some (_, cls, packets) => if cls = c then packets else []
  | none => []

end Label

inductive Action (Tid : Type) where
  | pass (ns : ℕ)
  | call (t : Tid) (cls : MessageClass) (packet : IngressPacket) (wait : WaitMode)
  | loadFlag (t : Tid)
  | readClock (t : Tid)
  /-- takes the lock of a queue and runs the critical section -/
  | lock (t : Tid)
  /-- a parked thread wakes without being notified -/
  | wake (t : Tid) (timedOut : Bool)
  /-- `next` is the waiter that is notified -/
  | pop (t : Tid) (cls : MessageClass) (next : Option Tid)
  /-- begins `drain_for_tick`, or goes on with it -/
  | drain (t : Tid) (next : Option Tid)
  /-- begins `shutdown`, or goes on with it -/
  | shutdown (t : Tid)
  deriving DecidableEq, Repr

namespace World

variable {Tid : Type} [DecidableEq Tid]

/-- A fresh ingress, and threads that have not called anything. -/
def start (shared : BoundedIngress) : World Tid := ⟨shared, 0, fun _ => .idle, fun _ => []⟩

def setPc (w : World Tid) (t : Tid) (pc : Pc) : World Tid :=
  { w with threads := Function.update w.threads t pc }

/-- Makes an atomic step; the label says what it let `t` see. -/
def perform (w : World Tid) (t : Tid) (st : BoundedIngress.Step) : Label Tid × World Tid :=
  (⟨match st.cls, w.shared.attempt st with
      | some cls, some (.done o _) => some (t, cls, o)
      | _, _ => none,
    st.cls.map fun cls => (t, cls, w.shared.handedOut st)⟩,
    { w with shared := w.shared.perform st })

/-- `not_full.notify_one()`. -/
def notifyOne (w : World Tid) (cls : MessageClass) (next : Option Tid) : Option (World Tid) :=
  match next with
  | none => if w.waiters cls = [] then some w else none
  | some u =>
    if u ∈ w.waiters cls then
      some { w with
        threads := Function.update w.threads u ((w.threads u).unpark false)
        waiters := Function.update w.waiters cls ((w.waiters cls).erase u) }
    else none

/-- `not_full.notify_all()`. -/
def notifyAll (w : World Tid) (cls : MessageClass) : World Tid :=
  { w with
    threads := fun t => if t ∈ w.waiters cls then (w.threads t).unpark false else w.threads t
    waiters := Function.update w.waiters cls [] }

/-- A critical section of `push`, and where it leaves the thread. -/
def pushStep (w : World Tid) (t : Tid) (cls : MessageClass) (packet : IngressPacket)
    (deadline : Option Instant) (st : BoundedIngress.Step) : Label Tid × World Tid :=
  let w' := (w.perform t st).2
  ((w.perform t st).1,
    match w.shared.attempt st with
    | some (.park _) =>
      { w'.setPc t (.parked cls packet deadline w.now) with
        waiters := Function.update w.waiters cls (t :: w.waiters cls) }
    | _ => w'.setPc t .idle)

/-- `pop`; an empty queue notifies nobody. -/
def popStep (w : World Tid) (t : Tid) (cls : MessageClass) (next : Option Tid) (pc : Pc) :
    Option (Label Tid × World Tid) :=
  let (l, w') := w.perform t (.pop cls)
  let w' := w'.setPc t pc
  if w.shared.handedOut (.pop cls) = [] then
    if next = none then some (l, w') else none
  else (w'.notifyOne cls next).map fun w' => (l, w')

def drainAllStep (w : World Tid) (t : Tid) (cls : MessageClass) (pc : Pc) :
    Label Tid × World Tid :=
  let (l, w') := w.perform t (.drainAll cls)
  let w' := w'.setPc t pc
  (l, if w.shared.handedOut (.drainAll cls) = [] then w' else w'.notifyAll cls)

def step (horizon : Instant) (w : World Tid) : Action Tid → Option (Label Tid × World Tid)
  | .pass ns => some (.silent, { w with now := w.now + ns })
  | .call t cls packet wait =>
    match w.threads t with
    | .idle => some (.silent, w.setPc t (.entered cls packet wait))
    | _ => none
  | .loadFlag t =>
    match w.threads t with
    | .entered cls packet wait =>
      some (.silent,
        w.setPc t (if w.shared.shuttingDown then .refusing cls else .admitted cls packet wait))
    | _ => none
  | .readClock t =>
    match w.threads t with
    | .admitted cls packet wait =>
      some (.silent,
        w.setPc t (.locking cls packet ((w.shared.queue cls).deadline horizon wait w.now)))
    | _ => none
  | .lock t =>
    match w.threads t with
    | .refusing cls =>
      let (l, w') := w.perform t (.refuse cls)
      some (l, w'.setPc t .idle)
    | .locking cls packet deadline =>
      some (w.pushStep t cls packet deadline (.push cls packet deadline w.now))
    | .woken cls packet deadline since timedOut =>
      some (w.pushStep t cls packet deadline
        (.resume cls packet deadline timedOut (w.now - since) w.now))
    | _ => none
  | .wake t timedOut =>
    match w.threads t with
    | .parked cls _ deadline _ =>
      if timedOut && !deadline.any (· ≤ w.now) then none
      else
        some (.silent,
          { w.setPc t ((w.threads t).unpark timedOut) with
            waiters := Function.update w.waiters cls ((w.waiters cls).erase t) })
    | _ => none
  | .pop t cls next =>
    match w.threads t with
    | .idle => w.popStep t cls next .idle
    | _ => none
  | .drain t next =>
    match w.threads t with
    | .idle => if next = none then some (w.drainAllStep t .control (.draining .reward)) else none
    | .draining .reward => w.popStep t .reward next (.draining .sensory)
    | .draining .sensory => w.popStep t .sensory next (.draining .telemetry)
    | .draining .telemetry => if next = none then some (w.drainAllStep t .telemetry .idle) else none
    | _ => none
  | .shutdown t =>
    match w.threads t with
    | .idle =>
      let (l, w') := w.perform t .storeFlag
      some (l, w'.setPc t (.closing MessageClass.byIndex))
    | .closing (cls :: rest) =>
      let (l, w') := w.perform t (.close cls)
      some (l, (w'.setPc t (.closing rest)).notifyAll cls)
    | .closing [] => some (.silent, w.setPc t .idle)
    | _ => none

/-! ## What a step can do -/

/-- `us`, which wait on `cls`, are notified. -/
def unparkAll (w : World Tid) (cls : MessageClass) (us : List Tid) : World Tid :=
  { w with
    threads := fun u => if u ∈ us then (w.threads u).unpark false else w.threads u
    waiters := Function.update w.waiters cls ((w.waiters cls).diff us) }

/-- A thread goes on by itself, without a lock. -/
inductive Proceeds (horizon : Instant) (w : World Tid) (t : Tid) : Action Tid → Pc → Prop where
  | call (cls : MessageClass) (packet : IngressPacket) (wait : WaitMode)
      (hpc : w.threads t = .idle) :
      Proceeds horizon w t (.call t cls packet wait) (.entered cls packet wait)
  | refused {cls : MessageClass} {packet : IngressPacket} {wait : WaitMode}
      (hpc : w.threads t = .entered cls packet wait) (hflag : w.shared.shuttingDown = true) :
      Proceeds horizon w t (.loadFlag t) (.refusing cls)
  | admitted {cls : MessageClass} {packet : IngressPacket} {wait : WaitMode}
      (hpc : w.threads t = .entered cls packet wait) (hflag : w.shared.shuttingDown = false) :
      Proceeds horizon w t (.loadFlag t) (.admitted cls packet wait)
  | clock {cls : MessageClass} {packet : IngressPacket} {wait : WaitMode}
      (hpc : w.threads t = .admitted cls packet wait) :
      Proceeds horizon w t (.readClock t)
        (.locking cls packet ((w.shared.queue cls).deadline horizon wait w.now))
  | closed (hpc : w.threads t = .closing []) : Proceeds horizon w t (.shutdown t) .idle

/-- The critical section of a push that `t` is about to run. -/
inductive Pushes (w : World Tid) (t : Tid) (cls : MessageClass) (packet : IngressPacket)
    (deadline : Option Instant) : BoundedIngress.Step → Prop where
  | first (hpc : w.threads t = .locking cls packet deadline) :
      Pushes w t cls packet deadline (.push cls packet deadline w.now)
  | again {since : Instant} {timedOut : Bool}
      (hpc : w.threads t = .woken cls packet deadline since timedOut) :
      Pushes w t cls packet deadline (.resume cls packet deadline timedOut (w.now - since) w.now)

/-- An atomic step of `t` that notifies nobody, and where it leaves `t`. -/
inductive Quiet (w : World Tid) (t : Tid) : Action Tid → BoundedIngress.Step → Pc → Prop where
  | refuse {cls : MessageClass} (hpc : w.threads t = .refusing cls) :
      Quiet w t (.lock t) (.refuse cls) .idle
  | push {cls : MessageClass} {packet : IngressPacket} {deadline : Option Instant}
      {st : BoundedIngress.Step} {o : EnqueueOutcome} {q : QueueState}
      (hp : w.Pushes t cls packet deadline st) (ha : w.shared.attempt st = some (.done o q)) :
      Quiet w t (.lock t) st .idle
  | storeFlag (hpc : w.threads t = .idle) :
      Quiet w t (.shutdown t) .storeFlag (.closing MessageClass.byIndex)

/-- Where a thread pops from a class, and where it is then. -/
inductive PopsAt (t : Tid) (next : Option Tid) : Action Tid → Pc → MessageClass → Pc → Prop where
  | call (cls : MessageClass) : PopsAt t next (.pop t cls next) .idle cls .idle
  | reward : PopsAt t next (.drain t next) (.draining .reward) .reward (.draining .sensory)
  | sensory : PopsAt t next (.drain t next) (.draining .sensory) .sensory (.draining .telemetry)

inductive DrainsAt : Pc → MessageClass → Pc → Prop where
  | control : DrainsAt .idle .control (.draining .reward)
  | telemetry : DrainsAt (.draining .telemetry) .telemetry .idle

/-- An atomic step of `t` on `cls` that notifies `us`, and where it leaves `t`. -/
inductive Notifies (w : World Tid) (t : Tid) (cls : MessageClass) :
    Action Tid → BoundedIngress.Step → Pc → List Tid → Prop where
  | pop {a : Action Tid} {pc : Pc} {us : List Tid} {next : Option Tid}
      (hpc : PopsAt t next a (w.threads t) cls pc)
      (hus : (w.shared.handedOut (.pop cls) = [] ∨ w.waiters cls = []) ∧ us = [] ∨
        ∃ u ∈ w.waiters cls, us = [u]) : Notifies w t cls a (.pop cls) pc us
  | drainAll {pc : Pc} {us : List Tid} (hpc : DrainsAt (w.threads t) cls pc)
      (hus : us = if w.shared.handedOut (.drainAll cls) = [] then [] else w.waiters cls) :
      Notifies w t cls (.drain t none) (.drainAll cls) pc us
  | close {rest : List MessageClass} (hpc : w.threads t = .closing (cls :: rest)) :
      Notifies w t cls (.shutdown t) (.close cls) (.closing rest) (w.waiters cls)

/-- Everything one step can do. -/
inductive Acts (horizon : Instant) (w : World Tid) (a : Action Tid) (l : Label Tid)
    (w' : World Tid) : Prop where
  | pass (ns : ℕ) (ha : a = .pass ns) (hl : l = .silent) (hw : w' = { w with now := w.now + ns })
  | proceed (t : Tid) (pc : Pc) (hp : Proceeds horizon w t a pc) (hl : l = .silent)
      (hw : w' = w.setPc t pc)
  | wake (t : Tid) (cls : MessageClass) (packet : IngressPacket) (deadline : Option Instant)
      (since : Instant) (timedOut : Bool)
      (ha : a = .wake t timedOut) (hpc : w.threads t = .parked cls packet deadline since)
      (hdue : timedOut = true → deadline.any (· ≤ w.now) = true) (hl : l = .silent)
      (hw : w' = { w.setPc t (.woken cls packet deadline since timedOut) with
        waiters := Function.update w.waiters cls ((w.waiters cls).erase t) })
  | quiet (t : Tid) (st : BoundedIngress.Step) (pc : Pc) (hq : w.Quiet t a st pc)
      (hl : l = (w.perform t st).1) (hw : w' = (w.perform t st).2.setPc t pc)
  | park (t : Tid) (cls : MessageClass) (packet : IngressPacket) (deadline : Option Instant)
      (st : BoundedIngress.Step) (q : QueueState) (hlock : a = .lock t)
      (hp : w.Pushes t cls packet deadline st) (ha : w.shared.attempt st = some (.park q)) (hl : l = (w.perform t st).1)
      (hw : w' = { (w.perform t st).2.setPc t (.parked cls packet deadline w.now) with
        waiters := Function.update w.waiters cls (t :: w.waiters cls) })
  | notify (t : Tid) (cls : MessageClass) (st : BoundedIngress.Step) (pc : Pc) (us : List Tid)
      (hn : w.Notifies t cls a st pc us) (hl : l = (w.perform t st).1)
      (hw : w' = ((w.perform t st).2.setPc t pc).unparkAll cls us)

variable {horizon : Instant} {w w' : World Tid} {l : Label Tid}

@[simp] theorem unparkAll_nil (w : World Tid) (cls : MessageClass) : w.unparkAll cls [] = w := by
  simp [unparkAll]

theorem diff_self (us : List Tid) : us.diff us = [] := by
  induction us with
  | nil => rfl
  | cons u us ih => rw [List.diff_cons, List.erase_cons_head, ih]

theorem notifyAll_eq (w : World Tid) (cls : MessageClass) :
    w.notifyAll cls = w.unparkAll cls (w.waiters cls) := by
  rw [notifyAll, unparkAll, diff_self]

theorem notifyOne_eq {w₁ w₂ : World Tid} {cls : MessageClass} {next : Option Tid}
    (h : w₁.notifyOne cls next = some w₂) :
    ∃ us, w₂ = w₁.unparkAll cls us ∧
      (w₁.waiters cls = [] ∧ us = [] ∨ ∃ u ∈ w₁.waiters cls, us = [u]) := by
  unfold notifyOne at h
  split at h
  · split at h
    · next hnone =>
      cases h
      exact ⟨[], (unparkAll_nil _ _).symm, .inl ⟨hnone, rfl⟩⟩
    · cases h
  · next u =>
    split at h
    · next hu =>
      cases h
      refine ⟨[u], ?_, .inr ⟨u, hu, rfl⟩⟩
      simp only [unparkAll, List.mem_singleton, List.diff_cons, List.diff_nil]
      congr 1
      funext x
      by_cases hx : x = u
      · rw [hx, Function.update_self, if_pos rfl]
      · rw [Function.update_of_ne hx, if_neg hx]
    · cases h

theorem pushStep_acts {t : Tid} {cls : MessageClass} {packet : IngressPacket}
    {deadline : Option Instant} {st : BoundedIngress.Step} (hp : w.Pushes t cls packet deadline st)
    (h : some (w.pushStep t cls packet deadline st) = some (l, w')) : Acts horizon w (.lock t) l w' := by
  obtain ⟨hl, hw⟩ := Prod.ext_iff.1 (Option.some.inj h)
  have hdone : ∃ r, w.shared.attempt st = some r := by
    cases hp <;> exact ⟨_, rfl⟩
  obtain ⟨r, hr⟩ := hdone
  unfold pushStep at hw
  cases r with
  | done o q => exact .quiet t st .idle (.push hp hr) hl.symm (by simpa [hr] using hw.symm)
  | park q => exact .park t cls packet deadline st q rfl hp hr hl.symm (by simpa [hr] using hw.symm)

theorem popStep_acts {t : Tid} {cls : MessageClass} {next : Option Tid} {pc : Pc} {a : Action Tid}
    (hpc : PopsAt t next a (w.threads t) cls pc) (h : w.popStep t cls next pc = some (l, w')) :
    Acts horizon w a l w' := by
  unfold popStep at h
  simp only at h
  split at h
  · next hempty =>
    split at h
    · cases h
      exact .notify t cls _ pc [] (.pop hpc (.inl ⟨.inl hempty, rfl⟩)) rfl (unparkAll_nil _ _).symm
    · cases h
  · rw [Option.map_eq_some_iff] at h
    obtain ⟨w₂, hn, hw⟩ := h
    cases hw
    obtain ⟨us, rfl, hus⟩ := notifyOne_eq hn
    refine .notify t cls _ pc us (.pop hpc ?_) rfl rfl
    rcases hus with ⟨hnone, rfl⟩ | ⟨u, hu, rfl⟩
    · exact .inl ⟨.inr hnone, rfl⟩
    · exact .inr ⟨u, hu, rfl⟩

theorem drainAllStep_acts {t : Tid} {cls : MessageClass} {pc : Pc}
    (hpc : DrainsAt (w.threads t) cls pc) :
    Acts horizon w (.drain t none) (w.drainAllStep t cls pc).1 (w.drainAllStep t cls pc).2 := by
  refine .notify t cls (.drainAll cls) pc _ (.drainAll hpc rfl) rfl ?_
  unfold drainAllStep
  simp only
  split
  · exact (unparkAll_nil _ _).symm
  · rw [notifyAll_eq]
    rfl

/-- The one case analysis of `step`. -/
theorem step_acts {a : Action Tid} (h : step horizon w a = some (l, w')) :
    Acts horizon w a l w' := by
  cases a with
  | pass ns =>
    cases h
    exact .pass ns rfl rfl rfl
  | call t cls packet wait =>
    simp only [step] at h
    split at h <;> cases h
    next hpc => exact .proceed t _ (.call cls packet wait hpc) rfl rfl
  | loadFlag t =>
    simp only [step] at h
    split at h <;> cases h
    next hpc =>
      cases hflag : w.shared.shuttingDown with
      | true => exact .proceed t _ (.refused hpc hflag) rfl (by rw [if_pos rfl])
      | false => exact .proceed t _ (.admitted hpc hflag) rfl (by rw [if_neg Bool.false_ne_true])
  | readClock t =>
    simp only [step] at h
    split at h <;> cases h
    next hpc => exact .proceed t _ (.clock hpc) rfl rfl
  | lock t =>
    simp only [step] at h
    split at h
    · next hpc =>
      cases h
      exact .quiet t _ _ (.refuse hpc) rfl rfl
    · next hpc => exact pushStep_acts (.first hpc) h
    · next hpc => exact pushStep_acts (.again hpc) h
    · cases h
  | wake t timedOut =>
    simp only [step] at h
    split at h
    · next cls packet deadline since hpc =>
      split at h <;> cases h
      next hearly =>
      refine .wake t cls packet deadline since timedOut rfl hpc (fun ht => ?_) rfl (by rw [hpc]; rfl)
      simpa [ht] using hearly
    · cases h
  | pop t cls next =>
    simp only [step] at h
    split at h
    · next hpc => exact popStep_acts (by rw [hpc]; exact .call cls) h
    · cases h
  | drain t next =>
    simp only [step] at h
    split at h
    · next hpc =>
      split at h <;> cases h
      next hnext =>
        subst hnext
        exact drainAllStep_acts (by rw [hpc]; exact .control)
    · next hpc => exact popStep_acts (by rw [hpc]; exact .reward) h
    · next hpc => exact popStep_acts (by rw [hpc]; exact .sensory) h
    · next hpc =>
      split at h <;> cases h
      next hnext =>
        subst hnext
        exact drainAllStep_acts (by rw [hpc]; exact .telemetry)
    · cases h
  | shutdown t =>
    simp only [step] at h
    split at h <;> cases h
    · next hpc => exact .quiet t _ _ (.storeFlag hpc) rfl rfl
    · next cls rest hpc =>
      refine .notify t cls _ _ _ (.close hpc) rfl ?_
      rw [notifyAll_eq]
      rfl
    · next hpc => exact .proceed t _ (.closed hpc) rfl rfl

/-! ## What a step shares -/

/-- The shared state after a step, and what the step lets be seen: nothing happened to it, or
some thread made one atomic step. -/
inductive Shares (w : World Tid) (l : Label Tid) (w' : World Tid) : Prop where
  | silent (hl : l = .silent) (hs : w'.shared = w.shared)
  | atomic (t : Tid) (st : BoundedIngress.Step) (hl : l = (w.perform t st).1)
      (hs : w'.shared = w.shared.perform st)

theorem step_shared {a : Action Tid} (h : step horizon w a = some (l, w')) : Shares w l w' := by
  cases step_acts h with
  | pass ns ha hl hw => exact .silent hl (by rw [hw])
  | proceed t pc hp hl hw => exact .silent hl (by rw [hw]; rfl)
  | wake t cls packet deadline since timedOut ha hpc hdue hl hw => exact .silent hl (by rw [hw]; rfl)
  | quiet t st pc hq hl hw => exact .atomic t st hl (by rw [hw]; rfl)
  | park t cls packet deadline st q hlock hp ha hl hw => exact .atomic t st hl (by rw [hw]; rfl)
  | notify t cls st pc us hn hl hw => exact .atomic t st hl (by rw [hw]; rfl)

omit [DecidableEq Tid] in
theorem perform_outcome (w : World Tid) (t : Tid) (st : BoundedIngress.Step) (c : MessageClass) :
    (w.perform t st).1.outcome c = w.shared.outcome st c := by
  unfold Label.outcome perform BoundedIngress.outcome
  cases hc : st.cls with
  | none => simp
  | some cls =>
    rcases ha : w.shared.attempt st with _ | (⟨o, q⟩ | q) <;> simp

omit [DecidableEq Tid] in
theorem perform_taken (w : World Tid) (t : Tid) (st : BoundedIngress.Step) (c : MessageClass) :
    (w.perform t st).1.taken c = w.shared.takenFrom st c := by
  unfold Label.taken perform BoundedIngress.takenFrom
  cases hc : st.cls with
  | none => simp
  | some cls => simp

/-! ## Who returns -/

/-- The ways a producer of class `c` returns `o`: it saw the shared flag, or its own push ended. -/
inductive Returns (w : World Tid) (t : Tid) (c : MessageClass) (o : EnqueueOutcome) : Prop where
  | refused (hpc : w.threads t = .refusing c) (ho : o = .shutdown)
  | pushed {packet : IngressPacket} {deadline : Option Instant} {st : BoundedIngress.Step}
      {q : QueueState} (hp : w.Pushes t c packet deadline st)
      (ha : w.shared.attempt st = some (.done o q))

omit [DecidableEq Tid] in
theorem returned_perform {t : Tid} {st : BoundedIngress.Step} {r : Tid × MessageClass × EnqueueOutcome}
    (h : (w.perform t st).1.returned = some r) :
    st.cls = some r.2.1 ∧ r.1 = t ∧ ∃ q, w.shared.attempt st = some (.done r.2.2 q) := by
  unfold perform at h
  dsimp only at h
  split at h
  · next cls o q hc ha =>
    cases h
    exact ⟨hc, rfl, q, ha⟩
  · cases h

theorem step_returned {a : Action Tid} (h : step horizon w a = some (l, w')) {t : Tid}
    {c : MessageClass} {o : EnqueueOutcome} (hret : l.returned = some (t, c, o)) :
    a = .lock t ∧ w.Returns t c o := by
  have hsilent : l = .silent → False := by
    rintro rfl
    cases hret
  cases step_acts h with
  | pass ns ha hl hw => exact (hsilent hl).elim
  | proceed u pc hm hl hw => exact (hsilent hl).elim
  | wake u cls packet deadline since timedOut ha hpc hdue hl hw => exact (hsilent hl).elim
  | quiet u st pc hq hl hw =>
    subst hl
    obtain ⟨hc, hu, q, ha⟩ := returned_perform hret
    cases hu
    cases hq with
    | refuse hpc =>
      cases hc
      cases ha
      exact ⟨rfl, .refused hpc rfl⟩
    | push hp hdone =>
      cases hp with
      | first hpc =>
        cases hc
        exact ⟨rfl, .pushed (.first hpc) ha⟩
      | again hpc =>
        cases hc
        exact ⟨rfl, .pushed (.again hpc) ha⟩
    | storeFlag hpc => cases ha
  | park u cls packet deadline st q hlock hp ha hl hw =>
    subst hl
    obtain ⟨-, -, q', hdone⟩ := returned_perform hret
    rw [ha] at hdone
    cases hdone
  | notify u cls st pc us hn hl hw =>
    subst hl
    obtain ⟨-, -, q, ha⟩ := returned_perform hret
    cases hn <;> cases ha

/-! ## Small runs -/

/-- Two threads and the fresh queues of `tiny_fixture`. -/
def tiny : World Bool := .start ⟨.tinyFixture, IngressConfig.validate_tinyFixture, fun _ => .new, false⟩

theorem tiny_new : BoundedIngress.new .tinyFixture = .ok tiny.shared := rfl

/-- A push that nothing interrupts. -/
def pushActions (t : Tid) (cls : MessageClass) (packet : IngressPacket) (wait : WaitMode) :
    List (Action Tid) :=
  [.call t cls packet wait, .loadFlag t, .readClock t, .lock t]

end World

end Brainstem.Ingress
