import Brainstem.Ingress.Threads

/-!
# Who waits on a queue

The wait set of a queue holds exactly the threads parked on it, each once, and a closed
queue has nobody waiting:

    t ∈ w.waiters c  ↔  (w.threads t).parkedOn = some c
    closed c  →  w.waiters c = []
-/

namespace Brainstem.Ingress

def Pc.parkedOn : Pc → Option MessageClass
  | .parked cls _ _ _ => some cls
  | _ => none

def Pc.wokenOn : Pc → Option MessageClass
  | .woken cls _ _ _ _ => some cls
  | _ => none

theorem Pc.unpark_eq_self {pc : Pc} (h : pc.parkedOn = none) (timedOut : Bool) :
    pc.unpark timedOut = pc := by
  cases pc <;> first | rfl | cases h

theorem Pc.parkedOn_unpark (pc : Pc) (timedOut : Bool) : (pc.unpark timedOut).parkedOn = none := by
  cases pc <;> rfl

theorem Pc.wokenOn_unpark {pc : Pc} {c : MessageClass} (h : pc.parkedOn = some c) (timedOut : Bool) :
    (pc.unpark timedOut).wokenOn = some c := by
  cases pc <;> first | exact h | cases h

theorem Pc.parkedOn_of_wokenOn {pc : Pc} {c : MessageClass} (h : pc.wokenOn = some c) :
    pc.parkedOn = none := by
  cases pc <;> first | rfl | cases h

namespace World

variable {Tid : Type} {horizon : Instant} {w w' : World Tid} {l : Label Tid} {t : Tid} {pc : Pc}
  {cls : MessageClass} {st : BoundedIngress.Step} {shared : BoundedIngress} {a : Action Tid}

/-! ## A thread that acts is not parked -/

theorem Pushes.parkedOn {packet : IngressPacket} {deadline : Option Instant}
    (hp : w.Pushes t cls packet deadline st) : (w.threads t).parkedOn = none := by
  cases hp with
  | first hpc => rw [hpc]; rfl
  | again hpc => rw [hpc]; rfl

theorem Pushes.cls_eq {packet : IngressPacket} {deadline : Option Instant}
    (hp : w.Pushes t cls packet deadline st) : st.cls = some cls := by
  cases hp <;> rfl

theorem Pushes.packet_some {packet : IngressPacket} {deadline : Option Instant}
    (hp : w.Pushes t cls packet deadline st) : st.packet = some packet := by
  cases hp <;> rfl

/-- A push section is decided by the guard it finds; only its first one looks at the payload,
and only a later one can come too late. -/
theorem Pushes.decided {packet : IngressPacket} {deadline : Option Instant} {r : Attempt}
    (hp : w.Pushes t cls packet deadline st) (ha : w.shared.attempt st = some r) :
    ∃ big late, BoundedQueue.Attempt.Decided (w.shared.queue cls) (w.shared.queues cls) deadline big
        late r ∧ (big = true → (w.shared.queue cls).payloadTooLarge packet = true) ∧
      (w.threads t = .locking cls packet deadline →
        big = (w.shared.queue cls).payloadTooLarge packet ∧ late = false) ∧
      ∀ since timedOut, w.threads t = .woken cls packet deadline since timedOut →
        big = false ∧ late = timedOut := by
  cases hp with
  | first hpc =>
    rw [← Option.some.inj ha, hpc]
    refine ⟨_, _, BoundedQueue.pushSection_decided packet deadline w.now, id, fun _ => ⟨rfl, rfl⟩, ?_⟩
    rintro since timedOut ⟨⟩
  | again hpc =>
    rw [← Option.some.inj ha, hpc]
    refine ⟨_, _, BoundedQueue.resumeWait_decided packet deadline _ _ w.now, ?_, ?_, ?_⟩
    · exact fun h => absurd h Bool.false_ne_true
    · rintro ⟨⟩
    · rintro since timedOut ⟨⟩
      exact ⟨rfl, rfl⟩

/-- A push that waits found its queue open, full and of the policy that waits. -/
theorem Pushes.park_decided {packet : IngressPacket} {deadline : Option Instant} {q : QueueState}
    (hp : w.Pushes t cls packet deadline st) (ha : w.shared.attempt st = some (.park q)) :
    (w.shared.queues cls).closed = false ∧ (w.shared.queue cls).policy = .blockTimeout ∧
      (w.shared.queue cls).capacity ≤ (w.shared.queues cls).items.length ∧
      deadline.isSome = true := by
  obtain ⟨big, late, ⟨hopen, -, hpolicy, hfull, hdeadline⟩, -, -, -⟩ := hp.decided ha
  exact ⟨hopen, hpolicy, hfull, hdeadline⟩

theorem Proceeds.parkedOn (hp : Proceeds horizon w t a pc) :
    (w.threads t).parkedOn = none ∧ pc.parkedOn = none := by
  cases hp with
  | call cls packet wait hpc => rw [hpc]; exact ⟨rfl, rfl⟩
  | refused hpc hflag => rw [hpc]; exact ⟨rfl, rfl⟩
  | admitted hpc hflag => rw [hpc]; exact ⟨rfl, rfl⟩
  | clock hpc => rw [hpc]; exact ⟨rfl, rfl⟩
  | closed hpc => rw [hpc]; exact ⟨rfl, rfl⟩

theorem Quiet.parkedOn (hq : w.Quiet t a st pc) :
    (w.threads t).parkedOn = none ∧ pc.parkedOn = none := by
  cases hq with
  | refuse hpc => rw [hpc]; exact ⟨rfl, rfl⟩
  | push hp ha => exact ⟨hp.parkedOn, rfl⟩
  | storeFlag hpc => rw [hpc]; exact ⟨rfl, rfl⟩

theorem PopsAt.parkedOn {before : Pc} {next : Option Tid} (hp : PopsAt t next a before cls pc) :
    before.parkedOn = none ∧ pc.parkedOn = none := by
  cases hp <;> exact ⟨rfl, rfl⟩

theorem DrainsAt.parkedOn {before : Pc} (hp : DrainsAt before cls pc) :
    before.parkedOn = none ∧ pc.parkedOn = none := by
  cases hp <;> exact ⟨rfl, rfl⟩

variable {us : List Tid}

theorem Notifies.parkedOn (hn : w.Notifies t cls a st pc us) :
    (w.threads t).parkedOn = none ∧ pc.parkedOn = none := by
  cases hn with
  | pop hpc hus => exact hpc.parkedOn
  | drainAll hpc hus => exact hpc.parkedOn
  | close hpc => rw [hpc]; exact ⟨rfl, rfl⟩

theorem Notifies.subset (hn : w.Notifies t cls a st pc us) : ∀ u ∈ us, u ∈ w.waiters cls := by
  cases hn with
  | pop hpc hus =>
    rcases hus with ⟨-, rfl⟩ | ⟨u, hu, rfl⟩
    · exact fun u hu => absurd hu List.not_mem_nil
    · intro v hv
      rw [List.mem_singleton] at hv
      exact hv ▸ hu
  | drainAll hpc hus =>
    subst hus
    split
    · exact fun u hu => absurd hu List.not_mem_nil
    · exact fun u hu => hu
  | close hpc => exact fun u hu => hu

/-! ## The wait sets -/

structure Parking (w : World Tid) : Prop where
  nodup : ∀ c, (w.waiters c).Nodup
  mem : ∀ c t, t ∈ w.waiters c ↔ (w.threads t).parkedOn = some c

theorem Parking.start (shared : BoundedIngress) : (World.start shared : World Tid).Parking where
  nodup _ := List.nodup_nil
  mem c t := by simp [World.start, Pc.parkedOn]

variable [DecidableEq Tid]

/-- One thread moved, and it was not and is not parked. -/
theorem Parking.move (hp : w.Parking) (hbefore : (w.threads t).parkedOn = none)
    (hafter : pc.parkedOn = none) (ht : w'.threads = Function.update w.threads t pc)
    (hw : w'.waiters = w.waiters) : w'.Parking := by
  refine ⟨fun c => by rw [hw]; exact hp.nodup c, fun c u => ?_⟩
  rw [hw, hp.mem, ht]
  by_cases hu : u = t
  · rw [hu, Function.update_self, hbefore, hafter]
  · rw [Function.update_of_ne hu]

theorem Parking.unparkAll (hp : w.Parking) (hus : ∀ u ∈ us, u ∈ w.waiters cls) :
    (w.unparkAll cls us).Parking := by
  refine ⟨fun c => ?_, fun c u => ?_⟩
  · by_cases hc : c = cls
    · subst hc
      simp only [World.unparkAll, Function.update_self]
      exact (hp.nodup c).diff
    · simp only [World.unparkAll, Function.update_of_ne hc]
      exact hp.nodup c
  · have hthread : ((w.unparkAll cls us).threads u).parkedOn = some c ↔
        u ∉ us ∧ (w.threads u).parkedOn = some c := by
      simp only [World.unparkAll]
      split
      · next hu => simp [Pc.parkedOn_unpark, hu]
      · next hu => simp [hu]
    rw [hthread]
    by_cases hc : c = cls
    · subst hc
      simp only [World.unparkAll, Function.update_self]
      rw [(hp.nodup c).mem_sdiff_iff, hp.mem, and_comm]
    · simp only [World.unparkAll, Function.update_of_ne hc]
      rw [hp.mem]
      refine ⟨fun h => ⟨fun hu => ?_, h⟩, And.right⟩
      have hother := (hp.mem cls u).1 (hus u hu)
      rw [h] at hother
      exact hc (Option.some.inj hother)

theorem Parking.wake (hp : w.Parking) {packet : IngressPacket} {deadline : Option Instant}
    {since : Instant} {timedOut : Bool} (hpc : w.threads t = .parked cls packet deadline since)
    (ht : w'.threads = Function.update w.threads t (.woken cls packet deadline since timedOut))
    (hw : w'.waiters = Function.update w.waiters cls ((w.waiters cls).erase t)) : w'.Parking := by
  refine ⟨fun c => ?_, fun c u => ?_⟩
  · rw [hw]
    by_cases hc : c = cls
    · rw [hc, Function.update_self]
      exact (hp.nodup cls).erase t
    · rw [Function.update_of_ne hc]
      exact hp.nodup c
  · have hbefore : ∀ d, (w.threads t).parkedOn = some d → d = cls := by
      rw [hpc]
      rintro d ⟨⟩
      rfl
    rw [hw, ht]
    by_cases hu : u = t
    · subst hu
      rw [Function.update_self]
      refine ⟨fun h => ?_, fun h => by cases h⟩
      by_cases hc : c = cls
      · rw [hc, Function.update_self] at h
        exact absurd h (hp.nodup cls).not_mem_erase
      · rw [Function.update_of_ne hc, hp.mem] at h
        exact absurd (hbefore c h) hc
    · rw [Function.update_of_ne hu, ← hp.mem]
      by_cases hc : c = cls
      · rw [hc, Function.update_self, List.mem_erase_of_ne hu]
      · rw [Function.update_of_ne hc]

theorem Parking.park (hp : w.Parking) {packet : IngressPacket} {deadline : Option Instant}
    {since : Instant} (hbefore : (w.threads t).parkedOn = none)
    (ht : w'.threads = Function.update w.threads t (.parked cls packet deadline since))
    (hw : w'.waiters = Function.update w.waiters cls (t :: w.waiters cls)) : w'.Parking := by
  have hnot : ∀ c, t ∉ w.waiters c := by
    intro c h
    rw [hp.mem, hbefore] at h
    cases h
  refine ⟨fun c => ?_, fun c u => ?_⟩
  · rw [hw]
    by_cases hc : c = cls
    · rw [hc, Function.update_self]
      exact List.nodup_cons.2 ⟨hnot cls, hp.nodup cls⟩
    · rw [Function.update_of_ne hc]
      exact hp.nodup c
  · rw [hw, ht]
    by_cases hu : u = t
    · subst hu
      rw [Function.update_self]
      by_cases hc : c = cls
      · subst hc
        rw [Function.update_self]
        exact ⟨fun _ => rfl, fun _ => List.mem_cons_self⟩
      · rw [Function.update_of_ne hc]
        refine ⟨fun h => absurd h (hnot c), fun h => ?_⟩
        exact absurd (Option.some.inj h).symm hc
    · rw [Function.update_of_ne hu, ← hp.mem]
      by_cases hc : c = cls
      · rw [hc, Function.update_self, List.mem_cons]
        exact ⟨fun h => h.resolve_left hu, .inr⟩
      · rw [Function.update_of_ne hc]

theorem Parking.step (hp : w.Parking) {a : Action Tid} (h : step horizon w a = some (l, w')) :
    w'.Parking := by
  cases step_acts h with
  | pass ns _ hl hw =>
    subst hw
    exact ⟨hp.nodup, hp.mem⟩
  | proceed t pc hm hl hw => exact hp.move hm.parkedOn.1 hm.parkedOn.2 (by rw [hw]; rfl) (by rw [hw]; rfl)
  | wake t cls packet deadline since timedOut _ hpc hdue hl hw =>
    exact hp.wake hpc (by rw [hw]; rfl) (by rw [hw])
  | quiet t st pc hq hl hw =>
    exact hp.move hq.parkedOn.1 hq.parkedOn.2 (by rw [hw]; rfl) (by rw [hw]; rfl)
  | park t cls packet deadline st q _ hpush ha hl hw =>
    exact hp.park hpush.parkedOn (by rw [hw]; rfl) (by rw [hw])
  | notify t cls st pc us hn hl hw =>
    have hmoved : ((w.perform t st).2.setPc t pc).Parking :=
      hp.move hn.parkedOn.1 hn.parkedOn.2 rfl rfl
    rw [hw]
    exact hmoved.unparkAll hn.subset

/-! ## Closed queues -/

omit [DecidableEq Tid] in
/-- Nobody waits on a closed queue. -/
def Roused (w : World Tid) : Prop :=
  ∀ c, (w.shared.queues c).closed = true → w.waiters c = []

theorem Roused.step (hr : w.Roused) {a : Action Tid} (h : step horizon w a = some (l, w')) :
    w'.Roused := by
  intro c hclosed
  cases step_acts h with
  | pass ns _ hl hw =>
    subst hw
    exact hr c hclosed
  | proceed t pc hm hl hw =>
    subst hw
    exact hr c hclosed
  | wake t cls packet deadline since timedOut _ hpc hdue hl hw =>
    subst hw
    have hnone : w.waiters c = [] := hr c hclosed
    by_cases hc : c = cls
    · subst hc
      simp [hnone]
    · simpa [Function.update_of_ne hc] using hnone
  | quiet t st pc hq hl hw =>
    subst hw
    have hbefore : (w.shared.queues c).closed = true := by
      have hcl : ((w.shared.perform st).queues c).closed = true := hclosed
      rw [BoundedIngress.perform_closed] at hcl
      refine hcl.resolve_right ?_
      rintro rfl
      cases hq with
      | push hp ha => cases hp
    exact hr c hbefore
  | park t cls packet deadline st q _ hp ha hl hw =>
    subst hw
    have hcl : ((w.shared.perform st).queues c).closed = true := hclosed
    rw [BoundedIngress.perform_closed] at hcl
    have hbefore : (w.shared.queues c).closed = true := by
      refine hcl.resolve_right ?_
      rintro rfl
      cases hp
    by_cases hc : c = cls
    · -- a push does not wait on a closed queue
      rw [hc, (hp.park_decided ha).1] at hbefore
      cases hbefore
    · simpa [Function.update_of_ne hc] using hr c hbefore
  | notify t cls st pc us hn hl hw =>
    subst hw
    have hcl : ((w.shared.perform st).queues c).closed = true := hclosed
    rw [BoundedIngress.perform_closed] at hcl
    simp only [World.unparkAll]
    by_cases hc : c = cls
    · subst hc
      rw [Function.update_self]
      rcases hcl with hbefore | rfl
      · show (w.waiters c).diff us = []
        rw [hr c hbefore, List.nil_diff]
      · cases hn with
        | close hpc => exact diff_self _
    · rw [Function.update_of_ne hc]
      rcases hcl with hbefore | rfl
      · exact hr c hbefore
      · cases hn with
        | close hpc => exact absurd rfl hc

theorem run_parked {trace : List (Label Tid × World Tid)}
    (hr : Run (World.step horizon) (World.start shared : World Tid) trace w) :
    w.Parking ∧ w.Roused := by
  refine Run.invariant (I := fun _ w => w.Parking ∧ w.Roused) ⟨.start shared, fun c hc => ?_⟩ ?_ hr
  · rfl
  · exact fun trace v a l v' hi hs => ⟨hi.1.step hs, hi.2.step hs⟩

end World

end Brainstem.Ingress
