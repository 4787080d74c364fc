import Brainstem.Ingress.Parking

/-!
# A producer that races shutdown

`shutdown` stores the shared flag and then closes the queues one after the other.  A producer
that loaded the flag before the store is not stopped by it: while some queues are closed and
others are still open, it lands on an open one (`Exposed`).  This is the only way for a packet
to be accepted after another class was closed.

    no step of the run is Exposed  ↔  no step accepts after another class closed
-/

namespace Brainstem.Ingress

namespace World

variable {Tid : Type} {horizon : Instant} {w w' : World Tid} {l : Label Tid} {a : Action Tid}
  {shared : BoundedIngress} {trace : List ((Action Tid × Label Tid) × World Tid)}

/-! ## Exposed producers -/

/-- The queue of `c` has a place for one more packet, or makes one. -/
def Takes (w : World Tid) (c : MessageClass) : Prop :=
  (w.shared.queues c).items.length < (w.shared.queue c).capacity ∨
    (w.shared.queue c).policy = .dropOldest ∨ (w.shared.queue c).policy = .coalesce

/-- Thread `t` has loaded the shared flag unset and brings a packet that its queue takes; that
queue is still open although another class is closed. -/
def Exposed (w : World Tid) (t : Tid) : Prop :=
  ∃ c, (w.shared.queues c).closed = false ∧ (∃ c', c' ≠ c ∧ (w.shared.queues c').closed = true) ∧
    w.Takes c ∧
    ((∃ packet deadline, w.threads t = .locking c packet deadline ∧
        (w.shared.queue c).payloadTooLarge packet = false) ∨
      ∃ packet deadline since timedOut, w.threads t = .woken c packet deadline since timedOut ∧
        (timedOut = true → (w.shared.queues c).items.length < (w.shared.queue c).capacity))

/-- No packet is accepted into a class after another class was closed. -/
def AcceptsNoLater (w : World Tid) (l : Label Tid) : Prop :=
  ∀ c c' o, c' ≠ c → (w.shared.queues c').closed = true → l.outcome c = some o →
    o.isAccepted = false

theorem outcome_eq_some {c : MessageClass} {o : EnqueueOutcome} :
    l.outcome c = some o ↔ ∃ t, l.returned = some (t, c, o) := by
  unfold Label.outcome
  constructor
  · intro h
    split at h
    · next t cls o' hret =>
      split at h
      · next hc =>
        cases h
        exact ⟨t, by rw [hret, hc]⟩
      · cases h
    · cases h
  · rintro ⟨t, h⟩
    rw [h]
    exact if_pos rfl

variable [DecidableEq Tid]

/-- What is accepted after another class closed was brought by an exposed thread. -/
theorem exposed_of_accepted (h : step horizon w a = some (l, w')) {c c' : MessageClass}
    {o : EnqueueOutcome} (hne : c' ≠ c) (hclosed : (w.shared.queues c').closed = true)
    (ho : l.outcome c = some o) (hacc : o.isAccepted = true) :
    ∃ t, a = .lock t ∧ w.Exposed t := by
  obtain ⟨t, hret⟩ := outcome_eq_some.1 ho
  obtain ⟨ha, hreturns⟩ := step_returned h hret
  refine ⟨t, ha, ?_⟩
  cases hreturns with
  | refused hpc ho =>
    subst ho
    cases hacc
  | pushed hp hdone =>
    obtain ⟨big, late, hdec, -, hfirst, hagain⟩ := hp.decided hdone
    have hfacts : (w.shared.queues c).closed = false ∧ big = false ∧ w.Takes c ∧
        (late = true → (w.shared.queues c).items.length < (w.shared.queue c).capacity) := by
      cases o with
      | accepted depth => exact ⟨hdec.1, hdec.2.1, .inl hdec.2.2, fun _ => hdec.2.2⟩
      | droppedOldest depth =>
        exact ⟨hdec.1, hdec.2.1, .inr (.inl hdec.2.2.1), hdec.2.2.2.2⟩
      | coalesced depth => exact ⟨hdec.1, hdec.2.1, .inr (.inr hdec.2.2.1), hdec.2.2.2⟩
      | rejected => cases hacc
      | shutdown => cases hacc
    obtain ⟨hopen, hbig, htakes, hlate⟩ := hfacts
    refine ⟨c, hopen, ⟨c', hne, hclosed⟩, htakes, ?_⟩
    cases hp with
    | first hpc =>
      rw [(hfirst hpc).1] at hbig
      exact .inl ⟨_, _, hpc, hbig⟩
    | again hpc =>
      rw [(hagain _ _ hpc).2] at hlate
      exact .inr ⟨_, _, _, _, hpc, hlate⟩

/-- An exposed thread that takes the lock is accepted. -/
theorem accepted_of_exposed {t : Tid} (h : step horizon w (.lock t) = some (l, w'))
    (he : w.Exposed t) : ¬w.AcceptsNoLater l := by
  obtain ⟨c, hopen, ⟨c', hne, hclosed⟩, htakes, hpc⟩ := he
  have hpush : ∃ packet deadline st, w.Pushes t c packet deadline st ∧ l = (w.perform t st).1 ∧
      (w.threads t = .locking c packet deadline ∧
          (w.shared.queue c).payloadTooLarge packet = false ∨
        ∃ since timedOut, w.threads t = .woken c packet deadline since timedOut ∧
          (timedOut = true → (w.shared.queues c).items.length < (w.shared.queue c).capacity)) := by
    rcases hpc with ⟨packet, deadline, hpc, hsmall⟩ | ⟨packet, deadline, since, timedOut, hpc, hlate⟩
    · simp only [step, hpc] at h
      exact ⟨packet, deadline, _, .first hpc, (congrArg Prod.fst (Option.some.inj h)).symm,
        .inl ⟨hpc, hsmall⟩⟩
    · simp only [step, hpc] at h
      exact ⟨packet, deadline, _, .again hpc, (congrArg Prod.fst (Option.some.inj h)).symm,
        .inr ⟨since, timedOut, hpc, hlate⟩⟩
  obtain ⟨packet, deadline, st, hp, hl, hpc⟩ := hpush
  -- the payload fits, and a producer that timed out finds room
  have hfits : ∀ r, w.shared.attempt st = some r → ∃ late, BoundedQueue.Attempt.Decided
      (w.shared.queue c) (w.shared.queues c) deadline false late r ∧
      (late = true → (w.shared.queues c).items.length < (w.shared.queue c).capacity) := by
    intro r hr
    obtain ⟨big, late, hdec, -, hfirst, hagain⟩ := hp.decided hr
    rcases hpc with ⟨hpc, hsmall⟩ | ⟨since, timedOut, hpc, hlate⟩
    · obtain ⟨hbig, hl⟩ := hfirst hpc
      rw [hsmall] at hbig
      subst hbig hl
      exact ⟨false, hdec, fun h => absurd h Bool.false_ne_true⟩
    · obtain ⟨hbig, hl⟩ := hagain _ _ hpc
      subst hbig hl
      exact ⟨late, hdec, hlate⟩
  have hfull : (w.shared.queue c).capacity ≤ (w.shared.queues c).items.length →
      (w.shared.queue c).policy = .dropOldest ∨ (w.shared.queue c).policy = .coalesce := by
    intro hfull
    exact htakes.resolve_left (Nat.not_lt.2 hfull)
  rcases BoundedIngress.attempt_of_packet hp.packet_some with ⟨o, q, hr⟩ | ⟨q, hr⟩
  · obtain ⟨late, hdec, hlate⟩ := hfits _ hr
    have hout : l.outcome c = some o := by
      rw [hl, perform_outcome]
      exact (BoundedIngress.seen_of_done hp.cls_eq hp.packet_some hr).1
    intro hno
    have hrefused := hno c c' o hne hclosed hout
    cases o with
    | accepted depth => cases hrefused
    | droppedOldest depth => cases hrefused
    | coalesced depth => cases hrefused
    | rejected =>
      obtain ⟨hq, hwhy⟩ := hdec.2.resolve_left Bool.false_ne_true
      rcases hwhy with hlt | hp | hp
      · exact Nat.not_lt.2 hq (hlate hlt)
      · rcases hfull hq with h | h <;> rw [hp] at h <;> cases h
      · rcases hfull hq with h | h <;> rw [hp] at h <;> cases h
    | shutdown =>
      rw [show (w.shared.queues c).closed = true from hdec] at hopen
      cases hopen
  · obtain ⟨late, ⟨-, -, hp, hq, -⟩, -⟩ := hfits _ hr
    rcases hfull hq with h | h <;> rw [hp] at h <;> cases h

/-- **When shutdown is atomic across classes.**  In any run no packet is accepted into a class
after another class was closed, exactly if no producer takes a lock while it is exposed. -/
theorem shutdown_atomic_iff (hr : Run (Run.logged (step horizon)) (World.start shared) trace w) :
    Run.Each (fun v b _ => ∀ t, b.1 = .lock t → ¬v.Exposed t) (World.start shared) trace ↔
      Run.Each (fun v b _ => v.AcceptsNoLater b.2) (World.start shared) trace := by
  refine Run.Each.congr (Run.each (I := fun _ => True) trivial (fun _ _ _ _ _ _ => trivial) ?_ hr).2
  rintro v a ⟨b, l⟩ v' - hs
  obtain ⟨rfl, hs⟩ := Run.logged_eq_some.1 hs
  constructor
  · intro hno c c' o hne hclosed ho
    by_contra hacc
    rw [Bool.not_eq_false] at hacc
    obtain ⟨t, ht, hexposed⟩ := exposed_of_accepted hs hne hclosed ho hacc
    exact hno t ht hexposed
  · rintro hno t ht hexposed
    dsimp only at ht hno
    subst ht
    exact accepted_of_exposed hs hexposed hno

/-- The race: a producer loads the flag, `shutdown` stores it and closes the first queue, and
the producer lands on the last one. -/
def raceActions : List (Action Bool) :=
  [.call true .telemetry .default .never, .loadFlag true, .readClock true,
    .shutdown false, .shutdown false, .lock true]

theorem shutdown_not_atomic :
    ∃ (trace : List ((Action Bool × Label Bool) × World Bool)) (w : World Bool),
      Run (Run.logged (step 1000)) tiny trace w ∧
        ¬Run.Each (fun v b _ => v.AcceptsNoLater b.2) tiny trace := by
  have hrun : ((Run.exec (Run.logged (step 1000)) (raceActions.take 5) ([], tiny)).map
      fun r => ((r.2.shared.queues .sensory).closed,
        (Run.logged (step 1000) r.2 (.lock true)).map fun e => e.1.2.outcome .telemetry)) =
      some (true, some (some (.accepted 1))) := by
    decide +kernel
  obtain ⟨⟨trace, v⟩, hx, hm⟩ := Option.map_eq_some_iff.1 hrun
  injection hm with hclosed hlast
  obtain ⟨⟨b, w⟩, hs, hout⟩ := Option.map_eq_some_iff.1 hlast
  have hr := Run.of_exec .refl hx
  refine ⟨trace ++ [(b, w)], w, hr.snoc _ hs, fun heach => ?_⟩
  have hlate := ((Run.each_concat _ _).1 heach).2
  rw [Run.last_eq hr] at hlate
  exact absurd (hlate .telemetry .sensory _ (by decide) hclosed hout) (by decide)

/-- A shutdown that no producer races is atomic. -/
theorem shutdown_atomic_iff_quiet :
    ∃ (trace : List ((Action Bool × Label Bool) × World Bool)) (w : World Bool),
      Run (Run.logged (step 1000)) tiny trace w ∧
        (∀ c ∈ MessageClass.ALL, (w.shared.queues c).closed = true) ∧
        Run.Each (fun v b _ => v.AcceptsNoLater b.2) tiny trace := by
  have hrun : ((Run.exec (Run.logged (step 1000)) (List.replicate 6 (.shutdown false))
      ([], tiny)).map fun r => (r.1.map fun e => e.1.1,
        MessageClass.ALL.map fun c => (r.2.shared.queues c).closed)) =
      some (List.replicate 6 (.shutdown false), List.replicate 4 true) := by
    decide +kernel
  obtain ⟨⟨trace, w⟩, hx, hm⟩ := Option.map_eq_some_iff.1 hrun
  injection hm with hactions hclosed
  have hnolock : ∀ e ∈ trace, e.1.1 = .shutdown false := by
    intro e he
    have hmem : e.1.1 ∈ List.replicate 6 (Action.shutdown false) :=
      hactions ▸ List.mem_map_of_mem he
    exact List.eq_of_mem_replicate hmem
  have hr := Run.of_exec .refl hx
  refine ⟨trace, w, hr, fun c hc => ?_, (shutdown_atomic_iff hr).1 ?_⟩
  · have hmem : (w.shared.queues c).closed ∈ List.replicate 4 true :=
      hclosed ▸ List.mem_map_of_mem hc
    exact List.eq_of_mem_replicate hmem
  · have heach : Run.Each (fun _ b _ => b.1 = .shutdown false) tiny trace :=
      Run.each_of_labels tiny hnolock
    refine heach.imp ?_
    rintro v ⟨b, l⟩ v' hb t ht
    dsimp only at hb ht
    rw [hb] at ht
    cases ht

end World

end Brainstem.Ingress
