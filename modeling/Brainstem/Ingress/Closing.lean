import Brainstem.Ingress.Parking
import Brainstem.Ingress.Conservation

/-!
# Closed for good

When `shutdown` returns every queue is closed.  From then on a push can only be refused,
nobody is parked, and consumers get what is queued, in order:

    delivered after the return ++ items  =  items at the return
-/

namespace Brainstem.Ingress

namespace World

variable {Tid : Type} {horizon : Instant} {w w' : World Tid} {l : Label Tid} {a : Action Tid}

/-! ## What a consumer is due -/

/-- What a consumer's action hands out of the queue of `c`. -/
def due (w : World Tid) (c : MessageClass) : Action Tid → List IngressPacket
  | .pop _ cls _ => if cls = c then (w.shared.queues c).items.head?.toList else []
  | .drain t _ =>
    match w.threads t with
    | .idle => if c = .control then (w.shared.queues c).items else []
    | .draining .reward => if c = .reward then (w.shared.queues c).items.head?.toList else []
    | .draining .sensory => if c = .sensory then (w.shared.queues c).items.head?.toList else []
    | .draining .telemetry => if c = .telemetry then (w.shared.queues c).items else []
    | _ => []
  | _ => []

theorem takenFrom_pop (s : BoundedIngress) (cls c : MessageClass) :
    s.takenFrom (.pop cls) c = if cls = c then (s.queues c).items.head?.toList else [] := by
  by_cases hc : cls = c
  · subst hc
    rw [if_pos rfl]
    exact if_pos rfl
  · rw [if_neg hc]
    exact if_neg fun h => hc (Option.some.inj h)

theorem takenFrom_drainAll (s : BoundedIngress) (cls c : MessageClass) :
    s.takenFrom (.drainAll cls) c = if c = cls then (s.queues c).items else [] := by
  by_cases hc : c = cls
  · subst hc
    rw [if_pos rfl]
    exact if_pos rfl
  · rw [if_neg hc]
    exact if_neg fun h => hc (Option.some.inj h).symm

variable [DecidableEq Tid]

/-- Every step hands out exactly what is due. -/
theorem taken_eq_due (h : step horizon w a = some (l, w')) (c : MessageClass) :
    l.taken c = w.due c a := by
  have hnone : ∀ {st : BoundedIngress.Step}, (∀ cls, st ≠ .pop cls ∧ st ≠ .drainAll cls) →
      w.shared.takenFrom st c = [] := by
    intro st hst
    unfold BoundedIngress.takenFrom
    split
    · cases st with
      | pop cls => exact absurd rfl (hst cls).1
      | drainAll cls => exact absurd rfl (hst cls).2
      | _ => rfl
    · rfl
  cases step_acts h with
  | pass ns ha hl hw =>
    subst ha hl
    rfl
  | proceed t pc hm hl hw =>
    subst hl
    cases hm <;> rfl
  | wake t cls packet deadline since timedOut ha hpc hdue hl hw =>
    subst ha hl
    rfl
  | quiet t st pc hq hl hw =>
    subst hl
    rw [perform_taken]
    cases hq with
    | refuse hpc => exact hnone fun cls => ⟨by simp, by simp⟩
    | push hp ha =>
      refine hnone fun cls => ?_
      cases hp <;> simp
    | storeFlag hpc => exact hnone fun cls => ⟨by simp, by simp⟩
  | park t cls packet deadline st q hlock hp ha hl hw =>
    subst hlock hl
    rw [perform_taken]
    refine hnone fun cls => ?_
    cases hp <;> simp
  | notify t cls st pc us hn hl hw =>
    subst hl
    rw [perform_taken]
    cases hn with
    | pop hpc hus =>
      rw [takenFrom_pop]
      generalize hbefore : w.threads t = before at hpc
      cases hpc with
      | call cls => rfl
      | reward =>
        simp only [due, hbefore]
        cases c <;> rfl
      | sensory =>
        simp only [due, hbefore]
        cases c <;> rfl
    | drainAll hpc hus =>
      rw [takenFrom_drainAll]
      generalize hbefore : w.threads t = before at hpc
      cases hpc with
      | control => simp only [due, hbefore]
      | telemetry => simp only [due, hbefore]
    | close hpc => exact hnone fun cls => ⟨by simp, by simp⟩

end World

/-! ## Closed queues -/

namespace BoundedIngress

/-- What a step does to a closed queue: it hands packets out, or counts a refusal. -/
structure OnClosed (o : Option EnqueueOutcome) (packets : List IngressPacket) (q q' : QueueState) :
    Prop where
  outcome : ∀ o', o = some o' → o' = .shutdown
  items : q.items = packets ++ q'.items
  shutdownRefused : q'.shutdownRefused = q.shutdownRefused + if o.isSome then 1 else 0
  others : q'.accepted = q.accepted ∧ q'.rejected = q.rejected ∧ q'.dropped = q.dropped ∧
    q'.coalesced = q.coalesced

theorem outcome_of_closed {s : BoundedIngress} {c : MessageClass}
    (hclosed : (s.queues c).closed = true) (st : Step) :
    s.outcome st c = none ∨ s.outcome st c = some .shutdown := by
  by_cases hc : st.cls = some c
  · cases hp : st.packet with
    | some packet =>
      rcases attempt_of_packet (s := s) hp with ⟨o, q, ha⟩ | ⟨q, ha⟩
      · obtain ⟨deadline, big, late, hdec⟩ := attempt_decided hc hp ha
        rw [(seen_of_done hc hp ha).1]
        right
        cases o with
        | shutdown => rfl
        | _ =>
          have hopen : (s.queues c).closed = false := hdec.1
          rw [hclosed] at hopen
          cases hopen
      · exact .inl (seen_of_park ha).1
    | none =>
      unfold outcome
      rw [if_pos hc]
      cases st with
      | refuse cls => exact .inr rfl
      | push cls packet deadline now => cases hp
      | resume cls packet deadline timedOut elapsed now => cases hp
      | _ => exact .inl rfl
  · exact .inl (if_neg hc)

theorem perform_onClosed {s : BoundedIngress} (hf : s.Fits) {c : MessageClass}
    (hclosed : (s.queues c).closed = true) (st : Step) :
    OnClosed (s.outcome st c) (s.takenFrom st c) (s.queues c) ((s.perform st).queues c) := by
  have hsec := perform_section hf st c
  obtain ⟨hin, hout⟩ := s.events_spec st c
  have hcases := outcome_of_closed hclosed st
  have hno : (s.outcome st c).any (·.isAccepted) = false := by
    rcases hcases with h | h <;> rw [h] <;> rfl
  have hleft : Fifo.left (s.events st c) = (s.takenFrom st c).map fun p => (.taken, p) := by
    rw [hout]
    rcases hcases with h | h <;> rw [h] <;> rfl
  have hentered : Fifo.entered (s.events st c) = [] := by
    rw [hin, hno]
    rfl
  have hcount : ∀ r : Leave, r ≠ .taken → Fifo.leftCount (· == r) (s.events st c) = 0 := by
    intro r hr
    unfold Fifo.leftCount
    rw [hleft, List.filter_map, List.length_map, List.length_eq_zero_iff, List.filter_eq_nil_iff]
    intro p _
    cases r <;> simp_all
  refine ⟨fun o ho => ?_, ?_, ?_, ?_, ?_, ?_, ?_⟩
  · rcases hcases with h | h <;> rw [h] at ho <;> cases ho
    rfl
  · have hledger := hsec.moves.runs.ledger
    have hpackets : (Prod.snd ∘ fun p : IngressPacket => (Leave.taken, p)) = id := rfl
    rw [hentered, hleft, List.append_nil, List.map_map, hpackets, List.map_id] at hledger
    exact hledger
  · rw [hsec.tally.shutdownRefused]
    rcases hcases with h | h <;> rw [h] <;> rfl
  · rw [hsec.tally.accepted, hno]
    rfl
  · rw [hsec.tally.rejected]
    rcases hcases with h | h <;> rw [h] <;> rfl
  · rw [hsec.moves.dropped, hcount _ (by simp)]
    rfl
  · rw [hsec.moves.coalesced, hcount _ (by simp)]
    rfl

theorem OnClosed.refl (q : QueueState) : OnClosed none [] q q :=
  ⟨fun _ h => (by cases h), rfl, rfl, rfl, rfl, rfl, rfl⟩

end BoundedIngress

namespace World

variable {Tid : Type} {horizon : Instant} {w w' : World Tid} {l : Label Tid} {a : Action Tid}
  {shared : BoundedIngress} {trace : List ((Action Tid × Label Tid) × World Tid)}

/-- What a step does to the closed queue of `c`, and what it lets be seen. -/
structure StepOnClosed (c : MessageClass) (w : World Tid) (a : Action Tid) (l : Label Tid)
    (w' : World Tid) : Prop where
  closed : (w'.shared.queues c).closed = true
  effect : BoundedIngress.OnClosed (l.outcome c) (l.taken c) (w.shared.queues c) (w'.shared.queues c)
  due : l.taken c = w.due c a

/-- Every queue is closed, and what a reachable state keeps besides. -/
structure Closed (w : World Tid) : Prop where
  all : ∀ c, (w.shared.queues c).closed = true
  fits : w.shared.Fits
  parking : w.Parking
  roused : w.Roused

/-- A shutdown that still has `rest` to close has closed the other queues. -/
def ClosesInOrder (w : World Tid) : Prop :=
  ∀ t rest, w.threads t = .closing rest → ∀ c, c ∈ rest ∨ (w.shared.queues c).closed = true

variable [DecidableEq Tid]

theorem step_closed (h : step horizon w a = some (l, w')) {c : MessageClass}
    (hc : (w.shared.queues c).closed = true) : (w'.shared.queues c).closed = true := by
  cases step_shared h with
  | silent hl hs =>
    rw [hs]
    exact hc
  | atomic t st hl hs =>
    rw [hs, BoundedIngress.perform_closed]
    exact .inl hc

omit [DecidableEq Tid] in
theorem Pc.unpark_eq_closing {pc : Pc} {rest : List MessageClass}
    (h : pc.unpark false = .closing rest) : pc = .closing rest := by
  cases pc <;> first | exact h | cases h

omit [DecidableEq Tid] in
theorem PopsAt.not_closing {t : Tid} {next : Option Tid} {before pc : Pc} {cls : MessageClass}
    (hp : PopsAt t next a before cls pc) (rest : List MessageClass) : pc ≠ .closing rest := by
  cases hp <;> simp

omit [DecidableEq Tid] in
theorem DrainsAt.not_closing {before pc : Pc} {cls : MessageClass} (hd : DrainsAt before cls pc)
    (rest : List MessageClass) : pc ≠ .closing rest := by
  cases hd <;> simp

theorem ClosesInOrder.step (hi : w.ClosesInOrder) (h : step horizon w a = some (l, w')) :
    w'.ClosesInOrder := by
  intro u rest hu c
  -- a thread that was already closing with `rest`
  have hold : w.threads u = .closing rest → c ∈ rest ∨ (w'.shared.queues c).closed = true :=
    fun hpc => (hi u rest hpc c).imp_right (step_closed h)
  have hother : ∀ {t : Tid} {pc : Pc}, Function.update w.threads t pc u = .closing rest →
      (∀ rest', pc ≠ .closing rest') → w.threads u = .closing rest := by
    intro t pc hpc hne
    by_cases ht : u = t
    · rw [ht, Function.update_self] at hpc
      exact absurd hpc (hne rest)
    · rwa [Function.update_of_ne ht] at hpc
  cases step_acts h with
  | pass ns ha hl hw =>
    subst hw
    exact hold hu
  | proceed t pc hm hl hw =>
    subst hw
    exact hold (hother hu (by cases hm <;> simp))
  | wake t cls packet deadline since timedOut ha hpc hdue hl hw =>
    subst hw
    exact hold (hother hu (by simp))
  | quiet t st pc hq hl hw =>
    subst hw
    cases hq with
    | refuse hpc => exact hold (hother hu (by simp))
    | push hp ha => exact hold (hother hu (by simp))
    | storeFlag hpc =>
      have hu : Function.update w.threads t (.closing MessageClass.byIndex) u = .closing rest := hu
      by_cases ht : u = t
      · rw [ht, Function.update_self] at hu
        cases hu
        left
        cases c <;> decide
      · rw [Function.update_of_ne ht] at hu
        exact hold hu
  | park t cls packet deadline st q hlock hp ha hl hw =>
    subst hw
    exact hold (hother hu (by simp))
  | notify t cls st pc us hn hl hw =>
    subst hw
    have hmoved : Function.update w.threads t pc u = .closing rest := by
      simp only [unparkAll] at hu
      split at hu
      · exact Pc.unpark_eq_closing hu
      · exact hu
    clear hu
    cases hn with
    | pop hpc hus => exact hold (hother hmoved hpc.not_closing)
    | drainAll hpc hus => exact hold (hother hmoved hpc.not_closing)
    | close hpc =>
      by_cases ht : u = t
      · subst ht
        rw [Function.update_self] at hmoved
        cases hmoved
        rcases hi u _ hpc c with hmem | hclosed
        · rcases List.mem_cons.1 hmem with rfl | hmem
          · exact .inr ((BoundedIngress.perform_closed _ _ _).2 (.inr rfl))
          · exact .inl hmem
        · exact .inr (step_closed h hclosed)
      · rw [Function.update_of_ne ht] at hmoved
        exact hold hmoved

theorem run_closesInOrder {before : List (Label Tid × World Tid)}
    (hr : Run (World.step horizon) (World.start shared : World Tid) before w) : w.ClosesInOrder := by
  refine Run.invariant (I := fun _ w => w.ClosesInOrder) (fun t rest h => ?_) ?_ hr
  · cases h
  · exact fun _ _ _ _ _ hi hs => hi.step hs

/-! ## One step on closed queues -/

theorem Closed.step (hc : w.Closed) (h : World.step horizon w a = some (l, w')) : w'.Closed :=
  ⟨fun c => step_closed h (hc.all c), step_fits hc.fits h, hc.parking.step h, hc.roused.step h⟩

theorem Closed.effect (hc : w.Closed) (h : World.step horizon w a = some (l, w')) (c : MessageClass) :
    StepOnClosed c w a l w' := by
  refine ⟨step_closed h (hc.all c), ?_, taken_eq_due h c⟩
  cases step_shared h with
  | silent hl hs =>
    subst hl
    rw [hs]
    exact .refl _
  | atomic t st hl hs =>
    subst hl
    rw [hs, perform_outcome, perform_taken]
    exact BoundedIngress.perform_onClosed hc.fits (hc.all c) st

omit [DecidableEq Tid] in
theorem Closed.parkedOn (hc : w.Closed) (t : Tid) : (w.threads t).parkedOn = none := by
  cases h : (w.threads t).parkedOn with
  | none => rfl
  | some c =>
    have hmem := (hc.parking.mem c t).2 h
    rw [hc.roused c (hc.all c)] at hmem
    cases hmem

theorem Closed.popStep_isSome (hc : w.Closed) (t : Tid) (cls : MessageClass) (pc : Pc) :
    (w.popStep t cls none pc).isSome = true := by
  have hnone : w.waiters cls = [] := hc.roused cls (hc.all cls)
  unfold popStep
  simp only
  split
  · rfl
  · rw [Option.isSome_map]
    simp only [notifyOne, setPc, perform, hnone, if_true, Option.isSome_some]

/-- A consumer is never held up. -/
theorem Closed.serves (hc : w.Closed) {t : Tid} (ht : w.threads t = .idle) (cls : MessageClass) :
    (World.step horizon w (.pop t cls none)).isSome = true := by
  simp only [World.step, ht]
  exact hc.popStep_isSome t cls .idle

theorem Closed.drains (hc : w.Closed) {t : Tid}
    (ht : w.threads t = .idle ∨ ∃ stage, w.threads t = .draining stage) :
    (World.step horizon w (.drain t none)).isSome = true := by
  rcases ht with ht | ⟨stage, ht⟩
  · simp only [World.step, ht, if_true, Option.isSome_some]
  · cases stage with
    | reward =>
      simp only [World.step, ht]
      exact hc.popStep_isSome t .reward _
    | sensory =>
      simp only [World.step, ht]
      exact hc.popStep_isSome t .sensory _
    | telemetry => simp only [World.step, ht, if_true, Option.isSome_some]

/-- **Shutdown is final and loses nothing.**  From the return of `shutdown` on, whatever the
threads do: a queue only ever shrinks from the front, by what a consumer is due; a push can
only return `Shutdown`, which is counted once and as nothing else; nobody is parked; and what
was handed out, followed by what is queued, is what was queued at the return. -/
theorem shutdown_final {config : IngressConfig} (hnew : BoundedIngress.new config = .ok shared)
    {before : List (Label Tid × World Tid)} {v v' : World Tid} {t : Tid}
    (hbefore : Run (step horizon) (World.start shared) before v) (ht : v.threads t = .closing [])
    (hreturn : step horizon v (.shutdown t) = some (l, v'))
    (hr : Run (Run.logged (step horizon)) v' trace w) :
    (∀ c, Run.Each (fun u b u' => StepOnClosed c u b.1 b.2 u') v' trace) ∧
    (∀ c, Run.collect (fun _ b => b.2.taken c) v' trace ++ (w.shared.queues c).items =
      (v'.shared.queues c).items) ∧
    ∀ u ∈ Run.visited v' trace, (∀ s, (u.threads s).parkedOn = none) ∧
      (∀ s cls, u.threads s = .idle → (step horizon u (.pop s cls none)).isSome = true) ∧
      ∀ s, (u.threads s = .idle ∨ ∃ stage, u.threads s = .draining stage) →
        (step horizon u (.drain s none)).isSome = true := by
  have hfits : v.shared.Fits ∧ v.ClosesInOrder := by
    refine ⟨?_, run_closesInOrder hbefore⟩
    refine Run.invariant (I := fun _ w => w.shared.Fits) (BoundedIngress.Fits.new hnew) ?_ hbefore
    exact fun _ _ _ _ _ hf hs => step_fits hf hs
  obtain ⟨hparking, hroused⟩ := run_parked hbefore
  have hclosed : v.Closed := by
    refine ⟨fun c => ?_, hfits.1, hparking, hroused⟩
    exact (hfits.2 t [] ht c).resolve_left List.not_mem_nil
  have hstart : v'.Closed := hclosed.step hreturn
  have hall : (∀ u ∈ Run.visited v' trace, u.Closed) ∧
      (∀ c, Run.Each (fun u b u' => StepOnClosed c u b.1 b.2 u') v' trace) ∧
      ∀ c, Run.collect (fun _ b => b.2.taken c) v' trace ++ (w.shared.queues c).items =
        (v'.shared.queues c).items := by
    induction hr with
    | refl =>
      refine ⟨fun u hu => ?_, fun _ => trivial, fun _ => rfl⟩
      rw [Run.visited_nil, List.mem_singleton] at hu
      exact hu ▸ hstart
    | snoc a hr hs ih =>
      rename_i trace u u' b
      obtain ⟨hvisited, heach, hitems⟩ := ih
      obtain ⟨b, l⟩ := b
      obtain ⟨rfl, hs⟩ := Run.logged_eq_some.1 hs
      have hlast := Run.last_eq hr
      have hu : u.Closed := by
        refine hvisited u ?_
        cases hr with
        | refl => exact List.mem_cons_self
        | snoc a hr hs => simp
      refine ⟨fun x hx => ?_, fun c => ?_, fun c => ?_⟩
      · rw [Run.visited_concat, List.mem_append, List.mem_singleton] at hx
        rcases hx with hx | rfl
        · exact hvisited x hx
        · exact hu.step hs
      · refine (Run.each_concat _ _).2 ⟨heach c, ?_⟩
        rw [hlast]
        exact hu.effect hs c
      · rw [Run.collect_concat, ← hitems c, (hu.effect hs c).effect.items, List.append_assoc]
  refine ⟨hall.2.1, hall.2.2, fun u hu => ?_⟩
  have hclosed := hall.1 u hu
  exact ⟨hclosed.parkedOn, fun s cls hs => hclosed.serves hs cls, fun s hs => hclosed.drains hs⟩

/-- A packet queued before the shutdown is handed out after it, and a late push is refused. -/
theorem shutdown_final_one_packet :
    ∃ (before : List (Label Bool × World Bool)) (v v' : World Bool) (l : Label Bool)
      (trace : List ((Action Bool × Label Bool) × World Bool)) (w : World Bool),
      Run (step 1000) tiny before v ∧ step 1000 v (.shutdown false) = some (l, v') ∧
      Run (Run.logged (step 1000)) v' trace w ∧
      Run.collect (fun _ b => b.2.taken .control) v' trace = [.default] ∧
      Run.Each (fun u b u' => StepOnClosed .control u b.1 b.2 u') v' trace ∧
      (w.shared.queues .control).shutdownRefused = 1 := by
  have hrun : ((Run.exec (step 1000)
      (pushActions true .control .default .never ++ List.replicate 5 (.shutdown false))
      ([], tiny)).bind fun r => (step 1000 r.2 (.shutdown false)).bind fun e =>
        (Run.exec (Run.logged (step 1000))
          [.call true .control .default .never, .loadFlag true, .lock true, .pop false .control none]
          ([], e.2)).map fun q => (r.2.threads false, (e.2.shared.queues .control).items,
            (q.2.shared.queues .control).items, (q.2.shared.queues .control).shutdownRefused)) =
      some (.closing [], [.default], [], 1) := by
    decide +kernel
  obtain ⟨⟨before, v⟩, hx, hm⟩ := Option.bind_eq_some_iff.1 hrun
  obtain ⟨⟨l, v'⟩, hs, hm⟩ := Option.bind_eq_some_iff.1 hm
  obtain ⟨⟨trace, w⟩, hy, hm⟩ := Option.map_eq_some_iff.1 hm
  injection hm with hthread hm
  injection hm with hitems hm
  injection hm with hempty hrefused
  have hbefore := Run.of_exec .refl hx
  have hr := Run.of_exec .refl hy
  obtain ⟨heach, hledger, -⟩ := shutdown_final tiny_new hbefore hthread hs hr
  have hledger := hledger .control
  rw [show (w.shared.queues .control).items = [] from hempty, List.append_nil,
    show (v'.shared.queues .control).items = [.default] from hitems] at hledger
  exact ⟨before, v, v', l, trace, w, hbefore, hs, hr, hledger, heach .control, hrefused⟩

end World

end Brainstem.Ingress
