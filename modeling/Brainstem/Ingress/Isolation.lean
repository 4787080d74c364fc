import Brainstem.Ingress.Calls

/-!
# The classes are isolated from each other

`share c a` is what is left of a call when everything about the other classes is deleted.
What class `c` gives back in a run, and what its queue holds at the end, is what it gives
back and holds in the run of the shares; the wait times depend on the clock, nothing else
does.  Between two drains the ledger of the control queue accounts for every packet:

    accepted .control answers = gone ++ packets                       (classes_isolated)

with `packets` what the drain hands out and `gone` what was popped or evicted before it.
-/

namespace Brainstem.Ingress

open Unwinding

/-- The part of a call that is about class `c`. -/
def Call.share (c : MessageClass) : Call → List Call
  | .enqueue cls packet clock => if cls = c then [.enqueue cls packet clock] else []
  | .tryEnqueue cls packet => if cls = c then [.tryEnqueue cls packet] else []
  | .pop cls => if cls = c then [.pop cls] else []
  | .admitBackendPacket packet =>
    ((BoundedIngress.admitParts packet).filter fun part => part.1 = c).map
      fun part => .tryEnqueue part.1 part.2
  | .drainForTick => [.drainClass c]
  | .drainClass cls => if cls = c then [.drainClass cls] else []

/-- The call without what it sees of the clock. -/
def Call.untimed : Call → Call
  | .enqueue cls packet _ => .enqueue cls packet .zero
  | other => other

namespace BoundedIngress

variable {horizon : Instant} {s t s' t' : BoundedIngress} {c : MessageClass} {answers : Exchanges}

/-! ## One class sees its own calls only -/

theorem SameFor.refl (c : MessageClass) (s : BoundedIngress) : SameFor c s s := ⟨rfl, rfl, rfl⟩

theorem SameFor.setQueue_ne (h : SameFor c s t) {cls : MessageClass} (hne : cls ≠ c)
    (q : QueueState) : SameFor c (s.setQueue cls q) t where
  queue := h.queue
  queues := by
    rw [BoundedIngress.setQueue_ne s q (Ne.symm hne)]
    exact h.queues
  shuttingDown := h.shuttingDown

theorem SameFor.setQueue (h : SameFor c s t) (q : QueueState) :
    SameFor c (s.setQueue c q) (t.setQueue c q) where
  queue := h.queue
  queues := by rw [setQueue_self, setQueue_self]
  shuttingDown := h.shuttingDown

theorem push_same (h : SameFor c s t) {packet : IngressPacket} {wait : WaitMode} {clock : Clock}
    {o : EnqueueOutcome} (hp : s.push horizon c packet wait clock = some (o, s')) :
    ∃ t', t.push horizon c packet wait clock = some (o, t') ∧ SameFor c s' t' := by
  obtain ⟨q, rfl, hq⟩ := push_eq_some.1 hp
  refine ⟨t.setQueue c q, push_eq_some.2 ⟨q, rfl, ?_⟩, h.setQueue q⟩
  rw [h.queue, h.queues, h.shuttingDown]
  exact hq

theorem push_other (h : SameFor c s t) {cls : MessageClass} (hne : cls ≠ c) {packet : IngressPacket}
    {wait : WaitMode} {clock : Clock} {o : EnqueueOutcome}
    (hp : s.push horizon cls packet wait clock = some (o, s')) : SameFor c s' t := by
  obtain ⟨q, rfl, -⟩ := push_eq_some.1 hp
  exact h.setQueue_ne hne q

/-- A push, with the other classes deleted: it is made if it is one on class `c`. -/
theorem pushCall_separates {cls : MessageClass} {packet : IngressPacket} {wait : WaitMode}
    {clock : Clock} {e : Exchanges × BoundedIngress} (h : SameFor c s t)
    (hp : s.pushCall horizon cls packet wait clock = some e) :
    if cls = c then ∃ t', t.pushCall horizon cls packet wait clock = some (heard c e.1, t') ∧
      SameFor c e.2 t' else heard c e.1 = [] ∧ SameFor c e.2 t := by
  unfold pushCall at hp
  rw [Option.map_eq_some_iff] at hp
  obtain ⟨⟨o, s'⟩, ho, rfl⟩ := hp
  split
  · next hc =>
    subst hc
    obtain ⟨t', ht', hsame⟩ := push_same h ho
    refine ⟨t', ?_, hsame⟩
    unfold pushCall
    rw [ht', heard_self]
    rfl
  · next hc => exact ⟨heard_ne hc _, push_other h hc ho⟩

/-- A take from one queue, with the other classes deleted. -/
theorem take_separates {cls : MessageClass} (h : SameFor c s t) (answer : QueueState → Exchange)
    (rest : QueueState → QueueState) :
    if cls = c then ∃ t',
      some (([(cls, answer (t.queues cls))], t.setQueue cls (rest (t.queues cls))) :
        Exchanges × BoundedIngress) = some (heard c [(cls, answer (s.queues cls))], t') ∧
      SameFor c (s.setQueue cls (rest (s.queues cls))) t'
    else heard c [(cls, answer (s.queues cls))] = [] ∧
      SameFor c (s.setQueue cls (rest (s.queues cls))) t := by
  split
  · next hc =>
    subst hc
    rw [h.queues, heard_self]
    exact ⟨_, rfl, h.setQueue _⟩
  · next hc => exact ⟨heard_ne hc _, h.setQueue_ne hc _⟩

/-- A call that is its own share, or leaves none. -/
theorem exec_share {α : Type} {step : BoundedIngress → α → Option (Exchanges × BoundedIngress)}
    {a : α} {cls : MessageClass} {e : Exchanges × BoundedIngress}
    (h : if cls = c then ∃ t', step t a = some (heard c e.1, t') ∧ SameFor c e.2 t'
      else heard c e.1 = [] ∧ SameFor c e.2 t) :
    ∃ r, Run.exec step (if cls = c then [a] else []) ([], t) = some r ∧
      said r.1 = heard c e.1 ∧ SameFor c e.2 r.2 := by
  by_cases hc : cls = c
  · rw [if_pos hc] at h
    obtain ⟨t', ht', hsame⟩ := h
    rw [if_pos hc]
    refine ⟨([(heard c e.1, t')], t'), Run.exec_cons_eq_some.2 ⟨_, _, ht', rfl, rfl⟩, ?_, hsame⟩
    simp
  · rw [if_neg hc] at h
    rw [if_neg hc]
    exact ⟨([], t), rfl, h.1.symm, h.2⟩

/-- The parts of a backend packet. -/
theorem partCall_separates (horizon : Instant) (c : MessageClass) :
    Separates (partCall horizon) c (fun part => if part.1 = c then [part] else []) (SameFor c) :=
  fun _ _ _ _ hsame h => exec_share (pushCall_separates hsame h)

theorem filter_eq_flatMap {α : Type} (p : α → Prop) [DecidablePred p] (l : List α) :
    (l.filter fun a => p a) = l.flatMap fun a => if p a then [a] else [] := by
  induction l with
  | nil => rfl
  | cons a l ih =>
    rw [List.flatMap_cons, ← ih]
    by_cases h : p a
    · simp [h]
    · simp [h]

theorem drainForTick_answers (horizon : Instant) (s : BoundedIngress) (c : MessageClass)
    {e : Exchanges × BoundedIngress} (h : s.call horizon .drainForTick = some e) :
    heard c e.1 = [(c, drainExchange c (s.queues c))] ∧ e.2.queues c = drained c (s.queues c) ∧
      e.2.queue c = s.queue c ∧ e.2.shuttingDown = s.shuttingDown := by
  cases h
  have hdrain := drainForTick_nobody s
  refine ⟨?_, drainForTick_nobody_queues s c, rfl, rfl⟩
  simp only [hdrain]
  cases c <;> rfl

/-- **One call.** -/
theorem call_separates (horizon : Instant) (c : MessageClass) :
    Separates (call horizon) c (Call.share c) (SameFor c) := by
  intro s t a e hsame h
  cases a with
  | enqueue cls packet clock => exact exec_share (pushCall_separates hsame h)
  | tryEnqueue cls packet => exact exec_share (pushCall_separates hsame h)
  | pop cls =>
    cases h
    exact exec_share (take_separates hsame (fun q => .popped (BoundedQueue.pop q).1)
      fun q => (BoundedQueue.pop q).2)
  | admitBackendPacket packet =>
    obtain ⟨r, hr, rfl⟩ := Option.map_eq_some_iff.1 h
    obtain ⟨r', hr', hsaid, hend⟩ := (partCall_separates horizon c).run hsame hr
    refine ⟨r', ?_, hsaid, hend⟩
    rw [← filter_eq_flatMap fun part : MessageClass × IngressPacket => part.1 = c] at hr'
    rw [Call.share, Run.exec_map]
    exact hr'
  | drainForTick =>
    obtain ⟨hheard, hq, hqueue, hsd⟩ := drainForTick_answers horizon s c h
    refine ⟨_, Run.exec_cons_eq_some.2 ⟨_, _, rfl, rfl, rfl⟩, ?_, ?_, ?_, ?_⟩
    · rw [hheard, hsame.queues]
      simp
    · rw [hqueue]
      exact hsame.queue
    · rw [hq, ← hsame.queues]
      exact setQueue_self _ _ _
    · rw [hsd]
      exact hsame.shuttingDown
  | drainClass cls =>
    cases h
    exact exec_share (take_separates hsame (drainExchange cls) (drained cls))

/-! ## The clock -/

/-- `s` and `t` differ in their wait times at most. -/
structure SameUntimed (s t : BoundedIngress) : Prop where
  queue : ∀ c, t.queue c = s.queue c
  queues : ∀ c, (t.queues c).untimed = (s.queues c).untimed
  shuttingDown : t.shuttingDown = s.shuttingDown

theorem SameUntimed.refl (s : BoundedIngress) : SameUntimed s s := ⟨fun _ => rfl, fun _ => rfl, rfl⟩

theorem SameUntimed.setQueue (h : SameUntimed s t) (cls : MessageClass) {q q' : QueueState}
    (hq : q'.untimed = q.untimed) : SameUntimed (s.setQueue cls q) (t.setQueue cls q') where
  queue := h.queue
  queues := by
    intro c
    by_cases hc : c = cls
    · subst hc
      rw [setQueue_self, setQueue_self]
      exact hq
    · rw [setQueue_ne _ _ hc, setQueue_ne _ _ hc]
      exact h.queues c
  shuttingDown := h.shuttingDown

theorem push_untimed (h : SameUntimed s t) {cls : MessageClass} {packet : IngressPacket}
    {wait : WaitMode} {clock clock' : Clock} {o o' : EnqueueOutcome}
    (hs : s.push horizon cls packet wait clock = some (o, s'))
    (ht : t.push horizon cls packet wait clock' = some (o', t')) : o = o' ∧ SameUntimed s' t' := by
  obtain ⟨q, rfl, hq⟩ := push_eq_some.1 hs
  obtain ⟨q', rfl, hq'⟩ := push_eq_some.1 ht
  rw [h.queue, h.shuttingDown] at hq'
  rcases hq with ⟨hsd, hq⟩ | ⟨hsd, hq⟩
  · rcases hq' with ⟨-, hq'⟩ | ⟨hsd', -⟩
    · cases hq
      cases hq'
      refine ⟨rfl, h.setQueue cls ?_⟩
      exact congrArg (fun g => (BoundedQueue.refuseClosed g).2) (h.queues cls)
    · rw [hsd] at hsd'
      cases hsd'
  · rcases hq' with ⟨hsd', -⟩ | ⟨-, hq'⟩
    · rw [hsd] at hsd'
      cases hsd'
    · have hdone := BoundedQueue.push_untimed hq
      have hdone' := BoundedQueue.push_untimed hq'
      rw [h.queues, hdone] at hdone'
      injection hdone' with ho hg
      exact ⟨ho, h.setQueue cls hg.symm⟩

theorem pushCall_untimed (h : SameUntimed s t) {cls : MessageClass} {packet : IngressPacket}
    {wait : WaitMode} {clock clock' : Clock} {e f : Exchanges × BoundedIngress}
    (hs : s.pushCall horizon cls packet wait clock = some e)
    (ht : t.pushCall horizon cls packet wait clock' = some f) :
    e.1 = f.1 ∧ SameUntimed e.2 f.2 := by
  unfold pushCall at hs ht
  rw [Option.map_eq_some_iff] at hs ht
  obtain ⟨⟨o, s'⟩, hs, rfl⟩ := hs
  obtain ⟨⟨o', t'⟩, ht, rfl⟩ := ht
  obtain ⟨rfl, hsame⟩ := push_untimed h hs ht
  exact ⟨rfl, hsame⟩

theorem partCall_untimed (s t : BoundedIngress) (a b : MessageClass × IngressPacket)
    (e f : Exchanges × BoundedIngress) (h : SameUntimed s t) (hab : id a = id b)
    (hs : s.partCall horizon a = some e) (ht : t.partCall horizon b = some f) :
    e.1 = f.1 ∧ SameUntimed e.2 f.2 := by
  cases hab
  exact pushCall_untimed h hs ht

theorem drained_untimed (c : MessageClass) (q : QueueState) :
    (drained c q).untimed = drained c q.untimed := by
  cases c <;> rfl

theorem drainForTick_untimed (h : SameUntimed s t) {e f : Exchanges × BoundedIngress}
    (hs : s.call horizon .drainForTick = some e) (ht : t.call horizon .drainForTick = some f) :
    e.1 = f.1 ∧ SameUntimed e.2 f.2 := by
  have hitems : ∀ c, (t.queues c).items = (s.queues c).items :=
    fun c => congrArg (fun g => g.items) (h.queues c)
  cases hs
  cases ht
  refine ⟨?_, h.queue, fun c => ?_, h.shuttingDown⟩
  · simp only [drainForTick_nobody, hitems]
  · simp only [drainForTick_nobody_queues]
    rw [drained_untimed, drained_untimed, h.queues]

/-- **The clock moves nothing but the wait times.** -/
theorem call_untimed (s t : BoundedIngress) (a b : Call) (e f : Exchanges × BoundedIngress)
    (h : SameUntimed s t) (hab : a.untimed = b.untimed) (hs : s.call horizon a = some e)
    (ht : t.call horizon b = some f) : e.1 = f.1 ∧ SameUntimed e.2 f.2 := by
  have hitems : ∀ c, (t.queues c).items = (s.queues c).items :=
    fun c => congrArg (fun g => g.items) (h.queues c)
  cases a with
  | enqueue cls packet clock =>
    cases b <;> cases hab
    exact pushCall_untimed h hs ht
  | tryEnqueue cls packet =>
    cases b <;> cases hab
    exact pushCall_untimed h hs ht
  | pop cls =>
    cases b <;> cases hab
    cases hs
    cases ht
    refine ⟨by simp only [BoundedQueue.pop, hitems], h.setQueue cls ?_⟩
    exact congrArg (fun g => (BoundedQueue.pop g).2) (h.queues cls)
  | admitBackendPacket packet =>
    cases b <;> cases hab
    obtain ⟨r, hr, rfl⟩ := Option.map_eq_some_iff.1 hs
    obtain ⟨r', hr', rfl⟩ := Option.map_eq_some_iff.1 ht
    exact said_eq_of_erase partCall_untimed h rfl hr hr'
  | drainForTick =>
    cases b <;> cases hab
    exact drainForTick_untimed h hs ht
  | drainClass cls =>
    cases b <;> cases hab
    cases hs
    cases ht
    refine ⟨?_, h.setQueue cls ?_⟩
    · cases cls <;> simp only [drainExchange, BoundedQueue.drainAll, BoundedQueue.pop, hitems]
    · rw [drained_untimed, drained_untimed, h.queues]

/-! ## Between two drains -/

/-- The packets of class `c` that were accepted. -/
def acceptedIn (c : MessageClass) (answers : Exchanges) : List IngressPacket :=
  answers.filterMap fun
    | (cls, .pushed packet o) => if cls = c ∧ o.isAccepted = true then some packet else none
    | _ => none

/-- The packets of class `c` that were popped. -/
def poppedIn (c : MessageClass) (answers : Exchanges) : List IngressPacket :=
  answers.flatMap fun
    | (cls, .popped packet) => if cls = c then packet.toList else []
    | _ => []

end BoundedIngress

def Call.drains : Call → Bool
  | .drainForTick | .drainClass _ => true
  | _ => false

namespace BoundedIngress

open Fifo BoundedQueue

variable {horizon : Instant} {s t s' t' : BoundedIngress} {c : MessageClass} {answers : Exchanges}

/-- `evs` is the ledger of the queue of `c` from `s` to `s'`, and `answers` tell what came in
and what was popped. -/
structure Accounts (c : MessageClass) (s : BoundedIngress) (answers : Exchanges)
    (s' : BoundedIngress) (evs : Events) : Prop where
  fits : s'.Fits
  queue : s'.queue c = s.queue c
  moves : Moves (s.queues c) (s'.queues c) evs
  entered : entered evs = acceptedIn c answers
  taken : takenPackets evs = poppedIn c answers
  dropped : (s.queue c).policy ≠ .dropOldest → leftCount (· == .dropped) evs = 0
  coalesced : (s.queue c).policy ≠ .coalesce → leftCount (· == .coalesced) evs = 0

def Accounted (c : MessageClass) (s : BoundedIngress) (answers : Exchanges) (s' : BoundedIngress) :
    Prop := ∃ evs, Accounts c s answers s' evs

/-- Nothing happened to the queue of `c`. -/
theorem Accounted.of_same (hf : s'.Fits) (hqueue : s'.queue c = s.queue c)
    (hq : s'.queues c = s.queues c) (ha : acceptedIn c answers = []) (hp : poppedIn c answers = []) :
    Accounted c s answers s' := by
  refine ⟨[], hf, hqueue, ?_, ha.symm, hp.symm, fun _ => rfl, fun _ => rfl⟩
  rw [hq]
  exact .refl _

theorem Accounted.append {answers' : Exchanges} (h : Accounted c s answers s')
    (h' : Accounted c s' answers' t') : Accounted c s (answers ++ answers') t' := by
  obtain ⟨evs, h⟩ := h
  obtain ⟨evs', h'⟩ := h'
  refine ⟨evs ++ evs', h'.fits, h'.queue.trans h.queue, h.moves.append h'.moves, ?_, ?_, ?_, ?_⟩
  · rw [entered_append, h.entered, h'.entered]
    exact List.filterMap_append.symm
  · rw [takenPackets_append, h.taken, h'.taken]
    exact List.flatMap_append.symm
  · intro hp
    rw [leftCount_append, h.dropped hp, h'.dropped (h.queue ▸ hp)]
  · intro hp
    rw [leftCount_append, h.coalesced hp, h'.coalesced (h.queue ▸ hp)]

/-- From single steps to runs. -/
theorem exec_accounted {α : Type} {step : BoundedIngress → α → Option (Exchanges × BoundedIngress)}
    {P : α → Prop}
    (hstep : ∀ s a e, s.Fits → P a → step s a = some e → Accounted c s e.1 e.2)
    (hf : s.Fits) {calls : List α} (hcalls : ∀ a ∈ calls, P a)
    {r : List (Exchanges × BoundedIngress) × BoundedIngress}
    (h : Run.exec step calls ([], s) = some r) : Accounted c s (said r.1) r.2 := by
  induction calls generalizing s r with
  | nil =>
    cases h
    exact .of_same hf rfl rfl rfl rfl
  | cons a calls ih =>
    obtain ⟨e, r', he, hr', rfl⟩ := Run.exec_cons_eq_some.1 h
    have hfirst := hstep s a e hf (hcalls a List.mem_cons_self) he
    obtain ⟨evs, haccounts⟩ := hfirst
    have hrest := ih haccounts.fits (fun b hb => hcalls b (List.mem_cons_of_mem a hb)) hr'
    exact Accounted.append ⟨evs, haccounts⟩ hrest

theorem Fits.setQueue (hf : s.Fits) {cls : MessageClass} {q : QueueState}
    (hq : (s.queue cls).Fits q) : (s.setQueue cls q).Fits := by
  intro c
  by_cases hc : c = cls
  · subst hc
    rw [setQueue_self]
    exact hq
  · rw [setQueue_ne s q hc]
    exact hf c

theorem leftCount_pushEvents (q : QueueState) (packet : IngressPacket) (o : EnqueueOutcome) :
    ((∀ depth, o ≠ .droppedOldest depth) →
        leftCount (· == .dropped) (pushEvents q packet o) = 0) ∧
      ((∀ depth, o ≠ .coalesced depth) →
        leftCount (· == .coalesced) (pushEvents q packet o) = 0) := by
  cases o with
  | droppedOldest depth =>
    refine ⟨fun h => absurd rfl (h depth), fun _ => ?_⟩
    cases q.items <;> simp [pushEvents, leftCount, left]
  | coalesced depth =>
    refine ⟨fun _ => ?_, fun h => absurd rfl (h depth)⟩
    simp [pushEvents, leftCount, left]
  | _ => exact ⟨fun _ => rfl, fun _ => rfl⟩

theorem pushCall_accounted (hf : s.Fits) {cls : MessageClass} {packet : IngressPacket}
    {wait : WaitMode} {clock : Clock} {e : Exchanges × BoundedIngress}
    (h : s.pushCall horizon cls packet wait clock = some e) : Accounted c s e.1 e.2 := by
  unfold pushCall at h
  rw [Option.map_eq_some_iff] at h
  obtain ⟨⟨o, s'⟩, ho, rfl⟩ := h
  obtain ⟨q, rfl, hq⟩ := push_eq_some.1 ho
  have hsection : (s.queue cls).Section (some o) (pushEvents (s.queues cls) packet o)
      (s.queues cls) q := by
    rcases hq with ⟨-, hq⟩ | ⟨-, hq⟩
    · cases hq
      exact refuseShutdown_section (hf cls)
    · exact push_section (hf cls) hq
  have hevicts : (∀ depth, o = .droppedOldest depth → (s.queue cls).policy = .dropOldest) ∧
      ∀ depth, o = .coalesced depth → (s.queue cls).policy = .coalesce := by
    rcases hq with ⟨-, hq⟩ | ⟨-, hq⟩
    · cases hq
      exact ⟨by rintro depth ⟨⟩, by rintro depth ⟨⟩⟩
    · exact push_evicts hq
  have hfits : (s.setQueue cls q).Fits := hf.setQueue (.of_section hsection (hf cls))
  by_cases hc : cls = c
  · subst hc
    obtain ⟨hdrop, hcoal⟩ := leftCount_pushEvents (s.queues cls) packet o
    refine ⟨pushEvents (s.queues cls) packet o, hfits, rfl, ?_, ?_, ?_, ?_, ?_⟩
    · rw [setQueue_self]
      exact hsection.moves
    · rw [entered_pushEvents]
      cases ho : o.isAccepted <;> simp [acceptedIn, ho]
    · exact takenPackets_pushEvents _ _ _
    · exact fun hp => hdrop fun depth ho => hp (hevicts.1 depth ho)
    · exact fun hp => hcoal fun depth ho => hp (hevicts.2 depth ho)
  · refine .of_same hfits rfl (setQueue_ne s q (Ne.symm hc)) ?_ ?_
    · simp [acceptedIn, hc]
    · simp [poppedIn]

/-- **A call that is not a drain** accounts for what it does to each class. -/
theorem call_accounted (s : BoundedIngress) (a : Call) (e : Exchanges × BoundedIngress)
    (hf : s.Fits) (hdrains : a.drains = false) (h : s.call horizon a = some e) :
    Accounted c s e.1 e.2 := by
  cases a with
  | enqueue cls packet clock => exact pushCall_accounted hf h
  | tryEnqueue cls packet => exact pushCall_accounted hf h
  | pop cls =>
    cases h
    have hsection := pop_section (hf cls)
    have hfits : (s.setQueue cls (BoundedQueue.pop (s.queues cls)).2).Fits :=
      hf.setQueue (.of_section hsection (hf cls))
    by_cases hc : cls = c
    · subst hc
      refine ⟨(BoundedQueue.pop (s.queues cls)).1.toList.map (.leave .taken), hfits, rfl, ?_, ?_, ?_,
        ?_, ?_⟩
      · rw [setQueue_self]
        exact hsection.moves
      · rw [entered_clear]
        rfl
      · rw [takenPackets_clear]
        simp [poppedIn]
      · intro _
        simp [leftCount]
      · intro _
        simp [leftCount]
    · refine .of_same hfits rfl (setQueue_ne s _ (Ne.symm hc)) rfl ?_
      simp [poppedIn, hc]
  | admitBackendPacket packet =>
    obtain ⟨r, hr, rfl⟩ := Option.map_eq_some_iff.1 h
    exact exec_accounted (P := fun _ => True) (fun _ _ _ hfits _ hpart => pushCall_accounted hfits hpart)
      hf (fun _ _ => trivial) hr
  | drainForTick => cases hdrains
  | drainClass cls => cases hdrains

/-- What an account from an empty queue says of what is left in it. -/
theorem Accounted.from_empty (h : Accounted c s answers s') (hempty : (s.queues c).items = []) :
    ∃ gone, acceptedIn c answers = gone ++ (s'.queues c).items ∧ (poppedIn c answers).Sublist gone ∧
      gone.length + (s.metrics c).dropped + (s.metrics c).coalesced =
        (poppedIn c answers).length + (s'.metrics c).dropped + (s'.metrics c).coalesced ∧
      ((s.queue c).policy ≠ .dropOldest → (s.queue c).policy ≠ .coalesce →
        gone = poppedIn c answers) := by
  obtain ⟨evs, h⟩ := h
  have hledger := h.moves.runs.ledger
  rw [hempty, List.nil_append, h.entered] at hledger
  have hsub : (poppedIn c answers).Sublist ((left evs).map Prod.snd) := by
    rw [← h.taken]
    exact List.filter_sublist.map _
  have hcount := leftCount_reasons evs
  have htaken : taken evs = (poppedIn c answers).length := by
    rw [← h.taken]
    simp [taken, leftCount, takenPackets]
  have hdropped : (s'.metrics c).dropped = (s.metrics c).dropped + leftCount (· == .dropped) evs :=
    h.moves.dropped
  have hcoalesced : (s'.metrics c).coalesced =
      (s.metrics c).coalesced + leftCount (· == .coalesced) evs := h.moves.coalesced
  refine ⟨(left evs).map Prod.snd, hledger, hsub, ?_, ?_⟩
  · rw [List.length_map]
    omega
  · intro hd hc
    refine (hsub.eq_of_length ?_).symm
    rw [List.length_map, hcount, h.dropped hd, h.coalesced hc, htaken]
    omega

theorem items_of_new {config : IngressConfig} {s₀ : BoundedIngress} (hnew : new config = .ok s₀)
    (c : MessageClass) : (s₀.queues c).items = [] := by
  obtain ⟨hv, rfl⟩ := new_eq_ok hnew
  rfl

/-- The control queue is empty at the start and after every drain. -/
theorem control_empty {config : IngressConfig} {s₀ : BoundedIngress} (hnew : new config = .ok s₀)
    {before : List Call} (hlast : before = [] ∨ before.getLast? = some .drainForTick)
    {r : List (Exchanges × BoundedIngress) × BoundedIngress}
    (h : Run.exec (call horizon) before ([], s₀) = some r) : (r.2.queues .control).items = [] := by
  rcases hlast with rfl | hlast
  · cases h
    exact items_of_new hnew _
  · obtain ⟨init, rfl⟩ := List.getLast?_eq_some_iff.1 hlast
    obtain ⟨r₁, r₂, -, h₂, rfl⟩ := Run.exec_append_eq_some.1 h
    obtain ⟨e, r', he, hr', rfl⟩ := Run.exec_cons_eq_some.1 h₂
    cases hr'
    cases he
    show ((r₁.2.runSteps (r₁.2.drainForTick nobody).1).queues .control).items = []
    rw [drainForTick_nobody_queues]
    rfl

/-- A call of `drain_for_tick`. -/
theorem call_drainForTick {e : Exchanges × BoundedIngress} (h : s.call horizon .drainForTick = some e) :
    e.1 = [(.control, .drained (s.queues .control).items),
        (.reward, .popped (s.queues .reward).items.head?),
        (.sensory, .popped (s.queues .sensory).items.head?),
        (.telemetry, .emptied (s.queues .telemetry).items.length)] ∧
      ∀ c, e.2.queues c = drained c (s.queues c) := by
  cases h
  refine ⟨?_, drainForTick_nobody_queues s⟩
  simp only [drainForTick_nobody]

theorem drained_fits (hf : s.Fits) (cls : MessageClass) :
    (s.queue cls).Fits (drained cls (s.queues cls)) := by
  have hpop := pop_section (hf cls)
  have hdrain : (s.queue cls).Section none ((s.queues cls).items.map (.leave .taken)) (s.queues cls)
      (BoundedQueue.drainAll (s.queues cls)).2 := drainAll_section
  cases cls with
  | control => exact .of_section hdrain (hf _)
  | telemetry => exact .of_section hdrain (hf _)
  | reward => exact .of_section hpop (hf _)
  | sensory => exact .of_section hpop (hf _)

theorem pushCall_config {cls : MessageClass} {packet : IngressPacket} {wait : WaitMode}
    {clock : Clock} {e : Exchanges × BoundedIngress}
    (h : s.pushCall horizon cls packet wait clock = some e) : e.2.config = s.config := by
  unfold pushCall at h
  rw [Option.map_eq_some_iff] at h
  obtain ⟨⟨o, s'⟩, ho, rfl⟩ := h
  obtain ⟨q, rfl, -⟩ := push_eq_some.1 ho
  rfl

/-- What every call keeps. -/
theorem call_keeps {a : Call} {e : Exchanges × BoundedIngress} (hf : s.Fits)
    (h : s.call horizon a = some e) : e.2.Fits ∧ e.2.config = s.config := by
  have hother : a.drains = false → e.2.Fits := by
    intro hdrains
    obtain ⟨evs, haccounts⟩ := call_accounted (c := .control) s a e hf hdrains h
    exact haccounts.fits
  cases a with
  | enqueue cls packet clock => exact ⟨hother rfl, pushCall_config h⟩
  | tryEnqueue cls packet => exact ⟨hother rfl, pushCall_config h⟩
  | pop cls =>
    refine ⟨hother rfl, ?_⟩
    cases h
    rfl
  | admitBackendPacket packet =>
    refine ⟨hother rfl, ?_⟩
    obtain ⟨answers, hcall⟩ := call_admitBackendPacket horizon s packet
    rw [hcall] at h
    cases h
    exact runSteps_config s _
  | drainForTick =>
    cases h
    exact ⟨hf.runSteps _, runSteps_config s _⟩
  | drainClass cls =>
    cases h
    exact ⟨hf.setQueue (drained_fits hf cls), rfl⟩

theorem exec_keeps {calls : List Call} {r : List (Exchanges × BoundedIngress) × BoundedIngress}
    (hf : s.Fits) (h : Run.exec (call horizon) calls ([], s) = some r) :
    r.2.Fits ∧ r.2.config = s.config := by
  refine Run.invariant (I := fun _ s' => s'.Fits ∧ s'.config = s.config) ⟨hf, rfl⟩ ?_
    (Run.of_exec .refl h)
  rintro trace s₁ a answers s₂ ⟨hfits, hconfig⟩ hcall
  obtain ⟨hfits', hconfig'⟩ := call_keeps hfits hcall
  exact ⟨hfits', hconfig'.trans hconfig⟩

theorem pushCall_returns (horizon : Instant) (s : BoundedIngress) (cls : MessageClass)
    (packet : IngressPacket) (wait : WaitMode) :
    ∃ clock e, s.pushCall horizon cls packet wait clock = some e := by
  obtain ⟨clock, r, hr⟩ := (s.queue cls).push_returns horizon (s.queues cls) packet wait
  refine ⟨clock, ?_⟩
  unfold pushCall push
  rw [hr]
  cases s.shuttingDown with
  | true => exact ⟨_, rfl⟩
  | false => exact ⟨_, rfl⟩

/-- Some clock lets every sequence of calls return. -/
theorem calls_return (horizon : Instant) (s : BoundedIngress) (calls : List Call) :
    ∃ calls' r, calls'.map Call.untimed = calls.map Call.untimed ∧
      Run.exec (call horizon) calls' ([], s) = some r := by
  induction calls generalizing s with
  | nil => exact ⟨[], ([], s), rfl, rfl⟩
  | cons a calls ih =>
    have hfirst : ∃ b e, b.untimed = a.untimed ∧ s.call horizon b = some e := by
      cases a with
      | enqueue cls packet clock =>
        obtain ⟨clock', e, he⟩ := pushCall_returns horizon s cls packet .honorPolicy
        exact ⟨.enqueue cls packet clock', e, rfl, he⟩
      | tryEnqueue cls packet =>
        obtain ⟨o, ho⟩ := push_tryEnqueue horizon s cls packet
        have hcall : s.call horizon (.tryEnqueue cls packet) =
            (s.push horizon cls packet .never .zero).map
              fun r => ([(cls, .pushed packet r.1)], r.2) := rfl
        rw [ho] at hcall
        exact ⟨_, _, rfl, hcall⟩
      | admitBackendPacket packet =>
        obtain ⟨answers, h⟩ := call_admitBackendPacket horizon s packet
        exact ⟨_, _, rfl, h⟩
      | pop cls => exact ⟨.pop cls, _, rfl, rfl⟩
      | drainForTick => exact ⟨.drainForTick, _, rfl, rfl⟩
      | drainClass cls => exact ⟨.drainClass cls, _, rfl, rfl⟩
    obtain ⟨b, e, hb, he⟩ := hfirst
    obtain ⟨calls', r, hcalls, hr⟩ := ih e.2
    refine ⟨b :: calls', _, ?_, Run.exec_cons_eq_some.2 ⟨e, r, he, hr, rfl⟩⟩
    rw [List.map_cons, List.map_cons, hb, hcalls]

/-! ## The classes, over whole runs -/

theorem pop_items (guard : QueueState) :
    guard.items = (BoundedQueue.pop guard).1.toList ++ (BoundedQueue.pop guard).2.items := by
  unfold BoundedQueue.pop
  cases guard.items <;> rfl

/-- **Isolation, and what a drain returns.**  What class `c` gives back in a run, and its
queue, are those of the run of its shares, with any other clock up to the wait times.  A drain
hands out the control packets that were accepted since the drain before it and are not `gone`:
popped, or evicted as the control policy has it.  It takes one reward packet, one sensory
packet, if there are any, and all telemetry. -/
theorem classes_isolated {config : IngressConfig} {s₀ : BoundedIngress}
    (hnew : new config = .ok s₀) (horizon : Instant) :
    (∀ (c : MessageClass) (calls : List Call) (r : List (Exchanges × BoundedIngress) × BoundedIngress),
      Run.exec (call horizon) calls ([], s₀) = some r →
      (∃ r', Run.exec (call horizon) (calls.flatMap (Call.share c)) ([], s₀) = some r' ∧
        said r'.1 = heard c (said r.1) ∧ r'.2.queues c = r.2.queues c ∧
        r'.2.metrics c = r.2.metrics c) ∧
      ∀ calls' r', calls'.map Call.untimed = (calls.flatMap (Call.share c)).map Call.untimed →
        Run.exec (call horizon) calls' ([], s₀) = some r' →
        said r'.1 = heard c (said r.1) ∧ (r'.2.queues c).untimed = (r.2.queues c).untimed) ∧
    ∀ (before between : List Call) (r₁ r₂ : List (Exchanges × BoundedIngress) × BoundedIngress)
      (e : Exchanges × BoundedIngress), (before = [] ∨ before.getLast? = some .drainForTick) →
      (∀ a ∈ between, a.drains = false) →
      Run.exec (call horizon) before ([], s₀) = some r₁ →
      Run.exec (call horizon) between ([], r₁.2) = some r₂ →
      r₂.2.call horizon .drainForTick = some e →
      ∃ packets reward sensory count gone,
        e.1 = [(.control, .drained packets), (.reward, .popped reward),
          (.sensory, .popped sensory), (.telemetry, .emptied count)] ∧
        acceptedIn .control (said r₂.1) = gone ++ packets ∧
        (poppedIn .control (said r₂.1)).Sublist gone ∧
        gone.length + (r₁.2.metrics .control).dropped + (r₁.2.metrics .control).coalesced =
          (poppedIn .control (said r₂.1)).length + (r₂.2.metrics .control).dropped +
            (r₂.2.metrics .control).coalesced ∧
        (config.controlPolicy ≠ .dropOldest → config.controlPolicy ≠ .coalesce →
          gone = poppedIn .control (said r₂.1)) ∧
        (e.2.queues .control).items = [] ∧ (e.2.queues .telemetry).items = [] ∧
        (r₂.2.queues .reward).items = reward.toList ++ (e.2.queues .reward).items ∧
        (r₂.2.queues .sensory).items = sensory.toList ++ (e.2.queues .sensory).items := by
  have hfits : s₀.Fits := Fits.new hnew
  have hconfig : s₀.config = config := by
    obtain ⟨hv, rfl⟩ := new_eq_ok hnew
    rfl
  refine ⟨?_, ?_⟩
  · intro c calls r h
    obtain ⟨r', hr', hsaid, hsame⟩ := (call_separates horizon c).run (.refl c s₀) h
    refine ⟨⟨r', hr', hsaid, hsame.queues, congrArg QueueState.metrics hsame.queues⟩, ?_⟩
    intro calls' r'' herase h''
    obtain ⟨hsay, huntimed⟩ := said_eq_of_erase call_untimed (SameUntimed.refl s₀)
      herase.symm hr' h''
    rw [← hsay, ← hsame.queues]
    exact ⟨hsaid, huntimed.queues c⟩
  · intro before between r₁ r₂ e hlast hdrains hbefore hbetween hdrain
    obtain ⟨hf₁, hconfig₁⟩ := exec_keeps hfits hbefore
    have haccounted := exec_accounted (c := .control) call_accounted hf₁ hdrains hbetween
    obtain ⟨gone, hledger, hsub, hlen, hpolicy⟩ :=
      haccounted.from_empty (control_empty hnew hlast hbefore)
    obtain ⟨hanswers, hqueues⟩ := call_drainForTick hdrain
    have hcontrol : (r₁.2.queue .control).policy = config.controlPolicy := by
      rw [← hconfig, ← hconfig₁]
      rfl
    rw [hcontrol] at hpolicy
    refine ⟨_, _, _, _, gone, hanswers, hledger, hsub, hlen, hpolicy, ?_, ?_, ?_, ?_⟩
    · rw [hqueues]
      rfl
    · rw [hqueues]
      rfl
    · rw [hqueues]
      exact pop_items _
    · rw [hqueues]
      exact pop_items _

def controlPacket (id : ℕ) : IngressPacket := { IngressPacket.default with batchId := some id }

/-- The fresh queues of `tiny_fixture`. -/
def tinyIngress : BoundedIngress :=
  ⟨.tinyFixture, IngressConfig.validate_tinyFixture, fun _ => .new, false⟩

/-- Telemetry over its capacity and a backend packet, around two control packets. -/
def mixedLoad : List Call :=
  [.enqueue .telemetry .default .zero, .enqueue .telemetry .default .zero,
    .enqueue .control (controlPacket 1) .zero, .enqueue .telemetry .default .zero,
    .admitBackendPacket { IngressPacket.default with stimuli := [0], modulators := some [0] },
    .tryEnqueue .control (controlPacket 2)]

theorem classes_isolated_mixed_load :
    ∃ r r' e, Run.exec (call 0) mixedLoad ([], tinyIngress) = some r ∧
      Run.exec (call 0) (mixedLoad.flatMap (Call.share .control)) ([], tinyIngress) = some r' ∧
      said r'.1 = heard .control (said r.1) ∧ r.2.call 0 .drainForTick = some e ∧
      e.1.head? = some (.control, .drained [controlPacket 1, controlPacket 2]) := by
  have hrun : (Run.exec (call 0) mixedLoad ([], tinyIngress)).map
      (fun r => (acceptedIn .control (said r.1), poppedIn .control (said r.1))) =
      some ([controlPacket 1, controlPacket 2], []) := by decide +kernel
  obtain ⟨r, hr, hsaid⟩ := Option.map_eq_some_iff.1 hrun
  injection hsaid with haccepted hpopped
  obtain ⟨hisolated, hdrained⟩ := classes_isolated (show new .tinyFixture = .ok tinyIngress from rfl) 0
  obtain ⟨⟨r', hr', hheard, -⟩, -⟩ := hisolated .control mixedLoad r hr
  obtain ⟨packets, _, _, _, gone, hanswers, hledger, -, -, hgone, -⟩ :=
    hdrained [] mixedLoad ([], tinyIngress) r _ (.inl rfl) (by decide) rfl hr rfl
  rw [hgone (by decide) (by decide), hpopped, haccepted, List.nil_append] at hledger
  refine ⟨r, r', _, hr, hr', hheard, rfl, ?_⟩
  rw [hanswers, ← hledger]
  rfl

/-! ## Packets that no drain returns -/

/-- What was accepted on the control queue, and what the drain after it says. -/
def acceptedThenDrained (config : IngressConfig) (calls : List Call) :
    Option (List IngressPacket × Option (MessageClass × Exchange)) :=
  (new config).toOption.bind fun s₀ =>
    (Run.exec (call 0) calls ([], s₀)).bind fun r =>
      (r.2.call 0 .drainForTick).map fun e => (acceptedIn .control (said r.1), e.1.head?)

/-- **Not every accepted packet is drained**: a consumer may pop it first, and a control class
configured to drop its oldest packet evicts it. -/
theorem accepted_not_drained :
    acceptedThenDrained .tinyFixture [.enqueue .control (controlPacket 1) .zero, .pop .control] =
      some ([controlPacket 1], some (.control, .drained [])) ∧
    acceptedThenDrained { IngressConfig.tinyFixture with
        controlCapacity := 1, controlPolicy := .dropOldest }
        [.enqueue .control (controlPacket 1) .zero, .enqueue .control (controlPacket 2) .zero] =
      some ([controlPacket 1, controlPacket 2], some (.control, .drained [controlPacket 2])) := by
  decide +kernel

end BoundedIngress

end Brainstem.Ingress
