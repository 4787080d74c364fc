import Brainstem.Ingress.Queue
import Brainstem.Lib.Fifo

/-!
# What one critical section does to a queue

`Section bq o evs q q'` collects everything a critical section that takes the guard from
`q` to `q'` does: the events of the first-in first-out ledger, with the counters that record
them; at most one of the three call counters moved, the one of the outcome `o`; the bound
and the high-water mark.  Each function of the queue has one such lemma and later modules
use nothing else about it.
-/

namespace Brainstem.Ingress

/-- Why a packet leaves a queue. -/
inductive Leave where
  | dropped
  | coalesced
  | taken
  deriving DecidableEq, Repr

abbrev Events := List (Fifo.Event IngressPacket Leave)

namespace BoundedQueue

open Fifo

/-- Contents, and the counters of what came in and was evicted. -/
structure Moves (q q' : QueueState) (evs : Events) : Prop where
  runs : Runs q.items evs q'.items
  accepted : q'.accepted = q.accepted + (entered evs).length
  dropped : q'.dropped = q.dropped + leftCount (· == .dropped) evs
  coalesced : q'.coalesced = q.coalesced + leftCount (· == .coalesced) evs

/-- The counters of completed calls; `none` stands for a section that completes no push. -/
structure Tally (o : Option EnqueueOutcome) (q q' : QueueState) : Prop where
  accepted : q'.accepted = q.accepted + if o.any (·.isAccepted) then 1 else 0
  rejected : q'.rejected = q.rejected + if o = some .rejected then 1 else 0
  shutdownRefused : q'.shutdownRefused = q.shutdownRefused + if o = some .shutdown then 1 else 0

/-- What the lock guards, between two critical sections. -/
structure Fits (bq : BoundedQueue) (q : QueueState) : Prop where
  depth : q.items.length ≤ q.highWaterMark
  highWaterMark : q.highWaterMark ≤ bq.capacity

structure Section (bq : BoundedQueue) (o : Option EnqueueOutcome) (evs : Events)
    (q q' : QueueState) : Prop where
  moves : Moves q q' evs
  tally : Tally o q q'
  depth : q'.items.length ≤ bq.capacity
  highWaterMark : q'.highWaterMark = max q.highWaterMark q'.items.length

variable {bq : BoundedQueue} {q q' q'' : QueueState} {o : Option EnqueueOutcome} {evs evs' : Events}

theorem Moves.refl (q : QueueState) : Moves q q [] := ⟨.nil _, rfl, rfl, rfl⟩

theorem Moves.append (h : Moves q q' evs) (h' : Moves q' q'' evs') : Moves q q'' (evs ++ evs') where
  runs := h.runs.append h'.runs
  accepted := by rw [h'.accepted, h.accepted, entered_append, List.length_append, Nat.add_assoc]
  dropped := by rw [h'.dropped, h.dropped, leftCount_append, Nat.add_assoc]
  coalesced := by rw [h'.coalesced, h.coalesced, leftCount_append, Nat.add_assoc]

/-- How many packets were handed to a consumer. -/
def taken (evs : Events) : ℕ := leftCount (· == .taken) evs

/-- The packets that were handed to a consumer, in order. -/
def takenPackets (evs : Events) : List IngressPacket :=
  ((left evs).filter fun e => e.1 == .taken).map Prod.snd

theorem takenPackets_append (s t : Events) :
    takenPackets (s ++ t) = takenPackets s ++ takenPackets t := by
  simp [takenPackets]

theorem takenPackets_clear (xs : List IngressPacket) :
    takenPackets (xs.map (.leave .taken)) = xs := by
  unfold takenPackets
  rw [left_clear]
  induction xs with
  | nil => rfl
  | cons a xs ih => simpa using ih

theorem leftCount_reasons (evs : Events) : (left evs).length =
    leftCount (· == .dropped) evs + leftCount (· == .coalesced) evs + taken evs := by
  unfold taken leftCount
  induction left evs with
  | nil => rfl
  | cons e es ih =>
    obtain ⟨r, a⟩ := e
    cases r <;> simp [ih] <;> omega

/-- **Conservation across sections**: what was accepted is still there, was evicted, or was
handed out. -/
theorem Moves.conserves (h : Moves q q' evs) {n : ℕ}
    (hq : q.accepted = q.items.length + q.dropped + q.coalesced + n) :
    q'.accepted = q'.items.length + q'.dropped + q'.coalesced + (n + taken evs) := by
  have hlen := h.runs.length
  rw [leftCount_reasons] at hlen
  rw [h.accepted, h.dropped, h.coalesced, hq]
  omega

theorem Fits.of_section (h : Section bq o evs q q') (hq : Fits bq q) : Fits bq q' where
  depth := by rw [h.highWaterMark]; omega
  highWaterMark := by
    have h1 := h.depth
    have h2 := hq.highWaterMark
    rw [h.highWaterMark]
    omega

theorem Fits.new (bq : BoundedQueue) : Fits bq .new := ⟨Nat.le_refl 0, Nat.zero_le _⟩

/-! ## The parts of a push -/

/-- A section that leaves the contents alone. -/
theorem section_of_items_eq (hf : Fits bq q) (hi : q'.items = q.items)
    (hm : q'.accepted = q.accepted ∧ q'.dropped = q.dropped ∧ q'.coalesced = q.coalesced ∧
      q'.highWaterMark = q.highWaterMark)
    (ht : Tally o q q') : Section bq o [] q q' := by
  obtain ⟨h1, h2, h3, h4⟩ := hm
  refine ⟨⟨hi ▸ .nil _, h1, h2, h3⟩, ht, ?_, ?_⟩
  · rw [hi]
    exact Nat.le_trans hf.depth hf.highWaterMark
  · rw [hi, h4]
    exact (Nat.max_eq_left hf.depth).symm

theorem refuse_section (hf : Fits bq q) :
    Section bq (some (refuse q).1) [] q (refuse q).2 :=
  section_of_items_eq hf rfl ⟨rfl, rfl, rfl, rfl⟩ ⟨rfl, rfl, rfl⟩

theorem refuseShutdown_section (hf : Fits bq q) :
    Section bq (some (refuseShutdown q).1) [] q (refuseShutdown q).2 :=
  section_of_items_eq hf rfl ⟨rfl, rfl, rfl, rfl⟩ ⟨rfl, rfl, rfl⟩

theorem shutdown_section (hf : Fits bq q) : Section bq none [] q (shutdown q) :=
  section_of_items_eq hf rfl ⟨rfl, rfl, rfl, rfl⟩ ⟨rfl, rfl, rfl⟩

theorem ite_lt_eq_max (a b : ℕ) : (if a < b then b else a) = max a b := by
  split <;> omega

theorem pushFree_section (packet : IngressPacket) (hroom : q.items.length < bq.capacity) :
    Section bq (some (pushFree q packet).1) [.enter packet] q (pushFree q packet).2 where
  moves := ⟨runs_push _ _, rfl, rfl, rfl⟩
  tally := ⟨rfl, rfl, rfl⟩
  depth := by simp only [pushFree, List.length_append, List.length_singleton]; omega
  highWaterMark := by simp only [pushFree, ite_lt_eq_max]

/-- The ledger of a push that returned: the packet enters if it was accepted, after what it
evicted has left. -/
def pushEvents (q : QueueState) (packet : IngressPacket) : EnqueueOutcome → Events
  | .accepted _ => [.enter packet]
  | .droppedOldest _ => q.items.head?.toList.map (.leave .dropped) ++ [.enter packet]
  | .coalesced _ => q.items.map (.leave .coalesced) ++ [.enter packet]
  | .rejected | .shutdown => []

theorem taken_pushEvents (q : QueueState) (packet : IngressPacket) (o : EnqueueOutcome) :
    taken (pushEvents q packet o) = 0 := by
  cases o <;> simp [pushEvents, taken, leftCount, left]

theorem takenPackets_pushEvents (q : QueueState) (packet : IngressPacket) (o : EnqueueOutcome) :
    takenPackets (pushEvents q packet o) = [] := by
  have hnone := taken_pushEvents q packet o
  unfold taken leftCount at hnone
  unfold takenPackets
  rw [List.length_eq_zero_iff.1 hnone, List.map_nil]

theorem entered_pushEvents (q : QueueState) (packet : IngressPacket) (o : EnqueueOutcome) :
    entered (pushEvents q packet o) = if o.isAccepted then [packet] else [] := by
  cases o <;> simp [pushEvents, entered, EnqueueOutcome.isAccepted]

/-- The packets that leave a queue in a section that returned `o` to a producer, or handed out
`packets`. -/
def departures (q : QueueState) (o : Option EnqueueOutcome) (packets : List IngressPacket) :
    List (Leave × IngressPacket) :=
  match o with
  | some (.droppedOldest _) => q.items.head?.toList.map fun p => (.dropped, p)
  | some (.coalesced _) => q.items.map fun p => (.coalesced, p)
  | _ => packets.map fun p => (.taken, p)

theorem left_pushEvents (q : QueueState) (packet : IngressPacket) (o : EnqueueOutcome) :
    left (pushEvents q packet o) = departures q (some o) [] := by
  cases o <;> simp [pushEvents, departures, left]

/-- Evicting the oldest first makes room, whatever the queue holds. -/
theorem dropOldestAndPush_section (hf : Fits bq q) (packet : IngressPacket)
    (hfull : bq.capacity ≤ q.items.length) :
    Section bq (some (dropOldestAndPush q packet).1)
      (pushEvents q packet (dropOldestAndPush q packet).1) q (dropOldestAndPush q packet).2 := by
  have hpos := bq.capacity_pos
  have hcap := Nat.le_trans hf.depth hf.highWaterMark
  cases hitems : q.items with
  | nil =>
    rw [hitems, List.length_nil] at hfull
    omega
  | cons oldest rest =>
    rw [hitems, List.length_cons] at hcap
    have hevs : pushEvents q packet (dropOldestAndPush q packet).1 =
        [.leave .dropped oldest, .enter packet] := by
      simp [dropOldestAndPush, pushFree, pushEvents, hitems]
    rw [hevs]
    refine ⟨⟨?_, rfl, rfl, rfl⟩, ⟨rfl, rfl, rfl⟩, ?_, ?_⟩
    · simp only [dropOldestAndPush, pushFree, hitems, List.tail_cons]
      exact .leave (runs_push _ _)
    · simp only [dropOldestAndPush, pushFree, hitems, List.tail_cons, List.length_append,
        List.length_singleton]
      omega
    · simp only [dropOldestAndPush, pushFree, ite_lt_eq_max]

theorem pushCoalesce_section (hf : Fits bq q) (packet : IngressPacket)
    (hc : bq.policy = .coalesce) :
    Section bq (some (pushCoalesce q packet).1) (pushEvents q packet (pushCoalesce q packet).1) q
      (pushCoalesce q packet).2 := by
  have hone := bq.coalesce_single hc
  have hcap := Nat.le_trans hf.depth hf.highWaterMark
  cases hitems : q.items with
  | nil =>
    have hfree : pushCoalesce q packet = pushFree q packet := by simp [pushCoalesce, hitems]
    rw [hfree]
    refine pushFree_section packet ?_
    rw [hitems, List.length_nil]
    omega
  | cons old rest =>
    -- the capacity is 1, so clearing the queue evicts one packet
    rw [hitems, List.length_cons, hone] at hcap
    have hrest : rest = [] := List.length_eq_zero_iff.1 (by omega)
    subst hrest
    have hevs : pushEvents q packet (pushCoalesce q packet).1 =
        [.leave .coalesced old, .enter packet] := by
      simp [pushCoalesce, pushEvents, hitems]
    rw [hevs]
    unfold pushCoalesce
    rw [hitems]
    refine ⟨⟨?_, rfl, rfl, rfl⟩, ⟨rfl, rfl, rfl⟩, bq.capacity_pos, ?_⟩
    · rw [hitems]
      exact .leave (runs_push _ _)
    · simp only [List.isEmpty_cons, Bool.false_eq_true, if_false, ite_lt_eq_max]

/-! ## A whole push section -/

/-- What a push section may do: return with an outcome, or wait, having changed no counter
that counts. -/
def Attempt.Spec (bq : BoundedQueue) (q : QueueState) (packet : IngressPacket) : Attempt → Prop
  | .done outcome q' => Section bq (some outcome) (pushEvents q packet outcome) q q'
  | .park q' => Section bq none [] q q'

theorem spec_of_refuse (hf : Fits bq q) (packet : IngressPacket) :
    Attempt.Spec bq q packet (Attempt.ofPair (refuse q)) :=
  refuse_section hf

theorem spec_of_refuseShutdown (hf : Fits bq q) (packet : IngressPacket) :
    Attempt.Spec bq q packet (Attempt.ofPair (refuseShutdown q)) :=
  refuseShutdown_section hf

theorem waitForSlot_spec (hf : Fits bq q) (packet : IngressPacket) (deadline : Option Instant)
    (now : Instant) : Attempt.Spec bq q packet (waitForSlot q deadline now) := by
  unfold waitForSlot
  cases deadline with
  | none => exact spec_of_refuse hf packet
  | some d =>
    simp only
    split
    · exact spec_of_refuse hf packet
    · exact section_of_items_eq hf rfl ⟨rfl, rfl, rfl, rfl⟩ ⟨rfl, rfl, rfl⟩

theorem pushLocked_spec (hf : Fits bq q) (packet : IngressPacket) (deadline : Option Instant)
    (now : Instant) : Attempt.Spec bq q packet (bq.pushLocked q packet deadline now) := by
  unfold pushLocked
  split
  · exact spec_of_refuseShutdown hf packet
  · split
    · next hc => exact pushCoalesce_section hf packet hc
    · split
      · next hroom => exact pushFree_section packet hroom
      · next hfull =>
        split
        · exact spec_of_refuse hf packet
        · exact dropOldestAndPush_section hf packet (Nat.le_of_not_lt hfull)
        · next hc _ h => exact absurd h hc
        · exact waitForSlot_spec hf packet deadline now

theorem pushSection_spec (hf : Fits bq q) (packet : IngressPacket) (deadline : Option Instant)
    (now : Instant) : Attempt.Spec bq q packet (bq.pushSection q packet deadline now) := by
  unfold pushSection
  split
  · split
    · exact spec_of_refuseShutdown hf packet
    · exact spec_of_refuse hf packet
  · exact pushLocked_spec hf packet deadline now

/-- Only the waiting time differs between `q` and the guard that the loop goes on with. -/
theorem resumeWait_spec (hf : Fits bq q) (packet : IngressPacket) (deadline : Option Instant)
    (timedOut : Bool) (elapsed : ℕ) (now : Instant) :
    Attempt.Spec bq q packet (bq.resumeWait q packet deadline timedOut elapsed now) := by
  have hf' : Fits bq { q with producerWaitNs := q.producerWaitNs + elapsed } := ⟨hf.1, hf.2⟩
  have hspec : Attempt.Spec bq { q with producerWaitNs := q.producerWaitNs + elapsed } packet
      (bq.resumeWait q packet deadline timedOut elapsed now) := by
    unfold resumeWait
    simp only
    split
    · exact spec_of_refuseShutdown hf' packet
    · split
      · exact spec_of_refuse hf' packet
      · exact pushLocked_spec hf' packet deadline now
  revert hspec
  cases bq.resumeWait q packet deadline timedOut elapsed now with
  | done outcome q' =>
    rintro ⟨⟨h1, h2, h3, h4⟩, ⟨h5, h6, h7⟩, h8, h9⟩
    exact ⟨⟨h1, h2, h3, h4⟩, ⟨h5, h6, h7⟩, h8, h9⟩
  | park q' =>
    rintro ⟨⟨h1, h2, h3, h4⟩, ⟨h5, h6, h7⟩, h8, h9⟩
    exact ⟨⟨h1, h2, h3, h4⟩, ⟨h5, h6, h7⟩, h8, h9⟩

/-! ## What decides a push -/

/-- What holds of the guard when a push ends in this way.  `big` says that the payload is too
large, `late` that the wait before this section timed out. -/
def Attempt.Decided (bq : BoundedQueue) (q : QueueState) (deadline : Option Instant)
    (big late : Bool) : Attempt → Prop
  | .done .shutdown _ => q.closed = true
  | .done .rejected _ => q.closed = false ∧ (big = true ∨ bq.capacity ≤ q.items.length ∧
      (late = true ∨ bq.policy = .reject ∨ bq.policy = .blockTimeout))
  | .done (.accepted _) _ => q.closed = false ∧ big = false ∧ q.items.length < bq.capacity
  | .done (.droppedOldest _) _ =>
    q.closed = false ∧ big = false ∧ bq.policy = .dropOldest ∧ bq.capacity ≤ q.items.length ∧
      (late = true → q.items.length < bq.capacity)
  | .done (.coalesced _) _ => q.closed = false ∧ big = false ∧ bq.policy = .coalesce ∧
      (late = true → q.items.length < bq.capacity)
  | .park _ => q.closed = false ∧ big = false ∧ bq.policy = .blockTimeout ∧
      bq.capacity ≤ q.items.length ∧ deadline.isSome = true

theorem waitForSlot_decided (hopen : q.closed = false) (hfull : bq.capacity ≤ q.items.length)
    (hp : bq.policy = .blockTimeout) (deadline : Option Instant) (late : Bool) (now : Instant) :
    Attempt.Decided bq q deadline false late (waitForSlot q deadline now) := by
  cases deadline with
  | none => exact ⟨hopen, .inr ⟨hfull, .inr (.inr hp)⟩⟩
  | some d =>
    by_cases hdue : d - now = 0
    · have hw : waitForSlot q (some d) now = Attempt.ofPair (refuse q) := if_pos hdue
      rw [hw]
      exact ⟨hopen, .inr ⟨hfull, .inr (.inr hp)⟩⟩
    · have hw : waitForSlot q (some d) now =
          .park { q with producerWaits := q.producerWaits + 1 } := if_neg hdue
      rw [hw]
      exact ⟨hopen, rfl, hp, hfull, rfl⟩

theorem pushLocked_decided (packet : IngressPacket) (deadline : Option Instant) {late : Bool}
    (hlate : late = true → q.items.length < bq.capacity) (now : Instant) :
    Attempt.Decided bq q deadline false late (bq.pushLocked q packet deadline now) := by
  unfold pushLocked
  split
  · next hclosed => exact hclosed
  · next hopen =>
    rw [Bool.not_eq_true] at hopen
    by_cases hc : bq.policy = .coalesce
    · rw [if_pos hc]
      unfold pushCoalesce
      split
      · next hempty =>
        refine ⟨hopen, rfl, ?_⟩
        rw [List.isEmpty_iff.1 hempty]
        exact bq.capacity_pos
      · exact ⟨hopen, rfl, hc, hlate⟩
    · rw [if_neg hc]
      split
      · next hroom => exact ⟨hopen, rfl, hroom⟩
      · next hfull =>
        have hfull := Nat.le_of_not_lt hfull
        split
        · next hp => exact ⟨hopen, .inr ⟨hfull, .inr (.inl hp)⟩⟩
        · next hp => exact ⟨hopen, rfl, hp, hfull, hlate⟩
        · next hp => exact absurd hp hc
        · next hp => exact waitForSlot_decided hopen hfull hp deadline late now

theorem pushSection_decided (packet : IngressPacket) (deadline : Option Instant) (now : Instant) :
    Attempt.Decided bq q deadline (bq.payloadTooLarge packet) false
      (bq.pushSection q packet deadline now) := by
  unfold pushSection
  split
  · next hbig =>
    split
    · next hclosed => exact hclosed
    · next hopen =>
      rw [Bool.not_eq_true] at hopen
      exact ⟨hopen, .inl hbig⟩
  · next hbig =>
    rw [Bool.not_eq_true] at hbig
    rw [hbig]
    exact pushLocked_decided packet deadline (fun h => absurd h Bool.false_ne_true) now

theorem resumeWait_decided (packet : IngressPacket) (deadline : Option Instant) (timedOut : Bool)
    (elapsed : ℕ) (now : Instant) : Attempt.Decided bq q deadline false timedOut
      (bq.resumeWait q packet deadline timedOut elapsed now) := by
  unfold resumeWait
  simp only
  split
  · next hclosed => exact hclosed
  · next hopen =>
    rw [Bool.not_eq_true] at hopen
    split
    · next hlate =>
      rw [Bool.and_eq_true, decide_eq_true_eq] at hlate
      exact ⟨hopen, .inr ⟨hlate.2, .inl hlate.1⟩⟩
    · next hlate =>
      rw [Bool.and_eq_true, decide_eq_true_eq, not_and, Nat.not_le] at hlate
      -- the waiting time is not one of the fields that decide
      have hlocked := pushLocked_decided (q := { q with producerWaitNs := q.producerWaitNs + elapsed })
        packet deadline hlate now
      exact hlocked

/-! ## The closing flag -/

theorem pushLocked_closed (packet : IngressPacket) (deadline : Option Instant) (now : Instant) :
    (bq.pushLocked q packet deadline now).guard.closed = q.closed := by
  unfold pushLocked
  split
  · rfl
  · split
    · unfold pushCoalesce
      split <;> rfl
    · split
      · rfl
      · split
        · rfl
        · rfl
        · unfold pushCoalesce
          split <;> rfl
        · unfold waitForSlot
          simp only
          split <;> split <;> rfl

/-- A push leaves the closing flag as it found it. -/
theorem pushSection_closed (packet : IngressPacket) (deadline : Option Instant) (now : Instant) :
    (bq.pushSection q packet deadline now).guard.closed = q.closed := by
  unfold pushSection
  split
  · split <;> rfl
  · exact pushLocked_closed packet deadline now

theorem resumeWait_closed (packet : IngressPacket) (deadline : Option Instant) (timedOut : Bool)
    (elapsed : ℕ) (now : Instant) :
    (bq.resumeWait q packet deadline timedOut elapsed now).guard.closed = q.closed := by
  unfold resumeWait
  simp only
  split
  · rfl
  · split
    · rfl
    · rw [pushLocked_closed]

/-! ## The consumer's sections -/

theorem pop_section (hf : Fits bq q) :
    Section bq none ((pop q).1.toList.map (.leave .taken)) q (pop q).2 := by
  have hcap := Nat.le_trans hf.depth hf.highWaterMark
  have hdepth := hf.depth
  unfold pop
  cases hitems : q.items with
  | nil =>
    refine ⟨⟨by rw [hitems]; exact .nil _, rfl, rfl, rfl⟩, ⟨rfl, rfl, rfl⟩, Nat.zero_le _, ?_⟩
    exact (Nat.max_eq_left (Nat.zero_le _)).symm
  | cons a rest =>
    rw [hitems, List.length_cons] at hcap hdepth
    refine ⟨⟨by rw [hitems]; exact runs_pop _ _ _, rfl, rfl, rfl⟩, ⟨rfl, rfl, rfl⟩, ?_, ?_⟩
    · simp only [List.tail_cons]
      omega
    · simp only [List.tail_cons]
      omega

theorem drainAll_section : Section bq none (q.items.map (.leave .taken)) q (drainAll q).2 where
  moves := by
    refine ⟨runs_clear _ _, ?_, ?_, ?_⟩ <;> simp [drainAll, leftCount]
  tally := ⟨rfl, rfl, rfl⟩
  depth := Nat.zero_le _
  highWaterMark := (Nat.max_eq_left (Nat.zero_le _)).symm

/-- A consumer's section takes and does not evict. -/
theorem taken_clear (xs : List IngressPacket) : taken (xs.map (.leave .taken)) = xs.length := by
  unfold taken leftCount
  rw [left_clear, List.filter_map, List.length_map]
  simp

end BoundedQueue

end Brainstem.Ingress
