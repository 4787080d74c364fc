import Brainstem.Control.Server

/-!
# What clients of the control server are told

A reply is worked out at one moment, from the machine as it is between two events, and goes
out later.  Whatever the interleaving, the snapshots behind the replies are those of one machine
that only moves forward:

    (snapshots trace).Pairwise HealthSnapshot.Forward                    (control_replies)

so a counter that is scraped twice does not fall, whichever connections scraped it.
-/

namespace Brainstem.Control

open Brainstem.Health

section Labels

def ServerLabel.snapshot? : ServerLabel → Option HealthSnapshot
  | .answered _ snapshot => snapshot
  | _ => none

/-- The response that a task works out. -/
def ServerLabel.answer? (toVec : HealthSnapshot → Option (List UInt8)) :
    ServerLabel → Option (List UInt8)
  | .answered request snapshot => some (controlResponse toVec request snapshot)
  | _ => none

/-- The response that goes out. -/
def ServerLabel.reply? : ServerLabel → Option (List UInt8)
  | .replied (.ok response) => some response
  | _ => none

/-- The snapshots that requests were answered from, in the order in which they were taken. -/
def snapshots (trace : List (ServerLabel × Server)) : List HealthSnapshot :=
  Run.observe ServerLabel.snapshot? trace

def answers (toVec : HealthSnapshot → Option (List UInt8)) (trace : List (ServerLabel × Server)) :
    List (List UInt8) :=
  Run.observe (·.answer? toVec) trace

def replies (trace : List (ServerLabel × Server)) : List (List UInt8) :=
  Run.observe ServerLabel.reply? trace

end Labels

namespace Server

/-- The task is about to send this response. -/
def Sends (response : List UInt8) (c : Conn) : Bool := c == .writing response

theorem sends_writing (out response : List UInt8) :
    (if Sends response (.writing out) = true then 1 else 0) = [out].count response := by
  unfold Sends
  rw [List.count_singleton]
  simp

section Told

variable (toVec : HealthSnapshot → Option (List UInt8)) (fl : ℚ → ℚ)

structure Told (trace : List (ServerLabel × Server)) (s : Server) : Prop where
  /-- Each snapshot is one of the machine at an earlier moment. -/
  taken : ∀ snap ∈ snapshots trace, ∃ (m : HealthMachine) (now : Instant),
    m.Forward s.health.inner ∧ snap = m.snapshot fl now
  forward : (snapshots trace).Pairwise HealthSnapshot.Forward
  /-- What went out and what is going out was worked out, each time for one connection. -/
  once : ∀ response, (replies trace).count response + s.conns.countP (Sends response) ≤
    (answers toVec trace).count response

variable {toVec fl} {trace : List (ServerLabel × Server)} {s s' : Server} {l : ServerLabel}

theorem Told.start (health : HealthHandle) (shutdown : Watch) :
    Told toVec fl [] (serveListener health shutdown) where
  taken snap hmem := absurd hmem List.not_mem_nil
  forward := List.Pairwise.nil
  once response := by
    show ([] : List (List UInt8)).count response + ([] : List Conn).countP (Sends response) ≤ _
    rw [List.count_nil, List.countP_nil]
    exact Nat.zero_le _

theorem Told.concat (h : Told toVec fl trace s)
    (hforward : s.health.inner.Forward s'.health.inner)
    (hsnap : ∀ snap, l.snapshot? = some snap → ∃ now, snap = s'.health.inner.snapshot fl now)
    (hconns : ∀ response, l.reply?.toList.count response + s'.conns.countP (Sends response) ≤
      (l.answer? toVec).toList.count response + s.conns.countP (Sends response)) :
    Told toVec fl (trace ++ [(l, s')]) s' := by
  have hs : snapshots (trace ++ [(l, s')]) = snapshots trace ++ l.snapshot?.toList :=
    Run.observe_concat _ _ _
  have hr : replies (trace ++ [(l, s')]) = replies trace ++ l.reply?.toList :=
    Run.observe_concat _ _ _
  have ha : answers toVec (trace ++ [(l, s')]) = answers toVec trace ++ (l.answer? toVec).toList :=
    Run.observe_concat _ _ _
  refine ⟨?_, ?_, fun response => ?_⟩
  · intro snap hmem
    rw [hs, List.mem_append] at hmem
    rcases hmem with hold | hnew
    · obtain ⟨m, now, hm, heq⟩ := h.taken snap hold
      exact ⟨m, now, hm.trans hforward, heq⟩
    · obtain ⟨now, heq⟩ := hsnap snap (Option.mem_toList.1 hnew)
      exact ⟨s'.health.inner, now, .refl _, heq⟩
  · rw [hs, List.pairwise_append]
    refine ⟨h.forward, ?_, ?_⟩
    · cases l.snapshot? with
      | none => exact List.Pairwise.nil
      | some snap => exact List.pairwise_singleton _ snap
    · intro old hold new hnew
      obtain ⟨m, now, hm, rfl⟩ := h.taken old hold
      obtain ⟨now', rfl⟩ := hsnap new (Option.mem_toList.1 hnew)
      exact (hm.trans hforward).snapshot fl now now'
  · have honce := h.once response
    have hstep := hconns response
    rw [hr, ha, List.count_append, List.count_append]
    omega

/-- A step that works nothing out. -/
theorem Told.other (h : Told toVec fl trace s) (hforward : s.health.inner.Forward s'.health.inner)
    (hsnap : l.snapshot? = none)
    (hconns : ∀ response, l.reply?.toList.count response + s'.conns.countP (Sends response) ≤
      s.conns.countP (Sends response)) : Told toVec fl (trace ++ [(l, s')]) s' := by
  refine h.concat hforward (fun snap hsome => ?_) fun response =>
    (hconns response).trans (Nat.le_add_left _ _)
  rw [hsnap] at hsome
  cases hsome

theorem countP_sends {i : ℕ} {c : Conn} (hi : s.conns[i]? = some c) (c' : Conn)
    (response : List UInt8) : (s.conns.set i c').countP (Sends response) +
      (if Sends response c = true then 1 else 0) =
        s.conns.countP (Sends response) + (if Sends response c' = true then 1 else 0) :=
  Permits.countP_set hi c'

theorem countP_sends_ended {i : ℕ} {c : Conn} (hi : s.conns[i]? = some c) (response : List UInt8) :
    (s.conns.set i .ended).countP (Sends response) + (if Sends response c = true then 1 else 0) =
      s.conns.countP (Sends response) := countP_sends hi .ended response

theorem spawnControlConn_sends (response : List UInt8) :
    s.spawnControlConn.2.conns.countP (Sends response) = s.conns.countP (Sends response) := by
  have hnew (c : Conn) (hc : Sends response c = false) :
      (s.conns ++ [c]).countP (Sends response) = s.conns.countP (Sends response) := by
    rw [List.countP_append, List.countP_singleton, hc]
    rfl
  unfold spawnControlConn spawnServedConn spawnBusyConn
  split
  · exact hnew _ rfl
  · split <;> exact hnew _ rfl

theorem spawnControlConn_health : s.spawnControlConn.2.health = s.health := by
  unfold spawnControlConn spawnServedConn spawnBusyConn
  split
  · rfl
  · split <;> rfl

theorem Told.moves (h : Told toVec fl trace s) (hm : s.Moves toVec fl l s') :
    Told toVec fl (trace ++ [(l, s')]) s' := by
  cases hm with
  | accepted hpolling =>
    refine h.other ?_ rfl fun response => ?_
    · rw [spawnControlConn_health]
      exact .refl _
    · rw [spawnControlConn_sends]
      exact le_of_eq (Nat.zero_add _)
  | looped shutdown hstopped htold =>
    exact h.other (.refl _) rfl fun response => le_of_eq (Nat.zero_add _)
  | answered hi request now =>
    refine h.concat (.refl _) (fun snap hsnap => ⟨now, HealthHandle.trySnapshot_eq_some fl hsnap⟩)
      fun response => ?_
    unfold ServerLabel.reply? ServerLabel.answer?
    dsimp only
    generalize controlResponse toVec request (s.health.trySnapshot fl now) = out
    have hset := countP_sends hi (.writing out) response
    rw [sends_writing] at hset
    rw [Option.toList_none, List.count_nil, Option.toList_some]
    omega
  | gaveUp hi e =>
    refine h.other (.refl _) rfl fun response => ?_
    have hset := countP_sends_ended hi response
    unfold ServerLabel.reply?
    rw [Option.toList_none, List.count_nil]
    dsimp only
    omega
  | @written i out hi write =>
    refine h.other (.refl _) ?_ fun response => ?_
    · cases write <;> rfl
    · have hset := countP_sends_ended hi response
      rw [sends_writing] at hset
      have hreply : (ServerLabel.replied (write.map fun _ => out)).reply?.toList.count response ≤
          [out].count response := by
        cases write with
        | error e => exact Nat.zero_le _
        | ok _ => exact le_rfl
      dsimp only at *
      omega
  | busyWritten hi =>
    refine h.other (.refl _) rfl fun response => ?_
    have hset := countP_sends_ended hi response
    unfold ServerLabel.reply?
    rw [Option.toList_none, List.count_nil]
    dsimp only
    omega
  | applied hforward =>
    exact h.other hforward rfl fun response => le_of_eq (Nat.zero_add _)

end Told

/-- A request that was read and is told `busy` found a writer at the machine. -/
def BusyOnlyWhileWriting (s : Server) (l : ServerLabel) (_ : Server) : Prop :=
  ∀ request, l = .answered request none → s.health.writing = true

section Run

variable {toVec : HealthSnapshot → Option (List UInt8)} {fl : ℚ → ℚ} {s s' : Server}

theorem busyOnlyWhileWriting {l : ServerLabel} (hm : s.Moves toVec fl l s') :
    s.BusyOnlyWhileWriting l s' := by
  intro request heq
  cases hm with
  | answered hi request' now =>
    rw [ServerLabel.answered.injEq] at heq
    exact (HealthHandle.trySnapshot_eq_none fl).1 heq.2
  | _ => cases heq

variable (toVec fl) in
/-- However the steps interleave: the snapshots behind the replies move forward, a request that
was read is told `busy` only while a writer holds the machine, and every response that goes out
was worked out from a request and a snapshot, once for each time it goes out. -/
theorem control_replies (health : HealthHandle) (shutdown : Watch)
    {trace : List (ServerLabel × Server)}
    (hr : Run (step toVec fl) (serveListener health shutdown) trace s) :
    (snapshots trace).Pairwise HealthSnapshot.Forward ∧
      Run.Each BusyOnlyWhileWriting (serveListener health shutdown) trace ∧
      ∀ response, (replies trace).count response ≤ (answers toVec trace).count response := by
  have htold : Told toVec fl trace s :=
    hr.invariant (.start health shutdown) fun trace s a l s' h hs => h.moves (moves_of_step hs)
  refine ⟨htold.forward, ?_, fun response => le_of_add_le_left (htold.once response)⟩
  have hstep (s : Server) (a : ServerAction) (l : ServerLabel) (s' : Server) (_ : True)
      (hs : step toVec fl s a = some (l, s')) : s.BusyOnlyWhileWriting l s' :=
    busyOnlyWhileWriting (moves_of_step hs)
  exact (hr.each trivial (fun _ _ _ _ _ _ => trivial) hstep).2

end Run

/-- Three requests: one before a drain begins, one while it is written down, one after it. -/
def drainScrape : List ServerAction :=
  [.accept (.ok ()), .accept (.ok ()), .accept (.ok ()), .request 0 [.done [10]] 1, .beginApply,
    .request 1 [.done [10]] 2, .endApply .beginDrain 3, .request 2 [.done [10]] 4,
    .written 1 (.done ()), .written 0 (.done ())]

theorem control_replies_drain :
    ∃ (trace : List (ServerLabel × Server)) (s : Server),
      Run (step (fun _ => none) id) freshServer trace s ∧ (snapshots trace).length = 2 ∧
        (replies trace).length = 2 ∧ (snapshots trace).Pairwise HealthSnapshot.Forward ∧
        Run.Each BusyOnlyWhileWriting freshServer trace := by
  have hrun : (Run.exec (step (fun _ => none) id) drainScrape ([], freshServer)).map
      (fun r => ((snapshots r.1).length, (replies r.1).length)) = some (2, 2) := by
    decide +kernel
  obtain ⟨⟨trace, s⟩, hx, hm⟩ := Option.map_eq_some_iff.1 hrun
  injection hm with hsnapshots hreplies
  have hr := Run.of_exec .refl hx
  have htold := control_replies (fun _ => none) id _ _ hr
  exact ⟨trace, s, hr, hsnapshots, hreplies, htold.1, htold.2.1⟩

end Server

end Brainstem.Control
