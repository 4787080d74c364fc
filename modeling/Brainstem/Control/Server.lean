import Brainstem.Control.Http
import Brainstem.Health.Handle
import Brainstem.Lib.Permits
import Brainstem.Lib.Run

/-!
# The control server

One loop accepts connections and spawns a task for each, and the tasks, the loop and whoever
applies health events interleave.  A served connection holds one of `slots`, a connection that
is only told `busy` one of `busySlots`.  At any time, in any order of steps:

    slots + served = 32,  busySlots + refused = 4                          (Server.Balanced)

so a connection is refused only while 32 others are being served.
-/

namespace Brainstem.Control

open Brainstem.Health

def MAX_CONTROL_CONNS : ℕ := 32

def MAX_BUSY_CONNS : ℕ := 4

/-! ## Connections -/

/-- What the task of an accepted connection is doing. -/
inductive Conn where
  | reading
  | writing (response : List UInt8)
  | writingBusy
  | ended
  deriving DecidableEq, Repr

/-- The task holds one of `slots`. -/
def Conn.isServed : Conn → Bool
  | .reading | .writing _ => true
  | .writingBusy | .ended => false

/-- The task holds one of `busySlots`. -/
def Conn.isRefused : Conn → Bool
  | .writingBusy => true
  | .reading | .writing _ | .ended => false

/-- How an accepted connection is taken. -/
inductive Fate where
  | served
  | busy
  | dropped
  deriving DecidableEq, Repr

/-- The accept loop. -/
inductive Loop where
  | polling
  | backingOff
  | stopped
  deriving DecidableEq, Repr

/-- The receiving end of the shutdown watch. -/
structure Watch where
  value : Bool
  unseen : Bool
  closed : Bool
  deriving DecidableEq, Repr

structure Server where
  health : HealthHandle
  slots : ℕ
  busySlots : ℕ
  conns : List Conn
  loop : Loop
  shutdown : Watch

namespace Server

def shutdownSignaled (shutdown : Watch) : Bool := shutdown.value

/-- `changed` is an error when the sender is gone. -/
def shouldStopControl (changed : Except Unit Unit) (shutdown : Watch) : Bool :=
  changed matches .error _ || shutdownSignaled shutdown

/-- The listener is bound; a server that is told to stop beforehand never accepts. -/
def serveListener (health : HealthHandle) (shutdown : Watch) : Server where
  health := health
  slots := MAX_CONTROL_CONNS
  busySlots := MAX_BUSY_CONNS
  conns := []
  loop := if shutdownSignaled shutdown then .stopped else .polling
  shutdown := shutdown

def spawnServedConn (s : Server) (slots : ℕ) : Server :=
  { s with slots := slots, conns := s.conns ++ [.reading] }

def spawnBusyConn (s : Server) : Fate × Server :=
  match Permits.tryAcquire s.busySlots with
  | some busySlots =>
    (.busy, { s with busySlots := busySlots, conns := s.conns ++ [.writingBusy] })
  | none => (.dropped, { s with conns := s.conns ++ [.ended] })

def spawnControlConn (s : Server) : Fate × Server :=
  match Permits.tryAcquire s.slots with
  | some slots => (.served, s.spawnServedConn slots)
  | none => s.spawnBusyConn

/-- After an accept that failed the loop sleeps. -/
def spawnAccepted (s : Server) : Except String Unit → Option Fate × Server
  | .ok () => (some s.spawnControlConn.1, s.spawnControlConn.2)
  | .error _ => (none, { s with loop := .backingOff })

/-- The `select!` took `changed`, which is ready when the value is new or the sender is gone. -/
def pollShutdown (s : Server) : Option Server :=
  if s.shutdown.unseen ∨ s.shutdown.closed then
    let changed : Except Unit Unit := if s.shutdown.unseen then .ok () else .error ()
    some { s with
      loop := if shouldStopControl changed s.shutdown then .stopped else s.loop
      shutdown := { s.shutdown with unseen := false } }
  else none

/-- The task of a served connection has its request, or gives up. -/
def answer (toVec : HealthSnapshot → Option (List UInt8)) (fl : ℚ → ℚ) (s : Server) (i : ℕ)
    (reads : List (Io (List UInt8))) (now : Instant) : Server :=
  match readHttpRequest reads with
  | .ok request =>
    { s with
      conns := s.conns.set i (.writing (controlResponse toVec request (s.health.trySnapshot fl now))) }
  | .error _ => { s with slots := Permits.release s.slots, conns := s.conns.set i .ended }

end Server

/-! ## Steps -/

/-- One step of the loop, of a task, of whoever applies health events or of the daemon that
stops the server. -/
inductive ServerAction where
  | accept (accepted : Except String Unit)
  | wake
  | pollShutdown
  | request (i : ℕ) (reads : List (Io (List UInt8))) (now : Instant)
  | written (i : ℕ) (write : Io Unit)
  | busyWritten (i : ℕ)
  | sendStop
  | dropSender
  | beginApply
  | endApply (event : HealthEvent) (now : Instant)

/-- What can be seen of a step. -/
inductive ServerLabel where
  | silent
  | accepted (fate : Fate)
  | answered (request : String) (snapshot : Option HealthSnapshot)
  | replied (result : Except String (List UInt8))

/-- A request that was read is answered from a snapshot taken at once, if one can be had. -/
def answerLabel (fl : ℚ → ℚ) (health : HealthHandle) (reads : List (Io (List UInt8)))
    (now : Instant) : ServerLabel :=
  match readHttpRequest reads with
  | .ok request => .answered request (health.trySnapshot fl now)
  | .error e => .replied (.error e)

def Server.step (toVec : HealthSnapshot → Option (List UInt8)) (fl : ℚ → ℚ) (s : Server) :
    ServerAction → Option (ServerLabel × Server)
  | .accept accepted =>
    if s.loop = .polling then
      some (((s.spawnAccepted accepted).1.elim .silent .accepted), (s.spawnAccepted accepted).2)
    else none
  | .wake => if s.loop = .backingOff then some (.silent, { s with loop := .polling }) else none
  | .pollShutdown =>
    if s.loop = .polling then s.pollShutdown.map fun s' => (.silent, s') else none
  | .request i reads now =>
    match s.conns[i]? with
    | some .reading => some (answerLabel fl s.health reads now, s.answer toVec fl i reads now)
    | _ => none
  | .written i write =>
    match s.conns[i]? with
    | some (.writing response) =>
      some (.replied ((timedIo "control write timed out" write).map fun _ => response),
        { s with slots := Permits.release s.slots, conns := s.conns.set i .ended })
    | _ => none
  | .busyWritten i =>
    match s.conns[i]? with
    | some .writingBusy =>
      some (.silent,
        { s with busySlots := Permits.release s.busySlots, conns := s.conns.set i .ended })
    | _ => none
  | .sendStop => some (.silent, { s with shutdown := { s.shutdown with value := true, unseen := true } })
  | .dropSender => some (.silent, { s with shutdown := { s.shutdown with closed := true } })
  | .beginApply => s.health.beginApply.map fun health => (.silent, { s with health := health })
  | .endApply event now =>
    if s.health.writing then
      some (.silent, { s with health := s.health.endApply fl event now })
    else none

/-! ## What a step does -/

section Moves

variable (toVec : HealthSnapshot → Option (List UInt8)) (fl : ℚ → ℚ)

/-- The kinds of steps, by what they change. -/
inductive Server.Moves (s : Server) : ServerLabel → Server → Prop where
  | accepted (hpolling : s.loop = .polling) :
    Moves s (.accepted s.spawnControlConn.1) s.spawnControlConn.2
  | looped {loop : Loop} (shutdown : Watch) (hstopped : s.loop = .stopped → loop = .stopped)
      (htold : loop = .stopped → s.loop = .stopped ∨ s.shutdown.value = true ∨ s.shutdown.closed = true) :
    Moves s .silent { s with loop := loop, shutdown := shutdown }
  | answered {i : ℕ} (hi : s.conns[i]? = some .reading) (request : String) (now : Instant) :
    Moves s (.answered request (s.health.trySnapshot fl now))
      { s with
        conns := s.conns.set i
          (.writing (controlResponse toVec request (s.health.trySnapshot fl now))) }
  | gaveUp {i : ℕ} (hi : s.conns[i]? = some .reading) (e : String) :
    Moves s (.replied (.error e))
      { s with slots := Permits.release s.slots, conns := s.conns.set i .ended }
  | written {i : ℕ} {response : List UInt8} (hi : s.conns[i]? = some (.writing response))
      (write : Except String Unit) :
    Moves s (.replied (write.map fun _ => response))
      { s with slots := Permits.release s.slots, conns := s.conns.set i .ended }
  | busyWritten {i : ℕ} (hi : s.conns[i]? = some .writingBusy) :
    Moves s .silent
      { s with busySlots := Permits.release s.busySlots, conns := s.conns.set i .ended }
  | applied {health : HealthHandle} (hforward : s.health.inner.Forward health.inner) :
    Moves s .silent { s with health := health }

variable {toVec fl} {s s' : Server}

theorem Server.moves_pollShutdown (hpolling : s.loop = .polling) (h : s.pollShutdown = some s') :
    s.Moves toVec fl .silent s' := by
  unfold pollShutdown at h
  split at h
  · next hready =>
    cases h
    refine .looped _ (fun hstopped => absurd (hpolling.symm.trans hstopped) (by decide)) fun hstop => ?_
    by_cases hunseen : s.shutdown.unseen = true
    · rw [if_pos hunseen] at hstop
      by_cases hvalue : s.shutdown.value = true
      · exact .inr (.inl hvalue)
      · -- a value that is new and false does not stop the loop
        unfold shouldStopControl shutdownSignaled at hstop
        rw [if_neg (by simpa using hvalue)] at hstop
        exact .inl hstop
    · exact .inr (.inr (hready.resolve_left hunseen))
  · cases h

theorem Server.moves_answer {i : ℕ} (hi : s.conns[i]? = some .reading)
    (reads : List (Io (List UInt8))) (now : Instant) :
    s.Moves toVec fl (answerLabel fl s.health reads now) (s.answer toVec fl i reads now) := by
  unfold answerLabel answer
  split
  · next request h => exact .answered hi request now
  · next e h => exact .gaveUp hi e

theorem Server.moves_of_step {a : ServerAction} {l : ServerLabel}
    (h : s.step toVec fl a = some (l, s')) : s.Moves toVec fl l s' := by
  unfold step at h
  split at h
  · next accepted =>
    split at h
    · next hpolling =>
      cases h
      cases accepted with
      | ok _ => exact .accepted hpolling
      | error e =>
        exact .looped s.shutdown (fun hstopped => absurd (hpolling.symm.trans hstopped) (by decide))
          fun hstop => by cases hstop
    · cases h
  · split at h
    · next hsleeping =>
      cases h
      exact .looped s.shutdown (fun hstopped => absurd (hsleeping.symm.trans hstopped) (by decide))
        fun hstop => by cases hstop
    · cases h
  · split at h
    · next hpolling =>
      obtain ⟨t, ht, heq⟩ := Option.map_eq_some_iff.1 h
      cases heq
      exact moves_pollShutdown hpolling ht
    · cases h
  · next i reads now =>
    split at h
    · next hi =>
      cases h
      exact moves_answer hi reads now
    · cases h
  · next i write =>
    split at h
    · next response hi =>
      cases h
      exact .written hi _
    · cases h
  · next i =>
    split at h
    · next hi =>
      cases h
      exact .busyWritten hi
    · cases h
  · cases h
    exact .looped _ id .inl
  · cases h
    exact .looped _ id .inl
  · obtain ⟨health, hbegin, heq⟩ := Option.map_eq_some_iff.1 h
    cases heq
    exact .applied (HealthHandle.inner_beginApply hbegin ▸ .refl _)
  · next event now =>
    split at h
    · cases h
      exact .applied (s.health.inner.apply_forward fl event now)
    · cases h

end Moves

/-! ## Permits -/

/-- No permit of either kind is ever lost or held twice. -/
structure Server.Balanced (s : Server) : Prop where
  slots : Permits.Balanced Conn.isServed MAX_CONTROL_CONNS s.slots s.conns
  busySlots : Permits.Balanced Conn.isRefused MAX_BUSY_CONNS s.busySlots s.conns

/-- The fate of a connection that is accepted now. -/
def Server.Admits (s : Server) : Fate → Prop
  | .served => s.conns.countP Conn.isServed < MAX_CONTROL_CONNS
  | .busy => s.conns.countP Conn.isServed = MAX_CONTROL_CONNS ∧
      s.conns.countP Conn.isRefused < MAX_BUSY_CONNS
  | .dropped => s.conns.countP Conn.isServed = MAX_CONTROL_CONNS ∧
      s.conns.countP Conn.isRefused = MAX_BUSY_CONNS

namespace Server

variable {toVec : HealthSnapshot → Option (List UInt8)} {fl : ℚ → ℚ} {s s' : Server}

theorem Balanced.serveListener (health : HealthHandle) (shutdown : Watch) :
    (serveListener health shutdown).Balanced := ⟨.start _ _, .start _ _⟩

theorem Balanced.spawnBusyConn (h : s.Balanced) (hfull : Permits.tryAcquire s.slots = none) :
    s.Admits s.spawnBusyConn.1 ∧ s.spawnBusyConn.2.Balanced := by
  have hslots := h.slots.tryAcquire_eq_none.1 hfull
  unfold Server.spawnBusyConn
  split
  · next busySlots hbusy =>
    refine ⟨⟨hslots, ?_⟩, h.slots.spawn rfl, h.busySlots.spawn_holder hbusy rfl⟩
    have hle := h.busySlots.held_le
    have hne : ¬s.conns.countP Conn.isRefused = MAX_BUSY_CONNS := by
      intro hall
      rw [h.busySlots.tryAcquire_eq_none.2 hall] at hbusy
      cases hbusy
    omega
  · next hbusy =>
    exact ⟨⟨hslots, h.busySlots.tryAcquire_eq_none.1 hbusy⟩, h.slots.spawn rfl,
      h.busySlots.spawn rfl⟩

theorem Balanced.spawnControlConn (h : s.Balanced) :
    s.Admits s.spawnControlConn.1 ∧ s.spawnControlConn.2.Balanced := by
  unfold Server.spawnControlConn
  split
  · next slots hfree =>
    refine ⟨?_, h.slots.spawn_holder hfree rfl, h.busySlots.spawn rfl⟩
    have hle := h.slots.held_le
    have hne : ¬s.conns.countP Conn.isServed = MAX_CONTROL_CONNS := by
      intro hall
      rw [h.slots.tryAcquire_eq_none.2 hall] at hfree
      cases hfree
    show s.conns.countP Conn.isServed < MAX_CONTROL_CONNS
    omega
  · next hfull => exact h.spawnBusyConn hfull

theorem Balanced.moves (h : s.Balanced) {l : ServerLabel} (hm : s.Moves toVec fl l s') :
    s'.Balanced := by
  cases hm with
  | accepted hpolling => exact h.spawnControlConn.2
  | looped shutdown hstopped htold => exact ⟨h.slots, h.busySlots⟩
  | answered hi request now => exact ⟨h.slots.move hi rfl, h.busySlots.move hi rfl⟩
  | gaveUp hi e => exact ⟨h.slots.finish hi rfl rfl, h.busySlots.move hi rfl⟩
  | written hi write => exact ⟨h.slots.finish hi rfl rfl, h.busySlots.move hi rfl⟩
  | busyWritten hi => exact ⟨h.slots.move hi rfl, h.busySlots.finish hi rfl rfl⟩
  | applied hforward => exact ⟨h.slots, h.busySlots⟩

/-- When no task is left, every permit is free again. -/
theorem Balanced.idle (h : s.Balanced) (hended : ∀ c ∈ s.conns, c = .ended) :
    s.slots = MAX_CONTROL_CONNS ∧ s.busySlots = MAX_BUSY_CONNS := by
  have hnone (holds : Conn → Bool) (hholds : holds .ended = false) : s.conns.countP holds = 0 := by
    rw [List.countP_eq_zero]
    intro c hc
    rw [hended c hc, hholds]
    simp
  have hslots := h.slots
  have hbusy := h.busySlots
  unfold Permits.Balanced at hslots hbusy
  rw [hnone _ rfl] at hslots hbusy
  exact ⟨by omega, by omega⟩

/-! ## Admission -/

/-- One step, as far as it is about who is let in. -/
structure Orderly (s : Server) (l : ServerLabel) (s' : Server) : Prop where
  accepts : ∀ fate, l = .accepted fate →
    s.loop = .polling ∧ s.Admits fate ∧ s'.conns.length = s.conns.length + 1
  others : (∀ fate, l ≠ .accepted fate) → s'.conns.length = s.conns.length
  stopped : s.loop = .stopped → s'.loop = .stopped
  told : s'.loop = .stopped → s.loop = .stopped ∨ s.shutdown.value = true ∨ s.shutdown.closed = true

theorem spawnControlConn_conns : s.spawnControlConn.2.loop = s.loop ∧
    s.spawnControlConn.2.conns.length = s.conns.length + 1 := by
  unfold Server.spawnControlConn spawnServedConn Server.spawnBusyConn
  split
  · exact ⟨rfl, List.length_append⟩
  · split <;> exact ⟨rfl, List.length_append⟩

theorem Balanced.orderly (h : s.Balanced) {l : ServerLabel} (hm : s.Moves toVec fl l s') :
    s.Orderly l s' := by
  cases hm with
  | accepted hpolling =>
    obtain ⟨hloop, hlength⟩ := s.spawnControlConn_conns
    refine ⟨?_, fun hother => absurd rfl (hother _), fun hstopped => hloop ▸ hstopped,
      fun hstopped => .inl (hloop ▸ hstopped)⟩
    rintro fate heq
    cases heq
    exact ⟨hpolling, h.spawnControlConn.1, hlength⟩
  | looped shutdown hstopped htold => exact ⟨nofun, fun _ => rfl, hstopped, htold⟩
  | answered hi request now => exact ⟨nofun, fun _ => List.length_set, id, .inl⟩
  | gaveUp hi e => exact ⟨nofun, fun _ => List.length_set, id, .inl⟩
  | written hi write => exact ⟨nofun, fun _ => List.length_set, id, .inl⟩
  | busyWritten hi => exact ⟨nofun, fun _ => List.length_set, id, .inl⟩
  | applied hforward => exact ⟨nofun, fun _ => rfl, id, .inl⟩

/-- However the steps interleave: at most 32 connections are served and at most 4 told `busy`
at a time, a connection is refused only while all places are taken, no place is lost, and a
loop that stopped was told to and lets nobody in. -/
theorem control_admission (toVec : HealthSnapshot → Option (List UInt8)) (fl : ℚ → ℚ)
    (health : HealthHandle) (shutdown : Watch) {trace : List (ServerLabel × Server)} {s : Server}
    (hr : Run (step toVec fl) (serveListener health shutdown) trace s) :
    s.Balanced ∧
      Run.Each Orderly (serveListener health shutdown) trace ∧
      s.conns.countP Conn.isServed ≤ MAX_CONTROL_CONNS ∧
      s.conns.countP Conn.isRefused ≤ MAX_BUSY_CONNS ∧
      ((∀ c ∈ s.conns, c = .ended) → s.slots = MAX_CONTROL_CONNS ∧ s.busySlots = MAX_BUSY_CONNS) := by
  obtain ⟨hbalanced, heach⟩ := Run.each (Balanced.serveListener health shutdown)
    (fun s a l s' h hs => h.moves (moves_of_step hs)) (fun s a l s' h hs => h.orderly (moves_of_step hs)) hr
  exact ⟨hbalanced, heach, hbalanced.slots.held_le, hbalanced.busySlots.held_le, hbalanced.idle⟩

/-- A server whose machine has started. -/
def freshServer : Server :=
  serveListener (.started id (.default id) 0) ⟨false, false, false⟩

/-- Of 37 connections at once, 32 are served, 4 are told `busy` and one is dropped. -/
theorem control_admission_crowd :
    ∃ (trace : List (ServerLabel × Server)) (s : Server),
      Run (step (fun _ => none) id) freshServer trace s ∧ s.conns.countP Conn.isServed = 32 ∧
        s.conns.countP Conn.isRefused = 4 ∧ s.conns.length = 37 ∧ s.Balanced ∧
        Run.Each Orderly freshServer trace := by
  have hrun : (Run.exec (step (fun _ => none) id) (List.replicate 37 (.accept (.ok ())))
      ([], freshServer)).map (fun r => (r.2.conns.countP Conn.isServed,
        r.2.conns.countP Conn.isRefused, r.2.conns.length)) = some (32, 4, 37) := by
    decide +kernel
  obtain ⟨⟨trace, s⟩, hx, hm⟩ := Option.map_eq_some_iff.1 hrun
  injection hm with hserved hm
  injection hm with hrefused hlength
  have hr := Run.of_exec .refl hx
  have hadmission := control_admission (fun _ => none) id _ _ hr
  exact ⟨trace, s, hr, hserved, hrefused, hlength, hadmission.1, hadmission.2.1⟩

end Server

end Brainstem.Control
