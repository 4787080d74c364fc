import Brainstem.Control.Framing
import Brainstem.Control.Replies
import Brainstem.Daemon.LiveGate
import Brainstem.Daemon.Script

/-!
# A run and the supervisor that probes it

The daemon goes through its script while the tasks of the control server answer probes, and the
two share the health machine.  In any interleaving, a probe of `ready` is answered 200 only in
the window in which the daemon serves, and always there:

    start control, ..., checkpoint │ ticks │ drain, ..., stop control, flush, shutdown
                               503 │  200  │ 503, or no answer at all           (supervised_probe)

and nothing a client does keeps the daemon from coming to its end.
-/

namespace Brainstem.Daemon

open Brainstem.Health
open Brainstem.Control
open Brainstem.Checkpoint
open Brainstem.Ingress hiding Instant

/-! ## The two together -/

/-- What of the script has been done, what is left of it, and the server. -/
structure Supervised where
  done : List LifeEffect
  todo : List LifeEffect
  server : Server

inductive SupervisedAction where
  | daemon
  | server (a : ServerAction)

/-- Some steps of the server are made by the daemon. -/
def ofServer : ServerAction → Bool
  | .accept _ | .wake | .pollShutdown | .request _ _ _ | .written _ _ | .busyWritten _ => true
  | .sendStop | .dropSender | .beginApply | .endApply _ _ => false

namespace Supervised

section Step

variable (toVec : HealthSnapshot → Option (List UInt8)) (fl : ℚ → ℚ)

/-- The daemon takes one of the steps of the server. -/
def act (s : Supervised) (a : ServerAction) : Option Supervised :=
  (s.server.step toVec fl a).map fun r => { s with server := r.2 }

/-- An `apply` takes the lock first; `stop_control` sends `true`, drops the sender and waits for
the task. -/
def daemonStep (s : Supervised) : Option Supervised :=
  match s.todo with
  | [] => none
  | .apply event now :: todo =>
    if s.server.health.writing then
      (s.act toVec fl (.endApply event now)).map fun s' =>
        { s' with done := s.done ++ [.apply event now], todo := todo }
    else s.act toVec fl .beginApply
  | .stopControl :: todo =>
    if ¬s.server.shutdown.value then s.act toVec fl .sendStop
    else if ¬s.server.shutdown.closed then s.act toVec fl .dropSender
    else if s.server.loop = .stopped then
      some { s with done := s.done ++ [.stopControl], todo := todo }
    else none
  | e :: todo => some { s with done := s.done ++ [e], todo := todo }

def step (s : Supervised) : SupervisedAction → Option (ServerLabel × Supervised)
  | .daemon => (s.daemonStep toVec fl).map fun s' => (.silent, s')
  | .server a =>
    if ofServer a then (s.server.step toVec fl a).map fun r => (r.1, { s with server := r.2 })
    else none

end Step

/-- The control surface is bound, and nothing else of the script has been done. -/
def start (health : HealthMachine) (script : List LifeEffect) : Supervised where
  done := [.startControl]
  todo := script.tail
  server := .serveListener (.fromMachine health) ⟨false, false, false⟩

/-! ## What holds throughout -/

structure Follows (fl : ℚ → ℚ) (health : HealthMachine) (script : List LifeEffect)
    (s : Supervised) : Prop where
  script : s.done ++ s.todo = script
  health : s.server.health.inner = health.run fl (events s.done)
  /-- Only the daemon writes. -/
  writing : s.server.health.writing = true → ∃ event now todo, s.todo = .apply event now :: todo
  balanced : s.server.Balanced
  stopped : .stopControl ∈ s.done → s.server.loop = .stopped

section Follows

variable {toVec : HealthSnapshot → Option (List UInt8)} {fl : ℚ → ℚ} {health : HealthMachine}
  {script : List LifeEffect} {s s' : Supervised}

theorem Follows.start {rest : List LifeEffect} (h : script = .startControl :: rest) :
    Follows fl health script (start health script) where
  script := by
    rw [h]
    rfl
  health := rfl
  writing := nofun
  balanced := Server.Balanced.serveListener _ _
  stopped hmem := by
    rcases List.mem_singleton.1 hmem

/-- A step of the server, whoever makes it, that leaves the machine alone. -/
theorem Follows.server (h : Follows fl health script s) {a : ServerAction} {l : ServerLabel}
    {server : Server} (hs : s.server.step toVec fl a = some (l, server))
    (hinner : server.health.inner = s.server.health.inner)
    (hwriting : server.health.writing = true →
      ∃ event now todo, s.todo = .apply event now :: todo) :
    Follows fl health script { s with server := server } where
  script := h.script
  health := hinner.trans h.health
  writing := hwriting
  balanced := h.balanced.moves (Server.moves_of_step hs)
  stopped hmem := (h.balanced.orderly (Server.moves_of_step hs)).stopped (h.stopped hmem)

/-- One effect is done. -/
theorem Follows.move {e : LifeEffect} {todo : List LifeEffect} (h : Follows fl health script s)
    (htodo : s.todo = e :: todo) {server : Server}
    (hinner : server.health.inner = health.run fl (events (s.done ++ [e])))
    (hfree : server.health.writing = false) (hbalanced : server.Balanced)
    (hloop : s.server.loop = .stopped → server.loop = .stopped)
    (hstop : e = .stopControl → server.loop = .stopped) :
    Follows fl health script ⟨s.done ++ [e], todo, server⟩ where
  script := by
    rw [List.append_assoc, List.singleton_append, ← htodo]
    exact h.script
  health := hinner
  writing hwriting := by
    rw [hfree] at hwriting
    cases hwriting
  balanced := hbalanced
  stopped hmem := by
    rcases List.mem_append.1 hmem with hmem | hmem
    · exact hloop (h.stopped hmem)
    · exact hstop (List.mem_singleton.1 hmem).symm

/-- Nobody writes while the daemon does something else. -/
theorem Follows.free (h : Follows fl health script s) {e : LifeEffect} {todo : List LifeEffect}
    (htodo : s.todo = e :: todo) (he : ∀ event now, e ≠ .apply event now) :
    s.server.health.writing = false := by
  by_contra hwriting
  obtain ⟨event, now, todo', heq⟩ := h.writing (Bool.not_eq_false _ ▸ hwriting)
  rw [htodo] at heq
  exact he event now (List.cons.inj heq).1

/-- Only an `apply` touches the lock. -/
theorem health_of_step {a : ServerAction} {l : ServerLabel} {t t' : Server}
    (hs : t.step toVec fl a = some (l, t')) (hbegin : a ≠ .beginApply)
    (hend : ∀ event now, a ≠ .endApply event now) : t'.health = t.health := by
  unfold Server.step at hs
  split at hs
  · next accepted =>
    split at hs
    · cases hs
      cases accepted with
      | ok _ => exact Server.spawnControlConn_health
      | error e => rfl
    · cases hs
  · split at hs
    · cases hs
      rfl
    · cases hs
  · split at hs
    · obtain ⟨t'', ht, heq⟩ := Option.map_eq_some_iff.1 hs
      cases heq
      unfold Server.pollShutdown at ht
      split at ht
      · cases ht
        rfl
      · cases ht
    · cases hs
  · split at hs
    · cases hs
      unfold Server.answer
      split <;> rfl
    · cases hs
  · split at hs
    · cases hs
      rfl
    · cases hs
  · split at hs
    · cases hs
      rfl
    · cases hs
  · cases hs
    rfl
  · cases hs
    rfl
  · exact absurd rfl hbegin
  · next event now => exact absurd rfl (hend event now)

/-- A step that leaves the lock alone. -/
theorem Follows.untouched (h : Follows fl health script s) {a : ServerAction} {l : ServerLabel}
    {server : Server} (hs : s.server.step toVec fl a = some (l, server))
    (hbegin : a ≠ .beginApply) (hend : ∀ event now, a ≠ .endApply event now) :
    Follows fl health script { s with server := server } := by
  have hhealth := health_of_step hs hbegin hend
  refine h.server hs (by rw [hhealth]) fun hwriting => h.writing ?_
  rw [← hhealth]
  exact hwriting

theorem Follows.act (h : Follows fl health script s) {a : ServerAction}
    (hs : s.act toVec fl a = some s') (hbegin : a ≠ .beginApply)
    (hend : ∀ event now, a ≠ .endApply event now) : Follows fl health script s' := by
  obtain ⟨r, hr, rfl⟩ := Option.map_eq_some_iff.1 hs
  exact h.untouched hr hbegin hend

theorem Follows.beginApply (h : Follows fl health script s) {event : HealthEvent} {now : Instant}
    {todo : List LifeEffect} (htodo : s.todo = .apply event now :: todo)
    (hs : s.act toVec fl .beginApply = some s') : Follows fl health script s' := by
  obtain ⟨r, hr, rfl⟩ := Option.map_eq_some_iff.1 hs
  refine h.server hr ?_ fun _ => ⟨event, now, todo, htodo⟩
  obtain ⟨handle, hbegin, rfl⟩ := Option.map_eq_some_iff.1 hr
  exact HealthHandle.inner_beginApply hbegin

theorem Follows.endApply (h : Follows fl health script s) {event : HealthEvent} {now : Instant}
    {todo : List LifeEffect} (htodo : s.todo = .apply event now :: todo)
    (hs : s.act toVec fl (.endApply event now) = some s') :
    Follows fl health script { s' with done := s.done ++ [.apply event now], todo := todo } := by
  obtain ⟨r, hr, rfl⟩ := Option.map_eq_some_iff.1 hs
  have hmoves : s.server.Moves toVec fl r.1 r.2 := Server.moves_of_step hr
  have hhealth : r.2.health = s.server.health.endApply fl event now := by
    unfold Server.step at hr
    dsimp only at hr
    split at hr
    · cases hr
      rfl
    · cases hr
  refine h.move htodo ?_ ?_ (h.balanced.moves hmoves) (h.balanced.orderly hmoves).stopped nofun
  · have hone : events [.apply event now] = [(event, now)] := rfl
    rw [events_append, hone, HealthMachine.run_concat, ← h.health, hhealth]
    rfl
  · rw [hhealth]
    rfl

theorem Follows.daemonStep (h : Follows fl health script s)
    (hs : s.daemonStep toVec fl = some s') : Follows fl health script s' := by
  unfold Supervised.daemonStep at hs
  split at hs
  · cases hs
  · next event now todo htodo =>
    split at hs
    · obtain ⟨t, ht, rfl⟩ := Option.map_eq_some_iff.1 hs
      exact h.endApply htodo ht
    · exact h.beginApply htodo hs
  · next todo htodo =>
    split at hs
    · exact h.act hs nofun nofun
    · split at hs
      · exact h.act hs nofun nofun
      · split at hs
        · next hloop =>
          cases hs
          refine h.move htodo ?_ (h.free htodo nofun) h.balanced id fun _ => hloop
          rw [events_append, show events [.stopControl] = [] from rfl, List.append_nil]
          exact h.health
        · cases hs
  · next e todo happly hstop htodo =>
    cases hs
    refine h.move htodo ?_ (h.free htodo fun event now => happly event now) h.balanced id
      fun heq => absurd heq hstop
    have hnone : events [e] = [] := by
      cases e with
      | apply event now => exact absurd rfl (happly event now)
      | _ => rfl
    rw [events_append, hnone, List.append_nil]
    exact h.health

theorem Follows.step (h : Follows fl health script s) {a : SupervisedAction} {l : ServerLabel}
    (hs : s.step toVec fl a = some (l, s')) : Follows fl health script s' := by
  cases a with
  | daemon =>
    obtain ⟨t, ht, heq⟩ := Option.map_eq_some_iff.1 hs
    cases heq
    exact h.daemonStep ht
  | server a =>
    unfold Supervised.step at hs
    dsimp only at hs
    split at hs
    · next ha =>
      obtain ⟨r, hr, heq⟩ := Option.map_eq_some_iff.1 hs
      cases heq
      refine h.untouched hr ?_ fun event now => ?_
      all_goals
        rintro rfl
        cases ha
    · cases hs

end Follows

/-! ## Coming to the end -/

section Progress

variable {toVec : HealthSnapshot → Option (List UInt8)} {fl : ℚ → ℚ} {s s' : Supervised}

variable (toVec fl) in
/-- There is an order of steps that leads from `s` to `s'`. -/
def Reaches (s s' : Supervised) : Prop := ∃ trace, Run (step toVec fl) s trace s'

theorem Reaches.trans {t : Supervised} (h : Reaches toVec fl s s') (h' : Reaches toVec fl s' t) :
    Reaches toVec fl s t := by
  obtain ⟨_, hr⟩ := h
  obtain ⟨_, hr'⟩ := h'
  exact ⟨_, hr.trans hr'⟩

theorem reaches_step {a : SupervisedAction} {l : ServerLabel}
    (hs : s.step toVec fl a = some (l, s')) : Reaches toVec fl s s' :=
  ⟨_, Run.refl.snoc a hs⟩

theorem reaches_daemon (hs : s.daemonStep toVec fl = some s') : Reaches toVec fl s s' := by
  have hstep : s.step toVec fl .daemon = some (.silent, s') := by
    unfold step
    dsimp only
    rw [hs]
    rfl
  exact reaches_step hstep

theorem daemonStep_apply {event : HealthEvent} {now : Instant} {todo : List LifeEffect}
    (h : s.todo = .apply event now :: todo) : s.daemonStep toVec fl =
      if s.server.health.writing then
        (s.act toVec fl (.endApply event now)).map fun s' =>
          { s' with done := s.done ++ [.apply event now], todo := todo }
      else s.act toVec fl .beginApply := by
  unfold daemonStep
  rw [h]

theorem daemonStep_stopControl {todo : List LifeEffect} (h : s.todo = .stopControl :: todo) :
    s.daemonStep toVec fl =
      if ¬s.server.shutdown.value then s.act toVec fl .sendStop
      else if ¬s.server.shutdown.closed then s.act toVec fl .dropSender
      else if s.server.loop = .stopped then
        some { s with done := s.done ++ [.stopControl], todo := todo }
      else none := by
  unfold daemonStep
  rw [h]

theorem shouldStopControl_told {changed : Except Unit Unit} {shutdown : Watch}
    (h : shutdown.value = true) : Server.shouldStopControl changed shutdown = true := by
  unfold Server.shouldStopControl Server.shutdownSignaled
  rw [h, Bool.or_true]

variable (toVec fl)

/-- The daemon has sent `true` and dropped the sender. -/
theorem reaches_told {todo : List LifeEffect} (h : s.todo = .stopControl :: todo) :
    ∃ s', Reaches toVec fl s s' ∧ s'.todo = s.todo ∧ s'.server.shutdown.value = true ∧
      s'.server.shutdown.closed = true := by
  have hsent : ∃ s', Reaches toVec fl s s' ∧ s'.todo = s.todo ∧
      s'.server.shutdown.value = true := by
    by_cases hvalue : s.server.shutdown.value = true
    · exact ⟨s, ⟨_, .refl⟩, rfl, hvalue⟩
    · let shutdown := { s.server.shutdown with value := true, unseen := true }
      refine ⟨{ s with server := { s.server with shutdown := shutdown } }, reaches_daemon ?_, rfl,
        rfl⟩
      rw [daemonStep_stopControl h, if_pos hvalue]
      rfl
  obtain ⟨s', hr, htodo, hvalue⟩ := hsent
  by_cases hclosed : s'.server.shutdown.closed = true
  · exact ⟨s', hr, htodo, hvalue, hclosed⟩
  · let shutdown := { s'.server.shutdown with closed := true }
    refine ⟨{ s' with server := { s'.server with shutdown := shutdown } },
      hr.trans (reaches_daemon ?_), htodo, hvalue, rfl⟩
    rw [daemonStep_stopControl (htodo.trans h), if_neg (not_not_intro hvalue), if_pos hclosed]
    rfl

/-- A server that was told stops, whatever its tasks do. -/
theorem reaches_stopped (hvalue : s.server.shutdown.value = true)
    (hclosed : s.server.shutdown.closed = true) :
    ∃ s', Reaches toVec fl s s' ∧ s'.todo = s.todo ∧ s'.server.shutdown.value = true ∧
      s'.server.shutdown.closed = true ∧ s'.server.loop = .stopped := by
  have hpolled (t : Supervised) (hv : t.server.shutdown.value = true)
      (hc : t.server.shutdown.closed = true) (hpolling : t.server.loop = .polling) :
      ∃ s', Reaches toVec fl t s' ∧ s'.todo = t.todo ∧ s'.server.shutdown.value = true ∧
        s'.server.shutdown.closed = true ∧ s'.server.loop = .stopped := by
    let stopped := { t.server with
      loop := .stopped, shutdown := { t.server.shutdown with unseen := false } }
    have hpoll : t.server.pollShutdown = some stopped := by
      unfold Server.pollShutdown
      dsimp only
      rw [if_pos (.inr hc), if_pos (shouldStopControl_told hv)]
    have hs : t.step toVec fl (.server .pollShutdown) =
        some (.silent, { t with server := stopped }) := by
      unfold step ofServer Server.step
      dsimp only
      rw [if_pos rfl, if_pos hpolling, hpoll]
      rfl
    exact ⟨_, reaches_step hs, rfl, hv, hc, rfl⟩
  cases hloop : s.server.loop with
  | stopped => exact ⟨s, ⟨_, .refl⟩, rfl, hvalue, hclosed, hloop⟩
  | polling => exact hpolled s hvalue hclosed hloop
  | backingOff =>
    have hwake : s.step toVec fl (.server .wake) =
        some (.silent, { s with server := { s.server with loop := .polling } }) := by
      unfold step ofServer Server.step
      dsimp only
      rw [if_pos rfl, if_pos hloop]
      rfl
    obtain ⟨s', hr, hrest⟩ := hpolled { s with server := { s.server with loop := .polling } }
      hvalue hclosed rfl
    exact ⟨s', (reaches_step hwake).trans hr, hrest⟩

/-- The daemon gets past whatever is next, and the rest of the script stays. -/
theorem reaches_next {e : LifeEffect} {todo : List LifeEffect} (h : s.todo = e :: todo) :
    ∃ s', Reaches toVec fl s s' ∧ s'.todo = todo := by
  have hnext (e : LifeEffect) (h : s.todo = e :: todo) (happly : ∀ event now, e ≠ .apply event now)
      (hstop : e ≠ .stopControl) : ∃ s', Reaches toVec fl s s' ∧ s'.todo = todo := by
    refine ⟨⟨s.done ++ [e], todo, s.server⟩, reaches_daemon ?_, rfl⟩
    unfold daemonStep
    rw [h]
    cases e with
    | apply event now => exact absurd rfl (happly event now)
    | stopControl => exact absurd rfl hstop
    | _ => rfl
  cases e with
  | apply event now =>
    have hend (t : Supervised) (ht : t.todo = .apply event now :: todo)
        (hwriting : t.server.health.writing = true) :
        ∃ s', Reaches toVec fl t s' ∧ s'.todo = todo := by
      let server := { t.server with health := t.server.health.endApply fl event now }
      refine ⟨⟨t.done ++ [.apply event now], todo, server⟩, reaches_daemon ?_, rfl⟩
      rw [daemonStep_apply ht, if_pos hwriting]
      unfold act Server.step
      dsimp only
      rw [if_pos hwriting]
      rfl
    by_cases hwriting : s.server.health.writing = true
    · exact hend s h hwriting
    · let server := { s.server with health := { s.server.health with writing := true } }
      have hbegin : s.daemonStep toVec fl = some { s with server := server } := by
        rw [daemonStep_apply h, if_neg hwriting]
        unfold act Server.step HealthHandle.beginApply
        dsimp only
        rw [if_neg hwriting]
        rfl
      obtain ⟨s', hr, htodo⟩ := hend { s with server := server } h rfl
      exact ⟨s', (reaches_daemon hbegin).trans hr, htodo⟩
  | stopControl =>
    obtain ⟨t, hr, htodo, hvalue, hclosed⟩ := reaches_told toVec fl h
    obtain ⟨t', hr', htodo', hvalue', hclosed', hloop⟩ := reaches_stopped toVec fl hvalue hclosed
    refine ⟨⟨t'.done ++ [.stopControl], todo, t'.server⟩,
      (hr.trans hr').trans (reaches_daemon ?_), rfl⟩
    rw [daemonStep_stopControl ((htodo'.trans htodo).trans h), if_neg (not_not_intro hvalue'),
      if_neg (not_not_intro hclosed'), if_pos hloop]
  | startControl =>
    exact hnext .startControl h nofun nofun
  | call c => exact hnext (.call c) h nofun nofun
  | shutIngress => exact hnext .shutIngress h nofun nofun

theorem reaches_end (s : Supervised) :
    ∃ s', Reaches toVec fl s s' ∧ s'.todo = [] := by
  generalize htodo : s.todo = todo
  induction todo generalizing s with
  | nil => exact ⟨s, ⟨_, .refl⟩, htodo⟩
  | cons e todo ih =>
    obtain ⟨t, hr, ht⟩ := reaches_next toVec fl htodo
    obtain ⟨s', hr', hs'⟩ := ih t ht
    exact ⟨s', hr.trans hr', hs'⟩

end Progress

/-! ## Probes -/

section Probes

/-- The status that a client reads. -/
def statusOf (response : List UInt8) : Option ℕ := (HttpMessage.receive response).map Prod.fst

theorem statusOf_controlResponse (toVec : HealthSnapshot → Option (List UInt8)) (request : String)
    (t : Option HealthSnapshot) :
    statusOf (controlResponse toVec request t) = some (answerTo toVec request t).1 := by
  unfold statusOf
  rw [receive_controlResponse]
  rfl

/-- What a supervisor can rely on at each step. -/
structure Probed (toVec : HealthSnapshot → Option (List UInt8)) (s : Supervised) (l : ServerLabel)
    (_ : Supervised) : Prop where
  ready : ∀ request t path, l = .answered request t → parseGetPath request = .get path →
    path = "/readyz" ∨ path = "/healthz/ready" →
    (statusOf (controlResponse toVec request t) = some 200 ↔ t.isSome = true ∧ PutsReady s.done)
  live : ∀ request t path, l = .answered request t → parseGetPath request = .get path →
    path = "/livez" ∨ path = "/healthz/live" →
    (statusOf (controlResponse toVec request t) = some 200 ↔ t.isSome = true)
  /-- A probe that gets no snapshot came while an event was written down. -/
  busy : ∀ request, l = .answered request none →
    ∃ event now todo, s.todo = .apply event now :: todo
  accepted : ∀ fate, l = .accepted fate → .stopControl ∉ s.done

variable {toVec : HealthSnapshot → Option (List UInt8)} {fl : ℚ → ℚ} {health : HealthMachine}
  {script : List LifeEffect} {s s' : Supervised}

/-- What an answer of the server was worked out from. -/
theorem answered_of_step {a : SupervisedAction} {request : String} {t : Option HealthSnapshot}
    (hs : s.step toVec fl a = some (.answered request t, s')) :
    ∃ now, t = s.server.health.trySnapshot fl now := by
  cases a with
  | daemon =>
    obtain ⟨_, _, heq⟩ := Option.map_eq_some_iff.1 hs
    cases heq
  | server a =>
    unfold step at hs
    dsimp only at hs
    split at hs
    · obtain ⟨⟨l, server⟩, hr, heq⟩ := Option.map_eq_some_iff.1 hs
      cases heq
      have hmoves : s.server.Moves toVec fl _ server := Server.moves_of_step hr
      cases hmoves with
      | answered _ _ now => exact ⟨now, rfl⟩
    · cases hs

theorem accepted_of_step {a : SupervisedAction} {fate : Control.Fate}
    (hs : s.step toVec fl a = some (.accepted fate, s')) : s.server.loop = .polling := by
  cases a with
  | daemon =>
    obtain ⟨_, _, heq⟩ := Option.map_eq_some_iff.1 hs
    cases heq
  | server a =>
    unfold step at hs
    dsimp only at hs
    split at hs
    · obtain ⟨⟨l, server⟩, hr, heq⟩ := Option.map_eq_some_iff.1 hs
      cases heq
      have hmoves : s.server.Moves toVec fl _ server := Server.moves_of_step hr
      cases hmoves with
      | accepted hpolling => exact hpolling
    · cases hs

/-- A probe tells the flag of the machine, if it gets to see the machine. -/
theorem statusOf_probe {request path : String} {flag : HealthSnapshot → Bool}
    (hpath : parseGetPath request = .get path) (hflag : probed path = some flag)
    {t : Option HealthSnapshot} (up : Prop)
    (hup : ∀ snap, t = some snap → (flag snap = true ↔ up)) :
    statusOf (controlResponse toVec request t) = some 200 ↔ t.isSome = true ∧ up := by
  rw [statusOf_controlResponse, Option.some_inj, (answerTo_probe toVec hpath hflag t).1]
  constructor
  · rintro ⟨snap, rfl, hsnap⟩
    exact ⟨rfl, (hup snap rfl).1 hsnap⟩
  · rintro ⟨hsome, h⟩
    obtain ⟨snap, rfl⟩ := Option.isSome_iff_exists.1 hsome
    exact ⟨snap, rfl, (hup snap rfl).2 h⟩

theorem Follows.probed (h : Follows fl health script s) (hflags : Flags [.processStarted] health)
    (hready : (health.run fl (events s.done)).isReady = true ↔ PutsReady s.done)
    {a : SupervisedAction} {l : ServerLabel} (hs : s.step toVec fl a = some (l, s')) :
    Probed toVec s l s' where
  ready request t path hl hpath hprobe := by
    subst hl
    obtain ⟨now, rfl⟩ := answered_of_step hs
    have hflag : Control.probed path = some (·.ready) := by
      unfold Control.probed
      rcases hprobe with rfl | rfl <;> rfl
    refine statusOf_probe hpath hflag _ fun snap hsnap => ?_
    rw [HealthHandle.trySnapshot_eq_some fl hsnap, h.health]
    exact hready
  live request t path hl hpath hprobe := by
    subst hl
    obtain ⟨now, rfl⟩ := answered_of_step hs
    have hflag : Control.probed path = some (·.live) := by
      unfold Control.probed
      rcases hprobe with rfl | rfl <;> rfl
    rw [statusOf_probe hpath hflag True fun snap hsnap => ?_, and_true]
    rw [HealthHandle.trySnapshot_eq_some fl hsnap, h.health, iff_true]
    exact (hflags.run fl (events s.done)).started.2 List.mem_cons_self
  busy request hl := by
    subst hl
    obtain ⟨now, hnone⟩ := answered_of_step hs
    exact h.writing ((HealthHandle.trySnapshot_eq_none fl).1 hnone.symm)
  accepted fate hl hmem := by
    subst hl
    have hpolling := accepted_of_step hs
    rw [h.stopped hmem] at hpolling
    cases hpolling

end Probes

/-! ## The run of a daemon -/

section Daemon

variable {Network Entropy : Type} {nm : Neuromod Network Entropy}
  {restore : DaemonConfig → Except String (Network × ModelProvenance)} {answers : BackendAnswers}
  {around : Around Entropy} {self : BrainstemDaemon}
  {restored : Option (Network × ModelProvenance)} {ticks : ℕ}

theorem runLoopScript_bound (fl : ℚ → ℚ)
    (hbound : startControl self.config.controlBind (.ok ()) = .ok ()) : ∃ rest,
    runLoopScript nm fl restore answers around self (.ok ()) restored ticks =
      .startControl :: rest := by
  unfold runLoopScript
  rw [hbound]
  dsimp only
  split <;> exact ⟨_, rfl⟩

variable (nm restore answers around restored ticks) in
/-- However the steps of the daemon and of the control server interleave: a probe of `ready` that
gets to see the machine is answered 200 if and only if the checkpoint is validated and neither a
drain nor a fatal event has come, and then the backend, the ingress and the control surface are
up; one that does not see it came while an event was written down; no connection is accepted once
the control surface is stopped; the daemon makes the calls of the run it makes alone, and whatever
the clients do it can come to the end of it. -/
theorem supervised_probe (toVec : HealthSnapshot → Option (List UInt8)) (fl : ℚ → ℚ)
    (hflags : Flags [.processStarted] self.health) {trace : List (ServerLabel × Supervised)}
    {s : Supervised} :
    let script := runLoopScript nm fl restore answers around self (.ok ()) restored ticks
    let r := runLoop nm fl restore answers around self (.ok ()) restored ticks
    Run (step toVec fl) (start self.health script) trace s →
      Run.Each (Probed toVec) (start self.health script) trace ∧
      (PutsReady s.done → Open nm restore answers self restored s.done) ∧
      calls s.done <+: r.calls ∧
      (s.todo = [] → calls s.done = r.calls ∧ s.server.health.inner = r.health) ∧
      ∃ s', Reaches toVec fl s s' ∧ s'.todo = [] := by
  intro script r hr
  have hbound : startControl self.config.controlBind (.ok ()) = .ok () := by
    unfold startControl
    split <;> rfl
  obtain ⟨rest, hrest⟩ : ∃ rest, script = .startControl :: rest := runLoopScript_bound fl hbound
  have hagrees : calls script = r.calls ∧ self.health.run fl (events script) = r.health :=
    runLoopScript_agrees (.ok ()) restored ticks
  obtain ⟨hfollows, heach⟩ := hr.each (.start hrest) (fun _ _ _ _ h hs => h.step hs)
    fun s a l s' (h : Follows fl self.health script s) hs =>
      h.probed hflags (script_ready hflags ⟨s.todo, h.script⟩).1 hs
  refine ⟨heach, (script_ready hflags ⟨s.todo, hfollows.script⟩).2, ?_, fun htodo => ?_,
    reaches_end toVec fl s⟩
  · rw [← hagrees.1, ← hfollows.script]
    exact ⟨calls s.todo, (calls_append _ _).symm⟩
  · have hdone : s.done = script := by
      rw [← hfollows.script, htodo, List.append_nil]
    rw [hfollows.health, hdone]
    exact hagrees

end Daemon

end Supervised

/-! ## Two probes -/

/-- The live daemon with a control surface. -/
def BrainstemDaemon.observed : BrainstemDaemon :=
  { BrainstemDaemon.live with
    config := { BrainstemDaemon.live.config with controlBind := some "127.0.0.1:9101" } }

/-- One probe before the first tick, one after the drain has begun, and the shutdown. -/
def probedRun : List SupervisedAction :=
  let probe (i : ℕ) : List SupervisedAction :=
    [.server (.accept (.ok ())), .server (.request i [.done (bytes "GET /readyz HTTP/1.1\n")] 1)]
  List.replicate 5 .daemon ++ probe 0 ++ List.replicate 10 .daemon ++ probe 1 ++
    [.daemon, .daemon, .daemon, .server .pollShutdown] ++ List.replicate 3 .daemon

/-- The script of one tick of the trained network that was handed over. -/
def observedScript : List LifeEffect :=
  runLoopScript CellNetwork.neuromod id (fun _ => .error "no checkpoint") .ok .idle
    BrainstemDaemon.observed (.ok ()) (some (CellNetwork.trained, .claimed)) 1

theorem supervised_probe_two_probes :
    ∃ (trace : List (ServerLabel × Supervised)) (s : Supervised),
      Run (Supervised.step (fun _ => none) id)
        (.start BrainstemDaemon.observed.health observedScript) trace s ∧ s.todo = [] ∧
      (Run.observe ServerLabel.snapshot? trace).map (·.ready) = [true, false] ∧
      Run.Each (Supervised.Probed fun _ => none)
        (.start BrainstemDaemon.observed.health observedScript) trace := by
  have hrun : (Run.exec (Supervised.step (fun _ => none) id) probedRun
      ([], .start BrainstemDaemon.observed.health observedScript)).map (fun r =>
        (r.2.todo.isEmpty, (Run.observe ServerLabel.snapshot? r.1).map (·.ready))) =
      some (true, [true, false]) := by
    decide +kernel
  have hflags : Flags [.processStarted] BrainstemDaemon.observed.health :=
    (Flags.new id (.default id)).apply id .processStarted 0
  obtain ⟨⟨trace, s⟩, hx, hm⟩ := Option.map_eq_some_iff.1 hrun
  injection hm with htodo hready
  have hr := Run.of_exec .refl hx
  have hprobe := Supervised.supervised_probe CellNetwork.neuromod
    (fun _ => .error "no checkpoint") .ok .idle (some (CellNetwork.trained, .claimed)) 1
    (fun _ => none) id hflags hr
  exact ⟨trace, s, hr, List.isEmpty_iff.1 htodo, hready, hprobe.1⟩

end Brainstem.Daemon
