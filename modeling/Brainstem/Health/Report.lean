import Brainstem.Health.Metrics
import Brainstem.Lib.JsonStruct

/-!
# The health report

The JSON of a snapshot, as the derived serializer writes it: the fields of each struct in
declaration order, `null` for what is absent, codes in snake case.  The derived reader finds
fields by name, ignores fields it does not know and reads counters that are missing as zero:

    readReport read (toVec print snap) = some (snap.reread print read)       (readReport_toVec)

How the ratio is printed and read is left open: `reread` is the snapshot itself, up to what the
reader makes of the text of the ratio.
-/

namespace Brainstem.Health

open Json (members requiredField optionField defaultField readBool readText readCode readList
  field_members requiredField_members optionField_members defaultField_members)

/-! ## Writing -/

def FatalCode.asStr : FatalCode → String
  | .initializationFailed => "initialization_failed"
  | .checkpointInvalid => "checkpoint_invalid"
  | .unspecified => "unspecified"

section Write

-- how a finite number is printed
variable (print : ℚ → List Char)

/-- A number that is not finite is written as `null`. -/
def floatJson : F64 → Json
  | .finite q => .num (print q)
  | _ => .null

def CheckpointIdentity.fields (c : CheckpointIdentity) : List (String × Json) :=
  [("id", Json.ofText c.id), ("digest", Json.ofOption Json.ofText c.digest)]

def FatalState.fields (f : FatalState) : List (String × Json) :=
  [("code", Json.ofText f.code.asStr), ("detail", Json.ofText f.detail)]

def InputFreshness.fields (f : InputFreshness) : List (String × Json) :=
  [("age_ms", Json.ofOption .ofNat f.ageMs), ("stale", .bool f.stale)]

def QueuePressure.fields (p : QueuePressure) : List (String × Json) :=
  [("depth", .ofNat p.depth), ("capacity", .ofNat p.capacity),
    ("ratio", Json.ofOption (floatJson print) p.ratio), ("overloaded", .bool p.overloaded)]

def RuntimeCounters.fields (c : RuntimeCounters) : List (String × Json) :=
  [("ticks", .ofNat c.ticks), ("accepted_batches", .ofNat c.acceptedBatches),
    ("rejected_batches", .ofNat c.rejectedBatches), ("receive_errors", .ofNat c.receiveErrors),
    ("emit_errors", .ofNat c.emitErrors), ("dropped_spikes", .ofNat c.droppedSpikes),
    ("diagnostic_emissions", .ofNat c.diagnosticEmissions),
    ("suppressed_diagnostics", .ofNat c.suppressedDiagnostics)]

def HealthSnapshot.fields (snap : HealthSnapshot) : List (String × Json) :=
  [("live", .bool snap.live), ("ready", .bool snap.ready), ("phase", Json.ofText snap.phase.asStr),
    ("reasons", .arr (snap.reasons.map fun r => Json.ofText r.asStr)),
    ("last_successful_tick_ms", Json.ofOption .ofNat snap.lastSuccessfulTickMs),
    ("tick_age_ms", Json.ofOption .ofNat snap.tickAgeMs),
    ("checkpoint", Json.ofOption (fun c => .obj (members c.fields)) snap.checkpoint),
    ("input_freshness", .obj (members snap.inputFreshness.fields)),
    ("queue_pressure", .obj (members (snap.queuePressure.fields print))),
    ("fatal", Json.ofOption (fun f => .obj (members f.fields)) snap.fatal),
    ("counters", .obj (members snap.counters.fields)),
    ("observed_at_ms", .ofNat snap.observedAtMs)]

def HealthSnapshot.json (snap : HealthSnapshot) : Json := .obj (members (snap.fields print))

/-- `serde_json::to_vec`. -/
def toVec (snap : HealthSnapshot) : List UInt8 := (snap.json print).toBytes

end Write

/-! ## Reading -/

section Read

def readU64 : Json → Option ℕ := Json.readBelow (2 ^ 64)

-- how a number token is read
variable (read : List Char → Option ℚ)

def readFloat : Json → Option F64
  | .num token => (read token).map .finite
  | _ => none

def readCheckpoint : Json → Option CheckpointIdentity
  | .obj ms => do
    some ⟨← requiredField readText ms "id", ← optionField readText ms "digest"⟩
  | _ => none

def readFatal : Json → Option FatalState
  | .obj ms => do
    let codes : List FatalCode := [.initializationFailed, .checkpointInvalid, .unspecified]
    some ⟨← requiredField (readCode codes FatalCode.asStr) ms "code",
      ← requiredField readText ms "detail"⟩
  | _ => none

def readFreshness : Json → Option InputFreshness
  | .obj ms => do
    some ⟨← optionField readU64 ms "age_ms", ← requiredField readBool ms "stale"⟩
  | _ => none

def readPressure : Json → Option QueuePressure
  | .obj ms => do
    some ⟨← requiredField readU64 ms "depth", ← requiredField readU64 ms "capacity",
      ← optionField (readFloat read) ms "ratio", ← requiredField readBool ms "overloaded"⟩
  | _ => none

def readCounters : Json → Option RuntimeCounters
  | .obj ms => do
    some ⟨← requiredField readU64 ms "ticks", ← requiredField readU64 ms "accepted_batches",
      ← requiredField readU64 ms "rejected_batches", ← requiredField readU64 ms "receive_errors",
      ← requiredField readU64 ms "emit_errors", ← requiredField readU64 ms "dropped_spikes",
      ← requiredField readU64 ms "diagnostic_emissions",
      ← requiredField readU64 ms "suppressed_diagnostics"⟩
  | _ => none

def REASONS : List ReasonCode :=
  [.starting, .checkpointPending, .staleInput, .overload, .draining, .fatal]

def readSnapshot : Json → Option HealthSnapshot
  | .obj ms => do
    some ⟨← requiredField readBool ms "live", ← requiredField readBool ms "ready",
      ← requiredField (readCode HealthPhase.ALL HealthPhase.asStr) ms "phase",
      ← requiredField (readList (readCode REASONS ReasonCode.asStr)) ms "reasons",
      ← optionField readU64 ms "last_successful_tick_ms", ← optionField readU64 ms "tick_age_ms",
      ← optionField readCheckpoint ms "checkpoint", ← requiredField readFreshness ms "input_freshness",
      ← requiredField (readPressure read) ms "queue_pressure", ← optionField readFatal ms "fatal",
      ← defaultField readCounters .default ms "counters", ← requiredField readU64 ms "observed_at_ms"⟩
  | _ => none

def readReport (body : List UInt8) : Option HealthSnapshot :=
  (Json.ofBytes body).bind (readSnapshot read)

end Read

/-! ## What was written is read back -/

/-- The numbers fit into the types that the fields have. -/
structure RuntimeCounters.Fits (c : RuntimeCounters) : Prop where
  ticks : c.ticks < 2 ^ 64
  acceptedBatches : c.acceptedBatches < 2 ^ 64
  rejectedBatches : c.rejectedBatches < 2 ^ 64
  receiveErrors : c.receiveErrors < 2 ^ 64
  emitErrors : c.emitErrors < 2 ^ 64
  droppedSpikes : c.droppedSpikes < 2 ^ 64
  diagnosticEmissions : c.diagnosticEmissions < 2 ^ 64
  suppressedDiagnostics : c.suppressedDiagnostics < 2 ^ 64

structure HealthSnapshot.Fits (snap : HealthSnapshot) : Prop where
  lastSuccessfulTickMs : ∀ n, snap.lastSuccessfulTickMs = some n → n < 2 ^ 64
  tickAgeMs : ∀ n, snap.tickAgeMs = some n → n < 2 ^ 64
  ageMs : ∀ n, snap.inputFreshness.ageMs = some n → n < 2 ^ 64
  depth : snap.queuePressure.depth < 2 ^ 64
  capacity : snap.queuePressure.capacity < 2 ^ 64
  counters : snap.counters.Fits
  observedAtMs : snap.observedAtMs < 2 ^ 64

section Ratio

variable (print : ℚ → List Char) (read : List Char → Option ℚ)

/-- A finite ratio is printed as a number, and some value is read from it. -/
def RatioText (ratio : Option F64) : Prop :=
  ∀ q, ratio = some (.finite q) → (Json.num (print q)).Valid ∧ ∃ q', read (print q) = some q'

/-- What comes back of a ratio: the value of its text, and nothing if it was not finite. -/
def ratioBack : Option F64 → Option F64
  | some (.finite q) => (read (print q)).map .finite
  | _ => none

/-- The snapshot with the ratio that comes back. -/
def HealthSnapshot.reread (snap : HealthSnapshot) : HealthSnapshot :=
  { snap with
    queuePressure :=
      { snap.queuePressure with ratio := ratioBack print read snap.queuePressure.ratio } }

/-- Nothing is lost of a finite ratio if the reader is exact on its text. -/
theorem HealthSnapshot.reread_of_exact {snap : HealthSnapshot}
    (h : ∀ r, snap.queuePressure.ratio = some r → ∃ q, r = .finite q ∧ read (print q) = some q) :
    snap.reread print read = snap := by
  have hratio : ratioBack print read snap.queuePressure.ratio = snap.queuePressure.ratio := by
    cases hr : snap.queuePressure.ratio with
    | none => rfl
    | some r =>
      obtain ⟨q, rfl, hread⟩ := h r hr
      show (read (print q)).map F64.finite = some (.finite q)
      rw [hread, Option.map_some]
  unfold reread
  rw [hratio]

end Ratio

theorem readU64_ofNat {n : ℕ} (h : n < 2 ^ 64) : readU64 (.ofNat n) = some n := Json.readBelow_ofNat h

theorem readU64_some {o : Option ℕ} (h : ∀ n, o = some n → n < 2 ^ 64) :
    ∀ n, o = some n → Json.ofNat n ≠ .null ∧ readU64 (.ofNat n) = some n :=
  fun n hn => ⟨nofun, readU64_ofNat (h n hn)⟩

theorem readPhase_asStr (phase : HealthPhase) :
    readCode HealthPhase.ALL HealthPhase.asStr (Json.ofText phase.asStr) = some phase := by
  refine Json.readCode_ofText (fun a b h => ?_) ?_
  · revert h
    cases a <;> cases b <;> decide
  · cases phase <;> decide

theorem readReason_asStr (r : ReasonCode) :
    readCode REASONS ReasonCode.asStr (Json.ofText r.asStr) = some r := by
  refine Json.readCode_ofText (fun a b h => ?_) ?_
  · revert h
    cases a <;> cases b <;> decide
  · cases r <;> decide

theorem readCheckpoint_members (c : CheckpointIdentity) :
    readCheckpoint (.obj (members c.fields)) = some c := by
  have hnodup : (c.fields.map Prod.fst).Nodup := by
    show ["id", "digest"].Nodup
    decide
  have hid : requiredField readText (members c.fields) "id" = some c.id :=
    requiredField_members hnodup List.mem_cons_self (Json.readText_ofText c.id)
  have hmem : ("digest", Json.ofOption Json.ofText c.digest) ∈ c.fields := by simp [CheckpointIdentity.fields]
  have hdigest : optionField readText (members c.fields) "digest" = some c.digest :=
    optionField_members hnodup hmem fun s _ => ⟨nofun, Json.readText_ofText s⟩
  unfold readCheckpoint
  simp [hid, hdigest]

theorem readFatal_members (f : FatalState) : readFatal (.obj (members f.fields)) = some f := by
  have hnodup : (f.fields.map Prod.fst).Nodup := by
    show ["code", "detail"].Nodup
    decide
  have hcode : requiredField (readCode [.initializationFailed, .checkpointInvalid, .unspecified]
      FatalCode.asStr) (members f.fields) "code" = some f.code := by
    refine requiredField_members hnodup List.mem_cons_self (Json.readCode_ofText (fun a b h => ?_) ?_)
    · revert h
      cases a <;> cases b <;> decide
    · cases f.code <;> decide
  have hdetail : requiredField readText (members f.fields) "detail" = some f.detail :=
    requiredField_members hnodup (by simp [FatalState.fields]) (Json.readText_ofText f.detail)
  unfold readFatal
  simp [hcode, hdetail]

theorem readFreshness_members (f : InputFreshness) (hage : ∀ n, f.ageMs = some n → n < 2 ^ 64) :
    readFreshness (.obj (members f.fields)) = some f := by
  have hnodup : (f.fields.map Prod.fst).Nodup := by
    show ["age_ms", "stale"].Nodup
    decide
  have hage : optionField readU64 (members f.fields) "age_ms" = some f.ageMs :=
    optionField_members hnodup List.mem_cons_self (readU64_some hage)
  have hstale : requiredField readBool (members f.fields) "stale" = some f.stale :=
    requiredField_members (v := .bool f.stale) hnodup (by simp [InputFreshness.fields]) rfl
  unfold readFreshness
  simp [hage, hstale]

theorem readPressure_members {print : ℚ → List Char} {read : List Char → Option ℚ} (p : QueuePressure)
    (hratio : RatioText print read p.ratio) (hdepth : p.depth < 2 ^ 64) (hcapacity : p.capacity < 2 ^ 64) :
    readPressure read (.obj (members (p.fields print))) =
      some { p with ratio := ratioBack print read p.ratio } := by
  have hnodup : ((p.fields print).map Prod.fst).Nodup := by
    show ["depth", "capacity", "ratio", "overloaded"].Nodup
    decide
  have hdepth : requiredField readU64 (members (p.fields print)) "depth" = some p.depth :=
    requiredField_members hnodup List.mem_cons_self (readU64_ofNat hdepth)
  have hcapacity : requiredField readU64 (members (p.fields print)) "capacity" = some p.capacity :=
    requiredField_members hnodup (by simp [QueuePressure.fields]) (readU64_ofNat hcapacity)
  have hmem : ("ratio", Json.ofOption (floatJson print) p.ratio) ∈ p.fields print := by
    simp [QueuePressure.fields]
  have hratio : optionField (readFloat read) (members (p.fields print)) "ratio" =
      some (ratioBack print read p.ratio) := by
    unfold optionField
    rw [field_members hnodup hmem]
    cases hr : p.ratio with
    | none => rfl
    | some r =>
      cases r with
      | finite q =>
        obtain ⟨q', hread⟩ := (hratio q hr).2
        show ((read (print q)).map F64.finite).map some = some ((read (print q)).map F64.finite)
        rw [hread]
        rfl
      | inf negative => rfl
      | nan => rfl
  have hoverloaded : requiredField readBool (members (p.fields print)) "overloaded" = some p.overloaded :=
    requiredField_members (v := .bool p.overloaded) hnodup (by simp [QueuePressure.fields]) rfl
  unfold readPressure
  simp [hdepth, hcapacity, hratio, hoverloaded]

theorem readCounters_members (c : RuntimeCounters) (h : c.Fits) :
    readCounters (.obj (members c.fields)) = some c := by
  have hnodup : (c.fields.map Prod.fst).Nodup := by
    show ["ticks", "accepted_batches", "rejected_batches", "receive_errors", "emit_errors",
      "dropped_spikes", "diagnostic_emissions", "suppressed_diagnostics"].Nodup
    decide
  have hread (name : String) {n : ℕ} (hn : n < 2 ^ 64) (hmem : (name, Json.ofNat n) ∈ c.fields) :
      requiredField readU64 (members c.fields) name = some n :=
    requiredField_members hnodup hmem (readU64_ofNat hn)
  unfold readCounters
  simp only [Option.bind_eq_bind, Option.bind_some,
    hread "ticks" h.ticks (by simp [RuntimeCounters.fields]),
    hread "accepted_batches" h.acceptedBatches (by simp [RuntimeCounters.fields]),
    hread "rejected_batches" h.rejectedBatches (by simp [RuntimeCounters.fields]),
    hread "receive_errors" h.receiveErrors (by simp [RuntimeCounters.fields]),
    hread "emit_errors" h.emitErrors (by simp [RuntimeCounters.fields]),
    hread "dropped_spikes" h.droppedSpikes (by simp [RuntimeCounters.fields]),
    hread "diagnostic_emissions" h.diagnosticEmissions (by simp [RuntimeCounters.fields]),
    hread "suppressed_diagnostics" h.suppressedDiagnostics (by simp [RuntimeCounters.fields])]

/-- The reader gets back every snapshot, up to its ratio, whatever texts its checkpoint and fatal
state hold. -/
theorem readSnapshot_json {print : ℚ → List Char} {read : List Char → Option ℚ}
    {snap : HealthSnapshot} (h : snap.Fits) (hratio : RatioText print read snap.queuePressure.ratio) :
    readSnapshot read (snap.json print) = some (snap.reread print read) := by
  have hnodup : ((snap.fields print).map Prod.fst).Nodup := by
    show ["live", "ready", "phase", "reasons", "last_successful_tick_ms", "tick_age_ms", "checkpoint",
      "input_freshness", "queue_pressure", "fatal", "counters", "observed_at_ms"].Nodup
    decide
  have hmem {f : String × Json} (i : ℕ) (hi : (snap.fields print)[i]? = some f) :
      f ∈ snap.fields print := List.mem_of_getElem? hi
  have hlive : requiredField readBool (members (snap.fields print)) "live" = some snap.live :=
    requiredField_members hnodup (hmem 0 rfl) rfl
  have hready : requiredField readBool (members (snap.fields print)) "ready" = some snap.ready :=
    requiredField_members hnodup (hmem 1 rfl) rfl
  have hphase : requiredField (readCode HealthPhase.ALL HealthPhase.asStr)
      (members (snap.fields print)) "phase" = some snap.phase :=
    requiredField_members hnodup (hmem 2 rfl) (readPhase_asStr snap.phase)
  have hreasons : requiredField (readList (readCode REASONS ReasonCode.asStr))
      (members (snap.fields print)) "reasons" = some snap.reasons :=
    requiredField_members hnodup (hmem 3 rfl) (Json.readList_map readReason_asStr snap.reasons)
  have htick : optionField readU64 (members (snap.fields print)) "last_successful_tick_ms" =
      some snap.lastSuccessfulTickMs :=
    optionField_members hnodup (hmem 4 rfl) (readU64_some h.lastSuccessfulTickMs)
  have hage : optionField readU64 (members (snap.fields print)) "tick_age_ms" = some snap.tickAgeMs :=
    optionField_members hnodup (hmem 5 rfl) (readU64_some h.tickAgeMs)
  have hcheckpoint : optionField readCheckpoint (members (snap.fields print)) "checkpoint" =
      some snap.checkpoint :=
    optionField_members hnodup (hmem 6 rfl) fun c _ => ⟨nofun, readCheckpoint_members c⟩
  have hfreshness : requiredField readFreshness (members (snap.fields print)) "input_freshness" =
      some snap.inputFreshness :=
    requiredField_members hnodup (hmem 7 rfl) (readFreshness_members _ h.ageMs)
  have hpressure : requiredField (readPressure read) (members (snap.fields print)) "queue_pressure" =
      some (snap.reread print read).queuePressure :=
    requiredField_members hnodup (hmem 8 rfl) (readPressure_members _ hratio h.depth h.capacity)
  have hfatal : optionField readFatal (members (snap.fields print)) "fatal" = some snap.fatal :=
    optionField_members hnodup (hmem 9 rfl) fun f _ => ⟨nofun, readFatal_members f⟩
  have hcounters : defaultField readCounters .default (members (snap.fields print)) "counters" =
      some snap.counters :=
    defaultField_members hnodup (hmem 10 rfl) (readCounters_members _ h.counters)
  have hobserved : requiredField readU64 (members (snap.fields print)) "observed_at_ms" =
      some snap.observedAtMs :=
    requiredField_members hnodup (hmem 11 rfl) (readU64_ofNat h.observedAtMs)
  unfold readSnapshot HealthSnapshot.json
  simp only [Option.bind_eq_bind, Option.bind_some, hlive, hready, hphase, hreasons, htick, hage,
    hcheckpoint, hfreshness, hpressure, hfatal, hcounters, hobserved]
  rfl

/-! ## As bytes -/

theorem valid_reasons (reasons : List ReasonCode) :
    Json.ValidElements (reasons.map fun r => Json.ofText r.asStr) := by
  induction reasons with
  | nil => trivial
  | cons r reasons ih => exact ⟨trivial, ih⟩

theorem valid_json {print : ℚ → List Char} {read : List Char → Option ℚ} (snap : HealthSnapshot)
    (hratio : RatioText print read snap.queuePressure.ratio) : (snap.json print).Valid := by
  have hpressure : (Json.ofOption (floatJson print) snap.queuePressure.ratio).Valid := by
    refine Json.valid_ofOption fun r hr => ?_
    cases r with
    | finite q => exact (hratio q hr).1
    | inf negative => trivial
    | nan => trivial
  have hcounters : (Json.obj (members snap.counters.fields)).Valid :=
    ⟨Json.valid_ofNat _, Json.valid_ofNat _, Json.valid_ofNat _, Json.valid_ofNat _,
      Json.valid_ofNat _, Json.valid_ofNat _, Json.valid_ofNat _, Json.valid_ofNat _, trivial⟩
  have hcheckpoint (c : CheckpointIdentity) : (Json.obj (members c.fields)).Valid :=
    ⟨trivial, Json.valid_ofOption fun _ _ => trivial, trivial⟩
  exact ⟨trivial, trivial, trivial, valid_reasons snap.reasons,
    Json.valid_ofOption fun n _ => Json.valid_ofNat n, Json.valid_ofOption fun n _ => Json.valid_ofNat n,
    Json.valid_ofOption fun c _ => hcheckpoint c,
    ⟨Json.valid_ofOption fun n _ => Json.valid_ofNat n, trivial, trivial⟩,
    ⟨Json.valid_ofNat _, Json.valid_ofNat _, hpressure, trivial, trivial⟩,
    Json.valid_ofOption fun _ _ => ⟨trivial, trivial, trivial⟩, hcounters, Json.valid_ofNat _, trivial⟩

theorem readReport_toVec {print : ℚ → List Char} {read : List Char → Option ℚ}
    {snap : HealthSnapshot} (h : snap.Fits) (hratio : RatioText print read snap.queuePressure.ratio) :
    readReport read (toVec print snap) = some (snap.reread print read) := by
  unfold readReport toVec
  rw [Json.ofBytes_toBytes (valid_json snap hratio), Option.bind_some, readSnapshot_json h hratio]

end Brainstem.Health
