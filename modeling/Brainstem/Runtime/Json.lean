import Brainstem.Lib.JsonStruct
import Brainstem.Runtime.Durable

/-!
# A JSON codec for the durable state

`DurableState` and `InflightRecord` as the derived codecs write and read them, in compact JSON.
This is an instance of `SerdeJson` on which runs can be computed:

    serdeJson.RoundTrips                                     (serdeJson_roundTrips)
-/

namespace Brainstem.Runtime

open Json (members requiredField optionField readText requiredField_members optionField_members)

/-! ## Writing -/

def InflightRecord.fields (r : InflightRecord) : List (String × Json) :=
  [("session_id", .ofNat r.sessionId.toNat), ("tick_seq", .ofNat r.tickSeq.toNat),
    ("ingress_seq", .ofNat r.ingressSeq.toNat)]

def InflightRecord.json (r : InflightRecord) : Json := .obj (members r.fields)

def DurableState.fields (s : DurableState) : List (String × Json) :=
  [("schema_version", .ofNat s.schemaVersion.toNat), ("checkpoint_id", .ofText s.checkpointId),
    ("last_session_id", .ofNat s.lastSessionId.toNat),
    ("committed_tick_seq", .ofNat s.committedTickSeq.toNat),
    ("committed_ingress_seq", .ofNat s.committedIngressSeq.toNat),
    ("inflight", .ofOption InflightRecord.json s.inflight)]

def DurableState.json (s : DurableState) : Json := .obj (members s.fields)

/-! ## Reading -/

def readUInt64 (v : Json) : Option UInt64 := (Json.readBelow (2 ^ 64) v).map UInt64.ofNat

def readUInt32 (v : Json) : Option UInt32 := (Json.readBelow (2 ^ 32) v).map UInt32.ofNat

def readInflight : Json → Option InflightRecord
  | .obj ms => do
    some ⟨← requiredField readUInt64 ms "session_id", ← requiredField readUInt64 ms "tick_seq",
      ← requiredField readUInt64 ms "ingress_seq"⟩
  | _ => none

def readState : Json → Option DurableState
  | .obj ms => do
    some ⟨← requiredField readUInt32 ms "schema_version", ← requiredField readText ms "checkpoint_id",
      ← requiredField readUInt64 ms "last_session_id",
      ← requiredField readUInt64 ms "committed_tick_seq",
      ← requiredField readUInt64 ms "committed_ingress_seq",
      ← optionField readInflight ms "inflight"⟩
  | _ => none

/-- `to_vec` and `from_slice`. -/
def serdeJson : SerdeJson where
  toVec s := .ok s.json.toBytes
  fromSlice b :=
    match (Json.ofBytes b).bind readState with
    | some s => .ok s
    | none => .error "invalid JSON for DurableState"

/-! ## What was written is read back -/

theorem readUInt64_ofNat (x : UInt64) : readUInt64 (.ofNat x.toNat) = some x := by
  unfold readUInt64
  rw [Json.readBelow_ofNat x.toNat_lt, Option.map_some, UInt64.ofNat_toNat]

theorem readUInt32_ofNat (x : UInt32) : readUInt32 (.ofNat x.toNat) = some x := by
  unfold readUInt32
  rw [Json.readBelow_ofNat x.toNat_lt, Option.map_some, UInt32.ofNat_toNat]

theorem readInflight_json (r : InflightRecord) : readInflight r.json = some r := by
  have hnodup : (r.fields.map Prod.fst).Nodup := by
    show ["session_id", "tick_seq", "ingress_seq"].Nodup
    decide
  have hsession : requiredField readUInt64 (members r.fields) "session_id" = some r.sessionId :=
    requiredField_members hnodup (List.mem_of_getElem? (i := 0) rfl) (readUInt64_ofNat _)
  have htick : requiredField readUInt64 (members r.fields) "tick_seq" = some r.tickSeq :=
    requiredField_members hnodup (List.mem_of_getElem? (i := 1) rfl) (readUInt64_ofNat _)
  have hingress : requiredField readUInt64 (members r.fields) "ingress_seq" = some r.ingressSeq :=
    requiredField_members hnodup (List.mem_of_getElem? (i := 2) rfl) (readUInt64_ofNat _)
  unfold readInflight InflightRecord.json
  simp [hsession, htick, hingress]

theorem readState_json (s : DurableState) : readState s.json = some s := by
  have hnodup : (s.fields.map Prod.fst).Nodup := by
    show ["schema_version", "checkpoint_id", "last_session_id", "committed_tick_seq",
      "committed_ingress_seq", "inflight"].Nodup
    decide
  have hmem {f : String × Json} (i : ℕ) (hi : s.fields[i]? = some f) : f ∈ s.fields :=
    List.mem_of_getElem? hi
  have hschema : requiredField readUInt32 (members s.fields) "schema_version" =
      some s.schemaVersion :=
    requiredField_members hnodup (hmem 0 rfl) (readUInt32_ofNat _)
  have hcheckpoint : requiredField readText (members s.fields) "checkpoint_id" =
      some s.checkpointId :=
    requiredField_members hnodup (hmem 1 rfl) (Json.readText_ofText _)
  have hsession : requiredField readUInt64 (members s.fields) "last_session_id" =
      some s.lastSessionId :=
    requiredField_members hnodup (hmem 2 rfl) (readUInt64_ofNat _)
  have htick : requiredField readUInt64 (members s.fields) "committed_tick_seq" =
      some s.committedTickSeq :=
    requiredField_members hnodup (hmem 3 rfl) (readUInt64_ofNat _)
  have hingress : requiredField readUInt64 (members s.fields) "committed_ingress_seq" =
      some s.committedIngressSeq :=
    requiredField_members hnodup (hmem 4 rfl) (readUInt64_ofNat _)
  have hinflight : optionField readInflight (members s.fields) "inflight" = some s.inflight :=
    optionField_members hnodup (hmem 5 rfl) fun r _ => ⟨nofun, readInflight_json r⟩
  unfold readState DurableState.json
  simp [hschema, hcheckpoint, hsession, htick, hingress, hinflight]

theorem InflightRecord.valid_json (r : InflightRecord) : r.json.Valid :=
  ⟨Json.valid_ofNat _, Json.valid_ofNat _, Json.valid_ofNat _, trivial⟩

theorem DurableState.valid_json (s : DurableState) : s.json.Valid :=
  ⟨Json.valid_ofNat _, trivial, Json.valid_ofNat _, Json.valid_ofNat _, Json.valid_ofNat _,
    Json.valid_ofOption fun r _ => r.valid_json, trivial⟩

theorem serdeJson_fromSlice (s : DurableState) : serdeJson.fromSlice s.json.toBytes = .ok s := by
  unfold serdeJson
  dsimp only
  rw [Json.ofBytes_toBytes s.valid_json, Option.bind_some, readState_json]

theorem serdeJson_roundTrips : serdeJson.RoundTrips := by
  intro s _
  exact ⟨_, rfl, serdeJson_fromSlice s⟩

end Brainstem.Runtime
