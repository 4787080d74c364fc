import Brainstem.Lib.JsonRead
import Brainstem.Lib.Utf8

/-!
# Structs as JSON objects

What a derived codec does with a struct.  It writes the fields in declaration order, and `null` for
an option that is none.  It finds the fields to read by name, passes over those it does not know,
and refuses one that is there twice.  What was written is read back:

    requiredField read (members fields) name = some a                    (requiredField_members)
    ofBytes (toBytes v) = some v                                              (ofBytes_toBytes)
-/

namespace Json

/-! ## Writing -/

def ofText (s : String) : Json := .str s.toList

def ofOption {α : Type} (json : α → Json) : Option α → Json
  | none => .null
  | some a => json a

def members (fields : List (String × Json)) : List (List Char × Json) :=
  fields.map fun f => (f.1.toList, f.2)

def toBytes (v : Json) : List UInt8 := Utf8.encode v.write

/-! ## Reading -/

section Read

variable {α : Type}

def ofBytes (bytes : List UInt8) : Option Json :=
  (Utf8.decode bytes).bind fun text => parse text.toList

/-- The value of a field, if the struct has it; a field that is there twice is an error. -/
def field (ms : List (List Char × Json)) (name : String) : Option (Option Json) :=
  match ms.filter fun m => m.1 == name.toList with
  | [] => some none
  | [m] => some (some m.2)
  | _ => none

def requiredField (read : Json → Option α) (ms : List (List Char × Json)) (name : String) :
    Option α :=
  match field ms name with
  | some (some v) => read v
  | _ => none

def readOption (read : Json → Option α) : Json → Option (Option α)
  | .null => some none
  | v => (read v).map some

/-- A field of an option type may be missing. -/
def optionField (read : Json → Option α) (ms : List (List Char × Json)) (name : String) :
    Option (Option α) :=
  match field ms name with
  | some none => some none
  | some (some v) => readOption read v
  | none => none

def defaultField (read : Json → Option α) (default : α) (ms : List (List Char × Json))
    (name : String) : Option α :=
  match field ms name with
  | some none => some default
  | some (some v) => read v
  | none => none

def readBool : Json → Option Bool
  | .bool b => some b
  | _ => none

def readText : Json → Option String
  | .str text => some (String.ofList text)
  | _ => none

/-- An unsigned integer of a type with this many values. -/
def readBelow (bound : ℕ) (v : Json) : Option ℕ :=
  match v.toNat? with
  | some n => if n < bound then some n else none
  | none => none

/-- One of the codes of an enumeration, by its name. -/
def readCode (all : List α) (name : α → String) : Json → Option α
  | .str text => all.find? fun a => (name a).toList == text
  | _ => none

def readList (read : Json → Option α) : Json → Option (List α)
  | .arr elements => elements.mapM read
  | _ => none

end Read

/-! ## Values that were written -/

section Values

variable {α : Type}

theorem readText_ofText (s : String) : readText (ofText s) = some s := by
  unfold readText ofText
  dsimp only
  rw [String.ofList_toList]

theorem readBelow_ofNat {bound n : ℕ} (h : n < bound) : readBelow bound (.ofNat n) = some n := by
  unfold readBelow
  rw [toNat?_ofNat]
  dsimp only
  rw [if_pos h]

theorem readCode_ofText {all : List α} {name : α → String} (hinj : ∀ a b, name a = name b → a = b)
    {a : α} (ha : a ∈ all) : readCode all name (ofText (name a)) = some a := by
  unfold readCode ofText
  dsimp only
  cases hfind : all.find? fun b => (name b).toList == (name a).toList with
  | none => exact absurd (beq_self_eq_true _) (List.find?_eq_none.1 hfind a ha)
  | some b =>
    have hb := List.find?_some hfind
    rw [beq_iff_eq, String.toList_inj] at hb
    rw [hinj b a hb]

theorem readList_map {read : Json → Option α} {json : α → Json} (h : ∀ a, read (json a) = some a)
    (l : List α) : readList read (.arr (l.map json)) = some l := by
  show (l.map json).mapM read = some l
  induction l with
  | nil => rfl
  | cons a l ih => simp [h, ih]

theorem valid_ofOption {json : α → Json} {o : Option α}
    (h : ∀ a, o = some a → (json a).Valid) : (ofOption json o).Valid := by
  cases o with
  | none => trivial
  | some a => exact h a rfl

theorem ofBytes_toBytes {v : Json} (hv : v.Valid) : ofBytes (toBytes v) = some v := by
  have hdecode : Utf8.decode (toBytes v) = some (String.ofList v.write) := by
    rw [Utf8.decode_eq_some, String.toList_ofList]
    rfl
  unfold ofBytes
  rw [hdecode, Option.bind_some, String.toList_ofList, parse_write hv]

end Values

/-! ## Fields -/

section Fields

variable {α : Type} {fields : List (String × Json)} {name : String} {v : Json}

/-- A struct writes each field once, so a field that it writes is found. -/
theorem field_members (hnodup : (fields.map Prod.fst).Nodup) (hmem : (name, v) ∈ fields) :
    field (members fields) name = some (some v) := by
  have hfilter : (members fields).filter (fun m => m.1 == name.toList) = [(name.toList, v)] := by
    unfold members
    induction fields with
    | nil => cases hmem
    | cons f fields ih =>
      rw [List.map_cons, List.nodup_cons] at hnodup
      obtain ⟨hfresh, hnodup⟩ := hnodup
      rw [List.map_cons, List.filter_cons]
      rcases List.mem_cons.1 hmem with rfl | hmem
      · rw [if_pos (beq_self_eq_true _), List.filter_eq_nil_iff.2]
        intro m hm
        obtain ⟨g, hg, rfl⟩ := List.mem_map.1 hm
        rw [beq_iff_eq, String.toList_inj]
        exact fun heq => hfresh (List.mem_map.2 ⟨g, hg, heq⟩)
      · have hne : ¬(f.1.toList == name.toList) = true := by
          rw [beq_iff_eq, String.toList_inj]
          rintro rfl
          exact hfresh (List.mem_map.2 ⟨_, hmem, rfl⟩)
        rw [if_neg hne]
        exact ih hnodup hmem
  unfold field
  rw [hfilter]

theorem requiredField_members {read : Json → Option α} {a : α} (hnodup : (fields.map Prod.fst).Nodup)
    (hmem : (name, v) ∈ fields) (hread : read v = some a) :
    requiredField read (members fields) name = some a := by
  unfold requiredField
  rw [field_members hnodup hmem]
  exact hread

theorem defaultField_members {read : Json → Option α} {a default : α}
    (hnodup : (fields.map Prod.fst).Nodup) (hmem : (name, v) ∈ fields) (hread : read v = some a) :
    defaultField read default (members fields) name = some a := by
  unfold defaultField
  rw [field_members hnodup hmem]
  exact hread

theorem readOption_of_ne {read : Json → Option α} (h : v ≠ .null) :
    readOption read v = (read v).map some := by
  cases v with
  | null => exact absurd rfl h
  | _ => rfl

theorem optionField_members {read : Json → Option α} {json : α → Json} {o : Option α}
    (hnodup : (fields.map Prod.fst).Nodup) (hmem : (name, ofOption json o) ∈ fields)
    (hread : ∀ a, o = some a → json a ≠ .null ∧ read (json a) = some a) :
    optionField read (members fields) name = some o := by
  unfold optionField
  rw [field_members hnodup hmem]
  cases o with
  | none => rfl
  | some a =>
    obtain ⟨hnull, hread⟩ := hread a rfl
    have hjson : readOption read (ofOption json (some a)) = (read (json a)).map some :=
      readOption_of_ne hnull
    dsimp only
    rw [hjson, hread, Option.map_some]

end Fields

end Json
