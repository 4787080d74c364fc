import Mathlib.Data.List.TakeWhile
import Mathlib.Tactic.IntervalCases

/-!
# Compact JSON text

A value is written without white space, and strings with the usual escapes: quote, backslash and
control characters.  Numbers are kept as the token they were written with.  Any string can be
written, and is read back up to its closing quote:

    readString (writeString text ++ '"' :: rest) = some (text, rest)     (readString_write)
-/

inductive Json where
  | null
  | bool (b : Bool)
  | num (token : List Char)
  | str (text : List Char)
  | arr (elements : List Json)
  | obj (members : List (List Char × Json))

namespace Json

/-! ## Strings -/

/-- The characters with an escape of their own. -/
def shortEscape (c : Char) : Option Char :=
  if c = '"' then some '"'
  else if c = '\\' then some '\\'
  else if c = '\x08' then some 'b'
  else if c = '\t' then some 't'
  else if c = '\n' then some 'n'
  else if c = '\x0c' then some 'f'
  else if c = '\r' then some 'r'
  else none

def escapeChar (c : Char) : List Char :=
  match shortEscape c with
  | some e => ['\\', e]
  | none =>
    if c.toNat < 32 then
      ['\\', 'u', '0', '0', Nat.digitChar (c.toNat / 16), Nat.digitChar (c.toNat % 16)]
    else [c]

def unescape (e : Char) : Option Char :=
  if e = '"' then some '"'
  else if e = '\\' then some '\\'
  else if e = '/' then some '/'
  else if e = 'b' then some '\x08'
  else if e = 't' then some '\t'
  else if e = 'n' then some '\n'
  else if e = 'f' then some '\x0c'
  else if e = 'r' then some '\r'
  else none

def hexValue (c : Char) : Option ℕ :=
  if c.isDigit then some (c.toNat - '0'.toNat)
  else if 'a' ≤ c ∧ c ≤ 'f' then some (c.toNat - 'a'.toNat + 10)
  else if 'A' ≤ c ∧ c ≤ 'F' then some (c.toNat - 'A'.toNat + 10)
  else none

/-- Four hex digits that name a character by themselves. -/
def readHex (a b c d : Char) : Option Char :=
  match hexValue a, hexValue b, hexValue c, hexValue d with
  | some a, some b, some c, some d =>
    let n := ((a * 16 + b) * 16 + c) * 16 + d
    if n < 0xD800 ∨ 0xE000 ≤ n then some (Char.ofNat n) else none
  | _, _, _, _ => none

/-- What follows an opening quote, up to the closing one. -/
def readString : List Char → Option (List Char × List Char)
  | [] => none
  | c :: rest =>
    if c = '"' then some ([], rest)
    else if c = '\\' then
      match rest with
      | [] => none
      | e :: rest =>
        if e = 'u' then
          match rest with
          | x :: y :: z :: w :: rest =>
            match readHex x y z w with
            | some c => (readString rest).map fun r => (c :: r.1, r.2)
            | none => none
          | _ => none
        else
          match unescape e with
          | some c => (readString rest).map fun r => (c :: r.1, r.2)
          | none => none
    else if c.toNat < 32 then none
    else (readString rest).map fun r => (c :: r.1, r.2)

def writeString (text : List Char) : List Char := text.flatMap escapeChar

theorem unescape_shortEscape {c e : Char} (h : shortEscape c = some e) :
    e ≠ 'u' ∧ unescape e = some c := by
  unfold shortEscape at h
  repeat' split at h
  all_goals cases h
  all_goals
    next heq =>
      subst heq
      decide

theorem readHex_control {n : ℕ} (h : n < 32) :
    readHex '0' '0' (Nat.digitChar (n / 16)) (Nat.digitChar (n % 16)) = some (Char.ofNat n) := by
  interval_cases n <;> decide

theorem readString_escape (c : Char) (t : List Char) :
    readString (escapeChar c ++ t) = (readString t).map fun r => (c :: r.1, r.2) := by
  have hslash : ¬ '\\' = '"' := by decide
  unfold escapeChar
  cases hshort : shortEscape c with
  | some e =>
    obtain ⟨hu, he⟩ := unescape_shortEscape hshort
    show readString ('\\' :: e :: t) = _
    rw [readString.eq_def]
    dsimp only
    rw [if_neg hslash, if_pos rfl, if_neg hu, he]
  | none =>
    dsimp only
    by_cases hcontrol : c.toNat < 32
    · have hhex := readHex_control hcontrol
      rw [Char.ofNat_toNat] at hhex
      rw [if_pos hcontrol]
      show readString ('\\' :: 'u' :: '0' :: '0' :: _ :: _ :: t) = _
      rw [readString.eq_def]
      dsimp only
      rw [if_neg hslash, if_pos rfl, if_pos rfl, hhex]
    · have hquote : c ≠ '"' := by
        rintro rfl
        cases hshort
      have hback : c ≠ '\\' := by
        rintro rfl
        cases hshort
      rw [if_neg hcontrol, List.singleton_append, readString.eq_def]
      dsimp only
      rw [if_neg hquote, if_neg hback, if_neg hcontrol]

theorem readString_write (text rest : List Char) :
    readString (writeString text ++ '"' :: rest) = some (text, rest) := by
  induction text with
  | nil =>
    show readString ('"' :: rest) = _
    rw [readString.eq_def]
    dsimp only
    rw [if_pos rfl]
  | cons c text ih =>
    show readString ((escapeChar c ++ writeString text) ++ '"' :: rest) = _
    rw [List.append_assoc, readString_escape, ih, Option.map_some]

/-! ## Numbers -/

def isNumberChar (c : Char) : Bool :=
  c.isDigit || c == '-' || c == '+' || c == '.' || c == 'e' || c == 'E'

def isDigits (t : List Char) : Bool := !t.isEmpty && t.all Char.isDigit

/-- Nothing, or an exponent. -/
def isExponent : List Char → Bool
  | [] => true
  | c :: t =>
    (c == 'e' || c == 'E') &&
      match t with
      | '+' :: t => isDigits t
      | '-' :: t => isDigits t
      | t => isDigits t

/-- What may follow the integer part. -/
def isFraction : List Char → Bool
  | '.' :: t => isDigits (t.takeWhile Char.isDigit) && isExponent (t.dropWhile Char.isDigit)
  | t => isExponent t

def isUnsigned : List Char → Bool
  | [] => false
  | '0' :: t => isFraction t
  | c :: t => c.isDigit && isFraction (t.dropWhile Char.isDigit)

def isNumber : List Char → Bool
  | '-' :: t => isUnsigned t
  | t => isUnsigned t

/-! ## Values -/

mutual

def write : Json → List Char
  | .null => ['n', 'u', 'l', 'l']
  | .bool true => ['t', 'r', 'u', 'e']
  | .bool false => ['f', 'a', 'l', 's', 'e']
  | .num token => token
  | .str text => '"' :: (writeString text ++ ['"'])
  | .arr [] => ['[', ']']
  | .arr (v :: vs) => '[' :: (write v ++ writeElements vs)
  | .obj [] => ['\x7b', '\x7d']
  | .obj (m :: ms) => '\x7b' :: ('"' :: (writeString m.1 ++ '"' :: ':' :: (write m.2 ++ writeMembers ms)))

/-- The elements after the first, and the closing bracket. -/
def writeElements : List Json → List Char
  | [] => [']']
  | v :: vs => ',' :: (write v ++ writeElements vs)

def writeMembers : List (List Char × Json) → List Char
  | [] => ['\x7d']
  | m :: ms => ',' :: ('"' :: (writeString m.1 ++ '"' :: ':' :: (write m.2 ++ writeMembers ms)))

end

def readLiteral (literal text : List Char) : Option (List Char) :=
  if literal.isPrefixOf text then some (text.drop literal.length) else none

mutual

def readValue : ℕ → List Char → Option (Json × List Char)
  | 0, _ => none
  | _ + 1, [] => none
  | fuel + 1, c :: rest =>
    if c = '"' then (readString rest).map fun r => (.str r.1, r.2)
    else if c = '[' then
      if rest.head? = some ']' then some (.arr [], rest.tail)
      else (readElements fuel rest).map fun r => (.arr r.1, r.2)
    else if c = '\x7b' then
      if rest.head? = some '\x7d' then some (.obj [], rest.tail)
      else (readMembers fuel rest).map fun r => (.obj r.1, r.2)
    else if c = 'n' then (readLiteral ['u', 'l', 'l'] rest).map fun r => (.null, r)
    else if c = 't' then (readLiteral ['r', 'u', 'e'] rest).map fun r => (.bool true, r)
    else if c = 'f' then (readLiteral ['a', 'l', 's', 'e'] rest).map fun r => (.bool false, r)
    else if isNumber ((c :: rest).takeWhile isNumberChar) then
      some (.num ((c :: rest).takeWhile isNumberChar), (c :: rest).dropWhile isNumberChar)
    else none

/-- At least one element, and the closing bracket. -/
def readElements : ℕ → List Char → Option (List Json × List Char)
  | 0, _ => none
  | fuel + 1, text =>
    match readValue fuel text with
    | none => none
    | some (v, rest) =>
      if rest.head? = some ',' then (readElements fuel rest.tail).map fun r => (v :: r.1, r.2)
      else if rest.head? = some ']' then some ([v], rest.tail)
      else none

def readMembers : ℕ → List Char → Option (List (List Char × Json) × List Char)
  | 0, _ => none
  | fuel + 1, text =>
    match readKey text with
    | none => none
    | some (key, text) =>
      match readValue fuel text with
      | none => none
      | some (v, rest) =>
        if rest.head? = some ',' then (readMembers fuel rest.tail).map fun r => ((key, v) :: r.1, r.2)
        else if rest.head? = some '\x7d' then some ([(key, v)], rest.tail)
        else none

/-- A string and the colon after it. -/
def readKey (text : List Char) : Option (List Char × List Char) :=
  if text.head? = some '"' then
    match readString text.tail with
    | none => none
    | some (key, rest) => if rest.head? = some ':' then some (key, rest.tail) else none
  else none

end

/-- The whole text is one value. -/
def parse (text : List Char) : Option Json :=
  match readValue (2 * text.length) text with
  | some (v, []) => some v
  | _ => none

end Json
