import Brainstem.Lib.Json

/-!
# Reading compact JSON text back

The reader takes at most two units of fuel for each character, so it has enough for every text
that was written:

    parse (write v) = some v                                             (parse_write)

The proof follows the writer: values, elements and members, each before what follows it.
-/

namespace Json

/-! ## Reading what was written -/

mutual

/-- Number tokens are numbers. -/
def Valid : Json → Prop
  | .num token => isNumber token = true ∧ ∀ c ∈ token, isNumberChar c = true
  | .arr elements => ValidElements elements
  | .obj members => ValidMembers members
  | .null | .bool _ | .str _ => True

def ValidElements : List Json → Prop
  | [] => True
  | v :: vs => Valid v ∧ ValidElements vs

def ValidMembers : List (List Char × Json) → Prop
  | [] => True
  | m :: ms => Valid m.2 ∧ ValidMembers ms

end

mutual

/-- The fuel that reading takes. -/
def cost : Json → ℕ
  | .arr elements => costElements elements + 1
  | .obj members => costMembers members + 1
  | .null | .bool _ | .num _ | .str _ => 1

def costElements : List Json → ℕ
  | [] => 0
  | v :: vs => cost v + costElements vs + 1

def costMembers : List (List Char × Json) → ℕ
  | [] => 0
  | m :: ms => cost m.2 + costMembers ms + 1

end

/-- A number token that stands before this text ends there. -/
def Ends (rest : List Char) : Prop := ∀ c, rest.head? = some c → isNumberChar c = false

theorem ends_cons {c : Char} (h : isNumberChar c = false) (rest : List Char) : Ends (c :: rest) := by
  rintro d hd
  cases hd
  exact h

theorem takeWhile_token {token rest : List Char} (h : ∀ c ∈ token, isNumberChar c = true)
    (hends : Ends rest) : (token ++ rest).takeWhile isNumberChar = token ∧
      (token ++ rest).dropWhile isNumberChar = rest := by
  rw [List.takeWhile_append_of_pos h, List.dropWhile_append_of_pos h]
  cases rest with
  | nil => exact ⟨List.append_nil _, rfl⟩
  | cons c rest =>
    have hc := hends c rfl
    rw [List.takeWhile_cons_of_neg (by simp [hc]), List.dropWhile_cons_of_neg (by simp [hc]),
      List.append_nil]
    exact ⟨rfl, rfl⟩

theorem readLiteral_append (literal rest : List Char) :
    readLiteral literal (literal ++ rest) = some rest := by
  unfold readLiteral
  rw [if_pos, List.drop_left]
  rw [List.isPrefixOf_iff_prefix]
  exact List.prefix_append _ _

theorem readKey_write (key rest : List Char) :
    readKey ('"' :: (writeString key ++ '"' :: ':' :: rest)) = some (key, rest) := by
  unfold readKey
  rw [List.head?_cons, if_pos rfl, List.tail_cons, readString_write]
  dsimp only
  rw [List.head?_cons, if_pos rfl, List.tail_cons]

theorem readValue_token {token : List Char} (hnumber : isNumber token = true)
    (hchars : ∀ c ∈ token, isNumberChar c = true) (fuel : ℕ) {rest : List Char} (hends : Ends rest) :
    readValue (fuel + 1) (token ++ rest) = some (.num token, rest) := by
  obtain ⟨htake, hdrop⟩ := takeWhile_token hchars hends
  cases token with
  | nil => cases hnumber
  | cons c token =>
    have hc := hchars c List.mem_cons_self
    have hne (d : Char) (hd : isNumberChar d = false) : ¬c = d := by
      rintro rfl
      rw [hc] at hd
      cases hd
    rw [List.cons_append] at htake hdrop ⊢
    rw [readValue, if_neg (hne _ (by decide)), if_neg (hne _ (by decide)), if_neg (hne _ (by decide)),
      if_neg (hne _ (by decide)), if_neg (hne _ (by decide)), if_neg (hne _ (by decide)), htake, hdrop,
      if_pos hnumber]

/-- A value starts with a character that closes nothing. -/
theorem head_write {v : Json} (hv : v.Valid) : ∃ c t, write v = c :: t ∧ c ≠ ']' := by
  match v with
  | .null => exact ⟨_, _, rfl, by decide⟩
  | .bool true => exact ⟨_, _, rfl, by decide⟩
  | .bool false => exact ⟨_, _, rfl, by decide⟩
  | .num [] => exact absurd hv.1 (by decide)
  | .num (c :: token) =>
    refine ⟨c, token, rfl, ?_⟩
    rintro rfl
    exact absurd (hv.2 _ List.mem_cons_self) (by decide)
  | .str text => exact ⟨_, _, rfl, by decide⟩
  | .arr [] => exact ⟨_, _, rfl, by decide⟩
  | .arr (v :: vs) => exact ⟨_, _, rfl, by decide⟩
  | .obj [] => exact ⟨_, _, rfl, by decide⟩
  | .obj (m :: ms) => exact ⟨_, _, rfl, by decide⟩

/-- A member before what follows it. -/
def writeMember (m : List Char × Json) : List Char :=
  '"' :: (writeString m.1 ++ '"' :: ':' :: write m.2)

mutual

theorem readValue_write : ∀ (v : Json), v.Valid → ∀ fuel, v.cost ≤ fuel → ∀ rest, Ends rest →
    readValue fuel (write v ++ rest) = some (v, rest)
  | v, _, 0, hfuel, _, _ => by
    cases v <;> exact absurd hfuel (Nat.not_succ_le_zero _)
  | .null, _, fuel + 1, _, rest, _ => by
    show readValue (fuel + 1) ('n' :: (['u', 'l', 'l'] ++ rest)) = _
    rw [readValue, if_neg (by decide), if_neg (by decide), if_neg (by decide), if_pos rfl,
      readLiteral_append, Option.map_some]
  | .bool true, _, fuel + 1, _, rest, _ => by
    show readValue (fuel + 1) ('t' :: (['r', 'u', 'e'] ++ rest)) = _
    rw [readValue, if_neg (by decide), if_neg (by decide), if_neg (by decide), if_neg (by decide),
      if_pos rfl, readLiteral_append, Option.map_some]
  | .bool false, _, fuel + 1, _, rest, _ => by
    show readValue (fuel + 1) ('f' :: (['a', 'l', 's', 'e'] ++ rest)) = _
    rw [readValue, if_neg (by decide), if_neg (by decide), if_neg (by decide), if_neg (by decide),
      if_neg (by decide), if_pos rfl, readLiteral_append, Option.map_some]
  | .num token, hv, fuel + 1, _, rest, hends => readValue_token hv.1 hv.2 fuel hends
  | .str text, _, fuel + 1, _, rest, _ => by
    show readValue (fuel + 1) ('"' :: ((writeString text ++ ['"']) ++ rest)) = _
    rw [readValue, if_pos rfl, List.append_assoc, List.singleton_append, readString_write,
      Option.map_some]
  | .arr [], _, fuel + 1, _, rest, _ => by
    show readValue (fuel + 1) ('[' :: ']' :: rest) = _
    rw [readValue, if_neg (by decide), if_pos rfl, List.head?_cons, if_pos rfl, List.tail_cons]
  | .arr (v :: vs), hv, fuel + 1, hfuel, rest, _ => by
    obtain ⟨c, t, hhead, hc⟩ := head_write hv.1
    have hread := readElements_write v vs hv fuel (Nat.le_of_succ_le_succ hfuel) rest
    show readValue (fuel + 1) ('[' :: ((write v ++ writeElements vs) ++ rest)) = _
    rw [readValue, if_neg (by decide), if_pos rfl, if_neg, hread, Option.map_some]
    rw [hhead, List.cons_append, List.cons_append, List.head?_cons]
    exact fun h => hc (Option.some.inj h)
  | .obj [], _, fuel + 1, _, rest, _ => by
    show readValue (fuel + 1) ('\x7b' :: '\x7d' :: rest) = _
    rw [readValue, if_neg (by decide), if_neg (by decide), if_pos rfl, List.head?_cons, if_pos rfl,
      List.tail_cons]
  | .obj (m :: ms), hv, fuel + 1, hfuel, rest, _ => by
    have hread := readMembers_write m ms hv fuel (Nat.le_of_succ_le_succ hfuel) rest
    have hquote : ¬some '"' = some '\x7d' := by decide
    show readValue (fuel + 1) ('\x7b' :: ('"' :: ((writeString m.1 ++ '"' :: ':' ::
      (write m.2 ++ writeMembers ms)) ++ rest))) = _
    rw [readValue, if_neg (by decide), if_neg (by decide), if_pos rfl, List.head?_cons, if_neg hquote]
    have htext : writeMember m ++ (writeMembers ms ++ rest) = '"' :: ((writeString m.1 ++ '"' :: ':' ::
        (write m.2 ++ writeMembers ms)) ++ rest) := by simp [writeMember]
    rw [← htext, hread, Option.map_some]

theorem readElements_write : ∀ (v : Json) (vs : List Json), ValidElements (v :: vs) →
    ∀ fuel, costElements (v :: vs) ≤ fuel → ∀ rest,
    readElements fuel ((write v ++ writeElements vs) ++ rest) = some (v :: vs, rest)
  | _, _, _, 0, hfuel, _ => absurd hfuel (Nat.not_succ_le_zero _)
  | v, [], hv, fuel + 1, hfuel, rest => by
    have hcost : v.cost ≤ fuel := (Nat.le_add_right _ _).trans (Nat.le_of_succ_le_succ hfuel)
    have hread := readValue_write v hv.1 fuel hcost (']' :: rest) (ends_cons (by decide) _)
    show readElements (fuel + 1) ((write v ++ [']']) ++ rest) = _
    rw [List.append_assoc, List.singleton_append, readElements, hread]
    dsimp only
    rw [List.head?_cons, if_neg (by decide), if_pos rfl, List.tail_cons]
  | v, w :: vs, hv, fuel + 1, hfuel, rest => by
    have hsum : v.cost + costElements (w :: vs) ≤ fuel := Nat.le_of_succ_le_succ hfuel
    have htext : (write v ++ writeElements (w :: vs)) ++ rest =
        write v ++ ',' :: ((write w ++ writeElements vs) ++ rest) := by
      rw [List.append_assoc]
      rfl
    have hread := readValue_write v hv.1 fuel ((Nat.le_add_right _ _).trans hsum)
      (',' :: ((write w ++ writeElements vs) ++ rest)) (ends_cons (by decide) _)
    have hmore := readElements_write w vs hv.2 fuel ((Nat.le_add_left _ _).trans hsum) rest
    rw [htext, readElements, hread]
    dsimp only
    rw [List.head?_cons, if_pos rfl, List.tail_cons, hmore, Option.map_some]

theorem readMembers_write : ∀ (m : List Char × Json) (ms : List (List Char × Json)),
    ValidMembers (m :: ms) → ∀ fuel, costMembers (m :: ms) ≤ fuel → ∀ rest,
    readMembers fuel (writeMember m ++ (writeMembers ms ++ rest)) = some (m :: ms, rest)
  | _, _, _, 0, hfuel, _ => absurd hfuel (Nat.not_succ_le_zero _)
  | (key, v), [], hv, fuel + 1, hfuel, rest => by
    have hcost : v.cost ≤ fuel := (Nat.le_add_right _ _).trans (Nat.le_of_succ_le_succ hfuel)
    have hread := readValue_write v hv.1 fuel hcost ('\x7d' :: rest) (ends_cons (by decide) _)
    have htext : writeMember (key, v) ++ (writeMembers [] ++ rest) =
        '"' :: (writeString key ++ '"' :: ':' :: (write v ++ '\x7d' :: rest)) := by
      simp [writeMember, writeMembers]
    rw [htext, readMembers, readKey_write]
    dsimp only
    rw [hread]
    dsimp only
    rw [List.head?_cons, if_neg (by decide), if_pos rfl, List.tail_cons]
  | (key, v), n :: ms, hv, fuel + 1, hfuel, rest => by
    have hsum : v.cost + costMembers (n :: ms) ≤ fuel := Nat.le_of_succ_le_succ hfuel
    have htext : writeMember (key, v) ++ (writeMembers (n :: ms) ++ rest) = '"' :: (writeString key ++
        '"' :: ':' :: (write v ++ ',' :: (writeMember n ++ (writeMembers ms ++ rest)))) := by
      simp [writeMember, writeMembers]
    have hread := readValue_write v hv.1 fuel ((Nat.le_add_right _ _).trans hsum)
      (',' :: (writeMember n ++ (writeMembers ms ++ rest))) (ends_cons (by decide) _)
    have hmore := readMembers_write n ms hv.2 fuel ((Nat.le_add_left _ _).trans hsum) rest
    rw [htext, readMembers, readKey_write]
    dsimp only
    rw [hread]
    dsimp only
    rw [List.head?_cons, if_pos rfl, List.tail_cons, hmore, Option.map_some]

end

mutual

/-- Reading takes at most two units of fuel for each character. -/
theorem cost_le : ∀ (v : Json), v.Valid → v.cost ≤ 2 * (write v).length
  | .null, _ => by decide
  | .bool true, _ => by decide
  | .bool false, _ => by decide
  | .num [], hv => absurd hv.1 (by decide)
  | .num (c :: token), _ => by
    show 1 ≤ 2 * (token.length + 1)
    omega
  | .str text, _ => by
    show 1 ≤ 2 * ((writeString text ++ ['"']).length + 1)
    omega
  | .arr [], _ => by decide
  | .arr (v :: vs), hv => by
    have hv' := cost_le v hv.1
    have hvs := costElements_le vs hv.2
    show v.cost + costElements vs + 1 + 1 ≤ 2 * ((write v ++ writeElements vs).length + 1)
    rw [List.length_append]
    omega
  | .obj [], _ => by decide
  | .obj (m :: ms), hv => by
    have hm := cost_le m.2 hv.1
    have hms := costMembers_le ms hv.2
    show m.2.cost + costMembers ms + 1 + 1 ≤
      2 * ((writeString m.1 ++ '"' :: ':' :: (write m.2 ++ writeMembers ms)).length + 1 + 1)
    rw [List.length_append, List.length_cons, List.length_cons, List.length_append]
    omega

theorem costElements_le : ∀ (vs : List Json), ValidElements vs →
    costElements vs ≤ 2 * (writeElements vs).length
  | [], _ => by decide
  | v :: vs, hv => by
    have hv' := cost_le v hv.1
    have hvs := costElements_le vs hv.2
    show v.cost + costElements vs + 1 ≤ 2 * ((write v ++ writeElements vs).length + 1)
    rw [List.length_append]
    omega

theorem costMembers_le : ∀ (ms : List (List Char × Json)), ValidMembers ms →
    costMembers ms ≤ 2 * (writeMembers ms).length
  | [], _ => by decide
  | m :: ms, hv => by
    have hm := cost_le m.2 hv.1
    have hms := costMembers_le ms hv.2
    show m.2.cost + costMembers ms + 1 ≤
      2 * ((writeString m.1 ++ '"' :: ':' :: (write m.2 ++ writeMembers ms)).length + 1 + 1)
    rw [List.length_append, List.length_cons, List.length_cons, List.length_append]
    omega

end

theorem parse_write {v : Json} (hv : v.Valid) : parse (write v) = some v := by
  have hread := readValue_write v hv _ (cost_le v hv) [] nofun
  unfold parse
  rw [List.append_nil] at hread
  rw [hread]

/-! ## Natural numbers -/

def ofNat (n : ℕ) : Json := .num (Nat.toDigits 10 n)

def toNat? : Json → Option ℕ
  | .num token => if token.all Char.isDigit then some (Nat.ofDigitChars 10 token 0) else none
  | _ => none

theorem toNat?_ofNat (n : ℕ) : toNat? (ofNat n) = some n := by
  unfold toNat? ofNat
  dsimp only
  rw [if_pos, Nat.ofDigitChars_ten_toDigits]
  rw [List.all_eq_true]
  exact fun d hd => Nat.isDigit_of_mem_toDigits (by decide) (by decide) hd

theorem dropWhile_digits {t : List Char} (h : ∀ c ∈ t, c.isDigit = true) :
    t.dropWhile Char.isDigit = [] := by
  rw [List.dropWhile_eq_nil_iff]
  exact h

/-- The digits of a number have no leading zero. -/
theorem toDigits_head {n : ℕ} (h : n ≠ 0) : ∃ c t, Nat.toDigits 10 n = c :: t ∧ c ≠ '0' := by
  induction n using Nat.strongRecOn with
  | ind n ih =>
    by_cases hsmall : n < 10
    · rw [Nat.toDigits_of_lt_base hsmall]
      refine ⟨_, [], rfl, ?_⟩
      interval_cases n
      · exact absurd rfl h
      all_goals decide
    · obtain ⟨c, t, htext, hc⟩ := ih (n / 10) (by omega) (by omega)
      rw [Nat.toDigits_of_base_le (by decide) (by omega), htext]
      exact ⟨c, t ++ [_], rfl, hc⟩

theorem valid_ofNat (n : ℕ) : (ofNat n).Valid := by
  have hdigits : ∀ d ∈ Nat.toDigits 10 n, d.isDigit = true := fun d hd =>
    Nat.isDigit_of_mem_toDigits (by decide) (by decide) hd
  refine ⟨?_, fun d hd => ?_⟩
  · by_cases hzero : n = 0
    · subst hzero
      decide
    · obtain ⟨c, t, htext, hc⟩ := toDigits_head hzero
      rw [htext] at hdigits ⊢
      obtain ⟨hhead, htail⟩ := List.forall_mem_cons.1 hdigits
      have hminus : c ≠ '-' := by
        rintro rfl
        exact absurd hhead (by decide)
      unfold isNumber isUnsigned
      simp [hminus, hhead, dropWhile_digits htail, isFraction, isExponent]
  · unfold isNumberChar
    rw [hdigits d hd]
    rfl

end Json
