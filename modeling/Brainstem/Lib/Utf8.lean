import Mathlib.Data.List.Basic

/-!
# Line feeds in UTF-8

The byte 10 occurs in the encoding of a line feed and of no other character, so a text and its
bytes break at the same places:

    decode (l ++ 10 :: r) = some text, 10 ∉ l →
      text = line ++ '\n' :: rest with decode (l ++ [10]) = some (line ++ "\n")    (decode_line)
-/

namespace Utf8

def decode (bytes : List UInt8) : Option String := String.fromUTF8? ⟨bytes.toArray⟩

def encode (chars : List Char) : List UInt8 := chars.flatMap String.utf8EncodeChar

theorem encode_append (a b : List Char) : encode (a ++ b) = encode a ++ encode b :=
  List.flatMap_append

theorem decode_eq_some {bytes : List UInt8} {text : String} :
    decode bytes = some text ↔ encode text.toList = bytes := by
  have hbytes : text.toByteArray = ⟨bytes.toArray⟩ ↔ encode text.toList = bytes := by
    rw [← String.utf8Encode_toList, List.utf8Encode, ByteArray.ext_iff, ← Array.toList_inj,
      List.toList_data_toByteArray]
    rfl
  rw [← hbytes]
  unfold decode String.fromUTF8?
  split
  · next hvalid =>
    rw [Option.some_inj, ← String.toByteArray_inj, eq_comm]
    rfl
  · next hinvalid =>
    refine ⟨fun h => (nomatch h), fun h => absurd ?_ hinvalid⟩
    rw [← h]
    exact text.isValidUTF8

/-- Every byte of an encoding of more than one byte has its high bit set. -/
theorem high_of_mem_encodeChar {c : Char} (hc : ¬c.val.toNat ≤ 0x7f) :
    ∀ b ∈ String.utf8EncodeChar c, 128 ≤ b.toNat := by
  unfold String.utf8EncodeChar
  rw [if_neg hc]
  split
  · simp only [List.forall_mem_cons, UInt8.toNat_ofNat']
    refine ⟨by omega, by omega, fun b hb => (nomatch hb)⟩
  · split
    · simp only [List.forall_mem_cons, UInt8.toNat_ofNat']
      refine ⟨by omega, by omega, by omega, fun b hb => (nomatch hb)⟩
    · simp only [List.forall_mem_cons, UInt8.toNat_ofNat']
      refine ⟨by omega, by omega, by omega, by omega, fun b hb => (nomatch hb)⟩

theorem lf_mem_encodeChar {c : Char} (h : 10 ∈ String.utf8EncodeChar c) : c = '\n' := by
  by_cases hascii : c.val.toNat ≤ 0x7f
  · unfold String.utf8EncodeChar at h
    rw [if_pos hascii, List.mem_singleton] at h
    have hv : 10 = c.val.toNat % 256 := by
      rw [← UInt8.toNat_ofNat', ← h]
      rfl
    apply Char.ext
    apply UInt32.toNat_inj.1
    show c.val.toNat = 10
    omega
  · have := high_of_mem_encodeChar hascii 10 h
    exact absurd this (by decide)

/-- The bytes before the first line feed encode the characters before it. -/
theorem encode_eq_line {l r : List UInt8} (hl : 10 ∉ l) {chars : List Char}
    (h : encode chars = l ++ 10 :: r) :
    ∃ line rest, chars = line ++ '\n' :: rest ∧ encode line = l ∧ '\n' ∉ line := by
  induction chars generalizing l with
  | nil => simp [encode] at h
  | cons c chars ih =>
    by_cases hc : c = '\n'
    · subst hc
      cases l with
      | nil => exact ⟨[], chars, rfl, rfl, List.not_mem_nil⟩
      | cons b l =>
        have hhead : b = 10 := (List.cons.inj h).1.symm
        exact absurd (hhead ▸ List.mem_cons_self) hl
    · have hnone : 10 ∉ String.utf8EncodeChar c := fun hm => hc (lf_mem_encodeChar hm)
      have hsplit : String.utf8EncodeChar c ++ encode chars = l ++ 10 :: r := h
      rcases List.append_eq_append_iff.1 hsplit with ⟨l', rfl, hrest⟩ | ⟨c', hc', hrest⟩
      · obtain ⟨line, rest, rfl, rfl, hline⟩ := ih (fun hm => hl (List.mem_append_right _ hm)) hrest
        refine ⟨c :: line, rest, rfl, rfl, ?_⟩
        rw [List.mem_cons]
        rintro (rfl | hm)
        · exact hc rfl
        · exact hline hm
      · cases c' with
        | nil =>
          -- the line feed is the first byte after this character
          obtain ⟨line, rest, rfl, hnil, hline⟩ := ih List.not_mem_nil hrest.symm
          refine ⟨c :: line, rest, rfl, ?_, ?_⟩
          · show String.utf8EncodeChar c ++ encode line = l
            rw [hnil, hc', List.append_nil, List.append_nil]
          · rw [List.mem_cons]
            rintro (rfl | hm)
            · exact hc rfl
            · exact hline hm
        | cons b c' =>
          have hb : b = 10 := (List.cons.inj hrest).1.symm
          exact absurd (hc' ▸ List.mem_append_right _ (hb ▸ List.mem_cons_self)) hnone

/-- A text whose bytes have a line feed has that line, which is a text by itself. -/
theorem decode_line {l r : List UInt8} (hl : 10 ∉ l) {text : String}
    (h : decode (l ++ 10 :: r) = some text) :
    ∃ line rest, text.toList = line ++ '\n' :: rest ∧ '\n' ∉ line ∧
      decode (l ++ [10]) = some (String.ofList (line ++ ['\n'])) := by
  obtain ⟨line, rest, htext, hline, hlf⟩ := encode_eq_line hl (decode_eq_some.1 h)
  refine ⟨line, rest, htext, hlf, decode_eq_some.2 ?_⟩
  rw [String.toList_ofList, encode_append, hline]
  rfl

end Utf8
