import Brainstem.Lib.Utf8
import Mathlib.Data.List.TakeWhile

/-!
# Framing of HTTP messages

A message is a start line, headers and a body of any bytes.  A reader takes it apart line by
line up to the empty line, and what follows is the body:

    parse (render m) = some m                                            (parse_render)

A client takes the status from the start line, and a body only if it has as many bytes as the
`Content-Length` says.
-/

structure HttpMessage where
  startLine : List Char
  headers : List (List Char × List Char)
  body : List UInt8
  deriving DecidableEq

namespace HttpMessage

/-! ## Writing -/

def crlf : List Char := ['\r', '\n']

def headerLine (h : List Char × List Char) : List Char := h.1 ++ ':' :: ' ' :: h.2

def renderHeaders (headers : List (List Char × List Char)) (body : List UInt8) : List UInt8 :=
  headers.foldr (fun h rest => Utf8.encode (headerLine h ++ crlf) ++ rest) (Utf8.encode crlf ++ body)

def render (m : HttpMessage) : List UInt8 :=
  Utf8.encode (m.startLine ++ crlf) ++ renderHeaders m.headers m.body

/-! ## Reading -/

/-- The first line, without what ends it, and the bytes after it. -/
def readLine (bytes : List UInt8) : Option (List Char × List UInt8) :=
  match bytes.dropWhile (· ≠ 10) with
  | [] => none
  | _ :: rest =>
    match Utf8.decode (bytes.takeWhile (· ≠ 10)) with
    | none => none
    | some text =>
      if text.toList.getLast? = some '\r' then some (text.toList.dropLast, rest) else none

def readHeader (line : List Char) : Option (List Char × List Char) :=
  match line.dropWhile (· ≠ ':') with
  | ':' :: ' ' :: value => some (line.takeWhile (· ≠ ':'), value)
  | _ => none

/-- The headers up to the empty line, and the bytes after it.  There are fewer lines than bytes. -/
def readHeaders : ℕ → List UInt8 → Option (List (List Char × List Char) × List UInt8)
  | 0, _ => none
  | fuel + 1, bytes =>
    match readLine bytes with
    | none => none
    | some ([], rest) => some ([], rest)
    | some (line, rest) =>
      match readHeader line, readHeaders fuel rest with
      | some h, some (headers, body) => some (h :: headers, body)
      | _, _ => none

def parse (bytes : List UInt8) : Option HttpMessage :=
  match readLine bytes with
  | none => none
  | some (startLine, rest) =>
    (readHeaders bytes.length rest).map fun r => ⟨startLine, r.1, r.2⟩

def header? (m : HttpMessage) (name : List Char) : Option (List Char) :=
  (m.headers.find? fun h => h.1 == name).map Prod.snd

def readNumber (digits : List Char) : Option ℕ :=
  if digits ≠ [] ∧ digits.all Char.isDigit then some (Nat.ofDigitChars 10 digits 0) else none

/-- The number after the protocol version. -/
def status? (m : HttpMessage) : Option ℕ :=
  if "HTTP/1.1 ".toList.isPrefixOf m.startLine then
    readNumber ((m.startLine.drop 9).takeWhile Char.isDigit)
  else none

/-- What a client gets from the bytes of a connection that was closed: a status and a message
with as much of a body as it announced. -/
def receive (bytes : List UInt8) : Option (ℕ × HttpMessage) :=
  match parse bytes with
  | none => none
  | some m =>
    match m.status?, (m.header? "Content-Length".toList).bind readNumber with
    | some status, some length => if length = m.body.length then some (status, m) else none
    | _, _ => none

/-! ## Reading what was written -/

structure WellFormed (m : HttpMessage) : Prop where
  startLine : '\n' ∉ m.startLine
  names : ∀ h ∈ m.headers, ':' ∉ h.1 ∧ '\n' ∉ h.1
  values : ∀ h ∈ m.headers, '\n' ∉ h.2

theorem lf_not_mem_encode {chars : List Char} (h : '\n' ∉ chars) : 10 ∉ Utf8.encode chars := by
  unfold Utf8.encode
  rw [List.mem_flatMap]
  rintro ⟨c, hc, hlf⟩
  exact h (Utf8.lf_mem_encodeChar hlf ▸ hc)

theorem length_le_encode (chars : List Char) : chars.length ≤ (Utf8.encode chars).length := by
  induction chars with
  | nil => exact Nat.le_refl 0
  | cons c chars ih =>
    have hpos : 0 < (String.utf8EncodeChar c).length := by
      rw [String.length_utf8EncodeChar]
      exact Char.utf8Size_pos c
    show _ ≤ (String.utf8EncodeChar c ++ Utf8.encode chars).length
    rw [List.length_append, List.length_cons]
    omega

theorem readLine_line {line : List Char} (h : '\n' ∉ line) (rest : List UInt8) :
    readLine (Utf8.encode (line ++ crlf) ++ rest) = some (line, rest) := by
  have hcr : '\n' ∉ line ++ ['\r'] := by simp [h]
  have hbytes : Utf8.encode (line ++ crlf) ++ rest = Utf8.encode (line ++ ['\r']) ++ 10 :: rest := by
    rw [show line ++ crlf = (line ++ ['\r']) ++ ['\n'] by simp [crlf], Utf8.encode_append,
      List.append_assoc]
    rfl
  have hall : ∀ b ∈ Utf8.encode (line ++ ['\r']), decide (b ≠ 10) = true := by
    intro b hb
    rw [decide_eq_true_iff]
    rintro rfl
    exact lf_not_mem_encode hcr hb
  have hdecode : Utf8.decode (Utf8.encode (line ++ ['\r'])) = some (String.ofList (line ++ ['\r'])) := by
    rw [Utf8.decode_eq_some, String.toList_ofList]
  unfold readLine
  rw [hbytes, List.dropWhile_append_of_pos hall, List.takeWhile_append_of_pos hall,
    List.dropWhile_cons_of_neg (by decide), List.takeWhile_cons_of_neg (by decide), List.append_nil,
    hdecode]
  dsimp only
  rw [String.toList_ofList, List.getLast?_concat, if_pos rfl, List.dropLast_concat]

theorem readHeader_line {h : List Char × List Char} (hname : ':' ∉ h.1) :
    readHeader (headerLine h) = some h := by
  have hall : ∀ c ∈ h.1, decide (c ≠ ':') = true := by
    intro c hc
    rw [decide_eq_true_iff]
    rintro rfl
    exact hname hc
  have hdrop : (headerLine h).dropWhile (· ≠ ':') = ':' :: ' ' :: h.2 := by
    unfold headerLine
    rw [List.dropWhile_append_of_pos hall, List.dropWhile_cons_of_neg (by decide)]
  have htake : (headerLine h).takeWhile (· ≠ ':') = h.1 := by
    unfold headerLine
    rw [List.takeWhile_append_of_pos hall, List.takeWhile_cons_of_neg (by decide), List.append_nil]
  unfold readHeader
  simp only [hdrop, htake]

theorem headerLine_ne_nil (h : List Char × List Char) : headerLine h ≠ [] := by
  unfold headerLine
  exact List.append_ne_nil_of_right_ne_nil _ (List.cons_ne_nil _ _)

theorem readHeaders_render {headers : List (List Char × List Char)} (body : List UInt8)
    (hnames : ∀ h ∈ headers, ':' ∉ h.1 ∧ '\n' ∉ h.1) (hvalues : ∀ h ∈ headers, '\n' ∉ h.2) {fuel : ℕ}
    (hfuel : headers.length < fuel) :
    readHeaders fuel (renderHeaders headers body) = some (headers, body) := by
  induction headers generalizing fuel with
  | nil =>
    cases fuel with
    | zero => exact absurd hfuel (Nat.not_lt_zero _)
    | succ fuel =>
      have hline : readLine (Utf8.encode ([] ++ crlf) ++ body) = some ([], body) :=
        readLine_line List.not_mem_nil body
      unfold readHeaders
      rw [show renderHeaders [] body = Utf8.encode ([] ++ crlf) ++ body from rfl, hline]
  | cons h headers ih =>
    cases fuel with
    | zero => exact absurd hfuel (Nat.not_lt_zero _)
    | succ fuel =>
      obtain ⟨⟨hcolon, hname⟩, hnames⟩ := List.forall_mem_cons.1 hnames
      obtain ⟨hvalue, hvalues⟩ := List.forall_mem_cons.1 hvalues
      have hplain : '\n' ∉ headerLine h := by
        unfold headerLine
        simp [hname, hvalue]
      rw [List.length_cons] at hfuel
      have hrest := ih hnames hvalues (Nat.lt_of_succ_lt_succ hfuel)
      unfold readHeaders
      rw [show renderHeaders (h :: headers) body =
        Utf8.encode (headerLine h ++ crlf) ++ renderHeaders headers body from rfl,
        readLine_line hplain]
      split
      · next heq => cases heq
      · next rest heq => exact absurd (Prod.mk.inj (Option.some.inj heq)).1 (headerLine_ne_nil h)
      · next line rest _ heq =>
        cases heq
        rw [readHeader_line hcolon, hrest]

theorem length_lt_renderHeaders (headers : List (List Char × List Char)) (body : List UInt8) :
    headers.length < (renderHeaders headers body).length := by
  induction headers with
  | nil =>
    show 0 < (Utf8.encode crlf ++ body).length
    have := length_le_encode crlf
    rw [List.length_append]
    exact Nat.lt_of_lt_of_le (by decide) (Nat.le_add_right_of_le this)
  | cons h headers ih =>
    show _ < (Utf8.encode (headerLine h ++ crlf) ++ renderHeaders headers body).length
    have := length_le_encode (headerLine h ++ crlf)
    rw [List.length_append, show crlf.length = 2 from rfl] at this
    rw [List.length_append, List.length_cons]
    omega

theorem parse_render {m : HttpMessage} (h : m.WellFormed) : parse (render m) = some m := by
  have hfuel : m.headers.length < (render m).length := by
    unfold render
    rw [List.length_append]
    exact Nat.lt_of_lt_of_le (length_lt_renderHeaders m.headers m.body) (Nat.le_add_left _ _)
  have hheaders := readHeaders_render m.body h.names h.values hfuel
  have hline : readLine (render m) = some (m.startLine, renderHeaders m.headers m.body) :=
    readLine_line h.startLine _
  unfold parse
  rw [hline]
  dsimp only
  rw [hheaders, Option.map_some]

theorem readNumber_toDigits (n : ℕ) : readNumber (Nat.toDigits 10 n) = some n := by
  unfold readNumber
  rw [if_pos, Nat.ofDigitChars_ten_toDigits]
  refine ⟨Nat.toDigits_ne_nil, ?_⟩
  rw [List.all_eq_true]
  exact fun d hd => Nat.isDigit_of_mem_toDigits (by decide) (by decide) hd

theorem receive_render {m : HttpMessage} (h : m.WellFormed) {status : ℕ}
    (hstatus : m.status? = some status)
    (hlength : m.header? "Content-Length".toList = some (Nat.toDigits 10 m.body.length)) :
    receive (render m) = some (status, m) := by
  unfold receive
  rw [parse_render h]
  dsimp only
  rw [hstatus, hlength, Option.bind_some, readNumber_toDigits]
  dsimp only
  rw [if_pos rfl]

end HttpMessage
