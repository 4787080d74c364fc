import Brainstem.Control.Http
import Mathlib.Data.List.TakeWhile

/-!
# A reply and its request line

The reply is meant for the request line.  What else has arrived with the line is taken for text
together with it, and spoils it if it is not:

    replies to two splits of a stream agree, and with the reply to its line alone   ↔
      all that arrived was UTF-8 both times, or the line is a bad request           (reply_of_line_iff)
-/

namespace Brainstem.Control

open Brainstem.Health

/-! ## What has arrived -/

/-- The bytes up to the first line feed, and that one. -/
def requestLine (stream : List UInt8) : List UInt8 := stream.takeWhile (· ≠ 10) ++ [10]

/-- The reads split the stream into these non-empty chunks. -/
structure Splits (chunks : List (List UInt8)) (stream : List UInt8) : Prop where
  flatten : chunks.flatten = stream
  nonempty : [] ∉ chunks

/-- The chunks up to the first one with a line feed, as far as they fit. -/
def arrived (chunks : List (List UInt8)) : List UInt8 :=
  (chunks.take (chunks.findIdx (10 ∈ ·) + 1)).flatten.take BUF_LEN

theorem readRequestLine_chunks {chunks : List (List UInt8)} (hne : [] ∉ chunks) {buf : List UInt8}
    (hroom : buf.length < BUF_LEN) (hbuf : 10 ∉ buf)
    (hlf : 10 ∈ (buf ++ chunks.flatten).take BUF_LEN) :
    ∃ got, readRequestLine (chunks.map .done) buf = .done got ∧ 10 ∈ got ∧
      got = (buf ++ (chunks.take (chunks.findIdx (10 ∈ ·) + 1)).flatten).take BUF_LEN := by
  induction chunks generalizing buf with
  | nil =>
    rw [List.flatten_nil, List.append_nil] at hlf
    exact absurd (List.mem_of_mem_take hlf) hbuf
  | cons chunk chunks ih =>
    rw [List.map_cons, readRequestLine, if_pos hroom]
    dsimp only
    rw [List.flatten_cons, ← List.append_assoc] at hlf
    have hfirst : (buf ++ chunk).take BUF_LEN = buf ++ chunk.take (BUF_LEN - buf.length) := by
      rw [List.take_append, List.take_of_length_le hroom.le]
    by_cases hmem : 10 ∈ chunk.take (BUF_LEN - buf.length)
    · refine ⟨buf ++ chunk.take (BUF_LEN - buf.length), ?_, List.mem_append_right _ hmem, ?_⟩
      · rw [if_pos]
        unfold requestLineComplete
        rw [decide_eq_true_iff]
        exact .inr (List.mem_append_right _ hmem)
      · rw [List.findIdx_cons, decide_eq_true (List.mem_of_mem_take hmem), cond_true, ← hfirst]
        simp
    · -- the whole chunk fits, and there is room for another
      have hnone : 10 ∉ (buf ++ chunk).take BUF_LEN := by
        rw [hfirst, List.mem_append]
        exact fun h => h.elim hbuf hmem
      have hfits : (buf ++ chunk).length < BUF_LEN := by
        by_contra hfull
        rw [List.take_append_of_le_length (by omega)] at hlf
        exact hnone hlf
      rw [List.take_of_length_le hfits.le] at hnone
      have hwhole : chunk.take (BUF_LEN - buf.length) = chunk := by
        rw [List.length_append] at hfits
        exact List.take_of_length_le (by omega)
      have hchunk : chunk ≠ [] := fun h => hne (h ▸ List.mem_cons_self)
      rw [hwhole, if_neg]
      · obtain ⟨got, hread, hgot, heq⟩ := ih (fun h => hne (List.mem_cons_of_mem _ h)) hfits hnone hlf
        refine ⟨got, hread, hgot, ?_⟩
        rw [heq, List.findIdx_cons,
          decide_eq_false (fun h => hnone (List.mem_append_right _ h)), cond_false,
          List.take_succ_cons, List.flatten_cons, List.append_assoc]
      · unfold requestLineComplete
        rw [decide_eq_true_iff]
        rintro (h | h)
        · exact hchunk (List.length_eq_zero_iff.1 h)
        · exact hnone h

/-- The loop ends with what has arrived: the request line, and perhaps more. -/
theorem readRequestLine_splits {chunks : List (List UInt8)} {stream : List UInt8}
    (h : Splits chunks stream) (hlf : 10 ∈ stream.take BUF_LEN) :
    readRequestLine (chunks.map .done) [] = .done (arrived chunks) ∧
      ∃ rest, arrived chunks = stream.takeWhile (· ≠ 10) ++ 10 :: rest := by
  have hroom : ([] : List UInt8).length < BUF_LEN := by decide
  obtain ⟨got, hread, hmem, heq⟩ := readRequestLine_chunks h.nonempty hroom List.not_mem_nil
    (by rwa [List.nil_append, h.flatten])
  have heq : got = arrived chunks := heq
  refine ⟨heq ▸ hread, ?_⟩
  have hprefix : arrived chunks <+: stream := by
    rw [← h.flatten]
    refine (List.take_prefix _ _).trans ?_
    conv_rhs => rw [← List.take_append_drop (chunks.findIdx (10 ∈ ·) + 1) chunks]
    rw [List.flatten_append]
    exact List.prefix_append _ _
  obtain ⟨line, rest, hsplit, hline⟩ := List.eq_append_cons_of_mem (heq ▸ hmem)
  obtain ⟨later, hstream⟩ := hprefix
  refine ⟨rest, ?_⟩
  have htake : stream.takeWhile (· ≠ 10) = line := by
    rw [← hstream, hsplit, List.append_assoc, List.takeWhile_append_of_pos, List.cons_append,
      List.takeWhile_cons_of_neg (by decide), List.append_nil]
    intro b hb
    rw [decide_eq_true_iff]
    rintro rfl
    exact hline hb
  rw [htake, hsplit]

/-! ## The parser looks at the line -/

theorem splitWhitespace_concat {line : List Char} {c : Char} (hc : isWhitespace c = true) :
    splitWhitespace (line ++ [c]) = splitWhitespace line := by
  unfold splitWhitespace
  rw [List.splitOnP_append_cons _ _ hc, List.splitOnP_nil, List.filter_append]
  exact List.append_nil _

/-- A line without what ends it. -/
def stripped (line : List Char) : List Char :=
  if line.getLast? = some '\r' then line.dropLast else line

theorem firstLine_append {line rest : List Char} (hline : '\n' ∉ line) :
    firstLine (line ++ '\n' :: rest) = some (stripped line) := by
  have htake : (line ++ '\n' :: rest).takeWhile (· ≠ '\n') = line := by
    rw [List.takeWhile_append_of_pos, List.takeWhile_cons_of_neg (by decide), List.append_nil]
    intro c hc
    rw [decide_eq_true_iff]
    rintro rfl
    exact hline hc
  unfold firstLine stripped
  rw [htake]
  dsimp only
  rw [if_neg (by simp)]
  by_cases hcr : line.getLast? = some '\r'
  · rw [if_pos ⟨by simp, hcr⟩, if_pos hcr]
  · rw [if_neg fun h => hcr h.2, if_neg hcr]

theorem splitWhitespace_stripped (line : List Char) :
    splitWhitespace (stripped line) = splitWhitespace line := by
  unfold stripped
  split
  · next hcr =>
    obtain ⟨init, rfl⟩ := List.getLast?_eq_some_iff.1 hcr
    rw [List.dropLast_concat, splitWhitespace_concat (by decide)]
  · rfl

theorem parseRequestLine_eq_invalid {line : List Char} :
    parseRequestLine line = .invalid ↔ (splitWhitespace line).length < 2 := by
  unfold parseRequestLine
  split
  · next method target more h =>
    rw [h]
    constructor
    · intro hinvalid
      split at hinvalid <;> cases hinvalid
    · intro hlen
      rw [List.length_cons, List.length_cons] at hlen
      omega
  · next hshort =>
    refine ⟨fun _ => ?_, fun _ => rfl⟩
    by_contra hlen
    match hw : splitWhitespace line with
    | [] => simp [hw] at hlen
    | [_] => simp [hw] at hlen
    | method :: target :: more => exact hshort method target more hw

/-- Only the words of the first line decide whether a text is a bad request. -/
theorem parseGetPath_line {text : String} {line rest : List Char}
    (htext : text.toList = line ++ '\n' :: rest) (hline : '\n' ∉ line) :
    parseGetPath text = parseRequestLine (stripped line) := by
  unfold parseGetPath
  rw [htext, firstLine_append hline]

/-! ## A bad request is told from every other reply -/

theorem bytes_append (a b : String) : bytes (a ++ b) = bytes a ++ bytes b := by
  unfold bytes
  rw [String.toList_append, Utf8.encode_append]

theorem httpResponse_status (status : ℕ) (contentType : String) (body : List UInt8) :
    ∃ more, httpResponse status contentType body =
      bytes "HTTP/1.1 " ++ (bytes (toString status) ++ more) := by
  unfold httpResponse
  simp only [bytes_append, List.append_assoc]
  exact ⟨_, rfl⟩

theorem httpResponse_ne_badRequest {status : ℕ} (hstatus : status ∈ [200, 404, 405, 503])
    (contentType₁ contentType₂ : String) (body₁ body₂ : List UInt8) :
    httpResponse status contentType₁ body₁ ≠ httpResponse 400 contentType₂ body₂ := by
  intro h
  obtain ⟨more₁, h₁⟩ := httpResponse_status status contentType₁ body₁
  obtain ⟨more₂, h₂⟩ := httpResponse_status 400 contentType₂ body₂
  rw [h₁, h₂] at h
  have hdistinct : ∀ status ∈ [200, 404, 405, 503],
      (bytes (toString status)).length = (bytes (toString 400)).length ∧
        bytes (toString status) ≠ bytes (toString 400) := by decide +kernel
  obtain ⟨hlen, hne⟩ := hdistinct status hstatus
  exact hne (List.append_inj_left (List.append_cancel_left h) hlen)

section Reply

variable (toVec : HealthSnapshot → Option (List UInt8)) (snap : HealthSnapshot)

theorem route_status (path : String) : (route toVec path snap).1 ∈ [200, 404, 405, 503] := by
  have hprobe (ok : Bool) (yes no : String) : (probe ok yes no).1 ∈ [200, 404, 405, 503] := by
    unfold probe
    split <;> simp
  unfold route
  split
  · exact hprobe _ _ _
  · split
    · exact hprobe _ _ _
    · split
      · simp
      · split <;> simp

theorem renderHttp_eq_badRequest {request : String} :
    renderHttp toVec request snap = renderHttp toVec "" snap ↔ parseGetPath request = .invalid := by
  have hempty : parseGetPath "" = .invalid := by decide
  constructor
  · intro h
    unfold renderHttp at h
    rw [hempty] at h
    split at h
    · next path _ =>
      exact absurd h (httpResponse_ne_badRequest (route_status toVec snap path) _ _ _ _)
    · exact absurd h (httpResponse_ne_badRequest (by simp) _ _ _ _)
    · next hinvalid => exact hinvalid
  · intro h
    unfold renderHttp
    rw [h, hempty]

/-- The reply to a client whose bytes come in these chunks. -/
def reply (chunks : List (List UInt8)) : Except String (List UInt8) :=
  handleConnection toVec (chunks.map .done) (.done ()) (some snap)

/-- The line is a bad request by itself: it is not UTF-8 or it has fewer than two words. -/
def BadLine (line : List UInt8) : Prop :=
  ∀ text, Utf8.decode line = some text → (splitWhitespace text.toList).length < 2

theorem reply_splits {chunks : List (List UInt8)} {stream : List UInt8} (h : Splits chunks stream)
    (hlf : 10 ∈ stream.take BUF_LEN) :
    reply toVec snap chunks =
      .ok (renderHttp toVec ((Utf8.decode (arrived chunks)).getD "") snap) := by
  unfold reply handleConnection readHttpRequest
  rw [(readRequestLine_splits h hlf).1]
  rfl

theorem splits_requestLine (stream : List UInt8) :
    Splits [requestLine stream] (requestLine stream) := by
  refine ⟨List.append_nil _, fun h => ?_⟩
  have := congrArg List.length (List.mem_singleton.1 h)
  unfold requestLine at this
  simp at this

/-! ## The reply to the line -/

theorem lf_not_mem_takeWhile (stream : List UInt8) : 10 ∉ stream.takeWhile (· ≠ 10) := by
  intro hmem
  simpa using List.mem_takeWhile_imp hmem

theorem requestLine_length {stream : List UInt8} (hlf : 10 ∈ stream.take BUF_LEN) :
    (requestLine stream).length ≤ BUF_LEN := by
  unfold requestLine
  rw [List.length_append, List.length_singleton]
  by_contra hlong
  rw [← List.takeWhile_append_dropWhile (p := (· ≠ 10)) (l := stream),
    List.take_append_of_le_length (by omega)] at hlf
  exact lf_not_mem_takeWhile stream (List.mem_of_mem_take hlf)

theorem reply_requestLine {stream : List UInt8} (hlf : 10 ∈ stream.take BUF_LEN) :
    reply toVec snap [requestLine stream] =
      .ok (renderHttp toVec ((Utf8.decode (requestLine stream)).getD "") snap) := by
  have htake := List.take_of_length_le (requestLine_length hlf)
  have harrived : arrived [requestLine stream] = requestLine stream := by
    rw [← htake]
    unfold arrived
    simp [htake]
  have hmem : 10 ∈ (requestLine stream).take BUF_LEN := by
    rw [htake]
    exact List.mem_append_right _ List.mem_cons_self
  rw [reply_splits toVec snap (splits_requestLine stream) hmem, harrived]

/-- What has arrived reads as the line does, if it is UTF-8. -/
theorem parseGetPath_arrived {chunks : List (List UInt8)} {stream : List UInt8}
    (h : Splits chunks stream) (hlf : 10 ∈ stream.take BUF_LEN) {text : String}
    (htext : Utf8.decode (arrived chunks) = some text) :
    ∃ line, Utf8.decode (requestLine stream) = some line ∧ parseGetPath text = parseGetPath line := by
  obtain ⟨-, rest, harrived⟩ := readRequestLine_splits h hlf
  rw [harrived] at htext
  obtain ⟨line, more, hchars, hline, hdecode⟩ :=
    Utf8.decode_line (lf_not_mem_takeWhile stream) htext
  refine ⟨_, hdecode, ?_⟩
  rw [parseGetPath_line hchars hline]
  exact (parseGetPath_line String.toList_ofList hline).symm

theorem badLine_iff (stream : List UInt8) :
    BadLine (requestLine stream) ↔
      parseGetPath ((Utf8.decode (requestLine stream)).getD "") = .invalid := by
  unfold BadLine
  cases hdecode : Utf8.decode (requestLine stream) with
  | none => exact ⟨fun _ => by decide, fun _ text htext => (nomatch htext)⟩
  | some text =>
    obtain ⟨line, rest, hchars, hline, hagain⟩ :=
      Utf8.decode_line (lf_not_mem_takeWhile stream) hdecode
    have htext : text = String.ofList (line ++ ['\n']) :=
      Option.some.inj (hdecode.symm.trans hagain)
    have hwords : splitWhitespace text.toList = splitWhitespace (stripped line) := by
      rw [htext, String.toList_ofList, splitWhitespace_concat (by decide), splitWhitespace_stripped]
    rw [Option.getD_some, parseGetPath_line hchars hline, parseRequestLine_eq_invalid, ← hwords]
    constructor
    · intro h
      exact h text rfl
    · intro h text' htext'
      rwa [← Option.some.inj htext']

theorem reply_eq_line_iff {chunks : List (List UInt8)} {stream : List UInt8}
    (h : Splits chunks stream) (hlf : 10 ∈ stream.take BUF_LEN) :
    reply toVec snap chunks = reply toVec snap [requestLine stream] ↔
      (Utf8.decode (arrived chunks)).isSome ∨ BadLine (requestLine stream) := by
  rw [reply_splits toVec snap h hlf, reply_requestLine toVec snap hlf, Except.ok.injEq, badLine_iff]
  cases htext : Utf8.decode (arrived chunks) with
  | some text =>
    obtain ⟨line, hdecode, hparse⟩ := parseGetPath_arrived h hlf htext
    refine ⟨fun _ => .inl rfl, fun _ => ?_⟩
    rw [hdecode, Option.getD_some, Option.getD_some]
    unfold renderHttp
    rw [hparse]
  | none =>
    -- the reply is a bad request, whatever the line is
    rw [Option.getD_none, eq_comm, renderHttp_eq_badRequest]
    exact ⟨.inr, fun h => h.resolve_left (by simp)⟩

/-- **The reply depends on the request line alone if and only if everything that arrived with it
was UTF-8**, or the line is a bad request by itself. -/
theorem reply_of_line_iff {stream : List UInt8} (hlf : 10 ∈ stream.take BUF_LEN)
    {chunks₁ chunks₂ : List (List UInt8)} (h₁ : Splits chunks₁ stream) (h₂ : Splits chunks₂ stream) :
    (reply toVec snap chunks₁ = reply toVec snap chunks₂ ∧
        reply toVec snap chunks₁ = reply toVec snap [requestLine stream]) ↔
      ((Utf8.decode (arrived chunks₁)).isSome ∧ (Utf8.decode (arrived chunks₂)).isSome) ∨
        BadLine (requestLine stream) := by
  have hline₁ := reply_eq_line_iff toVec snap h₁ hlf
  have hline₂ := reply_eq_line_iff toVec snap h₂ hlf
  constructor
  · rintro ⟨hsame, hreply⟩
    rcases hline₁.1 hreply with htext₁ | hbad
    · rcases hline₂.1 (hsame.symm.trans hreply) with htext₂ | hbad
      · exact .inl ⟨htext₁, htext₂⟩
      · exact .inr hbad
    · exact .inr hbad
  · rintro (⟨htext₁, htext₂⟩ | hbad)
    · have hreply := hline₁.2 (.inl htext₁)
      exact ⟨hreply.trans (hline₂.2 (.inl htext₂)).symm, hreply⟩
    · have hreply := hline₁.2 (.inr hbad)
      exact ⟨hreply.trans (hline₂.2 (.inr hbad)).symm, hreply⟩

end Reply

/-! ## A probe and one more byte -/

def runningSnapshot : HealthSnapshot :=
  { live := true, ready := true, phase := .running, reasons := [], lastSuccessfulTickMs := none
    tickAgeMs := none, checkpoint := none, inputFreshness := ⟨none, false⟩
    queuePressure := ⟨0, 0, none, false⟩, fatal := none, counters := .default, observedAtMs := 0 }

def livezLine : List UInt8 := bytes "GET /livez HTTP/1.1\r\n"

def noJson : HealthSnapshot → Option (List UInt8) := fun _ => none

theorem reply_of_line_iff_headers :
    let header := bytes "Host: brain\r\n"
    reply noJson runningSnapshot [livezLine, header] =
        reply noJson runningSnapshot [livezLine ++ header] ∧
      reply noJson runningSnapshot [livezLine, header] =
        reply noJson runningSnapshot [requestLine (livezLine ++ header)] := by
  intro header
  have h₁ : Splits [livezLine, header] (livezLine ++ header) := ⟨by simp, by decide +kernel⟩
  have h₂ : Splits [livezLine ++ header] (livezLine ++ header) := ⟨by simp, by decide +kernel⟩
  exact (reply_of_line_iff noJson runningSnapshot (by decide +kernel) h₁ h₂).2
    (.inl ⟨by decide +kernel, by decide +kernel⟩)

/-- `GET /livez` of a live process: the byte `FF` behind the line does nothing in the next read,
and in the same read it turns `live` into a bad request. -/
theorem trailing_byte_spoils :
    let stream := livezLine ++ [0xFF]
    10 ∈ stream.take BUF_LEN ∧ Splits [livezLine, [0xFF]] stream ∧ Splits [stream] stream ∧
      requestLine stream = livezLine ∧
      reply noJson runningSnapshot [livezLine] =
        .ok (httpResponse 200 "text/plain; charset=utf-8" (bytes "live\n")) ∧
      reply noJson runningSnapshot [livezLine, [0xFF]] = reply noJson runningSnapshot [livezLine] ∧
      reply noJson runningSnapshot [stream] =
        .ok (httpResponse 400 "text/plain; charset=utf-8" (bytes "bad request\n")) ∧
      reply noJson runningSnapshot [stream] ≠ reply noJson runningSnapshot [livezLine] := by
  intro stream
  have hlf : 10 ∈ stream.take BUF_LEN := by decide +kernel
  have hfirst : Splits [livezLine, [0xFF]] stream := ⟨by simp [stream], by decide +kernel⟩
  have hwhole : Splits [stream] stream := ⟨by simp, by decide +kernel⟩
  have hline : requestLine stream = livezLine := by decide +kernel
  have hparse : parseGetPath ((Utf8.decode livezLine).getD "") = .get "/livez" := by decide +kernel
  have hlive : reply noJson runningSnapshot [livezLine] =
      .ok (httpResponse 200 "text/plain; charset=utf-8" (bytes "live\n")) := by
    rw [← hline, reply_requestLine noJson runningSnapshot hlf, hline]
    unfold renderHttp
    rw [hparse]
    rfl
  have hbad : reply noJson runningSnapshot [stream] =
      .ok (httpResponse 400 "text/plain; charset=utf-8" (bytes "bad request\n")) := by
    have hdecode : Utf8.decode (arrived [stream]) = none := by decide +kernel
    have hempty : parseGetPath "" = .invalid := by decide
    rw [reply_splits noJson runningSnapshot hwhole hlf, hdecode, Option.getD_none]
    unfold renderHttp
    rw [hempty]
  refine ⟨hlf, hfirst, hwhole, hline, hlive, ?_, hbad, ?_⟩
  · rw [reply_eq_line_iff noJson runningSnapshot hfirst hlf |>.2 (.inl (by decide +kernel)), hline]
  · rw [hlive, hbad, Ne, Except.ok.injEq, eq_comm]
    exact httpResponse_ne_badRequest (by simp) _ _ _ _

end Brainstem.Control
