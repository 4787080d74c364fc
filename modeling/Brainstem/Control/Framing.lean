import Brainstem.Control.Reply
import Brainstem.Health.Report
import Brainstem.Lib.HttpMessage

/-!
# What an HTTP client makes of a reply

Every reply of the control surface is one HTTP message, whatever its body holds: a client reads
back the status, the content type and exactly the bytes of the body.

    receive (controlResponse toVec request t) = some (status, ⟨…, body⟩)      (control_reply_framed)
      with (status, contentType, body) = answerTo toVec request t

On a probe path the status is 200 exactly when the snapshot says so, and 503 otherwise; the body
of `/health` is JSON that is read back as the snapshot, up to what the client's reader makes of
the text of the ratio (health_report).
-/

namespace Brainstem.Control

open Brainstem.Health

/-! ## One message -/

def startLine (status : ℕ) : List Char :=
  "HTTP/1.1 ".toList ++ (Nat.toDigits 10 status ++ ' ' :: (statusReason status).toList)

/-- The message that `http_response` writes. -/
def message (status : ℕ) (contentType : String) (body : List UInt8) : HttpMessage where
  startLine := startLine status
  headers := [("Content-Type".toList, contentType.toList),
    ("Content-Length".toList, Nat.toDigits 10 body.length), ("Connection".toList, "close".toList)]
  body := body

theorem toList_toString (n : ℕ) : (toString n).toList = Nat.toDigits 10 n := by
  rw [Nat.toString_eq_ofList_toDigits, String.toList_ofList]

theorem httpResponse_eq_render (status : ℕ) (contentType : String) (body : List UInt8) :
    httpResponse status contentType body = (message status contentType body).render := by
  have htype : "\r\nContent-Type: ".toList =
      HttpMessage.crlf ++ ("Content-Type".toList ++ [':', ' ']) := by decide
  have hlength : "\r\nContent-Length: ".toList =
      HttpMessage.crlf ++ ("Content-Length".toList ++ [':', ' ']) := by decide
  have hclose : "\r\nConnection: close\r\n\r\n".toList = HttpMessage.crlf ++ ("Connection".toList ++
      ([':', ' '] ++ ("close".toList ++ (HttpMessage.crlf ++ HttpMessage.crlf)))) := by decide
  have hspace : " ".toList = [' '] := by decide
  have hhead : ("HTTP/1.1 " ++ toString status ++ " " ++ statusReason status ++ "\r\nContent-Type: " ++
      contentType ++ "\r\nContent-Length: " ++ toString body.length ++
      "\r\nConnection: close\r\n\r\n").toList =
      (startLine status ++ HttpMessage.crlf) ++
        ((HttpMessage.headerLine ("Content-Type".toList, contentType.toList) ++ HttpMessage.crlf) ++
        ((HttpMessage.headerLine ("Content-Length".toList, Nat.toDigits 10 body.length) ++
          HttpMessage.crlf) ++
        ((HttpMessage.headerLine ("Connection".toList, "close".toList) ++ HttpMessage.crlf) ++
          HttpMessage.crlf))) := by
    unfold startLine HttpMessage.headerLine
    simp only [String.toList_append, toList_toString, htype, hlength, hclose, hspace,
      List.append_assoc, List.cons_append, List.nil_append]
  unfold httpResponse bytes
  rw [hhead]
  simp only [Utf8.encode_append (_ ++ HttpMessage.crlf), List.append_assoc (Utf8.encode _)]
  rfl

theorem lf_not_mem_reason (status : ℕ) : '\n' ∉ (statusReason status).toList := by
  unfold statusReason
  split <;> decide

theorem lf_not_mem_toDigits (n : ℕ) : '\n' ∉ Nat.toDigits 10 n := by
  intro h
  have := Nat.isDigit_of_mem_toDigits (by decide) (by decide) h
  exact absurd this (by decide)

theorem message_wellFormed {contentType : String} (h : '\n' ∉ contentType.toList) (status : ℕ)
    (body : List UInt8) : (message status contentType body).WellFormed := by
  refine ⟨?_, ?_, ?_⟩
  · show '\n' ∉ startLine status
    unfold startLine
    rw [List.mem_append, List.mem_append, List.mem_cons]
    have hprefix : '\n' ∉ "HTTP/1.1 ".toList := by decide
    have hspace : '\n' ≠ ' ' := by decide
    exact fun hmem => hmem.elim hprefix fun hmem => hmem.elim (lf_not_mem_toDigits status)
      fun hmem => hmem.elim hspace (lf_not_mem_reason status)
  · have hnames : ∀ name ∈ ["Content-Type".toList, "Content-Length".toList, "Connection".toList],
        ':' ∉ name ∧ '\n' ∉ name := by decide
    intro header hheader
    refine hnames header.1 ?_
    rcases List.mem_cons.1 hheader with rfl | hheader
    · exact List.mem_cons_self
    · rcases List.mem_cons.1 hheader with rfl | hheader
      · exact List.mem_cons_of_mem _ List.mem_cons_self
      · rw [List.mem_singleton.1 hheader]
        exact List.mem_cons_of_mem _ (List.mem_cons_of_mem _ List.mem_cons_self)
  · have hclose : '\n' ∉ "close".toList := by decide
    intro header hheader
    rcases List.mem_cons.1 hheader with rfl | hheader
    · exact h
    · rcases List.mem_cons.1 hheader with rfl | hheader
      · exact lf_not_mem_toDigits _
      · rw [List.mem_singleton.1 hheader]
        exact hclose

theorem message_status (status : ℕ) (contentType : String) (body : List UInt8) :
    (message status contentType body).status? = some status := by
  have hall : ∀ d ∈ Nat.toDigits 10 status, d.isDigit = true := fun d hd =>
    Nat.isDigit_of_mem_toDigits (by decide) (by decide) hd
  have hprefix : "HTTP/1.1 ".toList.isPrefixOf (startLine status) = true := by
    rw [List.isPrefixOf_iff_prefix]
    exact List.prefix_append _ _
  have hdrop : (startLine status).drop 9 = Nat.toDigits 10 status ++ ' ' :: (statusReason status).toList :=
    List.drop_left' (by decide)
  unfold HttpMessage.status?
  rw [show (message status contentType body).startLine = startLine status from rfl, if_pos hprefix,
    hdrop, List.takeWhile_append_of_pos hall, List.takeWhile_cons_of_neg (by decide), List.append_nil,
    HttpMessage.readNumber_toDigits]

theorem message_headers (status : ℕ) (contentType : String) (body : List UInt8) :
    (message status contentType body).header? "Content-Type".toList = some contentType.toList ∧
      (message status contentType body).header? "Content-Length".toList =
        some (Nat.toDigits 10 body.length) ∧
      (message status contentType body).header? "Connection".toList = some "close".toList := by
  have htype : ("Content-Type".toList == "Content-Length".toList) = false := by decide
  have htype' : ("Content-Type".toList == "Connection".toList) = false := by decide
  have hlength : ("Content-Length".toList == "Connection".toList) = false := by decide
  unfold HttpMessage.header? message
  simp only [List.find?_cons, beq_self_eq_true, htype, htype', hlength, Option.map_some, and_self]

theorem receive_httpResponse {contentType : String} (h : '\n' ∉ contentType.toList) (status : ℕ)
    (body : List UInt8) : HttpMessage.receive (httpResponse status contentType body) =
      some (status, message status contentType body) := by
  rw [httpResponse_eq_render]
  exact HttpMessage.receive_render (message_wellFormed h status body)
    (message_status status contentType body) (message_headers status contentType body).2.1

/-! ## Every reply -/

section Reply

variable (toVec : HealthSnapshot → Option (List UInt8))

/-- Status, content type and body of the answer to a request. -/
def answerTo (request : String) (trySnapshot : Option HealthSnapshot) : ℕ × String × List UInt8 :=
  match trySnapshot with
  | none => (503, "text/plain; charset=utf-8", bytes "busy\n")
  | some snap =>
    match parseGetPath request with
    | .get path => route toVec path snap
    | .notGet => (405, "text/plain; charset=utf-8", bytes "method not allowed\n")
    | .invalid => (400, "text/plain; charset=utf-8", bytes "bad request\n")

theorem controlResponse_eq (request : String) (t : Option HealthSnapshot) :
    controlResponse toVec request t = httpResponse (answerTo toVec request t).1
      (answerTo toVec request t).2.1 (answerTo toVec request t).2.2 := by
  unfold controlResponse answerTo
  cases t with
  | none => rfl
  | some snap =>
    dsimp only
    unfold renderHttp
    cases parseGetPath request <;> rfl

/-- The content types of the control surface. -/
def CONTENT_TYPES : List String :=
  ["text/plain; charset=utf-8", "application/json", "text/plain; version=0.0.4"]

theorem route_contentType (path : String) (snap : HealthSnapshot) :
    (route toVec path snap).2.1 ∈ CONTENT_TYPES := by
  have hprobe (ok : Bool) (yes no : String) : (probe ok yes no).2.1 ∈ CONTENT_TYPES := by
    unfold probe
    split <;> exact List.mem_cons_self
  unfold route
  split
  · exact hprobe _ _ _
  · split
    · exact hprobe _ _ _
    · split
      · exact List.mem_cons_of_mem _ List.mem_cons_self
      · split
        · exact List.mem_cons_of_mem _ (List.mem_cons_of_mem _ List.mem_cons_self)
        · exact List.mem_cons_self

theorem answerTo_contentType (request : String) (t : Option HealthSnapshot) :
    (answerTo toVec request t).2.1 ∈ CONTENT_TYPES := by
  unfold answerTo
  cases t with
  | none => exact List.mem_cons_self
  | some snap =>
    dsimp only
    split
    · exact route_contentType toVec _ snap
    · exact List.mem_cons_self
    · exact List.mem_cons_self

theorem answerTo_status (request : String) (t : Option HealthSnapshot) :
    (answerTo toVec request t).1 ∈ [200, 400, 404, 405, 503] := by
  unfold answerTo
  cases t with
  | none => simp
  | some snap =>
    dsimp only
    split
    · next path _ =>
      have := route_status toVec snap path
      simp only [List.mem_cons] at this ⊢
      tauto
    · simp
    · simp

/-! ## Probes -/

/-- The flag that a probe path asks for. -/
def probed (path : String) : Option (HealthSnapshot → Bool) :=
  if path = "/livez" ∨ path = "/healthz/live" then some (·.live)
  else if path = "/readyz" ∨ path = "/healthz/ready" then some (·.ready)
  else none

theorem probe_status (ok : Bool) (yes no : String) :
    (probe ok yes no).1 = if ok = true then 200 else 503 := by
  unfold probe
  split <;> rfl

theorem route_probe {path : String} {flag : HealthSnapshot → Bool} (h : probed path = some flag)
    (snap : HealthSnapshot) : (route toVec path snap).1 = if flag snap = true then 200 else 503 := by
  unfold probed at h
  unfold route
  split at h
  · next hlive =>
    cases h
    rw [if_pos hlive]
    exact probe_status _ _ _
  · next hlive =>
    split at h
    · next hready =>
      cases h
      rw [if_neg hlive, if_pos hready]
      exact probe_status _ _ _
    · cases h

/-- A probe answers 200 exactly when a snapshot was taken whose flag is up, and 503 otherwise. -/
theorem answerTo_probe {request path : String} {flag : HealthSnapshot → Bool}
    (hpath : parseGetPath request = .get path) (hflag : probed path = some flag)
    (t : Option HealthSnapshot) :
    ((answerTo toVec request t).1 = 200 ↔ ∃ snap, t = some snap ∧ flag snap = true) ∧
      ((answerTo toVec request t).1 = 200 ∨ (answerTo toVec request t).1 = 503) := by
  cases t with
  | none =>
    have hbusy : (answerTo toVec request none).1 = 503 := rfl
    have hne : ¬503 = 200 := by decide
    rw [hbusy]
    refine ⟨⟨fun h => absurd h hne, ?_⟩, .inr rfl⟩
    rintro ⟨snap, heq, _⟩
    cases heq
  | some snap =>
    have hstatus : (answerTo toVec request (some snap)).1 = if flag snap = true then 200 else 503 := by
      unfold answerTo
      dsimp only
      rw [hpath]
      exact route_probe toVec hflag snap
    rw [hstatus]
    by_cases hup : flag snap = true
    · rw [if_pos hup]
      exact ⟨⟨fun _ => ⟨snap, rfl, hup⟩, fun _ => rfl⟩, .inl rfl⟩
    · rw [if_neg hup]
      refine ⟨⟨nofun, ?_⟩, .inr rfl⟩
      rintro ⟨snap', heq, hup'⟩
      cases heq
      exact absurd hup' hup

theorem receive_controlResponse (request : String) (t : Option HealthSnapshot) :
    HttpMessage.receive (controlResponse toVec request t) =
      some ((answerTo toVec request t).1, message (answerTo toVec request t).1
        (answerTo toVec request t).2.1 (answerTo toVec request t).2.2) := by
  have hplain : ∀ contentType ∈ CONTENT_TYPES, '\n' ∉ contentType.toList := by decide
  rw [controlResponse_eq]
  exact receive_httpResponse (hplain _ (answerTo_contentType toVec request t)) _ _

/-- Whatever the request and the snapshot hold, a client reads one message back from the bytes
of the reply, and a probe answers 200 exactly when a snapshot was taken whose flag is up. -/
theorem control_reply_framed (request : String) (t : Option HealthSnapshot) :
    (∃ m, HttpMessage.receive (controlResponse toVec request t) = some ((answerTo toVec request t).1, m) ∧
      m.body = (answerTo toVec request t).2.2 ∧
      m.header? "Content-Type".toList = some (answerTo toVec request t).2.1.toList ∧
      m.header? "Connection".toList = some "close".toList) ∧
    (answerTo toVec request t).1 ∈ [200, 400, 404, 405, 503] ∧
    ∀ path flag, parseGetPath request = .get path → probed path = some flag →
      ((answerTo toVec request t).1 = 200 ↔ ∃ snap, t = some snap ∧ flag snap = true) ∧
      ((answerTo toVec request t).1 = 200 ∨ (answerTo toVec request t).1 = 503) := by
  obtain ⟨htype, -, hclose⟩ := message_headers (answerTo toVec request t).1
    (answerTo toVec request t).2.1 (answerTo toVec request t).2.2
  refine ⟨⟨_, receive_controlResponse toVec request t, rfl, htype, hclose⟩,
    answerTo_status toVec request t, ?_⟩
  intro path flag hpath hflag
  exact answerTo_probe toVec hpath hflag t

end Reply

/-! ## The health report -/

/-- Over HTTP and JSON, a client that asks for `/health` gets the snapshot: every flag, age and
counter, and the texts of its checkpoint and fatal state.  The ratio is read from its text, and is
none if it was not finite; so the very snapshot comes back if the ratio is finite and the reader
is exact on its text. -/
theorem health_report {print : ℚ → List Char} {read : List Char → Option ℚ} {snap : HealthSnapshot}
    (h : snap.Fits) (hratio : RatioText print read snap.queuePressure.ratio) {request : String}
    (hpath : parseGetPath request = .get "/health") :
    ∃ m, HttpMessage.receive
        (controlResponse (fun snap => some (toVec print snap)) request (some snap)) = some (200, m) ∧
      m.header? "Content-Type".toList = some "application/json".toList ∧
      readReport read m.body = some (snap.reread print read) ∧
      ((∀ r, snap.queuePressure.ratio = some r → ∃ q, r = .finite q ∧ read (print q) = some q) →
        readReport read m.body = some snap) := by
  have hanswer : answerTo (fun snap => some (toVec print snap)) request (some snap) =
      (200, "application/json", toVec print snap) := by
    unfold answerTo
    dsimp only
    rw [hpath]
    rfl
  have hplain : '\n' ∉ "application/json".toList := by decide
  have hread : readReport read (toVec print snap) = some (snap.reread print read) :=
    readReport_toVec h hratio
  refine ⟨message 200 "application/json" (toVec print snap), ?_, (message_headers _ _ _).1, hread, ?_⟩
  · rw [controlResponse_eq, hanswer]
    exact receive_httpResponse hplain 200 _
  · intro hexact
    rw [HealthSnapshot.reread_of_exact print read hexact] at hread
    exact hread

/-- A fatal state whose text has quotes and a line break, and a queue that is half full. -/
def quoted : HealthSnapshot where
  live := true
  ready := false
  phase := .fatal
  reasons := [.fatal]
  lastSuccessfulTickMs := some 7
  tickAgeMs := some 3
  checkpoint := some ⟨"model \"a\"", none⟩
  inputFreshness := ⟨none, false⟩
  queuePressure := ⟨45, 90, some (.finite (1 / 2)), false⟩
  fatal := some ⟨.unspecified, "bad\tinput\n\"\\\""⟩
  counters := .default
  observedAtMs := 10

theorem health_report_quoted : ∃ m, HttpMessage.receive
      (controlResponse (fun snap => some (toVec (fun _ => ['0', '.', '5']) snap))
        "get /health?verbose HTTP/1.1" (some quoted)) = some (200, m) ∧
    m.header? "Content-Type".toList = some "application/json".toList ∧
    readReport (fun _ => some (1 / 2)) m.body = some quoted := by
  have hfits : quoted.Fits := by
    refine ⟨?_, ?_, ?_, by decide, by decide, ?_, by decide⟩
    · rintro n ⟨⟩
      decide
    · rintro n ⟨⟩
      decide
    · rintro n ⟨⟩
    · constructor <;> decide
  have htext : RatioText (fun _ => ['0', '.', '5']) (fun _ => some (1 / 2))
      quoted.queuePressure.ratio := by
    rintro q ⟨⟩
    have hchars : ['0', '.', '5'].all Json.isNumberChar = true := by decide
    exact ⟨⟨by decide, List.all_eq_true.1 hchars⟩, _, rfl⟩
  obtain ⟨m, hreceive, htype, -, hexact⟩ := @health_report _ _ _ hfits htext
    "get /health?verbose HTTP/1.1" (by decide)
  refine ⟨m, hreceive, htype, hexact ?_⟩
  rintro r ⟨⟩
  exact ⟨1 / 2, rfl, rfl⟩

end Brainstem.Control
