import Brainstem.Health.Metrics
import Brainstem.Lib.Utf8
import Mathlib.Data.List.Basic

/-!
# The control surface

One connection is one request: the server reads until a line feed has arrived or 1024 bytes
have, takes what it has for text, and answers the first line of it from a health snapshot.
-/

namespace Brainstem.Control

open Brainstem.Health

/-! ## Reading -/

/-- A socket operation is done, fails, or is still pending when its time is up. -/
inductive Io (α : Type) where
  | done (a : α)
  | failed
  | pending
  deriving DecidableEq, Repr

def timedIo {α : Type} (timeoutMsg : String) : Io α → Except String α
  | .done a => .ok a
  | .failed => .error "control I/O failed"
  | .pending => .error timeoutMsg

def BUF_LEN : ℕ := 1024

def requestLineComplete (read : ℕ) (buf : List UInt8) : Bool := read = 0 ∨ 10 ∈ buf

/-- `buf` is what has been read.  A read takes what fits into the rest of the buffer, and no
bytes at the end of the stream. -/
def readRequestLine : List (Io (List UInt8)) → List UInt8 → Io (List UInt8)
  | [], buf => if buf.length < BUF_LEN then .pending else .done buf
  | read :: reads, buf =>
    if buf.length < BUF_LEN then
      match read with
      | .done chunk =>
        let got := chunk.take (BUF_LEN - buf.length)
        if requestLineComplete got.length (buf ++ got) then .done (buf ++ got)
        else readRequestLine reads (buf ++ got)
      | .failed => .failed
      | .pending => .pending
    else .done buf

def readHttpRequest (reads : List (Io (List UInt8))) : Except String String := do
  let buf ← timedIo "control read timed out" (readRequestLine reads [])
  .ok ((Utf8.decode buf).getD "")

/-! ## Parsing -/

/-- Unicode's white space. -/
def isWhitespace (c : Char) : Bool :=
  (9 ≤ c.toNat ∧ c.toNat ≤ 13) ∨ c.toNat = 0x20 ∨ c.toNat = 0x85 ∨ c.toNat = 0xA0 ∨
    c.toNat = 0x1680 ∨ (0x2000 ≤ c.toNat ∧ c.toNat ≤ 0x200A) ∨ c.toNat = 0x2028 ∨
    c.toNat = 0x2029 ∨ c.toNat = 0x202F ∨ c.toNat = 0x205F ∨ c.toNat = 0x3000

def splitWhitespace (line : List Char) : List (List Char) :=
  (line.splitOnP isWhitespace).filter (· ≠ [])

/-- The first of the lines, which end in a line feed or in a carriage return and a line feed. -/
def firstLine (text : List Char) : Option (List Char) :=
  let line := text.takeWhile (· ≠ '\n')
  if text = [] then none
  else if '\n' ∈ text ∧ line.getLast? = some '\r' then some line.dropLast
  else some line

def eqIgnoreAsciiCase (a b : List Char) : Bool := a.map Char.toLower = b.map Char.toLower

def pathWithoutQuery (target : List Char) : List Char := target.takeWhile (· ≠ '?')

inductive ParseResult where
  | get (path : String)
  | notGet
  | invalid
  deriving DecidableEq, Repr

def parseRequestLine (line : List Char) : ParseResult :=
  match splitWhitespace line with
  | method :: target :: _ =>
    if eqIgnoreAsciiCase method "GET".toList then .get (String.ofList (pathWithoutQuery target))
    else .notGet
  | _ => .invalid

def parseGetPath (request : String) : ParseResult :=
  match firstLine request.toList with
  | some line => parseRequestLine line
  | none => .invalid

/-! ## Answering -/

def bytes (text : String) : List UInt8 := Utf8.encode text.toList

def statusReason : ℕ → String
  | 200 => "OK"
  | 400 => "Bad Request"
  | 404 => "Not Found"
  | 405 => "Method Not Allowed"
  | 503 => "Service Unavailable"
  | _ => "OK"

def httpResponse (status : ℕ) (contentType : String) (body : List UInt8) : List UInt8 :=
  bytes ("HTTP/1.1 " ++ toString status ++ " " ++ statusReason status ++
    "\r\nContent-Type: " ++ contentType ++ "\r\nContent-Length: " ++ toString body.length ++
    "\r\nConnection: close\r\n\r\n") ++ body

def probe (ok : Bool) (yes no : String) : ℕ × String × List UInt8 :=
  if ok then (200, "text/plain; charset=utf-8", bytes yes)
  else (503, "text/plain; charset=utf-8", bytes no)

section Answer

-- the JSON of a snapshot, if it can be written
variable (toVec : HealthSnapshot → Option (List UInt8))

def route (path : String) (snap : HealthSnapshot) : ℕ × String × List UInt8 :=
  if path = "/livez" ∨ path = "/healthz/live" then probe snap.live "live\n" "not live\n"
  else if path = "/readyz" ∨ path = "/healthz/ready" then probe snap.ready "ready\n" "not ready\n"
  else if path = "/health" then (200, "application/json", (toVec snap).getD (bytes "{}"))
  else if path = "/metrics" then
    (200, "text/plain; version=0.0.4", bytes snap.prometheusText)
  else (404, "text/plain; charset=utf-8", bytes "not found\n")

def renderHttp (request : String) (snap : HealthSnapshot) : List UInt8 :=
  match parseGetPath request with
  | .get path =>
    let (status, contentType, body) := route toVec path snap
    httpResponse status contentType body
  | .notGet => httpResponse 405 "text/plain; charset=utf-8" (bytes "method not allowed\n")
  | .invalid => httpResponse 400 "text/plain; charset=utf-8" (bytes "bad request\n")

def busyHttp : List UInt8 := httpResponse 503 "text/plain; charset=utf-8" (bytes "busy\n")

def controlResponse (request : String) (trySnapshot : Option HealthSnapshot) : List UInt8 :=
  match trySnapshot with
  | some snapshot => renderHttp toVec request snapshot
  | none => busyHttp

/-- The response, once it is written. -/
def handleConnection (reads : List (Io (List UInt8))) (write : Io Unit)
    (trySnapshot : Option HealthSnapshot) : Except String (List UInt8) := do
  let request ← readHttpRequest reads
  timedIo "control write timed out" write
  .ok (controlResponse toVec request trySnapshot)

end Answer

end Brainstem.Control
