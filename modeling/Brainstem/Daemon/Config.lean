import Brainstem.Ingress.Config
import Brainstem.Lib.DebugText
import Mathlib.Algebra.GroupWithZero.Nat

/-!
# Daemon configuration

`DaemonConfig.validate`, check by check and with the texts of its errors.  The address
parsers of the standard library are a parameter (`NetParsers`).
-/

namespace Brainstem.Daemon

open Brainstem.Ingress

def MAX_NETWORK_INPUTS : ℕ := 1048576

/-- A `usize` is below this. -/
def USIZE_BOUND : ℕ := 2 ^ 64

inductive RuntimeMode where
  | live
  | simulation
  deriving DecidableEq, Repr

structure DaemonConfig where
  tickRateHz : ℕ
  logLevel : String
  spinePubBindHost : String
  spinePubSndhwm : Int
  spinePubLingerMs : Int
  modelPath : String
  lifCount : ℕ
  izhCount : ℕ
  channels : ℕ
  runtimeMode : RuntimeMode
  ingress : IngressConfig
  controlBind : Option String
  deriving DecidableEq, Repr

/-- Which texts parse as an address. -/
structure NetParsers where
  isIpAddr : String → Bool
  isIpv6Addr : String → Bool
  isSocketAddr : String → Bool

def validateLogLevel (level : String) : Except String Unit :=
  if level ∈ ["error", "warn", "info", "debug", "trace"] then .ok ()
  else
    .error
      s!"invalid log_level {DebugText.quote level}; expected one of: error, warn, info, debug, trace"

def validateDimensions (config : DaemonConfig) : Except String Unit :=
  let total := config.lifCount + config.izhCount
  if USIZE_BOUND ≤ total then
    .error s!"lif_count + izh_count ({config.lifCount} + {config.izhCount}) overflows usize"
  else if total = 0 then .error "lif_count + izh_count must be in range 1..=u16::MAX (65535), got 0"
  else if 65535 < total then
    .error s!"lif_count + izh_count ({config.lifCount} + {config.izhCount}) exceeds u16::MAX (65535)"
  else if USIZE_BOUND ≤ total * config.channels then
    .error
      s!"dimensions (lif_count + izh_count) * channels ({config.lifCount} * {config.izhCount} * {config.channels}) overflows usize"
  else if MAX_NETWORK_INPUTS < total * config.channels then
    .error
      s!"dimensions (lif_count + izh_count) * channels ({total * config.channels}) exceeds MAX_NETWORK_INPUTS ({MAX_NETWORK_INPUTS})"
  else .ok ()

/-! ## PUB bind host -/

def isAsciiAlphanumeric (c : Char) : Bool := c.toNat < 128 && c.isAlphanum

def isDnsLabel (label : List Char) : Bool :=
  !label.isEmpty && (String.ofList label).utf8ByteSize ≤ 63 && label.head? != some '-' &&
    label.getLast? != some '-' && label.all fun c => isAsciiAlphanumeric c || c == '-'

/-- `strip_suffix(c)`, the text unchanged if it does not end so. -/
def stripSuffix (s : List Char) (c : Char) : List Char :=
  if s.getLast? = some c then s.dropLast else s

def isDnsHostname (host : List Char) : Bool :=
  let name := stripSuffix host '.'
  let numericOnly := name.all fun c => c.isDigit || c == '.'
  !name.isEmpty && !numericOnly && (String.ofList name).utf8ByteSize ≤ 253 &&
    (name.splitOn '.').all isDnsLabel

/-- The text between brackets, when it is between brackets. -/
def unbracket (host : List Char) : Option (List Char) :=
  match host with
  | '[' :: rest => if rest.getLast? = some ']' then some rest.dropLast else none
  | _ => none

def validatePubBindHost (net : NetParsers) (host : String) : Except String Unit :=
  let ip := net.isIpAddr host ||
    (unbracket host.toList).any fun s => net.isIpv6Addr (String.ofList s)
  if ip || host = "*" then .ok ()
  else if isDnsHostname host.toList then .ok ()
  else
    .error
      s!"invalid spine_pub_bind_host {DebugText.quote host}; expected an IPv4/IPv6 address, hostname, or * (no scheme or port)"

def validatePubSocketOpts (config : DaemonConfig) : Except String Unit :=
  if config.spinePubSndhwm ≤ 0 then
    .error
      "spine_pub_sndhwm must be > 0 (0 disables the send high-water mark, which defeats the bounded PUB lifecycle)"
  else if config.spinePubLingerMs < 0 then
    .error
      "spine_pub_linger_ms must be >= 0 (a negative value requests infinite LINGER, which can block shutdown indefinitely)"
  else .ok ()

/-! ## All checks -/

namespace DaemonConfig

def validateTickRate (self : DaemonConfig) : Except String Unit :=
  if ¬(1 ≤ self.tickRateHz ∧ self.tickRateHz ≤ 1000000) then
    .error s!"tick_rate_hz must be in range 1..=1_000_000, got {self.tickRateHz}"
  else .ok ()

def validateChannels (self : DaemonConfig) : Except String Unit :=
  if self.channels = 0 ∨ self.ingress.maxPayloadLen < self.channels then
    .error
      s!"channels must be in range 1..=ingress.max_payload_len ({self.ingress.maxPayloadLen}), got {self.channels}"
  else .ok ()

def validateIzhCount (self : DaemonConfig) : Except String Unit :=
  if self.runtimeMode = .live ∧ self.izhCount ≠ 0 then
    .error s!"live Spikenaut checkpoints are LIF-only; izh_count must be 0, got {self.izhCount}"
  else .ok ()

def validateControlBind (net : NetParsers) (self : DaemonConfig) : Except String Unit :=
  match self.controlBind with
  | none => .ok ()
  | some bind =>
    if net.isSocketAddr bind then .ok ()
    else
      .error
        s!"invalid control_bind {DebugText.quote bind}; expected numeric IP:port (IPv6 as [address]:port)"

def validate (net : NetParsers) (self : DaemonConfig) : Except String Unit := do
  self.validateTickRate
  validateDimensions self
  self.ingress.validate
  self.validateChannels
  self.validateIzhCount
  validateLogLevel self.logLevel
  validatePubBindHost net self.spinePubBindHost
  validatePubSocketOpts self
  self.validateControlBind net

end DaemonConfig

end Brainstem.Daemon
