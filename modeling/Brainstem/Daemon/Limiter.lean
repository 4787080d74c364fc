import Brainstem.Health.Machine

/-!
# Rate-limited diagnostics

`OccurrenceLimiter.record` decides for each occurrence whether it is logged.  The tick loop
has one limiter for each kind of diagnostic, and counts what was emitted and what was
suppressed: every occurrence moves exactly one of the two counters.
-/

namespace Brainstem.Daemon

open Brainstem.Health

/-- `saturating_add` on a `u64`. -/
def saturatingAdd (x k : ℕ) : ℕ := min (x + k) (2 ^ 64 - 1)

/-- `+=` on a `u64`, in a build without overflow checks. -/
def wrappingAdd (x k : ℕ) : ℕ := (x + k) % 2 ^ 64

def DIAGNOSTIC_INTERVAL : ℕ := 1000

/-- One second. -/
def DIAGNOSTIC_MIN_GAP : Duration := 1000000000

def NON_FINITE_DIAGNOSTIC_CATEGORY : String := "rejected non-finite ingress"

def DROPPED_SPIKES_MESSAGE : String := "dropped spikes with out-of-range IDs"

structure OccurrenceLimiter where
  interval : ℕ
  minGap : Duration
  occurrences : ℕ
  emitted : ℕ
  lastKey : Option ℕ
  lastEmittedAt : Option Instant
  deriving DecidableEq, Repr

namespace OccurrenceLimiter

def new (interval : ℕ) (minGap : Duration) : OccurrenceLimiter := ⟨interval, minGap, 0, 0, none, none⟩

/-- A key change starts over, so a new failure is not hidden behind the previous one. -/
def rekey (self : OccurrenceLimiter) (key : ℕ) : OccurrenceLimiter :=
  if self.lastKey = some key then self
  else { self with occurrences := 0, emitted := 0, lastKey := some key, lastEmittedAt := none }

/-- How many were suppressed since the preceding emission, when this one is emitted. -/
def record (self : OccurrenceLimiter) (key : ℕ) (now : Instant) : Option ℕ × OccurrenceLimiter :=
  let self := self.rekey key
  let self := { self with occurrences := saturatingAdd self.occurrences 1 }
  let countDue := self.occurrences == 1 || (self.occurrences - 1) % self.interval == 0
  let timeDue := match self.lastEmittedAt with
    | none => true
    | some prev => decide (self.minGap ≤ now - prev)
  if self.occurrences == 1 || (countDue && timeDue) then
    let suppressed := self.occurrences - wrappingAdd self.emitted 1
    (some suppressed, { self with emitted := self.occurrences, lastEmittedAt := some now })
  else (none, self)

end OccurrenceLimiter

/-- A 64-bit polynomial hash of the bytes. -/
def diagnosticKey (message : String) : ℕ :=
  message.toUTF8.toList.foldl (fun hash byte => (hash * 31 + byte.toNat) % 2 ^ 64) 0

structure TickDiagnostics where
  receive : OccurrenceLimiter
  emit : OccurrenceLimiter
  dropped : OccurrenceLimiter
  nonFinite : OccurrenceLimiter
  deriving DecidableEq, Repr

def TickDiagnostics.default : TickDiagnostics :=
  let limiter := OccurrenceLimiter.new DIAGNOSTIC_INTERVAL DIAGNOSTIC_MIN_GAP
  ⟨limiter, limiter, limiter, limiter⟩

end Brainstem.Daemon
