import Telemetry.Time.Duration
import Telemetry.Decimal.Digits

/-! Points in time, as the time since the start of 1970. -/
namespace Telemetry

structure Timestamp where
  sinceEpoch : Duration
deriving DecidableEq, Repr, Inhabited

namespace Timestamp

def ofParts (seconds nanos : Nat) : Timestamp := ⟨Duration.ofParts seconds nanos⟩

def ofNanos (n : Nat) : Timestamp := ⟨⟨n⟩⟩

instance : LE Timestamp := ⟨fun a b => a.sinceEpoch ≤ b.sinceEpoch⟩

instance : LT Timestamp := ⟨fun a b => a.sinceEpoch < b.sinceEpoch⟩

instance (a b : Timestamp) : Decidable (a ≤ b) :=
  inferInstanceAs (Decidable (a.sinceEpoch ≤ b.sinceEpoch))

instance (a b : Timestamp) : Decidable (a < b) :=
  inferInstanceAs (Decidable (a.sinceEpoch < b.sinceEpoch))

/-- The earlier of two points in time. -/
def earlier (a b : Timestamp) : Timestamp := ⟨a.sinceEpoch.shorter b.sinceEpoch⟩

/-- Nanoseconds since the epoch as a 64-bit word; later times clamp to the largest. -/
def unixNanos (t : Timestamp) : UInt64 := UInt64.ofNat (min t.sinceEpoch.nanos 0xFFFFFFFFFFFFFFFF)

/-- The time from `start` to `t`, or nothing where `start` is later. -/
def since (t start : Timestamp) : Option Duration := t.sinceEpoch.sub? start.sinceEpoch

/-- Seconds, a point, and nine digits of nanoseconds. -/
def text (t : Timestamp) : String :=
  Decimal.natText t.sinceEpoch.seconds ++ "." ++ Decimal.paddedText 9 t.sinceEpoch.subsecondNanos

end Timestamp
end Telemetry
