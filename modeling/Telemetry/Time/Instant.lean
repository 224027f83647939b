import Telemetry.Time.Duration

/-! Readings of a clock that only goes forward. A reading has less than 2^63 seconds, so a
long enough duration cannot be added to one. -/
namespace Telemetry

structure Instant where
  nanos : Nat
deriving DecidableEq, Repr, Inhabited

namespace Instant

/-- The reading of a clock that has been going for a day. -/
def afterDay : Instant := ⟨86400 * Duration.nanosPerSecond⟩

instance : LE Instant := ⟨fun a b => a.nanos ≤ b.nanos⟩

instance : LT Instant := ⟨fun a b => a.nanos < b.nanos⟩

instance (a b : Instant) : Decidable (a ≤ b) := inferInstanceAs (Decidable (a.nanos ≤ b.nanos))

instance (a b : Instant) : Decidable (a < b) := inferInstanceAs (Decidable (a.nanos < b.nanos))

def add (t : Instant) (d : Duration) : Instant := ⟨t.nanos + d.nanos⟩

instance : HAdd Instant Duration Instant := ⟨add⟩

/-- The reading after a duration, where the clock can show it. -/
def add? (t : Instant) (d : Duration) : Option Instant :=
  if t.nanos + d.nanos < 0x8000000000000000 * Duration.nanosPerSecond then some (t + d) else none

/-- The later of two readings. -/
def later (a b : Instant) : Instant := ⟨max a.nanos b.nanos⟩

/-- The time from `start` to `t`; zero where `start` is later. -/
def since (t start : Instant) : Duration := ⟨t.nanos - start.nanos⟩

end Instant
end Telemetry
