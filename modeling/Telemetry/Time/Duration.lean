/-! Lengths of time on the nanosecond grid, and the text that diagnostics show for
them. A duration has no upper bound here; `Duration.max` is the longest one that a
caller can name, and the operations that may leave the range say so. -/
namespace Telemetry

/-- A length of time, counted in whole nanoseconds. -/
structure Duration where
  nanos : Nat
deriving DecidableEq, Repr, Inhabited

namespace Duration

def nanosPerSecond : Nat := 1000000000

def nanosPerMilli : Nat := 1000000

def zero : Duration := ⟨0⟩

def ofNanos (n : Nat) : Duration := ⟨n⟩

def ofMillis (n : Nat) : Duration := ⟨n * nanosPerMilli⟩

def ofSeconds (n : Nat) : Duration := ⟨n * nanosPerSecond⟩

/-- Whole seconds and the nanoseconds beyond them. -/
def ofParts (seconds nanos : Nat) : Duration := ⟨seconds * nanosPerSecond + nanos⟩

def seconds (d : Duration) : Nat := d.nanos / nanosPerSecond

def subsecondNanos (d : Duration) : Nat := d.nanos % nanosPerSecond

/-- Whole milliseconds, rounded down. -/
def millis (d : Duration) : Nat := d.nanos / nanosPerMilli

/-- The longest duration a caller can name: 2^64 seconds less one nanosecond. -/
def max : Duration := ⟨0x10000000000000000 * nanosPerSecond - 1⟩

def isZero (d : Duration) : Bool := d.nanos == 0

instance : LE Duration := ⟨fun a b => a.nanos ≤ b.nanos⟩

instance : LT Duration := ⟨fun a b => a.nanos < b.nanos⟩

instance (a b : Duration) : Decidable (a ≤ b) := inferInstanceAs (Decidable (a.nanos ≤ b.nanos))

instance (a b : Duration) : Decidable (a < b) := inferInstanceAs (Decidable (a.nanos < b.nanos))

/-- The shorter of two durations. -/
def shorter (a b : Duration) : Duration := ⟨min a.nanos b.nanos⟩

def add (a b : Duration) : Duration := ⟨a.nanos + b.nanos⟩

instance : Add Duration := ⟨add⟩

/-- The difference, or nothing where the second is longer. -/
def sub? (a b : Duration) : Option Duration :=
  if b.nanos ≤ a.nanos then some ⟨a.nanos - b.nanos⟩ else none

/-- What is left of `a` after `b` has passed; never below zero. -/
def remaining (a b : Duration) : Duration := ⟨a.nanos - b.nanos⟩

/-- Milliseconds as a 64-bit count, clamped at the largest one. -/
def clampedMillis (d : Duration) : Nat := min d.millis 0xFFFFFFFFFFFFFFFF

end Duration
end Telemetry
