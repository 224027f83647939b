import Telemetry.Time.Duration
import Telemetry.Decimal.Digits

/-! The text of a duration in diagnostics: the largest unit in which the whole part is
not zero, with the rest as a decimal fraction. -/
namespace Telemetry.Duration

/-- The unit of the text: its nanoseconds, the places of a fraction of it, and its symbol. -/
def unit (d : Duration) : Nat × Nat × String :=
  if nanosPerSecond ≤ d.nanos then (nanosPerSecond, 9, "s")
  else if nanosPerMilli ≤ d.nanos then (nanosPerMilli, 6, "ms")
  else if 1000 ≤ d.nanos then (1000, 3, "µs")
  else (1, 0, "ns")

/-- The pieces in which the text is written: a sign, which is never there, the whole part, the
point and the digits of the fraction, where there is one, and the unit. -/
def pieces (d : Duration) : List String :=
  let (nanos, places, symbol) := d.unit
  let fraction := (Decimal.fraction places (d.nanos % nanos)).splitAt 1
  ["", Decimal.natText (d.nanos / nanos)] ++
    (if fraction.1.isEmpty then [] else [String.ofList fraction.1, String.ofList fraction.2]) ++ [symbol]

/-- Seconds, milliseconds, microseconds or nanoseconds, with the fraction's trailing
zeros left out. -/
def text (d : Duration) : String := String.join d.pieces

end Telemetry.Duration
