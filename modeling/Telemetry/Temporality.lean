import Telemetry.Text.Blank

/-! What the points of a metric cover: one export cycle, or everything since the start. -/
namespace Telemetry

inductive Temporality where
  | delta
  | cumulative
deriving DecidableEq, Repr, Inhabited

namespace Temporality

def name : Temporality → String
  | delta => "delta"
  | cumulative => "cumulative"

/-- Reads a temporality from its name in any case. -/
def parse (s : String) : Option Temporality :=
  if Text.sameIgnoringCase s.toList "delta".toList then some delta
  else if Text.sameIgnoringCase s.toList "cumulative".toList then some cumulative
  else none

def parseMessage : String := "expected `delta` or `cumulative`"

end Temporality
end Telemetry
