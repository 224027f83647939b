import Telemetry.Export.Error
import Telemetry.Log.Record

/-! What a metrics provider tells its diagnostics logger. -/
namespace Telemetry.Provider

inductive Notice where
  /-- Series found no room in the running state. -/
  | seriesDropped (count : Nat)
  | exported (metrics : Nat)
  | exportCancelled (e : ExportError)
  | exportFailed (e : ExportError)
  | drainTimedOut (deadline : Duration)
deriving DecidableEq, Repr

namespace Notice

def level : Notice → Level
  | seriesDropped _ | exportFailed _ => .warn
  | exported _ | exportCancelled _ | drainTimedOut _ => .debug

def message : Notice → String
  | seriesDropped _ => "cumulative series dropped at the cardinality limit"
  | exported _ => "exported metrics"
  | exportCancelled _ => "metrics export cancelled"
  | exportFailed _ => "metrics export failed"
  | drainTimedOut _ => "metrics drain timed out; remaining data was discarded"

def properties : Notice → List (String × Log.Value)
  | seriesDropped count => [("dropped", .unsigned (.ofNat count))]
  | exported metrics => [("metrics", .unsigned (.ofNat metrics))]
  | exportCancelled e => [("error", .shown e.pieces)]
  | exportFailed e => [("error", .shown e.pieces), ("retryable", .bool e.isRetryable)]
  | drainTimedOut deadline => [("deadline_ms", .unsigned (.ofNat deadline.clampedMillis))]

end Notice

/-- A logger for notices: the least level it takes, and whether its sink panics once it has
taken a record. -/
structure Diagnostics where
  minLevel : Level
  panics : Bool
deriving DecidableEq, Repr, Inhabited

namespace Diagnostics

def takes (d : Diagnostics) (n : Notice) : Bool := d.minLevel ≤ n.level

/-- Whether giving the notice panics. -/
def panicsOn (d : Diagnostics) (n : Notice) : Bool := d.takes n && d.panics

end Diagnostics
end Telemetry.Provider
