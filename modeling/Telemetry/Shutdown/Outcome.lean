import Telemetry.Export.Error

/-! How the shutdown of a metrics provider ended. -/
namespace Telemetry

inductive ShutdownOutcome where
  /-- All buffered data was exported. -/
  | flushed
  /-- The deadline passed before the final export was done. -/
  | timedOut
  /-- The final export was done and failed. -/
  | failed (e : ExportError)
  /-- The provider had been shut down before. -/
  | alreadyShutdown
deriving DecidableEq, Repr, Inhabited

namespace ShutdownOutcome

def isFlushed : ShutdownOutcome → Bool
  | flushed => true
  | _ => false

/-- Whether shutting down explains the outcome. A timeout does: the deadline did its job. -/
def isExpected : ShutdownOutcome → Bool
  | failed e => e.isCancelled
  | _ => true

/-- The pieces in which the outcome is written. -/
def pieces : ShutdownOutcome → List String
  | flushed => ["flushed"]
  | timedOut => ["timed out"]
  | failed e => "failed: " :: e.pieces
  | alreadyShutdown => ["already shut down"]

def text (o : ShutdownOutcome) : String := String.join o.pieces

/-- Equality of outcomes, in which failures count as their messages. -/
def same : ShutdownOutcome → ShutdownOutcome → Bool
  | flushed, flushed | timedOut, timedOut | alreadyShutdown, alreadyShutdown => true
  | failed a, failed b => a.message == b.message
  | _, _ => false

end ShutdownOutcome
end Telemetry
