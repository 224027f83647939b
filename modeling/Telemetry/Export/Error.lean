import Telemetry.Time.Text

/-! Why the export of a batch failed. -/
namespace Telemetry

inductive ExportError where
  /-- The collector could not be reached, for the given cause. -/
  | transport (cause : String)
  | rejected (status : String) (retryable : Bool)
  | timeout (limit : Duration)
  | cancelled
  | panicked
deriving DecidableEq, Repr, Inhabited

namespace ExportError

/-- The pieces in which the message is written: fixed text, and what is filled in. -/
def pieces : ExportError → List String
  | transport _ => ["failed to reach the collector"]
  | rejected status _ => ["the collector rejected the batch with status `", status, "`"]
  | timeout limit => "the export didn't complete within " :: limit.pieces
  | cancelled => ["the export was cancelled because the shutdown deadline passed"]
  | panicked => ["the exporter panicked"]

def message (e : ExportError) : String := String.join e.pieces

/-- What stands behind an error, where anything does. -/
def cause? : ExportError → Option String
  | transport cause => some cause
  | _ => none

/-- Whether the shutdown itself brought the export to an end. -/
def isCancelled : ExportError → Bool
  | cancelled => true
  | _ => false

/-- Whether the same batch could succeed on another attempt. -/
def isRetryable : ExportError → Bool
  | transport _ | timeout _ => true
  | rejected _ retryable => retryable
  | cancelled | panicked => false

end ExportError
end Telemetry
