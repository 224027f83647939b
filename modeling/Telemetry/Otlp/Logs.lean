import Telemetry.Log.Record
import Telemetry.Otlp.Origin
import Telemetry.Sorted

/-! The request that carries log records, grouped by the scope they come from. -/
namespace Telemetry.Otlp

/-- A log record in the form in which it waits to be sent. -/
structure LogEntry where
  time : UInt64
  level : Level
  scope : String
  body : String
  attributes : List Attribute
deriving DecidableEq

def LogEntry.ofRecord (r : Log.Record) : LogEntry :=
  ⟨r.timestamp.unixNanos, r.level, r.scope, r.message,
    r.properties.map fun (key, v) => ⟨key, v.toAttribute⟩⟩

def severityNumber : Level → Nat
  | .debug => 5
  | .info => 9
  | .warn => 13
  | .error => 17

def logRecordMessage (e : LogEntry) : Message :=
  .record [("timeUnixNano", 1, .fixed e.time),
    ("severityNumber", 2, .case (severityNumber e.level)),
    ("severityText", 3, .text e.level.name),
    ("body", 5, anyValue (.string e.body)),
    ("attributes", 6, keyValues e.attributes),
    ("observedTimeUnixNano", 11, .fixed e.time)]

/-- Entries by scope, in the order of the scopes: each is put behind those that its scope has. -/
def groupByScope (l : List LogEntry) : List (String × List LogEntry) :=
  l.foldl (fun groups e => Sorted.upsert compare e.scope [] (· ++ [e]) groups) []

def scopeLogsMessage (group : String × List LogEntry) : Message :=
  .record [("scope", 1, scopeMessage (.ofName group.1)),
    ("logRecords", 2, .list (group.2.map logRecordMessage))]

def logsRequest (r : Resource) (l : List LogEntry) : List (String × Nat × Message) :=
  [("resourceLogs", 1, .list [.record [("resource", 1, resourceMessage r),
    ("scopeLogs", 2, .list ((groupByScope l).map scopeLogsMessage))]])]

def encodeLogs (encoding : Encoding) (r : Resource) (l : List LogEntry) : List UInt8 :=
  Message.encode encoding (logsRequest r l)

end Telemetry.Otlp
