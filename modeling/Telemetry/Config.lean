import Telemetry.Config.Endpoint
import Telemetry.Config.Headers
import Telemetry.Config.Protocol
import Telemetry.Environment
import Telemetry.Temporality
import Telemetry.Time.Text

/-! The settings of a telemetry pipeline, which environment variables can change. -/
namespace Telemetry

structure Config where
  endpoint : String := "localhost:4317"
  insecure : Bool := true
  interval : Duration := .ofSeconds 5
  shutdownTimeout : Duration := .ofSeconds 5
  exportTimeout : Duration := .ofSeconds 30
  protocol : Protocol := .grpc
  temporality : Temporality := .delta
  headers : List (String × String) := []
  serviceName : Option String := none
deriving DecidableEq, Repr

namespace Config

def default : Config := {}

def readBool (s : String) : Option Bool :=
  match String.ofList (Text.lower (Text.trim s.toList)) with
  | "true" | "1" => some true
  | "false" | "0" => some false
  | _ => none

def readMillis (s : String) : Option Duration :=
  (Decimal.readUnsigned 0x10000000000000000 (Text.trim s.toList)).map .ofMillis

/-- The value of a variable through its reader, or the setting's own value where the
variable is not set or blank. -/
def setting {α : Type} (e : Environment) (name : String) (own : α)
    (read : String → Except ConfigFault α) : Except ConfigFault α :=
  match e.getFilled? name with
  | none => .ok own
  | some value => read value

def orFault {α : Type} (fault : ConfigFault) : Option α → Except ConfigFault α
  | some a => .ok a
  | none => .error fault

/-- The settings that an environment asks for, or the fault of the first variable that
cannot be read, in the order of the fields here. -/
def readEnvironment (e : Environment) : Except ConfigFault Config := do
  let insecure ← setting e "OTEL_EXPORTER_OTLP_INSECURE" default.insecure
    fun s => orFault .insecure (readBool s)
  let interval ← setting e "OTEL_METRIC_EXPORT_INTERVAL" default.interval
    fun s => orFault (.intervalMillis s) (readMillis s)
  let exportTimeout ← setting e "OTEL_METRIC_EXPORT_TIMEOUT" default.exportTimeout
    fun s => orFault (.timeoutMillis s) (readMillis s)
  let protocol ← setting e "OTEL_EXPORTER_OTLP_PROTOCOL" default.protocol
    fun s => orFault .protocol (Protocol.parse s)
  let temporality ← setting e "OTEL_EXPORTER_OTLP_METRICS_TEMPORALITY_PREFERENCE" default.temporality
    fun s => orFault .temporality (Temporality.parse (String.ofList (Text.trim s.toList)))
  let headers ← setting e "OTEL_EXPORTER_OTLP_HEADERS" default.headers Headers.read
  pure { default with
    endpoint := (e.getFilled? "OTEL_EXPORTER_OTLP_ENDPOINT").getD default.endpoint
    insecure, interval, exportTimeout, protocol, temporality, headers
    serviceName := e.getFilled? "OTEL_SERVICE_NAME" }

def ofEnvironment (e : Environment) : Except Error Config :=
  (readEnvironment e).mapError .invalidConfig

def parsedEndpoint (c : Config) : Except Error Endpoint := Endpoint.parse c.endpoint c.insecure

def shortShutdownWarning (c : Config) : String :=
  "the shutdown timeout (" ++ c.shutdownTimeout.text ++
    ") is not longer than the export interval (" ++ c.interval.text ++
    "); data recorded late in the final interval may be lost"

/-- Refuses settings that cannot work and lists warnings about those that hardly will. -/
def validate (c : Config) : Except Error (List String) := do
  if c.interval.isZero then .error (.invalidConfig .zeroInterval)
  else if c.exportTimeout.isZero then .error (.invalidConfig .zeroExportTimeout)
  else
    let _ ← c.parsedEndpoint
    pure (if c.shutdownTimeout ≤ c.interval then [c.shortShutdownWarning] else [])

end Config
end Telemetry
