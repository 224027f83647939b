import Telemetry.Config
import Telemetry.Otlp.Logs
import Telemetry.Otlp.Metrics
import Telemetry.Transport.Connection

/-! Exporters that send metrics and logs to a collector. -/
namespace Telemetry.Otlp

/-- The settings of an exporter. -/
structure ExporterSettings where
  endpoint : String
  insecure : Bool := false
  protocol : Protocol := .grpc
  headers : List (String × String) := []
  exportTimeout : Duration := .ofSeconds 10
  gzip : Bool := true

namespace ExporterSettings

def ofConfig (c : Config) : ExporterSettings :=
  { endpoint := c.endpoint, insecure := c.insecure, protocol := c.protocol, headers := c.headers
    exportTimeout := c.exportTimeout }

/-- The connection for a signal, which is not opened before it is used. -/
def connection (s : ExporterSettings) (signal : Transport.Signal) :
    Except Transport.Fault Transport.Connection := do
  let endpoint ← (Endpoint.parse s.endpoint s.insecure).mapError .endpoint
  Transport.Connection.create endpoint s.protocol signal s.headers s.gzip

end ExporterSettings

/-- Sends a batch of metrics. -/
def exportMetrics (net : Transport.Network) (b : Batch) (c : Transport.Connection) :
    Transport.Connection × Except ExportError Unit :=
  c.send net (encodeMetrics (Transport.encodingOf c.protocol) b)

/-- Sends log entries. -/
def exportLogs (net : Transport.Network) (r : Resource) (l : List LogEntry)
    (c : Transport.Connection) : Transport.Connection × Except ExportError Unit :=
  c.send net (encodeLogs (Transport.encodingOf c.protocol) r l)

def exporterDiagnostic (c : Transport.Connection) : String :=
  "OtlpExporter \x7b transport: " ++ c.diagnostic ++ " \x7d"

end Telemetry.Otlp
