import Telemetry.CommandLine.Help
import Telemetry.CommandLine.Reading
import Telemetry.Config
import Telemetry.Decimal.Numeral
import Telemetry.Level

/-! The command line of the demo program and what it asks for. -/
namespace Telemetry.Demo

/-- A whole number below 2^64. -/
def readNumber (s : String) : Except Decimal.NumeralFault Nat := Decimal.readNumeral 0x10000000000000000 s.toList

def numberFault? (s : String) : Option String :=
  match readNumber s with
  | .ok _ => none
  | .error fault => some fault.message

def protocolFault? (s : String) : Option String :=
  if (Protocol.parse s).isSome then none else some Protocol.parseMessage

def levelFault? (s : String) : Option String :=
  if (Level.parse s).isSome then none else some Level.parseMessage

def interface : CommandLine.Interface where
  program := "tally-demo"
  version := "0.1.0"
  about := "Record synthetic requests and export them over OTLP"
  parameters := [
    { name := "endpoint"
      help := "Collector endpoint, as `host:port` or a URL (overrides OTEL_EXPORTER_OTLP_ENDPOINT)" },
    { name := "protocol"
      help := "Wire protocol: grpc, http/protobuf or http/json (overrides OTEL_EXPORTER_OTLP_PROTOCOL)"
      fault? := protocolFault? },
    { name := "secure", takesValue := false, help := "Use TLS for endpoints without a scheme" },
    { name := "interval-ms"
      help := "Export interval in milliseconds (overrides OTEL_METRIC_EXPORT_INTERVAL)"
      fault? := numberFault? },
    { name := "shutdown-timeout-ms", help := "Deadline for the final export in milliseconds"
      variableName? := some "TALLY_SHUTDOWN_TIMEOUT_MS", fault? := numberFault? },
    { name := "requests", help := "Number of requests to simulate"
      variableName? := some "TALLY_DEMO_REQUESTS", defaultValue? := some "1000", fault? := numberFault? },
    { name := "delay-ms", help := "Time to spend handling each request, in milliseconds"
      variableName? := some "TALLY_DEMO_DELAY_MS", defaultValue? := some "0", fault? := numberFault? },
    { name := "linger-ms"
      help := "Time to wait after the last request so a periodic export can happen, in milliseconds"
      variableName? := some "TALLY_DEMO_LINGER_MS", defaultValue? := some "6000", fault? := numberFault? },
    { name := "otlp-logs", takesValue := false, help := "Also send log records to the collector"
      variableName? := some "TALLY_DEMO_OTLP_LOGS" },
    { name := "json", takesValue := false, help := "Write log records to stdout as JSON lines" },
    { name := "log-level", help := "The minimum level of log records to write"
      variableName? := some "TALLY_LOG_LEVEL", defaultValue? := some "info", fault? := levelFault? }]

structure Settings where
  endpoint : Option String
  protocol : Option Protocol
  secure : Bool
  interval : Option Duration
  shutdownTimeout : Option Duration
  requests : Nat
  delay : Duration
  linger : Duration
  sendsLogs : Bool
  json : Bool
  logLevel : Level
deriving DecidableEq, Repr

namespace Settings

/-- The settings behind a reading, whose values have been checked. -/
def ofReading (r : CommandLine.Reading) : Settings :=
  let number (name : String) : Option Nat := (r.get? name).bind fun s => (readNumber s).toOption
  let millis (name : String) : Option Duration := (number name).map .ofMillis
  { endpoint := r.get? "endpoint"
    protocol := (r.get? "protocol").bind Protocol.parse
    secure := r.isOn "secure"
    interval := millis "interval-ms"
    shutdownTimeout := millis "shutdown-timeout-ms"
    requests := (number "requests").getD 0
    delay := (millis "delay-ms").getD .zero
    linger := (millis "linger-ms").getD .zero
    sendsLogs := r.isOn "otlp-logs"
    json := r.isOn "json"
    logLevel := ((r.get? "log-level").bind Level.parse).getD .default }

/-- The configuration that the environment asks for, with what the command line changes. -/
def config (s : Settings) (e : Environment) : Except Error Config := do
  let c ← Config.ofEnvironment e
  return { c with
    endpoint := s.endpoint.getD c.endpoint
    protocol := s.protocol.getD c.protocol
    insecure := c.insecure && !s.secure
    interval := s.interval.getD c.interval
    shutdownTimeout := s.shutdownTimeout.getD c.shutdownTimeout }

end Settings
end Telemetry.Demo
