import Telemetry.Demo.Program

/-! The command line of the demo program. It has no network of its own: whatever it would
send, it behaves as it does where no collector can be reached. -/
namespace Telemetry

/-- The environment variables that the program reads. -/
def variableNames : List String :=
  ["OTEL_EXPORTER_OTLP_ENDPOINT", "OTEL_EXPORTER_OTLP_INSECURE", "OTEL_EXPORTER_OTLP_PROTOCOL",
    "OTEL_EXPORTER_OTLP_HEADERS", "OTEL_METRIC_EXPORT_INTERVAL", "OTEL_METRIC_EXPORT_TIMEOUT",
    "OTEL_EXPORTER_OTLP_METRICS_TEMPORALITY_PREFERENCE", "OTEL_SERVICE_NAME",
    "OTEL_RESOURCE_ATTRIBUTES", "TALLY_SHUTDOWN_TIMEOUT_MS", "TALLY_DEMO_REQUESTS",
    "TALLY_DEMO_DELAY_MS", "TALLY_DEMO_LINGER_MS", "TALLY_DEMO_OTLP_LOGS", "TALLY_LOG_LEVEL",
    "TERM", "NO_COLOR", "CLICOLOR_FORCE"]

/-- The variables among these that are set. -/
def readEnvironment : IO Environment := do
  let entries ← variableNames.filterMapM fun name => do
    return (← IO.getEnv name).map fun value => (name, .text value)
  return ⟨entries⟩

end Telemetry

def main (arguments : List String) : IO UInt32 := do
  let environment ← Telemetry.readEnvironment
  let run := Telemetry.Demo.run .unreachable environment ⟨← IO.monoNanosNow⟩ arguments
  for line in run.stdout do
    IO.println line
  IO.eprint run.stderr
  return run.code
