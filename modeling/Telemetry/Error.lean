/-! The faults that setting up telemetry can meet. -/
namespace Telemetry

/-- Why a list of histogram boundaries is refused. -/
inductive BoundaryFault where
  | notFinite
  | duplicate
  | unsorted
deriving DecidableEq, Repr

/-- Why a resource attribute text is refused. -/
inductive ResourceFault where
  | noPair
  | emptyKey
  | badPercent
deriving DecidableEq, Repr

/-- Why an endpoint text is refused. -/
inductive EndpointFault where
  | scheme
  | port
  | emptyHost
  | badHost
deriving DecidableEq, Repr

/-- A setting that cannot be used, with the text that was given for it where that is shown. -/
inductive ConfigFault where
  | endpoint (text : String) (fault : EndpointFault)
  | insecure
  | intervalMillis (text : String)
  | timeoutMillis (text : String)
  | protocol
  | temporality
  | header (piece : String)
  | zeroInterval
  | zeroExportTimeout
deriving DecidableEq, Repr

inductive Error where
  | duplicateInstrument (name scope : String)
  | invalidInstrumentName (name : String)
  | invalidBoundaries (name : String) (fault : BoundaryFault)
  | invalidResourceAttributes (input : String) (fault : ResourceFault)
  | invalidConfig (fault : ConfigFault)
  | exporter (cause : String)
deriving DecidableEq, Repr

def BoundaryFault.message : BoundaryFault → String
  | notFinite => "boundaries must be finite"
  | duplicate => "boundaries must not contain duplicates"
  | unsorted => "boundaries must be sorted in increasing order"

def ResourceFault.message : ResourceFault → String
  | noPair => "expected a `key=value` pair"
  | emptyKey => "attribute keys must not be empty"
  | badPercent => "invalid percent-encoding"

def EndpointFault.message : EndpointFault → String
  | scheme => "only `http` and `https` are supported"
  | port => "the port is not a number between 0 and 65535"
  | emptyHost => "the host is empty"
  | badHost => "the host contains invalid characters"

namespace ConfigFault

/-- The setting or the environment variable at fault. -/
def option : ConfigFault → String
  | endpoint _ _ => "endpoint"
  | insecure => "OTEL_EXPORTER_OTLP_INSECURE"
  | intervalMillis _ => "OTEL_METRIC_EXPORT_INTERVAL"
  | timeoutMillis _ => "OTEL_METRIC_EXPORT_TIMEOUT"
  | protocol => "OTEL_EXPORTER_OTLP_PROTOCOL"
  | temporality => "OTEL_EXPORTER_OTLP_METRICS_TEMPORALITY_PREFERENCE"
  | header _ => "headers"
  | zeroInterval => "interval"
  | zeroExportTimeout => "export_timeout"

def reason : ConfigFault → String
  | endpoint text fault => "`" ++ text ++ "`: " ++ fault.message
  | insecure => "expected `true` or `false`"
  | intervalMillis text | timeoutMillis text => "`" ++ text ++ "` is not a number of milliseconds"
  | protocol => "expected one of `grpc`, `http/protobuf`, or `http/json`"
  | temporality => "expected `delta` or `cumulative`"
  | header piece => "`" ++ piece ++ "` is not a `key=value` pair"
  | zeroInterval | zeroExportTimeout => "must be greater than zero"

end ConfigFault

def Error.message : Error → String
  | duplicateInstrument name scope =>
    "an instrument named `" ++ name ++ "` is already registered in meter `" ++ scope ++ "`"
  | invalidInstrumentName name => "`" ++ name ++ "` is not a valid instrument name"
  | invalidBoundaries name fault =>
    "invalid histogram boundaries for `" ++ name ++ "`: " ++ fault.message
  | invalidResourceAttributes input fault =>
    "malformed resource attributes `" ++ input ++ "`: " ++ fault.message
  | invalidConfig fault => "invalid value for `" ++ fault.option ++ "`: " ++ fault.reason
  | exporter _ => "failed to configure the exporter"

end Telemetry
