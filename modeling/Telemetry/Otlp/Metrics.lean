import Telemetry.Batch
import Telemetry.Otlp.Origin

/-! The request that carries a batch of metrics. -/
namespace Telemetry.Otlp

def temporalityMessage : Temporality → Message
  | .delta => .case 1
  | .cumulative => .case 2

/-- A count as a signed integer, clamped to the largest one. -/
def clampedSigned (n : UInt64) : Int64 := Int64.ofNat (min n.toNat 0x7FFFFFFFFFFFFFFF)

def totalPointMessage (p : TotalPoint) : Message :=
  .record [("attributes", 7, keyValues p.attributes.toList),
    ("startTimeUnixNano", 2, .fixed p.start.unixNanos),
    ("timeUnixNano", 3, .fixed p.time.unixNanos),
    ("asInt", 6, .signedFixed (clampedSigned p.value))]

def histogramPointMessage (p : HistogramPoint) : Message :=
  .record [("attributes", 9, keyValues p.attributes.toList),
    ("startTimeUnixNano", 2, .fixed p.start.unixNanos),
    ("timeUnixNano", 3, .fixed p.time.unixNanos),
    ("count", 4, .fixed p.state.count),
    ("sum", 5, .double p.state.sum),
    ("bucketCounts", 6, .list (p.state.bucketCounts.map .fixed)),
    ("explicitBounds", 7, .list (p.state.bounds.map .double)),
    ("min", 11, .double p.state.min),
    ("max", 12, .double p.state.max)]

def metricDataField (temporality : Temporality) : MetricData → String × Nat × Message
  | .totals points =>
    ("sum", 7, .record [("dataPoints", 1, .list (points.map totalPointMessage)),
      ("aggregationTemporality", 2, temporalityMessage temporality), ("isMonotonic", 3, .bool true)])
  | .histograms points =>
    ("histogram", 9, .record [("dataPoints", 1, .list (points.map histogramPointMessage)),
      ("aggregationTemporality", 2, temporalityMessage temporality)])

/-- A metric without a description or a unit has an empty one. -/
def metricMessage (m : Metric) : Message :=
  .record [("name", 1, .text m.instrument.name),
    ("description", 2, .text (m.instrument.description.getD "")),
    ("unit", 3, .text (m.instrument.unit.getD "")),
    metricDataField m.temporality m.data]

def scopeMetricsMessage (s : ScopeMetrics) : Message :=
  .record [("scope", 1, scopeMessage s.scope), ("metrics", 2, .list (s.metrics.map metricMessage))]

/-- The fields of the request for a batch. -/
def metricsRequest (b : Batch) : List (String × Nat × Message) :=
  [("resourceMetrics", 1, .list [.record [("resource", 1, resourceMessage b.resource),
    ("scopeMetrics", 2, .list (b.scopes.map scopeMetricsMessage))]])]

def encodeMetrics (encoding : Encoding) (b : Batch) : List UInt8 :=
  Message.encode encoding (metricsRequest b)

end Telemetry.Otlp
