import Telemetry.Proofs.Otlp.Origin

/-! The request for a batch of metrics, read back from the wire. -/
namespace Telemetry.Otlp

open Wire Message

namespace Schema

def NumberPoint.read (fields : List Wire.Field) : Option (NumberPoint Binary64) := do
  guard (numbered [7, 2, 3, 6] fields)
  let attributes ← repeated (Payload.asRecord KeyValue.read) (payloads 7 fields)
  let start ← single Payload.asFixed 0 (payloads 2 fields)
  let time ← single Payload.asFixed 0 (payloads 3 fields)
  let asInt ← atMostOne Payload.asSignedFixed (payloads 6 fields)
  pure ⟨attributes, start, time, asInt⟩

def HistogramPoint.read (fields : List Wire.Field) : Option (HistogramPoint Binary64) := do
  guard (numbered [9, 2, 3, 4, 5, 6, 7, 11, 12] fields)
  let attributes ← repeated (Payload.asRecord KeyValue.read) (payloads 9 fields)
  let start ← single Payload.asFixed 0 (payloads 2 fields)
  let time ← single Payload.asFixed 0 (payloads 3 fields)
  let count ← single Payload.asFixed 0 (payloads 4 fields)
  let sum ← atMostOne Payload.asDouble (payloads 5 fields)
  let bucketCounts ← repeated Payload.asFixed (payloads 6 fields)
  let bounds ← repeated Payload.asDouble (payloads 7 fields)
  let min ← atMostOne Payload.asDouble (payloads 11 fields)
  let max ← atMostOne Payload.asDouble (payloads 12 fields)
  pure ⟨attributes, start, time, count, sum, bucketCounts, bounds, min, max⟩

def Data.readSum (fields : List Wire.Field) : Option (Data Binary64) := do
  guard (numbered [1, 2, 3] fields)
  let points ← repeated (Payload.asRecord NumberPoint.read) (payloads 1 fields)
  let temporality ← single Payload.asCase 0 (payloads 2 fields)
  let isMonotonic ← single Payload.asBool false (payloads 3 fields)
  pure (.sum points temporality isMonotonic)

def Data.readHistogram (fields : List Wire.Field) : Option (Data Binary64) := do
  guard (numbered [1, 2] fields)
  let points ← repeated (Payload.asRecord HistogramPoint.read) (payloads 1 fields)
  let temporality ← single Payload.asCase 0 (payloads 2 fields)
  pure (.histogram points temporality)

def Metric.read (fields : List Wire.Field) : Option (Metric Binary64) := do
  guard (numbered [1, 2, 3, 7, 9] fields)
  let name ← single Payload.asText "" (payloads 1 fields)
  let description ← single Payload.asText "" (payloads 2 fields)
  let unit ← single Payload.asText "" (payloads 3 fields)
  let sum ← atMostOne (Payload.asRecord Data.readSum) (payloads 7 fields)
  let histogram ← atMostOne (Payload.asRecord Data.readHistogram) (payloads 9 fields)
  let data ← oneOf [sum, histogram]
  pure ⟨name, description, unit, data⟩

def ScopeMetrics.read (fields : List Wire.Field) : Option (ScopeMetrics Binary64) := do
  guard (numbered [1, 2] fields)
  let scope ← atMostOne (Payload.asRecord InstrumentationScope.read) (payloads 1 fields)
  let metrics ← repeated (Payload.asRecord Metric.read) (payloads 2 fields)
  pure ⟨scope, metrics⟩

def ResourceMetrics.read (fields : List Wire.Field) : Option (ResourceMetrics Binary64) := do
  guard (numbered [1, 2] fields)
  let resource ← atMostOne (Payload.asRecord Resource.read) (payloads 1 fields)
  let scopeMetrics ← repeated (Payload.asRecord ScopeMetrics.read) (payloads 2 fields)
  pure ⟨resource, scopeMetrics⟩

/-- The request that the bytes are. -/
def readMetrics (bytes : List UInt8) : Option (List (ResourceMetrics Binary64)) := do
  let fields ← decode bytes
  guard (numbered [1] fields)
  repeated (Payload.asRecord ResourceMetrics.read) (payloads 1 fields)

theorem reads_totalPoint (p : TotalPoint) :
    Reads NumberPoint.read (totalPointMessage p) (NumberPoint.ofTotal id p).withoutDefaults := by
  refine ⟨_, rfl, ?_⟩
  simp [NumberPoint.read, repeated_keyValues, toInt_clampedSigned, NumberPoint.ofTotal,
    NumberPoint.withoutDefaults]

theorem reads_histogramPoint (p : Telemetry.HistogramPoint) :
    Reads HistogramPoint.read (histogramPointMessage p)
      (HistogramPoint.ofHistogram id p).withoutDefaults := by
  refine ⟨_, rfl, ?_⟩
  simp [HistogramPoint.read, repeated_keyValues, HistogramPoint.ofHistogram,
    HistogramPoint.withoutDefaults]

theorem single_temporality (t : Temporality) :
    single Payload.asCase 0 (temporalityMessage t).payloads = some (temporalityNumber t) := by
  cases t <;> rfl

theorem reads_totals (temporality : Temporality) (points : List TotalPoint) :
    ∃ m, metricDataField temporality (.totals points) = ("sum", 7, m) ∧
      Reads Data.readSum m (Data.ofMetricData id temporality (.totals points)).withoutDefaults := by
  refine ⟨_, rfl, _, rfl, ?_⟩
  simp [Data.readSum, repeated_records fun p _ => reads_totalPoint p, single_temporality,
    Data.ofMetricData, Data.withoutDefaults, Function.comp_def]

theorem reads_histograms (temporality : Temporality) (points : List Telemetry.HistogramPoint) :
    ∃ m, metricDataField temporality (.histograms points) = ("histogram", 9, m) ∧
      Reads Data.readHistogram m
        (Data.ofMetricData id temporality (.histograms points)).withoutDefaults := by
  refine ⟨_, rfl, _, rfl, ?_⟩
  simp [Data.readHistogram, repeated_records fun p _ => reads_histogramPoint p, single_temporality,
    Data.ofMetricData, Data.withoutDefaults, Function.comp_def]

theorem reads_metric (m : Telemetry.Metric) :
    Reads Metric.read (metricMessage m) (Metric.ofMetric id m).withoutDefaults := by
  obtain ⟨instrument, temporality, data⟩ := m
  refine ⟨_, rfl, ?_⟩
  cases data with
  | totals points =>
    obtain ⟨m, field, reads⟩ := reads_totals temporality points
    simp [Metric.read, field, atMostOne_record reads, oneOf_cons, Metric.ofMetric,
      Metric.withoutDefaults]
  | histograms points =>
    obtain ⟨m, field, reads⟩ := reads_histograms temporality points
    simp [Metric.read, field, atMostOne_record reads, oneOf_cons, Metric.ofMetric,
      Metric.withoutDefaults]

theorem reads_scopeMetrics (s : Telemetry.ScopeMetrics) :
    Reads ScopeMetrics.read (scopeMetricsMessage s)
      (ScopeMetrics.ofScopeMetrics id s).withoutDefaults := by
  refine ⟨_, rfl, ?_⟩
  simp [ScopeMetrics.read, atMostOne_record (reads_scope s.scope),
    repeated_records fun m _ => reads_metric m, ScopeMetrics.ofScopeMetrics,
    ScopeMetrics.withoutDefaults, Function.comp_def]

theorem reads_resourceMetrics (b : Batch) :
    Reads ResourceMetrics.read
      (.record [("resource", 1, resourceMessage b.resource),
        ("scopeMetrics", 2, .list (b.scopes.map scopeMetricsMessage))])
      (ResourceMetrics.ofBatch id b).withoutDefaults := by
  refine ⟨_, rfl, ?_⟩
  simp [ResourceMetrics.read, atMostOne_record (reads_resource b.resource),
    repeated_records fun s _ => reads_scopeMetrics s, ResourceMetrics.ofBatch,
    ResourceMetrics.withoutDefaults, Function.comp_def]

theorem readMetrics_encodeMetrics (b : Batch) :
    readMetrics (encodeMetrics .proto b) =
      some [(ResourceMetrics.ofBatch id b).withoutDefaults] := by
  have one := repeated_records (l := [b]) fun b _ => reads_resourceMetrics b
  rw [List.map_singleton, List.map_singleton] at one
  simp [readMetrics, encodeMetrics, Message.encode, decode_encode, metricsRequest, one]

end Schema

open Schema

/-- Every batch arrives as it is but for the values that are zero, false or empty, which are gone
from lists, from unions and from the fields that can be absent; so it arrives whole exactly where it
holds none of these. -/
theorem metrics_decoded (b : Batch) :
    readMetrics (encodeMetrics .proto b) =
        some [(ResourceMetrics.ofBatch id b).withoutDefaults] ∧
      (readMetrics (encodeMetrics .proto b) = some [ResourceMetrics.ofBatch id b] ↔
        b.IsTelling) := by
  have read := readMetrics_encodeMetrics b
  refine ⟨read, ?_⟩
  rw [read, Option.some_inj, List.singleton_inj]
  exact ResourceMetrics.withoutDefaults_eq_iff b

/-- A histogram with the bound 10 that has seen the value 5: one bucket is filled, one is not. -/
def halfFilled : Batch :=
  let five : Binary64 := ⟨0x4014000000000000⟩
  let ten : Binary64 := ⟨0x4024000000000000⟩
  ⟨.default, [⟨.ofName "s",
    [⟨⟨1, "latency", .histogram, none, none, .ofName "s", some [ten]⟩, .delta,
      .histograms [⟨.empty, .ofParts 1 0, .ofParts 5 0, ⟨[ten], [1, 0], 1, five, five, five⟩⟩]⟩]⟩]⟩

/-- The bucket that is not filled is missed. -/
theorem halfFilled_not_decoded :
    readMetrics (encodeMetrics .proto halfFilled) ≠
      some [ResourceMetrics.ofBatch id halfFilled] := by
  rw [readMetrics_encodeMetrics, ne_eq, Option.some_inj, List.singleton_inj,
    ResourceMetrics.withoutDefaults_eq_iff]
  intro telling
  have data := telling.2 _ (List.mem_singleton_self _) _ (List.mem_singleton_self _)
  have point := data _ (List.mem_singleton_self _)
  exact point.bucketCounts 0 (List.mem_cons_of_mem _ List.mem_cons_self) rfl

end Telemetry.Otlp
