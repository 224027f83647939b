import Mathlib.Logic.Basic
import Telemetry.Proofs.Otlp.Schema

/-! What the binary form loses. It leaves out whatever is zero, false or empty, and outside the
fields that are never absent nobody can tell that from nothing. Main results: the messages that
arrive whole are those of batches and log entries that hold no such value. -/
namespace Telemetry
namespace Otlp.Schema

def Scalar.isDefault : Scalar Binary64 → Bool
  | .string s => s.isEmpty
  | .bool b => !b
  | .integer i => i == 0
  | .double x => x.isZero

def AnyValue.withoutDefaults (v : AnyValue Binary64) : AnyValue Binary64 :=
  ⟨v.case.filter (!·.isDefault)⟩

def KeyValue.withoutDefaults (x : KeyValue Binary64) : KeyValue Binary64 :=
  ⟨x.key, x.value.map (·.withoutDefaults)⟩

def Resource.withoutDefaults (r : Resource Binary64) : Resource Binary64 :=
  ⟨r.attributes.map (·.withoutDefaults)⟩

def NumberPoint.withoutDefaults (p : NumberPoint Binary64) : NumberPoint Binary64 :=
  { p with attributes := p.attributes.map (·.withoutDefaults), asInt := p.asInt.filter (· != 0) }

def HistogramPoint.withoutDefaults (p : HistogramPoint Binary64) : HistogramPoint Binary64 where
  attributes := p.attributes.map (·.withoutDefaults)
  start := p.start
  time := p.time
  count := p.count
  sum := p.sum.filter (!·.isZero)
  bucketCounts := p.bucketCounts.filter (· != 0)
  bounds := p.bounds.filter (!·.isZero)
  min := p.min.filter (!·.isZero)
  max := p.max.filter (!·.isZero)

def Data.withoutDefaults : Data Binary64 → Data Binary64
  | .sum points temporality isMonotonic =>
    .sum (points.map (·.withoutDefaults)) temporality isMonotonic
  | .histogram points temporality => .histogram (points.map (·.withoutDefaults)) temporality

def Metric.withoutDefaults (m : Metric Binary64) : Metric Binary64 :=
  { m with data := m.data.map (·.withoutDefaults) }

def ScopeMetrics.withoutDefaults (s : ScopeMetrics Binary64) : ScopeMetrics Binary64 :=
  { s with metrics := s.metrics.map (·.withoutDefaults) }

def ResourceMetrics.withoutDefaults (r : ResourceMetrics Binary64) : ResourceMetrics Binary64 :=
  ⟨r.resource.map (·.withoutDefaults), r.scopeMetrics.map (·.withoutDefaults)⟩

def LogRecord.withoutDefaults (r : LogRecord Binary64) : LogRecord Binary64 :=
  { r with
    body := r.body.map (·.withoutDefaults)
    attributes := r.attributes.map (·.withoutDefaults) }

def ScopeLogs.withoutDefaults (s : ScopeLogs Binary64) : ScopeLogs Binary64 :=
  { s with records := s.records.map (·.withoutDefaults) }

end Otlp.Schema

/-! What has nothing to lose. -/

def AttributeValue.isDefault : AttributeValue → Bool
  | string s => s.isEmpty
  | integer i => i == 0
  | float x => x.isZero
  | bool b => !b

def Attribute.IsTelling (x : Attribute) : Prop := x.value.isDefault = false

def TotalPoint.IsTelling (p : TotalPoint) : Prop :=
  (∀ x ∈ p.attributes.toList, x.IsTelling) ∧ p.value ≠ 0

structure HistogramPoint.IsTelling (p : HistogramPoint) : Prop where
  attributes : ∀ x ∈ p.attributes.toList, x.IsTelling
  sum : p.state.sum.isZero = false
  bucketCounts : ∀ n ∈ p.state.bucketCounts, n ≠ 0
  bounds : ∀ x ∈ p.state.bounds, x.isZero = false
  min : p.state.min.isZero = false
  max : p.state.max.isZero = false

def MetricData.IsTelling : MetricData → Prop
  | totals points => ∀ p ∈ points, p.IsTelling
  | histograms points => ∀ p ∈ points, p.IsTelling

/-- Outside the fields that are never absent the batch holds nothing zero, false or empty. -/
def Batch.IsTelling (b : Batch) : Prop :=
  (∀ x ∈ b.resource.attributes.toList, x.IsTelling) ∧
    ∀ s ∈ b.scopes, ∀ m ∈ s.metrics, m.data.IsTelling

def Otlp.LogEntry.IsTelling (e : LogEntry) : Prop :=
  e.body ≠ "" ∧ ∀ x ∈ e.attributes, x.IsTelling

namespace Otlp.Schema

theorem isDefault_ofAttribute (v : AttributeValue) :
    (Scalar.ofAttribute id v).isDefault = v.isDefault := by
  cases v with
  | integer i =>
    have same : (i.toInt == 0) = (i == 0) := by
      rw [Bool.eq_iff_iff, beq_iff_eq, beq_iff_eq]
      exact Int64.toInt_inj (y := 0)
    exact same
  | _ => rfl

theorem KeyValue.withoutDefaults_eq_iff (x : Attribute) :
    (ofAttribute id x).withoutDefaults = ofAttribute id x ↔ x.IsTelling := by
  simp [KeyValue.withoutDefaults, AnyValue.withoutDefaults, ofAttribute, AnyValue.ofAttribute,
    Option.filter_eq_some_iff, isDefault_ofAttribute, Attribute.IsTelling]

theorem NumberPoint.withoutDefaults_eq_iff (p : TotalPoint) :
    (ofTotal id p).withoutDefaults = ofTotal id p ↔ p.IsTelling := by
  have zero : min (p.value.toNat : Int) 0x7FFFFFFFFFFFFFFF = 0 ↔ p.value = 0 := by
    rw [← UInt64.toNat_inj, UInt64.toNat_zero]
    omega
  simp [NumberPoint.withoutDefaults, ofTotal, Option.filter_eq_some_iff,
    KeyValue.withoutDefaults_eq_iff, TotalPoint.IsTelling, zero]

theorem HistogramPoint.withoutDefaults_eq_iff (p : Telemetry.HistogramPoint) :
    (ofHistogram id p).withoutDefaults = ofHistogram id p ↔ p.IsTelling := by
  have zero (n : UInt64) : n.toNat = 0 ↔ n = 0 := UInt64.toNat_inj (b := 0)
  simp only [HistogramPoint.withoutDefaults, ofHistogram, HistogramPoint.mk.injEq, List.map_map,
    List.map_inj_left, Function.comp_apply, KeyValue.withoutDefaults_eq_iff, true_and,
    Option.filter_eq_some_iff, List.filter_eq_self, List.forall_mem_map, id_eq, bne_iff_ne, ne_eq, zero,
    Bool.not_eq_true', List.map_id_fun]
  constructor
  · rintro ⟨attributes, sum, bucketCounts, bounds, min, max⟩
    exact ⟨attributes, sum, bucketCounts, bounds, min, max⟩
  · rintro ⟨attributes, sum, bucketCounts, bounds, min, max⟩
    exact ⟨attributes, sum, bucketCounts, bounds, min, max⟩

theorem Data.withoutDefaults_eq_iff (temporality : Temporality) (d : MetricData) :
    (ofMetricData id temporality d).withoutDefaults = ofMetricData id temporality d ↔
      d.IsTelling := by
  cases d with
  | totals points =>
    simp [Data.withoutDefaults, ofMetricData, MetricData.IsTelling,
      NumberPoint.withoutDefaults_eq_iff]
  | histograms points =>
    simp [Data.withoutDefaults, ofMetricData, MetricData.IsTelling,
      HistogramPoint.withoutDefaults_eq_iff]

theorem Metric.withoutDefaults_eq_iff (m : Telemetry.Metric) :
    (ofMetric id m).withoutDefaults = ofMetric id m ↔ m.data.IsTelling := by
  simp [Metric.withoutDefaults, ofMetric, Data.withoutDefaults_eq_iff]

theorem ScopeMetrics.withoutDefaults_eq_iff (s : Telemetry.ScopeMetrics) :
    (ofScopeMetrics id s).withoutDefaults = ofScopeMetrics id s ↔
      ∀ m ∈ s.metrics, m.data.IsTelling := by
  simp [ScopeMetrics.withoutDefaults, ofScopeMetrics, Metric.withoutDefaults_eq_iff]

theorem ResourceMetrics.withoutDefaults_eq_iff (b : Batch) :
    (ofBatch id b).withoutDefaults = ofBatch id b ↔ b.IsTelling := by
  simp [ResourceMetrics.withoutDefaults, ofBatch, Resource.withoutDefaults, Resource.ofResource,
    KeyValue.withoutDefaults_eq_iff, ScopeMetrics.withoutDefaults_eq_iff, Batch.IsTelling]

theorem LogRecord.withoutDefaults_eq_iff (e : LogEntry) :
    (ofEntry id e).withoutDefaults = ofEntry id e ↔ e.IsTelling := by
  have empty : (AttributeValue.string e.body).isDefault = false ↔ e.body ≠ "" := by
    rw [AttributeValue.isDefault, Bool.eq_false_iff, ne_eq, String.isEmpty_iff]
  simp [LogRecord.withoutDefaults, ofEntry, KeyValue.withoutDefaults_eq_iff, LogEntry.IsTelling,
    AnyValue.withoutDefaults, AnyValue.ofAttribute, Option.filter_eq_some_iff,
    isDefault_ofAttribute, empty]

theorem ScopeLogs.withoutDefaults_eq_iff (scope : String) (entries : List LogEntry) :
    (ofGroup id scope entries).withoutDefaults = ofGroup id scope entries ↔
      ∀ e ∈ entries, e.IsTelling := by
  simp [ScopeLogs.withoutDefaults, ofGroup, LogRecord.withoutDefaults_eq_iff]

end Otlp.Schema
end Telemetry
