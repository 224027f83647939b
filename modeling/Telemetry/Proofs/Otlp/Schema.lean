import Mathlib.Algebra.Ring.Int.Defs
import Telemetry.Otlp.Logs
import Telemetry.Otlp.Metrics

/-! The messages of the protocol as a collector has them, with the type of floats as a parameter,
and the messages that stand for a batch and for log entries. A field that can be absent is an
option, and so is the case of a value. -/
namespace Telemetry.Otlp.Schema

inductive Scalar (φ : Type) where
  | string (s : String)
  | bool (b : Bool)
  | integer (i : Int)
  | double (x : φ)
deriving DecidableEq, Repr

structure AnyValue (φ : Type) where
  case : Option (Scalar φ)
deriving DecidableEq, Repr

structure KeyValue (φ : Type) where
  key : String
  value : Option (AnyValue φ)
deriving DecidableEq, Repr

structure Resource (φ : Type) where
  attributes : List (KeyValue φ)
deriving DecidableEq, Repr

structure InstrumentationScope where
  name : String
  version : String
deriving DecidableEq, Repr

structure NumberPoint (φ : Type) where
  attributes : List (KeyValue φ)
  start : Nat
  time : Nat
  asInt : Option Int
deriving DecidableEq, Repr

structure HistogramPoint (φ : Type) where
  attributes : List (KeyValue φ)
  start : Nat
  time : Nat
  count : Nat
  sum : Option φ
  bucketCounts : List Nat
  bounds : List φ
  min : Option φ
  max : Option φ
deriving DecidableEq, Repr

/-- The points of a metric, with the number of their temporality. -/
inductive Data (φ : Type) where
  | sum (points : List (NumberPoint φ)) (temporality : Nat) (isMonotonic : Bool)
  | histogram (points : List (HistogramPoint φ)) (temporality : Nat)
deriving DecidableEq, Repr

structure Metric (φ : Type) where
  name : String
  description : String
  unit : String
  data : Option (Data φ)
deriving DecidableEq, Repr

structure ScopeMetrics (φ : Type) where
  scope : Option InstrumentationScope
  metrics : List (Metric φ)
deriving DecidableEq, Repr

structure ResourceMetrics (φ : Type) where
  resource : Option (Resource φ)
  scopeMetrics : List (ScopeMetrics φ)
deriving DecidableEq, Repr

structure LogRecord (φ : Type) where
  time : Nat
  severityNumber : Nat
  severityText : String
  body : Option (AnyValue φ)
  attributes : List (KeyValue φ)
  observedTime : Nat
deriving DecidableEq, Repr

structure ScopeLogs (φ : Type) where
  scope : Option InstrumentationScope
  records : List (LogRecord φ)
deriving DecidableEq, Repr

structure ResourceLogs (φ : Type) where
  resource : Option (Resource φ)
  scopeLogs : List (ScopeLogs φ)
deriving DecidableEq, Repr

section Meaning

-- How a float is written: as its bits, or as the token that JSON has for it.
variable {φ : Type} (float : Binary64 → φ)

def Scalar.ofAttribute : AttributeValue → Scalar φ
  | .string s => .string s
  | .integer i => .integer i.toInt
  | .float x => .double (float x)
  | .bool b => .bool b

def AnyValue.ofAttribute (v : AttributeValue) : AnyValue φ := ⟨some (.ofAttribute float v)⟩

def KeyValue.ofAttribute (x : Attribute) : KeyValue φ := ⟨x.key, some (.ofAttribute float x.value)⟩

def Resource.ofResource (r : Telemetry.Resource) : Resource φ :=
  ⟨r.attributes.toList.map (.ofAttribute float)⟩

def InstrumentationScope.ofScope (s : Scope) : InstrumentationScope := ⟨s.name, s.version.getD ""⟩

/-- A total that is no signed integer is shown as the largest one. -/
def NumberPoint.ofTotal (p : TotalPoint) : NumberPoint φ :=
  ⟨p.attributes.toList.map (.ofAttribute float), p.start.unixNanos.toNat, p.time.unixNanos.toNat,
    some (min p.value.toNat (2 ^ 63 - 1))⟩

def HistogramPoint.ofHistogram (p : Telemetry.HistogramPoint) : HistogramPoint φ where
  attributes := p.attributes.toList.map (.ofAttribute float)
  start := p.start.unixNanos.toNat
  time := p.time.unixNanos.toNat
  count := p.state.count.toNat
  sum := some (float p.state.sum)
  bucketCounts := p.state.bucketCounts.map UInt64.toNat
  bounds := p.state.bounds.map float
  min := some (float p.state.min)
  max := some (float p.state.max)

def temporalityNumber : Temporality → Nat
  | .delta => 1
  | .cumulative => 2

def Data.ofMetricData (temporality : Temporality) : MetricData → Data φ
  | .totals points => .sum (points.map (.ofTotal float)) (temporalityNumber temporality) true
  | .histograms points =>
    .histogram (points.map (.ofHistogram float)) (temporalityNumber temporality)

def Metric.ofMetric (m : Telemetry.Metric) : Metric φ :=
  ⟨m.instrument.name, m.instrument.description.getD "", m.instrument.unit.getD "",
    some (.ofMetricData float m.temporality m.data)⟩

def ScopeMetrics.ofScopeMetrics (s : Telemetry.ScopeMetrics) : ScopeMetrics φ :=
  ⟨some (.ofScope s.scope), s.metrics.map (.ofMetric float)⟩

/-- Everything that a batch holds, in its order. -/
def ResourceMetrics.ofBatch (b : Batch) : ResourceMetrics φ :=
  ⟨some (.ofResource float b.resource), b.scopes.map (.ofScopeMetrics float)⟩

def LogRecord.ofEntry (e : LogEntry) : LogRecord φ where
  time := e.time.toNat
  severityNumber := Otlp.severityNumber e.level
  severityText := e.level.name
  body := some (.ofAttribute float (.string e.body))
  attributes := e.attributes.map (.ofAttribute float)
  observedTime := e.time.toNat

/-- The records of one scope, which has no version. -/
def ScopeLogs.ofGroup (scope : String) (entries : List LogEntry) : ScopeLogs φ :=
  ⟨some ⟨scope, ""⟩, entries.map (.ofEntry float)⟩

end Meaning

theorem toInt_clampedSigned (n : UInt64) :
    (clampedSigned n).toInt = min (n.toNat : Int) (2 ^ 63 - 1) := by
  have small : min n.toNat 0x7FFFFFFFFFFFFFFF < 2 ^ 63 := by omega
  rw [clampedSigned, Int64.toInt_ofNat_of_lt small]
  omega

end Telemetry.Otlp.Schema
