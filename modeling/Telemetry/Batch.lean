import Telemetry.Aggregation
import Telemetry.Resource
import Telemetry.Sorted
import Telemetry.Temporality

/-! Batches: the contents of one export, grouped by scope and metric. -/
namespace Telemetry

structure TotalPoint where
  attributes : Attributes
  start : Timestamp
  time : Timestamp
  value : UInt64
deriving DecidableEq

structure HistogramPoint where
  attributes : Attributes
  start : Timestamp
  time : Timestamp
  state : HistogramState
deriving DecidableEq

inductive MetricData where
  | totals (points : List TotalPoint)
  | histograms (points : List HistogramPoint)
deriving DecidableEq

/-- The points of one instrument. -/
structure Metric where
  instrument : Instrument
  temporality : Temporality
  data : MetricData
deriving DecidableEq

namespace Metric

/-- The sum of all points of a counter. -/
def total? (m : Metric) : Option UInt64 :=
  match m.data with
  | .totals points => some (points.foldl (fun n p => saturatingAdd n p.value) 0)
  | .histograms _ => none

/-- The number of values over all points of a histogram. -/
def count? (m : Metric) : Option UInt64 :=
  match m.data with
  | .totals _ => none
  | .histograms points => some (points.foldl (fun n p => n + p.state.count) 0)

end Metric

structure ScopeMetrics where
  scope : Scope
  metrics : List Metric
deriving DecidableEq

structure Batch where
  resource : Resource
  scopes : List ScopeMetrics
deriving DecidableEq

namespace Batch

def metrics (b : Batch) : List Metric := b.scopes.flatMap (·.metrics)

/-- The first metric of a name. -/
def metric? (b : Batch) (name : String) : Option Metric :=
  b.metrics.find? (·.instrument.name == name)

def isEmpty (b : Batch) : Bool := b.scopes.all (·.metrics.isEmpty)

end Batch

/-- What tells the metrics of a scope apart, and orders them: the name, then the id. -/
structure MetricKey where
  name : String
  id : Nat
deriving DecidableEq

def MetricKey.order (a b : MetricKey) : Ordering := (compare a.name b.name).then (compare a.id b.id)

def Instrument.metricKey (i : Instrument) : MetricKey := ⟨i.name, i.id⟩

namespace MetricData

/-- No points yet, of the kind of the data. -/
def fresh : SeriesData → MetricData
  | .total _ => .totals []
  | .histogram _ => .histograms []

/-- One more point, from `start` or else from when the series was first seen. A series of the other
kind has none here. -/
def add (start : Option Timestamp) (time : Timestamp) (s : Series) (d : MetricData) : MetricData :=
  match d, s.data with
  | totals points, .total n =>
    totals (points ++ [⟨s.attributes, start.getD s.firstSeen, time, n⟩])
  | histograms points, .histogram h =>
    histograms (points ++ [⟨s.attributes, start.getD s.firstSeen, time, h⟩])
  | d, _ => d

/-- Points in the order of their attributes. -/
def sortPoints {α : Type} (attributes : α → Attributes) (l : List α) : List α :=
  l.mergeSort fun a b => ((attributes a).order (attributes b)).isLE

def sorted : MetricData → MetricData
  | totals points => totals (sortPoints (·.attributes) points)
  | histograms points => histograms (sortPoints (·.attributes) points)

end MetricData

namespace Aggregation

/-- Metrics under way, each with the instrument of its first series. -/
abbrev Metrics := List (MetricKey × Instrument × MetricData)

/-- Adds the point of a series to the metric of its instrument, which it starts where there is
none. -/
def addToMetrics (start : Option Timestamp) (time : Timestamp) (s : Series) (metrics : Metrics) :
    Metrics :=
  Sorted.upsert MetricKey.order s.instrument.metricKey (s.instrument, .fresh s.data)
    (fun (i, data) => (i, data.add start time s)) metrics

/-- Adds the point of a series under the scope of its instrument. -/
def addToScopes (start : Option Timestamp) (time : Timestamp) (s : Series)
    (scopes : List (Scope × Metrics)) : List (Scope × Metrics) :=
  Sorted.upsert Scope.order s.instrument.scope [] (addToMetrics start time s) scopes

/-- The batch of an aggregation: scopes, metrics and points in order, and every point from
`start`, or else from when its series was first seen, to `time`. -/
def toBatch (a : Aggregation) (resource : Resource) (temporality : Temporality)
    (start : Option Timestamp) (time : Timestamp) : Batch :=
  let scopes := a.series.foldl (fun scopes s => addToScopes start time s scopes) []
  ⟨resource, scopes.map fun (scope, metrics) =>
    ⟨scope, metrics.map fun (_, i, data) => ⟨i, temporality, data.sorted⟩⟩⟩

end Aggregation
end Telemetry
