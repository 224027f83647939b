import Mathlib.Data.List.Perm.Basic
import Telemetry.Batch
import Telemetry.Proofs.Aggregation.Fill
import Telemetry.Proofs.Sorted

/-! What the batch of an aggregation shows. Read as points with their keys, it shows every series
once, wherever its scope, metric and attributes put it. Main result: `shown_toBatch`. -/
namespace Telemetry

open Std

/-- What a batch shows of one series. -/
structure Point where
  key : SeriesKey
  start : Timestamp
  time : Timestamp
  data : SeriesData
deriving DecidableEq

def Metric.points (m : Metric) : List Point :=
  match m.data with
  | .totals l => l.map fun p => ⟨⟨m.instrument.id, p.attributes⟩, p.start, p.time, .total p.value⟩
  | .histograms l =>
    l.map fun p => ⟨⟨m.instrument.id, p.attributes⟩, p.start, p.time, .histogram p.state⟩

def Batch.points (b : Batch) : List Point := b.metrics.flatMap Metric.points

/-- The points of one series. -/
def Batch.shown (b : Batch) (k : SeriesKey) : List Point := b.points.filter (·.key = k)

/-- The sum of what a batch shows of a counter's series. -/
def Batch.added (b : Batch) (k : SeriesKey) : Nat := ((b.shown k).map (·.data.added)).sum

/-- The number of values in what a batch shows of a histogram's series. -/
def Batch.count (b : Batch) (k : SeriesKey) : Nat := ((b.shown k).map (·.data.count)).sum

/-- A later point of a series: neither its total nor its start goes back. -/
structure Point.Continues (p q : Point) : Prop where
  added : p.data.added ≤ q.data.added
  start : q.start ≤ p.start

/-- What a batch shows of a series, as a point. -/
def Series.point (start : Option Timestamp) (time : Timestamp) (s : Series) : Point :=
  ⟨s.key, start.getD s.firstSeen, time, s.data⟩

theorem Scope.order_eq :
    Scope.order = compareLex (compareOn Scope.name) (compareOn Scope.version) := by
  have version : Scope.orderVersion = compare := by
    funext a b
    cases a <;> cases b <;> rfl
  funext a b
  simp [Scope.order, version, compareLex, compareOn]

instance : TransCmp Scope.order := Scope.order_eq ▸ inferInstance

instance : LawfulEqCmp Scope.order where
  eq_of_compare {a b} same := by
    simp only [Scope.order_eq, compareLex, compareOn, Ordering.then_eq_eq,
      LawfulEqOrd.compare_eq_iff_eq] at same
    cases a
    cases b
    simpa using same

theorem MetricKey.order_eq :
    MetricKey.order = compareLex (compareOn MetricKey.name) (compareOn MetricKey.id) := rfl

instance : TransCmp MetricKey.order := MetricKey.order_eq ▸ inferInstance

instance : LawfulEqCmp MetricKey.order where
  eq_of_compare {a b} same := by
    simp only [MetricKey.order_eq, compareLex, compareOn, Ordering.then_eq_eq,
      LawfulEqOrd.compare_eq_iff_eq] at same
    cases a
    cases b
    simpa using same

namespace Aggregation

variable (temporality : Temporality) (start : Option Timestamp) (time : Timestamp)

def totalPoint? (s : Series) : Option TotalPoint :=
  match s.data with
  | .total n => some ⟨s.attributes, start.getD s.firstSeen, time, n⟩
  | .histogram _ => none

def histogramPoint? (s : Series) : Option HistogramPoint :=
  match s.data with
  | .total _ => none
  | .histogram h => some ⟨s.attributes, start.getD s.firstSeen, time, h⟩

/-- The metric of the series of one instrument, of which `first` is the first. -/
def metricOf (first : Series) (all : List Series) : Metric :=
  let data := match first.data with
    | .total _ => .totals (MetricData.sortPoints (·.attributes) (all.filterMap (totalPoint? start time)))
    | .histogram _ =>
      .histograms (MetricData.sortPoints (·.attributes) (all.filterMap (histogramPoint? start time)))
  ⟨first.instrument, temporality, data⟩

/-- The metrics of the series of one scope. -/
def metricsOf (l : List Series) : List Metric :=
  (Sorted.distinct MetricKey.order (l.map (·.instrument.metricKey))).filterMap fun key =>
    match l.filter (·.instrument.metricKey = key) with
    | [] => none
    | first :: rest => some (metricOf temporality start time first (first :: rest))

theorem add_totals (points : List TotalPoint) (s : Series) :
    (MetricData.totals points).add start time s =
      .totals (points ++ (totalPoint? start time s).toList) := by
  cases data : s.data <;> simp [MetricData.add, totalPoint?, data]

theorem add_histograms (points : List HistogramPoint) (s : Series) :
    (MetricData.histograms points).add start time s =
      .histograms (points ++ (histogramPoint? start time s).toList) := by
  cases data : s.data <;> simp [MetricData.add, histogramPoint?, data]

theorem foldl_add_totals (points : List TotalPoint) (l : List Series) :
    l.foldl (fun (data : MetricData) s => data.add start time s) (.totals points) =
      .totals (points ++ l.filterMap (totalPoint? start time)) := by
  induction l generalizing points with
  | nil => rw [List.filterMap_nil, List.append_nil]; rfl
  | cons s rest ih =>
    rw [List.foldl_cons, add_totals, ih, List.filterMap_cons]
    cases totalPoint? start time s <;> simp

theorem foldl_add_histograms (points : List HistogramPoint) (l : List Series) :
    l.foldl (fun (data : MetricData) s => data.add start time s) (.histograms points) =
      .histograms (points ++ l.filterMap (histogramPoint? start time)) := by
  induction l generalizing points with
  | nil => rw [List.filterMap_nil, List.append_nil]; rfl
  | cons s rest ih =>
    rw [List.foldl_cons, add_histograms, ih, List.filterMap_cons]
    cases histogramPoint? start time s <;> simp

/-- A metric under way keeps the instrument of its first series. -/
theorem foldl_addTo (first : Instrument × MetricData) (l : List Series) :
    l.foldl (fun (p : Instrument × MetricData) s => (p.1, p.2.add start time s)) first =
      (first.1, l.foldl (fun data s => data.add start time s) first.2) := by
  induction l generalizing first with
  | nil => rfl
  | cons s rest ih => exact ih _

/-- Adding series one after the other makes the metrics of their instruments. -/
theorem metricsOf_eq (l : List Series) :
    ((l.foldl (fun metrics s => addToMetrics start time s metrics) []).map
      fun (_, i, data) => (⟨i, temporality, data.sorted⟩ : Metric)) =
      metricsOf temporality start time l := by
  unfold addToMetrics
  rw [Sorted.foldl_upsert MetricKey.order (fun s : Series => s.instrument.metricKey)
    (fun s => (s.instrument, MetricData.fresh s.data)) (fun s p => (p.1, p.2.add start time s)),
    List.map_filterMap, metricsOf]
  refine List.filterMap_congr fun key _ => ?_
  cases l.filter (·.instrument.metricKey = key) with
  | nil => rfl
  | cons first rest =>
    simp only [Sorted.gather, foldl_addTo, Option.map_some, metricOf]
    cases data : first.data with
    | total n => simp only [MetricData.fresh, foldl_add_totals, List.nil_append, MetricData.sorted]
    | histogram h =>
      simp only [MetricData.fresh, foldl_add_histograms, List.nil_append, MetricData.sorted]

/-- The batch groups the series by scope, and those of each scope by instrument. -/
theorem toBatch_eq (a : Aggregation) (resource : Resource) :
    a.toBatch resource temporality start time =
      ⟨resource, (Scope.sortDistinct (a.series.map (·.instrument.scope))).map fun scope =>
        ⟨scope, metricsOf temporality start time
          (a.series.filter (·.instrument.scope = scope))⟩⟩ := by
  simp only [toBatch, addToScopes]
  rw [Sorted.foldl_upsert Scope.order (fun s : Series => s.instrument.scope) (fun _ => [])
    (addToMetrics start time), List.map_filterMap]
  refine congrArg (Batch.mk resource) ?_
  refine .trans (List.filterMap_congr fun scope known => ?_) (congrFun List.filterMap_eq_map _)
  obtain ⟨s, member, own⟩ := List.mem_map.mp (Sorted.mem_distinct.mp known)
  have grouped : s ∈ a.series.filter (·.instrument.scope = scope) := by simp [member, own]
  simp only [Function.comp, ← metricsOf_eq]
  cases group : a.series.filter (·.instrument.scope = scope) with
  | nil =>
    rw [group] at grouped
    cases grouped
  | cons first rest => rfl

theorem map_filterMap_eq {α β γ : Type} {f : α → Option β} {g : β → γ} {h : α → γ} {l : List α}
    (each : ∀ x ∈ l, (f x).map g = some (h x)) : (l.filterMap f).map g = l.map h := by
  rw [List.map_filterMap, ← List.filterMap_eq_map]
  exact List.filterMap_congr each

/-- A metric shows the series of the kind of its first one. Others would be lost. -/
theorem points_metricOf_filter (first : Series) {l : List Series}
    (instrument : ∀ s ∈ l, s.instrument.id = first.instrument.id) :
    (metricOf temporality start time first l).points.Perm
      ((l.filter (·.data.kind = first.data.kind)).map (Series.point start time)) := by
  rw [← List.filterMap_eq_map, List.filterMap_filter]
  cases data : first.data with
  | total n =>
    simp only [metricOf, data, Metric.points, MetricData.sortPoints]
    refine ((List.mergeSort_perm _ _).map _).trans (.of_eq ?_)
    rw [List.map_filterMap]
    refine List.filterMap_congr fun s hs => ?_
    cases own : s.data with
    | total m => simp [totalPoint?, Series.point, Series.key, SeriesData.kind, own, instrument s hs]
    | histogram h => simp [totalPoint?, SeriesData.kind, own]
  | histogram h =>
    simp only [metricOf, data, Metric.points, MetricData.sortPoints]
    refine ((List.mergeSort_perm _ _).map _).trans (.of_eq ?_)
    rw [List.map_filterMap]
    refine List.filterMap_congr fun s hs => ?_
    cases own : s.data with
    | total m => simp [histogramPoint?, SeriesData.kind, own]
    | histogram h =>
      simp [histogramPoint?, Series.point, Series.key, SeriesData.kind, own, instrument s hs]

/-- The metric of an instrument shows each of its series. -/
theorem points_metricOf (first : Series) {l : List Series}
    (kind : ∀ s ∈ l, s.data.kind = first.data.kind)
    (instrument : ∀ s ∈ l, s.instrument.id = first.instrument.id) :
    (metricOf temporality start time first l).points.Perm (l.map (Series.point start time)) := by
  have shown := points_metricOf_filter temporality start time first instrument
  have all : l.filter (·.data.kind = first.data.kind) = l := by
    rw [List.filter_eq_self]
    intro s hs
    exact decide_eq_true (kind s hs)
  rwa [all] at shown

theorem points_metricsOf {a : Aggregation} (uniform : a.Uniform) {l : List Series}
    (part : l ⊆ a.series) :
    ((metricsOf temporality start time l).flatMap Metric.points).Perm
      (l.map (Series.point start time)) := by
  have groups := (Sorted.flatMap_filter_perm (fun s : Series => s.instrument.metricKey)
    (@Sorted.nodup_distinct _ MetricKey.order _ _ (l.map (·.instrument.metricKey)))
    fun s hs => Sorted.mem_distinct.mpr (List.mem_map_of_mem hs)).map (Series.point start time)
  refine .trans ?_ groups
  rw [metricsOf, List.filterMap_eq_flatMap_toList, List.flatMap_assoc, List.map_flatMap]
  refine List.Perm.flatMap_left _ fun key _ => ?_
  cases group : l.filter (fun s => s.instrument.metricKey = key) with
  | nil => simp
  | cons first rest =>
    have member : ∀ s ∈ first :: rest, s ∈ a.series ∧ s.instrument.metricKey = key := by
      intro s hs
      rw [← group, List.mem_filter, decide_eq_true_eq] at hs
      exact ⟨part hs.1, hs.2⟩
    have head := member first List.mem_cons_self
    have instrument : ∀ s ∈ first :: rest, s.instrument = first.instrument := fun s hs =>
      uniform.instrument s (member s hs).1 first head.1
        (congrArg MetricKey.id ((member s hs).2.trans head.2.symm))
    simp only [Option.toList_some, List.flatMap_cons, List.flatMap_nil, List.append_nil]
    refine points_metricOf temporality start time first (fun s hs => ?_)
      fun s hs => congrArg Instrument.id (instrument s hs)
    rw [uniform.kind s (member s hs).1, uniform.kind first head.1, instrument s hs]

/-- A batch shows every series of the aggregation once. -/
theorem points_toBatch {a : Aggregation} (uniform : a.Uniform) (resource : Resource) :
    (a.toBatch resource temporality start time).points.Perm
      (a.series.map (Series.point start time)) := by
  have groups := (Sorted.flatMap_filter_perm (fun s : Series => s.instrument.scope)
    (@Sorted.nodup_distinct _ Scope.order _ _ (a.series.map (·.instrument.scope)))
    fun s hs => Sorted.mem_distinct.mpr (List.mem_map_of_mem hs)).map (Series.point start time)
  refine .trans ?_ groups
  simp only [toBatch_eq, Batch.points, Batch.metrics, List.flatMap_map, List.flatMap_assoc,
    List.map_flatMap]
  exact List.Perm.flatMap_left _ fun scope _ =>
    points_metricsOf temporality start time uniform (List.filter_subset_self _)

/-- Every point of a batch over a window reaches from its start to its end. -/
theorem window_of_mem_points (a : Aggregation) (resource : Resource) (start : Timestamp) {p : Point}
    (member : p ∈ (a.toBatch resource temporality (some start) time).points) :
    p.start = start ∧ p.time = time := by
  simp only [Batch.points, Batch.metrics, toBatch_eq, List.mem_flatMap, List.mem_map] at member
  obtain ⟨m, ⟨_, ⟨scope, _, rfl⟩, listed⟩, shown⟩ := member
  obtain ⟨key, _, made⟩ := List.mem_filterMap.mp listed
  split at made
  · cases made
  · next first rest _ =>
    cases made
    simp only [Metric.points, metricOf] at shown
    cases data : first.data <;> simp only [data, List.mem_map] at shown
    · obtain ⟨q, sorted, rfl⟩ := shown
      obtain ⟨s, _, point⟩ := List.mem_filterMap.mp (List.mem_mergeSort.mp sorted)
      cases own : s.data <;> simp only [totalPoint?, own] at point
      all_goals cases point
      exact ⟨rfl, rfl⟩
    · obtain ⟨q, sorted, rfl⟩ := shown
      obtain ⟨s, _, point⟩ := List.mem_filterMap.mp (List.mem_mergeSort.mp sorted)
      cases own : s.data <;> simp only [histogramPoint?, own] at point
      all_goals cases point
      exact ⟨rfl, rfl⟩

/-- What a batch shows of a series is its point, where the aggregation has one. -/
theorem shown_toBatch {a : Aggregation} (uniform : a.Uniform) (resource : Resource) (k : SeriesKey) :
    (a.toBatch resource temporality start time).shown k =
      ((a.find? k).map (Series.point start time)).toList := by
  have all := (points_toBatch temporality start time uniform resource).filter (·.key = k)
  have own : (a.series.map (Series.point start time)).filter (·.key = k) =
      ((a.find? k).map (Series.point start time)).toList := by
    rw [List.filter_map]
    refine (congrArg _ (filter_key_eq a.keys_nodup k)).trans ?_
    rw [find?]
    cases a.series.find? (·.key == k) <;> rfl
  rw [own] at all
  cases found : a.find? k with
  | none => exact (found ▸ all).eq_nil
  | some s => exact (found ▸ all).eq_singleton

theorem added_toBatch {a : Aggregation} (uniform : a.Uniform) (resource : Resource) (k : SeriesKey) :
    (a.toBatch resource temporality start time).added k = a.added k := by
  rw [Batch.added, shown_toBatch temporality start time uniform, Aggregation.added]
  cases a.find? k <;> simp [Series.point]

theorem count_toBatch {a : Aggregation} (uniform : a.Uniform) (resource : Resource) (k : SeriesKey) :
    (a.toBatch resource temporality start time).count k = a.count k := by
  rw [Batch.count, shown_toBatch temporality start time uniform, Aggregation.count]
  cases a.find? k <;> simp [Series.point]

end Aggregation
end Telemetry
