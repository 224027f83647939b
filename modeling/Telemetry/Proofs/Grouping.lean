import Mathlib.Data.List.Forall2
import Telemetry.Proofs.Batch

/-! How a batch groups the series of an aggregation. Every series has one point, in the metric of
its instrument, which is listed under the instrument's scope; scopes and metrics are in order, none
of them is empty, and the order in which the series come plays no part. Main result:
`toBatch_grouped`. -/
namespace Telemetry

def MetricData.kind : MetricData → InstrumentKind
  | totals _ => .counter
  | histograms _ => .histogram

@[simp] theorem SeriesData.kind_merge (d other : SeriesData) : (d.merge other).kind = d.kind := by
  cases d <;> cases other <;> rfl

/-- Metrics alike up to the order of their points. -/
structure Metric.SamePoints (m n : Metric) : Prop where
  instrument : m.instrument = n.instrument
  temporality : m.temporality = n.temporality
  kind : m.data.kind = n.data.kind
  points : m.points.Perm n.points

/-- Batches alike up to the order of the points in each metric. -/
structure Batch.SamePoints (b c : Batch) : Prop where
  resource : b.resource = c.resource
  scopes : List.Forall₂ (fun x y => x.scope = y.scope ∧
    List.Forall₂ Metric.SamePoints x.metrics y.metrics) b.scopes c.scopes

namespace Aggregation

theorem mem_upsert {a : Aggregation} {s t : Series} {f : Series → Series}
    (hf : ∀ u, (f u).key = u.key) (member : t ∈ (a.upsert s f hf).series) :
    t ∈ a.series ∨ t = s ∨ ∃ u ∈ a.series, t = f u := by
  unfold upsert at member
  split at member
  · obtain ⟨u, known, rfl⟩ := List.mem_map.mp member
    split
    · exact .inr (.inr ⟨u, known, rfl⟩)
    · exact .inl known
  · rcases List.mem_append.mp member with known | new
    · exact .inl known
    · exact .inr (.inl (List.mem_singleton.mp new))

section Drawn

variable {ms ns : List Measurement} {a b running : Aggregation} {limit : Nat}

theorem DrawnFrom.mono (drawn : a.DrawnFrom ms) (fewer : ms ⊆ ns) : a.DrawnFrom ns := by
  intro s member
  obtain ⟨m, source, same⟩ := drawn s member
  exact ⟨m, fewer source, same⟩

theorem DrawnFrom.push (drawn : a.DrawnFrom ms) (m : Measurement) :
    (a.push m).DrawnFrom (ms ++ [m]) := by
  have before := drawn.mono (List.subset_append_left ms [m])
  intro t member
  rcases mem_upsert (fun u => Series.key_record u m.value) member with known | rfl | ⟨u, known, rfl⟩
  · exact before t known
  · exact ⟨m, by simp, rfl, by simp [Series.record, Series.start]⟩
  · obtain ⟨n, source, instrument, kind⟩ := before u known
    exact ⟨n, source, instrument, (SeriesData.kind_record u.data m.value).trans kind⟩

theorem drawnFrom_mergeSeries {s : Series} {dropped : Nat} (drawn : running.DrawnFrom ms)
    (own : ∃ m ∈ ms, s.instrument = m.instrument ∧ s.data.kind = m.value.kind) :
    (mergeSeries limit (running, dropped) s).1.DrawnFrom ms := by
  by_cases room : (running.contains s.key || running.size < limit) = true
  · rw [mergeSeries, if_pos room]
    intro t member
    rcases mem_upsert (fun u => Series.key_merge u s) member with known | rfl | ⟨u, known, rfl⟩
    · exact drawn t known
    · exact own
    · obtain ⟨n, source, instrument, kind⟩ := drawn u known
      exact ⟨n, source, instrument, (SeriesData.kind_merge u.data s.data).trans kind⟩
  · rw [mergeSeries, if_neg room]
    exact drawn

theorem drawnFrom_mergeInto (drawn : a.DrawnFrom ms) (others : running.DrawnFrom ms) :
    (a.mergeInto running limit).1.DrawnFrom ms := by
  have all (l : List Series) : ∀ start : Aggregation × Nat, start.1.DrawnFrom ms → l ⊆ a.series →
      (l.foldl (mergeSeries limit) start).1.DrawnFrom ms := by
    induction l with
    | nil => exact fun start held _ => held
    | cons s rest ih =>
      intro start held part
      obtain ⟨here, later⟩ := List.cons_subset.mp part
      exact ih _ (drawnFrom_mergeSeries held (drawn s here)) later
  exact all a.series (running, 0) others (List.Subset.refl _)

end Drawn

/-- Aggregations that the measurements of instruments, which take values of their own kind only,
come to by pushes and merges. Their series may come in any order, and with any window. -/
inductive Built : List Measurement → Aggregation → Prop where
  | empty : Built [] empty
  | push {ms a m} : Built ms a → m.value.kind = m.instrument.kind → Built (ms ++ [m]) (a.push m)
  | merge {ms ns a running} (limit : Nat) : Built ms a → Built ns running →
      Built (ns ++ ms) (a.mergeInto running limit).1
  | reorder {ms a b} : Built ms a → b.series.Perm a.series → Built ms b

namespace Built

variable {ms : List Measurement} {a : Aggregation}

theorem kind (built : Built ms a) : ∀ m ∈ ms, m.value.kind = m.instrument.kind := by
  induction built with
  | empty => simp
  | push _ fits ih =>
    intro m member
    rcases List.mem_append.mp member with before | last
    · exact ih m before
    · rw [List.mem_singleton.mp last]
      exact fits
  | merge limit _ _ first second =>
    intro m member
    rcases List.mem_append.mp member with running | merged
    · exact second m running
    · exact first m merged
  | reorder _ _ ih => exact ih

theorem drawnFrom (built : Built ms a) : a.DrawnFrom ms := by
  induction built with
  | empty =>
    intro s member
    cases member
  | push _ _ ih => exact ih.push _
  | merge limit _ _ first second =>
    exact drawnFrom_mergeInto (first.mono (List.subset_append_right _ _))
      (second.mono (List.subset_append_left _ _))
  | reorder _ same ih => exact fun s member => ih s (same.subset member)

theorem uniform (built : Built ms a) (instrument : ∀ m ∈ ms, ∀ n ∈ ms,
    m.instrument.id = n.instrument.id → m.instrument = n.instrument) : a.Uniform :=
  built.drawnFrom.uniform ⟨instrument, built.kind⟩

end Built

section Groups

variable (temporality : Temporality) (start : Option Timestamp) (time : Timestamp)
  {a b : Aggregation} {l l' : List Series}

/-- The metric of a part of the series: it has the points of all of them that are its
instrument's, and no others. -/
structure Shows (l : List Series) (m : Metric) : Prop where
  temporality : m.temporality = temporality
  kind : m.data.kind = m.instrument.kind
  source : ∃ s ∈ l, s.instrument = m.instrument
  points : m.points.Perm
    ((l.filter (·.instrument = m.instrument)).map (Series.point start time))

theorem kind_metricOf (first : Series) (all : List Series) :
    (metricOf temporality start time first all).data.kind = first.data.kind := by
  unfold metricOf
  cases first.data <;> rfl

/-- Where an id stands for one instrument, series of one metric are those of one instrument. -/
theorem filter_metricKey (uniform : a.Uniform) (part : l ⊆ a.series) {first : Series}
    (member : first ∈ l) : l.filter (·.instrument.metricKey = first.instrument.metricKey) =
      l.filter (·.instrument = first.instrument) := by
  refine List.filter_congr fun s hs => ?_
  rw [decide_eq_decide]
  constructor
  · intro same
    exact uniform.instrument s (part hs) first (part member) (congrArg MetricKey.id same)
  · intro same
    rw [same]

/-- The metric at a place of the list of keys. -/
theorem metricOf_group (uniform : a.Uniform) (part : l ⊆ a.series) {key : MetricKey}
    {first : Series} {rest : List Series}
    (group : l.filter (·.instrument.metricKey = key) = first :: rest) :
    first ∈ l ∧ first.instrument.metricKey = key ∧
      Shows temporality start time l (metricOf temporality start time first (first :: rest)) := by
  have head : first ∈ l.filter (·.instrument.metricKey = key) := by simp [group]
  obtain ⟨member, own⟩ := List.mem_filter.mp head
  rw [decide_eq_true_eq] at own
  refine ⟨member, own, rfl, ?_, ⟨first, member, rfl⟩, ?_⟩
  · rw [kind_metricOf]
    exact uniform.kind first (part member)
  · rw [← own, filter_metricKey uniform part member] at group
    have same (s : Series) (hs : s ∈ first :: rest) : s.instrument = first.instrument := by
      rw [← group] at hs
      exact of_decide_eq_true (List.mem_filter.mp hs).2
    have inside (s : Series) (hs : s ∈ first :: rest) : s ∈ a.series := by
      rw [← group] at hs
      exact part (List.mem_filter.mp hs).1
    have points := points_metricOf temporality start time first (l := first :: rest)
      (fun s hs => by rw [uniform.kind s (inside s hs), uniform.kind first (part member), same s hs])
      fun s hs => congrArg Instrument.id (same s hs)
    rw [← group] at points ⊢
    exact points

theorem map_key_metricsOf : (metricsOf temporality start time l).map (·.instrument.metricKey) =
    Sorted.distinct MetricKey.order (l.map (·.instrument.metricKey)) := by
  refine (map_filterMap_eq fun key known => ?_).trans (List.map_id _)
  obtain ⟨s, member, own⟩ := List.mem_map.mp (Sorted.mem_distinct.mp known)
  have grouped : s ∈ l.filter (·.instrument.metricKey = key) := by simp [member, own]
  cases group : l.filter (·.instrument.metricKey = key) with
  | nil =>
    rw [group] at grouped
    cases grouped
  | cons first rest =>
    have head : first ∈ l.filter (·.instrument.metricKey = key) := by simp [group]
    exact congrArg some (of_decide_eq_true (List.mem_filter.mp head).2)

theorem shows_metricsOf (uniform : a.Uniform) (part : l ⊆ a.series) :
    ∀ m ∈ metricsOf temporality start time l, Shows temporality start time l m := by
  intro m member
  obtain ⟨key, known, made⟩ := List.mem_filterMap.mp member
  cases group : l.filter (·.instrument.metricKey = key) with
  | nil => simp [group] at made
  | cons first rest =>
    rw [group] at made
    cases made
    exact (metricOf_group temporality start time uniform part group).2.2

theorem Shows.samePoints {m n : Metric} (left : Shows temporality start time l m)
    (right : Shows temporality start time l' n) (same : l.Perm l')
    (instrument : m.instrument = n.instrument) : m.SamePoints n where
  instrument := instrument
  temporality := left.temporality.trans right.temporality.symm
  kind := by rw [left.kind, right.kind, instrument]
  points := by
    have own := right.points
    rw [← instrument] at own
    exact left.points.trans (((same.filter _).map _).trans own.symm)

theorem metricsOf_perm (uniform : a.Uniform) (part : l ⊆ a.series) (same : l.Perm l') :
    List.Forall₂ Metric.SamePoints (metricsOf temporality start time l)
      (metricsOf temporality start time l') := by
  have part' : l' ⊆ a.series := fun s hs => part (same.mem_iff.mpr hs)
  unfold metricsOf
  rw [Sorted.distinct_perm (same.map (·.instrument.metricKey))]
  refine List.rel_filterMap (R := Eq) ?_ (List.forall₂_refl _)
  rintro key _ rfl
  have groups := same.filter fun s => decide (s.instrument.metricKey = key)
  cases group : l.filter (·.instrument.metricKey = key) with
  | nil =>
    rw [group] at groups
    simp only [group, groups.symm.eq_nil]
    exact .none
  | cons first rest =>
    cases group' : l'.filter (·.instrument.metricKey = key) with
    | nil =>
      rw [group, group'] at groups
      cases groups.eq_nil
    | cons first' rest' =>
      obtain ⟨member, own, shows⟩ := metricOf_group temporality start time uniform part group
      obtain ⟨member', own', shows'⟩ := metricOf_group temporality start time uniform part' group'
      have instrument := uniform.instrument first (part member) first' (part' member')
        (congrArg MetricKey.id (own.trans own'.symm))
      simp only [group, group']
      exact .some (shows.samePoints temporality start time shows' same instrument)

/-- The series that are listed in another order make the same batch, up to the order of points. -/
theorem toBatch_perm (uniform : a.Uniform) (same : b.series.Perm a.series) (resource : Resource) :
    (b.toBatch resource temporality start time).SamePoints
      (a.toBatch resource temporality start time) := by
  rw [toBatch_eq, toBatch_eq]
  refine ⟨rfl, ?_⟩
  unfold Scope.sortDistinct
  rw [Sorted.distinct_perm (same.map (·.instrument.scope)), List.forall₂_map_left_iff,
    List.forall₂_map_right_iff, List.forall₂_same]
  intro scope _
  refine ⟨rfl, metricsOf_perm temporality start time uniform ?_ (same.filter _)⟩
  exact fun s hs => same.subset (List.mem_filter.mp hs).1

/-- What a batch lists under one scope. -/
theorem mem_scopes {resource : Resource} {x : ScopeMetrics} :
    x ∈ (a.toBatch resource temporality start time).scopes ↔
      (∃ s ∈ a.series, s.instrument.scope = x.scope) ∧
        x.metrics = metricsOf temporality start time
          (a.series.filter (·.instrument.scope = x.scope)) := by
  simp only [toBatch_eq, List.mem_map, Scope.sortDistinct, Sorted.mem_distinct]
  constructor
  · rintro ⟨scope, known, rfl⟩
    exact ⟨known, rfl⟩
  · rintro ⟨known, metrics⟩
    exact ⟨x.scope, known, by rw [← metrics]⟩

/-- A metric of the series of one scope has the points of all series of its instrument. -/
theorem Shows.of_scope {scope : Scope} {m : Metric}
    (shows : Shows temporality start time (a.series.filter (·.instrument.scope = scope)) m) :
    m.instrument.scope = scope ∧ m.points ≠ [] ∧ Shows temporality start time a.series m := by
  obtain ⟨s, member, own⟩ := shows.source
  obtain ⟨known, inside⟩ := List.mem_filter.mp member
  have same : m.instrument.scope = scope := own ▸ of_decide_eq_true inside
  have whole : (a.series.filter (·.instrument.scope = scope)).filter
      (·.instrument = m.instrument) = a.series.filter (·.instrument = m.instrument) := by
    rw [List.filter_filter]
    refine List.filter_congr fun t _ => ?_
    by_cases here : t.instrument = m.instrument
    · simp [here, same]
    · simp [here]
  have points := shows.points
  rw [whole] at points
  refine ⟨same, fun none => ?_, shows.temporality, shows.kind, ⟨s, known, own⟩, points⟩
  have listed : s ∈ a.series.filter (·.instrument = m.instrument) := by simp [known, own]
  rw [none] at points
  rw [List.map_eq_nil_iff.mp points.symm.eq_nil] at listed
  cases listed

theorem exists_metric (uniform : a.Uniform) {resource : Resource} {x : ScopeMetrics}
    (listed : x ∈ (a.toBatch resource temporality start time).scopes) {s : Series}
    (member : s ∈ a.series) (own : s.instrument.scope = x.scope) :
    ∃ m ∈ x.metrics, m.instrument = s.instrument := by
  have metrics := ((mem_scopes temporality start time).mp listed).2
  have known : s.instrument.metricKey ∈ x.metrics.map (·.instrument.metricKey) := by
    rw [metrics, map_key_metricsOf, Sorted.mem_distinct]
    exact List.mem_map_of_mem (List.mem_filter.mpr ⟨member, by simp [own]⟩)
  obtain ⟨m, placed, key⟩ := List.mem_map.mp known
  rw [metrics] at placed
  obtain ⟨t, source, same⟩ := (shows_metricsOf temporality start time uniform
    (List.filter_subset_self _) m placed).source
  refine ⟨m, metrics ▸ placed, ?_⟩
  rw [← same]
  exact uniform.instrument t (List.mem_filter.mp source).1 s member
    (by rw [same]; exact congrArg MetricKey.id key)

theorem pairwise_scopes (a : Aggregation) (resource : Resource) :
    (a.toBatch resource temporality start time).scopes.Pairwise
      (fun x y => Scope.order x.scope y.scope = .lt) := by
  rw [toBatch_eq, List.pairwise_map]
  exact @Sorted.pairwise_distinct _ Scope.order _ _ _

theorem pairwise_metrics {resource : Resource} {x : ScopeMetrics}
    (listed : x ∈ (a.toBatch resource temporality start time).scopes) :
    x.metrics.Pairwise fun m n =>
      MetricKey.order m.instrument.metricKey n.instrument.metricKey = .lt := by
  rw [((mem_scopes temporality start time).mp listed).2]
  have sorted := @Sorted.pairwise_distinct _ MetricKey.order _ _
    ((a.series.filter (·.instrument.scope = x.scope)).map (·.instrument.metricKey))
  rw [← map_key_metricsOf temporality start time] at sorted
  exact List.pairwise_map.mp sorted

end Groups

/-- The batch of an aggregation that measurements of instruments came to, with whatever start and
end, has one point for each series and no others. Each metric has the points of its instrument's
series, of which there are some, and stands under the instrument's scope. Every series has its
metric. Scopes are in order, without repetition, and so are the metrics of each, which are there.
In another order of the series it is the same batch, up to the order of points in a metric. -/
theorem toBatch_grouped {ms : List Measurement} {a : Aggregation} (built : Built ms a)
    (instrument : ∀ m ∈ ms, ∀ n ∈ ms, m.instrument.id = n.instrument.id → m.instrument = n.instrument)
    (resource : Resource) (temporality : Temporality) (start : Option Timestamp)
    (time : Timestamp) :
    let batch := a.toBatch resource temporality start time
    batch.points.Perm (a.series.map (Series.point start time)) ∧
      (∀ x ∈ batch.scopes, x.metrics ≠ [] ∧ ∀ m ∈ x.metrics,
        m.instrument.scope = x.scope ∧ m.points ≠ [] ∧ Shows temporality start time a.series m) ∧
      (∀ s ∈ a.series, ∃ x ∈ batch.scopes, x.scope = s.instrument.scope ∧
        ∃ m ∈ x.metrics, m.instrument = s.instrument) ∧
      batch.scopes.Pairwise (fun x y => Scope.order x.scope y.scope = .lt) ∧
      (∀ x ∈ batch.scopes, x.metrics.Pairwise fun m n =>
        MetricKey.order m.instrument.metricKey n.instrument.metricKey = .lt) ∧
      ∀ b : Aggregation, b.series.Perm a.series →
        (b.toBatch resource temporality start time).SamePoints batch := by
  intro batch
  have uniform := built.uniform instrument
  refine ⟨points_toBatch temporality start time uniform resource, ?_, ?_,
    pairwise_scopes temporality start time a resource, fun x => pairwise_metrics temporality start time,
    fun b same => toBatch_perm temporality start time uniform same resource⟩
  · intro x listed
    obtain ⟨⟨s, member, own⟩, metrics⟩ := (mem_scopes temporality start time).mp listed
    constructor
    · obtain ⟨m, placed, _⟩ := exists_metric temporality start time uniform listed member own
      exact List.ne_nil_of_mem placed
    · intro m placed
      rw [metrics] at placed
      exact (shows_metricsOf temporality start time uniform (List.filter_subset_self _) m
        placed).of_scope temporality start time
  · intro s member
    have listed : (⟨s.instrument.scope, metricsOf temporality start time
        (a.series.filter (·.instrument.scope = s.instrument.scope))⟩ : ScopeMetrics) ∈
        batch.scopes := (mem_scopes temporality start time).mpr ⟨⟨s, member, rfl⟩, rfl⟩
    exact ⟨_, listed, rfl, exists_metric temporality start time uniform listed member rfl⟩

def loaded (id : Nat) (version : Option String) (v : MeasuredValue) : Measurement :=
  ⟨⟨id, "load", v.kind, none, none, ⟨"app", version⟩, none⟩, v, .empty, ⟨.ofSeconds id⟩⟩

/-- Instruments of one name in two scopes of one name. -/
def loads : List Measurement :=
  [loaded 2 none (.increment 1), loaded 1 (some "1") (.observation .zero), loaded 0 none (.increment 1)]

theorem toBatch_grouped_loads :
    let a : Aggregation := (Channel.fill (loads.take 2) : Aggregation)
    let whole := ((Channel.fill (loads.drop 2) : Aggregation).mergeInto a 8).1
    let batch := whole.toBatch .default .delta none ⟨.ofSeconds 9⟩
    batch.points.length = 3 ∧ ∀ x ∈ batch.scopes, x.metrics ≠ [] := by
  intro a whole batch
  have first : Built (loads.take 2) a := .push (.push .empty rfl) rfl
  have built : Built loads whole := .merge 8 (.push .empty rfl) first
  obtain ⟨points, scopes, _⟩ := toBatch_grouped built (by decide) .default .delta none ⟨.ofSeconds 9⟩
  refine ⟨points.length_eq.trans ?_, fun x listed => (scopes x listed).1⟩
  rw [List.length_map]
  decide

end Aggregation
end Telemetry
