import Telemetry.Proofs.Aggregation.Fill
import Telemetry.Proofs.Binary64

/-! What the data of a series shows of its measurements: a saturating sum, or the bucket counts,
the number, the least and the greatest value. Main results: `Series.shows_gathered` for
measurements folded in one by one, and `Series.Shows.merge` for windows merged. -/
namespace Telemetry

namespace HistogramState

/-- How many of the values lie in each bucket, as 64-bit counts. -/
def bucketed (edges xs : List Binary64) : List UInt64 :=
  (List.range (edges.length + 1)).map fun i => UInt64.ofNat (xs.countP (bucketOf edges · = i))

/-- The histogram is that of the values, up to the rounding of their sum. -/
structure Shows (edges xs : List Binary64) (h : HistogramState) : Prop where
  bounds : h.bounds = edges
  bucketCounts : h.bucketCounts = bucketed edges xs
  count : h.count = UInt64.ofNat xs.length
  min : h.min = xs.foldl Binary64.min .infinity
  max : h.max = xs.foldl Binary64.max .negativeInfinity

theorem modify_map_range (f : Nat → UInt64) (n j : Nat) :
    ((List.range n).map f).modify j (· + 1) =
      (List.range n).map fun i => if j = i then f i + 1 else f i := by
  refine List.ext_getElem? fun i => ?_
  rw [List.getElem?_modify]
  by_cases inside : i < n
  · by_cases here : j = i <;> simp [inside, here]
  · simp [inside]

theorem addCounts_map (f g : Nat → UInt64) (l : List Nat) :
    addCounts (l.map f) (l.map g) = l.map fun i => f i + g i := by
  induction l with
  | nil => rfl
  | cons i rest ih => simp [addCounts, ih]

theorem shows_empty (edges : List Binary64) : (empty edges).Shows edges [] where
  bounds := rfl
  bucketCounts := by simp [empty, bucketed, List.map_const']
  count := rfl
  min := rfl
  max := rfl

variable {edges xs ys : List Binary64} {h other : HistogramState}

theorem Shows.record (shows : h.Shows edges xs) (x : Binary64) :
    (h.record x).Shows edges (xs ++ [x]) where
  bounds := shows.bounds
  bucketCounts := by
    simp only [HistogramState.record, shows.bucketCounts, shows.bounds, bucketed, modify_map_range]
    refine List.map_congr_left fun i _ => ?_
    by_cases here : bucketOf edges x = i <;> simp [here]
  count := by simp [HistogramState.record, shows.count]
  min := by simp [HistogramState.record, shows.min]
  max := by simp [HistogramState.record, shows.max]

theorem Shows.merge (shows : h.Shows edges xs) (others : other.Shows edges ys) :
    (h.merge other).Shows edges (xs ++ ys) where
  bounds := shows.bounds
  bucketCounts := by
    simp only [HistogramState.merge, shows.bucketCounts, others.bucketCounts, bucketed, addCounts_map]
    simp
  count := by simp [HistogramState.merge, shows.count, others.count]
  min := by
    simp only [HistogramState.merge, shows.min, others.min, List.foldl_append]
    exact (Binary64.foldl_min (Binary64.isNaN_foldl_min (by decide) xs) ys).symm
  max := by
    simp only [HistogramState.merge, shows.max, others.max, List.foldl_append]
    exact (Binary64.foldl_max (Binary64.isNaN_foldl_max (by decide) xs) ys).symm

end HistogramState

/-- The data of a series of the instrument shows the measurements. -/
def SeriesData.Shows (i : Instrument) (ms : List Measurement) : SeriesData → Prop
  | total n => i.kind = .counter ∧ n.toNat = min (Measurement.sum ms) 0xFFFFFFFFFFFFFFFF
  | histogram h => i.kind = .histogram ∧ h.Shows (i.boundaries.getD []) (Measurement.observations ms)

namespace SeriesData

variable {i : Instrument} {ms ns : List Measurement} {d other : SeriesData}

theorem Shows.kind (shows : d.Shows i ms) : d.kind = i.kind := by
  cases d with
  | total n => exact shows.1.symm
  | histogram h => exact shows.1.symm

theorem Shows.added (shows : d.Shows i ms) (counter : d.kind = .counter) :
    d.added = min (Measurement.sum ms) 0xFFFFFFFFFFFFFFFF := by
  cases d with
  | total n => exact shows.2
  | histogram h => cases counter

theorem Shows.count (shows : d.Shows i ms) (histogram : d.kind = .histogram) :
    d.count = (Measurement.observations ms).length % 2 ^ 64 := by
  cases d with
  | total n => cases histogram
  | histogram h => simp [SeriesData.count, shows.2.count]

theorem shows_initial {v : MeasuredValue} (fits : v.kind = i.kind) :
    (initial i.boundaries v).Shows i [] := by
  cases v with
  | increment n => exact ⟨fits.symm, rfl⟩
  | observation x => exact ⟨fits.symm, HistogramState.shows_empty _⟩

theorem Shows.record {m : Measurement} (shows : d.Shows i ms) (fits : m.value.kind = i.kind) :
    (d.record m.value).Shows i (ms ++ [m]) := by
  cases d with
  | total n =>
    obtain ⟨counter, total⟩ := shows
    cases value : m.value with
    | increment k =>
      refine ⟨counter, ?_⟩
      have one : Measurement.sum [m] = k.toNat := by simp [Measurement.sum, Measurement.added, value]
      rw [toNat_saturatingAdd, total, Measurement.sum_append, one]
      omega
    | observation x => simp [value, MeasuredValue.kind, counter] at fits
  | histogram h =>
    obtain ⟨histogram, shows⟩ := shows
    cases value : m.value with
    | increment k => simp [value, MeasuredValue.kind, histogram] at fits
    | observation x =>
      refine ⟨histogram, ?_⟩
      have one : Measurement.observations [m] = [x] := by
        simp [Measurement.observations, Measurement.observed?, value]
      rw [Measurement.observations_append, one]
      exact shows.record x

theorem Shows.recordAll (shows : d.Shows i ns) (fits : ∀ m ∈ ms, m.value.kind = i.kind) :
    (d.recordAll ms).Shows i (ns ++ ms) := by
  induction ms generalizing d ns with
  | nil => simpa [SeriesData.recordAll] using shows
  | cons m rest ih =>
    have one := shows.record (fits m List.mem_cons_self)
    have all := ih one fun n hn => fits n (List.mem_cons_of_mem m hn)
    rwa [List.append_assoc] at all

theorem Shows.merge (shows : d.Shows i ms) (others : other.Shows i ns) :
    (d.merge other).Shows i (ms ++ ns) := by
  cases d with
  | total n =>
    cases other with
    | total m =>
      refine ⟨shows.1, ?_⟩
      rw [toNat_saturatingAdd, shows.2, others.2, Measurement.sum_append]
      omega
    | histogram h => cases shows.1.symm.trans others.1
  | histogram h =>
    cases other with
    | total m => cases shows.1.symm.trans others.1
    | histogram h' =>
      refine ⟨shows.1, ?_⟩
      rw [Measurement.observations_append]
      exact shows.2.merge others.2

end SeriesData

/-- The series shows the measurements, of which there are some and which are all its
instrument's. -/
structure Series.Shows (ms : List Measurement) (s : Series) : Prop where
  nonempty : ms ≠ []
  instrument : ∀ m ∈ ms, m.instrument = s.instrument
  data : s.data.Shows s.instrument ms

namespace Series

theorem shows_gathered {ms : List Measurement} (genuine : Measurement.Genuine ms) {k : SeriesKey}
    {s : Series} (gathered : gathered? (Measurement.ofSeries k ms) = some s) :
    s.Shows (Measurement.ofSeries k ms) := by
  cases listed : Measurement.ofSeries k ms with
  | nil => simp [listed, gathered?] at gathered
  | cons m rest =>
    have part : ∀ n ∈ m :: rest, n ∈ ms ∧ n.key = k := by
      intro n hn
      rw [← listed] at hn
      simpa [Measurement.ofSeries] using hn
    have head := part m List.mem_cons_self
    have instrument : ∀ n ∈ m :: rest, n.instrument = m.instrument := fun n hn =>
      genuine.instrument n (part n hn).1 m head.1
        (congrArg SeriesKey.instrument ((part n hn).2.trans head.2.symm))
    have fits : ∀ n ∈ m :: rest, n.value.kind = m.instrument.kind := fun n hn =>
      (genuine.kind n (part n hn).1).trans (congrArg Instrument.kind (instrument n hn))
    rw [listed] at gathered
    cases gathered
    refine ⟨List.cons_ne_nil m rest, instrument, ?_⟩
    exact (SeriesData.shows_initial (fits m List.mem_cons_self)).recordAll fits

variable {ms ns : List Measurement} {s t : Series}

theorem Shows.same_instrument (shows : s.Shows ms) (later : t.Shows (ms ++ ns)) :
    s.instrument = t.instrument := by
  obtain ⟨m, hm⟩ := List.exists_mem_of_ne_nil _ shows.nonempty
  rw [← shows.instrument m hm, ← later.instrument m (List.mem_append_left _ hm)]

/-- Totals never go back. -/
theorem Shows.added_le (shows : s.Shows ms) (later : t.Shows (ms ++ ns)) :
    s.data.added ≤ t.data.added := by
  have first := shows.data.kind
  have second := later.data.kind
  rw [← shows.same_instrument later] at second
  cases kind : s.instrument.kind with
  | counter =>
    rw [shows.data.added (first.trans kind), later.data.added (second.trans kind),
      Measurement.sum_append]
    omega
  | histogram =>
    cases data : s.data with
    | total n => simp [data, SeriesData.kind, kind] at first
    | histogram h => exact Nat.zero_le _

/-- Neither do the counts of histograms, as long as they fit 64 bits. -/
theorem Shows.count_le (shows : s.Shows ms) (later : t.Shows (ms ++ ns))
    (fits : (Measurement.observations (ms ++ ns)).length < 2 ^ 64) :
    s.data.count ≤ t.data.count := by
  have first := shows.data.kind
  have second := later.data.kind
  rw [← shows.same_instrument later] at second
  cases kind : s.instrument.kind with
  | counter =>
    cases data : s.data with
    | total n => exact Nat.zero_le _
    | histogram h => simp [data, SeriesData.kind, kind] at first
  | histogram =>
    rw [shows.data.count (first.trans kind), later.data.count (second.trans kind),
      Nat.mod_eq_of_lt fits]
    rw [Measurement.observations_append, List.length_append] at fits ⊢
    omega

theorem Shows.merge (shows : s.Shows ms) (others : t.Shows ns) (same : t.instrument = s.instrument) :
    (s.merge t).Shows (ms ++ ns) where
  nonempty := by simp [shows.nonempty]
  instrument m hm := by
    rcases List.mem_append.mp hm with first | second
    · exact shows.instrument m first
    · exact (others.instrument m second).trans same
  data := shows.data.merge (same ▸ others.data)

end Series
end Telemetry
