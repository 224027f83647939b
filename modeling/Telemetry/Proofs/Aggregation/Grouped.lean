import Telemetry.Proofs.Aggregation.Buckets
import Telemetry.Proofs.Aggregation.Regrouping

/-! A window as the grouped fold of its measurements: one series for each key, which holds the
bounded sum or the histogram of that key's measurements, in whatever order they came. Main result:
`fill_grouped`. -/
namespace Telemetry

namespace Measurement

/-- Measurements of instruments that keep their promises: the values and bounds of histograms are
finite, the bounds increase, and no series has more values than 64 bits count. -/
structure Regular (ms : List Measurement) : Prop where
  genuine : Genuine ms
  finite : ∀ x ∈ observations ms, x.isFinite = true
  bounds : ∀ m ∈ ms, m.instrument.kind = .histogram → ∀ edges,
    m.instrument.boundaries = some edges → Increasing edges
  few : ∀ k, (ofSeries k ms).length < 2 ^ 64

variable {ms ns : List Measurement}

theorem ofSeries_perm (same : ms.Perm ns) (k : SeriesKey) :
    (ofSeries k ms).Perm (ofSeries k ns) := same.filter _

theorem sum_perm (same : ms.Perm ns) : sum ms = sum ns := (same.map added).sum_nat

theorem observations_perm (same : ms.Perm ns) : (observations ms).Perm (observations ns) :=
  same.filterMap _

theorem length_observations_le (ms : List Measurement) : (observations ms).length ≤ ms.length :=
  List.length_filterMap_le _ _

/-- Measurements of a histogram have values. -/
theorem observations_ne_nil {ms : List Measurement} (some : ms ≠ [])
    (histogram : ∀ m ∈ ms, m.value.kind = .histogram) : observations ms ≠ [] := by
  obtain ⟨m, member⟩ := List.exists_mem_of_ne_nil ms some
  have kind := histogram m member
  cases value : m.value with
  | increment n => simp [value, MeasuredValue.kind] at kind
  | observation x =>
    exact List.ne_nil_of_mem (List.mem_filterMap.mpr ⟨m, member, by rw [observed?, value]⟩)

end Measurement

/-- The series is the bounded sum, or the histogram, of measurements of its instrument. -/
def SeriesData.Totals (i : Instrument) (ms : List Measurement) : SeriesData → Prop
  | total n => i.kind = .counter ∧ n.toNat = min (Measurement.sum ms) 0xFFFFFFFFFFFFFFFF
  | histogram h =>
    i.kind = .histogram ∧ h.Tallies (i.boundaries.getD []) (Measurement.observations ms)

/-- The same data, up to the sum of a histogram and the sign of an extreme that is zero. -/
def SeriesData.Agrees : SeriesData → SeriesData → Prop
  | total n, total m => n = m
  | histogram g, histogram h => g.Agrees h
  | _, _ => False

structure Series.Agrees (s t : Series) : Prop where
  instrument : s.instrument = t.instrument
  attributes : s.attributes = t.attributes
  data : s.data.Agrees t.data

namespace SeriesData

variable {i : Instrument} {ms ns : List Measurement} {d e : SeriesData}

theorem Shows.totals (shows : d.Shows i ms) (countable : i.kind = .histogram →
    HistogramState.Countable (i.boundaries.getD []) (Measurement.observations ms)) :
    d.Totals i ms := by
  cases d with
  | total n => exact shows
  | histogram h =>
    exact ⟨shows.1, shows.2.tallies (countable shows.1)⟩

theorem Shows.agrees (left : d.Shows i ms) (right : e.Shows i ns) (same : ms.Perm ns)
    (countable : i.kind = .histogram →
      HistogramState.Countable (i.boundaries.getD []) (Measurement.observations ms)) :
    d.Agrees e := by
  cases d with
  | total n =>
    cases e with
    | total m =>
      apply UInt64.toNat_inj.mp
      rw [left.2, right.2, Measurement.sum_perm same]
    | histogram h => cases left.1.symm.trans right.1
  | histogram g =>
    cases e with
    | total m => cases left.1.symm.trans right.1
    | histogram h =>
      exact left.2.agrees right.2 (Measurement.observations_perm same) (countable left.1)

end SeriesData

namespace Series

variable {k : SeriesKey} {ms ns : List Measurement} {s t : Series}

theorem Shows.countable (shows : s.Shows (Measurement.ofSeries k ms))
    (regular : Measurement.Regular ms) (histogram : s.instrument.kind = .histogram) :
    HistogramState.Countable (s.instrument.boundaries.getD [])
      (Measurement.observations (Measurement.ofSeries k ms)) := by
  have part : Measurement.ofSeries k ms ⊆ ms := List.filter_subset_self _
  constructor
  · cases own : s.instrument.boundaries with
    | none => exact ⟨fun b member => absurd member List.not_mem_nil, .nil⟩
    | some edges =>
      obtain ⟨m, member⟩ := List.exists_mem_of_ne_nil _ shows.nonempty
      rw [← shows.instrument m member] at own histogram
      exact regular.bounds m (part member) histogram edges own
  · intro x member
    obtain ⟨m, source, value⟩ := List.mem_filterMap.mp member
    exact regular.finite x (List.mem_filterMap.mpr ⟨m, part source, value⟩)
  · apply Measurement.observations_ne_nil shows.nonempty
    intro m member
    rw [regular.genuine.kind m (part member), shows.instrument m member, histogram]
  · exact Nat.lt_of_le_of_lt (Measurement.length_observations_le _) (regular.few k)

/-- The order of the measurements does not matter to a series. -/
theorem Shows.agrees (left : s.Shows (Measurement.ofSeries k ms))
    (right : t.Shows (Measurement.ofSeries k ns)) (regular : Measurement.Regular ms)
    (same : ms.Perm ns) (key : s.key = t.key) : s.Agrees t := by
  have parts := Measurement.ofSeries_perm same k
  have instrument : s.instrument = t.instrument := by
    obtain ⟨m, member⟩ := List.exists_mem_of_ne_nil _ left.nonempty
    rw [← left.instrument m member, right.instrument m (parts.mem_iff.mp member)]
  have data := right.data
  rw [← instrument] at data
  exact ⟨instrument, congrArg SeriesKey.attributes key,
    left.data.agrees data parts (left.countable regular)⟩

end Series

namespace Aggregation

variable {ms ns : List Measurement}

theorem shows_of_mem_fill (genuine : Measurement.Genuine ms) {s : Series}
    (member : s ∈ (Channel.fill ms : Aggregation).series) :
    s.Shows (Measurement.ofSeries s.key ms) := by
  have found := find?_of_mem member
  rw [find?_fill] at found
  exact Series.shows_gathered genuine found

theorem find?_fill_agrees (regular : Measurement.Regular ms) (same : ms.Perm ns) {s : Series}
    (member : s ∈ (Channel.fill ms : Aggregation).series) :
    ∃ t, (Channel.fill ns : Aggregation).find? s.key = some t ∧ s.Agrees t := by
  have known : s.key ∈ (Channel.fill ns : Aggregation).keys := by
    rw [mem_keys_fill, ← (same.map _).mem_iff, ← mem_keys_fill]
    exact List.mem_map_of_mem member
  obtain ⟨t, found⟩ := mem_keys.mp known
  have own := find?_key found
  have left := shows_of_mem_fill regular.genuine member
  have genuine := regular.genuine.mono same.symm.subset
  have right := shows_of_mem_fill genuine (List.mem_of_find?_eq_some found)
  rw [own] at right
  exact ⟨t, found, left.agrees right regular same own.symm⟩

/-- An aggregation filled with measurements has exactly one series for each of their keys. A counter
holds the sum of its measurements, bounded by the largest count; a histogram counts its values by
bucket, and knows their number and extremes. Measurements in another order fill an aggregation of
the same series, up to when each was first seen, the sum of a histogram, and the sign of a least or
greatest value that is zero. -/
theorem fill_grouped (regular : Measurement.Regular ms) :
    let a : Aggregation := Channel.fill ms
    a.keys.Nodup ∧ (∀ k, k ∈ a.keys ↔ k ∈ ms.map Measurement.key) ∧
      (∀ s ∈ a.series, (∀ m ∈ Measurement.ofSeries s.key ms, m.instrument = s.instrument) ∧
        s.data.Totals s.instrument (Measurement.ofSeries s.key ms)) ∧
      ∀ ns, ms.Perm ns →
        let b : Aggregation := Channel.fill ns
        b.keys.Perm a.keys ∧ ∀ s ∈ a.series, ∃ t, b.find? s.key = some t ∧ s.Agrees t := by
  intro a
  refine ⟨a.keys_nodup, fun k => mem_keys_fill, ?_, ?_⟩
  · intro s member
    have shows := shows_of_mem_fill regular.genuine member
    exact ⟨shows.instrument, shows.data.totals (shows.countable regular)⟩
  · intro ns same b
    constructor
    · refine (List.perm_ext_iff_of_nodup b.keys_nodup a.keys_nodup).mpr fun k => ?_
      exact mem_keys_fill.trans ((same.symm.map _).mem_iff.trans mem_keys_fill.symm)
    · intro s member
      exact find?_fill_agrees regular same member

def weighed (x : Binary64) (seconds : Nat) : Measurement :=
  ⟨⟨1, "weight", .histogram, none, none, .ofName "test", some [.zero]⟩, .observation x, .empty,
    ⟨.ofSeconds seconds⟩⟩

/-- A counter that exceeds the largest count, and a histogram of the two zeros. -/
def mixed : List Measurement :=
  [sent 0xFFFFFFFFFFFFFFFF 1, weighed .zero 2, sent 1 3, weighed ⟨0x8000000000000000⟩ 4]

theorem regular_mixed : Measurement.Regular mixed where
  genuine := ⟨by decide, by decide⟩
  finite := by decide
  bounds := by
    have single : Increasing [.zero] := ⟨by decide, List.pairwise_singleton _ _⟩
    intro m member _ edges own
    simp only [mixed, List.mem_cons, List.not_mem_nil, or_false] at member
    rcases member with rfl | rfl | rfl | rfl
    · cases own
    · exact Option.some.inj own ▸ single
    · cases own
    · exact Option.some.inj own ▸ single
  few k := Nat.lt_of_le_of_lt (List.length_filter_le _ _) (by decide)

theorem fill_grouped_mixed :
    let a : Aggregation := Channel.fill mixed
    (∃ s n, a.find? ⟨0, .empty⟩ = some s ∧ s.data = .total n ∧ n.toNat = 0xFFFFFFFFFFFFFFFF) ∧
      ∃ s h, a.find? ⟨1, .empty⟩ = some s ∧ s.data = .histogram h ∧
        h.bucketCounts.length = 2 ∧ h.count.toNat = 2 := by
  intro a
  obtain ⟨_, known, holds, _⟩ := fill_grouped regular_mixed
  constructor
  · obtain ⟨s, found⟩ := mem_keys.mp ((known ⟨0, .empty⟩).mpr (by decide))
    obtain ⟨instrument, totals⟩ := holds s (List.mem_of_find?_eq_some found)
    rw [find?_key found] at instrument totals
    have kind := congrArg Instrument.kind (instrument (sent 1 3) (by decide))
    cases data : s.data with
    | total n =>
      rw [data] at totals
      exact ⟨s, n, found, data, totals.2.trans (by decide)⟩
    | histogram h =>
      rw [data] at totals
      cases kind.trans totals.1
  · obtain ⟨s, found⟩ := mem_keys.mp ((known ⟨1, .empty⟩).mpr (by decide))
    obtain ⟨instrument, totals⟩ := holds s (List.mem_of_find?_eq_some found)
    rw [find?_key found] at instrument totals
    have same := instrument (weighed .zero 2) (by decide)
    cases data : s.data with
    | total n =>
      rw [data] at totals
      cases (congrArg Instrument.kind same).trans totals.1
    | histogram h =>
      rw [data, ← same] at totals
      exact ⟨s, h, found, data, totals.2.places, totals.2.count.trans (by decide)⟩

/-- Which of the two zeros is the least value depends on the order of the measurements. -/
theorem least_zero_follows_order : Measurement.Regular mixed ∧ mixed.Perm mixed.reverse ∧
    (∃ s h, (Channel.fill mixed : Aggregation).find? ⟨1, .empty⟩ = some s ∧
      s.data = .histogram h ∧ h.min = ⟨0x8000000000000000⟩) ∧
    ∃ s h, (Channel.fill mixed.reverse : Aggregation).find? ⟨1, .empty⟩ = some s ∧
      s.data = .histogram h ∧ h.min = .zero := by
  refine ⟨regular_mixed, mixed.reverse_perm.symm, ⟨_, _, rfl, rfl, ?_⟩, ⟨_, _, rfl, rfl, ?_⟩⟩
  · decide
  · decide

end Aggregation
end Telemetry
