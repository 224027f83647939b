import Telemetry.Aggregation.Buffer
import Telemetry.Proofs.Channel.Ledger

/-! What an aggregation holds of each series once it is filled with measurements. Main results:
`find?_fill`, which reads a series off the measurements, `added_fill` and `count_fill`. -/
namespace Telemetry

def MeasuredValue.kind : MeasuredValue → InstrumentKind
  | increment _ => .counter
  | observation _ => .histogram

def SeriesData.kind : SeriesData → InstrumentKind
  | total _ => .counter
  | histogram _ => .histogram

/-- What a total adds up to. -/
def SeriesData.added : SeriesData → Nat
  | total n => n.toNat
  | histogram _ => 0

/-- The number of values in a histogram. -/
def SeriesData.count : SeriesData → Nat
  | total _ => 0
  | histogram h => h.count.toNat

namespace Measurement

/-- What the measurement adds to a total. -/
def added (m : Measurement) : Nat :=
  match m.value with
  | .increment n => n.toNat
  | .observation _ => 0

/-- The value that the measurement adds to a histogram. -/
def observed? (m : Measurement) : Option Binary64 :=
  match m.value with
  | .increment _ => none
  | .observation x => some x

/-- The measurements of one series. -/
def ofSeries (k : SeriesKey) (ms : List Measurement) : List Measurement := ms.filter (·.key = k)

def sum (ms : List Measurement) : Nat := (ms.map added).sum

def observations (ms : List Measurement) : List Binary64 := ms.filterMap observed?

theorem ofSeries_append (k : SeriesKey) (ms ns : List Measurement) :
    ofSeries k (ms ++ ns) = ofSeries k ms ++ ofSeries k ns := List.filter_append ..

theorem sum_append (ms ns : List Measurement) : sum (ms ++ ns) = sum ms + sum ns := by
  simp [sum]

theorem observations_append (ms ns : List Measurement) :
    observations (ms ++ ns) = observations ms ++ observations ns := List.filterMap_append ..

/-- What instruments promise of their measurements: an id stands for one instrument, and an
instrument takes values of its own kind. -/
structure Genuine (ms : List Measurement) : Prop where
  instrument : ∀ m ∈ ms, ∀ n ∈ ms, m.instrument.id = n.instrument.id → m.instrument = n.instrument
  kind : ∀ m ∈ ms, m.value.kind = m.instrument.kind

theorem Genuine.mono {ms ns : List Measurement} (genuine : Genuine ns) (fewer : ms ⊆ ns) :
    Genuine ms :=
  ⟨fun m hm n hn => genuine.instrument m (fewer hm) n (fewer hn), fun m hm => genuine.kind m (fewer hm)⟩

/-- The measurements of a series are of one kind. -/
theorem Genuine.kind_ofSeries {ms : List Measurement} (genuine : Genuine ms) {k : SeriesKey}
    {m n : Measurement} (hm : m ∈ ofSeries k ms) (hn : n ∈ ofSeries k ms) :
    m.value.kind = n.value.kind := by
  simp only [ofSeries, List.mem_filter, decide_eq_true_eq] at hm hn
  have same : m.instrument.id = n.instrument.id :=
    congrArg SeriesKey.instrument (hm.2.trans hn.2.symm)
  rw [genuine.kind m hm.1, genuine.kind n hn.1, genuine.instrument m hm.1 n hn.1 same]

end Measurement

namespace SeriesData

def recordAll (d : SeriesData) (ms : List Measurement) : SeriesData :=
  ms.foldl (fun d m => d.record m.value) d

@[simp] theorem kind_record (d : SeriesData) (v : MeasuredValue) : (d.record v).kind = d.kind := by
  cases d <;> cases v <;> rfl

@[simp] theorem kind_recordAll (d : SeriesData) (ms : List Measurement) :
    (d.recordAll ms).kind = d.kind := by
  induction ms generalizing d with
  | nil => rfl
  | cons m rest ih => exact (ih (d.record m.value)).trans (kind_record d m.value)

@[simp] theorem kind_initial (boundaries : Option (List Binary64)) (v : MeasuredValue) :
    (initial boundaries v).kind = v.kind := by
  cases v <;> rfl

theorem added_le (d : SeriesData) : d.added ≤ 0xFFFFFFFFFFFFFFFF := by
  cases d with
  | total n => exact Nat.le_of_lt_succ n.toNat_lt
  | histogram h => exact Nat.zero_le _

theorem count_lt (d : SeriesData) : d.count < 2 ^ 64 := by
  cases d with
  | total n => exact Nat.two_pow_pos 64
  | histogram h => exact h.count.toNat_lt

theorem added_record {d : SeriesData} {m : Measurement} (fits : m.value.kind = d.kind) :
    (d.record m.value).added = min (d.added + m.added) 0xFFFFFFFFFFFFFFFF := by
  cases d with
  | total n =>
    cases value : m.value with
    | increment i => simp [record, added, Measurement.added, value]
    | observation x => simp [value, kind, MeasuredValue.kind] at fits
  | histogram h =>
    cases value : m.value with
    | increment i => simp [value, kind, MeasuredValue.kind] at fits
    | observation x => simp [record, added, Measurement.added, value]

theorem count_record {d : SeriesData} {m : Measurement} (fits : m.value.kind = d.kind) :
    (d.record m.value).count = (d.count + m.observed?.toList.length) % 2 ^ 64 := by
  cases d with
  | total n =>
    cases value : m.value with
    | increment i => simp [record, count, Measurement.observed?, value]
    | observation x => simp [value, kind, MeasuredValue.kind] at fits
  | histogram h =>
    cases value : m.value with
    | increment i => simp [value, kind, MeasuredValue.kind] at fits
    | observation x => simp [record, count, Measurement.observed?, value, HistogramState.record]

theorem added_recordAll {d : SeriesData} {ms : List Measurement}
    (fits : ∀ m ∈ ms, m.value.kind = d.kind) :
    (d.recordAll ms).added = min (d.added + Measurement.sum ms) 0xFFFFFFFFFFFFFFFF := by
  induction ms generalizing d with
  | nil => simp [recordAll, Measurement.sum, Nat.min_eq_left d.added_le]
  | cons m rest ih =>
    have here := added_record (fits m List.mem_cons_self)
    have others := ih (d := d.record m.value) fun n hn => by
      rw [kind_record]
      exact fits n (List.mem_cons_of_mem m hn)
    rw [here] at others
    refine others.trans ?_
    simp only [Measurement.sum, List.map_cons, List.sum_cons]
    omega

theorem count_recordAll {d : SeriesData} {ms : List Measurement}
    (fits : ∀ m ∈ ms, m.value.kind = d.kind) :
    (d.recordAll ms).count = (d.count + (Measurement.observations ms).length) % 2 ^ 64 := by
  induction ms generalizing d with
  | nil => exact (Nat.mod_eq_of_lt d.count_lt).symm
  | cons m rest ih =>
    have here := count_record (fits m List.mem_cons_self)
    have others := ih (d := d.record m.value) fun n hn => by
      rw [kind_record]
      exact fits n (List.mem_cons_of_mem m hn)
    have split : (Measurement.observations (m :: rest)).length =
        m.observed?.toList.length + (Measurement.observations rest).length := by
      cases value : m.observed? <;> simp [Measurement.observations, value, Nat.add_comm]
    rw [here] at others
    refine others.trans ?_
    rw [split]
    omega

end SeriesData

namespace Series

def recordAll (s : Series) (ms : List Measurement) : Series := { s with data := s.data.recordAll ms }

/-- The series that measurements of one key add up to. -/
def gathered? : List Measurement → Option Series
  | [] => none
  | m :: rest => some ((start m).recordAll (m :: rest))

theorem gathered?_eq_none {ms : List Measurement} : gathered? ms = none ↔ ms = [] := by
  cases ms <;> simp [gathered?]

theorem gathered?_concat (ms : List Measurement) (m : Measurement) :
    gathered? (ms ++ [m]) = some (((gathered? ms).getD (start m)).record m.value) := by
  cases ms with
  | nil => rfl
  | cons first rest =>
    simp [gathered?, recordAll, SeriesData.recordAll, List.foldl_append, record]

/-- The measurements of a series fit what the first of them starts. -/
theorem kind_start {ms rest : List Measurement} (genuine : Measurement.Genuine ms) {k : SeriesKey}
    {m : Measurement} (listed : Measurement.ofSeries k ms = m :: rest) :
    ∀ n ∈ m :: rest, n.value.kind = (start m).data.kind := by
  rw [← listed]
  intro n hn
  simpa [start] using genuine.kind_ofSeries hn (by simp [listed])

end Series

namespace Aggregation

theorem contains_iff_find? (a : Aggregation) (k : SeriesKey) :
    a.contains k = true ↔ ∃ s, a.find? k = some s := by
  simp [contains, find?, ← Option.isSome_iff_exists, List.find?_isSome]

theorem find?_key {a : Aggregation} {k : SeriesKey} {s : Series} (found : a.find? k = some s) :
    s.key = k := by
  simpa using List.find?_some found

theorem filter_key_eq {l : List Series} (different : (l.map Series.key).Nodup) (k : SeriesKey) :
    l.filter (·.key = k) = (l.find? (·.key == k)).toList := by
  induction l with
  | nil => rfl
  | cons s rest ih =>
    rw [List.map_cons, List.nodup_cons] at different
    by_cases here : s.key = k
    · have none : rest.filter (·.key = k) = [] := by
        refine List.filter_eq_nil_iff.mpr fun t ht same => different.1 ?_
        rw [here, ← of_decide_eq_true same]
        exact List.mem_map_of_mem ht
      simp [here, none]
    · simpa [here] using ih different.2

theorem find?_of_mem {a : Aggregation} {s : Series} (member : s ∈ a.series) :
    a.find? s.key = some s := by
  have own : s ∈ a.series.filter (·.key = s.key) := List.mem_filter.mpr ⟨member, by simp⟩
  rw [filter_key_eq a.keys_nodup] at own
  exact Option.mem_toList.mp own

theorem find?_updateSeries {j : SeriesKey} {f : Series → Series} (hf : ∀ t, (f t).key = t.key)
    (l : List Series) (k : SeriesKey) :
    (updateSeries j f l).find? (·.key == k) =
      (l.find? (·.key == k)).map fun s => if s.key = j then f s else s := by
  have same : ((·.key == k) ∘ fun s => if s.key = j then f s else s) = (·.key == k) := by
    funext s
    simp only [Function.comp]
    split
    · rw [hf]
    · rfl
  rw [updateSeries, List.find?_map, same]

theorem find?_upsert (a : Aggregation) (s : Series) (f : Series → Series)
    (hf : ∀ t, (f t).key = t.key) (k : SeriesKey) :
    (a.upsert s f hf).find? k = if s.key = k then some ((a.find? k).elim s f) else a.find? k := by
  unfold upsert
  split
  · next present =>
    obtain ⟨t, found⟩ := (contains_iff_find? a s.key).mp present
    refine (find?_updateSeries hf a.series k).trans ?_
    by_cases here : s.key = k
    · subst here
      rw [if_pos rfl, show List.find? _ a.series = a.find? s.key from rfl, found]
      simp [find?_key found]
    · rw [if_neg here, show List.find? _ a.series = a.find? k from rfl]
      cases other : a.find? k with
      | none => rfl
      | some t => simp [find?_key other, Ne.symm here]
  · next absent =>
    have none : a.find? s.key = none :=
      Option.eq_none_iff_forall_ne_some.mpr fun t found =>
        absent ((contains_iff_find? a s.key).mpr ⟨t, found⟩)
    by_cases here : s.key = k
    · subst here
      simp only [find?, List.find?_append] at none ⊢
      simp [none]
    · simp only [find?, List.find?_append]
      simp [here]

theorem find?_push (a : Aggregation) (m : Measurement) (k : SeriesKey) :
    (a.push m).find? k =
      if m.key = k then some (((a.find? k).getD (Series.start m)).record m.value) else a.find? k := by
  rw [push, find?_upsert]
  simp only [Series.key_record, Series.key_start]
  cases a.find? k <;> rfl

/-- A filled aggregation holds of each series what its measurements add up to. -/
theorem find?_fill (ms : List Measurement) (k : SeriesKey) :
    (Channel.fill ms : Aggregation).find? k = Series.gathered? (Measurement.ofSeries k ms) := by
  induction ms using List.reverseRecOn with
  | nil => rfl
  | append_singleton ms m ih =>
    rw [Channel.fill_concat]
    refine (find?_push _ m k).trans ?_
    rw [ih, Measurement.ofSeries_append]
    by_cases here : m.key = k
    · have one : Measurement.ofSeries k [m] = [m] := by simp [Measurement.ofSeries, here]
      rw [if_pos here, one, Series.gathered?_concat]
    · have none : Measurement.ofSeries k [m] = [] := by simp [Measurement.ofSeries, here]
      rw [if_neg here, none, List.append_nil]

/-- Every series has data of the kind of its instrument, and an id stands for one instrument. -/
structure Uniform (a : Aggregation) : Prop where
  kind : ∀ s ∈ a.series, s.data.kind = s.instrument.kind
  instrument : ∀ s ∈ a.series, ∀ t ∈ a.series, s.instrument.id = t.instrument.id →
    s.instrument = t.instrument

/-- Every series was started by one of the measurements. -/
def DrawnFrom (ms : List Measurement) (a : Aggregation) : Prop :=
  ∀ s ∈ a.series, ∃ m ∈ ms, s.instrument = m.instrument ∧ s.data.kind = m.value.kind

theorem DrawnFrom.uniform {ms : List Measurement} {a : Aggregation} (drawn : a.DrawnFrom ms)
    (genuine : Measurement.Genuine ms) : a.Uniform where
  kind s hs := by
    obtain ⟨m, hm, instrument, kind⟩ := drawn s hs
    rw [kind, instrument, genuine.kind m hm]
  instrument s hs t ht same := by
    obtain ⟨m, hm, first, _⟩ := drawn s hs
    obtain ⟨n, hn, second, _⟩ := drawn t ht
    rw [first, second] at same ⊢
    exact genuine.instrument m hm n hn same

theorem drawnFrom_fill (ms : List Measurement) : (Channel.fill ms : Aggregation).DrawnFrom ms := by
  intro s hs
  have found := find?_of_mem hs
  rw [find?_fill] at found
  cases listed : Measurement.ofSeries s.key ms with
  | nil => simp [listed, Series.gathered?] at found
  | cons m rest =>
    have member : m ∈ Measurement.ofSeries s.key ms := by simp [listed]
    rw [listed] at found
    cases found
    exact ⟨m, (List.mem_filter.mp member).1, rfl, by simp [Series.recordAll, Series.start]⟩

@[simp] theorem window_upsert (a : Aggregation) (s : Series) (f : Series → Series)
    (hf : ∀ t, (f t).key = t.key) : (a.upsert s f hf).window = a.window := by
  unfold upsert
  split <;> rfl

@[simp] theorem window_push (a : Aggregation) (m : Measurement) : (a.push m).window = a.window :=
  window_upsert ..

/-- The window of a filled aggregation is not settled yet. -/
theorem window_fill (ms : List Measurement) : (Channel.fill ms : Aggregation).window = none := by
  induction ms using List.reverseRecOn with
  | nil => rfl
  | append_singleton ms m ih =>
    rw [Channel.fill_concat]
    exact (window_push _ m).trans ih

/-- What the total of a series adds up to. -/
def added (a : Aggregation) (k : SeriesKey) : Nat := ((a.find? k).map (·.data.added)).getD 0

/-- The number of values in the histogram of a series. -/
def count (a : Aggregation) (k : SeriesKey) : Nat := ((a.find? k).map (·.data.count)).getD 0

@[simp] theorem find?_withWindow (a : Aggregation) (window : Option (Timestamp × Timestamp))
    (k : SeriesKey) : (a.withWindow window).find? k = a.find? k := rfl

theorem find?_of_size_eq_zero {a : Aggregation} (empty : a.size = 0) (k : SeriesKey) :
    a.find? k = none := by
  have series : a.series = [] := List.eq_nil_of_length_eq_zero empty
  simp [find?, series]

/-- Only no measurements at all fill an aggregation of no series. -/
theorem eq_nil_of_size_fill {ms : List Measurement}
    (empty : (Channel.fill ms : Aggregation).size = 0) : ms = [] := by
  refine List.eq_nil_iff_forall_not_mem.mpr fun m member => ?_
  have none := find?_of_size_eq_zero empty m.key
  rw [find?_fill] at none
  have listed : m ∈ Measurement.ofSeries m.key ms := List.mem_filter.mpr ⟨member, by simp⟩
  rw [Series.gathered?_eq_none.mp none] at listed
  cases listed

theorem added_fill {ms : List Measurement} (genuine : Measurement.Genuine ms) (k : SeriesKey) :
    (Channel.fill ms : Aggregation).added k =
      min (Measurement.sum (Measurement.ofSeries k ms)) 0xFFFFFFFFFFFFFFFF := by
  rw [added, find?_fill]
  cases listed : Measurement.ofSeries k ms with
  | nil => rfl
  | cons m rest =>
    have zero : (Series.start m).data.added = 0 := by
      cases value : m.value <;> simp [Series.start, value, SeriesData.initial, SeriesData.added]
    have all := SeriesData.added_recordAll (Series.kind_start genuine listed)
    rwa [zero, Nat.zero_add] at all

theorem count_fill {ms : List Measurement} (genuine : Measurement.Genuine ms) (k : SeriesKey) :
    (Channel.fill ms : Aggregation).count k =
      (Measurement.observations (Measurement.ofSeries k ms)).length % 2 ^ 64 := by
  rw [count, find?_fill]
  cases listed : Measurement.ofSeries k ms with
  | nil => rfl
  | cons m rest =>
    have zero : (Series.start m).data.count = 0 := by
      cases value : m.value <;>
        simp [Series.start, value, SeriesData.initial, SeriesData.count, HistogramState.empty]
    have all := SeriesData.count_recordAll (Series.kind_start genuine listed)
    rwa [zero, Nat.zero_add] at all

end Aggregation
end Telemetry
