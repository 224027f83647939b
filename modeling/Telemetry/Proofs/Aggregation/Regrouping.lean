import Mathlib.Data.List.Dedup
import Mathlib.Data.List.Perm.Subperm
import Telemetry.Proofs.Aggregation.Merge

/-! Windows and what they were cut from. Measurements folded into aggregations of their own, which
are then merged, come to the same as when all of them are folded into one. The exception is the sum
of a histogram, whose rounding depends on how it is grouped. Main result: `merged_eq_whole`. -/
namespace Telemetry

/-- The data without the sum of a histogram. -/
def SeriesData.unsummed : SeriesData → SeriesData
  | total n => total n
  | histogram h => histogram { h with sum := .zero }

/-- What a series holds, apart from when it was first seen and from the sum of a histogram. -/
def Series.content (s : Series) : Instrument × Attributes × SeriesData :=
  (s.instrument, s.attributes, s.data.unsummed)

/-- The number of series that measurements belong to. -/
def Measurement.seriesCount (ms : List Measurement) : Nat := (ms.map key).dedup.length

theorem Measurement.seriesCount_mono {ms ns : List Measurement} (fewer : ms ⊆ ns) :
    seriesCount ms ≤ seriesCount ns := by
  apply List.Subperm.length_le
  apply (List.nodup_dedup _).subperm
  intro k member
  rw [List.mem_dedup] at member ⊢
  exact List.map_subset _ fewer member

theorem Timestamp.earlier_eq_left {a b : Timestamp} (le : a ≤ b) : a.earlier b = a := by
  have nanos : a.sinceEpoch.nanos ≤ b.sinceEpoch.nanos := le
  simp only [earlier, Duration.shorter, Nat.min_eq_left nanos]

theorem HistogramState.Shows.unique {edges xs : List Binary64} {g h : HistogramState}
    (left : g.Shows edges xs) (right : h.Shows edges xs) :
    { g with sum := .zero } = { h with sum := .zero } := by
  have bounds := left.bounds.trans right.bounds.symm
  have bucketCounts := left.bucketCounts.trans right.bucketCounts.symm
  have count := left.count.trans right.count.symm
  have min := left.min.trans right.min.symm
  have max := left.max.trans right.max.symm
  simp only [bounds, bucketCounts, count, min, max]

theorem SeriesData.Shows.unique {i : Instrument} {ms : List Measurement} {d e : SeriesData}
    (left : d.Shows i ms) (right : e.Shows i ms) : d.unsummed = e.unsummed := by
  cases d with
  | total n =>
    cases e with
    | total m => exact congrArg total (UInt64.toNat_inj.mp (left.2.trans right.2.symm))
    | histogram h => cases left.1.symm.trans right.1
  | histogram g =>
    cases e with
    | total m => cases left.1.symm.trans right.1
    | histogram h => exact congrArg histogram (left.2.unique right.2)

theorem Series.Shows.unique {ms : List Measurement} {s t : Series} (left : s.Shows ms)
    (right : t.Shows ms) (key : s.key = t.key) : s.content = t.content := by
  obtain ⟨m, member⟩ := List.exists_mem_of_ne_nil _ left.nonempty
  have instrument : s.instrument = t.instrument :=
    (left.instrument m member).symm.trans (right.instrument m member)
  have attributes : s.attributes = t.attributes := congrArg SeriesKey.attributes key
  have data := left.data.unique (instrument ▸ right.data)
  simp only [content, instrument, attributes, data]

namespace Aggregation

variable {limit : Nat} {ms ns : List Measurement} {a b running : Aggregation}

/-- A filled aggregation has a series for the key of each measurement, and no others. -/
theorem mem_keys_fill {k : SeriesKey} :
    k ∈ (Channel.fill ms : Aggregation).keys ↔ k ∈ ms.map Measurement.key := by
  have some : k ∈ (Channel.fill ms : Aggregation).keys ↔ Measurement.ofSeries k ms ≠ [] := by
    rw [← not_iff_not, ← find?_eq_none, find?_fill, Series.gathered?_eq_none, not_not]
  rw [some, Measurement.ofSeries, Ne, List.filter_eq_nil_iff]
  simp

theorem size_fill : (Channel.fill ms : Aggregation).size = Measurement.seriesCount ms := by
  rw [← length_keys]
  apply List.Perm.length_eq
  refine (List.perm_ext_iff_of_nodup (keys_nodup _) (List.nodup_dedup _)).mpr fun k => ?_
  rw [List.mem_dedup]
  exact mem_keys_fill

theorem growsWith_fill {m : Measurement} :
    (Channel.fill ms : Aggregation).growsWith m = true ↔ m.key ∉ ms.map Measurement.key := by
  rw [growsWith, Bool.not_eq_true', ← Bool.not_eq_true, contains_iff_find?, ← mem_keys,
    mem_keys_fill]

/-- The series that are refused are those of the window that are not there afterwards. -/
theorem dropped_foldl {l : List Series} (different : (l.map Series.key).Nodup)
    (before : Aggregation) (dropped : Nat) :
    (l.foldl (mergeSeries limit) (before, dropped)).2 = dropped +
      l.countP fun s => !(l.foldl (mergeSeries limit) (before, dropped)).1.contains s.key := by
  induction l generalizing before dropped with
  | nil => rfl
  | cons s rest ih =>
    rw [List.map_cons, List.nodup_cons] at different
    have apart : rest.find? (·.key == s.key) = none := by
      refine List.find?_eq_none.mpr fun t ht same => different.1 ?_
      rw [← eq_of_beq same]
      exact List.mem_map_of_mem ht
    rw [List.foldl_cons, List.countP_cons]
    by_cases room : (before.contains s.key || before.size < limit) = true
    · rw [mergeSeries, if_pos room, ih different.2]
      generalize taken : before.upsert s (·.merge s) (fun t => Series.key_merge t s) = next
      have merges : Merges limit next rest _ := merges_foldl different.2 next dropped
      have here : next.find? s.key = some ((before.find? s.key).elim s (·.merge s)) := by
        rw [← taken, find?_upsert, if_pos rfl]
      have kept := (contains_iff_find? _ _).mpr ⟨_, merges.known s.key _ here⟩
      simp [kept]
    · rw [mergeSeries, if_neg room, ih different.2]
      simp only [Bool.or_eq_true, decide_eq_true_eq, not_or, Bool.not_eq_true] at room
      have merges : Merges limit before rest _ := merges_foldl different.2 before (dropped + 1)
      have absent : before.find? s.key = none := by
        rw [find?_eq_none, mem_keys, ← contains_iff_find?, room.1]
        exact Bool.false_ne_true
      have refused : (rest.foldl (mergeSeries limit) (before, dropped + 1)).1.find? s.key = none := by
        rcases merges.new s.key absent with same | ⟨none, _⟩
        · rw [same, apart]
        · exact none
      rw [find?_eq_none, mem_keys, ← contains_iff_find?, Bool.not_eq_true] at refused
      simp only [refused, Bool.not_false, if_true]
      omega

theorem dropped_mergeInto (a running : Aggregation) :
    (a.mergeInto running limit).2 =
      a.series.countP fun s => !(a.mergeInto running limit).1.contains s.key := by
  have counted := @dropped_foldl limit _ a.keys_nodup running 0
  rwa [Nat.zero_add] at counted

/-- A running aggregation with room for all series has each of them. -/
theorem Covers.exists_of_room (covers : Covers limit ms running)
    (room : Measurement.seriesCount ms ≤ limit) {k : SeriesKey}
    (measured : Measurement.ofSeries k ms ≠ []) : ∃ s, running.find? k = some s := by
  rcases covers.series k with ⟨s, found, _⟩ | ⟨absent, unmeasured | full⟩
  · exact ⟨s, found⟩
  · exact absurd unmeasured measured
  · -- Otherwise the aggregation is full, and the series missing is one too many.
    exfalso
    have known : k :: running.keys ⊆ ms.map Measurement.key := by
      intro j member
      have listed : Measurement.ofSeries j ms ≠ [] := by
        rcases List.mem_cons.mp member with rfl | there
        · exact measured
        · obtain ⟨s, found⟩ := mem_keys.mp there
          exact (covers.shows found).nonempty
      obtain ⟨m, own⟩ := List.exists_mem_of_ne_nil _ listed
      simp only [Measurement.ofSeries, List.mem_filter, decide_eq_true_eq] at own
      exact List.mem_map.mpr ⟨m, own⟩
    have different : (k :: running.keys).Nodup :=
      List.nodup_cons.mpr ⟨find?_eq_none.mp absent, running.keys_nodup⟩
    have few := (different.subperm fun j member => List.mem_dedup.mpr (known member)).length_le
    rw [List.length_cons, length_keys] at few
    have count : Measurement.seriesCount ms = (ms.map Measurement.key).dedup.length := rfl
    omega

/-- Nothing is refused where there is room for all series. -/
theorem dropped_of_room (covers : Covers limit ms running)
    (genuine : Measurement.Genuine (ms ++ ns)) (gathers : Gathers ns a)
    (room : Measurement.seriesCount (ms ++ ns) ≤ limit) : (a.mergeInto running limit).2 = 0 := by
  rw [dropped_mergeInto, List.countP_eq_zero]
  intro s member
  have measured : Measurement.ofSeries s.key (ms ++ ns) ≠ [] := by
    have own := gathers s.key
    rw [find?_of_mem member] at own
    intro none
    rw [Measurement.ofSeries_append, List.append_eq_nil_iff] at none
    rw [none.2] at own
    cases own
  have kept := (covers.merge genuine gathers).exists_of_room room measured
  rw [(contains_iff_find? _ _).mpr kept]
  exact Bool.false_ne_true

/-- Each series was first seen when the first of its measurements was made. -/
def Dated (ms : List Measurement) (a : Aggregation) : Prop :=
  ∀ k, (a.find? k).map Series.firstSeen = (Measurement.ofSeries k ms).head?.map Measurement.timestamp

theorem Gathers.dated (gathers : Gathers ms a) : Dated ms a := by
  intro k
  rw [gathers k]
  cases Measurement.ofSeries k ms <;> rfl

theorem Dated.merge (dated : Dated ms running) (gathers : Gathers ns a)
    (complete : ∀ k, Measurement.ofSeries k (ms ++ ns) ≠ [] →
      ∃ s, (a.mergeInto running limit).1.find? k = some s)
    (ordered : (ms ++ ns).Pairwise (·.timestamp ≤ ·.timestamp)) :
    Dated (ms ++ ns) (a.mergeInto running limit).1 := by
  intro k
  have merges : Merges limit running a.series _ := merges_mergeInto a running
  have before := dated k
  have window := gathers.dated k
  rw [Measurement.ofSeries_append]
  cases found : running.find? k with
  | none =>
    have unmeasured : Measurement.ofSeries k ms = [] := by simpa [found] using before.symm
    rw [unmeasured, List.nil_append, ← window]
    rcases merges.new k found with same | ⟨absent, _⟩
    · rw [same]
      rfl
    · -- Nothing of the series was measured in the window either.
      have none : Measurement.ofSeries k ns = [] := by
        by_contra measured
        obtain ⟨s, present⟩ := complete k (by simp [Measurement.ofSeries_append, measured])
        cases absent.symm.trans present
      rw [absent, window, none]
      rfl
  | some s =>
    rw [found] at before
    obtain ⟨m, listed, seen⟩ := Option.map_eq_some_iff.mp before.symm
    obtain ⟨rest, listed⟩ := List.head?_eq_some_iff.mp listed
    rw [merges.known k s found, listed, List.cons_append, List.head?_cons, Option.map_some, Option.map_some,
      seen, show a.series.find? (·.key == k) = a.find? k from rfl]
    cases other : a.find? k with
    | none => rfl
    | some t =>
      rw [other] at window
      obtain ⟨n, first, later⟩ := Option.map_eq_some_iff.mp window.symm
      have before : m ∈ Measurement.ofSeries k ms := by simp [listed]
      have after : n ∈ Measurement.ofSeries k ns := List.mem_of_head? first
      have le : m.timestamp ≤ n.timestamp := (List.pairwise_append.mp ordered).2.2 m
        (List.mem_filter.mp before).1 n (List.mem_filter.mp after).1
      rw [seen, later] at le
      exact congrArg some (Timestamp.earlier_eq_left le)

theorem dated_merged {windows : List (List Measurement)} {parts : List Aggregation}
    (genuine : Measurement.Genuine windows.flatten) (gathers : List.Forall₂ Gathers windows parts)
    (room : Measurement.seriesCount windows.flatten ≤ limit)
    (ordered : windows.flatten.Pairwise (·.timestamp ≤ ·.timestamp)) :
    Dated windows.flatten (merged limit parts) := by
  refine (merged_induction (P := fun ms a => Covers limit ms a ∧ Dated ms a) gathers ?_ ?_).2
  · exact ⟨.empty limit, fun k => rfl⟩
  · intro ms ns running a part own ⟨covers, dated⟩
    have merged := covers.merge (genuine.mono part.subset) own
    have enough := Nat.le_trans (Measurement.seriesCount_mono part.subset) room
    exact ⟨merged, dated.merge own (fun k => merged.exists_of_room enough)
      (ordered.sublist part.sublist)⟩

/-- However measurements are cut into windows, and in whatever order the series of each window
come, merging the windows into a running aggregation with room for all series refuses none of
them and leads to the series that one aggregation of all measurements has. Where the measurements
come in the order of their times, the series were first seen at the same times too. -/
theorem merged_eq_whole {windows : List (List Measurement)} {parts : List Aggregation}
    (genuine : Measurement.Genuine windows.flatten)
    (room : Measurement.seriesCount windows.flatten ≤ limit)
    (reordered : List.Forall₂
      (fun ms a => a.series.Perm (Channel.fill ms : Aggregation).series) windows parts) :
    (∀ before a after, parts = before ++ a :: after →
      (a.mergeInto (merged limit before) limit).2 = 0) ∧
    (∀ k, ((merged limit parts).find? k).map Series.content =
      ((Channel.fill windows.flatten : Aggregation).find? k).map Series.content) ∧
    (windows.flatten.Pairwise (·.timestamp ≤ ·.timestamp) → ∀ k,
      ((merged limit parts).find? k).map Series.firstSeen =
        ((Channel.fill windows.flatten : Aggregation).find? k).map Series.firstSeen) := by
  have gathers : List.Forall₂ Gathers windows parts := reordered.imp fun _ _ => Gathers.of_perm
  refine ⟨?_, ?_, ?_⟩
  · rintro before a after rfl
    obtain ⟨ns, rest, own, _, others⟩ := List.forall₂_cons_right_iff.mp
      (List.forall₂_drop_append windows before (a :: after) gathers)
    have first := List.forall₂_take_append windows before (a :: after) gathers
    have whole : (windows.take before.length).flatten ++ ns <+: windows.flatten := by
      refine ⟨rest.flatten, ?_⟩
      rw [List.append_assoc, ← List.flatten_cons, ← others, ← List.flatten_append,
        List.take_append_drop]
    have part := genuine.mono whole.subset
    have covers : Covers limit _ _ := covers_merged (part.mono (List.subset_append_left _ _)) first
    exact dropped_of_room covers part own
      (Nat.le_trans (Measurement.seriesCount_mono whole.subset) room)
  · intro k
    have covers : Covers limit _ _ := covers_merged genuine gathers
    rw [find?_fill]
    cases gathered : Series.gathered? (Measurement.ofSeries k windows.flatten) with
    | none =>
      rcases covers.series k with ⟨s, _, shows⟩ | ⟨absent, _⟩
      · exact absurd (Series.gathered?_eq_none.mp gathered) shows.nonempty
      · rw [absent]
    | some t =>
      have shown := Series.shows_gathered genuine gathered
      obtain ⟨s, found⟩ := covers.exists_of_room room shown.nonempty
      have own : t.key = k := find?_key ((find?_fill windows.flatten k).trans gathered)
      rw [found]
      exact congrArg some ((covers.shows found).unique shown ((find?_key found).trans own.symm))
  · intro ordered k
    rw [dated_merged genuine gathers room ordered k, Gathers.dated (find?_fill _) k]

def sent (n : UInt64) (seconds : Nat) : Measurement :=
  ⟨⟨0, "sent", .counter, none, none, .ofName "test", none⟩, .increment n, .empty, ⟨.ofSeconds seconds⟩⟩

def measured (x : Binary64) (seconds : Nat) : Measurement :=
  ⟨⟨1, "size", .histogram, none, none, .ofName "test", some [.infinity]⟩, .observation x, .empty,
    ⟨.ofSeconds seconds⟩⟩

/-- Two series over three windows, of which the last one is empty. -/
def cut : List (List Measurement) :=
  [[sent 0xFFFFFFFFFFFFFFFF 1, measured .zero 1], [measured .negativeInfinity 2, sent 1 3], []]

/-- The series in the other order. -/
def turned (a : Aggregation) : Aggregation :=
  ⟨a.series.reverse, a.window, by rw [List.map_reverse]; exact List.nodup_reverse.mpr a.keys_nodup⟩

theorem merged_eq_whole_turned :
    let parts := cut.map fun ms => turned (Channel.fill ms)
    ((merged 2 parts).find? ⟨0, .empty⟩).map (fun s => s.content.2.2.added) =
        some 0xFFFFFFFFFFFFFFFF ∧
      ((merged 2 parts).find? ⟨1, .empty⟩).map (fun s => s.content.2.2.count) = some 2 ∧
      ((merged 2 parts).find? ⟨1, .empty⟩).map Series.firstSeen = some ⟨.ofSeconds 1⟩ := by
  intro parts
  have reordered : List.Forall₂
      (fun ms a => a.series.Perm (Channel.fill ms : Aggregation).series) cut parts := by
    rw [List.forall₂_map_right_iff, List.forall₂_same]
    intro ms _
    exact List.reverse_perm _
  have room : Measurement.seriesCount cut.flatten ≤ 2 := by decide
  obtain ⟨_, same, seen⟩ := merged_eq_whole ⟨by decide, by decide⟩ room reordered
  have sent := congrArg (Option.map fun c => c.2.2.added) (same ⟨0, .empty⟩)
  have measured := congrArg (Option.map fun c => c.2.2.count) (same ⟨1, .empty⟩)
  rw [Option.map_map, Option.map_map] at sent measured
  refine ⟨sent.trans (by decide), measured.trans (by decide), ?_⟩
  exact (seen (by decide) _).trans (by decide)

end Aggregation
end Telemetry
