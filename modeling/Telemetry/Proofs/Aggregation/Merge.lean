import Mathlib.Data.List.Forall2
import Telemetry.Proofs.Aggregation.Shows

/-! Windows merged into a running aggregation that takes on new series while it has room. Main
results: `merges_mergeInto` for one window, and `Accumulates.covers`, by which a running aggregation
shows of each series all of its measurements or nothing, in whatever order the series of each window
were met. -/
namespace Telemetry.Aggregation

def keys (a : Aggregation) : List SeriesKey := a.series.map Series.key

theorem length_keys (a : Aggregation) : a.keys.length = a.size := List.length_map ..

theorem mem_keys {a : Aggregation} {k : SeriesKey} : k ∈ a.keys ↔ ∃ s, a.find? k = some s := by
  rw [← contains_iff_find?]
  simp [keys, contains]

theorem find?_eq_none {a : Aggregation} {k : SeriesKey} : a.find? k = none ↔ k ∉ a.keys := by
  rw [mem_keys, Option.eq_none_iff_forall_ne_some]
  simp

/-- Looking a series up does not depend on the order in which the series are listed. -/
theorem find?_perm {a b : Aggregation} (same : a.series.Perm b.series) (k : SeriesKey) :
    a.find? k = b.find? k := by
  apply Option.ext
  intro s
  constructor
  · intro found
    have member : s ∈ b.series := same.subset (List.mem_of_find?_eq_some found)
    rw [← find?_key found]
    exact find?_of_mem member
  · intro found
    have member : s ∈ a.series := same.symm.subset (List.mem_of_find?_eq_some found)
    rw [← find?_key found]
    exact find?_of_mem member

/-- The keys of the series in some order lead to that order. -/
theorem arrange_map_key {l m : List Series} (same : l.Perm m) (different : (m.map Series.key).Nodup) :
    arrange (l.map Series.key) m = l := by
  induction l generalizing m with
  | nil => exact List.nil_perm.mp same
  | cons s rest ih =>
    obtain ⟨other, _⟩ := List.nodup_cons.mp ((same.map Series.key).nodup_iff.mpr different)
    have apart : ∀ t ∈ rest, (t.key == s.key) = false := by
      intro t member
      rw [beq_eq_false_iff_ne]
      intro equal
      exact other (equal ▸ List.mem_map_of_mem member)
    have first : m.filter (·.key == s.key) = [s] := by
      have alone : (s :: rest).filter (·.key == s.key) = [s] := by
        rw [List.filter_cons, if_pos (beq_self_eq_true s.key), List.filter_eq_nil_iff.mpr]
        exact fun t member => Bool.eq_false_iff.mp (apart t member)
      have own := same.filter (·.key == s.key)
      rw [alone] at own
      exact (List.singleton_perm.mp own).symm
    have others : rest.Perm (m.filter fun t => !(t.key == s.key)) := by
      have left : (s :: rest).filter (fun t => !(t.key == s.key)) = rest := by
        rw [List.filter_cons, if_neg (by simp), List.filter_eq_self]
        intro t member
        rw [apart t member]
        rfl
      have own := same.filter fun t => !(t.key == s.key)
      rwa [left] at own
    rw [List.map_cons, arrange, first, ih others (different.sublist (List.filter_sublist.map _))]
    rfl

/-- Each order of the series is one in which they can be met. -/
theorem exists_inOrder {a b : Aggregation} (same : b.series.Perm a.series) :
    ∃ order, (a.inOrder order).series = b.series :=
  ⟨b.series.map Series.key, arrange_map_key same a.keys_nodup⟩

theorem keys_upsert (a : Aggregation) (s : Series) (f : Series → Series)
    (hf : ∀ t, (f t).key = t.key) :
    (a.upsert s f hf).keys = a.keys ++ if a.contains s.key then [] else [s.key] := by
  unfold upsert keys
  split
  · simp [map_key_updateSeries hf]
  · simp

/-- What merging series into `before` leads to: the series that were there come first, new ones
are taken on while there is room, and each series that is kept is merged with its own. -/
structure Merges (limit : Nat) (before : Aggregation) (l : List Series) (after : Aggregation) :
    Prop where
  keys : before.keys <+: after.keys
  size : after.size ≤ max limit before.size
  known : ∀ k s, before.find? k = some s →
    after.find? k = some ((l.find? (·.key == k)).elim s s.merge)
  new : ∀ k, before.find? k = none →
    after.find? k = l.find? (·.key == k) ∨ after.find? k = none ∧ limit ≤ after.size

variable {limit : Nat} {before after : Aggregation} {l : List Series}

theorem Merges.nil : Merges limit before [] before where
  keys := List.prefix_rfl
  size := Nat.le_max_right ..
  known _ _ found := found
  new _ absent := .inl absent

theorem Merges.size_le (merges : Merges limit before l after) : before.size ≤ after.size := by
  rw [← length_keys, ← length_keys]
  exact merges.keys.length_le

/-- One more series before the others, which is known or for which there is room. -/
theorem Merges.take {s : Series} (apart : l.find? (·.key == s.key) = none)
    (room : before.contains s.key = true ∨ before.size < limit)
    (rest : Merges limit (before.upsert s (·.merge s) fun t => Series.key_merge t s) l after) :
    Merges limit before (s :: l) after where
  keys := by
    refine List.IsPrefix.trans ?_ rest.keys
    rw [keys_upsert]
    exact List.prefix_append _ _
  size := by
    have grown := rest.size
    rw [size_upsert] at grown
    split at grown
    · exact grown
    · have below := room.resolve_left ‹_›
      omega
  known k t found := by
    by_cases here : s.key = k
    · have merged := rest.known k (t.merge s) (by rw [find?_upsert, if_pos here, found]; rfl)
      subst here
      simpa [apart] using merged
    · have kept := rest.known k t (by rw [find?_upsert, if_neg here, found])
      simpa [here] using kept
  new k absent := by
    by_cases here : s.key = k
    · have added := rest.known k s (by rw [find?_upsert, if_pos here, absent]; rfl)
      subst here
      left
      simpa [apart] using added
    · have others := rest.new k (by rw [find?_upsert, if_neg here, absent])
      simpa [here] using others

/-- One more series before the others, which is new and for which there is no room. -/
theorem Merges.refuse {s : Series} (apart : l.find? (·.key == s.key) = none)
    (unknown : before.contains s.key = false) (full : limit ≤ before.size)
    (rest : Merges limit before l after) : Merges limit before (s :: l) after where
  keys := rest.keys
  size := rest.size
  known k t found := by
    have here : s.key ≠ k := by
      rintro rfl
      rw [(contains_iff_find? before s.key).mpr ⟨t, found⟩] at unknown
      cases unknown
    simpa [here] using rest.known k t found
  new k absent := by
    by_cases here : s.key = k
    · subst here
      right
      refine ⟨?_, Nat.le_trans full rest.size_le⟩
      rcases rest.new s.key absent with same | ⟨none, _⟩
      · rw [same, apart]
      · exact none
    · simpa [here] using rest.new k absent

theorem merges_foldl (different : (l.map Series.key).Nodup) (before : Aggregation) (dropped : Nat) :
    Merges limit before l (l.foldl (mergeSeries limit) (before, dropped)).1 := by
  induction l generalizing before dropped with
  | nil => exact .nil
  | cons s rest ih =>
    rw [List.map_cons, List.nodup_cons] at different
    have apart : rest.find? (·.key == s.key) = none := by
      refine List.find?_eq_none.mpr fun t ht same => different.1 ?_
      rw [← eq_of_beq same]
      exact List.mem_map_of_mem ht
    rw [List.foldl_cons]
    by_cases room : (before.contains s.key || before.size < limit) = true
    · rw [mergeSeries, if_pos room]
      exact .take apart (by simpa using room) (ih different.2 _ _)
    · rw [mergeSeries, if_neg room]
      simp only [Bool.or_eq_true, decide_eq_true_eq, not_or, Bool.not_eq_true, Nat.not_lt] at room
      exact .refuse apart room.1 room.2 (ih different.2 _ _)

theorem merges_mergeInto (a running : Aggregation) :
    Merges limit running a.series (a.mergeInto running limit).1 :=
  merges_foldl a.keys_nodup running 0

/-- Once the running aggregation is full it takes on no series any more. -/
theorem Merges.absent (merges : Merges limit before l after) (full : limit ≤ before.size)
    {k : SeriesKey} (absent : before.find? k = none) : after.find? k = none := by
  have size := merges.size
  rw [Nat.max_eq_right full] at size
  have same : before.keys = after.keys :=
    merges.keys.eq_of_length_le (by rwa [length_keys, length_keys])
  rw [find?_eq_none] at absent ⊢
  rwa [← same]

theorem Merges.earlier (merges : Merges limit before l after) {k : SeriesKey} {s : Series}
    (found : before.find? k = some s) :
    ∃ t, after.find? k = some t ∧ t.firstSeen ≤ s.firstSeen := by
  refine ⟨_, merges.known k s found, ?_⟩
  cases l.find? (·.key == k) with
  | none => exact Nat.le_refl _
  | some t => exact Nat.min_le_left ..

/-- The running aggregation shows of each series all of its measurements, or nothing, and then
there are none or the aggregation is full. -/
structure Covers (limit : Nat) (ms : List Measurement) (a : Aggregation) : Prop where
  size : a.size ≤ limit
  series : ∀ k, (∃ s, a.find? k = some s ∧ s.Shows (Measurement.ofSeries k ms)) ∨
    a.find? k = none ∧ (Measurement.ofSeries k ms = [] ∨ limit ≤ a.size)

theorem Covers.shows {ms : List Measurement} {a : Aggregation} (covers : Covers limit ms a)
    {k : SeriesKey} {s : Series} (found : a.find? k = some s) :
    s.Shows (Measurement.ofSeries k ms) := by
  rcases covers.series k with ⟨t, same, shows⟩ | ⟨absent, _⟩
  · cases found.symm.trans same
    exact shows
  · cases found.symm.trans absent

theorem Covers.full_of_refused {ms : List Measurement} {a : Aggregation} (covers : Covers limit ms a)
    {k : SeriesKey} (absent : a.find? k = none) (some : Measurement.ofSeries k ms ≠ []) :
    limit ≤ a.size := by
  rcases covers.series k with ⟨s, found, _⟩ | ⟨_, none | full⟩
  · cases absent.symm.trans found
  · exact absurd none some
  · exact full

theorem Covers.empty (limit : Nat) : Covers limit [] empty where
  size := Nat.zero_le _
  series _ := .inr ⟨rfl, .inl rfl⟩

/-- Series of one key have the same instrument. -/
theorem instrument_eq {ms ns : List Measurement} (genuine : Measurement.Genuine (ms ++ ns))
    {k : SeriesKey} {s t : Series} (first : s.Shows (Measurement.ofSeries k ms))
    (second : t.Shows (Measurement.ofSeries k ns)) : t.instrument = s.instrument := by
  obtain ⟨m, hm⟩ := List.exists_mem_of_ne_nil _ first.nonempty
  obtain ⟨n, hn⟩ := List.exists_mem_of_ne_nil _ second.nonempty
  rw [← first.instrument m hm, ← second.instrument n hn]
  simp only [Measurement.ofSeries, List.mem_filter, decide_eq_true_eq] at hm hn
  exact genuine.instrument n (List.mem_append_right _ hn.1) m (List.mem_append_left _ hm.1)
    (congrArg SeriesKey.instrument (hn.2.trans hm.2.symm))

/-- The aggregation holds of each series what its measurements add up to, in whatever order it
lists the series. -/
def Gathers (ms : List Measurement) (a : Aggregation) : Prop :=
  ∀ k, a.find? k = Series.gathered? (Measurement.ofSeries k ms)

theorem Gathers.of_perm {ms : List Measurement} {a : Aggregation}
    (same : a.series.Perm (Channel.fill ms : Aggregation).series) : Gathers ms a := by
  intro k
  rw [find?_perm same, find?_fill]

theorem Covers.merge {ms ns : List Measurement} {running a : Aggregation}
    (covers : Covers limit ms running) (genuine : Measurement.Genuine (ms ++ ns))
    (gathers : Gathers ns a) : Covers limit (ms ++ ns) (a.mergeInto running limit).1 := by
  have merges : Merges limit running _ _ := merges_mergeInto a running
  have own : ∀ k, a.series.find? (·.key == k) = Series.gathered? (Measurement.ofSeries k ns) := gathers
  have shown : ∀ k t, Series.gathered? (Measurement.ofSeries k ns) = some t →
      t.Shows (Measurement.ofSeries k ns) := fun k t gathered =>
    Series.shows_gathered (genuine.mono (List.subset_append_right _ _)) gathered
  refine ⟨by simpa [Nat.max_eq_left covers.size] using merges.size, fun k => ?_⟩
  rw [Measurement.ofSeries_append]
  rcases covers.series k with ⟨s, found, shows⟩ | ⟨absent, none | full⟩
  · left
    refine ⟨_, merges.known k s found, ?_⟩
    rw [own]
    cases gathered : Series.gathered? (Measurement.ofSeries k ns) with
    | none => simpa [Series.gathered?_eq_none.mp gathered] using shows
    | some t =>
      have others := shown k t gathered
      exact shows.merge others (instrument_eq genuine shows others)
  · -- A series not seen before: the window has all of it, whether or not there is room for it.
    rw [none, List.nil_append]
    rcases merges.new k absent with same | ⟨refused, full⟩
    · rw [same, own]
      cases gathered : Series.gathered? (Measurement.ofSeries k ns) with
      | none => exact .inr ⟨rfl, .inl (Series.gathered?_eq_none.mp gathered)⟩
      | some t => exact .inl ⟨t, rfl, shown k t gathered⟩
    · exact .inr ⟨refused, .inr full⟩
  · exact .inr ⟨merges.absent full absent, .inr (Nat.le_trans full merges.size_le)⟩

theorem Covers.uniform {ms : List Measurement} {a : Aggregation} (covers : Covers limit ms a)
    (genuine : Measurement.Genuine ms) : a.Uniform := by
  have shows : ∀ s ∈ a.series, s.Shows (Measurement.ofSeries s.key ms) := fun s hs =>
    covers.shows (find?_of_mem hs)
  refine ⟨fun s hs => (shows s hs).data.kind, fun s hs t ht same => ?_⟩
  obtain ⟨m, hm⟩ := List.exists_mem_of_ne_nil _ (shows s hs).nonempty
  obtain ⟨n, hn⟩ := List.exists_mem_of_ne_nil _ (shows t ht).nonempty
  have first := (shows s hs).instrument m hm
  have second := (shows t ht).instrument n hn
  rw [← first, ← second] at same ⊢
  exact genuine.instrument m (List.mem_filter.mp hm).1 n (List.mem_filter.mp hn).1 same

/-- Windows merged one after the other into a running aggregation. -/
def merged (limit : Nat) (windows : List Aggregation) : Aggregation :=
  windows.foldl (fun running a => (a.mergeInto running limit).1) empty

theorem merged_concat (windows : List Aggregation) (a : Aggregation) :
    merged limit (windows ++ [a]) = (a.mergeInto (merged limit windows) limit).1 := by
  simp [merged, List.foldl_append]

/-- What holds at first, and is kept as each window is merged, holds once all of them are. -/
theorem merged_induction {P : List Measurement → Aggregation → Prop}
    {windows : List (List Measurement)} {parts : List Aggregation}
    (gathers : List.Forall₂ Gathers windows parts) (start : P [] empty)
    (merge : ∀ ms ns running a, ms ++ ns <+: windows.flatten → Gathers ns a → P ms running →
      P (ms ++ ns) (a.mergeInto running limit).1) : P windows.flatten (merged limit parts) := by
  suffices rest : ∀ ms running all, ms ++ windows.flatten = all → P ms running →
      (∀ ms ns running a, ms ++ ns <+: all → Gathers ns a → P ms running →
        P (ms ++ ns) (a.mergeInto running limit).1) →
      P all (parts.foldl (fun running a => (a.mergeInto running limit).1) running) by
    exact rest [] empty windows.flatten rfl start merge
  clear merge start
  induction gathers with
  | nil =>
    intro ms running all whole held _
    simpa [← whole] using held
  | @cons ns a others _ first _ ih =>
    intro ms running all whole held merge
    rw [List.flatten_cons, ← List.append_assoc] at whole
    exact ih _ _ _ whole (merge ms ns running a ⟨others.flatten, whole⟩ first held) merge

theorem covers_merged {windows : List (List Measurement)} {parts : List Aggregation}
    (genuine : Measurement.Genuine windows.flatten) (gathers : List.Forall₂ Gathers windows parts) :
    Covers limit windows.flatten (merged limit parts) := by
  apply merged_induction gathers
  · exact .empty limit
  · intro ms ns running a part own covers
    exact covers.merge (genuine.mono part.subset) own

/-- Windows have been merged into a running aggregation: each of them once, one after the other, and
the series of each in whatever order they were met. -/
def Accumulates (limit : Nat) (windows : List Aggregation) (running : Aggregation) : Prop :=
  ∃ met, List.Forall₂ (fun a b => b.series.Perm a.series) windows met ∧ running = merged limit met

theorem Accumulates.nil : Accumulates limit [] empty := ⟨[], .nil, rfl⟩

theorem Accumulates.concat {windows : List Aggregation} {running a b : Aggregation}
    (accumulates : Accumulates limit windows running) (same : b.series.Perm a.series) :
    Accumulates limit (windows ++ [a]) (b.mergeInto running limit).1 := by
  obtain ⟨met, reordered, rfl⟩ := accumulates
  refine ⟨met ++ [b], List.rel_append reordered (.cons same .nil), ?_⟩
  rw [merged_concat]

theorem Accumulates.covers {windows : List (List Measurement)} {running : Aggregation}
    (accumulates : Accumulates limit (windows.map Channel.fill) running)
    (genuine : Measurement.Genuine windows.flatten) : Covers limit windows.flatten running := by
  obtain ⟨met, reordered, rfl⟩ := accumulates
  rw [List.forall₂_map_left_iff] at reordered
  exact covers_merged genuine (reordered.imp fun _ _ => Gathers.of_perm)

/-- A later state of a running aggregation. -/
structure Evolves (limit : Nat) (before after : Aggregation) : Prop where
  keys : before.keys <+: after.keys
  earlier : ∀ k s, before.find? k = some s →
    ∃ t, after.find? k = some t ∧ t.firstSeen ≤ s.firstSeen
  full : limit ≤ before.size → ∀ k, before.find? k = none → after.find? k = none

theorem Evolves.refl (limit : Nat) (a : Aggregation) : Evolves limit a a where
  keys := List.prefix_rfl
  earlier _ s found := ⟨s, found, Nat.le_refl _⟩
  full _ _ absent := absent

theorem Evolves.trans {later : Aggregation} (first : Evolves limit before after)
    (second : Evolves limit after later) : Evolves limit before later where
  keys := first.keys.trans second.keys
  earlier k s found := by
    obtain ⟨t, kept, before⟩ := first.earlier k s found
    obtain ⟨u, still, after⟩ := second.earlier k t kept
    exact ⟨u, still, Nat.le_trans after before⟩
  full reached k absent := by
    have size := first.keys.length_le
    rw [length_keys, length_keys] at size
    exact second.full (Nat.le_trans reached size) k (first.full reached k absent)

theorem Merges.evolves (merges : Merges limit before l after) : Evolves limit before after where
  keys := merges.keys
  earlier _ _ found := merges.earlier found
  full reached _ absent := merges.absent reached absent

end Telemetry.Aggregation
