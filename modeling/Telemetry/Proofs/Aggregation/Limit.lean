import Telemetry.Proofs.Aggregation.Regrouping

/-! Merging into a running aggregation that has a limit. How many series it takes on, and how many
it refuses, follows from how many it does not know and how much room it has, in whatever order they
come. Main result: `mergeInto_at_limit`. -/
namespace Telemetry.Aggregation

variable {limit : Nat} {before running : Aggregation} {l : List Series}

/-- How many of the series an aggregation does not have. -/
def unknownCount (running : Aggregation) (l : List Series) : Nat :=
  l.countP fun s => !running.contains s.key

theorem contains_upsert (a : Aggregation) (s : Series) (f : Series → Series)
    (hf : ∀ t, (f t).key = t.key) (k : SeriesKey) :
    (a.upsert s f hf).contains k = (decide (s.key = k) || a.contains k) := by
  rw [Bool.eq_iff_iff, contains_iff_find?, find?_upsert, Bool.or_eq_true, decide_eq_true_eq,
    contains_iff_find?]
  by_cases here : s.key = k <;> simp [here]

/-- Series of other keys stay known or unknown. -/
theorem unknownCount_upsert {s : Series} {f : Series → Series} {hf : ∀ t, (f t).key = t.key}
    (other : s.key ∉ l.map Series.key) :
    (before.upsert s f hf).unknownCount l = before.unknownCount l := by
  refine List.countP_congr fun t member => ?_
  have apart : s.key ≠ t.key := fun same => other (same ▸ List.mem_map_of_mem member)
  simp [contains_upsert, apart]

/-- What is taken on and what is refused are counted by the unknown series and the room. -/
theorem count_foldl (different : (l.map Series.key).Nodup) (before : Aggregation) (dropped : Nat) :
    (l.foldl (mergeSeries limit) (before, dropped)).1.size =
        before.size + min (before.unknownCount l) (limit - before.size) ∧
      (l.foldl (mergeSeries limit) (before, dropped)).2 =
        dropped + (before.unknownCount l - (limit - before.size)) := by
  -- The size is read anew for each series: with every one taken on the room shrinks by one, and so
  -- does the number of unknown ones behind it, since no key comes twice.
  induction l generalizing before dropped with
  | nil => simp [unknownCount]
  | cons s rest ih =>
    rw [List.map_cons, List.nodup_cons] at different
    obtain ⟨other, different⟩ := different
    rw [List.foldl_cons, unknownCount, List.countP_cons, ← unknownCount]
    cases known : before.contains s.key with
    | true =>
      have taken := ih different (before.upsert s (·.merge s) fun t => Series.key_merge t s) dropped
      rw [unknownCount_upsert other, size_upsert, if_pos known] at taken
      simpa [mergeSeries, known] using taken
    | false =>
      by_cases room : before.size < limit
      · have taken := ih different (before.upsert s (·.merge s) fun t => Series.key_merge t s) dropped
        rw [unknownCount_upsert other, size_upsert, if_neg (by simp [known])] at taken
        simp only [mergeSeries, known, room, Bool.false_or, decide_true, if_true, Bool.not_false]
        omega
      · have refused := ih different before (dropped + 1)
        simp only [mergeSeries, known, room, Bool.false_or, decide_false, Bool.false_eq_true,
          if_false, Bool.not_false, if_true]
        omega

theorem count_mergeInto (a running : Aggregation) :
    (a.mergeInto running limit).1.size =
        running.size + min (running.unknownCount a.series) (limit - running.size) ∧
      (a.mergeInto running limit).2 =
        running.unknownCount a.series - (limit - running.size) := by
  have counted := @count_foldl limit _ a.keys_nodup running 0
  rwa [Nat.zero_add] at counted

theorem unknownCount_perm {m : List Series} (same : l.Perm m) :
    running.unknownCount l = running.unknownCount m := same.countP_eq _

/-- The series that are not there afterwards are among the unknown ones. -/
theorem admitted_add_dropped (a running : Aggregation) :
    (a.series.countP fun s =>
        !running.contains s.key && (a.mergeInto running limit).1.contains s.key) +
      (a.mergeInto running limit).2 = running.unknownCount a.series := by
  have merges : Merges limit running a.series _ := merges_mergeInto a running
  have refused : (a.mergeInto running limit).2 = a.series.countP fun s =>
      !running.contains s.key && !(a.mergeInto running limit).1.contains s.key := by
    rw [dropped_mergeInto]
    refine List.countP_congr fun s _ => ?_
    cases known : running.contains s.key with
    | false => simp
    | true =>
      obtain ⟨t, found⟩ := (contains_iff_find? _ _).mp known
      have kept := (contains_iff_find? _ _).mpr ⟨_, merges.known s.key t found⟩
      simp [kept]
  rw [refused, unknownCount, List.countP_eq_countP_filter_add a.series
    (fun s => !running.contains s.key) fun s => (a.mergeInto running limit).1.contains s.key,
    List.countP_filter, List.countP_filter]

section Merges

variable {after : Aggregation} {k : SeriesKey}

/-- What the series do not name stays as it was. -/
theorem Merges.untouched (merges : Merges limit before l after)
    (absent : l.find? (·.key == k) = none) : after.find? k = before.find? k := by
  cases found : before.find? k with
  | none =>
    rcases merges.new k found with own | ⟨none, _⟩
    · rw [own, absent]
    · exact none
  | some s =>
    have kept := merges.known k s found
    rwa [absent] at kept

/-- A series that is new afterwards is one of those that were merged in. -/
theorem Merges.origin (merges : Merges limit before l after) {t : Series}
    (absent : before.find? k = none) (found : after.find? k = some t) :
    l.find? (·.key == k) = some t := by
  rcases merges.new k absent with own | ⟨none, _⟩
  · rw [← own, found]
  · cases none.symm.trans found

end Merges

/-- A running aggregation takes on as many of the series that it does not know as it has room for,
and refuses the others. It merges what it has with the series of the same key, so that the merged
one shows the measurements of both, and nothing else of it changes. The order of the series only
decides which of them are taken on. -/
theorem mergeInto_at_limit {a ordered : Aggregation} (same : ordered.series.Perm a.series)
    (running : Aggregation) (limit : Nat) :
    let unknown := a.series.countP fun s => !running.contains s.key
    let admitted := min unknown (limit - running.size)
    let after := (ordered.mergeInto running limit).1
    let dropped := (ordered.mergeInto running limit).2
    (a.series.countP fun s => !running.contains s.key && after.contains s.key) = admitted ∧
      dropped = unknown - admitted ∧ after.size = running.size + admitted ∧
      (∀ k s t, running.find? k = some s → a.find? k = some t →
        after.find? k = some (s.merge t) ∧
          ∀ ms ns, s.Shows ms → t.Shows ns → t.instrument = s.instrument →
            (s.merge t).Shows (ms ++ ns)) ∧
      (∀ k, a.find? k = none → after.find? k = running.find? k) ∧
      ∀ k t, running.find? k = none → after.find? k = some t → a.find? k = some t := by
  intro unknown admitted after dropped
  have merges : Merges limit running ordered.series _ := merges_mergeInto ordered running
  have listed : ∀ k, ordered.series.find? (·.key == k) = a.find? k := find?_perm same
  obtain ⟨size, refused⟩ := @count_mergeInto limit ordered running
  have known : running.unknownCount ordered.series = unknown := unknownCount_perm same
  have parts : (a.series.countP fun s => !running.contains s.key && after.contains s.key) +
      dropped = unknown := by
    rw [← same.countP_eq, ← known]
    exact admitted_add_dropped ordered running
  rw [known] at size refused
  refine ⟨by omega, by omega, size, ?_, ?_, ?_⟩
  · intro k s t found other
    have merged := merges.known k s found
    rw [listed, other] at merged
    exact ⟨merged, fun ms ns own others => own.merge others⟩
  · intro k absent
    exact merges.untouched ((listed k).trans absent)
  · intro k t absent found
    rw [← listed]
    exact merges.origin absent found

/-- A measurement of the counter with an id. -/
def counted (id : Nat) (n : UInt64) : Measurement :=
  ⟨⟨id, "counted", .counter, none, none, .ofName "test", none⟩, .increment n, .empty, ⟨.ofSeconds 1⟩⟩

/-- A counter and a histogram are known, and of two other counters there is room for one. -/
theorem mergeInto_at_limit_crowded :
    let running : Aggregation := Channel.fill [counted 0 1, measured .zero 1]
    let a : Aggregation :=
      Channel.fill [counted 0 2, counted 2 1, measured .negativeInfinity 2, counted 3 1]
    let after := ((turned a).mergeInto running 3).1
    let dropped := ((turned a).mergeInto running 3).2
    dropped = 1 ∧ after.size = 3 ∧ (after.find? ⟨0, .empty⟩).map (·.data) = some (.total 3) ∧
      ∃ s, after.find? ⟨1, .empty⟩ = some s ∧
        s.Shows [measured .zero 1, measured .negativeInfinity 2] ∧ s.data.count = 2 := by
  intro running a after dropped
  have reversed : (turned a).series.Perm a.series := List.reverse_perm _
  have before : Measurement.Genuine [counted 0 1, measured .zero 1] := ⟨by decide, by decide⟩
  have window : Measurement.Genuine
      [counted 0 2, counted 2 1, measured .negativeInfinity 2, counted 3 1] :=
    ⟨by decide, by decide⟩
  obtain ⟨_, refused, size, known, _, _⟩ := mergeInto_at_limit reversed running 3
  obtain ⟨total, _⟩ := known ⟨0, .empty⟩ _ _ rfl rfl
  obtain ⟨histogram, shows⟩ := known ⟨1, .empty⟩ _ _ rfl rfl
  refine ⟨refused.trans (by decide), size.trans (by decide), ?_, _, histogram, ?_, ?_⟩
  · rw [total]
    decide
  · have first := Series.shows_gathered before ((find?_fill _ ⟨1, .empty⟩).symm.trans rfl)
    have second := Series.shows_gathered window ((find?_fill _ ⟨1, .empty⟩).symm.trans rfl)
    exact shows _ _ first second rfl
  · decide

end Telemetry.Aggregation
