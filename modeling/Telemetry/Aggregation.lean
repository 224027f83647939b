import Telemetry.Aggregation.Series

/-! Aggregations: the series of one collection window, one for each instrument and set of
attributes. -/
namespace Telemetry

/-- Series with pairwise different keys, in the order of their first measurement, and the
window they were collected over once that is settled. -/
structure Aggregation where
  series : List Series
  window : Option (Timestamp × Timestamp)
  keys_nodup : (series.map Series.key).Nodup
deriving DecidableEq

namespace Aggregation

def empty : Aggregation := ⟨[], none, List.nodup_nil⟩

instance : Inhabited Aggregation := ⟨empty⟩

/-- The number of series. -/
def size (a : Aggregation) : Nat := a.series.length

def isEmpty (a : Aggregation) : Bool := a.series.isEmpty

def find? (a : Aggregation) (k : SeriesKey) : Option Series := a.series.find? (·.key == k)

def contains (a : Aggregation) (k : SeriesKey) : Bool := a.series.any (·.key == k)

/-- Changes the series of a key where there is one. -/
def updateSeries (k : SeriesKey) (f : Series → Series) (l : List Series) : List Series :=
  l.map fun s => if s.key = k then f s else s

theorem map_key_updateSeries {k : SeriesKey} {f : Series → Series} (hf : ∀ s, (f s).key = s.key)
    (l : List Series) : (updateSeries k f l).map Series.key = l.map Series.key := by
  simp only [updateSeries, List.map_map]
  refine List.map_congr_left fun s _ => ?_
  simp only [Function.comp]
  split
  · exact hf s
  · rfl

theorem keys_nodup_append {a : Aggregation} {s : Series} (absent : a.contains s.key = false) :
    ((a.series ++ [s]).map Series.key).Nodup := by
  rw [List.map_append, List.nodup_append]
  refine ⟨a.keys_nodup, by simp, fun k hk j hj same => ?_⟩
  obtain ⟨t, ht, rfl⟩ := List.mem_map.mp hk
  simp only [List.map_cons, List.map_nil, List.mem_singleton] at hj
  have : a.contains s.key = true := List.any_eq_true.mpr ⟨t, ht, by simp [same, hj]⟩
  simp [absent] at this

/-- Adds a series whose key is new, and changes the present one otherwise. -/
def upsert (a : Aggregation) (s : Series) (f : Series → Series) (hf : ∀ t, (f t).key = t.key) :
    Aggregation :=
  if h : a.contains s.key = true then
    { a with
      series := updateSeries s.key f a.series
      keys_nodup := by rw [map_key_updateSeries hf]; exact a.keys_nodup }
  else
    { a with
      series := a.series ++ [s]
      keys_nodup := keys_nodup_append (Bool.eq_false_iff.mpr h) }

/-- Whether a measurement would add a series. -/
def growsWith (a : Aggregation) (m : Measurement) : Bool := !a.contains m.key

/-- Folds a measurement into its series. -/
def push (a : Aggregation) (m : Measurement) : Aggregation :=
  a.upsert ((Series.start m).record m.value) (·.record m.value) fun s => Series.key_record s m.value

def withWindow (a : Aggregation) (window : Option (Timestamp × Timestamp)) : Aggregation :=
  { a with window }

/-- The series of the keys first, as the keys come, and the others behind them as they are. -/
def arrange : List SeriesKey → List Series → List Series
  | [], l => l
  | k :: rest, l => l.filter (·.key == k) ++ arrange rest (l.filter fun s => !(s.key == k))

theorem arrange_perm (order : List SeriesKey) (l : List Series) : (arrange order l).Perm l := by
  induction order generalizing l with
  | nil => exact .refl l
  | cons k rest ih =>
    exact ((ih _).append_left _).trans (List.filter_append_perm (·.key == k) l)

/-- The aggregation with its series in another order. Whoever goes through them may meet them in any
order, and only a merge that has too little room shows in which. -/
def inOrder (order : List SeriesKey) (a : Aggregation) : Aggregation where
  series := arrange order a.series
  window := a.window
  keys_nodup := ((arrange_perm order a.series).map Series.key).nodup_iff.mpr a.keys_nodup

/-- Merges one series into a running aggregation of at most `limit` series, and counts it
as dropped where it is new and there is no room. -/
def mergeSeries (limit : Nat) : Aggregation × Nat → Series → Aggregation × Nat
  | (running, dropped), s =>
    if running.contains s.key || running.size < limit then
      (running.upsert s (·.merge s) fun t => Series.key_merge t s, dropped)
    else (running, dropped + 1)

/-- Folds the series of `a` into `running`, which takes on new ones while it holds fewer
than `limit`, and counts those it refuses. -/
def mergeInto (a running : Aggregation) (limit : Nat) : Aggregation × Nat :=
  a.series.foldl (mergeSeries limit) (running, 0)

end Aggregation
end Telemetry
