import Telemetry.Aggregation
import Telemetry.Channel.Buffer

/-! Aggregations as the buffer of a channel: entries are series, so a measurement of a
series that is there already takes no room. -/
namespace Telemetry.Aggregation

instance : Channel.Buffer Aggregation Measurement where
  empty := empty
  push := push
  size := size
  growsWith := growsWith

theorem size_upsert (a : Aggregation) (s : Series) (f : Series → Series) (hf : ∀ t, (f t).key = t.key) :
    (a.upsert s f hf).size = a.size + if a.contains s.key then 0 else 1 := by
  unfold upsert size
  split
  · simp [updateSeries]
  · simp

instance : Channel.LawfulBuffer Aggregation Measurement where
  size_empty := rfl
  size_push a m := by
    have key : ((Series.start m).record m.value).key = m.key := by
      rw [Series.key_record]; rfl
    simp only [Channel.Buffer.size, Channel.Buffer.push, Channel.Buffer.growsWith, push, growsWith,
      size_upsert, key]
    by_cases h : a.contains m.key = true <;> simp [h]

end Telemetry.Aggregation
