import Telemetry.Proofs.Batch

/-! Quantities that measurements add up to: the sum of a counter's increments and the number of a
histogram's values. Aggregations hold them and batches show them. -/
namespace Telemetry

/-- A quantity of measurements that aggregations hold and batches show. -/
structure Tally where
  amount : List Measurement → Nat
  held : Aggregation → Nat
  shown : Batch → Nat

namespace Tally

/-- What the increments of a series sum up to. -/
def added (k : SeriesKey) : Tally where
  amount ms := Measurement.sum (Measurement.ofSeries k ms)
  held a := a.added k
  shown b := b.added k

/-- The number of observations of a series. -/
def count (k : SeriesKey) : Tally where
  amount ms := (Measurement.observations (Measurement.ofSeries k ms)).length
  held a := a.count k
  shown b := b.count k

/-- The quantity adds up, a filled aggregation holds it while it fits a 64-bit count, and a
batch shows what the aggregation holds. -/
structure Lawful (t : Tally) : Prop where
  amount_nil : t.amount [] = 0
  amount_append : ∀ ms ns, t.amount (ms ++ ns) = t.amount ms + t.amount ns
  held_fill : ∀ ms, Measurement.Genuine ms → t.amount ms < 2 ^ 64 → t.held (Channel.fill ms) = t.amount ms
  held_withWindow : ∀ a window, t.held (a.withWindow window) = t.held a
  held_empty : ∀ a : Aggregation, a.size = 0 → t.held a = 0
  shown_toBatch : ∀ a : Aggregation, a.Uniform → ∀ resource temporality start time,
    t.shown (a.toBatch resource temporality start time) = t.held a

theorem lawful_added (k : SeriesKey) : (added k).Lawful where
  amount_nil := rfl
  amount_append ms ns := by
    simp only [added, Measurement.ofSeries_append, Measurement.sum_append]
  held_fill ms genuine fits := by
    simp only [added] at fits ⊢
    rw [Aggregation.added_fill genuine]
    omega
  held_withWindow _ _ := rfl
  held_empty a empty := by simp [added, Aggregation.added, Aggregation.find?_of_size_eq_zero empty]
  shown_toBatch a uniform resource temporality start time :=
    Aggregation.added_toBatch temporality start time uniform resource k

theorem lawful_count (k : SeriesKey) : (count k).Lawful where
  amount_nil := rfl
  amount_append ms ns := by
    simp only [count, Measurement.ofSeries_append, Measurement.observations_append, List.length_append]
  held_fill ms genuine fits := by
    simp only [count] at fits ⊢
    rw [Aggregation.count_fill genuine, Nat.mod_eq_of_lt fits]
  held_withWindow _ _ := rfl
  held_empty a empty := by simp [count, Aggregation.count, Aggregation.find?_of_size_eq_zero empty]
  shown_toBatch a uniform resource temporality start time :=
    Aggregation.count_toBatch temporality start time uniform resource k

variable {t : Tally}

theorem Lawful.amount_flatten (lawful : t.Lawful) (l : List (List Measurement)) :
    t.amount l.flatten = (l.map t.amount).sum := by
  induction l with
  | nil => exact lawful.amount_nil
  | cons ms rest ih => rw [List.flatten_cons, lawful.amount_append, ih, List.map_cons, List.sum_cons]

theorem Lawful.amount_le_flatten (lawful : t.Lawful) {l : List (List Measurement)}
    {ms : List Measurement} (member : ms ∈ l) : t.amount ms ≤ t.amount l.flatten := by
  obtain ⟨left, right, rfl⟩ := List.append_of_mem member
  rw [List.flatten_append, List.flatten_cons, lawful.amount_append, lawful.amount_append]
  omega

/-- Filled aggregations hold together what their measurements amount to. -/
theorem Lawful.held_fills (lawful : t.Lawful) {l : List (List Measurement)}
    (genuine : Measurement.Genuine l.flatten) (fits : t.amount l.flatten < 2 ^ 64) :
    ((l.map Channel.fill).map t.held).sum = t.amount l.flatten := by
  rw [lawful.amount_flatten, List.map_map]
  refine congrArg List.sum (List.map_congr_left fun ms member => ?_)
  exact lawful.held_fill ms (genuine.mono (fun m hm => List.mem_flatten.mpr ⟨ms, member, hm⟩))
    (Nat.lt_of_le_of_lt (lawful.amount_le_flatten member) fits)

end Tally

end Telemetry
