import Mathlib.Data.List.Perm.Basic
import Mathlib.Data.List.Range
import Telemetry.Proofs.Aggregation.Shows
import Telemetry.Proofs.Sorted

/-! The buckets of a histogram. Where the bounds increase, halving finds the bucket of a value, and
the counts add up to the number of values. Main result: `HistogramState.Shows.tallies`. -/
namespace Telemetry

/-- Halving finds the end of a part `0 .. cut` at which `p` holds, where it holds nowhere after. -/
theorem partitionPoint_eq {p : Nat → Bool} {cut base size : Nat} (low : base ≤ cut)
    (high : cut ≤ base + size) (parts : ∀ i < base + size, p i = true ↔ i < cut) :
    partitionPoint p base size = cut := by
  induction base, size using partitionPoint.induct p with
  | case1 base =>
    rw [partitionPoint, if_pos rfl]
    omega
  | case2 base holds =>
    have below := (parts base (by omega)).mp holds
    rw [partitionPoint, if_neg Nat.one_ne_zero, if_pos rfl, if_pos holds]
    omega
  | case3 base fails =>
    have above := (parts base (by omega)).not.mp fails
    rw [partitionPoint, if_neg Nat.one_ne_zero, if_pos rfl, if_neg fails]
    omega
  | case4 base size some more half ih =>
    have middle := parts (base + half) (by omega)
    rw [partitionPoint, if_neg some, if_neg more]
    change partitionPoint p (if p (base + half) = true then base + half else base) (size - half) = cut
    by_cases holds : p (base + half) = true
    · have below := middle.mp holds
      rw [dif_pos holds] at ih
      rw [if_pos holds]
      exact ih (by omega) (by omega) fun i inside => parts i (by omega)
    · have above := middle.not.mp holds
      rw [dif_neg holds] at ih
      rw [if_neg holds]
      exact ih low (by omega) fun i inside => parts i (by omega)

/-- Bounds that a histogram can have: finite and strictly increasing. -/
structure Increasing (edges : List Binary64) : Prop where
  finite : ∀ b ∈ edges, b.isFinite = true
  ordered : edges.Pairwise fun a b => a.lt b = true

namespace Increasing

variable {edges : List Binary64} {b : Binary64}

theorem isNaN (increasing : Increasing edges) : ∀ c ∈ edges, c.isNaN = false := by
  intro c member
  exact Binary64.isNaN_of_isFinite (increasing.finite c member)

theorem tail (increasing : Increasing (b :: edges)) : Increasing edges where
  finite c member := increasing.finite c (List.mem_cons_of_mem b member)
  ordered := increasing.ordered.of_cons

/-- Where the first bound is not below a value, no bound is. -/
theorem not_lt (increasing : Increasing (b :: edges)) {x : Binary64} (number : x.isNaN = false)
    (above : b.lt x = false) : ∀ c ∈ b :: edges, c.lt x = false := by
  intro c member
  rcases List.mem_cons.mp member with rfl | later
  · exact above
  · have own := increasing.isNaN b List.mem_cons_self
    have other := increasing.isNaN c member
    have less := (Binary64.lt_iff own other).mp (List.rel_of_pairwise_cons increasing.ordered later)
    have least := (Binary64.le_iff number own).mp ((Binary64.not_lt_iff number own).mp above)
    apply (Binary64.not_lt_iff number other).mpr
    apply (Binary64.le_iff number other).mpr
    omega

end Increasing

namespace HistogramState

/-- Whether a value is in the bucket at place `i`: above the bound before that place and not above
the bound at it, where there are such bounds. -/
def inBucket (edges : List Binary64) (i : Nat) (x : Binary64) : Bool :=
  (i == 0 || edges[i - 1]?.all (·.lt x)) && edges[i]?.all (x.le ·)

variable {edges xs ys : List Binary64} {g h : HistogramState}

/-- In increasing bounds the ones below a value come first. -/
theorem lt_countP_iff (increasing : Increasing edges) {x : Binary64} (number : x.isNaN = false)
    {i : Nat} (inside : i < edges.length) :
    edges[i].lt x = true ↔ i < edges.countP (·.lt x) := by
  induction edges generalizing i with
  | nil => cases inside
  | cons b rest ih =>
    cases below : b.lt x with
    | true =>
      rw [List.countP_cons, if_pos below]
      cases i with
      | zero => simp [below]
      | succ i => simpa using ih increasing.tail (Nat.lt_of_succ_lt_succ inside)
    | false =>
      have none := increasing.not_lt number below
      have zero : (b :: rest).countP (·.lt x) = 0 := by
        rw [List.countP_eq_zero]
        intro c member
        rw [none c member]
        exact Bool.false_ne_true
      rw [zero, none _ (List.getElem_mem inside)]
      simp

/-- The bucket of a value is the number of bounds below it. -/
theorem bucketOf_eq (increasing : Increasing edges) {x : Binary64} (number : x.isNaN = false) :
    bucketOf edges x = edges.countP (·.lt x) := by
  unfold bucketOf
  apply partitionPoint_eq (Nat.zero_le _)
  · rw [Nat.zero_add]
    exact List.countP_le_length
  · intro i inside
    rw [Nat.zero_add] at inside
    rw [List.getElem?_eq_getElem inside]
    exact lt_countP_iff increasing number inside

theorem bucketOf_le (increasing : Increasing edges) {x : Binary64} (number : x.isNaN = false) :
    bucketOf edges x ≤ edges.length := by
  rw [bucketOf_eq increasing number]
  exact List.countP_le_length

/-- A value is put into the one bucket that it is in. -/
theorem bucketOf_eq_iff (increasing : Increasing edges) {x : Binary64} (number : x.isNaN = false)
    {i : Nat} (place : i ≤ edges.length) :
    bucketOf edges x = i ↔ inBucket edges i x = true := by
  have count : edges.countP (·.lt x) ≤ edges.length := List.countP_le_length
  have before : (i == 0 || edges[i - 1]?.all (·.lt x)) = true ↔
      i ≤ edges.countP (·.lt x) := by
    cases i with
    | zero => simp
    | succ i =>
      have cut := lt_countP_iff increasing number (i := i) place
      simpa [List.getElem?_eq_getElem (Nat.lt_of_succ_le place), Nat.add_one_le_iff] using cut
  have behind : edges[i]?.all (x.le ·) = true ↔ edges.countP (·.lt x) ≤ i := by
    rcases Nat.lt_or_ge i edges.length with inside | outside
    · have cut := lt_countP_iff increasing number inside
      have own := increasing.isNaN _ (List.getElem_mem inside)
      rw [List.getElem?_eq_getElem inside, Option.all_some, ← Binary64.not_lt_iff number own,
        ← Bool.not_eq_true, cut, Nat.not_lt]
    · rw [List.getElem?_eq_none outside]
      simp only [Option.all_none, true_iff]
      omega
  rw [bucketOf_eq increasing number, inBucket, Bool.and_eq_true, before, behind]
  omega

/-- The histogram counts the values by bucket and knows their number and extremes. -/
structure Tallies (edges xs : List Binary64) (h : HistogramState) : Prop where
  bounds : h.bounds = edges
  places : h.bucketCounts.length = edges.length + 1
  buckets : ∀ i c, h.bucketCounts[i]? = some c → c.toNat = xs.countP (inBucket edges i)
  total : (h.bucketCounts.map UInt64.toNat).sum = h.count.toNat
  count : h.count.toNat = xs.length
  least : h.min ∈ xs ∧ ∀ x ∈ xs, h.min.le x = true
  greatest : h.max ∈ xs ∧ ∀ x ∈ xs, x.le h.max = true

/-- Every value is in one of the buckets. -/
theorem sum_countP_bucketOf (increasing : Increasing edges)
    (numbers : ∀ x ∈ xs, x.isNaN = false) :
    ((List.range (edges.length + 1)).map fun i => xs.countP (bucketOf edges · = i)).sum =
      xs.length := by
  have parts := Sorted.flatMap_filter_perm (bucketOf edges) List.nodup_range
    (l := xs) fun x hx => List.mem_range.mpr
      (Nat.lt_succ_of_le (bucketOf_le increasing (numbers x hx)))
  have lengths := parts.length_eq
  rw [List.length_flatMap] at lengths
  simpa [List.countP_eq_length_filter] using lengths

/-- Bounds and values that a histogram counts right. -/
structure Countable (edges xs : List Binary64) : Prop where
  increasing : Increasing edges
  finite : ∀ x ∈ xs, x.isFinite = true
  some : xs ≠ []
  few : xs.length < 2 ^ 64

theorem Shows.tallies (shows : h.Shows edges xs) (countable : Countable edges xs) :
    h.Tallies edges xs := by
  obtain ⟨increasing, finite, some, few⟩ := countable
  have numbers (x : Binary64) (hx : x ∈ xs) := Binary64.isNaN_of_isFinite (finite x hx)
  have exact (p : Binary64 → Bool) : (UInt64.ofNat (xs.countP p)).toNat = xs.countP p :=
    UInt64.toNat_ofNat_of_lt' (Nat.lt_of_le_of_lt List.countP_le_length few)
  have count : h.count.toNat = xs.length := by
    rw [shows.count]
    exact UInt64.toNat_ofNat_of_lt' few
  constructor
  · exact shows.bounds
  · simp [shows.bucketCounts, bucketed]
  · intro i c found
    rw [shows.bucketCounts, bucketed, List.getElem?_map, Option.map_eq_some_iff] at found
    obtain ⟨j, listed, rfl⟩ := found
    obtain ⟨place, rfl⟩ := List.getElem?_eq_some_iff.mp listed
    rw [List.length_range] at place
    rw [exact, List.getElem_range]
    apply List.countP_congr
    intro x hx
    rw [decide_eq_true_eq]
    exact bucketOf_eq_iff increasing (numbers x hx) (Nat.le_of_lt_succ place)
  · rw [count, shows.bucketCounts, bucketed, List.map_map, ← sum_countP_bucketOf increasing numbers]
    refine congrArg List.sum (List.map_congr_left fun i _ => ?_)
    exact exact _
  · exact count
  · rw [shows.min]
    exact Binary64.foldl_min_least finite some
  · rw [shows.max]
    exact Binary64.foldl_max_greatest finite some

/-- Histograms alike up to the sum of their values and the sign of an extreme that is zero. -/
structure Agrees (g h : HistogramState) : Prop where
  bounds : g.bounds = h.bounds
  bucketCounts : g.bucketCounts = h.bucketCounts
  count : g.count = h.count
  min : g.min.Same h.min
  max : g.max.Same h.max

theorem bucketed_perm (same : xs.Perm ys) : bucketed edges xs = bucketed edges ys := by
  refine List.map_congr_left fun i _ => ?_
  rw [same.countP_eq]

/-- The order of the values does not matter. -/
theorem Shows.agrees (left : g.Shows edges xs) (right : h.Shows edges ys) (same : xs.Perm ys)
    (countable : Countable edges xs) : g.Agrees h := by
  obtain ⟨-, finite, some, -⟩ := countable
  have finite' : ∀ y ∈ ys, y.isFinite = true := fun y hy => finite y (same.mem_iff.mpr hy)
  have some' : ys ≠ [] := fun none => some (none ▸ same).eq_nil
  constructor
  · rw [left.bounds, right.bounds]
  · rw [left.bucketCounts, right.bucketCounts, bucketed_perm same]
  · rw [left.count, right.count, same.length_eq]
  · obtain ⟨inXs, leastXs⟩ := Binary64.foldl_min_least finite some
    obtain ⟨inYs, leastYs⟩ := Binary64.foldl_min_least finite' some'
    rw [left.min, right.min]
    exact Binary64.same_of_le (leastXs _ (same.mem_iff.mpr inYs)) (leastYs _ (same.mem_iff.mp inXs))
  · obtain ⟨inXs, greatestXs⟩ := Binary64.foldl_max_greatest finite some
    obtain ⟨inYs, greatestYs⟩ := Binary64.foldl_max_greatest finite' some'
    rw [left.max, right.max]
    exact Binary64.same_of_le (greatestYs _ (same.mem_iff.mp inXs))
      (greatestXs _ (same.mem_iff.mpr inYs))

end HistogramState
end Telemetry
