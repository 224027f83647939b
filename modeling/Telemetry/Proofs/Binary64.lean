import Mathlib.Tactic.Common
import Telemetry.Binary64

/-! The least and the greatest of a sequence of values, taken one after the other or in parts. -/
namespace Telemetry

/-- A fold can begin anew in the middle, where the operation is associative and `e` changes no
good value. -/
theorem foldl_from {α : Type} {f : α → α → α} {e : α} {Good : α → Prop}
    (assoc : ∀ a b c, f (f a b) c = f a (f b c)) (keeps : ∀ a b, Good a → Good (f a b))
    (unit : ∀ a, Good a → f a e = a) (good : Good e) {a : α} (start : Good a) (l : List α) :
    l.foldl f a = f a (l.foldl f e) := by
  induction l generalizing a with
  | nil => exact (unit a start).symm
  | cons x rest ih =>
    calc rest.foldl f (f a x)
      _ = f (f a x) (rest.foldl f e) := ih (keeps a x start)
      _ = f (f (f a e) x) (rest.foldl f e) := by rw [unit a start]
      _ = f a (f (f e x) (rest.foldl f e)) := by rw [assoc a e x, assoc a (f e x)]
      _ = f a (rest.foldl f (f e x)) := by rw [ih (keeps e x good)]

/-- Where an operation picks one of two values that is related to both, a fold picks one of all
values that is related to all. -/
theorem foldl_extreme {α : Type} {f : α → α → α} {R : α → α → Prop} {Good : α → Prop}
    (choice : ∀ a b, f a b = a ∨ f a b = b)
    (related : ∀ a b, Good a → Good b → R (f a b) a ∧ R (f a b) b)
    (refl : ∀ a, Good a → R a a) (trans : ∀ a b c, R a b → R b c → R a c)
    {e : α} (start : Good e) {l : List α} (good : ∀ x ∈ l, Good x) :
    (l.foldl f e = e ∨ l.foldl f e ∈ l) ∧ R (l.foldl f e) e ∧ ∀ x ∈ l, R (l.foldl f e) x := by
  induction l generalizing e with
  | nil => exact ⟨.inl rfl, refl e start, fun x member => absurd member List.not_mem_nil⟩
  | cons y rest ih =>
    have here := good y List.mem_cons_self
    obtain ⟨below, above⟩ := related e y start here
    have next : Good (f e y) := by
      rcases choice e y with first | second
      · rwa [first]
      · rwa [second]
    obtain ⟨picked, least, others⟩ := ih next fun x member => good x (List.mem_cons_of_mem y member)
    refine ⟨?_, trans _ _ _ least below, ?_⟩
    · rw [List.foldl_cons]
      rcases picked with same | later
      · rcases choice e y with first | second
        · exact .inl (same.trans first)
        · exact .inr (List.mem_cons.mpr (.inl (same.trans second)))
      · exact .inr (List.mem_cons_of_mem y later)
    · intro x member
      rcases List.mem_cons.mp member with rfl | later
      · exact trans _ _ _ least above
      · exact others x later

namespace Binary64

/-- The same value as a number: the two zeros are one. -/
def Same (x y : Binary64) : Prop := x = y ∨ x.isZero = true ∧ y.isZero = true

theorem isNaN_of_isFinite {x : Binary64} (finite : x.isFinite = true) : x.isNaN = false := by
  unfold isFinite at finite
  unfold isNaN
  rw [decide_eq_true_eq] at finite
  rw [decide_eq_false_iff_not]
  omega

section Order

variable {x y : Binary64} (left : x.isNaN = false) (right : y.isNaN = false)

include left right

theorem lt_iff : x.lt y = true ↔ x.orderKey < y.orderKey := by
  simp [lt, left, right]

theorem le_iff : x.le y = true ↔ x.orderKey ≤ y.orderKey := by
  simp [le, left, right]

theorem not_lt_iff : y.lt x = false ↔ x.le y = true := by
  rw [← Bool.not_eq_true, lt_iff right left, le_iff left right, Int.not_lt]

theorem min_le : (x.min y).le x = true ∧ (x.min y).le y = true := by
  unfold min
  rw [right, Bool.false_or]
  by_cases less : x.lt y = true
  · rw [if_pos less, le_iff left left, le_iff left right]
    have := (lt_iff left right).mp less
    omega
  · rw [if_neg less, le_iff right left, le_iff right right]
    have := (lt_iff left right).not.mp less
    omega

theorem le_max : x.le (x.max y) = true ∧ y.le (x.max y) = true := by
  unfold max
  rw [right, Bool.false_or]
  by_cases less : y.lt x = true
  · rw [if_pos less, le_iff left left, le_iff right left]
    have := (lt_iff right left).mp less
    omega
  · rw [if_neg less, le_iff left right, le_iff right right]
    have := (lt_iff right left).not.mp less
    omega

end Order

theorem le_trans {x y z : Binary64} (first : x.le y = true) (second : y.le z = true) :
    x.le z = true := by
  unfold le at first second ⊢
  simp only [Bool.and_eq_true, Bool.not_eq_true', decide_eq_true_eq] at first second ⊢
  exact ⟨⟨first.1.1, second.1.2⟩, Int.le_trans first.2 second.2⟩

theorem same_of_le {x y : Binary64} (first : x.le y = true) (second : y.le x = true) : x.Same y := by
  unfold le at first second
  simp only [Bool.and_eq_true, decide_eq_true_eq] at first second
  have key := Int.le_antisymm first.2 second.2
  unfold orderKey at key
  have limit := x.bits.toNat_lt
  have limit' := y.bits.toNat_lt
  by_cases zero : x.magnitude = 0 ∧ y.magnitude = 0
  · exact .inr ⟨beq_iff_eq.mpr zero.1, beq_iff_eq.mpr zero.2⟩
  · have bits : x.bits.toNat = y.bits.toNat := by
      unfold isNegative at key
      unfold magnitude at key zero
      split at key <;> split at key <;> simp only [decide_eq_true_eq] at * <;> omega
    exact .inl (congrArg mk (UInt64.toNat_inj.mp bits))

theorem min_choice (x y : Binary64) : x.min y = x ∨ x.min y = y := ite_eq_or_eq ..

theorem max_choice (x y : Binary64) : x.max y = x ∨ x.max y = y := ite_eq_or_eq ..

theorem min_assoc (x y z : Binary64) : (x.min y).min z = x.min (y.min z) := by
  unfold min lt
  grind

theorem max_assoc (x y z : Binary64) : (x.max y).max z = x.max (y.max z) := by
  unfold max lt
  grind

theorem isNaN_min {x : Binary64} (number : x.isNaN = false) (y : Binary64) :
    (x.min y).isNaN = false := by
  unfold min
  grind

theorem isNaN_max {x : Binary64} (number : x.isNaN = false) (y : Binary64) :
    (x.max y).isNaN = false := by
  unfold max
  grind

theorem min_infinity {x : Binary64} (number : x.isNaN = false) : x.min infinity = x := by
  by_cases less : x.lt infinity = true
  · simp [min, less]
  · have same : x.bits.toNat = infinity.bits.toNat := by
      have limit : infinity.bits.toNat = 0x7ff0000000000000 := rfl
      simp only [lt, isNaN, magnitude, infinityMagnitude, orderKey, isNegative, limit] at less number
      have small := of_decide_eq_false number
      rw [limit]
      by_cases negative : 0x8000000000000000 ≤ x.bits.toNat
      · simp [negative] at less
        have far := less number
        omega
      · simp [negative] at less
        have far := less number
        omega
    have equal : x = infinity := congrArg Binary64.mk (UInt64.toNat_inj.mp same)
    rw [equal]
    decide

theorem max_negativeInfinity {x : Binary64} (number : x.isNaN = false) :
    x.max negativeInfinity = x := by
  by_cases less : negativeInfinity.lt x = true
  · simp [max, less]
  · have same : x.bits.toNat = negativeInfinity.bits.toNat := by
      have limit : negativeInfinity.bits.toNat = 0xfff0000000000000 := rfl
      have bound := x.bits.toNat_lt
      simp only [lt, isNaN, magnitude, infinityMagnitude, orderKey, isNegative, limit] at less number
      have small := of_decide_eq_false number
      rw [limit]
      by_cases negative : 0x8000000000000000 ≤ x.bits.toNat
      · simp [negative] at less
        have far := less number
        omega
      · simp [negative] at less
        have far := less number
        omega
    have equal : x = negativeInfinity := congrArg Binary64.mk (UInt64.toNat_inj.mp same)
    rw [equal]
    decide

theorem foldl_min {x : Binary64} (number : x.isNaN = false) (l : List Binary64) :
    l.foldl min x = x.min (l.foldl min infinity) := by
  have keeps (a b : Binary64) (good : a.isNaN = false) := isNaN_min good b
  have unit (a : Binary64) (good : a.isNaN = false) := min_infinity good
  exact foldl_from min_assoc keeps unit (by decide) number l

theorem foldl_max {x : Binary64} (number : x.isNaN = false) (l : List Binary64) :
    l.foldl max x = x.max (l.foldl max negativeInfinity) := by
  have keeps (a b : Binary64) (good : a.isNaN = false) := isNaN_max good b
  have unit (a : Binary64) (good : a.isNaN = false) := max_negativeInfinity good
  exact foldl_from max_assoc keeps unit (by decide) number l

theorem isNaN_foldl_min {x : Binary64} (number : x.isNaN = false) (l : List Binary64) :
    (l.foldl min x).isNaN = false := by
  induction l generalizing x with
  | nil => exact number
  | cons y rest ih => exact ih (isNaN_min number y)

theorem isNaN_foldl_max {x : Binary64} (number : x.isNaN = false) (l : List Binary64) :
    (l.foldl max x).isNaN = false := by
  induction l generalizing x with
  | nil => exact number
  | cons y rest ih => exact ih (isNaN_max number y)

/-- The finite values of a list have a least one, which taking one after the other finds. -/
theorem foldl_min_least {l : List Binary64} (finite : ∀ x ∈ l, x.isFinite = true) (some : l ≠ []) :
    l.foldl min infinity ∈ l ∧ ∀ x ∈ l, (l.foldl min infinity).le x = true := by
  have refl (a : Binary64) (good : a.isNaN = false) := (le_iff good good).mpr (Int.le_refl _)
  obtain ⟨picked, -, least⟩ := foldl_extreme (R := fun a b => a.le b = true) min_choice
    (fun a b => min_le) refl (fun a b c => le_trans) (e := infinity) (by decide)
    fun x member => isNaN_of_isFinite (finite x member)
  refine ⟨picked.resolve_left fun infinite => ?_, least⟩
  obtain ⟨x, member⟩ := List.exists_mem_of_ne_nil l some
  have below := least x member
  have small := finite x member
  rw [infinite, le_iff (by decide) (isNaN_of_isFinite small)] at below
  rw [isFinite, decide_eq_true_eq] at small
  have top : infinity.orderKey = infinityMagnitude := by decide
  rw [top, orderKey] at below
  split at below <;> omega

/-- They also have a greatest one. -/
theorem foldl_max_greatest {l : List Binary64} (finite : ∀ x ∈ l, x.isFinite = true)
    (some : l ≠ []) :
    l.foldl max negativeInfinity ∈ l ∧ ∀ x ∈ l, x.le (l.foldl max negativeInfinity) = true := by
  have refl (a : Binary64) (good : a.isNaN = false) := (le_iff good good).mpr (Int.le_refl _)
  obtain ⟨picked, -, greatest⟩ := foldl_extreme (R := fun a b => b.le a = true) max_choice
    (fun a b => le_max) refl (fun a b c first second => le_trans second first)
    (e := negativeInfinity) (by decide) fun x member => isNaN_of_isFinite (finite x member)
  refine ⟨picked.resolve_left fun infinite => ?_, greatest⟩
  obtain ⟨x, member⟩ := List.exists_mem_of_ne_nil l some
  have above := greatest x member
  have small := finite x member
  rw [infinite, le_iff (isNaN_of_isFinite small) (by decide)] at above
  rw [isFinite, decide_eq_true_eq] at small
  have bottom : negativeInfinity.orderKey = -infinityMagnitude := by decide
  rw [bottom, orderKey] at above
  split at above <;> omega

end Binary64
end Telemetry
