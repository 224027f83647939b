import Telemetry.Decimal.Shortest

/-! The digits of the shortest decimal are zero only where it has no exponent either. -/
namespace Telemetry.Decimal

variable {i : Interval} {tie : Tie} {k : Int}

theorem Interval.onGrid_ne_zero {n : Nat} (found : i.onGrid tie k = some n) : n ≠ 0 := by
  simp only [Interval.onGrid] at found
  split at found
  · next here _ =>
    split at found
    · obtain rfl := Option.some.inj found
      exact bne_iff_ne.mp (Bool.and_eq_true_iff.mp here).1
    · obtain rfl := Option.some.inj found
      exact Nat.succ_ne_zero _
  · next here _ =>
    obtain rfl := Option.some.inj found
    exact bne_iff_ne.mp (Bool.and_eq_true_iff.mp here).1
  · obtain rfl := Option.some.inj found
    exact Nat.succ_ne_zero _
  · cases found

theorem Interval.exponent_shortestFrom {fuel : Nat}
    (zero : (i.shortestFrom tie k fuel).digits = 0) : (i.shortestFrom tie k fuel).exponent = 0 := by
  induction fuel generalizing k with
  | zero => rfl
  | succ fuel ih =>
    rw [Interval.shortestFrom] at zero ⊢
    cases found : i.onGrid tie k with
    | none =>
      rw [found] at zero
      exact ih zero
    | some n =>
      rw [found] at zero
      exact absurd zero (onGrid_ne_zero found)

theorem exponent_shortest {x : Binary64} (zero : (shortest tie x).digits = 0) :
    (shortest tie x).exponent = 0 := by
  rw [shortest] at zero ⊢
  by_cases isZero : x.isZero
  · rw [if_pos isZero]
  · rw [if_neg isZero] at zero ⊢
    dsimp only at zero ⊢
    split at zero
    · cases zero
    · next other =>
      rw [if_neg other]
      exact Interval.exponent_shortestFrom zero

end Telemetry.Decimal
