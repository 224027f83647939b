import Mathlib.Data.List.Basic
import Telemetry.Decimal.Digits

/-! Numerals: they have digits only, no zero in front, and are read back as their number. Main
results: `readDigits_numeral` and `numeral_of_pos`. -/
namespace Telemetry.Decimal

theorem digitValue_digitChar {d : Nat} (small : d < 10) : digitValue (digitChar d) = d := by
  have all : ∀ d < 10, digitValue (digitChar d) = d := by decide
  exact all d small

theorem isDigit_digitChar {d : Nat} (small : d < 10) : isDigit (digitChar d) = true := by
  have all : ∀ d < 10, isDigit (digitChar d) = true := by decide
  exact all d small

theorem digits_lt_ten {n d : Nat} (hd : d ∈ digits n) : d < 10 := by
  induction n using digits.induct with
  | case1 n small =>
    rw [digits, if_pos small, List.mem_singleton] at hd
    exact hd ▸ small
  | case2 n big ih =>
    rw [digits, if_neg big, List.mem_append, List.mem_singleton] at hd
    rcases hd with hd | rfl
    · exact ih hd
    · omega

theorem foldl_digits (n : Nat) : (digits n).foldl (fun n d => 10 * n + d) 0 = n := by
  induction n using digits.induct with
  | case1 n small =>
    rw [digits, if_pos small]
    simp
  | case2 n big ih =>
    rw [digits, if_neg big, List.foldl_append, ih]
    simp only [List.foldl_cons, List.foldl_nil]
    omega

/-- Of a positive number the first digit is not zero. -/
theorem digits_of_pos {n : Nat} (pos : 0 < n) : ∃ d ds, digits n = d :: ds ∧ d ≠ 0 := by
  induction n using digits.induct with
  | case1 n small =>
    rw [digits, if_pos small]
    exact ⟨n, [], rfl, by omega⟩
  | case2 n big ih =>
    obtain ⟨d, ds, lead, other⟩ := ih (by omega)
    rw [digits, if_neg big, lead]
    exact ⟨d, ds ++ [n % 10], rfl, other⟩

theorem isDigit_of_mem_numeral {n : Nat} {c : Char} (hc : c ∈ numeral n) : isDigit c = true := by
  obtain ⟨d, hd, rfl⟩ := List.mem_map.mp hc
  exact isDigit_digitChar (digits_lt_ten hd)

theorem notMem_numeral {c : Char} (other : isDigit c = false) (n : Nat) : c ∉ numeral n := by
  intro member
  exact Bool.false_ne_true (other.symm.trans (isDigit_of_mem_numeral member))

theorem numeral_zero : numeral 0 = ['0'] := by
  rw [numeral, digits]
  rfl

theorem numeral_of_pos {n : Nat} (pos : 0 < n) : ∃ c cs, numeral n = c :: cs ∧ c ≠ '0' := by
  obtain ⟨d, ds, lead, other⟩ := digits_of_pos pos
  have small : d < 10 := digits_lt_ten (n := n) (by rw [lead]; exact List.mem_cons_self)
  refine ⟨digitChar d, ds.map digitChar, by rw [numeral, lead, List.map_cons], ?_⟩
  intro zero
  have value := digitValue_digitChar small
  rw [zero] at value
  exact other value.symm

theorem numeral_ne_nil (n : Nat) : numeral n ≠ [] := by
  rcases Nat.eq_zero_or_pos n with rfl | pos
  · rw [numeral_zero]
    exact List.cons_ne_nil _ _
  · obtain ⟨c, cs, lead, _⟩ := numeral_of_pos pos
    rw [lead]
    exact List.cons_ne_nil _ _

/-- A numeral is read as its number. -/
theorem readDigits_numeral (n : Nat) : readDigits (numeral n) = some n := by
  have digitsOnly : (numeral n).all isDigit = true :=
    List.all_eq_true.mpr fun c hc => isDigit_of_mem_numeral hc
  have filled : (numeral n).isEmpty = false := List.isEmpty_eq_false_iff.mpr (numeral_ne_nil n)
  have value : (numeral n).foldl (fun n c => 10 * n + digitValue c) 0 = n := by
    rw [numeral, List.foldl_map]
    conv_rhs => rw [← foldl_digits n]
    refine List.foldl_ext _ _ _ fun m d hd => ?_
    rw [digitValue_digitChar (digits_lt_ten hd)]
  simp [readDigits, digitsOnly, filled, value]

theorem readUnsigned_numeral {bound n : Nat} (small : n < bound) :
    readUnsigned bound (numeral n) = some n := by
  have read : readDigits (numeral n) = some n := readDigits_numeral n
  unfold readUnsigned
  split
  · next rest signed =>
    have digit := isDigit_of_mem_numeral (n := n) (signed ▸ List.mem_cons_self)
    cases digit
  · simp [read, small]

theorem lt_of_readUnsigned {bound n : Nat} {l : List Char} (read : readUnsigned bound l = some n) :
    n < bound := by
  simpa using (Option.filter_eq_some_iff.mp read).2

end Telemetry.Decimal
