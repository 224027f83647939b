import Telemetry.Decimal.Digits

/-! Unsigned numerals read from the left, with the reason where one cannot be read. -/
namespace Telemetry.Decimal

inductive NumeralFault where
  | empty
  | notADigit
  | tooLarge
deriving DecidableEq, Repr

def NumeralFault.message : NumeralFault → String
  | empty => "cannot parse integer from empty string"
  | notADigit => "invalid digit found in string"
  | tooLarge => "number too large to fit in target type"

/-- One more digit behind a value below `bound`. -/
def extendNumeral (bound n : Nat) (c : Char) : Except NumeralFault Nat :=
  if !isDigit c then .error .notADigit
  else if bound ≤ 10 * n + digitValue c then .error .tooLarge
  else .ok (10 * n + digitValue c)

/-- A numeral below `bound`, which a plus sign may precede. The first character that spoils it
decides on the fault. -/
def readNumeral (bound : Nat) (l : List Char) : Except NumeralFault Nat :=
  match l with
  | [] => .error .empty
  | ['+'] => .error .notADigit
  | '+' :: digits | digits => digits.foldlM (extendNumeral bound) 0

end Telemetry.Decimal
