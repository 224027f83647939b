import Telemetry.Proofs.Json.RoundTrip

/-! What the scalars of JSON stand for: integers exactly, floats by their tokens. -/
namespace Telemetry.Json.Value

def asNat : Value → Option Nat
  | number token => Decimal.readDigits token.toList
  | _ => none

def asInt : Value → Option Int
  | number token =>
    match token.toList with
    | '-' :: rest => (Decimal.readDigits rest).map fun n : Nat => -(n : Int)
    | l => (Decimal.readDigits l).map Int.ofNat
  | _ => none

/-- The token of a float, or nothing for null. -/
def asFloat : Value → Option (Option String)
  | number token => some (some token)
  | null => some none
  | _ => none

theorem asNat_ofNat (n : Nat) : (ofNat n).asNat = some n := by
  rw [ofNat, asNat, Decimal.natText, String.toList_ofList, Decimal.readDigits_numeral]

theorem asInt_ofInt (i : Int) : (ofInt i).asInt = some i := by
  rw [ofInt, asInt, Decimal.intText, String.toList_ofList, Decimal.intNumeral]
  split_ifs with negative
  · simp only [Decimal.readDigits_numeral, Option.map_some, Option.some.injEq]
    omega
  · have value : Int.ofNat i.natAbs = i := by
      rw [Int.ofNat_eq_natCast]
      omega
    split
    · next rest same =>
      have minus : '-' ∉ Decimal.numeral i.natAbs := Decimal.notMem_numeral rfl i.natAbs
      exact absurd (same ▸ List.mem_cons_self) minus
    · rw [Decimal.readDigits_numeral, Option.map_some, value]

end Telemetry.Json.Value
