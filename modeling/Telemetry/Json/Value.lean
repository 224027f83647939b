import Telemetry.Decimal.Number

/-! JSON values. A number is held as its token, so that no precision is lost. -/
namespace Telemetry.Json

inductive Value where
  | null
  | bool (b : Bool)
  | number (token : String)
  | string (s : String)
  | array (items : List Value)
  | object (members : List (String × Value))
deriving Repr, Inhabited

namespace Value

def ofInt (i : Int) : Value := number (Decimal.intText i)

def ofNat (n : Nat) : Value := number (Decimal.natText n)

/-- A float as the shortest token that reads back; what is not finite has none and is null. -/
def ofFloat (x : Binary64) : Value :=
  if x.isFinite then number (String.ofList (Decimal.finiteText .json x)) else null

end Value
end Telemetry.Json
