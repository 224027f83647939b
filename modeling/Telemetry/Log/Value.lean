import Telemetry.Attributes

/-! The values of log properties: primitives as they were captured, or a text that stands
for something which only knows how to show itself, piece by piece. -/
namespace Telemetry.Log

inductive Value where
  | signed (i : Int64)
  | unsigned (n : UInt64)
  | float (x : Binary64)
  | bool (b : Bool)
  | text (s : String)
  | shown (pieces : List String)
deriving DecidableEq, Repr, Inhabited

namespace Value

/-- The pieces in which the text of a value is written. -/
def pieces : Value → List String
  | signed i => [Decimal.intText i.toInt]
  | unsigned n => [Decimal.natText n.toNat]
  | float x => [Decimal.numberText .plain x]
  | bool b => [AttributeValue.boolText b]
  | text s => [s]
  | shown pieces => pieces

def display (v : Value) : String := String.join v.pieces

/-- The value for diagnostics: a text is quoted, what shows itself is not. -/
def diagnostic : Value → String
  | float x => Decimal.numberText .diagnostic x
  | text s => Text.quoted s
  | v => v.display

def toBool? : Value → Option Bool
  | bool b => some b
  | _ => none

def toInt64? : Value → Option Int64
  | signed i => some i
  | unsigned n => if n.toNat < 0x8000000000000000 then some (Int64.ofNat n.toNat) else none
  | _ => none

/-- The value as a float. An integer is one only where 32 bits hold it. -/
def toFloat? : Value → Option Binary64
  | signed i => if -0x80000000 ≤ i.toInt && i.toInt < 0x80000000 then some (.ofInt i.toInt) else none
  | unsigned n => if n.toNat < 0x100000000 then some (.ofNat n.toNat) else none
  | float x => some x
  | _ => none

def toText? : Value → Option String
  | text s => some s
  | _ => none

/-- The attribute that a property becomes: of a boolean, an integer, a float and a text the
first that it is. -/
def toAttribute (v : Value) : AttributeValue :=
  match v.toBool?, v.toInt64?, v.toFloat? with
  | some b, _, _ => .bool b
  | none, some i, _ => .integer i
  | none, none, some x => .float x
  | none, none, none => .string v.display

end Value
end Telemetry.Log
