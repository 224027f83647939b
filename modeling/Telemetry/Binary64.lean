/-! Binary floating-point numbers of 64 bits, held as their bit pattern. Equality of two
values is equality of their bits, so that they can key a map; the numeric order, in
which both zeros are one point and which leaves NaN out, is `lt` and `le`. -/
namespace Telemetry

structure Binary64 where
  bits : UInt64
deriving DecidableEq, Repr, Inhabited

namespace Binary64

def zero : Binary64 := ⟨0⟩

def infinity : Binary64 := ⟨0x7ff0000000000000⟩

def negativeInfinity : Binary64 := ⟨0xfff0000000000000⟩

/-- The quiet NaN with a clear sign. -/
def nan : Binary64 := ⟨0x7ff8000000000000⟩

def isNegative (x : Binary64) : Bool := 0x8000000000000000 ≤ x.bits.toNat

/-- The bits without the sign, whose order is the order of absolute values. -/
def magnitude (x : Binary64) : Nat := x.bits.toNat % 0x8000000000000000

def infinityMagnitude : Nat := 0x7ff0000000000000

def isNaN (x : Binary64) : Bool := infinityMagnitude < x.magnitude

def isInfinite (x : Binary64) : Bool := x.magnitude == infinityMagnitude

def isFinite (x : Binary64) : Bool := x.magnitude < infinityMagnitude

def isZero (x : Binary64) : Bool := x.magnitude == 0

/-- A number whose integer order is the numeric order of the values that are not NaN. -/
def orderKey (x : Binary64) : Int := if x.isNegative then -x.magnitude else x.magnitude

/-- Numeric `<`, false where either side is NaN. -/
def lt (x y : Binary64) : Bool := !x.isNaN && !y.isNaN && x.orderKey < y.orderKey

/-- Numeric `≤`, false where either side is NaN. -/
def le (x y : Binary64) : Bool := !x.isNaN && !y.isNaN && x.orderKey ≤ y.orderKey

/-- The sum rounded to nearest. A NaN operand is the result, the first one where both
are, and opposite infinities give the NaN whose sign is set. -/
def add (x y : Binary64) : Binary64 :=
  if x.isNaN then x
  else if y.isNaN then y
  else if x.isInfinite && y.isInfinite && x.bits != y.bits then ⟨0xfff8000000000000⟩
  else ⟨(Float.ofBits x.bits + Float.ofBits y.bits).toBits⟩

/-- The smaller of two values: the other one where one is NaN, the second of equal ones. -/
def min (x y : Binary64) : Binary64 := if y.isNaN || x.lt y then x else y

/-- The greater of two values: the other one where one is NaN, the second of equal ones. -/
def max (x y : Binary64) : Binary64 := if y.isNaN || y.lt x then x else y

/-- The significand and the exponent of two: the absolute value is `m * 2^q`. -/
def decompose (x : Binary64) : Nat × Int :=
  let fraction : Nat := x.magnitude % 0x10000000000000
  let exponent : Nat := x.magnitude / 0x10000000000000
  if exponent == 0 then (fraction, -1074) else (0x10000000000000 + fraction, (exponent : Int) - 1075)

/-- The value of a number of at most 2^53, which a binary fraction holds exactly. -/
def ofNat (n : Nat) : Binary64 := ⟨(Float.ofNat n).toBits⟩

def ofInt (i : Int) : Binary64 := ⟨(Float.ofInt i).toBits⟩

end Binary64
end Telemetry
