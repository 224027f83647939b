import Telemetry.Binary64
import Telemetry.Decimal.Digits

/-! The shortest decimal that reads back as a given binary fraction: of the decimals with
the fewest digits in the interval that rounds to the value, the nearest one, and of two equally
near ones the one that the tie rule says. -/
namespace Telemetry.Decimal

/-- The number `digits * 10^exponent`. -/
structure Scientific where
  digits : Nat
  exponent : Int
deriving DecidableEq, Repr, Inhabited

/-- Which of two equally near neighbours is taken. -/
inductive Tie where
  | even
  | upper
deriving DecidableEq, Repr

def Tie.takesLower (t : Tie) (lower : Nat) : Bool := t = .even && lower % 2 == 0

/-- How many decimal digits a positive number has. -/
def digitCount (n : Nat) : Nat := (digits n).length

/-- The greatest `k` with `10^k ≤ num / den`, for positive `num` and `den`. -/
def magnitude (num den : Nat) : Int :=
  if den ≤ num then (digitCount (num / den) : Int) - 1
  else -(digitCount ((den - 1) / num) : Int)

/-- The interval of numbers that round to a value, over a common denominator; its ends
belong to it where `closed`. -/
structure Interval where
  low : Nat
  value : Nat
  high : Nat
  den : Nat
  closed : Bool

namespace Interval

/-- The interval of `m * 2^q`, which is narrower below where `m` is the first of its binade. -/
def ofBinary (m : Nat) (q : Int) (binadeStart : Bool) : Interval :=
  let scaled (n : Nat) := if 2 ≤ q then n * Nat.pow 2 (q - 2).toNat else n
  let den := if 2 ≤ q then 1 else Nat.pow 2 (2 - q).toNat
  ⟨scaled (4 * m - if binadeStart then 1 else 2), scaled (4 * m), scaled (4 * m + 2), den, m % 2 == 0⟩

/-- Whether `n / d` lies in the interval. -/
def contains (i : Interval) (n d : Nat) : Bool :=
  let low := i.low * d
  let high := i.high * d
  let point := n * i.den
  if i.closed then low ≤ point && point ≤ high else low < point && point < high

/-- The multiple of `10^k` in the interval that is nearest to the value. Only the neighbours of the value need a test: where any multiple
is in the interval, one of them is. -/
def onGrid (i : Interval) (tie : Tie) (k : Int) : Option Nat :=
  let step := Nat.pow 10 k.toNat
  let denom := Nat.pow 10 (-k).toNat
  let below := i.value * denom / (i.den * step)
  let inside (n : Nat) := n != 0 && i.contains (n * step) denom
  let twice := 2 * i.value * denom
  let middle := (2 * below + 1) * step * i.den
  let lowerIsNearer := twice < middle || (twice == middle && tie.takesLower below)
  match inside below, inside (below + 1) with
  | true, true => some (if lowerIsNearer then below else below + 1)
  | true, false => some below
  | false, true => some (below + 1)
  | false, false => none

/-- The coarsest grid with a point in the interval, from `10^k` down. -/
def shortestFrom (i : Interval) (tie : Tie) (k : Int) : Nat → Scientific
  | 0 => ⟨0, 0⟩
  | fuel + 1 =>
    match i.onGrid tie k with
    | some n => ⟨n, k⟩
    | none => i.shortestFrom tie (k - 1) fuel

end Interval

/-- The shortest decimal for the absolute value of a finite number. Seventeen digits
always read back, and the first grid may be that of the next power of ten. -/
def shortest (tie : Tie) (x : Binary64) : Scientific :=
  if x.isZero then ⟨0, 0⟩
  else
    let (m, q) := x.decompose
    let interval := Interval.ofBinary m q (m == 0x10000000000000 && -1074 < q)
    let found := interval.shortestFrom tie (magnitude interval.value interval.den) 18
    if found.digits == 10 then ⟨1, found.exponent + 1⟩ else found

end Telemetry.Decimal
