import Telemetry.Decimal.Shortest

/-! The texts of binary fractions: all of them show the shortest digits, and a format
decides between positional and scientific form. -/
namespace Telemetry.Decimal

/-- What a number's text looks like beyond its digits. -/
structure Format where
  /-- The powers of ten of the leading digit that are written out in positional form. -/
  positional : Int → Bool
  /-- Whether a whole number in positional form ends in `.0`. -/
  keepsFraction : Bool
  tie : Tie

namespace Format

/-- Every number is written out, and whole numbers have no fraction. -/
def plain : Format := ⟨fun _ => true, false, .upper⟩

/-- Numbers from 0.0001 up to 10^16 are written out, whole ones with a fraction. -/
def diagnostic : Format := ⟨fun e => -4 ≤ e && e < 16, true, .upper⟩

/-- Numbers from 0.00001 up to 10^16 are written out, whole ones with a fraction. -/
def json : Format := ⟨fun e => -5 ≤ e && e < 16, true, .even⟩

end Format

def positionalText (keepsFraction : Bool) (ds : List Char) (exponent : Int) : List Char :=
  let point : Int := ds.length + exponent
  if 0 ≤ exponent then
    ds ++ List.replicate exponent.toNat '0' ++ (if keepsFraction then ['.', '0'] else [])
  else if 0 < point then ds.take point.toNat ++ '.' :: ds.drop point.toNat
  else '0' :: '.' :: List.replicate (-point).toNat '0' ++ ds

def scientificText (ds : List Char) (exponent : Int) : List Char :=
  let lead := ds.take 1
  let rest := ds.drop 1
  lead ++ (if rest.isEmpty then [] else '.' :: rest) ++ 'e' :: intNumeral exponent

/-- The text of a finite number's absolute value. -/
def absText (format : Format) (x : Binary64) : List Char :=
  let s := shortest format.tie x
  let ds := numeral s.digits
  let leading : Int := ds.length + s.exponent - 1
  if s.digits == 0 || format.positional leading then positionalText format.keepsFraction ds s.exponent
  else scientificText ds leading

/-- The text of a finite number; the zero below zero keeps its sign. -/
def finiteText (format : Format) (x : Binary64) : List Char :=
  if x.isNegative then '-' :: absText format x else absText format x

def numberText (format : Format) (x : Binary64) : String :=
  if x.isNaN then "NaN"
  else if x.isInfinite then (if x.isNegative then "-inf" else "inf")
  else String.ofList (finiteText format x)

end Telemetry.Decimal
