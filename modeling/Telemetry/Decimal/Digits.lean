/-! Decimal numerals of natural numbers and integers, padding, and the digits after a
decimal point. -/
namespace Telemetry.Decimal

def digitChar (d : Nat) : Char := Char.ofNat ('0'.toNat + d)

def isDigit (c : Char) : Bool := '0' ≤ c && c ≤ '9'

def digitValue (c : Char) : Nat := c.toNat - '0'.toNat

/-- The decimal digits of a number, most significant first, without leading zeros. -/
def digits (n : Nat) : List Nat :=
  if n < 10 then [n] else digits (n / 10) ++ [n % 10]
termination_by n

def numeral (n : Nat) : List Char := (digits n).map digitChar

def natText (n : Nat) : String := String.ofList (numeral n)

def intNumeral (i : Int) : List Char :=
  if i < 0 then '-' :: numeral i.natAbs else numeral i.natAbs

def intText (i : Int) : String := String.ofList (intNumeral i)

/-- A numeral filled up with zeros on the left to at least `width` characters. -/
def padded (width n : Nat) : List Char :=
  let text := numeral n
  List.replicate (width - text.length) '0' ++ text

def paddedText (width n : Nat) : String := String.ofList (padded width n)

def dropTrailingZeros (l : List Char) : List Char := (l.reverse.dropWhile (· == '0')).reverse

/-- A fraction of `width` places: the point and its digits, without trailing zeros and
absent altogether for a zero fraction. -/
def fraction (width n : Nat) : List Char :=
  match dropTrailingZeros (padded width n) with
  | [] => []
  | ds => '.' :: ds

/-- The value of a run of digits, or nothing for an empty run or any other character. -/
def readDigits (l : List Char) : Option Nat :=
  if l.isEmpty || !l.all isDigit then none
  else some (l.foldl (fun n c => 10 * n + digitValue c) 0)

/-- An unsigned numeral below `bound`: digits, which a single plus sign may precede. -/
def readUnsigned (bound : Nat) (l : List Char) : Option Nat :=
  let ds := match l with
    | '+' :: rest => rest
    | _ => l
  (readDigits ds).filter (· < bound)

end Telemetry.Decimal
