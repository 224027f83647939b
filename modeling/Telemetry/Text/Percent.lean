import Telemetry.Text.Utf8

/-! Percent-encoding: a byte may be written as `%` and two hexadecimal digits, and a text
is encoded as its UTF-8 bytes. -/
namespace Telemetry.Text

def hexValue (c : Char) : Option Nat :=
  if '0' ≤ c && c ≤ '9' then some (c.toNat - '0'.toNat)
  else if 'a' ≤ c && c ≤ 'f' then some (c.toNat - 'a'.toNat + 10)
  else if 'A' ≤ c && c ≤ 'F' then some (c.toNat - 'A'.toNat + 10)
  else none

/-- The byte that two characters stand for: two digits, or a plus sign and one digit. -/
def byteOfHex (first second : Char) : Option UInt8 :=
  match first with
  | '+' => (hexValue second).map UInt8.ofNat
  | _ => do
    let high ← hexValue first
    let low ← hexValue second
    pure (UInt8.ofNat (16 * high + low))

/-- The bytes of an encoded text, or nothing where a `%` is not followed by a byte. -/
def percentBytes : List Char → Option (List UInt8)
  | [] => some []
  | '%' :: first :: second :: rest => do
    let byte ← byteOfHex first second
    let bytes ← percentBytes rest
    pure (byte :: bytes)
  | c :: rest => if c = '%' then none else (percentBytes rest).map (String.utf8EncodeChar c ++ ·)

/-- The text that the decoded bytes spell, or nothing where they are not UTF-8. -/
def percentDecode (l : List Char) : Option String := (percentBytes l).bind decode?

end Telemetry.Text
