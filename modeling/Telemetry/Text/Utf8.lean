/-! Bytes as UTF-8 text. Bytes that no text has are read as well as they can be: the longest
beginning of a character, or else a single byte, becomes one replacement character. -/
namespace Telemetry.Text

/-- The text that the bytes spell, or nothing where they are not UTF-8. -/
def decode? (bytes : List UInt8) : Option String := String.fromUTF8? (ByteArray.mk bytes.toArray)

/-- A character of which the beginning has been read. -/
structure PartialChar where
  /-- What the bytes so far contribute to the code point. -/
  value : Nat
  /-- How many bytes follow the next one. -/
  more : Nat
  /-- The bounds of the next byte. -/
  first : Nat
  last : Nat

def replacement : Char := '\ufffd'

/-- What a byte begins: a character of its own, or a longer one. The second byte has tighter
bounds where a character would be written too long, be a surrogate or be out of range. -/
def PartialChar.begin (b : Nat) : Char ⊕ PartialChar :=
  if b < 0x80 then .inl (Char.ofNat b)
  else if 0xc2 ≤ b && b ≤ 0xdf then .inr ⟨b % 32, 0, 0x80, 0xbf⟩
  else if 0xe0 ≤ b && b ≤ 0xef then
    .inr ⟨b % 16, 1, if b = 0xe0 then 0xa0 else 0x80, if b = 0xed then 0x9f else 0xbf⟩
  else if 0xf0 ≤ b && b ≤ 0xf4 then
    .inr ⟨b % 8, 2, if b = 0xf0 then 0x90 else 0x80, if b = 0xf4 then 0x8f else 0xbf⟩
  else .inl replacement

/-- The characters of the bytes, after the beginning of a character where there is one. -/
def lossyChars : Option PartialChar → List UInt8 → List Char
  | none, [] => []
  | some _, [] => [replacement]
  | current, byte :: rest =>
    let b := byte.toNat
    let beginWith (before : List Char) : List Char :=
      match PartialChar.begin b with
      | .inl c => before ++ c :: lossyChars none rest
      | .inr p => before ++ lossyChars (some p) rest
    match current with
    | none => beginWith []
    | some p =>
      if p.first ≤ b && b ≤ p.last then
        let value := p.value * 64 + b % 64
        if p.more = 0 then Char.ofNat value :: lossyChars none rest
        else lossyChars (some ⟨value, p.more - 1, 0x80, 0xbf⟩) rest
      else beginWith [replacement]

def decodeLossy (bytes : List UInt8) : String := String.ofList (lossyChars none bytes)

end Telemetry.Text
