/-! The protobuf wire format: numbered fields, each a variable-length integer, a word of
eight bytes, or a run of bytes with its length. Main definitions: `encode` writes fields,
`decode` reads them back. -/
namespace Telemetry.Otlp.Wire

/-- The payload of a field. -/
inductive Payload where
  | varint (n : UInt64)
  | word (n : UInt64)
  | bytes (l : List UInt8)
deriving DecidableEq, Repr

structure Field where
  number : Nat
  payload : Payload
deriving DecidableEq, Repr

/-- Seven bits a byte, the low ones first; all bytes but the last have the top bit set. -/
def varint (n : Nat) : List UInt8 :=
  if n < 128 then [UInt8.ofNat n] else UInt8.ofNat (n % 128 + 128) :: varint (n / 128)
termination_by n

/-- `count` bytes, the low one first. -/
def littleEndian : Nat → Nat → List UInt8
  | 0, _ => []
  | count + 1, n => UInt8.ofNat (n % 256) :: littleEndian count (n / 256)

def Payload.wireType : Payload → Nat
  | varint _ => 0
  | word _ => 1
  | bytes _ => 2

def Payload.encode : Payload → List UInt8
  | varint n => Wire.varint n.toNat
  | word n => littleEndian 8 n.toNat
  | bytes l => Wire.varint l.length ++ l

def Field.encode (f : Field) : List UInt8 :=
  varint (8 * f.number + f.payload.wireType) ++ f.payload.encode

def encode (l : List Field) : List UInt8 := l.flatMap Field.encode

/-- The integer at the start of the bytes and what follows it. -/
def readVarint : List UInt8 → Option (Nat × List UInt8)
  | [] => none
  | b :: rest =>
    if b.toNat < 128 then some (b.toNat, rest)
    else (readVarint rest).map fun (n, rest) => (b.toNat - 128 + 128 * n, rest)

def ofLittleEndian : List UInt8 → Nat
  | [] => 0
  | b :: rest => b.toNat + 256 * ofLittleEndian rest

def takeExactly (count : Nat) (l : List UInt8) : Option (List UInt8 × List UInt8) :=
  if count ≤ l.length then some (l.take count, l.drop count) else none

/-- The payload of a wire type at the start of the bytes; words of four bytes do not occur. -/
def readPayload (wireType : Nat) (l : List UInt8) : Option (Payload × List UInt8) :=
  match wireType with
  | 0 => (readVarint l).map fun (n, rest) => (.varint (UInt64.ofNat n), rest)
  | 1 => (takeExactly 8 l).map fun (word, rest) => (.word (UInt64.ofNat (ofLittleEndian word)), rest)
  | 2 => do
    let (count, rest) ← readVarint l
    let (bytes, rest) ← takeExactly count rest
    pure (.bytes bytes, rest)
  | _ => none

def readField (l : List UInt8) : Option (Field × List UInt8) := do
  let (tag, rest) ← readVarint l
  let (payload, rest) ← readPayload (tag % 8) rest
  pure (⟨tag / 8, payload⟩, rest)

/-- Reads fields to the end of the bytes, of which every field takes at least one. -/
def readFields : Nat → List UInt8 → Option (List Field)
  | _, [] => some []
  | 0, _ => none
  | fuel + 1, l => do
    let (field, rest) ← readField l
    let fields ← readFields fuel rest
    pure (field :: fields)

def decode (l : List UInt8) : Option (List Field) := readFields l.length l

end Telemetry.Otlp.Wire
