import Telemetry.Json.Printer
import Telemetry.Otlp.Wire

/-! OTLP messages: trees whose fields have a name, which the JSON form uses, and a number,
which the binary form uses. Both forms keep the order of the fields. The binary form leaves
out every scalar that is zero, false or empty, in lists as well; JSON leaves out nothing. -/
namespace Telemetry.Otlp

inductive Message where
  | text (s : String)
  | bool (b : Bool)
  /-- A signed integer of variable length. -/
  | integer (i : Int64)
  /-- A count of eight bytes. -/
  | fixed (n : UInt64)
  /-- A signed integer of eight bytes. -/
  | signedFixed (i : Int64)
  | double (x : Binary64)
  /-- A case of an enumeration. -/
  | case (n : Nat)
  | record (fields : List (String × Nat × Message))
  | list (items : List Message)
deriving Repr, Inhabited

inductive Encoding where
  | proto
  | json
deriving DecidableEq, Repr, Inhabited

namespace Message

mutual

def toJson : Message → Json.Value
  | .text s => .string s
  | .bool b => .bool b
  | .integer i | .signedFixed i => .ofInt i.toInt
  | .fixed n => .ofNat n.toNat
  | .double x => .ofFloat x
  | .case n => .ofNat n
  | .record fields => .object (membersToJson fields)
  | .list items => .array (itemsToJson items)

def itemsToJson : List Message → List Json.Value
  | [] => []
  | m :: rest => m.toJson :: itemsToJson rest

def membersToJson : List (String × Nat × Message) → List (String × Json.Value)
  | [] => []
  | (name, _, m) :: rest => (name, m.toJson) :: membersToJson rest

end

/-- One field, or none for a scalar that is its type's default. -/
def scalar (number : Nat) (isDefault : Bool) (payload : Wire.Payload) : List Wire.Field :=
  if isDefault then [] else [⟨number, payload⟩]

mutual

/-- The fields that a message makes under a number. -/
def toFields (number : Nat) : Message → List Wire.Field
  | .text s => scalar number s.isEmpty (.bytes s.toUTF8.toList)
  | .bool b => scalar number (!b) (.varint 1)
  | .integer i => scalar number (i == 0) (.varint i.toUInt64)
  | .fixed n => scalar number (n == 0) (.word n)
  | .signedFixed i => scalar number (i == 0) (.word i.toUInt64)
  | .double x => scalar number x.isZero (.word x.bits)
  | .case n => scalar number (n == 0) (.varint (UInt64.ofNat n))
  | .record fields => [⟨number, .bytes (Wire.encode (recordFields fields))⟩]
  | .list items => listFields number items

def listFields (number : Nat) : List Message → List Wire.Field
  | [] => []
  | m :: rest => m.toFields number ++ listFields number rest

def recordFields : List (String × Nat × Message) → List Wire.Field
  | [] => []
  | (_, number, m) :: rest => m.toFields number ++ recordFields rest

end

/-- The bytes of a whole request, which is the record of its fields. -/
def encode (encoding : Encoding) (fields : List (String × Nat × Message)) : List UInt8 :=
  match encoding with
  | .proto => Wire.encode (recordFields fields)
  | .json => (Message.record fields).toJson.text.toUTF8.toList

end Message
end Telemetry.Otlp
