import Telemetry.Otlp.Message
import Telemetry.Resource
import Telemetry.Scope

/-! The messages that say where telemetry comes from: resources, scopes, and the attributes that
describe them. -/
namespace Telemetry.Otlp

def anyValue : AttributeValue → Message
  | .string s => .record [("stringValue", 1, .text s)]
  | .bool b => .record [("boolValue", 2, .bool b)]
  | .integer i => .record [("intValue", 3, .integer i)]
  | .float x => .record [("doubleValue", 4, .double x)]

def keyValue (x : Attribute) : Message :=
  .record [("key", 1, .text x.key), ("value", 2, anyValue x.value)]

def keyValues (l : List Attribute) : Message := .list (l.map keyValue)

def resourceMessage (r : Resource) : Message :=
  .record [("attributes", 1, keyValues r.attributes.toList)]

/-- A scope without a version has an empty one. -/
def scopeMessage (s : Scope) : Message :=
  .record [("name", 1, .text s.name), ("version", 2, .text (s.version.getD ""))]

end Telemetry.Otlp
