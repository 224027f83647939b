import Telemetry.Proofs.Otlp.Reader
import Telemetry.Proofs.Otlp.Loss

/-! Where telemetry comes from, read back from the wire: attributes with their types, resources and
scopes. An attribute arrives without its value where that is zero, false or empty. -/
namespace Telemetry.Otlp.Schema

open Wire Message

def AnyValue.read (fields : List Wire.Field) : Option (AnyValue Binary64) := do
  guard (numbered [1, 2, 3, 4] fields)
  let s ← atMostOne Payload.asText (payloads 1 fields)
  let b ← atMostOne Payload.asBool (payloads 2 fields)
  let i ← atMostOne Payload.asInteger (payloads 3 fields)
  let x ← atMostOne Payload.asDouble (payloads 4 fields)
  let case ← oneOf [s.map .string, b.map .bool, i.map .integer, x.map .double]
  pure ⟨case⟩

def KeyValue.read (fields : List Wire.Field) : Option (KeyValue Binary64) := do
  guard (numbered [1, 2] fields)
  let key ← single Payload.asText "" (payloads 1 fields)
  let value ← atMostOne (Payload.asRecord AnyValue.read) (payloads 2 fields)
  pure ⟨key, value⟩

def Resource.read (fields : List Wire.Field) : Option (Resource Binary64) := do
  guard (numbered [1] fields)
  let attributes ← repeated (Payload.asRecord KeyValue.read) (payloads 1 fields)
  pure ⟨attributes⟩

def InstrumentationScope.read (fields : List Wire.Field) : Option InstrumentationScope := do
  guard (numbered [1, 2] fields)
  let name ← single Payload.asText "" (payloads 1 fields)
  let version ← single Payload.asText "" (payloads 2 fields)
  pure ⟨name, version⟩

theorem reads_anyValue (v : AttributeValue) :
    Reads AnyValue.read (anyValue v) (AnyValue.ofAttribute id v).withoutDefaults := by
  cases v with
  | string | integer | float | bool =>
    refine ⟨_, rfl, ?_⟩
    simp [AnyValue.read, oneOf_cons, AnyValue.withoutDefaults, AnyValue.ofAttribute,
      Scalar.ofAttribute, Scalar.isDefault, Option.filter_some, apply_ite (Option.map _)]

theorem reads_keyValue (x : Attribute) :
    Reads KeyValue.read (keyValue x) (KeyValue.ofAttribute id x).withoutDefaults := by
  refine ⟨_, rfl, ?_⟩
  simp [KeyValue.read, atMostOne_record (reads_anyValue x.value), KeyValue.withoutDefaults,
    KeyValue.ofAttribute, AnyValue.ofAttribute]

theorem repeated_keyValues (l : List Attribute) :
    repeated (Payload.asRecord KeyValue.read) (keyValues l).payloads =
      some ((l.map (KeyValue.ofAttribute id)).map (·.withoutDefaults)) := by
  rw [List.map_map]
  exact repeated_records fun x _ => reads_keyValue x

theorem reads_resource (r : Telemetry.Resource) :
    Reads Resource.read (resourceMessage r) (Resource.ofResource id r).withoutDefaults := by
  refine ⟨_, rfl, ?_⟩
  simp [Resource.read, repeated_keyValues, Resource.withoutDefaults, Resource.ofResource]

theorem reads_scope (s : Scope) :
    Reads InstrumentationScope.read (scopeMessage s) (.ofScope s) := by
  refine ⟨_, rfl, ?_⟩
  simp [InstrumentationScope.read, InstrumentationScope.ofScope]

end Telemetry.Otlp.Schema
