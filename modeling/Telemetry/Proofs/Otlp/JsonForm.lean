import Telemetry.Proofs.Json.Scalar
import Telemetry.Proofs.Otlp.Schema
import Telemetry.Proofs.Text.Utf8

/-! The request for a batch of metrics in JSON, read back. The readers take the members of an object
in the order in which the protocol declares its fields and in no other, integers exactly, and of a
float the token. -/
namespace Telemetry

namespace Json.Value

/-- The members of an object that has these names in this order. -/
def members (names : List String) : Value → Option (List Value)
  | object l => if l.map (·.1) = names then some (l.map (·.2)) else none
  | _ => none

def asText : Value → Option String
  | string s => some s
  | _ => none

def asBool : Value → Option Bool
  | bool b => some b
  | _ => none

def asList {α : Type} (read : Value → Option α) : Value → Option (List α)
  | array items => items.mapM read
  | _ => none

end Json.Value

namespace Otlp.Schema

open Json (Value)

/-- What JSON has for a float: the token that is printed for it where it is finite. -/
def token (x : Binary64) : Option String :=
  if x.isFinite then some (String.ofList (Decimal.finiteText .json x)) else none

def AnyValue.parse : Value → Option (AnyValue (Option String))
  | .object [("stringValue", v)] => v.asText.map fun s => ⟨some (.string s)⟩
  | .object [("boolValue", v)] => v.asBool.map fun b => ⟨some (.bool b)⟩
  | .object [("intValue", v)] => v.asInt.map fun i => ⟨some (.integer i)⟩
  | .object [("doubleValue", v)] => v.asFloat.map fun x => ⟨some (.double x)⟩
  | _ => none

def KeyValue.parse (v : Value) : Option (KeyValue (Option String)) := do
  let [key, value] ← v.members ["key", "value"] | none
  pure ⟨← key.asText, some (← AnyValue.parse value)⟩

def Resource.parse (v : Value) : Option (Resource (Option String)) := do
  let [attributes] ← v.members ["attributes"] | none
  pure ⟨← attributes.asList KeyValue.parse⟩

def InstrumentationScope.parse (v : Value) : Option InstrumentationScope := do
  let [name, version] ← v.members ["name", "version"] | none
  pure ⟨← name.asText, ← version.asText⟩

def NumberPoint.parse (v : Value) : Option (NumberPoint (Option String)) := do
  let [attributes, start, time, asInt] ←
    v.members ["attributes", "startTimeUnixNano", "timeUnixNano", "asInt"] | none
  pure ⟨← attributes.asList KeyValue.parse, ← start.asNat, ← time.asNat, some (← asInt.asInt)⟩

def HistogramPoint.parse (v : Value) : Option (HistogramPoint (Option String)) := do
  let [attributes, start, time, count, sum, bucketCounts, bounds, min, max] ←
    v.members ["attributes", "startTimeUnixNano", "timeUnixNano", "count", "sum", "bucketCounts",
      "explicitBounds", "min", "max"] | none
  pure ⟨← attributes.asList KeyValue.parse, ← start.asNat, ← time.asNat, ← count.asNat,
    some (← sum.asFloat), ← bucketCounts.asList Value.asNat, ← bounds.asList Value.asFloat,
    some (← min.asFloat), some (← max.asFloat)⟩

def Data.parseSum (v : Value) : Option (Data (Option String)) := do
  let [points, temporality, isMonotonic] ←
    v.members ["dataPoints", "aggregationTemporality", "isMonotonic"] | none
  pure (.sum (← points.asList NumberPoint.parse) (← temporality.asNat) (← isMonotonic.asBool))

def Data.parseHistogram (v : Value) : Option (Data (Option String)) := do
  let [points, temporality] ← v.members ["dataPoints", "aggregationTemporality"] | none
  pure (.histogram (← points.asList HistogramPoint.parse) (← temporality.asNat))

def Metric.parse (v : Value) : Option (Metric (Option String)) :=
  match v.members ["name", "description", "unit", "sum"],
    v.members ["name", "description", "unit", "histogram"] with
  | some [name, description, unit, data], _ => do
    pure ⟨← name.asText, ← description.asText, ← unit.asText, some (← Data.parseSum data)⟩
  | _, some [name, description, unit, data] => do
    pure ⟨← name.asText, ← description.asText, ← unit.asText, some (← Data.parseHistogram data)⟩
  | _, _ => none

def ScopeMetrics.parse (v : Value) : Option (ScopeMetrics (Option String)) := do
  let [scope, metrics] ← v.members ["scope", "metrics"] | none
  pure ⟨some (← InstrumentationScope.parse scope), ← metrics.asList Metric.parse⟩

def ResourceMetrics.parse (v : Value) : Option (ResourceMetrics (Option String)) := do
  let [resource, scopeMetrics] ← v.members ["resource", "scopeMetrics"] | none
  pure ⟨some (← Resource.parse resource), ← scopeMetrics.asList ScopeMetrics.parse⟩

/-- The one JSON value that the bytes are the UTF-8 of. -/
def parseBytes (bytes : List UInt8) : Option Value :=
  (Text.decode? bytes).bind fun text => Json.parse? text.toList

def parseMetrics (bytes : List UInt8) : Option (List (ResourceMetrics (Option String))) := do
  let v ← parseBytes bytes
  let [resourceMetrics] ← v.members ["resourceMetrics"] | none
  resourceMetrics.asList ResourceMetrics.parse

theorem asFloat_ofFloat (x : Binary64) : (Value.ofFloat x).asFloat = some (token x) := by
  unfold Value.ofFloat token
  split <;> rfl

theorem asList_map {α β : Type} {read : Value → Option β} {g : α → Message} {h : α → β} {l : List α}
    (each : ∀ x ∈ l, read (g x).toJson = some (h x)) :
    (Message.list (l.map g)).toJson.asList read = some (l.map h) := by
  rw [Message.toJson, Value.asList]
  induction l with
  | nil => rfl
  | cons x rest ih =>
    have later := ih fun y hy => each y (List.mem_cons_of_mem _ hy)
    simp [Message.itemsToJson, each x List.mem_cons_self, later]

section Parts

open Message

@[simp] theorem toJson_text (s : String) : (text s).toJson = .string s := rfl

@[simp] theorem toJson_bool (b : Bool) : (Message.bool b).toJson = .bool b := rfl

@[simp] theorem asInt_integer (i : Int64) : (integer i).toJson.asInt = some i.toInt :=
  Value.asInt_ofInt i.toInt

@[simp] theorem asInt_signedFixed (i : Int64) : (signedFixed i).toJson.asInt = some i.toInt :=
  Value.asInt_ofInt i.toInt

@[simp] theorem asNat_fixed (n : UInt64) : (fixed n).toJson.asNat = some n.toNat :=
  Value.asNat_ofNat n.toNat

@[simp] theorem asNat_case (n : Nat) : (case n).toJson.asNat = some n := Value.asNat_ofNat n

@[simp] theorem asFloat_double (x : Binary64) : (double x).toJson.asFloat = some (token x) :=
  asFloat_ofFloat x

end Parts

theorem membersToJson_eq_map (fields : List (String × Nat × Message)) :
    Message.membersToJson fields = fields.map fun f => (f.1, f.2.2.toJson) := by
  induction fields with
  | nil => rfl
  | cons f rest ih =>
    rw [Message.membersToJson, ih, List.map_cons]

/-- The members of a record are those of its fields. -/
@[simp] theorem members_record (names : List String) (fields : List (String × Nat × Message)) :
    (Message.record fields).toJson.members names =
      if fields.map (·.1) = names then some (fields.map fun f => f.2.2.toJson) else none := by
  simp [Message.toJson, membersToJson_eq_map, Value.members, Function.comp_def]

theorem parse_anyValue (v : AttributeValue) :
    AnyValue.parse (anyValue v).toJson = some (.ofAttribute token v) := by
  cases v with
  | string s => rfl
  | bool b => rfl
  | integer i =>
    have opened : AnyValue.parse (anyValue (.integer i)).toJson =
      (Message.integer i).toJson.asInt.map fun i => ⟨some (.integer i)⟩ := rfl
    rw [opened, asInt_integer]
    rfl
  | float x =>
    have opened : AnyValue.parse (anyValue (.float x)).toJson =
      (Message.double x).toJson.asFloat.map fun x => ⟨some (.double x)⟩ := rfl
    rw [opened, asFloat_double]
    rfl

theorem parse_keyValue (x : Attribute) :
    KeyValue.parse (keyValue x).toJson = some (.ofAttribute token x) := by
  simp [KeyValue.parse, keyValue, Value.asText, parse_anyValue, KeyValue.ofAttribute,
    AnyValue.ofAttribute]

theorem parse_keyValues (l : List Attribute) :
    (keyValues l).toJson.asList KeyValue.parse = some (l.map (.ofAttribute token)) :=
  asList_map fun x _ => parse_keyValue x

theorem parse_resource (r : Telemetry.Resource) :
    Resource.parse (resourceMessage r).toJson = some (.ofResource token r) := by
  simp [Resource.parse, resourceMessage, parse_keyValues, Resource.ofResource]

theorem parse_scope (s : Scope) :
    InstrumentationScope.parse (scopeMessage s).toJson = some (.ofScope s) := by
  simp [InstrumentationScope.parse, scopeMessage, Value.asText, InstrumentationScope.ofScope]

theorem parse_totalPoint (p : TotalPoint) :
    NumberPoint.parse (totalPointMessage p).toJson = some (.ofTotal token p) := by
  simp [NumberPoint.parse, totalPointMessage, parse_keyValues, toInt_clampedSigned,
    NumberPoint.ofTotal]

theorem parse_histogramPoint (p : Telemetry.HistogramPoint) :
    HistogramPoint.parse (histogramPointMessage p).toJson = some (.ofHistogram token p) := by
  have counts := asList_map (l := p.state.bucketCounts) fun n _ => asNat_fixed n
  have bounds := asList_map (l := p.state.bounds) fun x _ => asFloat_double x
  simp [HistogramPoint.parse, histogramPointMessage, parse_keyValues, counts, bounds,
    HistogramPoint.ofHistogram]

theorem asNat_temporality (t : Temporality) :
    (temporalityMessage t).toJson.asNat = some (temporalityNumber t) := by
  cases t <;> exact asNat_case _

theorem parse_metric (m : Telemetry.Metric) :
    Metric.parse (metricMessage m).toJson = some (.ofMetric token m) := by
  obtain ⟨instrument, temporality, data⟩ := m
  cases data with
  | totals points =>
    have list := asList_map (l := points) fun p _ => parse_totalPoint p
    simp [Metric.parse, metricMessage, metricDataField, Data.parseSum, list, asNat_temporality,
      Value.asText, Value.asBool, Metric.ofMetric, Data.ofMetricData]
  | histograms points =>
    have list := asList_map (l := points) fun p _ => parse_histogramPoint p
    simp [Metric.parse, metricMessage, metricDataField, Data.parseHistogram, list, asNat_temporality,
      Value.asText, Metric.ofMetric, Data.ofMetricData]

theorem parse_scopeMetrics (s : Telemetry.ScopeMetrics) :
    ScopeMetrics.parse (scopeMetricsMessage s).toJson = some (.ofScopeMetrics token s) := by
  have list := asList_map (l := s.metrics) fun m _ => parse_metric m
  simp [ScopeMetrics.parse, scopeMetricsMessage, list, parse_scope, ScopeMetrics.ofScopeMetrics]

theorem parse_resourceMetrics (b : Batch) :
    ResourceMetrics.parse (Message.record [("resource", 1, resourceMessage b.resource),
        ("scopeMetrics", 2, .list (b.scopes.map scopeMetricsMessage))]).toJson =
      some (.ofBatch token b) := by
  have list := asList_map (l := b.scopes) fun s _ => parse_scopeMetrics s
  simp [ResourceMetrics.parse, list, parse_resource, ResourceMetrics.ofBatch]

mutual

theorem isWellFormed_toJson (m : Message) : m.toJson.IsWellFormed := by
  cases m with
  | record fields => exact membersWellFormed_toJson fields
  | list items => exact itemsWellFormed_toJson items
  | integer i => exact Value.isWellFormed_ofInt i.toInt
  | signedFixed i => exact Value.isWellFormed_ofInt i.toInt
  | fixed n => exact Value.isWellFormed_ofNat n.toNat
  | case n => exact Value.isWellFormed_ofNat n
  | double x => exact Value.isWellFormed_ofFloat x
  | text s => trivial
  | bool b => trivial

theorem itemsWellFormed_toJson (l : List Message) :
    Json.itemsWellFormed (Message.itemsToJson l) := by
  cases l with
  | nil => trivial
  | cons m rest => exact ⟨isWellFormed_toJson m, itemsWellFormed_toJson rest⟩

theorem membersWellFormed_toJson (fields : List (String × Nat × Message)) :
    Json.membersWellFormed (Message.membersToJson fields) := by
  match fields with
  | [] => trivial
  | (_, _, m) :: rest => exact ⟨isWellFormed_toJson m, membersWellFormed_toJson rest⟩

end

theorem parseBytes_encode (fields : List (String × Nat × Message)) :
    parseBytes (Message.encode .json fields) = some (Message.record fields).toJson := by
  have read := Json.parse?_chars (isWellFormed_toJson (.record fields))
  rw [parseBytes, Message.encode, Text.decode?_toUTF8, Option.bind_some, Json.Value.text,
    String.toList_ofList, read]

end Otlp.Schema

open Otlp.Schema

/-- The JSON of every batch is the UTF-8 of one JSON value, which holds everything that the batch
holds in its order: texts and integers exactly, and of the floats the tokens. -/
theorem Otlp.metrics_json_decoded (b : Batch) :
    parseMetrics (encodeMetrics .json b) = some [.ofBatch token b] := by
  have list := asList_map (l := [b]) fun b _ => parse_resourceMetrics b
  rw [List.map_singleton, List.map_singleton] at list
  simp [parseMetrics, encodeMetrics, parseBytes_encode, metricsRequest, list]

end Telemetry
