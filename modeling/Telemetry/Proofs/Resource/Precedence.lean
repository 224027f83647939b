import Telemetry.Proofs.Attributes.Canonical
import Telemetry.Proofs.Resource.AttributeText

/-! Where the attributes of a resource come from. Whatever the order of the calls on a builder, the
value of a key is that of the highest source that has one, and the calls tell what each source has.
Main result: `value_of_highest_source`. -/
namespace Telemetry.ResourceBuilder

/-- The calls on a builder. Each look at the environment finds it as it is then. -/
inductive Call where
  | serviceName (name : String)
  | serviceVersion (version : String)
  | instanceId
  | entry (x : Attribute)
  | rawAttributes (raw : String)
  | environment (e : Environment)

/-- The builder after a call, where `id` is generated for the process. -/
def apply (id : String) (b : ResourceBuilder) : Call → ResourceBuilder
  | .serviceName name => b.withServiceName name
  | .serviceVersion version => b.withServiceVersion version
  | .instanceId => b.withInstanceId id
  | .entry x => b.withAttribute x
  | .rawAttributes raw => b.withRawAttributes raw
  | .environment e => b.withEnvironment e

def assemble (id : String) (calls : List Call) : ResourceBuilder := calls.foldl (apply id) {}

namespace Call

def serviceName? : Call → Option String
  | serviceName name => some name
  | _ => none

def serviceVersion? : Call → Option String
  | serviceVersion version => some version
  | _ => none

def instanceId? (id : String) : Call → Option String
  | instanceId => some id
  | _ => none

def entry? : Call → Option Attribute
  | entry x => some x
  | _ => none

/-- The attribute text that a call puts in force. The environment's is, where it is set. -/
def rawAttributes? : Call → Option String
  | rawAttributes raw => some raw
  | environment e => e.get? "OTEL_RESOURCE_ATTRIBUTES"
  | _ => none

def environment? : Call → Option Environment
  | environment e => some e
  | _ => none

end Call

/-- What the last of the calls has that have any. -/
def lastOf {α : Type} (has : Call → Option α) (calls : List Call) : Option α :=
  (calls.filterMap has).getLast?

@[simp] theorem lastOf_concat {α : Type} (has : Call → Option α) (calls : List Call) (c : Call) :
    lastOf has (calls ++ [c]) = (has c).or (lastOf has calls) := by
  rw [lastOf, List.filterMap_append, List.getLast?_append]
  cases made : has c <;> simp [made, lastOf]

/-- The name that the environment gives the service, as last read: an empty one is none. -/
def nameRead (calls : List Call) : Option String :=
  (lastOf Call.environment? calls).bind fun e => (e.get? "OTEL_SERVICE_NAME").filter (!·.isEmpty)

/-- A builder holds what the calls on it tell. -/
structure Holds (id : String) (calls : List Call) (b : ResourceBuilder) : Prop where
  serviceName : b.serviceName = lastOf Call.serviceName? calls
  serviceVersion : b.serviceVersion = lastOf Call.serviceVersion? calls
  instanceId : b.instanceId = lastOf (Call.instanceId? id) calls
  attributes : b.attributes = calls.filterMap Call.entry?
  rawAttributes : b.rawAttributes = lastOf Call.rawAttributes? calls
  environmentName : b.environmentName = nameRead calls

variable {id : String} {calls : List Call} {b : ResourceBuilder} {r : Resource}

theorem Holds.apply (holds : Holds id calls b) (c : Call) :
    Holds id (calls ++ [c]) (b.apply id c) where
  serviceName := by
    rw [lastOf_concat, ← holds.serviceName]
    cases c <;> rfl
  serviceVersion := by
    rw [lastOf_concat, ← holds.serviceVersion]
    cases c <;> rfl
  instanceId := by
    rw [lastOf_concat, ← holds.instanceId]
    cases c <;> rfl
  attributes := by
    rw [List.filterMap_append, ← holds.attributes]
    cases c with
    | entry x => rfl
    | _ => exact (List.append_nil _).symm
  rawAttributes := by
    rw [lastOf_concat, ← holds.rawAttributes]
    cases c <;> rfl
  environmentName := by
    rw [nameRead, lastOf_concat]
    cases c with
    | environment e => rfl
    | _ => exact holds.environmentName

theorem holds_assemble (id : String) (calls : List Call) : Holds id calls (assemble id calls) := by
  induction calls using List.reverseRecOn with
  | nil => exact ⟨rfl, rfl, rfl, rfl, rfl, rfl⟩
  | append_singleton calls c ih =>
    rw [assemble, List.foldl_append]
    exact ih.apply c

/-- Where a value can come from. -/
inductive Source where
  | environmentName
  | serviceName
  | serviceVersion
  | entries
  | rawAttributes
  | instanceId
  | builtIn

/-- The sources, the highest first. -/
def Source.falling : List Source :=
  [environmentName, serviceName, serviceVersion, entries, rawAttributes, instanceId, builtIn]

/-- A text as the value of one key. -/
def valueUnder (key : String) (text : Option String) (k : String) : Option AttributeValue :=
  if k = key then text.map .string else none

/-- The value that a source has for a key, where `pairs` are those of the attribute text. -/
def Source.value? (id : String) (calls : List Call) (pairs : List Attribute) (k : String) :
    Source → Option AttributeValue
  | environmentName => valueUnder Resource.serviceNameKey (nameRead calls) k
  | serviceName => valueUnder Resource.serviceNameKey (lastOf Call.serviceName? calls) k
  | serviceVersion => valueUnder Resource.serviceVersionKey (lastOf Call.serviceVersion? calls) k
  | entries => Attributes.lastValue? (calls.filterMap Call.entry?) k
  | rawAttributes => Attributes.lastValue? pairs k
  | instanceId => valueUnder Resource.instanceIdKey (lastOf (Call.instanceId? id) calls) k
  | builtIn => Attributes.lastValue? ResourceBuilder.builtIn k

/-- The value of the highest source that has one. -/
def highest (id : String) (calls : List Call) (pairs : List Attribute) (k : String) :
    Option AttributeValue :=
  Source.falling.findSome? (Source.value? id calls pairs k)

/-- The pairs of the attribute text in force, if there is one. -/
def pairsInForce (calls : List Call) : Except Error (List Attribute) :=
  readText (lastOf Call.rawAttributes? calls)

theorem lastValue?_append {l m : List Attribute} {k : String} :
    Attributes.lastValue? (l ++ m) k = (Attributes.lastValue? m k).or (Attributes.lastValue? l k) := by
  rw [Attributes.lastValue?, Attributes.last?_append, Option.map_or]
  rfl

theorem lastValue?_toList (key : String) (text : Option String) (k : String) :
    Attributes.lastValue? (text.map fun s => ⟨key, .string s⟩).toList k = valueUnder key text k := by
  cases text with
  | none => simp [valueUnder, Attributes.lastValue?, Attributes.last?]
  | some s =>
    by_cases here : k = key
    · simp [valueUnder, Attributes.lastValue?, Attributes.last?, here]
    · simp [valueUnder, Attributes.lastValue?, Attributes.last?, here, Ne.symm here]

theorem valueUnder_or (key : String) (first second : Option String) (k : String) :
    valueUnder key (first.or second) k = (valueUnder key first k).or (valueUnder key second k) := by
  by_cases here : k = key
  · simp only [valueUnder, if_pos here, Option.map_or]
  · simp only [valueUnder, if_neg here, Option.or_none]

theorem highest_eq (id : String) (calls : List Call) (pairs : List Attribute) (k : String) :
    highest id calls pairs k = Source.falling.foldr (fun s => (s.value? id calls pairs k).or) none := by
  rw [highest]
  induction Source.falling with
  | nil => rfl
  | cons s rest ih =>
    rw [List.findSome?_cons, List.foldr_cons, ← ih]
    cases s.value? id calls pairs k <;> rfl

theorem lastValue?_sources (holds : Holds id calls b) (pairs : List Attribute) (k : String) :
    Attributes.lastValue? (b.sources pairs) k = highest id calls pairs k := by
  rw [sources, highest_eq]
  simp only [lastValue?_append, lastValue?_toList, valueUnder_or, holds.serviceName,
    holds.serviceVersion, holds.instanceId, holds.attributes, holds.environmentName]
  simp only [Source.falling, List.foldr_cons, List.foldr_nil, Option.or_none, Source.value?,
    Option.or_assoc]

theorem isSome_highest_serviceName (id : String) (calls : List Call) (pairs : List Attribute) :
    (highest id calls pairs Resource.serviceNameKey).isSome = true := by
  apply List.findSome?_isSome_iff.mpr
  exact ⟨.builtIn, by simp [Source.falling], rfl⟩

/-- Every value of a built resource is that of the highest source that has one for its key: the
service's name as last read from the environment, the last name and the last version given, the
last attribute given for the key, the attribute text in force, in which the last pair counts, the
generated instance id, and what every resource has. No other key is there, and the service's name
always is. -/
theorem value_of_highest_source (built : (assemble id calls).build = .ok r) :
    ∃ pairs, pairsInForce calls = .ok pairs ∧
      (∀ k, r.get? k = highest id calls pairs k) ∧
      (∀ x ∈ r.attributes.toList,
        ∃ s ∈ Source.falling, (s.value? id calls pairs x.key).isSome = true) ∧
      (r.get? Resource.serviceNameKey).isSome = true := by
  have holds := holds_assemble id calls
  obtain ⟨pairs, read, rfl⟩ := build_eq_ok_iff.mp built
  rw [holds.rawAttributes] at read
  have value (k : String) : Attributes.get? (.ofList ((assemble id calls).sources pairs)) k =
      highest id calls pairs k :=
    Attributes.get?_ofList.trans (lastValue?_sources holds pairs k)
  refine ⟨pairs, read, value, fun x there => ?_, ?_⟩
  · have known := Attributes.get?_eq_some_iff.mpr there
    rw [value] at known
    exact List.findSome?_isSome_iff.mp (Option.isSome_of_eq_some known)
  · exact (congrArg Option.isSome (value _)).trans (isSome_highest_serviceName id calls pairs)

/-- The environment changes between two looks at it, and is asked for the name again. -/
def overlaid : List Call :=
  [.environment ⟨[("OTEL_SERVICE_NAME", .text "early"), ("OTEL_RESOURCE_ATTRIBUTES", .text "a=1")]⟩,
    .entry ⟨"host", .integer 7⟩, .serviceVersion "2", .serviceName "given", .instanceId,
    .rawAttributes "service.version=0,host=x,zone=a,zone=b",
    .environment ⟨[("OTEL_SERVICE_NAME", .text "")]⟩]

theorem value_of_highest_source_overlaid :
    ∃ r, (assemble "id" overlaid).build = .ok r ∧
      r.get? "service.name" = some (.string "given") ∧
      r.get? "service.version" = some (.string "2") ∧ r.get? "host" = some (.integer 7) ∧
      r.get? "zone" = some (.string "b") ∧ r.get? "a" = none ∧
      r.get? "service.instance.id" = some (.string "id") := by
  have built : ∃ r, (assemble "id" overlaid).build = .ok r := ⟨_, rfl⟩
  obtain ⟨r, built⟩ := built
  obtain ⟨pairs, read, value, _, _⟩ := value_of_highest_source built
  cases read
  refine ⟨r, built, ?_, ?_, ?_, ?_, ?_, ?_⟩
  all_goals
    exact (value _).trans (by rfl)

end Telemetry.ResourceBuilder
