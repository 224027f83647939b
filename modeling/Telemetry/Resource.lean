import Telemetry.Attributes
import Telemetry.Environment
import Telemetry.Error
import Telemetry.Text.Percent

/-! Resources: the attributes of the process that telemetry comes from, and the sources
that they are put together from. -/
namespace Telemetry

structure Resource where
  attributes : Attributes
deriving DecidableEq, Inhabited

namespace Resource

def serviceNameKey : String := "service.name"

def serviceVersionKey : String := "service.version"

def instanceIdKey : String := "service.instance.id"

def defaultServiceName : String := "unknown_service"

def get? (r : Resource) (key : String) : Option AttributeValue := r.attributes.get? key

def serviceName (r : Resource) : String :=
  ((r.get? serviceNameKey).bind AttributeValue.asString?).getD defaultServiceName

/-- One piece of a resource attribute text: a key, `=`, and a percent-encoded value. -/
def readPair (piece : List Char) : Except ResourceFault Attribute :=
  match Text.cut '=' piece with
  | none => .error .noPair
  | some (key, value) =>
    let key := Text.trim key
    if key.isEmpty then .error .emptyKey
    else
      match Text.percentDecode (Text.trim value) with
      | none => .error .badPercent
      | some decoded => .ok ⟨String.ofList key, .string decoded⟩

/-- Reads the pairs between the commas of a resource attribute text. -/
def readAttributes (raw : String) : Except Error (List Attribute) :=
  ((Text.listItems raw.toList).mapM readPair).mapError (Error.invalidResourceAttributes raw)

end Resource

/-- The sources of a resource, gathered before it is built. -/
structure ResourceBuilder where
  serviceName : Option String := none
  serviceVersion : Option String := none
  instanceId : Option String := none
  attributes : List Attribute := []
  rawAttributes : Option String := none
  environmentName : Option String := none
deriving Inhabited

namespace ResourceBuilder

def withServiceName (b : ResourceBuilder) (name : String) : ResourceBuilder :=
  { b with serviceName := some name }

def withServiceVersion (b : ResourceBuilder) (version : String) : ResourceBuilder :=
  { b with serviceVersion := some version }

def withInstanceId (b : ResourceBuilder) (id : String) : ResourceBuilder :=
  { b with instanceId := some id }

def withAttribute (b : ResourceBuilder) (x : Attribute) : ResourceBuilder :=
  { b with attributes := b.attributes ++ [x] }

def withRawAttributes (b : ResourceBuilder) (raw : String) : ResourceBuilder :=
  { b with rawAttributes := some raw }

/-- Takes the attribute text and the service name from the environment. Attributes stay
where their variable is not set; the name is read anew, and an empty one is none. -/
def withEnvironment (b : ResourceBuilder) (e : Environment) : ResourceBuilder :=
  { b with
    rawAttributes := (e.get? "OTEL_RESOURCE_ATTRIBUTES").or b.rawAttributes
    environmentName := (e.get? "OTEL_SERVICE_NAME").filter (!·.isEmpty) }

/-- What every resource says of itself. -/
def builtIn : List Attribute :=
  [⟨Resource.serviceNameKey, .string Resource.defaultServiceName⟩,
    ⟨"telemetry.sdk.name", .string "tally"⟩,
    ⟨"telemetry.sdk.language", .string "rust"⟩,
    ⟨"telemetry.sdk.version", .string "0.1.0"⟩]

/-- All attributes in rising precedence. -/
def sources (b : ResourceBuilder) (raw : List Attribute) : List Attribute :=
  let named (key : String) (value : Option String) : List Attribute :=
    (value.map fun s => ⟨key, .string s⟩).toList
  builtIn ++ named Resource.instanceIdKey b.instanceId ++ raw ++ b.attributes ++
    named Resource.serviceVersionKey b.serviceVersion ++
    named Resource.serviceNameKey (b.environmentName.or b.serviceName)

def build (b : ResourceBuilder) : Except Error Resource :=
  match b.rawAttributes with
  | none => .ok ⟨.ofList (b.sources [])⟩
  | some raw => (Resource.readAttributes raw).map fun l => ⟨.ofList (b.sources l)⟩

end ResourceBuilder

/-- The resource of a process that says nothing of itself. -/
def Resource.default : Resource := ⟨.ofList (ResourceBuilder.sources {} [])⟩

end Telemetry
