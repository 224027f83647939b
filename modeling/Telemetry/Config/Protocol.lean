import Telemetry.Text.Blank

/-! The protocols that reach a collector. -/
namespace Telemetry

inductive Protocol where
  | grpc
  | httpProtobuf
  | httpJson
deriving DecidableEq, Repr, Inhabited

namespace Protocol

def name : Protocol → String
  | grpc => "grpc"
  | httpProtobuf => "http/protobuf"
  | httpJson => "http/json"

/-- The port that collectors listen on by convention. -/
def defaultPort : Protocol → Nat
  | grpc => 4317
  | httpProtobuf | httpJson => 4318

/-- Reads a protocol from its name in any case, with blanks around it. -/
def parse (s : String) : Option Protocol :=
  match String.ofList (Text.lower (Text.trim s.toList)) with
  | "grpc" => some grpc
  | "http/protobuf" | "http" => some httpProtobuf
  | "http/json" => some httpJson
  | _ => none

def parseMessage : String := "expected one of `grpc`, `http/protobuf`, or `http/json`"

end Protocol
end Telemetry
