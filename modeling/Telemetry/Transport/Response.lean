import Telemetry.Config.Protocol
import Telemetry.Export.Error
import Telemetry.Transport.Fault

/-! What a collector's response means for the batch it answers. -/
namespace Telemetry.Transport

/-- A response whose head has arrived. Names of headers are in lower case. -/
structure Response where
  status : Nat
  headers : List (String × String)
  trailers : List (String × String)
  /-- Why the body could not be read to its end, if so. -/
  broken : Option String
deriving DecidableEq, Repr

namespace Response

def isSuccess (status : Nat) : Bool := 200 ≤ status && status < 300

/-- The statuses of a collector that is overloaded or away for a while. -/
def isRetryableStatus (status : Nat) : Bool :=
  status == 429 || status == 502 || status == 503 || status == 504

/-- The same for the codes of a call: resource exhausted, and unavailable. -/
def isRetryableCode (code : Nat) : Bool := code == 8 || code == 14

def rejection (status : Nat) : ExportError :=
  .rejected ("HTTP " ++ Decimal.natText status) (isRetryableStatus status)

/-- Header values count where they are visible ASCII. -/
def readable (s : String) : Option String :=
  if s.toList.all fun c => c = '\t' || (' ' ≤ c && c ≤ '~') then some s else none

/-- The first header of a name, where it is readable. -/
def header? (r : Response) (name : String) : Option String :=
  ((r.headers.find? (·.1 == name)).map (·.2)).bind readable

/-- The last readable trailer of a name. -/
def trailer? (r : Response) (name : String) : Option String :=
  (r.trailers.reverse.filterMap fun (k, v) => if k == name then readable v else none).head?

/-- A trailer, or else the header of the same name. -/
def field? (r : Response) (name : String) : Option String := (r.trailer? name).or (r.header? name)

/-- The verdict where the body could not be read. -/
def brokenBody (cause : String) : ExportError := .transport (Fault.readBody cause).message

/-- Over plain HTTP the status decides, once the body has been read. -/
def checkHttp (r : Response) : Except ExportError Unit :=
  match r.broken with
  | some cause => .error (brokenBody cause)
  | none => if isSuccess r.status then .ok () else .error (rejection r.status)

/-- The verdict of a call's own status. -/
def checkCode (r : Response) : Except ExportError Unit :=
  match (r.field? "grpc-status").bind fun s => Decimal.readUnsigned 0x100000000 (Text.trim s.toList) with
  | none => .error (.transport Fault.missingStatus.message)
  | some code =>
    if code = 0 then .ok ()
    else
      let status := "gRPC " ++ Decimal.natText code
      let status := match r.field? "grpc-message" with
        | some message => status ++ ": " ++ message
        | none => status
      .error (.rejected status (isRetryableCode code))

/-- A call fails with an unsuccessful status at once, and then on what its own status says. -/
def checkGrpc (r : Response) : Except ExportError Unit :=
  if !isSuccess r.status then .error (rejection r.status)
  else
    match r.broken with
    | some cause => .error (brokenBody cause)
    | none => r.checkCode

def check : Protocol → Response → Except ExportError Unit
  | .grpc => checkGrpc
  | .httpProtobuf | .httpJson => checkHttp

end Response
end Telemetry.Transport
