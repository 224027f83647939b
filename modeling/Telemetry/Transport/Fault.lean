import Telemetry.Error
import Telemetry.Transport.Uri

/-! What goes wrong between this program and a collector. -/
namespace Telemetry.Transport

inductive Fault where
  /-- The endpoint cannot be used. -/
  | endpoint (e : Error)
  /-- The URL that an endpoint leads to is no URI. -/
  | uri (url : String) (fault : UriFault)
  | connect (target cause : String)
  | tls (cause : String)
  | handshake (version cause : String)
  | buildRequest (cause : String)
  | sendRequest (cause : String)
  | readBody (cause : String)
  /-- The response does not say how the call went. -/
  | missingStatus
deriving DecidableEq, Repr

namespace Fault

/-- What happened, without what stands behind it. -/
def summary : Fault → String
  | endpoint _ => "the endpoint is invalid"
  | uri url _ => "failed to parse " ++ url
  | connect target _ => "failed to connect to " ++ target
  | tls _ => "failed to connect TLS stream"
  | handshake version _ => "failed to perform " ++ version ++ " handshake"
  | buildRequest _ => "failed to build HTTP request"
  | sendRequest _ => "failed to send HTTP request"
  | readBody _ => "failed to read HTTP response body"
  | missingStatus => "the response is missing a valid `grpc-status`"

def cause? : Fault → Option String
  | endpoint e => some e.message
  | uri _ fault => some fault.message
  | connect _ cause | tls cause | handshake _ cause | buildRequest cause | sendRequest cause
  | readBody cause => some cause
  | missingStatus => none

/-- The summary and, after a colon, the cause. -/
def message (f : Fault) : String :=
  match f.cause? with
  | some cause => f.summary ++ ": " ++ cause
  | none => f.summary

end Fault
end Telemetry.Transport
