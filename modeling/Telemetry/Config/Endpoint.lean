import Telemetry.Decimal.Digits
import Telemetry.Error
import Telemetry.Text.Blank

/-! Collector endpoints, given as `host:port` or as a URL. -/
namespace Telemetry

structure Endpoint where
  secure : Bool
  host : String
  port : Option Nat
  path : String
deriving DecidableEq, Repr, Inhabited

namespace Endpoint

def trimSlashes (l : List Char) : List Char := (l.reverse.dropWhile (· == '/')).reverse

/-- The transport that a scheme asks for and what follows it; without a scheme,
`insecure` decides. -/
def readScheme (insecure : Bool) (l : List Char) : Except EndpointFault (Bool × List Char) :=
  match Text.after? "https://".toList l with
  | some rest => .ok (true, rest)
  | none =>
    match Text.after? "http://".toList l with
    | some rest => .ok (false, rest)
    | none => if Text.containsRun "://".toList l then .error .scheme else .ok (!insecure, l)

/-- The host and the port after its last colon. A colon inside brackets is the host's own. -/
def readAuthority (l : List Char) : Except EndpointFault (List Char × Option Nat) :=
  match Text.cutLast ':' l with
  | some (host, port) =>
    if port.contains ']' then .ok (l, none)
    else
      match Decimal.readUnsigned 0x10000 port with
      | some n => .ok (host, some n)
      | none => .error .port
  | none => .ok (l, none)

def isHostChar (c : Char) : Bool := !Text.isBlank c && c != '@' && c != '?' && c != '#'

/-- The parts of a trimmed endpoint text. A path loses the slashes at its end. -/
def readParts (insecure : Bool) (l : List Char) : Except EndpointFault Endpoint := do
  let (secure, rest) ← readScheme insecure l
  let authority := rest.takeWhile (· != '/')
  let path := trimSlashes (rest.dropWhile (· != '/'))
  let (host, port) ← readAuthority authority
  if host.isEmpty then .error .emptyHost
  else if !host.all isHostChar then .error .badHost
  else .ok ⟨secure, String.ofList host, port, String.ofList path⟩

def parse (text : String) (insecure : Bool) : Except Error Endpoint :=
  (readParts insecure (Text.trim text.toList)).mapError fun fault =>
    .invalidConfig (.endpoint text fault)

def scheme (e : Endpoint) : String := if e.secure then "https" else "http"

/-- The URL of the endpoint, with `defaultPort` where it has none of its own. -/
def url (e : Endpoint) (defaultPort : Nat) : String :=
  e.scheme ++ "://" ++ e.host ++ ":" ++ Decimal.natText (e.port.getD defaultPort) ++ e.path

end Endpoint
end Telemetry
