import Telemetry.Config.Endpoint
import Telemetry.Transport.Content
import Telemetry.Transport.Counters
import Telemetry.Transport.Response

/-! Sending requests to a collector over one connection, which is opened on demand, kept
while requests are answered, and given up when one is not. The network is a value that says
how it would behave: nothing here happens by itself. -/
namespace Telemetry.Transport

/-- The kind of data that is sent. -/
inductive Signal where
  | metrics
  | logs
deriving DecidableEq, Repr

/-- Where on a collector a signal goes. -/
def Signal.path : Signal → Protocol → String
  | metrics, .grpc => "/opentelemetry.proto.collector.metrics.v1.MetricsService/Export"
  | logs, .grpc => "/opentelemetry.proto.collector.logs.v1.LogsService/Export"
  | metrics, _ => "/v1/metrics"
  | logs, _ => "/v1/logs"

def encodingOf : Protocol → Otlp.Encoding
  | .grpc | .httpProtobuf => .proto
  | .httpJson => .json

structure Request where
  uri : Uri
  version : String
  headers : List (String × String)
  body : Content (List UInt8)
deriving DecidableEq, Repr

/-- How a request over an open connection ends: with the head of a response or without. -/
inductive ExchangeResult where
  | lost (cause : String)
  | answered (r : Response)

/-- What the network makes of each step towards a response. A step that fails says why. -/
structure Network where
  connect : Uri → Except String Unit
  /-- The handshake that secures a connection. -/
  secure : Uri → Except String Unit
  /-- The transport's own handshake. -/
  greet : Uri → Except String Unit
  exchange : Request → ExchangeResult
  compress : List UInt8 → List UInt8

/-- A network on which nobody can be reached. -/
def Network.unreachable : Network where
  connect _ := .error "Connection refused"
  secure _ := .error "connection closed"
  greet _ := .error "connection closed"
  exchange _ := .lost "connection closed"
  compress := id

structure Connection where
  protocol : Protocol
  uri : Uri
  headers : List (String × String)
  allowsCompression : Bool
  /-- Whether a connection is open and fit for another request. -/
  isOpen : Bool
  counters : Counters

namespace Connection

/-- A connection for a signal, not open yet. Calls frame their messages themselves and are
not compressed. -/
def create (endpoint : Endpoint) (protocol : Protocol) (signal : Signal)
    (headers : List (String × String)) (allowsCompression : Bool) : Except Fault Connection :=
  let url := endpoint.url protocol.defaultPort ++ signal.path protocol
  match Uri.parse url with
  | .error fault => .error (.uri url fault)
  | .ok uri => .ok ⟨protocol, uri, headers, allowsCompression && protocol != .grpc, false, {}⟩

def version (c : Connection) : String := if c.protocol = .grpc then "HTTP2" else "HTTP1"

def count (f : Counters → Counters) (c : Connection) : Connection := { c with counters := f c.counters }

/-- The characters of a header's name. -/
def isTokenChar (c : Char) : Bool := c.isAlphanum || "!#$%&'*+-.^_`|~".toList.contains c

def isHeaderName (s : String) : Bool := !s.isEmpty && s.utf8ByteSize < 0x10000 && s.toList.all isTokenChar

def isHeaderValue (s : String) : Bool :=
  s.toList.all fun c => c = '\t' || (' ' ≤ c && c != '\x7f')

/-- The headers of a request: those its body needs, what describes it, and the caller's. -/
def requestHeaders {ρ π : Type} [MessageBuffer ρ π] (c : Connection) (body : Content ρ) :
    List (String × String) :=
  body.ownHeaders ++
    [("host", c.uri.authority), ("content-length", Decimal.natText body.length),
      ("content-type", body.contentType)] ++
    (body.contentEncoding.map fun e => ("content-encoding", e)).toList ++ c.headers

/-- Secures a connection that is to be secure. -/
def ensureSecure (net : Network) (c : Connection) : Connection × Option Fault :=
  if !c.uri.secure then (c, none)
  else
    match net.secure c.uri with
    | .error cause => (c.count fun n => { n with tlsFailed := n.tlsFailed + 1 }, some (.tls cause))
    | .ok () => (c.count fun n => { n with tlsHandshake := n.tlsHandshake + 1 }, none)

/-- Opens a new connection. -/
def establish (net : Network) (c : Connection) : Connection × Option Fault :=
  let connectFailed (c : Connection) : Connection :=
    c.count fun n => { n with connectFailed := n.connectFailed + 1 }
  match net.connect c.uri with
  | .error cause => (connectFailed c, some (.connect c.uri.text cause))
  | .ok () =>
    match (c.count fun n => { n with connected := n.connected + 1 }).ensureSecure net with
    | (c, some fault) => (c, some fault)
    | (c, none) =>
      match net.greet c.uri with
      | .error cause => (connectFailed c, some (.handshake c.version cause))
      | .ok () => (c, none)

/-- Takes the open connection, or opens one. It counts as open again only once a request
over it has been answered. -/
def ensureOpen (net : Network) (c : Connection) : Connection × Option Fault :=
  if c.isOpen then ({ c with isOpen := false }, none) else c.establish net

/-- Compresses a body where that is allowed. -/
def compressBody (net : Network) (body : Content (List UInt8)) (c : Connection) :
    Connection × Content (List UInt8) :=
  if c.allowsCompression then
    (c.count fun n => { n with compressed := n.compressed + 1 }, body.gzip net.compress)
  else (c, body)

def requestFailed (c : Connection) : Connection :=
  c.count fun n => { n with requestFailed := n.requestFailed + 1 }

/-- Sends a body over a connection that was open. The connection stays so only where a
response comes back. -/
def exchange (net : Network) (body : Content (List UInt8)) (c : Connection) :
    Connection × Except Fault Response :=
  let (c, body) := c.compressBody net body
  let headers := c.requestHeaders body
  if !headers.all fun (name, _) => isHeaderName name then
    (c.requestFailed, .error (.buildRequest "invalid HTTP header name"))
  else if !headers.all fun (_, value) => isHeaderValue value then
    (c.requestFailed, .error (.buildRequest "failed to parse header value"))
  else
    match net.exchange ⟨c.uri, c.version, headers, body⟩ with
    | .lost cause => (c.requestFailed, .error (.sendRequest cause))
    | .answered r =>
      ({ c with isOpen := true }.count fun n => { n with requestSent := n.requestSent + 1 }, .ok r)

def bodyOf (c : Connection) (payload : List UInt8) : Content (List UInt8) :=
  match c.protocol with
  | .grpc => .grpc (.ofBytes (encodingOf c.protocol) payload)
  | .httpProtobuf | .httpJson => .raw (.ofBytes (encodingOf c.protocol) payload)

/-- Counts the verdict on a batch. -/
def countVerdict (sent : Bool) (c : Connection) : Connection :=
  c.count fun n =>
    match c.protocol, sent with
    | .grpc, true => { n with grpcSent := n.grpcSent + 1 }
    | .grpc, false => { n with grpcFailed := n.grpcFailed + 1 }
    | _, true => { n with httpSent := n.httpSent + 1 }
    | _, false => { n with httpFailed := n.httpFailed + 1 }

/-- Sends a payload and gives the collector's verdict. Where there is none, because the
request did not get through, another attempt is worthwhile. -/
def send (net : Network) (payload : List UInt8) (c : Connection) :
    Connection × Except ExportError Unit :=
  match c.ensureOpen net with
  | (c, some fault) => (c, .error (.transport fault.message))
  | (c, none) =>
    match c.exchange net (c.bodyOf payload) with
    | (c, .error fault) => (c, .error (.transport fault.message))
    | (c, .ok response) =>
      let verdict := response.check c.protocol
      (c.countVerdict verdict.toBool, verdict)

def diagnostic (c : Connection) : String :=
  let protocol := match c.protocol with
    | .grpc => "Grpc"
    | .httpProtobuf => "HttpProtobuf"
    | .httpJson => "HttpJson"
  "OtlpTransport \x7b protocol: " ++ protocol ++ ", uri: " ++ Text.quoted c.uri.text ++ " \x7d"

end Connection
end Telemetry.Transport
