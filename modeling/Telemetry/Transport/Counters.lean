/-! What a transport counts about itself. -/
namespace Telemetry.Transport

structure Counters where
  recordAfterClose : Nat := 0
  connected : Nat := 0
  connectFailed : Nat := 0
  tlsHandshake : Nat := 0
  tlsFailed : Nat := 0
  requestSent : Nat := 0
  requestFailed : Nat := 0
  compressed : Nat := 0
  httpSent : Nat := 0
  httpFailed : Nat := 0
  grpcSent : Nat := 0
  grpcFailed : Nat := 0
deriving DecidableEq, Repr, Inhabited

def Counters.named (c : Counters) : List (String × Nat) :=
  [("record_after_close", c.recordAfterClose),
    ("transport_conn_established", c.connected),
    ("transport_conn_failed", c.connectFailed),
    ("transport_conn_tls_handshake", c.tlsHandshake),
    ("transport_conn_tls_failed", c.tlsFailed),
    ("transport_request_sent", c.requestSent),
    ("transport_request_failed", c.requestFailed),
    ("transport_request_compress_gzip", c.compressed),
    ("http_batch_sent", c.httpSent),
    ("http_batch_failed", c.httpFailed),
    ("grpc_batch_sent", c.grpcSent),
    ("grpc_batch_failed", c.grpcFailed)]

end Telemetry.Transport
