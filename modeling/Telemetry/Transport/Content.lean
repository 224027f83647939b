import Telemetry.Otlp.Message
import Telemetry.Transport.Cursor

/-! The body of a request: an optional frame header and a payload, handed out one piece at
a time. How the encoder of binary messages keeps them is its own affair: any type will do that
knows the length of its bytes and gives a place at their beginning. -/
namespace Telemetry.Transport

/-- A finished message in binary, as its encoder leaves it. -/
class MessageBuffer (ρ : Type) (π : outParam Type) where
  length : ρ → Nat
  /-- The place before all of the message. -/
  cursor : ρ → π

/-- The length is that of the bytes. -/
class LawfulMessageBuffer (ρ : Type) (π : outParam Type) [MessageBuffer ρ π] [Buf π] : Prop where
  length_eq : ∀ b : ρ, MessageBuffer.length b = (Buf.rest (MessageBuffer.cursor b)).length

/-- Bytes that lie together are a message as they are. -/
instance : MessageBuffer (List UInt8) Cursor where
  length := List.length
  cursor := .ofBytes

instance : LawfulMessageBuffer (List UInt8) Cursor where
  length_eq _ := rfl

/-- A place in a payload. -/
inductive PreEncodedCursor (π : Type) where
  | proto (c : π)
  | json (c : Cursor)

/-- A place in a piece of a body: in a payload, in its compressed form, or in a frame header. -/
inductive ContentCursor (π : Type) where
  | preEncoded (c : PreEncodedCursor π)
  | bytes (c : Cursor)
  | smallBytes (c : Cursor)

section Places

variable {π : Type} [Buf π]

instance : Buf (PreEncodedCursor π) where
  rest | .proto c | .json c => Buf.rest c
  remaining | .proto c | .json c => Buf.remaining c
  chunk | .proto c | .json c => Buf.chunk c
  advance
    | .proto c, n => (Buf.advance c n).map .proto
    | .json c, n => (Buf.advance c n).map .json

instance : Buf (ContentCursor π) where
  rest | .preEncoded c | .bytes c | .smallBytes c => Buf.rest c
  remaining | .preEncoded c | .bytes c | .smallBytes c => Buf.remaining c
  chunk | .preEncoded c | .bytes c | .smallBytes c => Buf.chunk c
  advance
    | .preEncoded c, n => (Buf.advance c n).map .preEncoded
    | .bytes c, n => (Buf.advance c n).map .bytes
    | .smallBytes c, n => (Buf.advance c n).map .smallBytes

variable [LawfulBuf π]

instance : LawfulBuf (PreEncodedCursor π) where
  remaining_eq | .proto c | .json c => LawfulBuf.remaining_eq c
  chunk_prefix | .proto c | .json c => LawfulBuf.chunk_prefix c
  rest_of_chunk | .proto c | .json c => LawfulBuf.rest_of_chunk c
  exists_advance
    | .proto _, _, within => Buf.exists_advance_map PreEncodedCursor.proto (fun _ => rfl) within
    | .json _, _, within => Buf.exists_advance_map PreEncodedCursor.json (fun _ => rfl) within

instance : LawfulBuf (ContentCursor π) where
  remaining_eq | .preEncoded c | .bytes c | .smallBytes c => LawfulBuf.remaining_eq c
  chunk_prefix | .preEncoded c | .bytes c | .smallBytes c => LawfulBuf.chunk_prefix c
  rest_of_chunk | .preEncoded c | .bytes c | .smallBytes c => LawfulBuf.rest_of_chunk c
  exists_advance
    | .preEncoded _, _, within => Buf.exists_advance_map ContentCursor.preEncoded (fun _ => rfl) within
    | .bytes _, _, within => Buf.exists_advance_map ContentCursor.bytes (fun _ => rfl) within
    | .smallBytes _, _, within => Buf.exists_advance_map ContentCursor.smallBytes (fun _ => rfl) within

end Places

/-- A message in one of the two encodings. -/
inductive EncodedPayload (ρ : Type) where
  | proto (buffer : ρ)
  | json (bytes : List UInt8)
deriving DecidableEq, Repr

namespace EncodedPayload

variable {ρ π : Type} [MessageBuffer ρ π]

def encoding : EncodedPayload ρ → Otlp.Encoding
  | proto _ => .proto
  | json _ => .json

def length : EncodedPayload ρ → Nat
  | proto buffer => MessageBuffer.length buffer
  | json bytes => bytes.length

def cursor : EncodedPayload ρ → PreEncodedCursor π
  | proto buffer => .proto (MessageBuffer.cursor buffer)
  | json bytes => .json (.ofBytes bytes)

/-- Bytes that lie together, with the encoding they are in. -/
def ofBytes : Otlp.Encoding → List UInt8 → EncodedPayload (List UInt8)
  | .proto, bytes => proto bytes
  | .json, bytes => json bytes

end EncodedPayload

/-- What a body has of its payload: the message itself, or other bytes in its place. -/
inductive Payload (ρ : Type) where
  | preEncoded (message : EncodedPayload ρ)
  | bytes (others : List UInt8)
deriving DecidableEq, Repr

namespace Payload

variable {ρ π : Type} [MessageBuffer ρ π]

def length : Payload ρ → Nat
  | preEncoded message => message.length
  | bytes others => others.length

def cursor : Payload ρ → ContentCursor π
  | preEncoded message => .preEncoded message.cursor
  | bytes others => .bytes (.ofBytes others)

end Payload

/-- What is still to come of a body, and what its headers say about it. -/
structure Content (ρ : Type) where
  frame : Option (Vector UInt8 5)
  payload : Option (Payload ρ)
  contentType : String
  contentEncoding : Option String
  /-- Headers that this kind of body needs. -/
  ownHeaders : List (String × String)
deriving DecidableEq, Repr

namespace Content

variable {ρ π : Type} [MessageBuffer ρ π]

/-- A payload as it is. -/
def raw (payload : EncodedPayload ρ) : Content ρ where
  frame := none
  payload := some (.preEncoded payload)
  contentType := match payload.encoding with
    | .proto => "application/x-protobuf"
    | .json => "application/json"
  contentEncoding := none
  ownHeaders := []

/-- A zero byte for a message that is not compressed, and its length in four bytes, the high one
first. A length of 2^32 and above loses its top. -/
def framePrefix (length : Nat) : Vector UInt8 5 :=
  #v[0, UInt8.ofNat (length / 0x1000000 % 256), UInt8.ofNat (length / 0x10000 % 256),
    UInt8.ofNat (length / 0x100 % 256), UInt8.ofNat (length % 256)]

/-- A payload as one message that is not compressed. -/
def grpc (payload : EncodedPayload ρ) : Content ρ where
  frame := some (framePrefix payload.length)
  payload := some (.preEncoded payload)
  contentType := match payload.encoding with
    | .proto => "application/grpc+proto"
    | .json => "application/grpc+json"
  contentEncoding := none
  ownHeaders := [("te", "trailers")]

/-- The payload in compressed form; what has no payload stays as it is. -/
def gzip [Buf π] [LawfulBuf π] (compress : List UInt8 → List UInt8) (c : Content ρ) : Content ρ :=
  match c.payload with
  | none => c
  | some payload =>
    { c with
      payload := some (.bytes (compress (Buf.drain (payload.cursor : ContentCursor π))))
      contentEncoding := some "gzip" }

def frameLength (c : Content ρ) : Nat := (c.frame.map fun frame => frame.size).getD 0

def payloadLength (c : Content ρ) : Nat := (c.payload.map Payload.length).getD 0

/-- How many bytes are still to come. -/
def length (c : Content ρ) : Nat := c.frameLength + c.payloadLength

/-- The fewest bytes that can be still to come, and the most. -/
def sizeHint (c : Content ρ) : Nat × Option Nat := (c.length, some c.length)

def isEnd (c : Content ρ) : Bool := c.frame.isNone && c.payload.isNone

/-- The next piece, read from its beginning, and what remains after it. -/
def poll (c : Content ρ) : Option (ContentCursor π × Content ρ) :=
  match c.frame with
  | some frame => some (.smallBytes (.ofBytes frame.toList), { c with frame := none })
  | none => c.payload.map fun payload => (payload.cursor, { c with payload := none })

end Content
end Telemetry.Transport
