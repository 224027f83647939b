import Telemetry.Transport.Connection

/-! A request's body is what its headers say. Whoever polls for its frames and reads each to its end
gets the content byte for byte, in whatever steps it moves on, and knows before each poll how much
is yet to come. -/
namespace Telemetry.Transport

namespace Buf

variable {κ : Type} [Buf κ]

/-- Moves on in steps, none of them over the end of the chunk it sees, and gives the bytes that were
passed with the place that was reached. -/
def read : List Nat → κ → Option (List UInt8 × κ)
  | [], c => some ([], c)
  | size :: sizes, c => do
    let seen := (chunk c).take size
    let next ← advance c seen.length
    let (bytes, last) ← read sizes next
    some (seen ++ bytes, last)

variable [LawfulBuf κ]

theorem rest_eq_nil {c : κ} : rest c = [] ↔ remaining c = 0 := by
  rw [LawfulBuf.remaining_eq, List.length_eq_zero_iff]

/-- To move over the front of a chunk is to leave the rest behind it. -/
theorem exists_advance_take (size : Nat) (c : κ) :
    ∃ next, advance c ((chunk c).take size).length = some next ∧
      (chunk c).take size ++ rest next = rest c := by
  obtain ⟨behind, whole⟩ := (List.take_prefix size (chunk c)).trans (LawfulBuf.chunk_prefix c)
  have within : ((chunk c).take size).length ≤ remaining c := by
    rw [LawfulBuf.remaining_eq, ← whole, List.length_append]
    exact Nat.le_add_right _ _
  obtain ⟨next, moved, same⟩ := LawfulBuf.exists_advance c _ within
  refine ⟨next, moved, ?_⟩
  rw [same, ← whole, List.drop_left]

/-- No reader panics, and none loses a byte. One whose steps do move, and are as many as the bytes,
comes to the end. -/
theorem exists_read (sizes : List Nat) (c : κ) :
    ∃ bytes last, read sizes c = some (bytes, last) ∧ bytes ++ rest last = rest c ∧
      ((∀ size ∈ sizes, 0 < size) → remaining c ≤ sizes.length → remaining last = 0) := by
  induction sizes generalizing c with
  | nil => exact ⟨[], c, rfl, rfl, fun _ none => Nat.le_zero.mp none⟩
  | cons size sizes ih =>
    obtain ⟨next, moved, front⟩ := exists_advance_take size c
    obtain ⟨bytes, last, read_next, back, ends⟩ := ih next
    have read_all : read (size :: sizes) c = some ((chunk c).take size ++ bytes, last) := by
      simp only [read, moved, Option.bind_eq_bind, Option.bind_some, read_next]
    refine ⟨(chunk c).take size ++ bytes, last, read_all, ?_, ?_⟩
    · rw [List.append_assoc, back, front]
    · intro positive enough
      refine ends (fun other mem => positive other (List.mem_cons_of_mem _ mem)) ?_
      have lengths := congrArg List.length front
      rw [List.length_append, ← LawfulBuf.remaining_eq, ← LawfulBuf.remaining_eq,
        List.length_take] at lengths
      have first := positive size List.mem_cons_self
      rw [List.length_cons] at enough
      -- At the end there is nothing left to move over, and before it the step moves.
      by_cases none : chunk c = []
      · have := rest_eq_nil.mp (LawfulBuf.rest_of_chunk c none)
        omega
      · have := List.length_pos_iff.mpr none
        omega

theorem drain_eq (c : κ) : drain c = rest c := by
  induction c using drain.induct with
  | case1 c none => rw [drain, if_pos none, LawfulBuf.rest_of_chunk c none]
  | case2 c some ih =>
    obtain ⟨behind, whole⟩ := LawfulBuf.chunk_prefix c
    rw [drain, if_neg some, ih, rest_get (chunk_le c), ← whole, List.drop_left]

end Buf

theorem Cursor.rest_ofBytes (bytes : List UInt8) : Buf.rest (ofBytes bytes) = bytes :=
  List.drop_zero

section Contents

variable {ρ π : Type} [MessageBuffer ρ π] [Buf π]

namespace EncodedPayload

/-- The bytes of a message: what its encoder holds, or the text itself. -/
def bytes : EncodedPayload ρ → List UInt8
  | proto buffer => Buf.rest (MessageBuffer.cursor buffer)
  | json text => text

/-- The cursor of a message is a place before all of its bytes. -/
theorem rest_cursor (message : EncodedPayload ρ) :
    Buf.rest (message.cursor : PreEncodedCursor π) = message.bytes := by
  cases message with
  | proto buffer => rfl
  | json text => exact Cursor.rest_ofBytes text

theorem length_eq [LawfulMessageBuffer ρ π] (message : EncodedPayload ρ) :
    message.length = message.bytes.length := by
  cases message with
  | proto buffer => exact LawfulMessageBuffer.length_eq buffer
  | json text => rfl

end EncodedPayload

namespace Payload

/-- The bytes that are to be sent for a payload. -/
def content : Payload ρ → List UInt8
  | preEncoded message => message.bytes
  | bytes others => others

theorem rest_cursor (payload : Payload ρ) :
    Buf.rest (payload.cursor : ContentCursor π) = payload.content := by
  cases payload with
  | preEncoded message => exact message.rest_cursor
  | bytes others => exact Cursor.rest_ofBytes others

theorem length_eq [LawfulMessageBuffer ρ π] (payload : Payload ρ) :
    payload.length = payload.content.length := by
  cases payload with
  | preEncoded message => exact message.length_eq
  | bytes others => rfl

end Payload

/-- A consumer polls for frame after frame and reads each to its end, in steps of its choice. -/
inductive Yields : Content ρ → List (List UInt8) → Content ρ → Prop where
  | nothing (c : Content ρ) : Yields c [] c
  | frame {c d e : Content ρ} {cursor last : ContentCursor π} {sizes : List Nat}
      {frame : List UInt8} {frames : List (List UInt8)} (polled : c.poll = some (cursor, d))
      (read : Buf.read sizes cursor = some (frame, last)) (through : Buf.remaining last = 0)
      (more : Yields d frames e) : Yields c (frame :: frames) e

namespace Content

/-- What is still to come, as bytes. -/
def bytes (c : Content ρ) : List UInt8 :=
  (c.frame.map Vector.toList).getD [] ++ (c.payload.map Payload.content).getD []

/-- How many frames are still to come. -/
def frames (c : Content ρ) : Nat := c.frame.toList.length + c.payload.toList.length

theorem length_eq [LawfulMessageBuffer ρ π] (c : Content ρ) : c.length = c.bytes.length := by
  have frame : c.frameLength = ((c.frame.map Vector.toList).getD []).length := by
    unfold frameLength
    cases c.frame <;> simp
  have payload : c.payloadLength = ((c.payload.map Payload.content).getD []).length := by
    unfold payloadLength
    cases c.payload with
    | none => rfl
    | some payload => exact payload.length_eq
  rw [length, bytes, List.length_append, frame, payload]

omit [Buf π] in
theorem isEnd_iff {c : Content ρ} : c.isEnd = true ↔ c.poll = none := by
  obtain ⟨_ | _, _ | _, _, _, _⟩ := c <;> simp [isEnd, poll]

theorem bytes_of_poll {c d : Content ρ} {cursor : ContentCursor π}
    (polled : c.poll = some (cursor, d)) : Buf.rest cursor ++ d.bytes = c.bytes := by
  obtain ⟨_ | frame, _ | payload, _, _, _⟩ := c <;> cases polled
  · rw [payload.rest_cursor]
    exact List.append_nil _
  all_goals exact congrArg (· ++ _) (Cursor.rest_ofBytes frame.toList)

omit [Buf π] in
theorem frames_of_poll {c d : Content ρ} {cursor : ContentCursor π}
    (polled : c.poll = some (cursor, d)) : d.frames + 1 = c.frames := by
  obtain ⟨_ | _, _ | _, _, _, _⟩ := c <;> cases polled
  all_goals rfl

theorem bytes_of_poll_none {c : Content ρ} (ended : c.poll = none) : c.bytes = [] := by
  obtain ⟨_ | _, _ | _, _, _, _⟩ := c <;> cases ended
  rfl

end Content

namespace Yields

variable {c d e : Content ρ} {frames more : List (List UInt8)}

theorem trans (left : Yields c frames d) (right : Yields d more e) : Yields c (frames ++ more) e := by
  induction left with
  | nothing => exact right
  | frame polled read through _ ih => exact .frame polled read through (ih right)

variable [LawfulBuf π]

/-- What was read and what is still to come are the same bytes all along. -/
theorem bytes_eq (yields : Yields c frames d) : frames.flatten ++ d.bytes = c.bytes := by
  induction yields with
  | nothing => rfl
  | @frame _ _ _ cursor last sizes frame _ polled read through _ ih =>
    -- A frame that is read to its end is all that lay before its place.
    obtain ⟨bytes, place, read', whole, _⟩ := Buf.exists_read sizes cursor
    obtain ⟨rfl, rfl⟩ := Prod.mk.inj (Option.some.inj (read.symm.trans read'))
    rw [Buf.rest_eq_nil.mpr through, List.append_nil] at whole
    rw [List.flatten_cons, List.append_assoc, ih, whole, Content.bytes_of_poll polled]

/-- A body's frames come to an end. -/
theorem exists_end (c : Content ρ) : ∃ frames d, Yields c frames d ∧ d.poll = none := by
  induction count : c.frames generalizing c with
  | zero =>
    refine ⟨[], c, .nothing c, ?_⟩
    rcases polled : c.poll with _ | ⟨cursor, d⟩
    · rfl
    · have := Content.frames_of_poll polled
      omega
  | succ n ih =>
    rcases polled : c.poll with _ | ⟨cursor, d⟩
    · exact ⟨[], c, .nothing c, polled⟩
    · have fewer : d.frames = n := by
        have := Content.frames_of_poll polled
        omega
      obtain ⟨frames, e, more, ended⟩ := ih d fewer
      obtain ⟨frame, last, read, _, through⟩ :=
        Buf.exists_read (List.replicate (Buf.remaining cursor) 1) cursor
      refine ⟨frame :: frames, e, .frame polled read (through ?_ ?_) more, ended⟩
      · intro size mem
        rw [List.eq_of_mem_replicate mem]
        exact Nat.one_pos
      · exact Nat.le_of_eq List.length_replicate.symm

end Yields

/-- How a message becomes a body. -/
inductive Framing where
  | raw
  | gzip
  | grpc
deriving DecidableEq, Repr

namespace Framing

def body [LawfulBuf π] (compress : List UInt8 → List UInt8) (payload : EncodedPayload ρ) :
    Framing → Content ρ
  | raw => .raw payload
  | gzip => (Content.raw payload).gzip compress
  | grpc => .grpc payload

/-- The bytes that are to be sent for those of a message. -/
def content (compress : List UInt8 → List UInt8) (message : List UInt8) : Framing → List UInt8
  | raw => message
  | gzip => compress message
  | grpc => (Content.framePrefix message.length).toList ++ message

end Framing

/-- A number from its bytes, the high one first. -/
def ofBigEndian (bytes : List UInt8) : Nat := bytes.foldl (fun n byte => n * 256 + byte.toNat) 0

/-- How the other side of a call reads a message: whether it is compressed, how long it is said to
be, and what follows. -/
def readMessage : List UInt8 → Option (Bool × Nat × List UInt8)
  | flag :: a :: b :: c :: d :: message => some (flag != 0, ofBigEndian [a, b, c, d], message)
  | _ => none

theorem readMessage_framePrefix {length : Nat} (short : length < 0x100000000) (message : List UInt8) :
    readMessage ((Content.framePrefix length).toList ++ message) = some (false, length, message) := by
  have value : ofBigEndian [UInt8.ofNat (length / 0x1000000 % 256),
      UInt8.ofNat (length / 0x10000 % 256), UInt8.ofNat (length / 0x100 % 256),
      UInt8.ofNat (length % 256)] = length := by
    simp only [ofBigEndian, List.foldl_cons, List.foldl_nil, UInt8.toNat_ofNat']
    omega
  exact congrArg (fun n => some (false, n, message)) value

/-- What a consumer finds that got some frames of a body, when it polls again. -/
structure BeforePoll (content : List UInt8) (frames : List (List UInt8)) (d : Content ρ) :
    Prop where
  /-- With what comes yet, it has the content. -/
  whole : ∀ more e, Yields d more e → e.poll = none → (frames ++ more).flatten = content
  /-- The hint is what comes yet, no less and no more. -/
  hint : ∀ more e, Yields d more e → e.poll = none →
    d.sizeHint = (more.flatten.length, some more.flatten.length)
  ended : d.isEnd = true ↔ d.poll = none
  /-- The next frame can be read to its end in whatever steps. -/
  readable : ∀ cursor e, d.poll = some (cursor, e) → ∀ sizes : List Nat,
    (∀ size ∈ sizes, 0 < size) → Buf.remaining cursor ≤ sizes.length →
      ∃ frame last, Buf.read sizes cursor = some (frame, last) ∧ Buf.remaining last = 0
  /-- There is an end to the frames. -/
  ends : ∃ more e, Yields d more e ∧ e.poll = none

theorem BeforePoll.of_yields [LawfulBuf π] [LawfulMessageBuffer ρ π] {c d : Content ρ}
    {frames : List (List UInt8)} (yields : Yields c frames d) : BeforePoll c.bytes frames d where
  whole more e rest ended := by
    have all := (yields.trans rest).bytes_eq
    rwa [Content.bytes_of_poll_none ended, List.append_nil] at all
  hint more e rest ended := by
    have all := rest.bytes_eq
    rw [Content.bytes_of_poll_none ended, List.append_nil] at all
    rw [Content.sizeHint, Content.length_eq, all]
  ended := Content.isEnd_iff
  readable cursor _ _ sizes positive enough := by
    obtain ⟨frame, last, read, _, through⟩ := Buf.exists_read sizes cursor
    exact ⟨frame, last, read, through positive enough⟩
  ends := Yields.exists_end d

theorem Framing.bytes_body [LawfulBuf π] [LawfulMessageBuffer ρ π]
    (compress : List UInt8 → List UInt8) (payload : EncodedPayload ρ) (framing : Framing) :
    (framing.body compress payload).bytes = framing.content compress payload.bytes := by
  cases framing with
  | raw => rfl
  | gzip =>
    show compress (Buf.drain (Payload.preEncoded payload).cursor) = compress payload.bytes
    rw [Buf.drain_eq, Payload.rest_cursor]
    rfl
  | grpc =>
    show (Content.framePrefix payload.length).toList ++ payload.bytes = _
    rw [payload.length_eq]
    rfl

/-- The bytes of a request are those its headers speak of. Of a message in either encoding, sent as it
is, compressed or as a call's, a consumer gets the content and nothing else, whatever steps it reads
in; before each poll it is told how many bytes are yet to come, and whether any frame is; their
number is the content's length in the headers; and what precedes the message of a call says that it
is not compressed and how long it is. -/
theorem body_matches_headers [LawfulBuf π] [LawfulMessageBuffer ρ π]
    (compress : List UInt8 → List UInt8) (framing : Framing) (payload : EncodedPayload ρ)
    (short : payload.length < 0x100000000) (conn : Connection) :
    let body := framing.body compress payload
    let content := framing.content compress payload.bytes
    (∀ frames d, Yields body frames d → BeforePoll content frames d) ∧
      (conn.requestHeaders body).lookup "content-length" =
        some (Decimal.natText content.length) ∧
      (body.contentEncoding = some "gzip" ↔ framing = .gzip) ∧
      (framing = .grpc → readMessage content = some (false, payload.length, payload.bytes)) := by
  intro body content
  have same : body.bytes = content := framing.bytes_body compress payload
  refine ⟨fun frames d yields => same ▸ .of_yields yields, ?_, ?_, ?_⟩
  · rw [← same, ← Content.length_eq]
    cases framing <;> rfl
  · cases framing <;> simp [body, Framing.body, Content.raw, Content.gzip, Content.grpc]
  · rintro rfl
    rw [payload.length_eq] at short ⊢
    exact readMessage_framePrefix short payload.bytes

end Contents

/-- A connection sends each message in one of these framings: what it compresses is no call. -/
theorem Connection.exists_framing {endpoint : Endpoint} {protocol : Protocol} {signal : Signal}
    {headers : List (String × String)} {allows : Bool} {c : Connection}
    (created : create endpoint protocol signal headers allows = .ok c) (net : Network)
    (payload : List UInt8) : ∃ framing : Framing, (c.compressBody net (c.bodyOf payload)).2 =
      framing.body net.compress (.ofBytes (encodingOf protocol) payload) := by
  unfold create at created
  simp only at created
  split at created <;> cases created
  cases protocol with
  | grpc => exact ⟨.grpc, by simp [compressBody, bodyOf, Framing.body]⟩
  | httpProtobuf | httpJson =>
    cases allows
    · exact ⟨.raw, by simp [compressBody, bodyOf, Framing.body]⟩
    · exact ⟨.gzip, by simp [compressBody, bodyOf, Framing.body]⟩

/-- A message that its encoder left in pieces, none of which is empty. -/
inductive Pieces where
  | nil
  | cons (byte : UInt8) (more : List UInt8) (others : Pieces)
deriving DecidableEq, Repr

namespace Pieces

def bytes : Pieces → List UInt8
  | nil => []
  | cons byte more others => byte :: more ++ others.bytes

def first : Pieces → List UInt8
  | nil => []
  | cons byte more _ => byte :: more

def tail : Pieces → Pieces
  | nil => nil
  | cons _ [] others => others
  | cons _ (byte :: more) others => cons byte more others

def drop : Nat → Pieces → Pieces
  | 0, pieces => pieces
  | n + 1, pieces => drop n pieces.tail

theorem bytes_tail (pieces : Pieces) : pieces.tail.bytes = pieces.bytes.tail := by
  cases pieces with
  | nil => rfl
  | cons _ more _ => cases more <;> rfl

theorem bytes_drop (n : Nat) (pieces : Pieces) : (drop n pieces).bytes = pieces.bytes.drop n := by
  induction n generalizing pieces with
  | zero => rfl
  | succ n ih => rw [drop, ih, bytes_tail, List.drop_tail]

instance : Buf Pieces where
  rest := bytes
  remaining pieces := pieces.bytes.length
  chunk := first
  advance pieces n := if n ≤ pieces.bytes.length then some (drop n pieces) else none

instance : LawfulBuf Pieces where
  remaining_eq _ := rfl
  chunk_prefix
    | nil => List.prefix_rfl
    | cons _ _ others => List.prefix_append _ others.bytes
  rest_of_chunk
    | nil, _ => rfl
  exists_advance pieces n within := ⟨drop n pieces, if_pos within, bytes_drop n pieces⟩

instance : MessageBuffer Pieces Pieces where
  length pieces := pieces.bytes.length
  cursor := id

instance : LawfulMessageBuffer Pieces Pieces where
  length_eq _ := rfl

end Pieces

/-- A call whose message lies in two pieces, read a byte at a time: once its prefix is there, three
bytes are yet to come. And a message that is text, sent as it is: the two bytes it has are what the
consumer gets. -/
theorem body_matches_headers_pieces :
    let message := EncodedPayload.proto (Pieces.cons 10 [1] (.cons 42 [] .nil))
    let body := Framing.body id message .grpc
    let conn : Connection :=
      ⟨.grpc, ⟨false, "localhost:4317", "/", none⟩, [], false, false, {}⟩
    let text : EncodedPayload Pieces := .json [123, 125]
    let plain := Framing.body id text .raw
    let web : Connection :=
      ⟨.httpJson, ⟨false, "localhost:4318", "/v1/logs", none⟩, [], false, false, {}⟩
    message.length < 0x100000000 ∧
      (∃ d, Yields body [[0, 0, 0, 0, 3]] d ∧ Yields d [[10, 1, 42]] { d with payload := none } ∧
        BeforePoll [0, 0, 0, 0, 3, 10, 1, 42] [[0, 0, 0, 0, 3]] d ∧ d.sizeHint = (3, some 3)) ∧
      (conn.requestHeaders body).lookup "content-length" = some (Decimal.natText 8) ∧
      readMessage [0, 0, 0, 0, 3, 10, 1, 42] = some (false, 3, [10, 1, 42]) ∧
      text.length < 0x100000000 ∧
      (∃ d, Yields plain [[123, 125]] d ∧ BeforePoll [123, 125] [] plain ∧
        BeforePoll [123, 125] [[123, 125]] d ∧ d.isEnd = true) ∧
      (web.requestHeaders plain).lookup "content-length" = some (Decimal.natText 2) := by
  intro message body conn text plain web
  have short : message.length < 0x100000000 := by decide
  have brief : text.length < 0x100000000 := by decide
  have polled : body.poll =
      some (.smallBytes (.ofBytes [0, 0, 0, 0, 3]), { body with frame := none }) := by
    show some (ContentCursor.smallBytes
      (.ofBytes (Content.framePrefix message.length).toList), _) = _
    rw [show message.length = 3 from rfl]
    rfl
  have front : Yields body [[0, 0, 0, 0, 3]] { body with frame := none } :=
    .frame polled (show Buf.read [1, 1, 1, 1, 1] _ = _ from rfl) rfl (.nothing _)
  have back : Yields { body with frame := none } [[10, 1, 42]]
      { body with frame := none, payload := none } :=
    .frame rfl (show Buf.read [1, 1, 1] _ = _ from rfl) rfl (.nothing _)
  have whole : Yields plain [[123, 125]] { plain with payload := none } :=
    .frame rfl (show Buf.read [1, 1] _ = _ from rfl) rfl (.nothing _)
  have content : Framing.content id message.bytes .grpc = [0, 0, 0, 0, 3, 10, 1, 42] := by
    show (Content.framePrefix message.bytes.length).toList ++ message.bytes = _
    rw [show message.bytes.length = 3 from rfl]
    rfl
  obtain ⟨states, length, -, reads⟩ := body_matches_headers id .grpc message short conn
  rw [content] at length reads
  simp only [content] at states
  obtain ⟨texts, size, -, -⟩ := body_matches_headers id .raw text brief web
  refine ⟨short, ⟨_, front, back, states _ _ front, rfl⟩, length, reads rfl, brief, ?_, size⟩
  exact ⟨_, whole, texts _ _ (.nothing plain), texts _ _ whole, rfl⟩

end Telemetry.Transport
