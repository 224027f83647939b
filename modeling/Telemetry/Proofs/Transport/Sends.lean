import Telemetry.Proofs.Transport.Address
import Telemetry.Transition

/-! Sending one request after another over a connection: what each send counts, and when a send
opens the connection anew. Main result: `sends_end_once`. -/
namespace Telemetry.Transport

/-- The ways in which a send can end that a transport counts. -/
inductive Ending where
  | unconnected
  | unsecured
  | unsent
  | answered (grpc accepted : Bool)
deriving DecidableEq, Repr

def Ending.isAnswer : Ending → Bool
  | .answered _ _ => true
  | _ => false

def Counters.endings (n : Counters) : Ending → Nat
  | .unconnected => n.connectFailed
  | .unsecured => n.tlsFailed
  | .unsent => n.requestFailed
  | .answered true true => n.grpcSent
  | .answered true false => n.grpcFailed
  | .answered false true => n.httpSent
  | .answered false false => n.httpFailed

/-- Every response was counted with the verdict on it. -/
def Counters.Balanced (n : Counters) : Prop :=
  n.requestSent = n.httpSent + n.httpFailed + n.grpcSent + n.grpcFailed

/-- A network on which everyone is reached and every request is answered in the same way. -/
def Network.answering (r : Response) : Network where
  connect _ := .ok ()
  secure _ := .ok ()
  greet _ := .ok ()
  exchange _ := .answered r
  compress := id

namespace Connection

variable {net : Network} {payload : List UInt8} {c : Connection}

@[simp] theorem protocol_count (f : Counters → Counters) : (c.count f).protocol = c.protocol := rfl

@[simp] theorem uri_count (f : Counters → Counters) : (c.count f).uri = c.uri := rfl

@[simp] theorem counters_count (f : Counters → Counters) : (c.count f).counters = f c.counters :=
  rfl

/-- The ways in which a connection is taken or opened. -/
inductive Opening (net : Network) (c : Connection) : Connection × Option Fault → Prop where
  | kept (isOpen : c.isOpen = true) : Opening net c ({ c with isOpen := false }, none)
  | refused {cause : String} (closed : c.isOpen = false)
      (connect : net.connect c.uri = .error cause) :
      Opening net c (c.count fun n => { n with connectFailed := n.connectFailed + 1 },
        some (.connect c.uri.text cause))
  | unsecured {cause : String} (closed : c.isOpen = false) (connect : net.connect c.uri = .ok ())
      (secure : c.uri.secure = true ∧ net.secure c.uri = .error cause) :
      Opening net c (c.count fun n =>
        { n with connected := n.connected + 1, tlsFailed := n.tlsFailed + 1 }, some (.tls cause))
  | ungreeted {cause : String} {handshakes : Nat} (closed : c.isOpen = false)
      (connect : net.connect c.uri = .ok ()) (greet : net.greet c.uri = .error cause) :
      Opening net c (c.count fun n =>
        { n with
          connected := n.connected + 1
          tlsHandshake := handshakes
          connectFailed := n.connectFailed + 1 }, some (.handshake c.version cause))
  | opened {handshakes : Nat} (closed : c.isOpen = false) (connect : net.connect c.uri = .ok ())
      (greet : net.greet c.uri = .ok ()) :
      Opening net c
        (c.count fun n => { n with connected := n.connected + 1, tlsHandshake := handshakes }, none)

theorem ensureSecure_cases (net : Network) (c : Connection) :
    (∃ cause, (c.uri.secure = true ∧ net.secure c.uri = .error cause) ∧ c.ensureSecure net =
      (c.count fun n => { n with tlsFailed := n.tlsFailed + 1 }, some (.tls cause))) ∨
    ∃ handshakes, c.ensureSecure net =
      (c.count fun n => { n with tlsHandshake := handshakes }, none) := by
  unfold ensureSecure
  cases secure : c.uri.secure with
  | false => exact .inr ⟨c.counters.tlsHandshake, rfl⟩
  | true =>
    cases shaken : net.secure c.uri with
    | error cause => exact .inl ⟨cause, ⟨rfl, rfl⟩, rfl⟩
    | ok _ => exact .inr ⟨c.counters.tlsHandshake + 1, rfl⟩

theorem opening (net : Network) (c : Connection) : Opening net c (c.ensureOpen net) := by
  unfold ensureOpen
  split
  · next isOpen => exact .kept isOpen
  · next closed =>
    rw [Bool.not_eq_true] at closed
    unfold establish
    cases connect : net.connect c.uri with
    | error cause => exact .refused closed connect
    | ok _ =>
      rcases ensureSecure_cases net (c.count fun n => { n with connected := n.connected + 1 }) with
        ⟨cause, failed, same⟩ | ⟨handshakes, same⟩
      · rw [same]
        exact .unsecured closed connect failed
      · simp only [same, uri_count]
        cases greet : net.greet c.uri with
        | error cause => exact .ungreeted closed connect greet
        | ok _ => exact .opened closed connect greet

/-- The ways in which an exchange over an open connection ends. -/
inductive Exchange (net : Network) (c : Connection) :
    Connection × Except Fault Response → Prop where
  | unbuilt {cause : String} {compressed : Nat} :
      Exchange net c (c.count fun n =>
        { n with compressed := compressed, requestFailed := n.requestFailed + 1 },
          .error (.buildRequest cause))
  | lost {request : Request} {cause : String} {compressed : Nat}
      (lost : net.exchange request = .lost cause) :
      Exchange net c (c.count fun n =>
        { n with compressed := compressed, requestFailed := n.requestFailed + 1 },
          .error (.sendRequest cause))
  | answered {request : Request} {r : Response} {compressed : Nat}
      (answered : net.exchange request = .answered r) :
      Exchange net c ({ c with isOpen := true }.count fun n =>
        { n with compressed := compressed, requestSent := n.requestSent + 1 }, .ok r)

theorem exchanging (net : Network) (body : Content (List UInt8)) (c : Connection) :
    Exchange net c (c.exchange net body) := by
  obtain ⟨compressed, sent, same⟩ : ∃ compressed sent, c.compressBody net body =
      (c.count fun n => { n with compressed := compressed }, sent) := by
    unfold compressBody
    split
    · exact ⟨c.counters.compressed + 1, _, rfl⟩
    · exact ⟨c.counters.compressed, _, rfl⟩
  simp only [exchange, same]
  split
  · exact .unbuilt
  · split
    · exact .unbuilt
    · split
      · next cause lost => exact .lost lost
      · next r answered => exact .answered answered

/-- The head of the response that a send receives, where it receives one. -/
def response? (net : Network) (payload : List UInt8) (c : Connection) : Option Response :=
  match c.ensureOpen net with
  | (_, some _) => none
  | (c, none) => (c.exchange net (c.bodyOf payload)).2.toOption

/-- The part of a send that comes after the opening. -/
def transmit (net : Network) (payload : List UInt8) (c : Connection) :
    Connection × Except ExportError Unit :=
  match c.exchange net (c.bodyOf payload) with
  | (c, .error fault) => (c, .error (.transport fault.message))
  | (c, .ok response) =>
    let verdict := response.check c.protocol
    (c.countVerdict verdict.toBool, verdict)

theorem send_eq (net : Network) (payload : List UInt8) (c : Connection) : c.send net payload =
    match c.ensureOpen net with
    | (c, some fault) => (c, .error (.transport fault.message))
    | (c, none) => c.transmit net payload := rfl

theorem endings_countVerdict (sent : Bool) (c : Connection) (other : Ending) :
    (c.countVerdict sent).counters.endings other = c.counters.endings other +
      if Ending.answered (c.protocol == .grpc) sent = other then 1 else 0 := by
  obtain ⟨protocol, uri, headers, allows, isOpen, counters⟩ := c
  cases protocol <;> cases sent <;> rcases other with _ | _ | _ | ⟨_ | _, _ | _⟩ <;> rfl

/-- The verdict on an answer has no part in what else is counted. -/
theorem others_countVerdict (sent : Bool) (c : Connection) :
    (c.countVerdict sent).counters.connected = c.counters.connected ∧
      (c.countVerdict sent).counters.connectFailed = c.counters.connectFailed ∧
      (c.countVerdict sent).counters.requestSent = c.counters.requestSent := by
  obtain ⟨protocol, uri, headers, allows, isOpen, counters⟩ := c
  cases protocol <;> cases sent <;> exact ⟨rfl, rfl, rfl⟩

/-- What a send makes of a connection: it counts its ending and, where that is an answer, a request,
and the connection is fit for the next send after an answer only. -/
structure Accounts (ending : Ending) (before after : Connection) : Prop where
  protocol : after.protocol = before.protocol
  isOpen : after.isOpen = ending.isAnswer
  own : ∀ grpc accepted, ending = .answered grpc accepted → grpc = (before.protocol == .grpc)
  endings : ∀ other, after.counters.endings other =
    before.counters.endings other + if ending = other then 1 else 0
  requestSent : after.counters.requestSent =
    before.counters.requestSent + if ending.isAnswer then 1 else 0

/-- What is counted before a request goes out does not show in what the request counts. -/
theorem Accounts.since {ending : Ending} {ready after : Connection}
    (accounts : Accounts ending ready after) (protocol : ready.protocol = c.protocol)
    (endings : ∀ other, ready.counters.endings other = c.counters.endings other)
    (requestSent : ready.counters.requestSent = c.counters.requestSent) :
    Accounts ending c after where
  protocol := accounts.protocol.trans protocol
  isOpen := accounts.isOpen
  own := protocol ▸ accounts.own
  endings other := by rw [accounts.endings, endings]
  requestSent := by rw [accounts.requestSent, requestSent]

theorem Accounts.balanced {ending : Ending} {after : Connection}
    (accounts : Accounts ending c after) (balanced : c.counters.Balanced) :
    after.counters.Balanced := by
  have httpSent : after.counters.httpSent = _ := accounts.endings (.answered false true)
  have httpFailed : after.counters.httpFailed = _ := accounts.endings (.answered false false)
  have grpcSent : after.counters.grpcSent = _ := accounts.endings (.answered true true)
  have grpcFailed : after.counters.grpcFailed = _ := accounts.endings (.answered true false)
  have requestSent := accounts.requestSent
  rw [Counters.Balanced] at balanced ⊢
  rw [requestSent, httpSent, httpFailed, grpcSent, grpcFailed]
  rcases ending with _ | _ | _ | ⟨_ | _, _ | _⟩ <;>
    simp [Counters.endings, Ending.isAnswer] <;> omega

/-- Where nothing comes back, one failure is counted and the connection stays closed. -/
theorem accounts_failure (ending : Ending) (unanswered : ending.isAnswer = false)
    (closed : c.isOpen = false) {f : Counters → Counters}
    (endings : ∀ other, (f c.counters).endings other =
      c.counters.endings other + if ending = other then 1 else 0)
    (requestSent : (f c.counters).requestSent = c.counters.requestSent) (err : ExportError) :
    ∃ ending, Accounts ending c (c.count f) ∧ false = ending.isAnswer ∧
      ((Except.error err : Except ExportError Unit) = .ok () ↔
        ending = .answered (c.protocol == .grpc) true) := by
  refine ⟨ending, ⟨rfl, closed.trans unanswered.symm, ?_, endings, ?_⟩, unanswered.symm, ?_⟩
  · rintro grpc accepted rfl
    cases unanswered
  · rw [unanswered]
    exact requestSent
  · constructor
    · nofun
    · rintro rfl
      cases unanswered

theorem accounts_transmit (net : Network) (payload : List UInt8) (closed : c.isOpen = false) :
    (∃ ending, Accounts ending c (c.transmit net payload).1 ∧
      (c.exchange net (c.bodyOf payload)).2.toOption.isSome = ending.isAnswer ∧
      ((c.transmit net payload).2 = .ok () ↔ ending = .answered (c.protocol == .grpc) true)) ∧
    (c.transmit net payload).1.counters.connected = c.counters.connected ∧
      (c.transmit net payload).1.counters.connectFailed = c.counters.connectFailed := by
  unfold transmit
  have exchange := exchanging net (c.bodyOf payload) c
  generalize c.exchange net (c.bodyOf payload) = outcome at exchange
  cases exchange with
  | unbuilt =>
    dsimp only
    refine ⟨accounts_failure .unsent rfl closed ?_ rfl _, rfl, rfl⟩
    rintro (_ | _ | _ | ⟨_ | _, _ | _⟩) <;> rfl
  | lost =>
    dsimp only
    refine ⟨accounts_failure .unsent rfl closed ?_ rfl _, rfl, rfl⟩
    rintro (_ | _ | _ | ⟨_ | _, _ | _⟩) <;> rfl
  | @answered _ r =>
    obtain ⟨connected, connectFailed, requestSent⟩ :=
      others_countVerdict (r.check c.protocol).toBool _
    refine ⟨⟨.answered (c.protocol == .grpc) (r.check c.protocol).toBool,
      ⟨rfl, rfl, ?_, fun other => ?_, requestSent⟩, rfl, ?_⟩, connected, connectFailed⟩
    · intro grpc accepted same
      cases same
      rfl
    · rw [endings_countVerdict]
      rcases other with _ | _ | _ | ⟨_ | _, _ | _⟩ <;> rfl
    · cases verdict : r.check c.protocol <;> simp [Except.toBool, verdict]

theorem accounts_send (net : Network) (payload : List UInt8) (c : Connection) :
    ∃ ending, Accounts ending c (c.send net payload).1 ∧
      (c.response? net payload).isSome = ending.isAnswer ∧
      ((c.send net payload).2 = .ok () ↔ ending = .answered (c.protocol == .grpc) true) := by
  rw [send_eq]
  unfold response?
  have opening := opening net c
  generalize c.ensureOpen net = outcome at opening
  cases opening with
  | refused closed =>
    dsimp only
    refine accounts_failure .unconnected rfl closed ?_ rfl _
    rintro (_ | _ | _ | ⟨_ | _, _ | _⟩) <;> rfl
  | unsecured closed =>
    dsimp only
    refine accounts_failure .unsecured rfl closed ?_ rfl _
    rintro (_ | _ | _ | ⟨_ | _, _ | _⟩) <;> rfl
  | ungreeted closed =>
    dsimp only
    refine accounts_failure .unconnected rfl closed ?_ rfl _
    rintro (_ | _ | _ | ⟨_ | _, _ | _⟩) <;> rfl
  | kept isOpen =>
    obtain ⟨⟨ending, accounts, result⟩, -⟩ :=
      accounts_transmit (c := { c with isOpen := false }) net payload rfl
    exact ⟨ending, accounts.since rfl (fun _ => rfl) rfl, result⟩
  | @opened handshakes closed =>
    obtain ⟨⟨ending, accounts, result⟩, -⟩ := accounts_transmit (c := c.count fun n =>
      { n with connected := n.connected + 1, tlsHandshake := handshakes }) net payload closed
    refine ⟨ending, accounts.since rfl ?_ rfl, result⟩
    rintro (_ | _ | _ | ⟨_ | _, _ | _⟩) <;> rfl

/-- Between two states of a transport a new connection was asked for. -/
def Opens (before after : Connection) : Prop :=
  before.counters.connected < after.counters.connected ∨
    before.counters.connectFailed < after.counters.connectFailed

theorem opens_send_iff (net : Network) (payload : List UInt8) (c : Connection) :
    c.Opens (c.send net payload).1 ↔ c.isOpen = false := by
  rw [send_eq]
  have opening := opening net c
  generalize c.ensureOpen net = outcome at opening
  cases opening with
  | refused closed => simp [Opens, closed]
  | unsecured closed => simp [Opens, closed]
  | ungreeted closed => simp [Opens, closed]
  | kept isOpen =>
    obtain ⟨-, connected, connectFailed⟩ :=
      accounts_transmit (c := { c with isOpen := false }) net payload rfl
    simp [Opens, isOpen, connected, connectFailed]
  | @opened handshakes closed =>
    obtain ⟨-, connected, connectFailed⟩ := accounts_transmit (c := c.count fun n =>
      { n with connected := n.connected + 1, tlsHandshake := handshakes }) net payload closed
    simp [Opens, closed, connected]

/-- Over an open connection nothing about connecting matters to a send. -/
theorem send_of_isOpen (isOpen : c.isOpen = true)
    (connect secure greet : Uri → Except String Unit) :
    c.send { net with connect := connect, secure := secure, greet := greet } payload =
      c.send net payload := by
  simp only [send, ensureOpen, isOpen, if_true]
  rfl

/-- One send of a sequence. Its label is the network that it meets and its payload. -/
def sendStep (c : Connection) (send : Network × List UInt8) :
    Option (Connection × List (Except ExportError Unit)) :=
  some ((c.send send.1 send.2).1, [(c.send send.1 send.2).2])

theorem labels_follow_sendStep (c : Connection) (sends : List (Network × List UInt8)) :
    (follow sendStep c sends).map Event.label = sends := by
  induction sends generalizing c with
  | nil => rfl
  | cons send rest ih =>
    rw [follow, sendStep, List.map_cons, ih]

section
variable {endpoint : Endpoint} {protocol : Protocol} {signal : Signal}
  {headers : List (String × String)} {allows : Bool} {first last : Connection}
  {events : List (Event Connection (Network × List UInt8) (Except ExportError Unit))}

theorem keeps_sends (created : create endpoint protocol signal headers allows = .ok first)
    (run : Run sendStep first events last) :
    (∀ e ∈ events, e.before.protocol = protocol ∧ e.before.counters.Balanced) ∧
      last.protocol = protocol ∧ last.counters.Balanced := by
  obtain ⟨uri, -, rfl⟩ := create_eq_ok_iff.mp created
  refine run.keeps (fun c => c.protocol = protocol ∧ c.counters.Balanced) ⟨rfl, rfl⟩ ?_
  · rintro c ⟨net, payload⟩ z effects stepped ⟨same, balanced⟩
    cases stepped
    obtain ⟨ending, accounts, -⟩ := accounts_send net payload c
    exact ⟨accounts.protocol.trans same, accounts.balanced balanced⟩

/-- A connection is open between two sends exactly when the first of them was answered. -/
theorem isOpen_run (run : Run sendStep first events last) (closed : first.isOpen = false) :
    last.isOpen = false ↔ events = [] ∨ ∃ previous, events.getLast? = some previous ∧
      previous.before.response? previous.label.1 previous.label.2 = none := by
  cases run with
  | nil => simp [closed]
  | @snoc events y z label effects run stepped =>
    cases stepped
    obtain ⟨ending, accounts, answered, -⟩ := accounts_send label.1 label.2 y
    rw [accounts.isOpen, ← answered]
    simp

/-- Each send counts exactly one ending, which is that of an accepted answer where it succeeds. The
requests that were answered are those with a verdict. A send asks for a new connection if it is the
first or the one before it was not answered, and else has no part in connecting. -/
theorem sends_end_once (created : create endpoint protocol signal headers allows = .ok first)
    (sends : List (Network × List UInt8)) :
    let events := follow sendStep first sends
    events.map Event.label = sends ∧ first.counters.Balanced ∧
    (∀ e ∈ events, e.after.counters.Balanced ∧ ∃ ending result, e.effects = [result] ∧
      (∀ other, e.after.counters.endings other =
        e.before.counters.endings other + if ending = other then 1 else 0) ∧
      (∀ grpc accepted, ending = .answered grpc accepted → grpc = (protocol == .grpc)) ∧
      (result = .ok () ↔ ending = .answered (protocol == .grpc) true)) ∧
    ∀ earlier e later, events = earlier ++ e :: later →
      (Opens e.before e.after ↔ earlier = [] ∨ ∃ previous, earlier.getLast? = some previous ∧
        previous.before.response? previous.label.1 previous.label.2 = none) ∧
      (¬ Opens e.before e.after → ∀ connect secure greet, sendStep e.before
        ({ e.label.1 with connect := connect, secure := secure, greet := greet }, e.label.2) =
          some (e.after, e.effects)) := by
  intro events
  have run := run_follow sendStep first sends
  obtain ⟨before, -⟩ := keeps_sends created run
  have closed : first.isOpen = false := by
    obtain ⟨uri, -, rfl⟩ := create_eq_ok_iff.mp created
    rfl
  have balanced : first.counters.Balanced := by
    obtain ⟨uri, -, rfl⟩ := create_eq_ok_iff.mp created
    rfl
  refine ⟨labels_follow_sendStep first sends, balanced, ?_, ?_⟩
  · rintro ⟨y, ⟨net, payload⟩, effects, z⟩ member
    obtain ⟨same, balanced⟩ := before _ member
    have stepped : sendStep y (net, payload) = some (z, effects) := run.step_of_mem member
    cases stepped
    obtain ⟨ending, accounts, -, result⟩ := accounts_send net payload y
    exact ⟨accounts.balanced balanced, ending, _, rfl, accounts.endings, same ▸ accounts.own,
      same ▸ result⟩
  · rintro earlier ⟨y, ⟨net, payload⟩, effects, z⟩ later whole
    change Run sendStep first events _ at run
    rw [whole] at run
    obtain ⟨left, stepped, -⟩ := run.split
    change sendStep y (net, payload) = some (z, effects) at stepped
    cases stepped
    rw [opens_send_iff]
    refine ⟨isOpen_run left closed, fun isOpen connect secure greet => ?_⟩
    rw [Bool.not_eq_false] at isOpen
    simp only [sendStep, send_of_isOpen isOpen]

/-- A refusal, an answer over a new connection, one over the same, a connection that is lost, and an
answer over a second one. -/
theorem sends_end_once_reused :
    let first : Connection :=
      ⟨.httpProtobuf, ⟨false, "localhost:4318", "/v1/metrics", none⟩, [], false, false, {}⟩
    let events := follow sendStep first
      [(.unreachable, [1]), (.answering ⟨503, [], [], none⟩, [1]),
        (.answering ⟨200, [], [], none⟩, [2]), (.unreachable, [3]),
        (.answering ⟨200, [], [], some "reset"⟩, [3])]
    create ⟨false, "localhost", some 4318, ""⟩ .httpProtobuf .metrics [] false = .ok first ∧
      (∀ e ∈ events, e.after.counters.Balanced) ∧
      events.map (fun e => (e.after.counters.connected, e.after.counters.connectFailed)) =
        [(0, 1), (1, 1), (1, 1), (1, 1), (2, 1)] ∧
      events.map (fun e => (e.after.counters.requestFailed, e.after.counters.httpSent,
        e.after.counters.httpFailed)) =
          [(0, 0, 0), (0, 0, 1), (0, 1, 1), (1, 1, 1), (1, 1, 2)] := by
  intro first events
  have created : create ⟨false, "localhost", some 4318, ""⟩ .httpProtobuf .metrics [] false =
      .ok first := create_eq_ok_iff.mpr ⟨_, by decide +kernel, rfl⟩
  refine ⟨created, ?_, by decide +kernel, by decide +kernel⟩
  intro e member
  exact ((sends_end_once created _).2.2.1 e member).1

end

end Connection
end Telemetry.Transport
