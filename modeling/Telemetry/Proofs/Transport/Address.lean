import Mathlib.Data.List.TakeWhile
import Telemetry.Proofs.Config.Endpoint
import Telemetry.Proofs.Decimal.Numeral
import Telemetry.Transport.Connection

/-! Where the requests for an endpoint go. The text of its URL is put together from the endpoint's
parts and read again as a URI, which has other rules for where a part ends. Main result:
`uri_agrees_iff`. -/
namespace Telemetry

namespace Endpoint

/-- The host of an endpoint has no character that ends an authority, and its path is empty or
starts with a slash. -/
structure Separable (e : Endpoint) : Prop where
  host : ∀ c ∈ e.host.toList, Transport.Uri.endsAuthority c = false
  path : e.path.toList = [] ∨ ∃ rest, e.path.toList = '/' :: rest

theorem separable_parse {text : String} {insecure : Bool} {e : Endpoint}
    (parsed : parse text insecure = .ok e) : e.Separable where
  host c member := by
    have fit := ((proper_parse parsed).host c member).2
    simp only [List.mem_cons, List.not_mem_nil, or_false, not_or] at fit
    simp [Transport.Uri.endsAuthority, fit]
  path := (proper_parse parsed).path

end Endpoint

namespace Transport

namespace Uri

/-- The characters of a path go up to where a query or a fragment starts. -/
def pathPart (l : List Char) : List Char := l.takeWhile fun c => c != '?' && c != '#'

theorem path_readPath {l : List Char} {path : String} {query : Option String}
    (read : readPath l = .ok (path, query)) : path = String.ofList (pathPart l) := by
  simp only [readPath] at read
  split at read
  · cases read
  · split at read
    · split at read
      · cases read
        rfl
      · cases read
    · cases read
      rfl

/-- All of a text is read as a path where nothing in it starts a query or a fragment. -/
theorem readPath_whole_iff {l : List Char} {path : String} {query : Option String}
    (read : readPath l = .ok (path, query)) :
    query = none ∧ path = String.ofList l ↔ ∀ c ∈ l, c ≠ '?' ∧ c ≠ '#' := by
  have plain : (∀ c ∈ l, c ≠ '?' ∧ c ≠ '#') ↔ pathPart l = l := by
    rw [pathPart, List.takeWhile_eq_self_iff]
    simp
  rw [plain, path_readPath read, String.ofList_inj]
  refine ⟨fun whole => whole.2, fun whole => ⟨?_, whole⟩⟩
  have nothing : (l.dropWhile fun c => c != '?' && c != '#') = [] :=
    List.dropWhile_eq_nil_iff.mpr (List.takeWhile_eq_self_iff.mp whole)
  simp only [readPath, nothing] at read
  split at read
  · cases read
  · cases read
    rfl

def lead (secure : Bool) : List Char := if secure then "https://".toList else "http://".toList

/-- A text is taken apart at the slash behind its authority. -/
theorem parts_parse {secure : Bool} {authority tail : List Char} {text : String} {u : Uri}
    (shape : text.toList = lead secure ++ (authority ++ '/' :: tail))
    (fit : ∀ c ∈ authority, endsAuthority c = false) (parsed : parse text = .ok u) :
    u.secure = secure ∧ u.authority = String.ofList authority ∧
      readPath ('/' :: tail) = .ok (u.path, u.query) := by
  have taken : (authority ++ '/' :: tail).takeWhile (!endsAuthority ·) = authority := by
    rw [List.takeWhile_append_of_pos (by simpa using fit)]
    simp [endsAuthority]
  have left : (authority ++ '/' :: tail).dropWhile (!endsAuthority ·) = '/' :: tail := by
    rw [List.dropWhile_append_of_pos (by simpa using fit)]
    simp [endsAuthority]
  have plain : Text.after? "http://".toList text.toList =
      if secure then none else some (authority ++ '/' :: tail) := by
    rw [shape]
    cases secure <;> simp [lead, Text.after?]
  have safe : Text.after? "https://".toList text.toList =
      if secure then some (authority ++ '/' :: tail) else none := by
    rw [shape]
    cases secure <;> simp [lead, Text.after?]
  simp only [parse, plain, safe] at parsed
  split at parsed
  · cases parsed
  · cases secure
    all_goals
      simp only [if_true, Bool.false_eq_true, if_false, bind, Except.bind, taken, left] at parsed
      split at parsed
      · cases parsed
      · split at parsed
        · cases parsed
        · split at parsed
          · cases parsed
          · next read =>
            cases parsed
            exact ⟨rfl, rfl, read⟩

end Uri

/-- The signals' paths start with a slash, and all of them is path. -/
theorem path_of_signal (signal : Signal) (protocol : Protocol) :
    (∃ rest, (signal.path protocol).toList = '/' :: rest) ∧
      ∀ c ∈ (signal.path protocol).toList, c ≠ '?' ∧ c ≠ '#' := by
  have plain : (signal.path protocol).toList.all (fun c => c != '?' && c != '#') = true := by
    cases signal <;> cases protocol <;> rfl
  refine ⟨?_, by simpa using plain⟩
  cases signal <;> cases protocol <;> exact ⟨_, rfl⟩

namespace Connection

variable {text : String} {insecure allows : Bool} {e : Endpoint} {protocol : Protocol}
  {signal : Signal} {headers : List (String × String)} {c : Connection}

theorem create_eq_ok_iff : create e protocol signal headers allows = .ok c ↔
    ∃ uri, Uri.parse (e.url protocol.defaultPort ++ signal.path protocol) = .ok uri ∧
      c = ⟨protocol, uri, headers, allows && protocol != .grpc, false, {}⟩ := by
  simp only [create]
  constructor
  · intro created
    split at created
    · cases created
    · next uri read =>
      cases created
      exact ⟨uri, read, rfl⟩
  · rintro ⟨uri, read, rfl⟩
    simp only [read]

theorem endsAuthority_of_isDigit {c : Char} (digit : Decimal.isDigit c = true) :
    Uri.endsAuthority c = false := by
  rw [Decimal.isDigit, Bool.and_eq_true, decide_eq_true_iff, decide_eq_true_iff] at digit
  simp only [Uri.endsAuthority, Bool.or_eq_false_iff, decide_eq_false_iff_not]
  refine ⟨⟨?_, ?_⟩, ?_⟩ <;> rintro rfl <;> revert digit <;> decide

/-- The URL that a connection is created for, in the parts that a URI is read in. -/
theorem url_parts (protocol : Protocol) (signal : Signal)
    (path : e.path.toList = [] ∨ ∃ rest, e.path.toList = '/' :: rest) :
    ∃ tail, (e.path ++ signal.path protocol).toList = '/' :: tail ∧
      (e.url protocol.defaultPort ++ signal.path protocol).toList =
        Uri.lead e.secure ++ ((e.host.toList ++
          ':' :: Decimal.numeral (e.port.getD protocol.defaultPort)) ++ '/' :: tail) := by
  obtain ⟨⟨rest, slash⟩, -⟩ := path_of_signal signal protocol
  have scheme : e.scheme.toList ++ "://".toList = Uri.lead e.secure := by
    rw [Endpoint.scheme, Uri.lead]
    cases e.secure <;> rfl
  have starts : ∃ tail, (e.path ++ signal.path protocol).toList = '/' :: tail := by
    rw [String.toList_append, slash]
    rcases path with none | ⟨more, some⟩
    · exact ⟨rest, by rw [none, List.nil_append]⟩
    · exact ⟨more ++ '/' :: rest, by rw [some, List.cons_append]⟩
  obtain ⟨tail, starts⟩ := starts
  refine ⟨tail, starts, ?_⟩
  rw [← starts, ← scheme]
  simp [Endpoint.url, Decimal.natText]

/-- A request goes to the endpoint's host, over the transport that the endpoint asks for. It goes to
the path that the endpoint and the signal make together, without a query, exactly when nothing in
the endpoint's path starts a query or a fragment; else it goes to what stands before that. -/
theorem uri_agrees_iff (parsed : Endpoint.parse text insecure = .ok e)
    (created : create e protocol signal headers allows = .ok c) :
    (c.uri.secure = e.secure ∧
      c.uri.authority = e.host ++ ":" ++ Decimal.natText (e.port.getD protocol.defaultPort)) ∧
    c.uri.path = String.ofList (Uri.pathPart (e.path ++ signal.path protocol).toList) ∧
    (c.uri.query = none ∧ c.uri.path = e.path ++ signal.path protocol ↔
      ∀ ch ∈ e.path.toList, ch ≠ '?' ∧ ch ≠ '#') := by
  have separable := Endpoint.separable_parse parsed
  obtain ⟨tail, whole, shape⟩ := url_parts protocol signal separable.path
  have fit : ∀ ch ∈ e.host.toList ++ ':' :: Decimal.numeral (e.port.getD protocol.defaultPort),
      Uri.endsAuthority ch = false := by
    intro ch member
    rcases List.mem_append.mp member with inHost | behind
    · exact separable.host ch inHost
    · rcases List.mem_cons.mp behind with rfl | inPort
      · rfl
      · exact endsAuthority_of_isDigit (Decimal.isDigit_of_mem_numeral inPort)
  obtain ⟨uri, read, rfl⟩ := create_eq_ok_iff.mp created
  obtain ⟨secure, authority, path⟩ := Uri.parts_parse shape fit read
  rw [← whole] at path
  refine ⟨⟨secure, ?_⟩, Uri.path_readPath path, ?_⟩
  · rw [authority, ← String.toList_inj]
    simp [Decimal.natText]
  · have plain := Uri.readPath_whole_iff path
    rw [String.ofList_toList] at plain
    rw [plain, String.toList_append]
    have signals := (path_of_signal signal protocol).2
    constructor
    · intro all ch member
      exact all ch (List.mem_append_left _ member)
    · intro own ch member
      rcases List.mem_append.mp member with first | second
      · exact own ch first
      · exact signals ch second

theorem uri_agrees_iff_slash :
    ∃ e c, Endpoint.parse "localhost:9000/collect/" true = .ok e ∧
      create e .httpProtobuf .metrics [] true = .ok c ∧ c.uri.secure = false ∧
      c.uri.authority = "localhost:9000" ∧ c.uri.query = none ∧
      c.uri.path = "/collect/v1/metrics" := by
  let e : Endpoint := ⟨false, "localhost", some 9000, "/collect"⟩
  let uri : Uri := ⟨false, "localhost:9000", "/collect/v1/metrics", none⟩
  have parsed : Endpoint.parse "localhost:9000/collect/" true = .ok e := by rfl
  have created : create e .httpProtobuf .metrics [] true =
      .ok ⟨.httpProtobuf, uri, [], true, false, {}⟩ :=
    create_eq_ok_iff.mpr ⟨uri, by decide +kernel, rfl⟩
  obtain ⟨goes, -, whole⟩ := uri_agrees_iff parsed created
  have plain : e.path.toList.all (fun c => c != '?' && c != '#') = true := by decide +kernel
  exact ⟨_, _, parsed, created, goes.1, rfl, whole.mpr (by simpa using plain)⟩

/-- The path of this endpoint holds a number sign, and the requests go to what stands before it. -/
theorem fragment_misses :
    ∃ e c, Endpoint.parse "localhost:4318/a#b" true = .ok e ∧
      create e .httpProtobuf .metrics [] true = .ok c ∧ c.uri.path = "/a" ∧
      e.path ++ Signal.path .metrics .httpProtobuf = "/a#b/v1/metrics" := by
  refine ⟨⟨false, "localhost", some 4318, "/a#b"⟩,
    ⟨.httpProtobuf, ⟨false, "localhost:4318", "/a", none⟩, [], true, false, {}⟩, ?_⟩
  exact ⟨by rfl, create_eq_ok_iff.mpr ⟨_, by decide +kernel, rfl⟩, rfl, by decide⟩

end Connection
end Transport
end Telemetry
