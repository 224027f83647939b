import Telemetry.Proofs.Transport.Sends

/-! What a collector's answer means for the batch that was sent: which answers decide, and which are
taken for a failure on the way. Main result: `heeded_iff`. -/
namespace Telemetry.Transport

namespace Response

variable {r : Response} {p : Protocol} {name text : String} {code : Nat}

/-- The last trailer of a name or else the first header of it, as it is. -/
def effective? (r : Response) (name : String) : Option String :=
  ((r.trailers.reverse.find? (·.1 == name)).or (r.headers.find? (·.1 == name))).map (·.2)

/-- The status of a call is a number, of any size. -/
def IsCode (r : Response) (code : Nat) : Prop :=
  ∃ text bound, r.effective? "grpc-status" = some text ∧ readable text = some text ∧
    Decimal.readUnsigned bound (Text.trim text.toList) = some code

/-- A result follows the answer that came: an unsuccessful HTTP status decides at once, and for a
call the code in a complete body does. -/
structure Heeded (p : Protocol) (r : Response) (result : Except ExportError Unit) : Prop where
  status : ¬ (200 ≤ r.status ∧ r.status < 300) →
    ∃ err, result = .error err ∧ (err.isRetryable = true ↔ r.status ∈ [429, 502, 503, 504])
  code : p = .grpc → (200 ≤ r.status ∧ r.status < 300) → r.broken = none → ∀ code, r.IsCode code →
    (result = .ok () ↔ code = 0) ∧
      (code ≠ 0 → ∃ err, result = .error err ∧ (err.isRetryable = true ↔ code = 8 ∨ code = 14))

theorem trailer?_of_find? {l : List (String × String)} {t : String × String}
    (found : l.find? (·.1 == name) = some t) (shown : readable t.2 = some text) :
    (l.filterMap fun (k, v) => if k == name then readable v else none).head? = some text := by
  induction l with
  | nil => cases found
  | cons first rest ih =>
    rw [List.find?_cons] at found
    split at found
    · next same =>
      cases found
      simp only [List.filterMap_cons, same, if_true, shown, List.head?_cons]
    · next other =>
      rw [List.filterMap_cons_none (by simp [other])]
      exact ih found

theorem field?_of_effective? (found : r.effective? name = some text)
    (shown : readable text = some text) : r.field? name = some text := by
  unfold effective? at found
  unfold field? trailer?
  cases trailer : r.trailers.reverse.find? (·.1 == name) with
  | some t =>
    rw [trailer, Option.some_or, Option.map_some, Option.some_inj] at found
    rw [trailer?_of_find? trailer (found ▸ shown), Option.some_or, found]
  | none =>
    rw [trailer, Option.none_or] at found
    have absent : (r.trailers.reverse.filterMap fun (k, v) =>
        if k == name then readable v else none) = [] := by
      rw [List.find?_eq_none] at trailer
      rw [List.filterMap_eq_nil_iff]
      rintro ⟨k, v⟩ member
      simp [trailer ⟨k, v⟩ member]
    rw [absent, List.head?_nil, Option.none_or, header?, found, Option.bind_some, shown]

theorem readUnsigned_of_bound {bound limit : Nat} {l : List Char}
    (read : Decimal.readUnsigned bound l = some code) :
    Decimal.readUnsigned limit l = if code < limit then some code else none := by
  simp only [Decimal.readUnsigned] at *
  rw [Option.filter_eq_some_iff] at read
  rw [read.1, Option.filter_some]
  simp

theorem isRetryableStatus_iff {status : Nat} :
    isRetryableStatus status = true ↔ status ∈ [429, 502, 503, 504] := by
  simp [isRetryableStatus, or_assoc]

theorem isSuccess_iff {status : Nat} : isSuccess status = true ↔ 200 ≤ status ∧ status < 300 := by
  simp [isSuccess]

theorem checkCode_of_isCode (isCode : r.IsCode code) (small : code < 0x100000000) :
    (r.checkCode = .ok () ↔ code = 0) ∧
      (code ≠ 0 → ∃ status, r.checkCode = .error (.rejected status (isRetryableCode code))) := by
  obtain ⟨text, bound, found, shown, read⟩ := isCode
  unfold checkCode
  rw [field?_of_effective? found shown, Option.bind_some, readUnsigned_of_bound read, if_pos small]
  by_cases zero : code = 0
  · simp [zero]
  · simp [zero]

/-- A code that is too large is none to the reader. -/
theorem checkCode_of_large (isCode : r.IsCode code) (large : ¬ code < 0x100000000) :
    r.checkCode = .error (.transport Fault.missingStatus.message) := by
  obtain ⟨text, bound, found, shown, read⟩ := isCode
  unfold checkCode
  rw [field?_of_effective? found shown, Option.bind_some, readUnsigned_of_bound read, if_neg large]

theorem heeded_checkHttp_iff (plain : p ≠ .grpc) : r.Heeded p r.checkHttp ↔
    (¬ (200 ≤ r.status ∧ r.status < 300) → r.broken ≠ none → r.status ∈ [429, 502, 503, 504]) := by
  unfold checkHttp
  cases broken : r.broken with
  | none =>
    simp only [ne_eq, not_true_eq_false, false_implies, implies_true, iff_true]
    constructor
    · intro failed
      rw [if_neg (mt isSuccess_iff.mp failed)]
      exact ⟨_, rfl, isRetryableStatus_iff⟩
    · intro call
      exact absurd call plain
  | some cause =>
    constructor
    · intro heeded failed _
      obtain ⟨err, same, retryable⟩ := heeded.status failed
      cases same
      exact retryable.mp rfl
    · intro overloaded
      constructor
      · intro failed
        exact ⟨_, rfl, iff_of_true rfl (overloaded failed (by simp))⟩
      · intro call
        exact absurd call plain

theorem heeded_checkGrpc_iff : r.Heeded .grpc r.checkGrpc ↔
    ((200 ≤ r.status ∧ r.status < 300) → r.broken = none →
      ∀ code, r.IsCode code → code < 0x100000000) := by
  unfold checkGrpc
  by_cases succeeded : 200 ≤ r.status ∧ r.status < 300
  · rw [isSuccess_iff.mpr succeeded]
    constructor
    · intro heeded _ whole code isCode
      by_contra large
      obtain ⟨iffOk, final⟩ := heeded.code rfl succeeded whole code isCode
      obtain ⟨err, same, retryable⟩ := final (by omega)
      simp only [whole, checkCode_of_large isCode large] at same
      cases same
      have small := retryable.mp rfl
      omega
    · intro small
      constructor
      · intro failed
        exact absurd succeeded failed
      · intro _ _ whole code isCode
        simp only [whole]
        obtain ⟨accepted, final⟩ := checkCode_of_isCode isCode (small succeeded whole code isCode)
        refine ⟨accepted, fun other => ?_⟩
        obtain ⟨status, same⟩ := final other
        exact ⟨_, same, by simp [ExportError.isRetryable, isRetryableCode]⟩
  · rw [Bool.eq_false_iff.mpr (mt isSuccess_iff.mp succeeded)]
    simp only [succeeded, false_implies, iff_true]
    constructor
    · intro _
      exact ⟨_, rfl, isRetryableStatus_iff⟩
    · intro _ good
      exact absurd good succeeded

end Response

namespace Connection

variable {net : Network} {payload : List UInt8} {c : Connection} {r : Response}

theorem result_transmit (received : (c.exchange net (c.bodyOf payload)).2.toOption = some r) :
    (c.transmit net payload).2 = r.check c.protocol := by
  unfold transmit
  have exchange := exchanging net (c.bodyOf payload) c
  generalize c.exchange net (c.bodyOf payload) = outcome at exchange received
  cases exchange with
  | unbuilt => cases received
  | lost => cases received
  | answered =>
    cases received
    rfl

theorem result_of_response (received : c.response? net payload = some r) :
    (c.send net payload).2 = r.check c.protocol := by
  rw [send_eq]
  unfold response? at received
  have opening := opening net c
  generalize c.ensureOpen net = outcome at opening received
  cases opening with
  | refused => cases received
  | unsecured => cases received
  | ungreeted => cases received
  | kept => exact result_transmit received
  | opened => exact result_transmit received

/-- Once the head of a response is there, what the collector says decides about the batch, except
that over plain HTTP the body is read first, so that one that breaks off covers up any rejection,
and that a code of 2^32 or more is not read. -/
theorem heeded_iff (received : c.response? net payload = some r) :
    r.Heeded c.protocol (c.send net payload).2 ↔
      (c.protocol ≠ .grpc → ¬ (200 ≤ r.status ∧ r.status < 300) → r.broken ≠ none →
        r.status ∈ [429, 502, 503, 504]) ∧
      (c.protocol = .grpc → (200 ≤ r.status ∧ r.status < 300) → r.broken = none →
        ∀ code, r.IsCode code → code < 0x100000000) := by
  rw [result_of_response received]
  cases protocol : c.protocol with
  | grpc => simpa [Response.check] using Response.heeded_checkGrpc_iff (r := r)
  | httpProtobuf =>
    simpa [Response.check] using
      Response.heeded_checkHttp_iff (r := r) (p := .httpProtobuf) (by decide)
  | httpJson =>
    simpa [Response.check] using Response.heeded_checkHttp_iff (r := r) (p := .httpJson) (by decide)

theorem heeded_iff_unknown :
    let c : Connection :=
      ⟨.httpJson, ⟨false, "localhost:4318", "/v1/logs", none⟩, [], false, false, {}⟩
    let r : Response := ⟨404, [], [], none⟩
    c.response? (.answering r) [1] = some r ∧
      ∃ err, (c.send (.answering r) [1]).2 = .error err ∧ err.isRetryable = false := by
  intro c r
  have received : c.response? (.answering r) [1] = some r := by decide +kernel
  have heeded := (heeded_iff received).mpr ⟨fun _ _ broken => absurd rfl broken, nofun⟩
  obtain ⟨err, result, retryable⟩ := heeded.status (by decide)
  refine ⟨received, err, result, ?_⟩
  rw [Bool.eq_false_iff, ne_eq, retryable]
  decide

/-- A refusal for good, the text of which breaks off, is taken for a failure on the way. -/
theorem refusal_retryable :
    let c : Connection :=
      ⟨.httpProtobuf, ⟨false, "localhost:4318", "/v1/metrics", none⟩, [], false, false, {}⟩
    let r : Response := ⟨400, [], [], some "connection closed before message completed"⟩
    c.response? (.answering r) [1] = some r ∧
      ∃ err, (c.send (.answering r) [1]).2 = .error err ∧ err.isRetryable = true := by
  intro c r
  have received : c.response? (.answering r) [1] = some r := by decide +kernel
  exact ⟨received, _, result_of_response received, rfl⟩

end Connection
end Telemetry.Transport
