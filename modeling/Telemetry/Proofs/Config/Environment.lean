import Telemetry.Config
import Telemetry.Proofs.Config.Headers
import Telemetry.Proofs.Reading
import Telemetry.Proofs.Text.Pieces

/-! What the environment says about the settings: each variable feeds one setting and nothing else,
and the first variable that cannot be read decides what is wrong. Main results:
`readEnvironment_eq_ok_iff`, `faultOf_readEnvironment` and `ofEnvironment_independent`. -/
namespace Telemetry.Config

open Text

variable {e e' : Environment} {name text : String} {c c' : Config} {α β : Type}

/-- Two environments that differ in one variable, if in any. -/
def SameElsewhere (name : String) (e e' : Environment) : Prop :=
  ∀ other, other ≠ name → e.get? other = e'.get? other

theorem SameElsewhere.getFilled? (same : SameElsewhere name e e') {other : String}
    (different : name ≠ other) : e.getFilled? other = e'.getFilled? other := by
  rw [Environment.getFilled?, same other different.symm, Environment.getFilled?]

theorem getFilled?_eq_none_of_blank (given : e.get? name = some text) (blank : Blank text.toList) :
    e.getFilled? name = none := by
  simp [Environment.getFilled?, given, allBlank_iff.mpr blank]

/-- Two configurations that agree in each setting but the one that the variable feeds. -/
structure SameBut (name : String) (c c' : Config) : Prop where
  endpoint : name ≠ "OTEL_EXPORTER_OTLP_ENDPOINT" → c.endpoint = c'.endpoint
  insecure : name ≠ "OTEL_EXPORTER_OTLP_INSECURE" → c.insecure = c'.insecure
  interval : name ≠ "OTEL_METRIC_EXPORT_INTERVAL" → c.interval = c'.interval
  shutdownTimeout : c.shutdownTimeout = c'.shutdownTimeout
  exportTimeout : name ≠ "OTEL_METRIC_EXPORT_TIMEOUT" → c.exportTimeout = c'.exportTimeout
  protocol : name ≠ "OTEL_EXPORTER_OTLP_PROTOCOL" → c.protocol = c'.protocol
  temporality : name ≠ "OTEL_EXPORTER_OTLP_METRICS_TEMPORALITY_PREFERENCE" →
    c.temporality = c'.temporality
  headers : name ≠ "OTEL_EXPORTER_OTLP_HEADERS" → c.headers = c'.headers
  serviceName : name ≠ "OTEL_SERVICE_NAME" → c.serviceName = c'.serviceName

/-- What each setting of a configuration is, where it comes from an environment. -/
structure ReadFrom (e : Environment) (c : Config) : Prop where
  endpoint : c.endpoint = (e.getFilled? "OTEL_EXPORTER_OTLP_ENDPOINT").getD default.endpoint
  insecure : setting e "OTEL_EXPORTER_OTLP_INSECURE" default.insecure
    (fun s => orFault .insecure (readBool s)) = .ok c.insecure
  interval : setting e "OTEL_METRIC_EXPORT_INTERVAL" default.interval
    (fun s => orFault (.intervalMillis s) (readMillis s)) = .ok c.interval
  shutdownTimeout : c.shutdownTimeout = default.shutdownTimeout
  exportTimeout : setting e "OTEL_METRIC_EXPORT_TIMEOUT" default.exportTimeout
    (fun s => orFault (.timeoutMillis s) (readMillis s)) = .ok c.exportTimeout
  protocol : setting e "OTEL_EXPORTER_OTLP_PROTOCOL" default.protocol
    (fun s => orFault .protocol (Protocol.parse s)) = .ok c.protocol
  temporality : setting e "OTEL_EXPORTER_OTLP_METRICS_TEMPORALITY_PREFERENCE" default.temporality
    (fun s => orFault .temporality (Temporality.parse (String.ofList (trim s.toList)))) =
      .ok c.temporality
  headers : setting e "OTEL_EXPORTER_OTLP_HEADERS" default.headers Headers.read = .ok c.headers
  serviceName : c.serviceName = e.getFilled? "OTEL_SERVICE_NAME"

theorem readEnvironment_eq_ok_iff : readEnvironment e = .ok c ↔ ReadFrom e c := by
  simp only [readEnvironment, Reading.bind_eq_ok_iff]
  constructor
  · rintro ⟨_, insecure, _, interval, _, timeout, _, protocol, _, temporality, _, headers, same⟩
    cases same
    exact ⟨rfl, insecure, interval, rfl, timeout, protocol, temporality, headers, rfl⟩
  · intro reads
    refine ⟨_, reads.insecure, _, reads.interval, _, reads.exportTimeout, _, reads.protocol,
      _, reads.temporality, _, reads.headers, ?_⟩
    rw [← reads.endpoint, ← reads.serviceName]
    cases c
    cases reads.shutdownTimeout
    rfl

/-- A setting depends on the environment only through its own variable. -/
theorem setting_congr {own : α} {read : String → Except ConfigFault α}
    (same : e.getFilled? name = e'.getFilled? name) :
    setting e name own read = setting e' name own read := by
  rw [setting, same, setting]

theorem readEnvironment_congr (same : ∀ name, e.getFilled? name = e'.getFilled? name) :
    readEnvironment e = readEnvironment e' := by
  simp only [readEnvironment, setting_congr (same _), same]

theorem setting_agrees {own a a' : α} {read : String → Except ConfigFault α}
    (first : setting e name own read = .ok a) (second : setting e' name own read = .ok a')
    (same : e.getFilled? name = e'.getFilled? name) : a = a' := by
  rw [setting_congr same, second] at first
  exact (Except.ok.inj first).symm

theorem ReadFrom.sameBut (first : ReadFrom e c) (second : ReadFrom e' c')
    (same : SameElsewhere name e e') : SameBut name c c' where
  endpoint different := by rw [first.endpoint, second.endpoint, same.getFilled? different]
  insecure different := setting_agrees first.insecure second.insecure (same.getFilled? different)
  interval different := setting_agrees first.interval second.interval (same.getFilled? different)
  shutdownTimeout := first.shutdownTimeout.trans second.shutdownTimeout.symm
  exportTimeout different :=
    setting_agrees first.exportTimeout second.exportTimeout (same.getFilled? different)
  protocol different := setting_agrees first.protocol second.protocol (same.getFilled? different)
  temporality different :=
    setting_agrees first.temporality second.temporality (same.getFilled? different)
  headers different := setting_agrees first.headers second.headers (same.getFilled? different)
  serviceName different := by
    rw [first.serviceName, second.serviceName, same.getFilled? different]

/-- What a reading that fails fails with. -/
def faultOf : Except ConfigFault α → Option ConfigFault
  | .ok _ => none
  | .error fault => some fault

theorem faultOf_eq_some_iff {x : Except ConfigFault α} {fault : ConfigFault} :
    faultOf x = some fault ↔ x = .error fault := by
  cases x <;> simp [faultOf]

theorem eq_of_faultOf_orFault {own fault : ConfigFault} {x : Option α}
    (failed : faultOf (orFault own x) = some fault) : fault = own := by
  cases x with
  | none => exact (Option.some.inj failed).symm
  | some a => cases failed

/-- The variables whose values are not taken as they are. -/
inductive Checked where
  | insecure
  | interval
  | timeout
  | protocol
  | temporality
  | headers
deriving DecidableEq, Repr

namespace Checked

def variableName : Checked → String
  | insecure => "OTEL_EXPORTER_OTLP_INSECURE"
  | interval => "OTEL_METRIC_EXPORT_INTERVAL"
  | timeout => "OTEL_METRIC_EXPORT_TIMEOUT"
  | protocol => "OTEL_EXPORTER_OTLP_PROTOCOL"
  | temporality => "OTEL_EXPORTER_OTLP_METRICS_TEMPORALITY_PREFERENCE"
  | headers => "OTEL_EXPORTER_OTLP_HEADERS"

/-- What the variable's own reader finds wrong with a text. -/
def fault? : Checked → String → Option ConfigFault
  | insecure, s => faultOf (orFault .insecure (readBool s))
  | interval, s => faultOf (orFault (.intervalMillis s) (readMillis s))
  | timeout, s => faultOf (orFault (.timeoutMillis s) (readMillis s))
  | protocol, s => faultOf (orFault .protocol (Protocol.parse s))
  | temporality, s =>
    faultOf (orFault .temporality (Temporality.parse (String.ofList (trim s.toList))))
  | headers, s => faultOf (Headers.read s)

/-- What is wrong with the variable in an environment. -/
def faultIn? (v : Checked) (e : Environment) : Option ConfigFault :=
  (e.getFilled? v.variableName).bind v.fault?

/-- The variables in the order in which they are looked at. -/
def inOrder : List Checked := [insecure, interval, timeout, protocol, temporality, headers]

theorem mem_inOrder (v : Checked) : v ∈ inOrder := by
  cases v <;> decide

theorem faultIn?_eq_some_iff {v : Checked} {fault : ConfigFault} : v.faultIn? e = some fault ↔
    ∃ text, e.getFilled? v.variableName = some text ∧ v.fault? text = some fault :=
  Option.bind_eq_some_iff

/-- A fault names the variable that has it, and that of the headers names the setting. -/
theorem option_fault? {v : Checked} {fault : ConfigFault} (failed : v.fault? text = some fault) :
    fault.option = if v = headers then "headers" else v.variableName := by
  cases v
  case headers =>
    obtain ⟨piece, -, rfl⟩ :=
      Headers.exists_piece_of_read_eq_error (faultOf_eq_some_iff.mp failed)
    rfl
  all_goals
    rw [fault?] at failed
    rw [eq_of_faultOf_orFault failed]
    rfl

end Checked

/-- A variable that is read first has its fault first, where what is wrong with the others does not
depend on what it gives. -/
theorem faultOf_setting_bind (v : Checked) {own : α} {read : String → Except ConfigFault α}
    {f : α → Except ConfigFault β} {others : List Checked}
    (reader : ∀ s, faultOf (read s) = v.fault? s)
    (later : ∀ a, faultOf (f a) = others.findSome? (·.faultIn? e)) :
    faultOf (setting e v.variableName own read >>= f) =
      (v :: others).findSome? (·.faultIn? e) := by
  rw [List.findSome?_cons, Checked.faultIn?, setting]
  cases e.getFilled? v.variableName with
  | none => exact later own
  | some s =>
    simp only [Option.bind_some, ← reader s]
    cases read s with
    | ok a => exact later a
    | error fault => rfl

/-- The first variable with a fault decides what is wrong with an environment. -/
theorem faultOf_readEnvironment (e : Environment) :
    faultOf (readEnvironment e) = Checked.inOrder.findSome? (·.faultIn? e) :=
  faultOf_setting_bind .insecure (fun _ => rfl) fun _ =>
  faultOf_setting_bind .interval (fun _ => rfl) fun _ =>
  faultOf_setting_bind .timeout (fun _ => rfl) fun _ =>
  faultOf_setting_bind .protocol (fun _ => rfl) fun _ =>
  faultOf_setting_bind .temporality (fun _ => rfl) fun _ =>
  faultOf_setting_bind .headers (fun _ => rfl) fun _ => rfl

theorem ofEnvironment_eq_error_iff {error : Error} : ofEnvironment e = .error error ↔
    ∃ fault, Checked.inOrder.findSome? (·.faultIn? e) = some fault ∧ error = .invalidConfig fault := by
  rw [← faultOf_readEnvironment, ofEnvironment]
  cases readEnvironment e <;> simp [faultOf, Except.mapError, eq_comm]

/-- An environment is refused for the first variable with a fault, whatever the others hold. -/
theorem ofEnvironment_eq_error_iff_first {error : Error} : ofEnvironment e = .error error ↔
    ∃ before v after text fault, Checked.inOrder = before ++ v :: after ∧
      (∀ w ∈ before, w.faultIn? e = none) ∧
      e.getFilled? v.variableName = some text ∧ v.fault? text = some fault ∧
      error = .invalidConfig fault ∧
      fault.option = if v = .headers then "headers" else v.variableName := by
  rw [ofEnvironment_eq_error_iff]
  constructor
  · rintro ⟨fault, found, rfl⟩
    obtain ⟨before, v, after, order, here, earlier⟩ := List.findSome?_eq_some_iff.mp found
    obtain ⟨text, filled, failed⟩ := Checked.faultIn?_eq_some_iff.mp here
    exact ⟨before, v, after, text, fault, order, earlier, filled, failed, rfl,
      Checked.option_fault? failed⟩
  · rintro ⟨before, v, after, text, fault, order, earlier, filled, failed, rfl, -⟩
    have here := Checked.faultIn?_eq_some_iff.mpr ⟨text, filled, failed⟩
    exact ⟨fault, List.findSome?_eq_some_iff.mpr ⟨before, v, after, order, here, earlier⟩, rfl⟩

theorem exists_ofEnvironment_eq_error_iff : (∃ error, ofEnvironment e = .error error) ↔
    ∃ (v : Checked) (text : String), e.getFilled? v.variableName = some text ∧
      (v.fault? text).isSome := by
  simp only [ofEnvironment_eq_error_iff, Option.isSome_iff_exists]
  constructor
  · rintro ⟨_, fault, found, rfl⟩
    obtain ⟨v, -, here⟩ := List.exists_of_findSome?_eq_some found
    obtain ⟨text, filled, failed⟩ := Checked.faultIn?_eq_some_iff.mp here
    exact ⟨v, text, filled, fault, failed⟩
  · rintro ⟨v, text, filled, fault, failed⟩
    have here := Checked.faultIn?_eq_some_iff.mpr ⟨text, filled, failed⟩
    have found : (Checked.inOrder.findSome? (·.faultIn? e)).isSome := by
      rw [List.findSome?_isSome_iff]
      exact ⟨v, v.mem_inOrder, by rw [here]; rfl⟩
    obtain ⟨first, found⟩ := Option.isSome_iff_exists.mp found
    exact ⟨_, first, found, rfl⟩

theorem ofEnvironment_blank {e' : Environment} (same : SameElsewhere name e e')
    (given : e.get? name = some text) (blank : Blank text.toList) (missing : e'.get? name = none) :
    ofEnvironment e = ofEnvironment e' := by
  have filled (other : String) : e.getFilled? other = e'.getFilled? other := by
    by_cases here : name = other
    · subst here
      rw [getFilled?_eq_none_of_blank given blank, Environment.getFilled?, missing]
      rfl
    · exact same.getFilled? here
  rw [ofEnvironment, readEnvironment_congr filled, ofEnvironment]

/-- A variable of the environment has a say in the one setting that it feeds, and a blank value is
none. An environment is refused exactly when one of six variables is set to a text that its own
reader refuses, and then for the first of these in a fixed order. What is refused is shown with the
name of the variable, but for the headers, which are called by the name of their setting. -/
theorem ofEnvironment_independent (e : Environment) :
    (∀ name e' c c', SameElsewhere name e e' → ofEnvironment e = .ok c → ofEnvironment e' = .ok c' →
      SameBut name c c') ∧
    (∀ name e' text, SameElsewhere name e e' → e.get? name = some text → Blank text.toList →
      e'.get? name = none → ofEnvironment e = ofEnvironment e') ∧
    ((∃ error, ofEnvironment e = .error error) ↔
      ∃ (v : Checked) (text : String), e.getFilled? v.variableName = some text ∧
        (v.fault? text).isSome) ∧
    ∀ error, ofEnvironment e = .error error ↔
      ∃ before v after text fault, Checked.inOrder = before ++ v :: after ∧
        (∀ w ∈ before, w.faultIn? e = none) ∧
        e.getFilled? v.variableName = some text ∧ v.fault? text = some fault ∧
        error = .invalidConfig fault ∧
        fault.option = if v = .headers then "headers" else v.variableName := by
  refine ⟨fun name e' c c' same first second => ?_, fun name e' text => ofEnvironment_blank,
    exists_ofEnvironment_eq_error_iff, fun error => ofEnvironment_eq_error_iff_first⟩
  rw [ofEnvironment, Reading.mapError_eq_ok_iff, readEnvironment_eq_ok_iff] at first second
  exact first.sameBut second same

/-- Header settings, and an export interval where one is given. -/
def headed (interval : Option String) : Environment :=
  ⟨("OTEL_EXPORTER_OTLP_HEADERS", .text "a=b") ::
    interval.toList.map fun s => ("OTEL_METRIC_EXPORT_INTERVAL", .text s)⟩

theorem sameElsewhere_headed (interval other : Option String) :
    SameElsewhere "OTEL_METRIC_EXPORT_INTERVAL" (headed interval) (headed other) := by
  intro name different
  have apart : ("OTEL_METRIC_EXPORT_INTERVAL" == name) = false :=
    beq_eq_false_iff_ne.mpr different.symm
  cases interval <;> cases other <;>
    simp [headed, Environment.get?, Environment.value?, List.find?_cons, apart]

/-- The headers and the timeout cannot be read, and the interval is blank. -/
def muddled : Environment := ⟨[("OTEL_EXPORTER_OTLP_HEADERS", .text "novalue"),
  ("OTEL_METRIC_EXPORT_INTERVAL", .text " "), ("OTEL_METRIC_EXPORT_TIMEOUT", .text "5s")]⟩

theorem ofEnvironment_independent_headed :
    (∃ c c', ofEnvironment (headed (some "250")) = .ok c ∧ ofEnvironment (headed none) = .ok c' ∧
      SameBut "OTEL_METRIC_EXPORT_INTERVAL" c c' ∧ c.interval ≠ c'.interval) ∧
    ofEnvironment (headed (some " ")) = ofEnvironment (headed none) ∧
    ofEnvironment muddled = .error (.invalidConfig (.timeoutMillis "5s")) := by
  let c : Config := { default with headers := [("a", "b")] }
  have quick : ofEnvironment (headed (some "250")) =
      .ok { c with interval := .ofMillis 250 } := by rfl
  have usual : ofEnvironment (headed none) = .ok c := by rfl
  refine ⟨⟨_, _, quick, usual, ?_, by decide⟩, ?_, ?_⟩
  · exact (ofEnvironment_independent _).1 _ _ _ _ (sameElsewhere_headed _ _) quick usual
  · exact (ofEnvironment_independent _).2.1 _ _ " " (sameElsewhere_headed _ _) rfl
      (allBlank_iff.mp rfl) rfl
  · exact ((ofEnvironment_independent _).2.2.2 _).mpr ⟨[.insecure, .interval], .timeout,
      [.protocol, .temporality, .headers], "5s", _, rfl, by decide +kernel, rfl, rfl, rfl, rfl⟩

/-- The headers cannot be read, and the fault does not show the name of their variable. -/
theorem headers_unnamed :
    ∃ fault, ofEnvironment ⟨[("OTEL_EXPORTER_OTLP_HEADERS", .text "novalue")]⟩ =
      .error (.invalidConfig fault) ∧ fault.option ≠ "OTEL_EXPORTER_OTLP_HEADERS" :=
  ⟨.header "novalue", by rfl, by decide⟩

end Telemetry.Config
