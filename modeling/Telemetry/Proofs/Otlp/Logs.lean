import Telemetry.Proofs.Otlp.Origin
import Telemetry.Proofs.Sorted

/-! The request for log records, read back from the wire, and the groups that its records are in. -/
namespace Telemetry.Otlp

open Wire Message

namespace Schema

def LogRecord.read (fields : List Wire.Field) : Option (LogRecord Binary64) := do
  guard (numbered [1, 2, 3, 5, 6, 11] fields)
  let time ← single Payload.asFixed 0 (payloads 1 fields)
  let severityNumber ← single Payload.asCase 0 (payloads 2 fields)
  let severityText ← single Payload.asText "" (payloads 3 fields)
  let body ← atMostOne (Payload.asRecord AnyValue.read) (payloads 5 fields)
  let attributes ← repeated (Payload.asRecord KeyValue.read) (payloads 6 fields)
  let observedTime ← single Payload.asFixed 0 (payloads 11 fields)
  pure ⟨time, severityNumber, severityText, body, attributes, observedTime⟩

def ScopeLogs.read (fields : List Wire.Field) : Option (ScopeLogs Binary64) := do
  guard (numbered [1, 2] fields)
  let scope ← atMostOne (Payload.asRecord InstrumentationScope.read) (payloads 1 fields)
  let records ← repeated (Payload.asRecord LogRecord.read) (payloads 2 fields)
  pure ⟨scope, records⟩

def ResourceLogs.read (fields : List Wire.Field) : Option (ResourceLogs Binary64) := do
  guard (numbered [1, 2] fields)
  let resource ← atMostOne (Payload.asRecord Resource.read) (payloads 1 fields)
  let scopeLogs ← repeated (Payload.asRecord ScopeLogs.read) (payloads 2 fields)
  pure ⟨resource, scopeLogs⟩

def readLogs (bytes : List UInt8) : Option (List (ResourceLogs Binary64)) := do
  let fields ← decode bytes
  guard (numbered [1] fields)
  repeated (Payload.asRecord ResourceLogs.read) (payloads 1 fields)

theorem single_severity (level : Level) :
    single Payload.asCase 0 (case (severityNumber level)).payloads =
      some (severityNumber level) := by
  cases level <;> rfl

theorem reads_logRecord (e : LogEntry) :
    Reads LogRecord.read (logRecordMessage e) (LogRecord.ofEntry id e).withoutDefaults := by
  refine ⟨_, rfl, ?_⟩
  simp [LogRecord.read, single_severity, atMostOne_record (reads_anyValue (.string e.body)),
    repeated_keyValues, LogRecord.ofEntry, LogRecord.withoutDefaults]

theorem reads_scopeLogs (group : String × List LogEntry) :
    Reads ScopeLogs.read (scopeLogsMessage group)
      (ScopeLogs.ofGroup id group.1 group.2).withoutDefaults := by
  have scope : atMostOne (Payload.asRecord InstrumentationScope.read)
      (scopeMessage (.ofName group.1)).payloads = some (some ⟨group.1, ""⟩) :=
    atMostOne_record (reads_scope (.ofName group.1))
  refine ⟨_, rfl, ?_⟩
  simp [ScopeLogs.read, scope, repeated_records fun e _ => reads_logRecord e, ScopeLogs.ofGroup,
    ScopeLogs.withoutDefaults, Function.comp_def]

theorem reads_resourceLogs (r : Telemetry.Resource) (l : List LogEntry) :
    Reads ResourceLogs.read
      (.record [("resource", 1, resourceMessage r),
        ("scopeLogs", 2, .list ((groupByScope l).map scopeLogsMessage))])
      ⟨some (Resource.ofResource id r).withoutDefaults,
        (groupByScope l).map fun g => (ScopeLogs.ofGroup id g.1 g.2).withoutDefaults⟩ := by
  refine ⟨_, rfl, ?_⟩
  simp [ResourceLogs.read, atMostOne_record (reads_resource r),
    repeated_records fun group _ => reads_scopeLogs group]

theorem readLogs_encodeLogs (r : Telemetry.Resource) (l : List LogEntry) :
    readLogs (encodeLogs .proto r l) =
      some [⟨some (Resource.ofResource id r).withoutDefaults,
        (groupByScope l).map fun g => (ScopeLogs.ofGroup id g.1 g.2).withoutDefaults⟩] := by
  have one := repeated_records (l := [l]) fun l _ => reads_resourceLogs r l
  rw [List.map_singleton, List.map_singleton] at one
  simp [readLogs, encodeLogs, Message.encode, decode_encode, logsRequest, one]

end Schema

section Groups

variable (l : List LogEntry)

theorem groupByScope_eq :
    groupByScope l = (Sorted.distinct compare (l.map (·.scope))).map fun scope =>
      (scope, l.filter (·.scope = scope)) :=
  Sorted.foldl_upsert_concat compare LogEntry.scope l

theorem pairwise_groupByScope :
    (groupByScope l).Pairwise fun g h => g.1.toUTF8.toList < h.1.toUTF8.toList := by
  have increasing : (Sorted.distinct compare (l.map (·.scope))).Pairwise (compare · · = .lt) :=
    Sorted.pairwise_distinct _
  rw [groupByScope_eq]
  refine List.Pairwise.map _ (fun a b less => ?_) increasing
  exact Text.toUTF8_lt (compareOfLessAndEq_eq_lt.mp less)

theorem groupByScope_eq_filter {g : String × List LogEntry} (hg : g ∈ groupByScope l) :
    g.2 = l.filter (·.scope = g.1) := by
  rw [groupByScope_eq] at hg
  obtain ⟨scope, _, rfl⟩ := List.mem_map.mp hg
  rfl

theorem groupByScope_ne_nil {g : String × List LogEntry} (hg : g ∈ groupByScope l) : g.2 ≠ [] := by
  rw [groupByScope_eq] at hg
  obtain ⟨scope, known, rfl⟩ := List.mem_map.mp hg
  obtain ⟨e, he, same⟩ := List.mem_map.mp (Sorted.mem_distinct.mp known)
  have own : e ∈ l.filter (·.scope = scope) := List.mem_filter.mpr ⟨he, decide_eq_true same⟩
  exact List.ne_nil_of_mem own

theorem flatMap_groupByScope :
    (groupByScope l).flatMap (·.2) = l.mergeSort fun a b => (compare a.scope b.scope).isLE := by
  have complete (e : LogEntry) (he : e ∈ l) :
      e.scope ∈ Sorted.distinct compare (l.map (·.scope)) :=
    Sorted.mem_distinct.mpr (List.mem_map_of_mem he)
  have increasing : (Sorted.distinct compare (l.map (·.scope))).Pairwise (compare · · = .lt) :=
    Sorted.pairwise_distinct _
  rw [← Sorted.flatMap_filter_eq_mergeSort LogEntry.scope increasing complete, groupByScope_eq,
    List.flatMap_map]

end Groups

open Schema

/-- Every entry arrives once: in the group of its scope, of which the groups are in the order of
their bytes, and in its place among the group's entries. It arrives whole unless its body is empty
or one of its properties is zero, false or empty; of these there is a value without a case. -/
theorem logs_decoded (r : Telemetry.Resource) (l : List LogEntry) :
    ∃ groups : List (String × List LogEntry),
      readLogs (encodeLogs .proto r l) = some [⟨some (Resource.ofResource id r).withoutDefaults,
        groups.map fun g => (ScopeLogs.ofGroup id g.1 g.2).withoutDefaults⟩] ∧
      groups.Pairwise (fun g h => g.1.toUTF8.toList < h.1.toUTF8.toList) ∧
      (∀ g ∈ groups, g.2 ≠ [] ∧ g.2 = l.filter (·.scope = g.1)) ∧
      groups.flatMap (·.2) = l.mergeSort (fun a b => (compare a.scope b.scope).isLE) ∧
      (readLogs (encodeLogs .proto r l) = some [⟨some (Resource.ofResource id r).withoutDefaults,
        groups.map fun g => ScopeLogs.ofGroup id g.1 g.2⟩] ↔ ∀ e ∈ l, e.IsTelling) := by
  have read := readLogs_encodeLogs r l
  refine ⟨groupByScope l, read, pairwise_groupByScope l,
    fun g hg => ⟨groupByScope_ne_nil l hg, groupByScope_eq_filter l hg⟩, flatMap_groupByScope l, ?_⟩
  rw [read, Option.some_inj, List.singleton_inj, ResourceLogs.mk.injEq, List.map_inj_left]
  simp only [ScopeLogs.withoutDefaults_eq_iff, true_and]
  constructor
  · intro whole e he
    have here : e ∈ (groupByScope l).flatMap (·.2) := by
      rw [flatMap_groupByScope]
      exact List.mem_mergeSort.mpr he
    obtain ⟨g, hg, own⟩ := List.mem_flatMap.mp here
    exact whole g hg e own
  · intro whole g hg e he
    rw [groupByScope_eq_filter l hg] at he
    exact whole e (List.mem_filter.mp he).1

/-- A record that says of itself that something is false. -/
def denial : LogEntry := ⟨1000000000, .info, "s", "m", [⟨"ok", .bool false⟩]⟩

/-- What it says is missed. -/
theorem denial_not_decoded :
    ¬ ∃ resource, readLogs (encodeLogs .proto .default [denial]) =
      some [⟨resource, [ScopeLogs.ofGroup id "s" [denial]]⟩] := by
  rintro ⟨resource, whole⟩
  have groups : groupByScope [denial] = [("s", [denial])] := rfl
  rw [readLogs_encodeLogs, groups, Option.some_inj, List.singleton_inj, ResourceLogs.mk.injEq,
    List.map_singleton, List.singleton_inj, ScopeLogs.withoutDefaults_eq_iff] at whole
  have telling := whole.2 denial (List.mem_singleton_self _)
  have told := telling.2 ⟨"ok", .bool false⟩ (List.mem_singleton_self _)
  cases told

end Telemetry.Otlp
