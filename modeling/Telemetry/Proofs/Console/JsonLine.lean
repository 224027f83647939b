import Mathlib.Data.List.Forall2
import Telemetry.Console.Output
import Telemetry.Proofs.Json.Scalar
import Telemetry.Proofs.Json.Visible

/-! Records as lines of JSON. A line says what its record says, with every text as it was, and has
one newline, its last character. So lines that are cut apart at newlines are the ones that were
written. Main results: `jsonLine_parsed` and `jsonLines_cut`. -/
namespace Telemetry.Console

theorem isWellFormed_jsonValue (v : Log.Value) : (jsonValue v).IsWellFormed := by
  cases v with
  | signed i => exact Json.Value.isWellFormed_ofInt i.toInt
  | unsigned n => exact Json.Value.isWellFormed_ofNat n.toNat
  | float x => exact Json.Value.isWellFormed_ofFloat x
  | bool b => trivial
  | text s => trivial
  | shown pieces => trivial

theorem isWellFormed_jsonObject (r : Log.Record) : (jsonObject r).IsWellFormed := by
  refine Json.membersWellFormed_iff.mpr fun p member => ?_
  rcases List.mem_append.mp member with own | property
  · simp only [List.mem_cons, List.not_mem_nil, or_false] at own
    rcases own with rfl | rfl | rfl | rfl <;> trivial
  · obtain ⟨q, _, rfl⟩ := List.mem_map.mp property
    exact isWellFormed_jsonValue q.2

theorem isVisible_jsonObject (r : Log.Record) :
    ∀ c ∈ (jsonObject r).chars, Json.isVisible c = true :=
  Json.Value.isVisible_chars _ (isWellFormed_jsonObject r)

theorem newline_notMem_jsonObject (r : Log.Record) : '\n' ∉ (jsonObject r).chars := fun member =>
  Json.ne_of_isVisible (isVisible_jsonObject r _ member) rfl rfl

/-- The only control character of a JSON line is the newline at its end. -/
theorem escape_notMem_jsonLine (r : Log.Record) : '\x1b' ∉ jsonLine r := by
  intro member
  rcases List.mem_append.mp member with inside | last
  · exact Json.ne_of_isVisible (isVisible_jsonObject r _ inside) rfl rfl
  · cases List.mem_singleton.mp last

/-- What JSON has to have for the value of a property. An integer is read back exactly. A float is
the token that is printed for it, and null where it is not finite. -/
def Says : Log.Value → Json.Value → Prop
  | .signed i, v => v.asInt = some i.toInt
  | .unsigned n, v => v.asNat = some n.toNat
  | .float x, v => v.asFloat =
      some (if x.isFinite then some (String.ofList (Decimal.finiteText .json x)) else none)
  | .bool b, v => v = .bool b
  | .text s, v => v = .string s
  | .shown pieces, v => v = .string (String.join pieces)

theorem says_jsonValue (v : Log.Value) : Says v (jsonValue v) := by
  cases v with
  | signed i => exact Json.Value.asInt_ofInt i.toInt
  | unsigned n => exact Json.Value.asNat_ofNat n.toNat
  | float x =>
    simp only [Says, jsonValue, Json.Value.ofFloat]
    split_ifs <;> rfl
  | bool b => rfl
  | text s =>
    have whole : Log.Value.display (.text s) = s := by
      rw [Log.Value.display, Log.Value.pieces, String.join_cons, String.join_nil, String.append_empty]
    exact congrArg Json.Value.string whole
  | shown pieces => rfl

theorem text_add_json (b : Buffer) (color : ColorChoice) (r : Log.Record) :
    (b.add ⟨true, color⟩ r).text = b.text ++ jsonLine r := by
  rw [Buffer.add, if_pos rfl]

/-- A JSON line in a cleared buffer is one JSON object and one newline behind it. The object's
members are the time, level, scope and message of the record, then its properties in order, with
every key and text as in the record. -/
theorem jsonLine_parsed (b : Buffer) (color : ColorChoice) (r : Log.Record) :
    ∃ body own, (b.clear.add ⟨true, color⟩ r).text = body ++ ['\n'] ∧ '\n' ∉ body ∧
      Json.parse? body = some (.object ([("timestamp", .string r.timestamp.rfc3339),
        ("level", .string r.level.name), ("scope", .string r.scope),
        ("msg", .string r.message)] ++ own)) ∧
      List.Forall₂ (fun p member => member.1 = p.1 ∧ Says p.2 member.2) r.properties own := by
  let own : List (String × Json.Value) := r.properties.map fun p => (p.1, jsonValue p.2)
  have said : List.Forall₂ (fun p member => member.1 = p.1 ∧ Says p.2 member.2) r.properties own :=
    List.forall₂_map_right_iff.mpr (List.forall₂_same.mpr fun p _ => ⟨rfl, says_jsonValue p.2⟩)
  exact ⟨(jsonObject r).chars, own, text_add_json b.clear color r, newline_notMem_jsonObject r,
    Json.parse?_chars (isWellFormed_jsonObject r), said⟩

theorem write_json (terminal : Bool) (color : ColorChoice) (r : Log.Record)
    (kept : Option Buffer) :
    (write terminal ⟨true, color⟩ r kept).1 = String.ofList (jsonLine r) := by
  cases kept <;>
    simp only [write, text_add_json, Buffer.clear, Buffer.empty, List.nil_append]

/-- Neither a kept buffer nor the terminal plays a part in JSON lines. -/
theorem writeAll_json (terminal : Bool) (color : ColorChoice) (l : List Log.Record)
    (kept : Option Buffer) : writeAll terminal (l.map fun r => (⟨true, color⟩, r)) kept =
      l.map fun r => String.ofList (jsonLine r) := by
  induction l generalizing kept with
  | nil => rfl
  | cons r rest ih =>
    rw [List.map_cons, writeAll]
    dsimp only
    rw [write_json, ih, List.map_cons]

theorem splitOn_jsonLine (r : Log.Record) (rest : List Char) :
    (jsonLine r ++ rest).splitOn '\n' = (jsonObject r).chars :: rest.splitOn '\n' := by
  rw [jsonLine, List.append_assoc, List.singleton_append, List.splitOn_append_cons_self,
    List.splitOn_eq_singleton (newline_notMem_jsonObject r), List.singleton_append]

/-- Whatever the records say, what a thread writes of them as JSON and is cut at newlines has one
piece for each record, its object, and nothing behind the last newline. -/
theorem jsonLines_cut (terminal : Bool) (color : ColorChoice) (l : List Log.Record)
    (kept : Option Buffer) :
    ∃ pieces, (String.join (writeAll terminal (l.map fun r => (⟨true, color⟩, r)) kept)).toList.splitOn
        '\n' = pieces ++ [[]] ∧
      pieces.map Json.parse? = l.map fun r => some (jsonObject r) := by
  refine ⟨l.map fun r => (jsonObject r).chars, ?_, ?_⟩
  · rw [writeAll_json, String.toList_join, List.flatMap_map]
    induction l with
    | nil => rfl
    | cons r rest ih =>
      rw [List.flatMap_cons, String.toList_ofList, splitOn_jsonLine, ih, List.map_cons,
        List.cons_append]
  · rw [List.map_map]
    refine List.map_congr_left fun r _ => ?_
    rw [Function.comp_apply, Json.parse?_chars (isWellFormed_jsonObject r)]

end Telemetry.Console
