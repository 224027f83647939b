import Mathlib.Data.Option.Basic
import Telemetry.Proofs.Otlp.Wire
import Telemetry.Proofs.Text.Utf8
import Telemetry.Otlp.Message

/-! Messages read from the wire by field numbers and types, as the protocol's readers do, only
stricter: a number that is not the message's, a singular field that is there twice and a payload of
another type are refused. For each kind of field the reader is related to what writes it. A scalar
that is zero, false or empty has no payload, wherever it stands. -/
namespace Telemetry.Otlp

variable {α β : Type}

namespace Wire.Payload

def asText : Payload → Option String
  | bytes l => Text.decode? l
  | _ => none

def asBool : Payload → Option Bool
  | varint n => some (n != 0)
  | _ => none

def asInteger : Payload → Option Int
  | varint n => some n.toInt64.toInt
  | _ => none

def asCase : Payload → Option Nat
  | varint n => some n.toNat
  | _ => none

def asFixed : Payload → Option Nat
  | word n => some n.toNat
  | _ => none

def asSignedFixed : Payload → Option Int
  | word n => some n.toInt64.toInt
  | _ => none

def asDouble : Payload → Option Binary64
  | word n => some ⟨n⟩
  | _ => none

def asRecord (read : List Field → Option α) : Payload → Option α
  | bytes l => (decode l).bind read
  | _ => none

end Wire.Payload

namespace Wire

/-- What the fields hold under a number. -/
def payloads (number : Nat) (fields : List Field) : List Payload :=
  (fields.filter (·.number = number)).map (·.payload)

/-- Whether all fields have one of the numbers. -/
def numbered (numbers : List Nat) (fields : List Field) : Bool := fields.all (·.number ∈ numbers)

/-- A singular field that may be absent. -/
def atMostOne (read : Payload → Option α) : List Payload → Option (Option α)
  | [] => some none
  | [p] => (read p).map some
  | _ => none

/-- A singular field that has a default. -/
def single (read : Payload → Option α) (default : α) (l : List Payload) : Option α :=
  (atMostOne read l).map (·.getD default)

def repeated (read : Payload → Option α) (l : List Payload) : Option (List α) := l.mapM read

/-- A union, of which at most one case is there. -/
def oneOf (cases : List (Option α)) : Option (Option α) :=
  match cases.filterMap id with
  | [] => some none
  | [x] => some (some x)
  | _ => none

@[simp] theorem oneOf_none_cons (l : List (Option α)) : oneOf (none :: l) = oneOf l := rfl

theorem oneOf_cons {l : List (Option α)} (absent : ∀ x ∈ l, x = none) (o : Option α) :
    oneOf (o :: l) = some o := by
  have others : l.filterMap id = [] := List.filterMap_eq_nil_iff.mpr absent
  cases o with
  | none => rw [oneOf_none_cons, oneOf, others]
  | some x =>
    have only : (some x :: l).filterMap id = [x] := congrArg (x :: ·) others
    rw [oneOf, only]

end Wire

namespace Message

open Wire

/-- What a message puts under its number, whatever the number is. -/
def payloads (m : Message) : List Payload := (m.toFields 0).map (·.payload)

mutual

theorem toFields_relabel (m : Message) (k n : Nat) :
    ((m.toFields k).map (·.payload)).map (Wire.Field.mk n) = m.toFields n := by
  cases m with
  | record fields => rfl
  | list items => exact listFields_relabel items k n
  | _ =>
    simp only [toFields, scalar]
    split <;> rfl

theorem listFields_relabel (l : List Message) (k n : Nat) :
    ((listFields k l).map (·.payload)).map (Wire.Field.mk n) = listFields n l := by
  cases l with
  | nil => rfl
  | cons m rest =>
    rw [listFields, listFields, List.map_append, List.map_append, toFields_relabel m k n,
      listFields_relabel rest k n]

end

theorem toFields_eq (m : Message) (n : Nat) : m.toFields n = m.payloads.map (Wire.Field.mk n) :=
  (toFields_relabel m 0 n).symm

theorem payloads_list (l : List Message) : (list l).payloads = l.flatMap payloads := by
  induction l with
  | nil => rfl
  | cons m rest ih =>
    rw [List.flatMap_cons, ← ih]
    exact List.map_append

@[simp] theorem payloads_recordFields_nil (n : Nat) : Wire.payloads n (recordFields []) = [] := rfl

@[simp] theorem payloads_recordFields_cons (n number : Nat) (name : String) (m : Message)
    (rest : List (String × Nat × Message)) :
    Wire.payloads n (recordFields ((name, number, m) :: rest)) =
      (if number = n then m.payloads else []) ++ Wire.payloads n (recordFields rest) := by
  have own : Wire.payloads n (m.toFields number) = if number = n then m.payloads else [] := by
    rw [toFields_eq]
    split
    · next same => simp [Wire.payloads, same, List.filter_map, Function.comp_def]
    · next other => simp [Wire.payloads, other, List.filter_map, Function.comp_def]
  rw [← own]
  simp only [recordFields, Wire.payloads, List.filter_append, List.map_append]

@[simp] theorem numbered_recordFields_nil (numbers : List Nat) :
    numbered numbers (recordFields []) = true := rfl

@[simp] theorem numbered_recordFields_cons {numbers : List Nat} {number : Nat}
    (known : number ∈ numbers) (name : String) (m : Message) (rest : List (String × Nat × Message)) :
    numbered numbers (recordFields ((name, number, m) :: rest)) =
      numbered numbers (recordFields rest) := by
  simp [numbered, recordFields, toFields_eq, known]

/-- A message is a record whose fields are read as the value. -/
def Reads (read : List Wire.Field → Option α) (m : Message) (v : α) : Prop :=
  ∃ fields, m = record fields ∧ read (recordFields fields) = some v

section Fields

variable {read : Payload → Option α} {m : Message} {v : α}

@[simp] theorem atMostOne_nil : atMostOne read [] = some none := rfl

@[simp] theorem repeated_nil : repeated read [] = some [] := rfl

/-- A scalar is there where it is not its type's default. -/
theorem atMostOne_scalar {isDefault : Bool} {p : Payload} (shape : m.toFields 0 = scalar 0 isDefault p)
    (reads : read p = some v) {told : α → Bool} (same : told v = !isDefault) :
    atMostOne read m.payloads = some ((some v).filter told) := by
  rw [payloads, shape, scalar, Option.filter_some, same]
  cases isDefault with
  | true => rfl
  | false => exact congrArg (Option.map some) reads

theorem single_of_atMostOne {default : α} {told : α → Bool}
    (one : atMostOne read m.payloads = some ((some v).filter told))
    (same : told v = false → v = default) : single read default m.payloads = some v := by
  rw [single, one, Option.map_some, Option.filter_some]
  cases here : told v with
  | true => rfl
  | false => exact congrArg some (same here).symm

@[simp] theorem atMostOne_text (s : String) :
    atMostOne Payload.asText (text s).payloads = some ((some s).filter (!·.isEmpty)) :=
  atMostOne_scalar rfl (Text.decode?_toUTF8 s) rfl

@[simp] theorem single_text (s : String) : single Payload.asText "" (text s).payloads = some s := by
  apply single_of_atMostOne (atMostOne_text s)
  intro empty
  exact String.isEmpty_iff.mp (Bool.not_eq_eq_eq_not.mp empty)

@[simp] theorem atMostOne_bool (b : Bool) :
    atMostOne Payload.asBool (bool b).payloads = some ((some b).filter id) := by
  cases b <;> rfl

@[simp] theorem single_bool (b : Bool) :
    single Payload.asBool false (bool b).payloads = some b :=
  single_of_atMostOne (atMostOne_bool b) id

theorem toInt_bne_zero (i : Int64) : (i.toInt != 0) = !(i == 0) := by
  have same : i.toInt = 0 ↔ i = 0 := Int64.toInt_inj (y := 0)
  rw [Bool.eq_iff_iff]
  simp [same]

theorem toNat_bne_zero (n : UInt64) : (n.toNat != 0) = !(n == 0) := by
  have same : n.toNat = 0 ↔ n = 0 := UInt64.toNat_inj (b := 0)
  rw [Bool.eq_iff_iff]
  simp [same]

@[simp] theorem atMostOne_integer (i : Int64) :
    atMostOne Payload.asInteger (integer i).payloads = some ((some i.toInt).filter (· != 0)) := by
  have reads : Payload.asInteger (.varint i.toUInt64) = some i.toInt := rfl
  exact atMostOne_scalar rfl reads (toInt_bne_zero i)

@[simp] theorem atMostOne_signedFixed (i : Int64) :
    atMostOne Payload.asSignedFixed (signedFixed i).payloads =
      some ((some i.toInt).filter (· != 0)) := by
  have reads : Payload.asSignedFixed (.word i.toUInt64) = some i.toInt := rfl
  exact atMostOne_scalar rfl reads (toInt_bne_zero i)

@[simp] theorem atMostOne_fixed (n : UInt64) :
    atMostOne Payload.asFixed (fixed n).payloads = some ((some n.toNat).filter (· != 0)) := by
  have reads : Payload.asFixed (.word n) = some n.toNat := rfl
  exact atMostOne_scalar rfl reads (toNat_bne_zero n)

@[simp] theorem single_fixed (n : UInt64) :
    single Payload.asFixed 0 (fixed n).payloads = some n.toNat :=
  single_of_atMostOne (atMostOne_fixed n) bne_eq_false_iff_eq.mp

@[simp] theorem atMostOne_double (x : Binary64) :
    atMostOne Payload.asDouble (double x).payloads = some ((some x).filter (!·.isZero)) := by
  have reads : Payload.asDouble (.word x.bits) = some x := rfl
  exact atMostOne_scalar rfl reads rfl

theorem atMostOne_record {read : List Wire.Field → Option α} (reads : Reads read m v) :
    atMostOne (Payload.asRecord read) m.payloads = some (some v) := by
  obtain ⟨fields, rfl, done⟩ := reads
  simp [payloads, toFields, atMostOne, Payload.asRecord, decode_encode, done]

theorem repeated_of_atMostOne {l : List Payload} {o : Option α} (one : atMostOne read l = some o) :
    repeated read l = some o.toList := by
  match l with
  | [] =>
    obtain rfl := Option.some.inj one
    rfl
  | [p] =>
    obtain ⟨v, reads, rfl⟩ := Option.map_eq_some_iff.mp one
    simp [repeated, reads]
  | _ :: _ :: _ => cases one

/-- Of a list there are those that are there one by one. -/
theorem repeated_list {g : β → Message} {h : β → Option α} {l : List β}
    (each : ∀ x ∈ l, atMostOne read (g x).payloads = some (h x)) :
    repeated read (list (l.map g)).payloads = some (l.filterMap h) := by
  rw [payloads_list]
  induction l with
  | nil => rfl
  | cons x rest ih =>
    have first := repeated_of_atMostOne (each x List.mem_cons_self)
    have later := ih fun y hy => each y (List.mem_cons_of_mem _ hy)
    rw [repeated] at first later ⊢
    rw [List.map_cons, List.flatMap_cons, List.mapM_append, first, later]
    cases here : h x with
    | none => simp [here]
    | some v => simp [here]

@[simp] theorem repeated_fixed (l : List UInt64) :
    repeated Payload.asFixed (list (l.map fixed)).payloads =
      some ((l.map UInt64.toNat).filter (· != 0)) := by
  rw [repeated_list fun n _ => atMostOne_fixed n, ← List.filterMap_eq_filter, List.filterMap_map]
  rfl

@[simp] theorem repeated_double (l : List Binary64) :
    repeated Payload.asDouble (list (l.map double)).payloads = some (l.filter (!·.isZero)) := by
  rw [repeated_list fun x _ => atMostOne_double x, ← List.filterMap_eq_filter]
  rfl

theorem repeated_records {read : List Wire.Field → Option α} {g : β → Message} {h : β → α} {l : List β}
    (each : ∀ x ∈ l, Reads read (g x) (h x)) :
    repeated (Payload.asRecord read) (list (l.map g)).payloads = some (l.map h) := by
  rw [repeated_list fun x hx => atMostOne_record (each x hx), ← List.filterMap_eq_map]
  rfl

end Fields
end Message
end Telemetry.Otlp
