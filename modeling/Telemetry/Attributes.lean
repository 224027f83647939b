import Telemetry.Binary64
import Telemetry.Decimal.Number
import Telemetry.Sorted
import Telemetry.Text.Quoted

/-! Attribute sets: finite maps from keys to values, kept in the order of their keys. They are
collected by sorting, and values are looked up by halving. Two sets are equal exactly when they
hold the same values under the same keys, where floats count as their bits. -/
namespace Telemetry

inductive AttributeValue where
  | string (s : String)
  | integer (i : Int64)
  | float (x : Binary64)
  | bool (b : Bool)
deriving Repr, Inhabited

/-- What a hasher is given at a time. -/
inductive HashWrite where
  | byte (b : UInt8)
  | bytes (l : List UInt8)
  | word (n : UInt64)
  | integer (i : Int64)
  | length (n : Nat)
deriving DecidableEq, Repr

/-- A text to a hasher: its bytes, and a byte that no text has. -/
def HashWrite.text (s : String) : List HashWrite := [.bytes s.toUTF8.toList, .byte 0xff]

namespace AttributeValue

/-- Values are equal where both are of one type and hold the same. Floats are compared by their
bits, so that a set with NaN in it equals itself. -/
def equals : AttributeValue → AttributeValue → Bool
  | string a, string b => a == b
  | integer a, integer b => a == b
  | float a, float b => a.bits == b.bits
  | bool a, bool b => a == b
  | _, _ => false

theorem equals_iff {a b : AttributeValue} : a.equals b = true ↔ a = b := by
  cases a <;> cases b
  case float.float x y =>
    obtain ⟨m⟩ := x
    obtain ⟨n⟩ := y
    simp [equals]
  all_goals simp [equals]

instance : DecidableEq AttributeValue := fun _ _ => decidable_of_iff _ equals_iff

/-- What a value is to a hasher: the number of its type before what it holds. -/
def hashWrites : AttributeValue → List HashWrite
  | string s => .byte 0 :: HashWrite.text s
  | integer i => [.byte 1, .integer i]
  | float x => [.byte 2, .word x.bits]
  | bool b => [.byte 3, .byte (if b then 1 else 0)]

def asString? : AttributeValue → Option String
  | string s => some s
  | _ => none

def boolText (b : Bool) : String := if b then "true" else "false"

/-- The value as plain text. -/
def text : AttributeValue → String
  | string s => s
  | integer i => Decimal.intText i.toInt
  | float x => Decimal.numberText .plain x
  | bool b => boolText b

/-- The value with the name of its kind, for diagnostics. -/
def diagnostic : AttributeValue → String
  | string s => "String(" ++ Text.quoted s ++ ")"
  | integer i => "I64(" ++ Decimal.intText i.toInt ++ ")"
  | float x => "F64(" ++ Decimal.numberText .diagnostic x ++ ")"
  | bool b => "Bool(" ++ boolText b ++ ")"

def kindRank : AttributeValue → Nat
  | string _ => 0
  | integer _ => 1
  | float _ => 2
  | bool _ => 3

/-- A total order: by kind, then strings by code points, integers by value, floats by
their bits, and false before true. -/
def order : AttributeValue → AttributeValue → Ordering
  | string a, string b => compare a b
  | integer a, integer b => compare a.toInt b.toInt
  | float a, float b => compare a.bits b.bits
  | bool a, bool b => compare a.toNat b.toNat
  | a, b => compare a.kindRank b.kindRank

end AttributeValue

structure Attribute where
  key : String
  value : AttributeValue
deriving DecidableEq, Repr, Inhabited

def Attribute.hashWrites (x : Attribute) : List HashWrite :=
  HashWrite.text x.key ++ x.value.hashWrites

/-- A set of attributes with one value a key, in the order of the keys. -/
structure Attributes where
  toList : List Attribute
  sorted : toList.Pairwise (fun a b => a.key < b.key)
deriving DecidableEq

namespace Attributes

def empty : Attributes := ⟨[], List.Pairwise.nil⟩

instance : Inhabited Attributes := ⟨empty⟩

def size (a : Attributes) : Nat := a.toList.length

def isEmpty (a : Attributes) : Bool := a.toList.isEmpty

/-- The value of a key, found by halving. -/
def get? (a : Attributes) (key : String) : Option AttributeValue :=
  (Sorted.search? (fun x => compare x.key key) a.toList).map (·.value)

/-- Attributes in the order of their keys, where those of one key stay in their order. -/
def sortByKey (l : List Attribute) : List Attribute :=
  l.mergeSort fun x y => x.key ≤ y.key

/-- Puts an attribute on top of others. It takes the place of the topmost where that has its key. -/
def stack : List Attribute → Attribute → List Attribute
  | [], x => [x]
  | top :: below, x => if top.key = x.key then x :: below else x :: top :: below

/-- Of neighbours with the same key the last. -/
def lastOfEach (l : List Attribute) : List Attribute := (l.foldl stack []).reverse

theorem mem_stack {l : List Attribute} {x y : Attribute} (h : y ∈ stack l x) : y = x ∨ y ∈ l := by
  cases l with
  | nil => simpa [stack] using h
  | cons top below =>
    rw [stack] at h
    split at h
    · exact (List.mem_cons.mp h).imp_right (List.mem_cons_of_mem top)
    · exact List.mem_cons.mp h

theorem pairwise_stack {l : List Attribute} {x : Attribute}
    (falling : l.Pairwise (fun a b => b.key < a.key)) (bound : ∀ a ∈ l, a.key ≤ x.key) :
    (stack l x).Pairwise (fun a b => b.key < a.key) := by
  cases l with
  | nil => simp [stack]
  | cons top below =>
    obtain ⟨under, rest⟩ := List.pairwise_cons.mp falling
    rw [stack]
    split
    · next same => exact List.pairwise_cons.mpr ⟨fun a ha => same ▸ under a ha, rest⟩
    · next other =>
      have less : top.key < x.key := Std.lt_of_le_of_ne (bound top List.mem_cons_self) other
      refine List.pairwise_cons.mpr ⟨fun a ha => ?_, falling⟩
      rcases List.mem_cons.mp ha with rfl | ha
      · exact less
      · exact String.lt_trans (under a ha) less

theorem pairwise_foldl_stack {l kept : List Attribute}
    (sorted : l.Pairwise (fun a b => a.key ≤ b.key))
    (falling : kept.Pairwise (fun a b => b.key < a.key))
    (bound : ∀ a ∈ kept, ∀ x ∈ l, a.key ≤ x.key) :
    (l.foldl stack kept).Pairwise (fun a b => b.key < a.key) := by
  induction l generalizing kept with
  | nil => exact falling
  | cons x rest ih =>
    obtain ⟨first, sorted⟩ := List.pairwise_cons.mp sorted
    refine ih sorted (pairwise_stack falling fun a ha => bound a ha x List.mem_cons_self) ?_
    intro a ha y hy
    rcases mem_stack ha with rfl | ha
    · exact first y hy
    · exact bound a ha y (List.mem_cons_of_mem x hy)

theorem pairwise_sortByKey (l : List Attribute) :
    (sortByKey l).Pairwise (fun a b => a.key ≤ b.key) := by
  have sorted : (sortByKey l).Pairwise fun a b => decide (a.key ≤ b.key) = true := by
    apply List.pairwise_mergeSort
    · intro a b c first second
      exact decide_eq_true (String.le_trans (of_decide_eq_true first) (of_decide_eq_true second))
    · intro a b
      simpa using String.le_total a.key b.key
  exact sorted.imp of_decide_eq_true

theorem pairwise_lastOfEach {l : List Attribute} (sorted : l.Pairwise (fun a b => a.key ≤ b.key)) :
    (lastOfEach l).Pairwise (fun a b => a.key < b.key) :=
  List.pairwise_reverse.mpr (pairwise_foldl_stack sorted .nil fun _ h => absurd h List.not_mem_nil)

/-- The set of a list of attributes, in which the last one of a key wins. -/
def ofList (l : List Attribute) : Attributes :=
  ⟨lastOfEach (sortByKey l), pairwise_lastOfEach (pairwise_sortByKey l)⟩

/-- The union, in which `b` has the last word on a shared key. -/
def merge (a b : Attributes) : Attributes := ofList (a.toList ++ b.toList)

/-- What a set is to a hasher: its size, then each key with its value. -/
def hashWrites (a : Attributes) : List HashWrite :=
  .length a.size :: a.toList.flatMap Attribute.hashWrites

/-- The hash of a set under any way to take writes in. -/
def hash {σ : Type} (write : σ → HashWrite → σ) (start : σ) (a : Attributes) : σ :=
  a.hashWrites.foldl write start

/-- Compares entries pair by pair, the key before the value; an initial part comes first. -/
def orderEntries : List Attribute → List Attribute → Ordering
  | [], [] => .eq
  | [], _ => .lt
  | _, [] => .gt
  | x :: xs, y :: ys =>
    ((compare x.key y.key).then (x.value.order y.value)).then (orderEntries xs ys)

def order (a b : Attributes) : Ordering := orderEntries a.toList b.toList

/-- The set in braces, for diagnostics. -/
def diagnostic (a : Attributes) : String :=
  let entries := a.toList.map fun x => Text.quoted x.key ++ ": " ++ x.value.diagnostic
  "\x7b" ++ String.intercalate ", " entries ++ "\x7d"

end Attributes
end Telemetry
