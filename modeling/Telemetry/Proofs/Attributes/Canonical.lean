import Telemetry.Attributes
import Telemetry.Proofs.Sorted
import Telemetry.Proofs.Text.Utf8

/-! Attribute sets as finite maps. What is collected from a list has of each key the last value, it
is found by halving, and a set is determined by its values, so that equal maps are equal sets with
equal hashes. Main results: `get?_ofList`, `ext_get?` and `ofList_canonical`. -/
namespace Telemetry.Attributes

variable {a b : Attributes} {l m : List Attribute} {x y : Attribute} {k : String} {v : AttributeValue}

/-- The attribute at which a key has the last word in a list. -/
def last? (l : List Attribute) (k : String) : Option Attribute := l.reverse.find? (·.key == k)

/-- The last value that a list has for a key. -/
def lastValue? (l : List Attribute) (k : String) : Option AttributeValue := (last? l k).map (·.value)

theorem last?_concat : last? (l ++ [x]) k = if x.key = k then some x else last? l k := by
  by_cases here : x.key = k <;> simp [last?, here]

theorem last?_append : last? (l ++ m) k = (last? m k).or (last? l k) := by
  rw [last?, List.reverse_append, List.find?_append]
  rfl

theorem key_of_last? (found : last? l k = some x) : x.key = k := by
  simpa using List.find?_some found

theorem mem_of_last? (found : last? l k = some x) : x ∈ l :=
  List.mem_reverse.mp (List.mem_of_find?_eq_some found)

theorem lastValue?_eq_some_iff : lastValue? l k = some v ↔ last? l k = some ⟨k, v⟩ := by
  constructor
  · intro shown
    obtain ⟨x, found, rfl⟩ := Option.map_eq_some_iff.mp shown
    rw [found, ← key_of_last? found]
  · intro found
    rw [lastValue?, found]
    rfl

/-- Only the attributes of a key and their order matter to it. -/
theorem last?_eq_of_filter (same : l.filter (·.key = k) = m.filter (·.key = k)) :
    last? l k = last? m k := by
  have groups (l : List Attribute) : last? l k = (l.filter (·.key = k)).getLast? := by
    rw [← List.head?_reverse, ← List.filter_reverse, List.head?_filter]
    rfl
  rw [groups, groups, same]

theorem mem_stack_iff (falling : l.Pairwise fun x y => y.key < x.key)
    (bound : ∀ y ∈ l, y.key ≤ x.key) : y ∈ stack l x ↔ y = x ∨ y ∈ l ∧ y.key ≠ x.key := by
  cases l with
  | nil => simp [stack]
  | cons top below =>
    obtain ⟨under, _⟩ := List.pairwise_cons.mp falling
    have differ {z : Attribute} (less : z.key < x.key) : z.key ≠ x.key :=
      fun same => String.lt_irrefl _ (same ▸ less)
    rw [stack]
    by_cases same : top.key = x.key
    · rw [if_pos same, List.mem_cons]
      refine or_congr_right ⟨fun there => ?_, ?_⟩
      · exact ⟨List.mem_cons_of_mem top there, differ (same ▸ under y there)⟩
      · rintro ⟨there, other⟩
        exact (List.mem_cons.mp there).resolve_left fun at_top => other (at_top ▸ same)
    · rw [if_neg same, List.mem_cons]
      refine or_congr_right ⟨fun there => ⟨there, ?_⟩, And.left⟩
      have less := Std.lt_of_le_of_ne (bound top List.mem_cons_self) same
      rcases List.mem_cons.mp there with rfl | there
      · exact same
      · exact differ (String.lt_trans (under y there) less)

/-- The stack of a list in order has the last attribute of each key. -/
theorem mem_foldl_stack (sorted : l.Pairwise fun x y => x.key ≤ y.key) :
    y ∈ l.foldl stack [] ↔ last? l y.key = some y := by
  -- From the end: what comes last has the last word and is on top of the stack.
  induction l using List.reverseRecOn generalizing y with
  | nil => simp [last?]
  | append_singleton l x ih =>
    obtain ⟨sorted, _, before⟩ := List.pairwise_append.mp sorted
    have falling := pairwise_foldl_stack sorted .nil fun _ none => absurd none List.not_mem_nil
    have bound : ∀ z ∈ l.foldl stack [], z.key ≤ x.key := fun z there =>
      before z (mem_of_last? ((ih sorted).mp there)) x List.mem_cons_self
    rw [List.foldl_append, List.foldl_cons, List.foldl_nil, mem_stack_iff falling bound, ih sorted,
      last?_concat]
    by_cases here : x.key = y.key
    · simp [here, eq_comm]
    · have other : y ≠ x := fun same => here (same ▸ rfl)
      simp [here, other, Ne.symm here]

theorem filter_sortByKey : (sortByKey l).filter (·.key = k) = l.filter (·.key = k) := by
  have order : (fun x y : Attribute => decide (x.key ≤ y.key)) =
      fun x y => (compare x.key y.key).isLE := by
    funext x y
    rw [Bool.eq_iff_iff, decide_eq_true_eq]
    exact (isLE_compareOfLessAndEq String.le_antisymm String.not_le String.le_total).symm
  rw [sortByKey, order]
  exact Sorted.filter_mergeSort Attribute.key l k

theorem mem_ofList : x ∈ (ofList l).toList ↔ last? l x.key = some x := by
  refine List.mem_reverse.trans ?_
  rw [mem_foldl_stack (pairwise_sortByKey l), last?_eq_of_filter filter_sortByKey]

theorem get?_eq_some_iff : a.get? k = some v ↔ ⟨k, v⟩ ∈ a.toList := by
  have sorted : a.toList.Pairwise fun x y => (compare y.key k).isLE → compare x.key k = .lt := by
    refine a.sorted.imp fun {x y} less reached => ?_
    have before : compare x.key y.key = .lt := compareOfLessAndEq_eq_lt.mpr less
    exact Std.TransCmp.lt_of_lt_of_isLE before reached
  rw [get?, Option.map_eq_some_iff]
  constructor
  · rintro ⟨x, found, rfl⟩
    obtain ⟨there, here⟩ := (Sorted.search?_eq_some_iff sorted).mp found
    rwa [← Std.LawfulEqCmp.eq_of_compare here]
  · intro there
    exact ⟨_, (Sorted.search?_eq_some_iff sorted).mpr ⟨there, Std.ReflCmp.compare_self⟩, rfl⟩

theorem get?_ofList : (ofList l).get? k = lastValue? l k := by
  apply Option.ext
  intro v
  rw [get?_eq_some_iff, mem_ofList, lastValue?_eq_some_iff]

/-- A set is determined by its values. -/
theorem ext_get? (same : ∀ k, a.get? k = b.get? k) : a = b := by
  have members (x : Attribute) : x ∈ a.toList ↔ x ∈ b.toList := by
    rw [← get?_eq_some_iff, ← get?_eq_some_iff, same]
  have lists := Sorted.eq_of_mem_iff (fun x y less more => String.lt_asymm less more) a.sorted
    b.sorted members
  obtain ⟨l, _⟩ := a
  obtain ⟨m, _⟩ := b
  subst lists
  rfl

theorem eq_iff_get? : a = b ↔ ∀ k, a.get? k = b.get? k :=
  ⟨fun same _ => same ▸ rfl, ext_get?⟩

/-- In whatever order the entries of a set are listed, the last value of a key is the set's. -/
theorem lastValue?_perm (same : l.Perm a.toList) : lastValue? l k = a.get? k := by
  apply Option.ext
  intro v
  rw [lastValue?_eq_some_iff, get?_eq_some_iff]
  constructor
  · exact fun found => same.subset (mem_of_last? found)
  · intro there
    have listed : ⟨k, v⟩ ∈ l.reverse := List.mem_reverse.mpr (same.symm.subset there)
    have known : (last? l k).isSome = true :=
      List.find?_isSome.mpr ⟨⟨k, v⟩, listed, beq_self_eq_true k⟩
    obtain ⟨x, found⟩ := Option.isSome_iff_exists.mp known
    have here := key_of_last? found
    have entry := get?_eq_some_iff.mpr (same.subset (mem_of_last? found))
    rw [here, get?_eq_some_iff.mpr there] at entry
    rw [found, ← here, Option.some.inj entry]

theorem ofList_perm (same : l.Perm a.toList) : ofList l = a :=
  ext_get? fun _ => get?_ofList.trans (lastValue?_perm same)

theorem ofList_eq_iff : ofList l = ofList m ↔ ∀ k, lastValue? l k = lastValue? m k := by
  simp only [eq_iff_get?, get?_ofList]

/-- Keys are in the order of their bytes. -/
theorem pairwise_bytes (a : Attributes) :
    a.toList.Pairwise fun x y => x.key.toUTF8.toList < y.key.toUTF8.toList :=
  a.sorted.imp Text.toUTF8_lt

section Hash

variable {u w : List HashWrite}

theorem text_append_inj {s t : String}
    (same : HashWrite.text s ++ u = HashWrite.text t ++ w) : s = t ∧ u = w := by
  simp only [HashWrite.text, List.cons_append, List.nil_append, List.cons.injEq,
    HashWrite.bytes.injEq, true_and] at same
  obtain ⟨bytes, rest⟩ := same
  have decoded := congrArg Text.decode? bytes
  rw [Text.decode?_toUTF8, Text.decode?_toUTF8] at decoded
  exact ⟨Option.some.inj decoded, rest⟩

/-- Values that differ are told apart by a hasher, whatever comes behind them. -/
theorem value_append_inj {v v' : AttributeValue} (same : v.hashWrites ++ u = v'.hashWrites ++ w) :
    v = v' ∧ u = w := by
  cases v <;> cases v'
  case string.string s t =>
    obtain ⟨text, rest⟩ := text_append_inj (List.cons.inj same).2
    exact ⟨congrArg _ text, rest⟩
  case bool.bool b c => cases b <;> cases c <;> simp_all [AttributeValue.hashWrites]
  case float.float x y => cases x; cases y; simp_all [AttributeValue.hashWrites]
  all_goals simp_all [AttributeValue.hashWrites]

theorem entry_append_inj (same : x.hashWrites ++ u = y.hashWrites ++ w) : x = y ∧ u = w := by
  rw [Attribute.hashWrites, Attribute.hashWrites, List.append_assoc, List.append_assoc] at same
  obtain ⟨key, same⟩ := text_append_inj same
  obtain ⟨value, rest⟩ := value_append_inj same
  cases x
  cases y
  cases key
  cases value
  exact ⟨rfl, rest⟩

theorem flatMap_hashWrites_inj
    (same : l.flatMap Attribute.hashWrites = m.flatMap Attribute.hashWrites) : l = m := by
  induction l generalizing m with
  | nil =>
    cases m with
    | nil => rfl
    | cons y rest => simp [Attribute.hashWrites, HashWrite.text] at same
  | cons x l ih =>
    cases m with
    | nil => simp [Attribute.hashWrites, HashWrite.text] at same
    | cons y m =>
      rw [List.flatMap_cons, List.flatMap_cons] at same
      obtain ⟨rfl, rest⟩ := entry_append_inj same
      rw [ih rest]

/-- Sets have equal hashes under every hasher only where they are equal. -/
theorem hash_eq_iff :
    (∀ (σ : Type) (write : σ → HashWrite → σ) (start : σ), a.hash write start = b.hash write start) ↔
      a = b := by
  constructor
  · intro same
    have writes : a.hashWrites = b.hashWrites := by
      simpa [hash] using same (List HashWrite) (fun l w => w :: l) []
    have lists := flatMap_hashWrites_inj (List.cons.inj writes).2
    obtain ⟨l, _⟩ := a
    obtain ⟨m, _⟩ := b
    subst lists
    rfl
  · rintro rfl σ write start
    rfl

end Hash

/-- What is collected from a list is sorted by the bytes of the keys and has of each key the last
value, which is found by halving. It is the same set, and has the same hash, as what is collected
from another list exactly where both say the same of every key; floats say the same where they
have the same bits. A set's own entries make up the set again, in any order. -/
theorem ofList_canonical (l : List Attribute) :
    ((ofList l).toList.Pairwise fun x y => x.key.toUTF8.toList < y.key.toUTF8.toList) ∧
      (∀ k, (ofList l).get? k = lastValue? l k) ∧
      (∀ m, (ofList l == ofList m) = true ↔ ∀ k, lastValue? l k = lastValue? m k) ∧
      (∀ m, (∀ (σ : Type) (write : σ → HashWrite → σ) (start : σ),
        (ofList l).hash write start = (ofList m).hash write start) ↔
          ∀ k, lastValue? l k = lastValue? m k) ∧
      (∀ k x y, (ofList [⟨k, .float x⟩] == ofList [⟨k, .float y⟩]) = (x.bits == y.bits)) ∧
      ∀ m, m.Perm (ofList l).toList → ofList m = ofList l := by
  refine ⟨pairwise_bytes _, fun k => get?_ofList, fun m => ?_, fun m => ?_, fun k x y => ?_,
    fun m => ofList_perm⟩
  · rw [beq_iff_eq, ofList_eq_iff]
  · rw [hash_eq_iff, ofList_eq_iff]
  · rw [Bool.eq_iff_iff, beq_iff_eq, beq_iff_eq, ofList_eq_iff]
    constructor
    · intro same
      have values : x = y := by simpa [lastValue?, last?] using same k
      exact congrArg Binary64.bits values
    · intro bits
      have same : x = y := by
        cases x
        cases y
        exact congrArg _ bits
      simp [same]

/-- Two lists of the same last values. -/
def repeated : List Attribute := [⟨"b", .integer 1⟩, ⟨"a", .float .nan⟩, ⟨"b", .float .zero⟩]

def overridden : List Attribute := [⟨"a", .float .nan⟩, ⟨"b", .bool true⟩, ⟨"b", .float .zero⟩]

theorem ofList_canonical_repeated :
    (ofList repeated).get? "b" = some (.float .zero) ∧
      (ofList repeated == ofList overridden) = true ∧
      (ofList [⟨"b", .float .zero⟩] == ofList [⟨"b", .float ⟨0x8000000000000000⟩⟩]) = false ∧
      ofList (ofList repeated).toList.reverse = ofList repeated := by
  obtain ⟨_, found, equal, _, floats, again⟩ := ofList_canonical repeated
  refine ⟨(found "b").trans (by decide), (equal overridden).mpr fun k => ?_,
    (floats _ _ _).trans (by decide), again _ (List.reverse_perm _)⟩
  by_cases b : "b" = k
  · simp [repeated, overridden, lastValue?, last?, b]
  · by_cases a : "a" = k <;> simp [repeated, overridden, lastValue?, last?, b, a]

end Telemetry.Attributes
