import Mathlib.Data.Finset.Card
import Telemetry.Proofs.Attributes.Canonical

/-! Merging attribute sets is the union of their maps in which the second one has the last word. The
laws follow from the values, since a set is determined by them. Main result: `merge_laws`. -/
namespace Telemetry.Attributes

variable {a b c : Attributes} {k : String}

def keys (a : Attributes) : List String := a.toList.map (·.key)

theorem mem_keys : k ∈ a.keys ↔ ∃ v, a.get? k = some v := by
  simp only [keys, List.mem_map, get?_eq_some_iff]
  constructor
  · rintro ⟨x, there, rfl⟩
    exact ⟨x.value, there⟩
  · rintro ⟨v, there⟩
    exact ⟨_, there, rfl⟩

theorem nodup_keys (a : Attributes) : a.keys.Nodup := by
  refine List.pairwise_map.mpr (a.sorted.imp fun {x y} less same => ?_)
  exact String.lt_irrefl y.key (same ▸ less)

theorem size_eq_card (a : Attributes) : a.size = a.keys.toFinset.card := by
  rw [List.toFinset_card_of_nodup a.nodup_keys, keys, List.length_map, size]

@[simp] theorem get?_empty : empty.get? k = none := by
  simp [get?, empty, Sorted.search?, Sorted.searchFrom]

/-- The second set has the last word. -/
@[simp] theorem get?_merge : (a.merge b).get? k = (b.get? k).or (a.get? k) := by
  rw [merge, get?_ofList, lastValue?, last?_append, Option.map_or]
  exact congrArg₂ _ (lastValue?_perm (.refl _)) (lastValue?_perm (.refl _))

theorem merge_assoc (a b c : Attributes) : (a.merge b).merge c = a.merge (b.merge c) :=
  ext_get? fun _ => by simp only [get?_merge, Option.or_assoc]

theorem merge_self (a : Attributes) : a.merge a = a :=
  ext_get? fun _ => by simp

theorem empty_merge (a : Attributes) : empty.merge a = a :=
  ext_get? fun _ => by simp

theorem merge_empty (a : Attributes) : a.merge empty = a :=
  ext_get? fun _ => by simp

/-- The order of two sets plays no part where, and only where, they do not contradict each other. -/
theorem merge_comm_iff : a.merge b = b.merge a ↔
    ∀ k v w, a.get? k = some v → b.get? k = some w → v = w := by
  simp only [eq_iff_get?, get?_merge]
  refine forall_congr' fun k => ?_
  cases a.get? k <;> cases b.get? k <;> simp [eq_comm]

theorem keys_merge : (a.merge b).keys.toFinset = a.keys.toFinset ∪ b.keys.toFinset := by
  ext k
  simp only [List.mem_toFinset, Finset.mem_union, mem_keys, get?_merge]
  cases a.get? k <;> cases b.get? k <;> simp

/-- Merging is the union of two maps in which the second one has the last word: it is associative,
a set adds nothing to itself nor the empty set to any, the order matters exactly where a shared key
has different values, and the size is the number of keys that either has. -/
theorem merge_laws (a b c : Attributes) :
    (∀ k, (a.merge b).get? k = (b.get? k).or (a.get? k)) ∧
      (a.merge b).merge c = a.merge (b.merge c) ∧ a.merge a = a ∧
      empty.merge a = a ∧ a.merge empty = a ∧
      (a.merge b = b.merge a ↔ ∀ k v w, a.get? k = some v → b.get? k = some w → v = w) ∧
      (a.merge b).size = (a.keys.toFinset ∪ b.keys.toFinset).card := by
  refine ⟨fun k => get?_merge, merge_assoc a b c, merge_self a, empty_merge a, merge_empty a,
    merge_comm_iff, ?_⟩
  rw [size_eq_card, keys_merge]

end Telemetry.Attributes
