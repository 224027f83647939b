import Mathlib.Data.List.Basic
import Mathlib.Data.List.Induction
import Telemetry.Sorted

/-! Sorted lists of distinct elements: they have the same elements, each of them once. A list is
a permutation of its groups under such a list of keys, and putting its elements under their keys one
after the other makes each group one entry. Halving finds what is there. Main results:
`flatMap_filter_perm`, `foldl_upsert` and `search?_eq_some_iff`. -/
namespace Telemetry.Sorted

open Std

variable {α κ : Type} {cmp : α → α → Ordering}

theorem mem_insert [LawfulEqCmp cmp] {x y : α} {l : List α} :
    y ∈ insert cmp x l ↔ y = x ∨ y ∈ l := by
  induction l with
  | nil => simp [insert]
  | cons z rest ih =>
    unfold insert
    cases place : cmp x z with
    | lt => simp
    | eq => simp [LawfulEqCmp.eq_of_compare place]
    | gt => simp [ih, or_left_comm]

theorem pairwise_insert [TransCmp cmp] [LawfulEqCmp cmp] (x : α) {l : List α}
    (sorted : l.Pairwise (cmp · · = .lt)) : (insert cmp x l).Pairwise (cmp · · = .lt) := by
  induction l with
  | nil => simp [insert]
  | cons z rest ih =>
    obtain ⟨first, others⟩ := List.pairwise_cons.mp sorted
    unfold insert
    cases place : cmp x z with
    | lt =>
      refine List.pairwise_cons.mpr ⟨fun y hy => ?_, sorted⟩
      rcases List.mem_cons.mp hy with rfl | hy
      · exact place
      · exact TransCmp.lt_trans place (first y hy)
    | eq => exact sorted
    | gt =>
      refine List.pairwise_cons.mpr ⟨fun y hy => ?_, ih others⟩
      rcases mem_insert.mp hy with rfl | hy
      · exact OrientedCmp.lt_of_gt place
      · exact first y hy

theorem pairwise_distinct [TransCmp cmp] [LawfulEqCmp cmp] (l : List α) :
    (distinct cmp l).Pairwise (cmp · · = .lt) := by
  unfold distinct
  induction l using List.reverseRecOn with
  | nil => exact .nil
  | append_singleton l x ih =>
    rw [List.foldl_append]
    exact pairwise_insert x ih

theorem nodup_distinct [TransCmp cmp] [LawfulEqCmp cmp] (l : List α) : (distinct cmp l).Nodup :=
  (@pairwise_distinct α cmp _ _ l).imp fun {x y} less same => by
    have equal : cmp x y = .eq := same ▸ ReflCmp.compare_self
    cases equal.symm.trans less

theorem mem_distinct [LawfulEqCmp cmp] {x : α} {l : List α} : x ∈ distinct cmp l ↔ x ∈ l := by
  unfold distinct
  induction l using List.reverseRecOn with
  | nil => simp
  | append_singleton l y ih =>
    rw [List.foldl_append]
    refine mem_insert.trans ?_
    rw [ih]
    simp [or_comm]

/-- Strictly sorted lists with the same elements are equal. -/
theorem eq_of_mem_iff {r : α → α → Prop} (asymm : ∀ x y, r x y → ¬ r y x) {l m : List α}
    (left : l.Pairwise r) (right : m.Pairwise r) (same : ∀ x, x ∈ l ↔ x ∈ m) : l = m := by
  have apart {x y : α} (before : r x y) : x ≠ y := by
    rintro rfl
    exact asymm x x before before
  have members : l.Perm m :=
    (List.perm_ext_iff_of_nodup (left.imp apart) (right.imp apart)).mpr same
  exact members.eq_of_pairwise (fun x y _ _ less more => absurd more (asymm x y less)) left right

/-- The order of a list plays no part. -/
theorem distinct_perm [TransCmp cmp] [LawfulEqCmp cmp] {l m : List α} (same : l.Perm m) :
    distinct cmp l = distinct cmp m := by
  have asymm (x y : α) (less : cmp x y = .lt) : ¬ cmp y x = .lt := fun more => by
    cases less.symm.trans (OrientedCmp.gt_of_lt more)
  refine eq_of_mem_iff asymm (pairwise_distinct l) (pairwise_distinct m) fun x => ?_
  rw [mem_distinct, mem_distinct]
  exact same.mem_iff

/-- The groups of other keys are those of the elements that have another key. -/
theorem flatMap_filter_of_notMem [DecidableEq κ] (f : α → κ) {k : κ} {keys : List κ}
    (absent : k ∉ keys) (l : List α) :
    (keys.flatMap fun j => (l.filter fun x => !decide (f x = k)).filter (f · = j)) =
      keys.flatMap fun j => l.filter (f · = j) := by
  refine List.flatMap_congr fun j hj => ?_
  rw [List.filter_filter]
  refine List.filter_congr fun x _ => ?_
  by_cases here : f x = j
  · have other : j ≠ k := fun same => absent (same ▸ hj)
    simp [here, other]
  · simp [here]

/-- The groups of a list under different keys, one after the other, have its elements. -/
theorem flatMap_filter_perm [DecidableEq κ] (f : α → κ) {keys : List κ} (different : keys.Nodup)
    {l : List α} (complete : ∀ x ∈ l, f x ∈ keys) :
    (keys.flatMap fun k => l.filter (f · = k)).Perm l := by
  induction keys generalizing l with
  | nil => rw [List.eq_nil_iff_forall_not_mem.mpr fun x hx => List.not_mem_nil (complete x hx)]; rfl
  | cons k rest ih =>
    obtain ⟨absent, different⟩ := List.nodup_cons.mp different
    rw [List.flatMap_cons, ← flatMap_filter_of_notMem f absent]
    refine (List.Perm.append_left _ (ih different fun x hx => ?_)).trans
      (List.filter_append_perm (f · = k) l)
    simp only [List.mem_filter, Bool.not_eq_true', decide_eq_false_iff_not] at hx
    exact (List.mem_cons.mp (complete x hx.1)).resolve_left hx.2

section Upsert

variable {ν : Type} {k : κ} {new : ν} {f : ν → ν}

theorem map_fst_upsert {cmp : κ → κ → Ordering} (l : List (κ × ν)) :
    (upsert cmp k new f l).map Prod.fst = insert cmp k (l.map Prod.fst) := by
  induction l with
  | nil => rfl
  | cons entry rest ih =>
    obtain ⟨j, v⟩ := entry
    simp only [upsert, List.map_cons, insert]
    cases place : cmp k j with
    | lt => rfl
    | eq => rfl
    | gt => exact congrArg (j :: ·) ih

/-- An entry of the result was there before, or it is that of the key. -/
theorem mem_upsert {cmp : κ → κ → Ordering} [TransCmp cmp] [LawfulEqCmp cmp] {l : List (κ × ν)}
    (sorted : (l.map Prod.fst).Pairwise (cmp · · = .lt)) {entry : κ × ν}
    (member : entry ∈ upsert cmp k new f l) :
    entry.1 ≠ k ∧ entry ∈ l ∨ (∃ v, (k, v) ∈ l ∧ entry = (k, f v)) ∨
      k ∉ l.map Prod.fst ∧ entry = (k, f new) := by
  have irrefl (j : κ) : cmp j j ≠ .lt := by
    have equal : cmp j j = .eq := ReflCmp.compare_self
    simp [equal]
  induction l with
  | nil => exact .inr (.inr ⟨List.not_mem_nil, List.mem_singleton.mp member⟩)
  | cons first rest ih =>
    obtain ⟨j, v⟩ := first
    rw [List.map_cons] at sorted
    obtain ⟨below, others⟩ := List.pairwise_cons.mp sorted
    have apart (p : κ × ν) (hp : p ∈ rest) : cmp j p.1 = .lt := below p.1 (List.mem_map_of_mem hp)
    unfold upsert at member
    cases place : cmp k j with
    | lt =>
      rw [place] at member
      have less (p : κ × ν) (hp : p ∈ (j, v) :: rest) : cmp k p.1 = .lt := by
        rcases List.mem_cons.mp hp with rfl | later
        · exact place
        · exact TransCmp.lt_trans place (apart p later)
      rcases List.mem_cons.mp member with rfl | there
      · refine .inr (.inr ⟨fun known => ?_, rfl⟩)
        obtain ⟨p, hp, same⟩ := List.mem_map.mp known
        exact irrefl k (same ▸ less p hp)
      · exact .inl ⟨fun same => irrefl k (same ▸ less entry there), there⟩
    | eq =>
      rw [place] at member
      obtain rfl := LawfulEqCmp.eq_of_compare place
      rcases List.mem_cons.mp member with rfl | there
      · exact .inr (.inl ⟨v, List.mem_cons_self, rfl⟩)
      · refine .inl ⟨fun same => irrefl k ?_, List.mem_cons_of_mem _ there⟩
        exact same ▸ apart entry there
    | gt =>
      rw [place] at member
      have other : j ≠ k := by
        rintro rfl
        have equal : cmp j j = .eq := ReflCmp.compare_self
        cases equal.symm.trans place
      rcases List.mem_cons.mp member with rfl | there
      · exact .inl ⟨other, List.mem_cons_self⟩
      · rcases ih others there with ⟨different, kept⟩ | ⟨w, known, rfl⟩ | ⟨absent, rfl⟩
        · exact .inl ⟨different, List.mem_cons_of_mem _ kept⟩
        · exact .inr (.inl ⟨w, List.mem_cons_of_mem _ known, rfl⟩)
        · refine .inr (.inr ⟨fun known => ?_, rfl⟩)
          rcases List.mem_cons.mp known with same | later
          · exact other same.symm
          · exact absent later

/-- What the elements of one group make of the value that the first of them starts with. -/
def gather (new : α → ν) (f : α → ν → ν) : List α → Option ν
  | [] => none
  | x :: rest => some ((x :: rest).foldl (fun v y => f y v) (new x))

theorem gather_concat (new : α → ν) (f : α → ν → ν) (l : List α) (x : α) :
    gather new f (l ++ [x]) = some (f x ((gather new f l).getD (new x))) := by
  cases l with
  | nil => rfl
  | cons y rest => simp [gather, List.foldl_append]

/-- Entries are determined by their keys where each has the value of its key. -/
theorem eq_filterMap_of_values {entries : List (κ × ν)} {value : κ → Option ν}
    (each : ∀ p ∈ entries, value p.1 = some p.2) :
    entries = (entries.map Prod.fst).filterMap fun k => (value k).map (k, ·) := by
  induction entries with
  | nil => rfl
  | cons p rest ih =>
    have others := ih fun q hq => each q (List.mem_cons_of_mem p hq)
    rw [List.map_cons, List.filterMap_cons, each p List.mem_cons_self]
    exact congrArg (p :: ·) others

section Fold

variable (cmp : κ → κ → Ordering) (key : α → κ) (new : α → ν) (f : α → ν → ν)

theorem map_fst_foldl_upsert (l : List α) :
    (l.foldl (fun entries x => upsert cmp (key x) (new x) (f x) entries) []).map Prod.fst =
      distinct cmp (l.map key) := by
  unfold distinct
  induction l using List.reverseRecOn with
  | nil => rfl
  | append_singleton l x ih =>
    rw [List.map_append, List.foldl_append, List.foldl_append, ← ih]
    exact map_fst_upsert _

variable [DecidableEq κ] [TransCmp cmp] [LawfulEqCmp cmp]

theorem value_foldl_upsert (l : List α) :
    ∀ p ∈ l.foldl (fun entries x => upsert cmp (key x) (new x) (f x) entries) [],
      gather new f (l.filter (key · = p.1)) = some p.2 := by
  induction l using List.reverseRecOn with
  | nil =>
    intro p member
    cases member
  | append_singleton l x ih =>
    have keys := map_fst_foldl_upsert cmp key new f l
    intro p member
    rw [List.foldl_append] at member
    have sorted : ((l.foldl (fun entries x => upsert cmp (key x) (new x) (f x) entries) []).map
        Prod.fst).Pairwise (cmp · · = .lt) := by
      rw [keys]
      exact pairwise_distinct _
    rw [List.filter_append]
    rcases mem_upsert sorted member with ⟨other, kept⟩ | ⟨v, known, rfl⟩ | ⟨absent, rfl⟩
    · have none : [x].filter (fun y => decide (key y = p.1)) = [] := by simp [Ne.symm other]
      rw [none, List.append_nil]
      exact ih p kept
    · have own : [x].filter (fun y => decide (key y = key x)) = [x] := by simp
      rw [own, gather_concat, ih _ known]
      rfl
    · have own : [x].filter (fun y => decide (key y = key x)) = [x] := by simp
      have fresh : l.filter (fun y => decide (key y = key x)) = [] := by
        rw [keys, mem_distinct, List.mem_map] at absent
        refine List.filter_eq_nil_iff.mpr fun y hy same => absent ⟨y, hy, ?_⟩
        exact of_decide_eq_true same
      rw [own, fresh]
      rfl

/-- Elements put under their keys one after the other make one entry of each group, in the order
of the keys. -/
theorem foldl_upsert (l : List α) :
    l.foldl (fun entries x => upsert cmp (key x) (new x) (f x) entries) [] =
      (distinct cmp (l.map key)).filterMap fun k =>
        (gather new f (l.filter (key · = k))).map (k, ·) := by
  rw [← map_fst_foldl_upsert cmp key new f l]
  exact eq_filterMap_of_values (value_foldl_upsert cmp key new f l)

/-- A group gathers its elements when each is put behind the others. -/
theorem gather_concat_singleton {l : List α} (some : l ≠ []) :
    gather (fun _ => []) (fun x group => group ++ [x]) l = .some l := by
  induction l using List.reverseRecOn with
  | nil => exact absurd rfl some
  | append_singleton l x ih =>
    rw [gather_concat]
    cases l with
    | nil => rfl
    | cons y rest =>
      rw [ih (List.cons_ne_nil y rest)]
      rfl

/-- Elements put behind those of their key make the groups that a filter for each key makes. -/
theorem foldl_upsert_concat (l : List α) :
    l.foldl (fun groups x => upsert cmp (key x) [] (· ++ [x]) groups) [] =
      (distinct cmp (l.map key)).map fun k => (k, l.filter (key · = k)) := by
  rw [foldl_upsert cmp key (fun _ => []) (fun x group => group ++ [x])]
  refine .trans (List.filterMap_congr fun k known => ?_) (congrFun List.filterMap_eq_map _)
  obtain ⟨x, member, own⟩ := List.mem_map.mp (mem_distinct.mp known)
  have grouped : x ∈ l.filter (key · = k) := List.mem_filter.mpr ⟨member, decide_eq_true own⟩
  rw [gather_concat_singleton (List.ne_nil_of_mem grouped)]
  rfl

end Fold

end Upsert

section Stable

variable {cmp : κ → κ → Ordering} [TransCmp cmp] (f : α → κ)

theorem isLE_trans_key (a b c : α) (first : (cmp (f a) (f b)).isLE = true)
    (second : (cmp (f b) (f c)).isLE = true) : (cmp (f a) (f c)).isLE = true :=
  TransCmp.isLE_trans first second

theorem isLE_total_key (a b : α) : ((cmp (f a) (f b)).isLE || (cmp (f b) (f a)).isLE) = true := by
  have swapped : cmp (f b) (f a) = (cmp (f a) (f b)).swap := OrientedCmp.eq_swap
  rw [swapped]
  cases cmp (f a) (f b) <;> rfl

theorem isLE_self (k : κ) : (cmp k k).isLE = true := by
  have equal : cmp k k = .eq := ReflCmp.compare_self
  rw [equal]
  rfl

variable [DecidableEq κ]

/-- Sorting by keys is stable: it leaves the elements of one key in their order. -/
theorem filter_mergeSort (l : List α) (k : κ) :
    (l.mergeSort fun a b => (cmp (f a) (f b)).isLE).filter (f · = k) = l.filter (f · = k) := by
  have equal : (l.filter (f · = k)).Pairwise fun a b => (cmp (f a) (f b)).isLE := by
    apply List.pairwise_of_forall_mem_list
    intro a ha b hb
    simp only [List.mem_filter, decide_eq_true_eq] at ha hb
    rw [ha.2, hb.2]
    exact isLE_self k
  have sorted := List.sublist_mergeSort (isLE_trans_key f) (isLE_total_key f) equal
    List.filter_sublist
  have within := sorted.filter (f · = k)
  rw [List.filter_filter] at within
  simp only [Bool.and_self] at within
  have perm := (List.mergeSort_perm l fun a b => (cmp (f a) (f b)).isLE).filter (f · = k)
  exact (within.eq_of_length perm.length_eq.symm).symm

variable [LawfulEqCmp cmp]

/-- In the order of the keys, the elements of the least key come first. -/
theorem filter_append_filter_of_least {k : κ} {l : List α}
    (sorted : l.Pairwise fun a b => (cmp (f a) (f b)).isLE) (least : ∀ x ∈ l, (cmp k (f x)).isLE) :
    l.filter (f · = k) ++ l.filter (fun x => !decide (f x = k)) = l := by
  induction l with
  | nil => rfl
  | cons x rest ih =>
    obtain ⟨first, sorted⟩ := List.pairwise_cons.mp sorted
    by_cases here : f x = k
    · have later := ih sorted fun y hy => least y (List.mem_cons_of_mem _ hy)
      simp only [List.filter_cons, here, decide_true, if_true, Bool.not_true, Bool.false_eq_true,
        if_false, List.cons_append, later]
    · have none (y : α) (hy : y ∈ x :: rest) : f y ≠ k := by
        intro same
        rcases List.mem_cons.mp hy with rfl | hy
        · exact here same
        · have below := first y hy
          rw [same] at below
          have equal := OrientedCmp.isLE_antisymm below (least x List.mem_cons_self)
          exact here (LawfulEqCmp.eq_of_compare equal)
      have own : (x :: rest).filter (f · = k) = [] := by
        rw [List.filter_eq_nil_iff]
        intro y hy
        simpa using none y hy
      have others : (x :: rest).filter (fun y => !decide (f y = k)) = x :: rest := by
        rw [List.filter_eq_self]
        intro y hy
        simpa using none y hy
      rw [own, others, List.nil_append]

/-- A list in the order of its keys is the groups of its keys, one after the other. -/
theorem flatMap_filter_of_sorted {keys : List κ} (increasing : keys.Pairwise (cmp · · = .lt))
    {l : List α} (sorted : l.Pairwise fun a b => (cmp (f a) (f b)).isLE)
    (complete : ∀ x ∈ l, f x ∈ keys) :
    (keys.flatMap fun k => l.filter (f · = k)) = l := by
  induction keys generalizing l with
  | nil => rw [List.eq_nil_iff_forall_not_mem.mpr fun x hx => List.not_mem_nil (complete x hx)]; rfl
  | cons k rest ih =>
    obtain ⟨below, increasing⟩ := List.pairwise_cons.mp increasing
    have absent : k ∉ rest := by
      intro again
      have less := below k again
      have equal : cmp k k = .eq := ReflCmp.compare_self
      cases equal.symm.trans less
    have least (x : α) (hx : x ∈ l) : (cmp k (f x)).isLE := by
      rcases List.mem_cons.mp (complete x hx) with same | later
      · rw [same]
        exact isLE_self k
      · rw [below _ later]
        rfl
    have remaining := ih increasing (l := l.filter fun x => !decide (f x = k))
      (sorted.sublist List.filter_sublist) fun x hx => by
        simp only [List.mem_filter, Bool.not_eq_true', decide_eq_false_iff_not] at hx
        exact (List.mem_cons.mp (complete x hx.1)).resolve_left hx.2
    rw [List.flatMap_cons, ← flatMap_filter_of_notMem f absent, remaining]
    exact filter_append_filter_of_least f sorted least

/-- The groups of a list, in the order of their keys, are the list sorted by its keys. -/
theorem flatMap_filter_eq_mergeSort {keys : List κ} (increasing : keys.Pairwise (cmp · · = .lt))
    {l : List α} (complete : ∀ x ∈ l, f x ∈ keys) :
    (keys.flatMap fun k => l.filter (f · = k)) =
      l.mergeSort fun a b => (cmp (f a) (f b)).isLE := by
  have sorted : (l.mergeSort fun a b => (cmp (f a) (f b)).isLE).Pairwise fun a b =>
      (cmp (f a) (f b)).isLE := List.pairwise_mergeSort (isLE_trans_key f) (isLE_total_key f) l
  have known : ∀ x ∈ l.mergeSort fun a b => (cmp (f a) (f b)).isLE, f x ∈ keys :=
    fun x hx => complete x (List.mem_mergeSort.mp hx)
  rw [← flatMap_filter_of_sorted f increasing sorted known]
  exact List.flatMap_congr fun k _ => (filter_mergeSort f l k).symm

end Stable

section Search

variable {place : α → Ordering} {l : List α}

theorem searchFrom_some {base size : Nat} {x : α} (found : searchFrom place l base size = some x) :
    x ∈ l ∧ place x = .eq := by
  fun_induction searchFrom place l base size with
  | case1 base size single =>
    obtain ⟨there, here⟩ := Option.filter_eq_some_iff.mp found
    exact ⟨List.mem_of_getElem? there, eq_of_beq here⟩
  | case2 base size more half behind ih => exact ih found

/-- Halving keeps the part in which an element is that stands at its place. -/
theorem searchFrom_eq_some (sorted : l.Pairwise fun x y => (place y).isLE → place x = .lt)
    {base size i : Nat} {x : α} (low : base ≤ i) (high : i < base + size)
    (inside : base + size ≤ l.length) (there : l[i]? = some x) (here : place x = .eq) :
    searchFrom place l base size = some x := by
  have before {j k : Nat} {y z : α} (less : j < k) (first : l[j]? = some y) (second : l[k]? = some z)
      (reached : (place z).isLE) : place y = .lt := by
    obtain ⟨hj, rfl⟩ := List.getElem?_eq_some_iff.mp first
    obtain ⟨hk, rfl⟩ := List.getElem?_eq_some_iff.mp second
    exact List.pairwise_iff_getElem.mp sorted j k hj hk less reached
  fun_induction searchFrom place l base size with
  | case1 base size single =>
    have place : base = i := by omega
    subst place
    simp [there, here]
  | case2 base size more half behind ih =>
    have room : base + half < l.length := by omega
    have middle : l[base + half]? = some l[base + half] := List.getElem?_eq_getElem room
    by_cases beyond : place l[base + half] = .gt
    · have holds : behind = true := by simp [behind, middle, beyond]
      have left : i < base + half := by
        rcases Nat.lt_trichotomy i (base + half) with less | same | more
        · exact less
        · rw [same, middle] at there
          cases there
          cases here.symm.trans beyond
        · cases (before more middle there (by rw [here]; rfl)).symm.trans beyond
      rw [dif_pos holds] at ih
      rw [if_pos holds]
      exact ih low (by omega) (by omega)
    · have fails : ¬ behind = true := by simp [behind, middle, beyond]
      have right : base + half ≤ i := by
        refine Nat.le_of_not_lt fun less => ?_
        have reached : (place l[base + half]).isLE = true := Ordering.isLE_iff_ne_gt.mpr beyond
        cases (before less there middle reached).symm.trans here
      rw [dif_neg fails] at ih
      rw [if_neg fails]
      exact ih right (by omega) (by omega)

/-- What stands at its place in a sorted list is found there, and nothing else is. -/
theorem search?_eq_some_iff (sorted : l.Pairwise fun x y => (place y).isLE → place x = .lt) {x : α} :
    search? place l = some x ↔ x ∈ l ∧ place x = .eq := by
  constructor
  · exact searchFrom_some
  · rintro ⟨member, here⟩
    obtain ⟨i, inside, rfl⟩ := List.mem_iff_getElem.mp member
    exact searchFrom_eq_some sorted (Nat.zero_le i) (by omega) (by omega)
      (List.getElem?_eq_getElem inside) here

end Search

end Telemetry.Sorted
