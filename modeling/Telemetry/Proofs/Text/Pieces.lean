import Mathlib.Data.List.DropRight
import Telemetry.Text.Blank

/-! The pieces of a text. Pieces are what stands between the separators, a cut is at the first
separator or at the last, and trimming takes the blanks off both ends and nothing else. Main
results: `listItems_intercalate`, `mem_listItems`, `cut_eq_some_iff` and `cutLast_eq_some_iff`. -/
namespace Telemetry.Text

variable {sep : Char} {l before after piece : List Char} {pieces : List (List Char)}

theorem split_eq_splitOn (sep : Char) (l : List Char) : split sep l = l.splitOn sep := by
  induction l with
  | nil => rw [split, List.splitOn_nil]
  | cons c rest ih =>
    rw [split, ih, List.splitOn_cons_eq_if_modifyHead]
    by_cases here : c = sep
    · rw [if_pos here, if_pos (beq_iff_eq.mpr here)]
    · rw [if_neg here, if_neg (mt beq_iff_eq.mp here)]
      cases pieces : rest.splitOn sep with
      | nil => exact absurd pieces (List.splitOn_ne_nil sep rest)
      | cons first more => rfl

theorem notMem_of_mem_splitOn (member : piece ∈ l.splitOn sep) : sep ∉ piece := by
  rw [← split_eq_splitOn] at member
  induction l generalizing piece with
  | nil => simp [List.mem_singleton.mp member]
  | cons c rest ih =>
    rw [split] at member
    split at member
    · rcases List.mem_cons.mp member with rfl | later
      · exact List.not_mem_nil
      · exact ih later
    · next other =>
      split at member
      · simp [List.mem_singleton.mp member, Ne.symm other]
      · next first more whole =>
        rw [whole] at ih
        rcases List.mem_cons.mp member with rfl | later
        · simp [Ne.symm other, ih List.mem_cons_self]
        · exact ih (List.mem_cons_of_mem _ later)

theorem cut_append (free : sep ∉ before) :
    cut sep (before ++ sep :: after) = some (before, after) := by
  induction before with
  | nil => simp [cut]
  | cons c rest ih =>
    obtain ⟨other, free⟩ := not_or.mp (mt List.mem_cons.mpr free)
    rw [List.cons_append, cut, if_neg (Ne.symm other), ih free]
    rfl

/-- A text is cut at the first separator. -/
theorem cut_eq_some_iff :
    cut sep l = some (before, after) ↔ l = before ++ sep :: after ∧ sep ∉ before := by
  constructor
  · intro found
    induction l generalizing before with
    | nil => cases found
    | cons c rest ih =>
      rw [cut] at found
      split at found
      · next here =>
        cases found
        exact ⟨by rw [here, List.nil_append], List.not_mem_nil⟩
      · next other =>
        obtain ⟨⟨first, last⟩, later, same⟩ := Option.map_eq_some_iff.mp found
        cases same
        obtain ⟨rfl, free⟩ := ih later
        refine ⟨rfl, fun member => ?_⟩
        rcases List.mem_cons.mp member with here | member
        · exact other here.symm
        · exact free member
  · rintro ⟨rfl, free⟩
    exact cut_append free

theorem cut_eq_none_iff : cut sep l = none ↔ sep ∉ l := by
  induction l with
  | nil => simp [cut]
  | cons c rest ih =>
    rw [cut]
    by_cases here : c = sep
    · simp [here]
    · simp [here, Ne.symm here, ih]

/-- What stands around a text without the separator goes with the parts that it is cut into. -/
theorem cut_padded (front : sep ∉ before) (back : sep ∉ after) : cut sep (before ++ l ++ after) =
    (cut sep l).map fun parts => (before ++ parts.1, parts.2 ++ after) := by
  cases found : cut sep l with
  | none =>
    have free := cut_eq_none_iff.mp found
    exact cut_eq_none_iff.mpr (by simp [front, free, back])
  | some parts =>
    obtain ⟨whole, free⟩ := cut_eq_some_iff.mp found
    refine cut_eq_some_iff.mpr ⟨by simp [whole], ?_⟩
    simp [front, free]

theorem cutLast_eq_none_iff : cutLast sep l = none ↔ sep ∉ l := by
  induction l with
  | nil => simp [cutLast]
  | cons c rest ih =>
    rw [cutLast]
    cases later : cutLast sep rest with
    | some parts =>
      have inside : sep ∈ rest := by
        by_contra free
        cases later.symm.trans (ih.mpr free)
      simp [inside]
    | none =>
      have free := ih.mp later
      by_cases here : c = sep
      · simp [here]
      · simp [here, free, Ne.symm here]

theorem cutLast_append (free : sep ∉ after) :
    cutLast sep (before ++ sep :: after) = some (before, after) := by
  induction before with
  | nil => simp [cutLast, cutLast_eq_none_iff.mpr free]
  | cons c rest ih => rw [List.cons_append, cutLast, ih]

/-- A text is cut at the last separator. -/
theorem cutLast_eq_some_iff :
    cutLast sep l = some (before, after) ↔ l = before ++ sep :: after ∧ sep ∉ after := by
  constructor
  · intro found
    induction l generalizing before with
    | nil => cases found
    | cons c rest ih =>
      rw [cutLast] at found
      split at found
      · next first last later =>
        cases found
        obtain ⟨rfl, free⟩ := ih later
        exact ⟨rfl, free⟩
      · next later =>
        split at found
        · next here =>
          cases found
          exact ⟨by rw [here, List.nil_append], cutLast_eq_none_iff.mp later⟩
        · cases found
  · rintro ⟨rfl, free⟩
    exact cutLast_append free

/-- Nothing but blanks. -/
def Blank (l : List Char) : Prop := ∀ c ∈ l, isBlank c = true

theorem allBlank_iff : allBlank l = true ↔ Blank l := List.all_eq_true

theorem blank_nil : Blank [] := fun _ member => absurd member List.not_mem_nil

/-- A text that starts and ends with a character that is not blank, or is empty. -/
structure Tight (l : List Char) : Prop where
  first : ∀ c, l.head? = some c → isBlank c = false
  last : ∀ c, l.getLast? = some c → isBlank c = false

theorem trim_eq_rdropWhile (l : List Char) : trim l = (l.dropWhile isBlank).rdropWhile isBlank := rfl

theorem trim_eq_nil_iff : trim l = [] ↔ Blank l := by
  rw [trim_eq_rdropWhile, List.rdropWhile_eq_nil_iff]
  constructor
  · intro left
    -- What is left starts with a character that is not blank, so nothing is.
    have none : l.dropWhile isBlank = [] := by
      cases rest : l.dropWhile isBlank with
      | nil => rfl
      | cons c more =>
        have stops := List.head?_dropWhile_not isBlank l
        rw [rest] at stops left
        exact absurd (left c List.mem_cons_self) (by simpa using stops)
    exact List.dropWhile_eq_nil_iff.mp none
  · intro blank c member
    exact blank c ((List.dropWhile_suffix isBlank).subset member)

theorem dropWhile_of_first (first : ∀ c, l.head? = some c → isBlank c = false) :
    l.dropWhile isBlank = l := by
  cases l with
  | nil => rfl
  | cons c rest => exact List.dropWhile_cons_of_neg (by simp [first c rfl])

theorem rdropWhile_eq_self_iff {p : Char → Bool} :
    l.rdropWhile p = l ↔ ∀ c, l.getLast? = some c → p c = false := by
  rw [List.rdropWhile_eq_self_iff]
  constructor
  · intro kept c ends
    have filled : l ≠ [] := by
      rintro rfl
      cases ends
    rw [List.getLast?_eq_some_getLast filled, Option.some_inj] at ends
    simpa [ends] using kept filled
  · intro bare filled
    simp [bare _ (List.getLast?_eq_some_getLast filled)]

/-- What is dropped at the end of a text stands behind its last character that is kept. -/
theorem rdropWhile_append {p : Char → Bool} (last : ∀ c, l.getLast? = some c → p c = false)
    (more : List Char) : (l ++ more).rdropWhile p = l ++ more.rdropWhile p := by
  induction more using List.reverseRecOn with
  | nil => simpa using rdropWhile_eq_self_iff.mpr last
  | append_singleton m c ih =>
    rw [← List.append_assoc]
    by_cases drops : p c = true
    · rw [List.rdropWhile_concat_pos _ _ _ drops, List.rdropWhile_concat_pos _ _ _ drops, ih]
    · rw [List.rdropWhile_concat_neg _ _ _ drops, List.rdropWhile_concat_neg _ _ _ drops,
        List.append_assoc]

theorem trimRight_append (last : ∀ c, l.getLast? = some c → isBlank c = false)
    (more : List Char) : trimRight (l ++ more) = l ++ trimRight more := rdropWhile_append last more

/-- Trimming takes off the blanks around a text, and only those. -/
theorem trim_padded (tight : Tight l) (front : Blank before) (back : Blank after) :
    trim (before ++ l ++ after) = l := by
  cases l with
  | nil =>
    rw [List.append_nil, trim_eq_nil_iff]
    intro c member
    exact (List.mem_append.mp member).elim (front c) (back c)
  | cons c rest =>
    have left : (before ++ (c :: rest) ++ after).dropWhile isBlank = (c :: rest) ++ after := by
      rw [List.append_assoc, List.dropWhile_append_of_pos front]
      exact dropWhile_of_first tight.first
    have right : ((c :: rest) ++ after).rdropWhile isBlank = c :: rest := by
      rw [rdropWhile_append tight.last, List.rdropWhile_eq_nil_iff.mpr back, List.append_nil]
    rw [trim_eq_rdropWhile, left, right]

theorem trim_tight (tight : Tight l) : trim l = l := by
  simpa using trim_padded tight blank_nil blank_nil

theorem tight_trim (l : List Char) : Tight (trim l) where
  first c starts := by
    obtain ⟨last, whole⟩ : trim l <+: l.dropWhile isBlank := List.rdropWhile_prefix _ _
    have stops := List.head?_dropWhile_not isBlank l
    rw [← whole, List.head?_append, starts] at stops
    simpa using stops
  last := rdropWhile_eq_self_iff.mp (List.rdropWhile_idempotent isBlank _)

theorem eq_append_trim (l : List Char) :
    ∃ front back, Blank front ∧ Blank back ∧ l = front ++ trim l ++ back := by
  refine ⟨l.takeWhile isBlank, (l.dropWhile isBlank).rtakeWhile isBlank, ?_, ?_, ?_⟩
  · exact fun c => List.mem_takeWhile_imp
  · exact fun c => List.mem_rtakeWhile_imp
  · rw [trim_eq_rdropWhile, List.append_assoc, List.rdropWhile_append_rtakeWhile,
      List.takeWhile_append_dropWhile]

theorem subset_trim (l : List Char) : trim l ⊆ l := fun _ member =>
  (List.dropWhile_suffix isBlank).subset ((List.rdropWhile_prefix _ _).subset member)

/-- The blanks around a text do not count for its trimmed form. -/
theorem trim_around (front : Blank before) (l : List Char) (back : Blank after) :
    trim (before ++ l ++ after) = trim l := by
  obtain ⟨first, last, blankFirst, blankLast, whole⟩ := eq_append_trim l
  have padded : before ++ l ++ after = (before ++ first) ++ trim l ++ (last ++ after) := by
    conv_lhs => rw [whole]
    simp
  rw [padded]
  refine trim_padded (tight_trim l) (fun c member => ?_) (fun c member => ?_)
  · exact (List.mem_append.mp member).elim (front c) (blankFirst c)
  · exact (List.mem_append.mp member).elim (blankLast c) (back c)

theorem tight_of_forall (bare : ∀ c ∈ l, isBlank c = false) : Tight l where
  first c starts := bare c (List.mem_of_mem_head? starts)
  last c ends := bare c (List.mem_of_getLast? ends)

theorem comma_notMem_of_blank (blank : Blank l) : ',' ∉ l := by
  intro member
  cases blank ',' member

theorem listItems_eq_map_trim (l : List Char) :
    listItems l = ((l.splitOn ',').filter (!allBlank ·)).map trim := by
  rw [listItems, split_eq_splitOn, List.filter_map]
  congr 1
  refine List.filter_congr fun piece _ => ?_
  rw [Bool.eq_iff_iff]
  simp [trim_eq_nil_iff, ← allBlank_iff]

theorem mem_listItems :
    piece ∈ listItems l ↔ piece ≠ [] ∧ ∃ part ∈ l.splitOn ',', trim part = piece := by
  rw [listItems, List.mem_filter, List.mem_map, split_eq_splitOn, and_comm]
  simp

/-- The items of a list are the trimmed pieces that were put between commas. -/
theorem listItems_intercalate (free : ∀ piece ∈ pieces, ',' ∉ piece)
    (filled : ∀ piece ∈ pieces, trim piece ≠ []) :
    listItems ([','].intercalate pieces) = pieces.map trim := by
  cases pieces with
  | nil => rfl
  | cons first more =>
    rw [listItems, split_eq_splitOn, List.splitOn_intercalate ',' free (List.cons_ne_nil _ _)]
    apply List.filter_eq_self.mpr
    intro item member
    obtain ⟨piece, there, rfl⟩ := List.mem_map.mp member
    simpa using filled piece there

end Telemetry.Text
