import Telemetry.Config.Headers
import Telemetry.Proofs.Reading
import Telemetry.Proofs.Resource.AttributeText
import Telemetry.Proofs.Text.Pieces

/-! Header texts: which of them are accepted and as which pairs, and that every list of pairs can be
written as one. Main results: `parse_eq_ok_iff`, `parse_written` and `parse_iff`. -/
namespace Telemetry.Headers

open Text
open Resource (IsKey)

variable {piece front back : List Char} {pair : String × String} {pairs : List (String × String)}
  {raw : String}

/-- What a piece between commas gives: a key that is not blank, the first `=`, and a value. The blanks
around both do not count. -/
def Gives (piece : List Char) (pair : String × String) : Prop :=
  ∃ key value, piece = key ++ '=' :: value ∧ '=' ∉ key ∧ ¬Blank key ∧
    pair = (String.ofList (trim key), String.ofList (trim value))

/-- What can be a value: nothing around it is trimmed, and no comma is in it. -/
structure IsValue (value : String) : Prop where
  tight : Tight value.toList
  plain : ',' ∉ value.toList

/-- A key, `=` and a value, with blanks around all of it. -/
def Writes (pair : String × String) (piece : List Char) : Prop :=
  ∃ front back, Blank front ∧ Blank back ∧
    piece = front ++ (pair.1.toList ++ '=' :: pair.2.toList) ++ back

theorem gives_iff_cut : Gives piece pair ↔ ∃ key value, cut '=' piece = some (key, value) ∧
    ¬Blank key ∧ pair = (String.ofList (trim key), String.ofList (trim value)) := by
  simp only [Gives, cut_eq_some_iff, and_assoc]

theorem blank_append_iff (blank : Blank front) : Blank (front ++ piece) ↔ Blank piece := by
  simp only [Blank, List.forall_mem_append]
  exact and_iff_right blank

theorem equals_notMem_of_blank (blank : Blank piece) : '=' ∉ piece := by
  intro member
  cases blank '=' member

theorem gives_padded (blankFront : Blank front) (blankBack : Blank back) :
    Gives (front ++ piece ++ back) pair ↔ Gives piece pair := by
  have key (k : List Char) : trim (front ++ k) = trim k := by
    simpa using trim_around blankFront k blank_nil
  have value (v : List Char) : trim (v ++ back) = trim v := by
    simpa using trim_around blank_nil v blankBack
  simp only [gives_iff_cut, cut_padded (equals_notMem_of_blank blankFront)
    (equals_notMem_of_blank blankBack), Option.map_eq_some_iff, Prod.exists, Prod.mk.injEq]
  constructor
  · rintro ⟨_, _, ⟨k, v, found, rfl, rfl⟩, named, rfl⟩
    exact ⟨k, v, found, mt (blank_append_iff blankFront).mpr named, by rw [key, value]⟩
  · rintro ⟨k, v, found, named, rfl⟩
    exact ⟨_, _, ⟨k, v, found, rfl, rfl⟩, mt (blank_append_iff blankFront).mp named,
      by rw [key, value]⟩

theorem gives_trim_iff : Gives (trim piece) pair ↔ Gives piece pair := by
  obtain ⟨front, back, blankFront, blankBack, whole⟩ := eq_append_trim piece
  conv_rhs => rw [whole]
  exact (gives_padded blankFront blankBack).symm

theorem readPair_eq_ok_iff : readPair piece = .ok pair ↔ Gives piece pair := by
  rw [gives_iff_cut, readPair]
  constructor
  · intro read
    split at read
    · next key value found =>
      split at read
      · cases read
      · next named =>
        cases read
        exact ⟨key, value, found, mt allBlank_iff.mpr named, rfl⟩
    · cases read
  · rintro ⟨key, value, found, named, rfl⟩
    simp only [found, if_neg (mt allBlank_iff.mp named)]

/-- What is refused is one of the pieces, and the fault shows it. -/
theorem exists_piece_of_read_eq_error {fault : ConfigFault} (refused : read raw = .error fault) :
    ∃ piece ∈ listItems raw.toList, fault = .header (String.ofList piece) := by
  obtain ⟨piece, there, failed⟩ := Reading.exists_mem_of_mapM_eq_error refused
  refine ⟨piece, there, ?_⟩
  rw [readPair] at failed
  split at failed
  · split at failed
    · cases failed
      rfl
    · cases failed
  · cases failed
    rfl

/-- A header text is read piece by piece, without the pieces that are blank. -/
theorem parse_eq_ok_iff : parse raw = .ok pairs ↔
    List.Forall₂ Gives ((raw.toList.splitOn ',').filter (!allBlank ·)) pairs := by
  rw [parse, Reading.mapError_eq_ok_iff, read, Reading.mapM_eq_ok_iff, listItems_eq_map_trim,
    List.forall₂_map_left_iff]
  simp only [readPair_eq_ok_iff, gives_trim_iff]

theorem exists_parse_iff : (∃ pairs, parse raw = .ok pairs) ↔
    ∀ piece ∈ raw.toList.splitOn ',', ¬Blank piece →
      ∃ key value, piece = key ++ '=' :: value ∧ '=' ∉ key ∧ ¬Blank key := by
  simp only [parse, Reading.mapError_eq_ok_iff, read, Reading.exists_mapM_eq_ok_iff,
    readPair_eq_ok_iff, listItems_eq_map_trim, List.forall_mem_map, gives_trim_iff, List.mem_filter,
    Bool.not_eq_true', Bool.eq_false_iff, ne_eq, allBlank_iff]
  refine forall_congr' fun piece => ?_
  constructor
  · intro all there filled
    obtain ⟨pair, key, value, whole, free, named, -⟩ := all ⟨there, filled⟩
    exact ⟨key, value, whole, free, named⟩
  · rintro all ⟨there, filled⟩
    obtain ⟨key, value, whole, free, named⟩ := all there filled
    exact ⟨_, key, value, whole, free, named, rfl⟩

/-- What a piece without a comma gives can be a key and a value. -/
theorem Gives.proper (gives : Gives piece pair) (free : ',' ∉ piece) :
    IsKey pair.1 ∧ IsValue pair.2 := by
  obtain ⟨key, value, rfl, noEquals, named, rfl⟩ := gives
  simp only [List.mem_append, List.mem_cons, not_or] at free
  constructor
  · rw [← trim_eq_nil_iff] at named
    refine ⟨?_, ?_, ?_⟩ <;> rw [String.toList_ofList]
    · exact named
    · exact tight_trim key
    · exact ⟨mt (subset_trim key ·) free.1, mt (subset_trim key ·) noEquals⟩
  · refine ⟨?_, ?_⟩ <;> rw [String.toList_ofList]
    · exact tight_trim value
    · exact mt (subset_trim value ·) free.2.2

theorem proper_parse (parsed : parse raw = .ok pairs) :
    ∀ pair ∈ pairs, IsKey pair.1 ∧ IsValue pair.2 := by
  have free : ∀ piece ∈ (raw.toList.splitOn ',').filter (!allBlank ·), ',' ∉ piece :=
    fun piece member => notMem_of_mem_splitOn (List.mem_filter.mp member).1
  have both := (List.forall₂_and_left _ _).mpr ⟨free, parse_eq_ok_iff.mp parsed⟩
  exact Reading.forall_mem_right both fun _ _ both => both.2.proper both.1

theorem Writes.gives (writes : Writes pair piece) (key : IsKey pair.1) (value : IsValue pair.2) :
    Gives piece pair := by
  obtain ⟨front, back, blankFront, blankBack, rfl⟩ := writes
  rw [gives_padded blankFront blankBack]
  refine ⟨_, _, rfl, key.plain.2, key.notBlank, ?_⟩
  rw [trim_tight key.tight, trim_tight value.tight, String.ofList_toList, String.ofList_toList]

theorem Writes.comma_notMem (writes : Writes pair piece) (key : IsKey pair.1)
    (value : IsValue pair.2) : ',' ∉ piece := by
  obtain ⟨front, back, blankFront, blankBack, rfl⟩ := writes
  simp only [List.mem_append, List.mem_cons, not_or]
  exact ⟨⟨comma_notMem_of_blank blankFront, key.plain.1, by decide, value.plain⟩,
    comma_notMem_of_blank blankBack⟩

theorem Gives.notBlank (gives : Gives piece pair) : ¬Blank piece := by
  obtain ⟨key, value, rfl, -, -, -⟩ := gives
  exact fun blank => equals_notMem_of_blank blank (by simp)

theorem exists_written (pairs : List (String × String)) :
    ∃ pieces, List.Forall₂ Writes pairs pieces := by
  refine ⟨pairs.map fun pair => pair.1.toList ++ '=' :: pair.2.toList, ?_⟩
  rw [List.forall₂_map_right_iff, List.forall₂_same]
  exact fun pair _ => ⟨[], [], blank_nil, blank_nil, by simp⟩

/-- However a list of pairs is written, it is read back. -/
theorem parse_written {pieces : List (List Char)}
    (proper : ∀ pair ∈ pairs, IsKey pair.1 ∧ IsValue pair.2)
    (written : List.Forall₂ Writes pairs pieces) :
    parse (String.ofList ([','].intercalate pieces)) = .ok pairs := by
  have both := (List.forall₂_and_left pairs pieces).mpr ⟨proper, written⟩
  have free : ∀ piece ∈ pieces, ',' ∉ piece :=
    Reading.forall_mem_right both fun _ _ both => both.2.comma_notMem both.1.1 both.1.2
  have given : List.Forall₂ Gives pieces pairs :=
    both.flip.imp fun _ _ both => both.2.gives both.1.1 both.1.2
  have filled : ∀ piece ∈ pieces, (!allBlank piece) = true :=
    Reading.forall_mem_right given.flip fun pair piece (gives : Gives piece pair) => by
      rw [Bool.not_eq_true', Bool.eq_false_iff, ne_eq, allBlank_iff]
      exact gives.notBlank
  rw [parse_eq_ok_iff, String.toList_ofList]
  cases pieces with
  | nil =>
    cases given
    exact .nil
  | cons first more =>
    rw [List.splitOn_intercalate ',' free (List.cons_ne_nil _ _), List.filter_eq_self.mpr filled]
    exact given

/-- A header text is accepted exactly when every piece of it that is not blank has a key that is not
blank before its first `=`. It then gives one pair for each of these pieces, in their order, whose key
and value are trimmed and without a separator. Every list of such pairs can be written, and however it
is written, with blanks around the commas, it is read back, pairs with the same key too. -/
theorem parse_iff (raw : String) (pairs : List (String × String)) :
    ((∃ pairs, parse raw = .ok pairs) ↔ ∀ piece ∈ raw.toList.splitOn ',', ¬Blank piece →
      ∃ key value, piece = key ++ '=' :: value ∧ '=' ∉ key ∧ ¬Blank key) ∧
    (parse raw = .ok pairs ↔
      List.Forall₂ Gives ((raw.toList.splitOn ',').filter (!allBlank ·)) pairs) ∧
    (parse raw = .ok pairs → ∀ pair ∈ pairs, IsKey pair.1 ∧ IsValue pair.2) ∧
    ((∀ pair ∈ pairs, IsKey pair.1 ∧ IsValue pair.2) →
      (∃ pieces, List.Forall₂ Writes pairs pieces) ∧
        ∀ pieces, List.Forall₂ Writes pairs pieces →
          parse (String.ofList ([','].intercalate pieces)) = .ok pairs) :=
  ⟨exists_parse_iff, parse_eq_ok_iff, proper_parse, fun proper =>
    ⟨exists_written pairs, fun _ => parse_written proper⟩⟩

/-- A key that comes twice, a value without a character, and one that starts with the separator. -/
def repeated : List (String × String) := [("a", "1 2"), ("b", "=3"), ("a", "")]

def repeatedPieces : List (List Char) := ["a=1 2\t".toList, "  b==3".toList, "a=".toList]

theorem writes_repeated : List.Forall₂ Writes repeated repeatedPieces := by
  have spaces : Blank [' ', ' '] := allBlank_iff.mp rfl
  have tab : Blank ['\t'] := allBlank_iff.mp rfl
  exact .cons ⟨[], _, blank_nil, tab, rfl⟩
    (.cons ⟨_, [], spaces, blank_nil, rfl⟩ (.cons ⟨[], [], blank_nil, blank_nil, rfl⟩ .nil))

/-- Blanks in other places and a blank piece make no difference. -/
theorem parse_iff_repeated :
    parse "\t a = 1 2,, b ==3,\u3000a=" = .ok repeated ∧
      (∀ pair ∈ repeated, IsKey pair.1 ∧ IsValue pair.2) ∧
      parse "a=1 2\t,  b==3,a=" = .ok repeated := by
  have parsed : parse "\t a = 1 2,, b ==3,\u3000a=" = .ok repeated := by rfl
  obtain ⟨-, -, proper, written⟩ := parse_iff "\t a = 1 2,, b ==3,\u3000a=" repeated
  exact ⟨parsed, proper parsed, (written (proper parsed)).2 repeatedPieces writes_repeated⟩

end Telemetry.Headers
