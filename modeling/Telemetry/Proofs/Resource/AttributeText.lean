import Telemetry.Proofs.Reading
import Telemetry.Proofs.Text.Percent
import Telemetry.Proofs.Text.Pieces
import Telemetry.Resource

/-! Resource attribute texts: which of them are accepted, and that every list of pairs can be
written as one. Main results: `rawAttributes_accepted_iff` and `readAttributes_written`. -/
namespace Telemetry

namespace Resource

open Text

variable {escape : Char → Char → UInt8 → Prop} {piece key value : List Char} {decoded : String}
  {x : Attribute}

/-- What a piece between commas says: a key that is not blank, `=`, and a value which spells a
text, where `escape` tells what may stand behind a percent sign. -/
structure IsPair (escape : Char → Char → UInt8 → Prop) (piece key value : List Char)
    (decoded : String) : Prop where
  whole : trim piece = key ++ '=' :: value
  first : '=' ∉ key
  named : ¬Blank key
  spells : Spells escape (trim value) decoded.toUTF8.toList

/-- Every piece that is not blank is a pair. -/
def WellFormed (escape : Char → Char → UInt8 → Prop) (raw : List Char) : Prop :=
  ∀ piece ∈ raw.splitOn ',', ¬Blank piece → ∃ key value decoded, IsPair escape piece key value decoded

theorem IsPair.readable (isPair : IsPair TwoDigits piece key value decoded) :
    IsPair Escape piece key value decoded where
  whole := isPair.whole
  first := isPair.first
  named := isPair.named
  spells := (spells_twoDigits_iff.mp isPair.spells).1

theorem readPair_eq_ok_iff : readPair (trim piece) = .ok x ↔
    ∃ key value decoded, IsPair Escape piece key value decoded ∧
      x = ⟨String.ofList (trim key), .string decoded⟩ := by
  rw [readPair]
  constructor
  · intro read
    split at read
    · cases read
    · next key value found =>
      obtain ⟨whole, first⟩ := cut_eq_some_iff.mp found
      simp only at read
      split at read
      · cases read
      · next filled =>
        split at read
        · cases read
        · next decoded shown =>
          cases read
          refine ⟨key, value, decoded, ⟨whole, first, ?_, percentDecode_eq_some_iff.mp shown⟩, rfl⟩
          rw [← trim_eq_nil_iff]
          simpa using filled
  · rintro ⟨key, value, decoded, ⟨whole, first, named, spells⟩, rfl⟩
    rw [← trim_eq_nil_iff, ← List.isEmpty_iff] at named
    simp only [whole, cut_append first, if_neg named, percentDecode_eq_some_iff.mpr spells]

theorem exists_readAttributes_iff {raw : String} :
    (∃ pairs, readAttributes raw = .ok pairs) ↔ WellFormed Escape raw.toList := by
  simp only [readAttributes, Reading.mapError_eq_ok_iff, Reading.exists_mapM_eq_ok_iff,
    mem_listItems]
  constructor
  · intro all piece there filled
    obtain ⟨x, read⟩ := all (trim piece) ⟨mt trim_eq_nil_iff.mp filled, piece, there, rfl⟩
    obtain ⟨key, value, decoded, isPair, _⟩ := readPair_eq_ok_iff.mp read
    exact ⟨key, value, decoded, isPair⟩
  · rintro wellFormed _ ⟨filled, piece, there, rfl⟩
    obtain ⟨key, value, decoded, isPair⟩ := wellFormed piece there (mt trim_eq_nil_iff.mpr filled)
    exact ⟨_, readPair_eq_ok_iff.mpr ⟨key, value, decoded, isPair, rfl⟩⟩

/-- A text is accepted, or refused with itself and what is wrong with it. -/
theorem readAttributes_eq_error {raw : String} {e : Error} (refused : readAttributes raw = .error e) :
    ∃ fault, e = .invalidResourceAttributes raw fault := by
  rw [readAttributes] at refused
  cases read : (listItems raw.toList).mapM readPair with
  | ok pairs =>
    rw [read] at refused
    cases refused
  | error fault =>
    rw [read] at refused
    cases refused
    exact ⟨fault, rfl⟩

/-- Nowhere in a value does a plus sign stand behind a percent sign. -/
def Unsigned (raw : List Char) : Prop :=
  ∀ piece ∈ raw.splitOn ',', ∀ key value, trim piece = key ++ '=' :: value → '=' ∉ key →
    ¬['%', '+'] <:+: trim value

theorem wellFormed_twoDigits_iff {raw : List Char} :
    WellFormed TwoDigits raw ↔ WellFormed Escape raw ∧ Unsigned raw := by
  constructor
  · intro wellFormed
    refine ⟨fun piece there filled => ?_, fun piece there key value whole first => ?_⟩
    · obtain ⟨key, value, decoded, isPair⟩ := wellFormed piece there filled
      exact ⟨key, value, decoded, isPair.readable⟩
    · have filled : ¬Blank piece := by
        rw [← trim_eq_nil_iff, whole]
        simp
      obtain ⟨key', value', decoded, whole', first', _, spells⟩ := wellFormed piece there filled
      -- A piece is cut in one way.
      have same := cut_eq_some_iff.mpr ⟨whole, first⟩
      rw [cut_eq_some_iff.mpr ⟨whole', first'⟩] at same
      cases same
      exact (spells_twoDigits_iff.mp spells).2
  · rintro ⟨wellFormed, unsigned⟩ piece there filled
    obtain ⟨key, value, decoded, whole, first, named, spells⟩ := wellFormed piece there filled
    have free := unsigned piece there key value whole first
    exact ⟨key, value, decoded, whole, first, named, spells_twoDigits_iff.mpr ⟨spells, free⟩⟩

/-- What can be a key: nothing around it is trimmed, and no separator is in it. -/
structure IsKey (key : String) : Prop where
  filled : key.toList ≠ []
  tight : Tight key.toList
  plain : ',' ∉ key.toList ∧ '=' ∉ key.toList

/-- An encoded form of a value has no comma and no blank left. -/
structure Encoded (value : String) (text : List Char) : Prop where
  encodes : Encodes value.toUTF8.toList (text.flatMap String.utf8EncodeChar)
  bare : ∀ c ∈ text, c ≠ ',' ∧ isBlank c = false

theorem encoded_percentEncode (value : String) : Encoded value (percentEncode value.toUTF8.toList) :=
  ⟨encodes_percentEncode _, fun _ => bare_of_mem_percentEncode⟩

/-- A pair with an encoded form of its value, and blanks around it. -/
def Writes (pair : String × String) (piece : List Char) : Prop :=
  ∃ front text back, Blank front ∧ Encoded pair.2 text ∧ Blank back ∧
    piece = front ++ (pair.1.toList ++ '=' :: text) ++ back

variable {pair : String × String}

theorem IsKey.notBlank {key : String} (isKey : IsKey key) : ¬Blank key.toList := by
  intro blank
  obtain ⟨c, rest, starts⟩ := List.exists_cons_of_ne_nil isKey.filled
  have bare := isKey.tight.first c (by rw [starts]; rfl)
  rw [blank c (starts ▸ List.mem_cons_self)] at bare
  cases bare

theorem Writes.isPair (writes : Writes pair piece) (key : IsKey pair.1) :
    ∃ value, IsPair TwoDigits piece pair.1.toList value pair.2 := by
  obtain ⟨front, text, back, blankFront, encoded, blankBack, rfl⟩ := writes
  have bare : Tight text := tight_of_forall fun c member => (encoded.bare c member).2
  have tight : Tight (pair.1.toList ++ '=' :: text) := by
    constructor
    · intro c starts
      rw [List.head?_append_of_ne_nil _ key.filled] at starts
      exact key.tight.first c starts
    · intro c ends
      rw [List.getLast?_append_cons] at ends
      rcases List.mem_cons.mp (List.mem_of_getLast? ends) with rfl | member
      · rfl
      · exact (encoded.bare c member).2
  refine ⟨text, trim_padded tight blankFront blankBack, key.plain.2, key.notBlank, ?_⟩
  rw [trim_tight bare]
  exact spells_of_encodes encoded.encodes

theorem Writes.comma_notMem (writes : Writes pair piece) (key : IsKey pair.1) : ',' ∉ piece := by
  obtain ⟨front, text, back, blankFront, encoded, blankBack, rfl⟩ := writes
  simp only [List.mem_append, List.mem_cons, not_or]
  refine ⟨⟨comma_notMem_of_blank blankFront, key.plain.1, by decide, fun member => ?_⟩,
    comma_notMem_of_blank blankBack⟩
  exact (encoded.bare ',' member).1 rfl

/-- Every list of pairs can be written, and however it is written it is read back. -/
theorem readAttributes_written {pairs : List (String × String)} (keys : ∀ pair ∈ pairs, IsKey pair.1) :
    (∃ pieces, List.Forall₂ Writes pairs pieces) ∧
      ∀ pieces, List.Forall₂ Writes pairs pieces →
        readAttributes (String.ofList ([','].intercalate pieces)) =
          .ok (pairs.map fun pair => ⟨pair.1, .string pair.2⟩) := by
  constructor
  · refine ⟨pairs.map fun pair => pair.1.toList ++ '=' :: percentEncode pair.2.toUTF8.toList, ?_⟩
    rw [List.forall₂_map_right_iff, List.forall₂_same]
    intro pair _
    exact ⟨[], _, [], blank_nil, encoded_percentEncode pair.2, blank_nil, by simp⟩
  · intro pieces written
    have both := (List.forall₂_and_left pairs pieces).mpr ⟨keys, written⟩
    have free : ∀ piece ∈ pieces, ',' ∉ piece :=
      Reading.forall_mem_right both fun _ _ both => both.2.comma_notMem both.1
    have filled : ∀ piece ∈ pieces, trim piece ≠ [] := by
      refine Reading.forall_mem_right both fun pair piece both => ?_
      obtain ⟨value, isPair⟩ := both.2.isPair both.1
      rw [isPair.whole]
      simp
    rw [readAttributes, Reading.mapError_eq_ok_iff, Reading.mapM_eq_ok_iff, String.toList_ofList,
      listItems_intercalate free filled, List.forall₂_map_left_iff, List.forall₂_map_right_iff]
    refine both.flip.imp fun piece pair both => ?_
    obtain ⟨value, isPair⟩ := both.2.isPair both.1
    refine readPair_eq_ok_iff.mpr ⟨_, value, pair.2, isPair.readable, ?_⟩
    rw [trim_tight both.1.tight, String.ofList_toList]

/-- A key that comes twice, a value without a character, and characters of two bytes that one
value keeps and another one has replaced. -/
def mixed : List (String × String) := [("a", "é, %"), ("k b", ""), ("a", "=ü")]

def mixedPieces : List (List Char) := [" a=é%2c%20%25 ".toList, "k b=".toList, "\ta==%C3%bc".toList]

theorem isKey_mixed : ∀ pair ∈ mixed, IsKey pair.1 := by
  have a : IsKey "a" := ⟨by decide, ⟨by rintro _ ⟨⟩; rfl, by rintro _ ⟨⟩; rfl⟩, by decide⟩
  have kb : IsKey "k b" := ⟨by decide, ⟨by rintro _ ⟨⟩; rfl, by rintro _ ⟨⟩; rfl⟩, by decide⟩
  intro pair member
  simp only [mixed, List.mem_cons, List.not_mem_nil, or_false] at member
  rcases member with rfl | rfl | rfl
  · exact a
  · exact kb
  · exact a

theorem writes_mixed : List.Forall₂ Writes mixed mixedPieces := by
  have space : Blank [' '] := fun _ member => List.mem_singleton.mp member ▸ rfl
  have tab : Blank ['\t'] := fun _ member => List.mem_singleton.mp member ▸ rfl
  have bare {text : List Char} (all : text.all (fun c => c != ',' && !isBlank c) = true) :
      ∀ c ∈ text, c ≠ ',' ∧ isBlank c = false := by simpa using all
  refine .cons ⟨[' '], "é%2c%20%25".toList, [' '], space, ⟨?_, bare rfl⟩, space, rfl⟩ ?_
  · have comma : TwoDigits '2' 'c' 0x2c := ⟨2, 12, .inl rfl, .inl rfl, rfl⟩
    have blank : TwoDigits '2' '0' 0x20 := ⟨2, 0, .inl rfl, .inl rfl, rfl⟩
    have percent : TwoDigits '2' '5' 0x25 := ⟨2, 5, .inl rfl, .inl rfl, rfl⟩
    rw [toList_toUTF8]
    exact .kept (by decide) (.kept (by decide)
      (.replaced comma (.replaced blank (.replaced percent .nil))))
  refine .cons ⟨[], [], [], blank_nil, ⟨?_, bare rfl⟩, blank_nil, rfl⟩ ?_
  · rw [toList_toUTF8]
    exact .nil
  refine .cons ⟨['\t'], "=%C3%bc".toList, [], tab, ⟨?_, bare rfl⟩, blank_nil, rfl⟩ .nil
  have first : TwoDigits 'C' '3' 0xc3 := ⟨12, 3, .inr rfl, .inl rfl, rfl⟩
  have second : TwoDigits 'b' 'c' 0xbc := ⟨11, 12, .inl rfl, .inl rfl, rfl⟩
  rw [toList_toUTF8]
  exact .kept (by decide) (.replaced first (.replaced second .nil))

theorem readAttributes_written_mixed :
    (∀ pair ∈ mixed, IsKey pair.1) ∧ List.Forall₂ Writes mixed mixedPieces ∧
      readAttributes " a=é%2c%20%25 ,k b=,\ta==%C3%bc" =
        .ok [⟨"a", .string "é, %"⟩, ⟨"k b", .string ""⟩, ⟨"a", .string "=ü"⟩] := by
  have read := (readAttributes_written isKey_mixed).2 mixedPieces writes_mixed
  exact ⟨isKey_mixed, writes_mixed, read⟩

end Resource

namespace ResourceBuilder

open Text Resource

/-- The pairs of an attribute text, if there is one. -/
def readText : Option String → Except Error (List Attribute)
  | none => .ok []
  | some raw => readAttributes raw

theorem build_eq_ok_iff {b : ResourceBuilder} {r : Resource} : b.build = .ok r ↔
    ∃ pairs, readText b.rawAttributes = .ok pairs ∧ ⟨.ofList (b.sources pairs)⟩ = r := by
  have build : b.build =
      (readText b.rawAttributes).map fun pairs => ⟨.ofList (b.sources pairs)⟩ := by
    rw [ResourceBuilder.build]
    cases b.rawAttributes <;> rfl
  rw [build, Reading.map_eq_ok_iff]

theorem exists_build_withRawAttributes {b : ResourceBuilder} {raw : String} :
    (∃ r, (b.withRawAttributes raw).build = .ok r) ↔ ∃ pairs, readAttributes raw = .ok pairs := by
  simp only [build_eq_ok_iff]
  constructor
  · rintro ⟨_, pairs, read, _⟩
    exact ⟨pairs, read⟩
  · rintro ⟨pairs, read⟩
    exact ⟨_, pairs, read, rfl⟩

/-- A resource is built from an attribute text exactly when every piece of it that is not blank is
a pair whose value spells a text, where behind a percent sign stand two hexadecimal digits, or a
plus sign and one. Any other text is refused. So the accepted texts in which two digits are
everywhere are those in which no value has a plus sign there. -/
theorem rawAttributes_accepted_iff (b : ResourceBuilder) (raw : String) :
    ((∃ r, (b.withRawAttributes raw).build = .ok r) ↔ WellFormed Escape raw.toList) ∧
      ((∃ r, (b.withRawAttributes raw).build = .ok r) ∨
        ∃ fault, (b.withRawAttributes raw).build = .error (.invalidResourceAttributes raw fault)) ∧
      (WellFormed TwoDigits raw.toList ↔
        (∃ r, (b.withRawAttributes raw).build = .ok r) ∧ Unsigned raw.toList) := by
  rw [exists_build_withRawAttributes]
  refine ⟨exists_readAttributes_iff, ?_, ?_⟩
  · cases read : readAttributes raw with
    | ok pairs => exact .inl ⟨pairs, rfl⟩
    | error e =>
      obtain ⟨fault, rfl⟩ := readAttributes_eq_error read
      refine .inr ⟨fault, ?_⟩
      rw [build]
      exact congrArg (Except.map _) read
  · rw [exists_readAttributes_iff]
    exact wellFormed_twoDigits_iff

/-- A plus sign and a digit are read as a byte here, and are not two digits. -/
theorem signed_escape_accepted :
    (∃ r, (({} : ResourceBuilder).withRawAttributes "key=%+4").build = .ok r) ∧
      ¬WellFormed TwoDigits "key=%+4".toList := by
  constructor
  · exact ⟨_, rfl⟩
  · rw [wellFormed_twoDigits_iff]
    rintro ⟨_, unsigned⟩
    apply unsigned _ List.mem_cons_self "key".toList "%+4".toList rfl (by decide)
    exact ⟨[], ['4'], rfl⟩

end ResourceBuilder
end Telemetry
