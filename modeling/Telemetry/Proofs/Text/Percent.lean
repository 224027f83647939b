import Mathlib.Tactic.IntervalCases
import Telemetry.Proofs.Text.Utf8
import Telemetry.Text.Percent
import Telemetry.Text.Blank
import Telemetry.Text.Quoted

/-! Percent-encoding, told by what may stand behind a percent sign. A reader takes what spells the
bytes of a text, and reads back every text of which any bytes were replaced. Main results:
`percentDecode_eq_some_iff` and `spells_of_encodes`. -/
namespace Telemetry.Text

variable {c : Char} {n : Nat} {l text : List Char} {bytes value : List UInt8}

/-- A hexadecimal digit, in either case, and its value. -/
def HexDigit (c : Char) (n : Nat) : Prop :=
  ['0', '1', '2', '3', '4', '5', '6', '7', '8', '9', 'a', 'b', 'c', 'd', 'e', 'f'][n]? = some c ∨
    ['0', '1', '2', '3', '4', '5', '6', '7', '8', '9', 'A', 'B', 'C', 'D', 'E', 'F'][n]? = some c

theorem HexDigit.lt (digit : HexDigit c n) : n < 16 := by
  rcases digit with small | capital
  · exact (List.getElem?_eq_some_iff.mp small).1
  · exact (List.getElem?_eq_some_iff.mp capital).1

theorem hexValue_eq_some_iff : hexValue c = some n ↔ HexDigit c n := by
  have within {low high : Char} (inside : (decide (low ≤ c) && decide (c ≤ high)) = true) :
      low.toNat ≤ c.toNat ∧ c.toNat ≤ high.toNat := by
    obtain ⟨above, below⟩ := (Bool.and_eq_true _ _).mp inside
    exact ⟨of_decide_eq_true above, of_decide_eq_true below⟩
  constructor
  · intro read
    rw [hexValue] at read
    rw [← Char.ofNat_toNat c]
    split_ifs at read with decimal small capital
    all_goals
      obtain rfl := Option.some.inj read
    · obtain ⟨low, high⟩ : 48 ≤ c.toNat ∧ c.toNat ≤ 57 := within decimal
      generalize c.toNat = k at *
      interval_cases k <;> exact .inl rfl
    · obtain ⟨low, high⟩ : 97 ≤ c.toNat ∧ c.toNat ≤ 102 := within small
      generalize c.toNat = k at *
      interval_cases k <;> exact .inl rfl
    · obtain ⟨low, high⟩ : 65 ≤ c.toNat ∧ c.toNat ≤ 70 := within capital
      generalize c.toNat = k at *
      interval_cases k <;> exact .inr rfl
  · intro digit
    have small := digit.lt
    rcases digit with here | here
    all_goals
      interval_cases n <;> (obtain rfl := Option.some.inj here; rfl)

theorem HexDigit.ne_of_hexValue (digit : HexDigit c n) {d : Char} (none : hexValue d = none) : c ≠ d := by
  rintro rfl
  rw [hexValue_eq_some_iff.mpr digit] at none
  cases none

/-- Two digits, and the byte that they are in base 16. -/
def TwoDigits (a b : Char) (byte : UInt8) : Prop :=
  ∃ high low, HexDigit a high ∧ HexDigit b low ∧ byte = UInt8.ofNat (16 * high + low)

/-- A plus sign and one digit, which count as a byte too. -/
def SignedDigit (a b : Char) (byte : UInt8) : Prop :=
  a = '+' ∧ ∃ low, HexDigit b low ∧ byte = UInt8.ofNat low

/-- All that is read as a byte behind a percent sign. -/
def Escape (a b : Char) (byte : UInt8) : Prop := TwoDigits a b byte ∨ SignedDigit a b byte

theorem byteOfHex_eq_some_iff {a b : Char} {byte : UInt8} : byteOfHex a b = some byte ↔ Escape a b byte := by
  have sign : hexValue '+' = none := rfl
  rw [byteOfHex.eq_def]
  split
  · simp only [Option.map_eq_some_iff, hexValue_eq_some_iff]
    constructor
    · rintro ⟨low, digit, rfl⟩
      exact .inr ⟨rfl, low, digit, rfl⟩
    · rintro (⟨_, _, high, _⟩ | ⟨_, low, digit, rfl⟩)
      · exact absurd rfl (high.ne_of_hexValue sign)
      · exact ⟨low, digit, rfl⟩
  · next other =>
    simp only [Option.bind_eq_bind, Option.bind_eq_some_iff, Option.pure_def, Option.some.injEq,
      hexValue_eq_some_iff]
    constructor
    · rintro ⟨high, first, low, second, rfl⟩
      exact .inl ⟨high, low, first, second, rfl⟩
    · rintro (⟨high, low, first, second, rfl⟩ | ⟨plus, _⟩)
      · exact ⟨high, first, low, second, rfl⟩
      · exact absurd plus other

/-- The bytes that a text stands for, where `escape` tells what may stand behind a percent sign:
any other character stands for its own bytes. -/
inductive Spells (escape : Char → Char → UInt8 → Prop) : List Char → List UInt8 → Prop
  | nil : Spells escape [] []
  | plain {c rest bytes} : c ≠ '%' → Spells escape rest bytes →
      Spells escape (c :: rest) (String.utf8EncodeChar c ++ bytes)
  | escaped {a b byte rest bytes} : escape a b byte → Spells escape rest bytes →
      Spells escape ('%' :: a :: b :: rest) (byte :: bytes)

theorem percentBytes_eq_some_iff : percentBytes l = some bytes ↔ Spells Escape l bytes := by
  constructor
  · intro read
    fun_induction percentBytes l generalizing bytes with
    | case1 =>
      cases read
      exact .nil
    | case2 a b rest ih =>
      simp only [Option.bind_eq_bind, Option.bind_eq_some_iff] at read
      obtain ⟨byte, escape, more, later, same⟩ := read
      cases same
      exact .escaped (byteOfHex_eq_some_iff.mp escape) (ih later)
    | case3 rest => cases read
    | case4 c rest _ other ih =>
      obtain ⟨more, later, rfl⟩ := Option.map_eq_some_iff.mp read
      exact .plain other (ih later)
  · intro spells
    induction spells with
    | nil => rfl
    | plain other _ ih =>
      rw [percentBytes.eq_def]
      split
      · next empty => cases empty
      · next same => exact absurd (List.cons.inj same).1 other
      · next same =>
        obtain ⟨rfl, rfl⟩ := List.cons.inj same
        rw [if_neg other, ih]
        rfl
    | escaped escape _ ih =>
      rw [percentBytes, byteOfHex_eq_some_iff.mpr escape, ih]
      rfl

theorem percentDecode_eq_some_iff {s : String} :
    percentDecode l = some s ↔ Spells Escape l s.toUTF8.toList := by
  rw [percentDecode, Option.bind_eq_some_iff]
  constructor
  · rintro ⟨bytes, read, decoded⟩
    rw [decode?_eq_some_iff] at decoded
    exact decoded ▸ percentBytes_eq_some_iff.mp read
  · intro spells
    exact ⟨_, percentBytes_eq_some_iff.mpr spells, decode?_toUTF8 s⟩

/-- Two digits stand behind every percent sign where nothing else than a sign could. -/
theorem spells_twoDigits_iff :
    Spells TwoDigits l bytes ↔ Spells Escape l bytes ∧ ¬['%', '+'] <:+: l := by
  have percent : hexValue '%' = none := rfl
  have plus : hexValue '+' = none := rfl
  constructor
  · intro spells
    induction spells with
    | nil => exact ⟨.nil, by simp⟩
    | plain other _ ih =>
      refine ⟨.plain other ih.1, ?_⟩
      rw [List.infix_cons_iff, List.cons_prefix_cons]
      rintro (⟨same, _⟩ | later)
      · exact other same.symm
      · exact ih.2 later
    | escaped escape _ ih =>
      obtain ⟨high, low, first, second, _⟩ := escape
      refine ⟨.escaped (.inl ⟨high, low, first, second, ‹_›⟩) ih.1, ?_⟩
      simp only [List.infix_cons_iff, List.cons_prefix_cons, true_and]
      rintro (⟨same, _⟩ | ⟨same, _⟩ | ⟨same, _⟩ | later)
      · exact first.ne_of_hexValue plus same.symm
      · exact first.ne_of_hexValue percent same.symm
      · exact second.ne_of_hexValue percent same.symm
      · exact ih.2 later
  · rintro ⟨spells, unsigned⟩
    induction spells with
    | nil => exact .nil
    | plain other _ ih =>
      exact .plain other (ih fun later => unsigned (List.infix_cons later))
    | @escaped a b byte rest bytes escape _ ih =>
      have behind : ¬['%', '+'] <:+: rest := fun later =>
        unsigned (later.trans (List.suffix_append ['%', a, b] rest).isInfix)
      rcases escape with digits | ⟨rfl, _⟩
      · exact .escaped digits (ih behind)
      · exact absurd (List.prefix_append ['%', '+'] (b :: rest)).isInfix unsigned

/-- Some bytes of a value, among them all percent signs, are replaced by a percent sign and two
digits. -/
inductive Encodes : List UInt8 → List UInt8 → Prop
  | nil : Encodes [] []
  | kept {byte value bytes} : byte ≠ 0x25 → Encodes value bytes → Encodes (byte :: value) (byte :: bytes)
  | replaced {a b byte value bytes} : TwoDigits a b byte → Encodes value bytes →
      Encodes (byte :: value)
        (0x25 :: (String.utf8EncodeChar a ++ (String.utf8EncodeChar b ++ bytes)))

theorem Encodes.cons_cases {first : UInt8} (encodes : Encodes value (first :: bytes)) :
    (first ≠ 0x25 ∧ ∃ rest, value = first :: rest ∧ Encodes rest bytes) ∨
      (first = 0x25 ∧ ∃ a b byte rest behind, TwoDigits a b byte ∧ value = byte :: rest ∧
        bytes = String.utf8EncodeChar a ++ (String.utf8EncodeChar b ++ behind) ∧
        Encodes rest behind) := by
  cases encodes with
  | kept other later => exact .inl ⟨other, _, rfl, later⟩
  | replaced digits later => exact .inr ⟨rfl, _, _, _, _, _, digits, rfl, rfl, later⟩

/-- Bytes without a percent sign in front are those of the value. -/
theorem Encodes.of_append {front : List UInt8} (encodes : Encodes value (front ++ bytes))
    (free : 0x25 ∉ front) : ∃ rest, value = front ++ rest ∧ Encodes rest bytes := by
  induction front generalizing value with
  | nil => exact ⟨value, rfl, encodes⟩
  | cons byte front ih =>
    obtain ⟨other, free⟩ := not_or.mp (mt List.mem_cons.mpr free)
    rcases encodes.cons_cases with ⟨_, later, rfl, kept⟩ | ⟨percent, _⟩
    · obtain ⟨rest, rfl, behind⟩ := ih kept free
      exact ⟨rest, rfl, behind⟩
    · exact absurd percent.symm other

theorem percent_notMem {c : Char} (other : c ≠ '%') : 0x25 ∉ String.utf8EncodeChar c := by
  intro member
  have point : c.toNat = '%'.toNat := toNat_of_mem_utf8EncodeChar member (by decide)
  rw [← Char.ofNat_toNat c, point] at other
  exact other rfl

/-- A text spells the value of which its bytes are an encoded form. As it is a text, a character is
replaced whole or not at all. -/
theorem spells_of_encodes {text : List Char} {value : List UInt8}
    (encodes : Encodes value (text.flatMap String.utf8EncodeChar)) : Spells TwoDigits text value := by
  cases text with
  | nil =>
    cases encodes with
    | nil => exact .nil
  | cons c rest =>
    rw [List.flatMap_cons] at encodes
    by_cases percent : c = '%'
    · subst percent
      rcases encodes.cons_cases with ⟨other, _⟩ | ⟨_, a, b, byte, later, behind, digits, rfl, form, kept⟩
      · exact absurd rfl other
      · obtain ⟨_, rfl, second⟩ := exists_of_flatMap_utf8EncodeChar form
        obtain ⟨_, rfl, rfl⟩ := exists_of_flatMap_utf8EncodeChar second
        exact .escaped digits (spells_of_encodes kept)
    · obtain ⟨value, rfl, later⟩ := encodes.of_append (percent_notMem percent)
      exact .plain percent (spells_of_encodes later)
termination_by text.length

/-- The encoded form in which every byte is replaced. -/
def percentEncode (value : List UInt8) : List Char :=
  value.flatMap fun byte => ['%', hexDigit (byte.toNat / 16), hexDigit (byte.toNat % 16)]

theorem hexDigit_spec {n : Nat} (small : n < 16) :
    HexDigit (hexDigit n) n ∧ hexDigit n ≠ ',' ∧ isBlank (hexDigit n) = false := by
  interval_cases n <;> exact ⟨.inl rfl, by decide, rfl⟩

theorem bare_of_mem_percentEncode (member : c ∈ percentEncode value) : c ≠ ',' ∧ isBlank c = false := by
  obtain ⟨byte, _, member⟩ := List.mem_flatMap.mp member
  simp only [List.mem_cons, List.not_mem_nil, or_false] at member
  rcases member with rfl | rfl | rfl
  · exact ⟨by decide, rfl⟩
  · exact (hexDigit_spec (Nat.div_lt_of_lt_mul byte.toNat_lt)).2
  · exact (hexDigit_spec (Nat.mod_lt _ (by decide))).2

theorem encodes_percentEncode (value : List UInt8) :
    Encodes value ((percentEncode value).flatMap String.utf8EncodeChar) := by
  induction value with
  | nil => exact .nil
  | cons byte value ih =>
    have high : byte.toNat / 16 < 16 := Nat.div_lt_of_lt_mul byte.toNat_lt
    have low : byte.toNat % 16 < 16 := Nat.mod_lt _ (by decide)
    have digits : TwoDigits (hexDigit (byte.toNat / 16)) (hexDigit (byte.toNat % 16)) byte := by
      refine ⟨_, _, (hexDigit_spec high).1, (hexDigit_spec low).1, ?_⟩
      rw [Nat.div_add_mod, UInt8.ofNat_toNat]
    exact .replaced digits ih

end Telemetry.Text
