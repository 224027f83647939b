import Mathlib.Data.List.Basic
import Mathlib.Order.Basic
import Telemetry.Text.Utf8

/-! The bytes of texts. They are those of the characters one after the other, they spell the text,
and their order is the order of the texts. Main results: `decode?_toUTF8` and `toUTF8_lt`. -/
namespace Telemetry.Text

theorem toList_loop (b : ByteArray) (i : Nat) (l : List UInt8) :
    ByteArray.toList.loop b i l = l.reverse ++ b.data.toList.drop i := by
  fun_induction ByteArray.toList.loop b i l with
  | case1 i l inside ih =>
    have place : i < b.data.toList.length := by simpa using inside
    rw [ih, List.drop_eq_getElem_cons place]
    simp [ByteArray.get!, inside]
  | case2 i l outside =>
    have past : b.data.toList.length ≤ i := by simpa using Nat.le_of_not_lt outside
    rw [List.drop_eq_nil_of_le past]
    simp

theorem toList_data (b : ByteArray) : b.toList = b.data.toList := by
  simp [ByteArray.toList, toList_loop]

/-- The bytes of a text spell it. -/
theorem decode?_toUTF8 (s : String) : decode? s.toUTF8.toList = some s := by
  have same : ByteArray.mk s.toUTF8.toList.toArray = s.toByteArray := by
    rw [toList_data, Array.toArray_toList]
    rfl
  rw [decode?, same, String.fromUTF8?, dif_pos s.isValidUTF8]
  rfl

/-- Bytes are read as a text where they are the bytes of one. -/
theorem decode?_eq_some_iff {bytes : List UInt8} {s : String} :
    decode? bytes = some s ↔ bytes = s.toUTF8.toList := by
  constructor
  · intro decoded
    obtain ⟨valid, spelled⟩ := Option.dite_none_right_eq_some.mp decoded
    obtain rfl := Option.some.inj spelled
    exact (toList_data ⟨bytes.toArray⟩).symm
  · rintro rfl
    exact decode?_toUTF8 s

theorem toList_toUTF8 (s : String) :
    s.toUTF8.toList = s.toList.flatMap String.utf8EncodeChar := by
  have bytes : s.toUTF8 = s.toList.utf8Encode := String.utf8Encode_toList.symm
  rw [bytes, toList_data, List.utf8Encode, List.toList_data_toByteArray]

/-- Numbers are in the order of their digits to the base 64. -/
theorem div_lt_or_mod_lt {m n : Nat} (less : m < n) :
    m / 64 < n / 64 ∨ m / 64 = n / 64 ∧ m % 64 < n % 64 := by omega

/-- Of two characters the one with the smaller code point comes first, whatever follows them. -/
theorem utf8EncodeChar_lt {c d : Char} (less : c < d) (l m : List UInt8) :
    String.utf8EncodeChar c ++ l < String.utf8EncodeChar d ++ m := by
  have points : c.val.toNat < d.val.toNat := less
  have bound : d.val.toNat < 0x110000 := by
    have valid := d.valid
    simp only [UInt32.isValidChar, Nat.isValidChar] at valid
    omega
  simp only [String.utf8EncodeChar]
  generalize c.val.toNat = a at *
  generalize d.val.toNat = b at *
  split_ifs <;>
    simp only [List.cons_append, List.nil_append, List.cons_lt_cons_iff, UInt8.lt_iff_toNat_lt,
      ← UInt8.toNat_inj, UInt8.toNat_ofNat'] <;>
    try omega
  -- Four bytes each: the first digit that differs decides.
  have c1 : a / 4096 = a / 64 / 64 := by omega
  have d1 : b / 4096 = b / 64 / 64 := by omega
  have c2 : a / 262144 = a / 64 / 64 / 64 := by omega
  have d2 : b / 262144 = b / 64 / 64 / 64 := by omega
  rw [c1, d1, c2, d2]
  rcases div_lt_or_mod_lt points with less | same
  · rcases div_lt_or_mod_lt less with less | same
    · rcases div_lt_or_mod_lt less with less | same
      · omega
      · omega
    · omega
  · omega

/-- Whatever follows, the bytes tell which character comes first. -/
theorem utf8EncodeChar_append_inj {c d : Char} {l m : List UInt8}
    (same : String.utf8EncodeChar c ++ l = String.utf8EncodeChar d ++ m) : c = d ∧ l = m := by
  have equal : c = d := by
    rcases Nat.lt_trichotomy c.val.toNat d.val.toNat with less | equal | more
    · exact absurd (same ▸ utf8EncodeChar_lt less l m) (List.lt_irrefl _)
    · exact Char.ext (UInt32.toNat_inj.mp equal)
    · exact absurd (same ▸ utf8EncodeChar_lt more m l) (List.lt_irrefl _)
  subst equal
  exact ⟨rfl, List.append_cancel_left same⟩

theorem exists_of_flatMap_utf8EncodeChar {l : List Char} {c : Char} {bytes : List UInt8}
    (same : l.flatMap String.utf8EncodeChar = String.utf8EncodeChar c ++ bytes) :
    ∃ rest, l = c :: rest ∧ rest.flatMap String.utf8EncodeChar = bytes := by
  cases l with
  | nil =>
    rw [List.flatMap_nil] at same
    exact absurd (List.append_eq_nil_iff.mp same.symm).1 String.utf8EncodeChar_ne_nil
  | cons d rest =>
    rw [List.flatMap_cons] at same
    obtain ⟨rfl, behind⟩ := utf8EncodeChar_append_inj same
    exact ⟨rest, rfl, behind⟩

/-- Only an ASCII character has an ASCII byte, which is its code point. -/
theorem toNat_of_mem_utf8EncodeChar {c : Char} {b : UInt8} (member : b ∈ String.utf8EncodeChar c)
    (ascii : b.toNat < 0x80) : c.toNat = b.toNat := by
  have point : c.toNat = c.val.toNat := rfl
  have none : b ∉ ([] : List UInt8) := List.not_mem_nil
  simp only [String.utf8EncodeChar] at member
  split_ifs at member <;>
    simp only [List.mem_cons, ← UInt8.toNat_inj, UInt8.toNat_ofNat', none, or_false] at member <;>
    omega

theorem flatMap_utf8EncodeChar_lt {l m : List Char} (less : l < m) :
    l.flatMap String.utf8EncodeChar < m.flatMap String.utf8EncodeChar := by
  induction less with
  | @nil c rest =>
    have filled : String.utf8EncodeChar c ≠ [] := String.utf8EncodeChar_ne_nil
    obtain ⟨byte, bytes, first⟩ := List.exists_cons_of_ne_nil filled
    rw [List.flatMap_nil, List.flatMap_cons, first]
    exact .nil
  | @cons c l m _ ih =>
    rw [List.flatMap_cons, List.flatMap_cons]
    exact List.append_left_lt ih
  | @rel c l d m first => exact utf8EncodeChar_lt first _ _

/-- Texts are in the order of their bytes. -/
theorem toUTF8_lt {s t : String} (less : s < t) : s.toUTF8.toList < t.toUTF8.toList := by
  rw [toList_toUTF8, toList_toUTF8]
  exact flatMap_utf8EncodeChar_lt less

end Telemetry.Text
