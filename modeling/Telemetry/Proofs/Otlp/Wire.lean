import Mathlib.Algebra.Ring.Nat
import Mathlib.Tactic.Common
import Telemetry.Otlp.Wire

/-! The wire format can be read back: every list of fields is what its bytes are decoded to. Each
reader is related to its writer with any bytes after them. Main result: `decode_encode`. -/
namespace Telemetry.Otlp.Wire

theorem toNat_byte {n : Nat} (fits : n < 256) : (UInt8.ofNat n).toNat = n :=
  UInt8.toNat_ofNat_of_lt' fits

theorem readVarint_varint (n : Nat) (rest : List UInt8) :
    readVarint (varint n ++ rest) = some (n, rest) := by
  induction n using varint.induct with
  | case1 n small =>
    have byte := toNat_byte (show n < 256 by omega)
    rw [varint, if_pos small, List.singleton_append, readVarint, byte, if_pos small]
  | case2 n big ih =>
    have byte := toNat_byte (show n % 128 + 128 < 256 by omega)
    have whole : n % 128 + 128 - 128 + 128 * (n / 128) = n := by omega
    rw [varint, if_neg big, List.cons_append, readVarint, byte, if_neg (by omega), ih,
      Option.map_some]
    exact congrArg (fun n => some (n, rest)) whole

theorem length_littleEndian (count n : Nat) : (littleEndian count n).length = count := by
  induction count generalizing n with
  | zero => rfl
  | succ count ih => simp [littleEndian, ih]

theorem ofLittleEndian_littleEndian {count n : Nat} (fits : n < 256 ^ count) :
    ofLittleEndian (littleEndian count n) = n := by
  induction count generalizing n with
  | zero =>
    have zero : n = 0 := by simpa using fits
    rw [zero]
    rfl
  | succ count ih =>
    have byte := toNat_byte (show n % 256 < 256 by omega)
    have rest : n / 256 < 256 ^ count := by
      apply Nat.div_lt_of_lt_mul
      rwa [Nat.pow_succ'] at fits
    rw [littleEndian, ofLittleEndian, byte, ih rest]
    omega

theorem takeExactly_append (l rest : List UInt8) :
    takeExactly l.length (l ++ rest) = some (l, rest) := by
  simp [takeExactly]

theorem readPayload_encode (p : Payload) (rest : List UInt8) :
    readPayload p.wireType (p.encode ++ rest) = some (p, rest) := by
  cases p with
  | varint n =>
    simp only [Payload.wireType, Payload.encode, readPayload, readVarint_varint, Option.map_some,
      UInt64.ofNat_toNat]
  | word n =>
    have fits : n.toNat < 256 ^ 8 := n.toNat_lt
    have eight := takeExactly_append (littleEndian 8 n.toNat) rest
    rw [length_littleEndian] at eight
    simp only [Payload.wireType, Payload.encode, readPayload, eight, Option.map_some,
      ofLittleEndian_littleEndian fits, UInt64.ofNat_toNat]
  | bytes l =>
    simp only [Payload.wireType, Payload.encode, List.append_assoc, readPayload, bind,
      readVarint_varint, Option.bind_some, takeExactly_append, pure]

theorem wireType_lt (p : Payload) : p.wireType < 8 := by
  cases p <;> simp [Payload.wireType]

theorem readField_encode (f : Field) (rest : List UInt8) :
    readField (f.encode ++ rest) = some (f, rest) := by
  have low := wireType_lt f.payload
  have wireType : (8 * f.number + f.payload.wireType) % 8 = f.payload.wireType := by omega
  have number : (8 * f.number + f.payload.wireType) / 8 = f.number := by omega
  simp only [Field.encode, List.append_assoc, readField, bind, readVarint_varint, Option.bind_some,
    wireType, number, readPayload_encode, pure]

theorem varint_ne_nil (n : Nat) : varint n ≠ [] := by
  rw [varint]
  split <;> simp

theorem length_encode_pos (f : Field) : 0 < f.encode.length := by
  have tag := List.length_pos_iff.mpr (varint_ne_nil (8 * f.number + f.payload.wireType))
  rw [Field.encode, List.length_append]
  omega

theorem readFields_encode (l : List Field) {fuel : Nat} (enough : (encode l).length ≤ fuel) :
    readFields fuel (encode l) = some l := by
  induction l generalizing fuel with
  | nil => cases fuel <;> rfl
  | cons f rest ih =>
    have whole : encode (f :: rest) = f.encode ++ encode rest := rfl
    have filled := length_encode_pos f
    rw [whole, List.length_append] at enough
    obtain ⟨fuel, rfl⟩ : ∃ less, fuel = less + 1 := ⟨fuel - 1, by omega⟩
    have nonempty : f.encode ++ encode rest ≠ [] := by
      intro empty
      rw [List.append_eq_nil_iff] at empty
      simp [empty.1] at filled
    rw [whole, readFields.eq_3 _ _ nonempty]
    have later : (encode rest).length ≤ fuel := by omega
    simp only [bind, readField_encode, Option.bind_some, ih later, pure]

/-- What is written can be read, whatever the fields and their payloads are. -/
theorem decode_encode (l : List Field) : decode (encode l) = some l :=
  readFields_encode l (Nat.le_refl _)

end Telemetry.Otlp.Wire
