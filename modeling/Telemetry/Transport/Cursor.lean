/-! Places in runs of bytes that are read a chunk at a time. What a consumer sees and how far it
moves are two questions: a chunk need not reach to the end of the bytes. -/
namespace Telemetry.Transport

/-- A place among bytes. -/
class Buf (κ : Type) where
  /-- The bytes from the place on. -/
  rest : κ → List UInt8
  remaining : κ → Nat
  /-- Bytes from the place on that lie together. -/
  chunk : κ → List UInt8
  /-- The place a number of bytes further on. To go beyond the end is a panic, which is none. -/
  advance : κ → Nat → Option κ

/-- A chunk is the beginning of what remains, and is empty at the end only. -/
class LawfulBuf (κ : Type) [Buf κ] : Prop where
  remaining_eq : ∀ c : κ, Buf.remaining c = (Buf.rest c).length
  chunk_prefix : ∀ c : κ, Buf.chunk c <+: Buf.rest c
  rest_of_chunk : ∀ c : κ, Buf.chunk c = [] → Buf.rest c = []
  exists_advance : ∀ (c : κ) (n : Nat), n ≤ Buf.remaining c →
    ∃ d, Buf.advance c n = some d ∧ Buf.rest d = (Buf.rest c).drop n

/-- A place among bytes that all lie together. -/
structure Cursor where
  bytes : List UInt8
  place : Nat
deriving DecidableEq, Repr

namespace Cursor

def ofBytes (bytes : List UInt8) : Cursor := ⟨bytes, 0⟩

instance : Buf Cursor where
  rest c := c.bytes.drop c.place
  remaining c := c.bytes.length - c.place
  chunk c := c.bytes.drop c.place
  advance c n := if n ≤ c.bytes.length - c.place then some ⟨c.bytes, c.place + n⟩ else none

instance : LawfulBuf Cursor where
  remaining_eq _ := List.length_drop.symm
  chunk_prefix _ := List.prefix_rfl
  rest_of_chunk _ none := none
  exists_advance c n within := ⟨⟨c.bytes, c.place + n⟩, if_pos within, (List.drop_drop).symm⟩

end Cursor

namespace Buf

variable {κ μ : Type} [Buf κ] [Buf μ] [LawfulBuf κ]

theorem chunk_le (c : κ) : (chunk c).length ≤ remaining c := by
  rw [LawfulBuf.remaining_eq]
  exact (LawfulBuf.chunk_prefix c).length_le

theorem advance_isSome {c : κ} {n : Nat} (within : n ≤ remaining c) : (advance c n).isSome = true := by
  obtain ⟨d, moved, _⟩ := LawfulBuf.exists_advance c n within
  rw [moved]
  rfl

theorem rest_get {c : κ} {n : Nat} (within : n ≤ remaining c) :
    rest ((advance c n).get (advance_isSome within)) = (rest c).drop n := by
  obtain ⟨d, moved, same⟩ := LawfulBuf.exists_advance c n within
  simp only [moved, Option.get_some, same]

/-- A place that is wrapped moves as the place in it does. -/
theorem exists_advance_map (wrap : κ → μ) (same : ∀ d, rest (wrap d) = rest d) {c : κ} {n : Nat}
    (within : n ≤ remaining c) : ∃ d, (advance c n).map wrap = some d ∧ rest d = (rest c).drop n := by
  obtain ⟨d, moved, behind⟩ := LawfulBuf.exists_advance c n within
  exact ⟨wrap d, by rw [moved, Option.map_some], (same d).trans behind⟩

/-- All bytes from a place on, chunk after chunk up to one that is empty. -/
def drain (c : κ) : List UInt8 :=
  if chunk c = [] then []
  else chunk c ++ drain ((advance c (chunk c).length).get (advance_isSome (chunk_le c)))
termination_by remaining c
decreasing_by
  next some =>
  have positive : 0 < (chunk c).length := List.length_pos_iff.mpr some
  have within : (chunk c).length ≤ (rest c).length := (LawfulBuf.chunk_prefix c).length_le
  rw [LawfulBuf.remaining_eq, LawfulBuf.remaining_eq, rest_get (chunk_le c), List.length_drop]
  omega

end Buf
end Telemetry.Transport
