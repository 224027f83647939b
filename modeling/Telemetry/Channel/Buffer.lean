/-! What a channel gathers items in between batches: a container whose size is the number
of its entries, where an item may fold into an entry that is there. -/
namespace Telemetry.Channel

class Buffer (β : Type) (ι : outParam Type) where
  empty : β
  push : β → ι → β
  /-- The number of entries, which the capacity of a channel limits. -/
  size : β → Nat
  /-- Whether pushing the item adds an entry. -/
  growsWith : β → ι → Bool

/-- A new buffer has no entries, and a push adds one exactly when it is said to. -/
class LawfulBuffer (β : Type) (ι : outParam Type) [Buffer β ι] : Prop where
  size_empty : Buffer.size (Buffer.empty : β) = 0
  size_push : ∀ (b : β) (x : ι),
    Buffer.size (Buffer.push b x) = Buffer.size b + if Buffer.growsWith b x then 1 else 0

instance {ι : Type} : Buffer (List ι) ι where
  empty := []
  push l x := l ++ [x]
  size := List.length
  growsWith _ _ := true

instance {ι : Type} : LawfulBuffer (List ι) ι where
  size_empty := rfl
  size_push l x := by simp [Buffer.size, Buffer.push, Buffer.growsWith]

end Telemetry.Channel
