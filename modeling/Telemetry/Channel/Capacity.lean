/-! How much room to set aside for the next batch: the greatest size among the last ones. -/
namespace Telemetry.Channel

/-- The last sizes, in a ring of fixed length, and the number of sizes seen, which wraps. -/
structure Capacity where
  ring : List Nat
  calls : UInt64
deriving DecidableEq, Repr

namespace Capacity

def window : Nat := 16

/-- Before any size is seen the room is for one entry. -/
def start : Capacity := ⟨List.replicate window 1, 0⟩

/-- Takes note of a size and gives the greatest one in the ring. -/
def next (c : Capacity) (size : Nat) : Nat × Capacity :=
  let ring := c.ring.set (c.calls.toNat % window) size
  (ring.foldl max 0, ⟨ring, c.calls + 1⟩)

end Capacity
end Telemetry.Channel
