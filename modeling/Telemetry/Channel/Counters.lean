/-! What a channel counts about itself. -/
namespace Telemetry.Channel

structure Counters where
  /-- Items dropped because the channel was full. -/
  overflow : Nat := 0
  /-- Items dropped because the channel was closed or abandoned. -/
  discarded : Nat := 0
  processed : Nat := 0
  failed : Nat := 0
  panicked : Nat := 0
  /-- Batches handed to the callback once more. -/
  retried : Nat := 0
deriving DecidableEq, Repr, Inhabited

/-- The counters by name, and the number of entries that wait. -/
def Counters.named (c : Counters) (queueLength : Nat) : List (String × Nat) :=
  [("queue_overflow", c.overflow), ("queue_discarded", c.discarded),
    ("queue_batch_processed", c.processed), ("queue_batch_failed", c.failed),
    ("queue_batch_panicked", c.panicked), ("queue_batch_retry", c.retried),
    ("queue_length", queueLength)]

end Telemetry.Channel
