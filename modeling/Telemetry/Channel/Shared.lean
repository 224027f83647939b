import Telemetry.Channel.Buffer
import Telemetry.Channel.Counters

/-! The state that the two halves of a channel share, and the operations of the sending
half. Each operation is one step under the channel's lock. A watcher is a value of any type
`ω` that stands for what its owner does when it is run; operations give the watchers that
are to be run once the lock is free. -/
namespace Telemetry.Channel

structure Shared (β ω : Type) where
  /-- The batch that is being filled. -/
  filling : β
  /-- Watchers of the batch that is being filled. -/
  waiting : List ω
  isOpen : Bool
  /-- Whether a batch was taken and the receiver has found nothing to do since. -/
  isInBatch : Bool
  isFlushRequested : Bool
  isAbandoned : Bool
  isStopped : Bool
  onStopped : List ω
  counters : Counters

namespace Shared

variable {β ι ω : Type} [Buffer β ι]

def start : Shared β ω := ⟨Buffer.empty, [], true, false, false, false, false, [], {}⟩

def queueLength (s : Shared β ω) : Nat := Buffer.size s.filling

/-- The channel's counters by name. -/
def metrics (s : Shared β ω) : List (String × Nat) := s.counters.named s.queueLength

/-- Adds an item to the batch that is being filled. A closed channel drops it, and a full
one drops what would add an entry. -/
def send (capacity : Nat) (s : Shared β ω) (x : ι) : Shared β ω :=
  if !s.isOpen then
    { s with counters := { s.counters with discarded := s.counters.discarded + 1 } }
  else if capacity ≤ Buffer.size s.filling && Buffer.growsWith s.filling x then
    { s with counters := { s.counters with overflow := s.counters.overflow + 1 } }
  else { s with filling := Buffer.push s.filling x }

/-- Has a watcher run once the items now in the channel are dealt with, and asks for that
to be soon. Where there is nothing to wait for the watcher is to be run at once. -/
def onNextFlush (s : Shared β ω) (w : ω) : Shared β ω × List ω :=
  if !s.isInBatch && (Buffer.size s.filling == 0 || !s.isOpen) then (s, [w])
  else ({ s with isFlushRequested := true, waiting := s.waiting ++ [w] }, [])

/-- Has a watcher run once the receiver has exited. -/
def watchStopped (s : Shared β ω) (w : ω) : Shared β ω × List ω :=
  if s.isStopped then (s, [w]) else ({ s with onStopped := s.onStopped ++ [w] }, [])

/-- Takes no more items. -/
def close (s : Shared β ω) : Shared β ω := { s with isOpen := false }

/-- Takes no more items, drops those that wait, and runs their watchers. -/
def abandon (s : Shared β ω) : Shared β ω × List ω :=
  ({ s with
    filling := Buffer.empty
    waiting := []
    isOpen := false
    isAbandoned := true
    counters := { s.counters with discarded := s.counters.discarded + Buffer.size s.filling } },
    s.waiting)

/-- The receiver is gone: all watchers run. -/
def stop (s : Shared β ω) : Shared β ω × List ω :=
  ({ s with isOpen := false, isStopped := true, waiting := [], onStopped := [] },
    s.waiting ++ s.onStopped)

end Shared
end Telemetry.Channel
