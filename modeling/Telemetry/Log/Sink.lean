import Telemetry.Log.Record
import Telemetry.Time.Instant

/-! Destinations of log records. A sink is a tree whose leaves are destinations of any
kind `α`; what a leaf does with a record or with a request to flush is its own affair. -/
namespace Telemetry.Log

inductive Sink (α : Type) where
  /-- A destination. -/
  | leaf (a : α)
  /-- Takes everything and keeps nothing. -/
  | empty
  /-- A sink behind a pointer, or one that might have been missing. -/
  | wrapped (s : Sink α)
  /-- Two sinks that both get everything, the left one first. -/
  | both (left right : Sink α)
deriving Repr

/-- What a flush acts on, as changes of a state that holds the clock. -/
structure Surroundings (σ α : Type) where
  now : σ → Instant
  /-- Asks a destination to flush within a time and says whether it was done. -/
  flush : α → Duration → StateM σ Bool
  /-- Meanwhile the clock goes forward or stands still. -/
  now_le : ∀ a given s, now s ≤ now (flush a given s).2

namespace Sink

/-- The destinations that records reach, in order. -/
def leaves {α : Type} : Sink α → List α
  | leaf a => [a]
  | empty => []
  | wrapped s => s.leaves
  | both left right => left.leaves ++ right.leaves

/-- A sink that may be missing. -/
def ofOption {α : Type} : Option (Sink α) → Sink α
  | some s => wrapped s
  | none => empty

/-- The deliveries that a record makes, in order. -/
def emit {α : Type} (r : Record) : Sink α → List (α × Record)
  | leaf a => [(a, r)]
  | empty => []
  | wrapped s => s.emit r
  | both left right => left.emit r ++ right.emit r

/-- Asks every leaf to flush and says whether all of them did. The right side gets whatever time
the left side did not use. -/
def flush {σ α : Type} (e : Surroundings σ α) : Sink α → Duration → StateM σ Bool
  | leaf a, timeout => e.flush a timeout
  | empty, _ => pure true
  | wrapped s, timeout => s.flush e timeout
  | both left right, timeout => do
    let began := e.now (← get)
    let leftDone ← left.flush e timeout
    let rightDone ← right.flush e (timeout.remaining ((e.now (← get)).since began))
    pure (leftDone && rightDone)

end Sink
end Telemetry.Log
