import Telemetry.Log.Record
import Telemetry.Shutdown.Outcome
import Telemetry.Time.Instant

/-! The orderly end of a program: a metrics provider is shut down and log sinks are flushed,
all within one deadline. Any of these may panic, and so may the logger that is told about
them; none of it keeps the rest from its turn. -/
namespace Telemetry.Shutdown

/-- What is logged about a shutdown. -/
inductive Notice where
  | providerEnded (outcome : ShutdownOutcome)
  | sinkLate (place : Nat)
  | sinkPanicked (place : Nat)
deriving DecidableEq, Repr

namespace Notice

def level : Notice → Level
  | providerEnded outcome => if outcome.isExpected then .debug else .error
  | sinkLate _ => .debug
  | sinkPanicked _ => .error

def message : Notice → String
  | providerEnded outcome =>
    if outcome.isExpected then "metrics provider shut down" else "metrics provider failed to shut down"
  | sinkLate _ => "log sink didn't flush in time"
  | sinkPanicked _ => "log sink panicked while flushing"

def properties : Notice → List (String × Log.Value)
  | providerEnded outcome => [("outcome", .shown outcome.pieces)]
  | sinkLate place | sinkPanicked place => [("sink", .unsigned (.ofNat place))]

end Notice

/-- What a shutdown acts on, as changes of a state that holds the clock. A result of `none`
is a panic. -/
structure Surroundings (σ α : Type) where
  now : σ → Instant
  /-- Shuts the provider down within a time, where there is one. -/
  shutDown : Option (Duration → StateM σ (Option ShutdownOutcome))
  /-- Flushes a sink within a time and says whether it was done. -/
  flush : α → Duration → StateM σ (Option Bool)
  log : Notice → StateM σ (Option Unit)

structure Report where
  metrics : ShutdownOutcome
  /-- Whether every sink was flushed in time and without a panic. -/
  sinksFlushed : Bool
  elapsed : Duration
deriving DecidableEq, Repr

def Report.isClean (r : Report) : Bool := r.metrics.isFlushed && r.sinksFlushed

variable {σ α : Type}

/-- Tells the logger, whatever becomes of that. -/
def tell (e : Surroundings σ α) (n : Notice) : StateM σ Unit := do
  let _ ← e.log n

/-- Flushes a sink in whatever is left of the deadline, and says whether it was done. -/
def flushOne (e : Surroundings σ α) (deadline : Duration) (began : Instant) (place : Nat) (sink : α) :
    StateM σ Bool := do
  match ← e.flush sink (deadline.remaining ((e.now (← get)).since began)) with
  | some true => pure true
  | some false => do
    tell e (.sinkLate place)
    pure false
  | none => do
    tell e (.sinkPanicked place)
    pure false

/-- Flushes the sinks in their order, the first of which has the given place. -/
def flushAll (e : Surroundings σ α) (deadline : Duration) (began : Instant) (place : Nat) :
    List α → StateM σ Bool
  | [] => pure true
  | sink :: rest => do
    let first ← flushOne e deadline began place sink
    let others ← flushAll e deadline began (place + 1) rest
    pure (first && others)

/-- How the provider ended; a panic counts as a failed export. -/
def shutDownProvider (e : Surroundings σ α) (deadline : Duration) : StateM σ ShutdownOutcome :=
  match e.shutDown with
  | none => pure .alreadyShutdown
  | some shutDown => do
    return (← shutDown deadline).getD (.failed .panicked)

def run (e : Surroundings σ α) (deadline : Duration) (sinks : List α) : StateM σ Report := do
  let began := e.now (← get)
  let metrics ← shutDownProvider e deadline
  tell e (.providerEnded metrics)
  let sinksFlushed ← flushAll e deadline began 0 sinks
  return ⟨metrics, sinksFlushed, (e.now (← get)).since began⟩

end Telemetry.Shutdown
