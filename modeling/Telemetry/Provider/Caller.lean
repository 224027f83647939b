import Telemetry.Shutdown.Outcome
import Telemetry.Time.Instant

/-! The calls that a metrics provider answers, step by step: each phase of a caller ends
with one access to what it shares with the other callers and the worker. -/
namespace Telemetry.Provider

inductive Call where
  | start
  | flush (timeout : Duration)
  | shutDown (deadline : Duration)
deriving DecidableEq, Repr

/-- The deadline of a shutdown, and when the shutdown was called. -/
structure Deadline where
  length : Duration
  since : Instant
deriving DecidableEq, Repr

/-- What is left at `now`. -/
def Deadline.remaining (d : Deadline) (now : Instant) : Duration :=
  d.length.remaining (now.since d.since)

/-- What a caller does next. The start of an idle provider is also the first part of its
shutdown, whose deadline then comes along. -/
inductive Caller where
  | takingStarter (next : Option Deadline)
  /-- Has started the worker, and is about to say so. -/
  | announcing (next : Option Deadline)
  | started
  | checkingFlush (timeout : Duration)
  | requestingFlush (timeout : Duration)
  | awaitingFlush (limit : Instant)
  | flushed (inTime : Bool)
  | checkingState (d : Deadline)
  /-- About to move the provider from running to draining. -/
  | claiming (d : Deadline)
  | announcingDrain (d : Deadline)
  | watchingWorker (d : Deadline)
  | closingChannel (d : Deadline)
  | awaitingWorker (d : Deadline) (limit : Instant)
  | announcingStop (d : Deadline) (inTime : Bool)
  | cancellingExport (d : Deadline)
  | abandoningChannel (d : Deadline)
  | givingNotice (d : Deadline)
  | readingFailure
  | shutDown (outcome : ShutdownOutcome)
  | panicked
deriving DecidableEq, Repr

namespace Caller

/-- Where a call begins. -/
def ofCall (now : Instant) : Call → Caller
  | .start => .takingStarter none
  | .flush timeout => .checkingFlush timeout
  | .shutDown deadline => .checkingState ⟨deadline, now⟩

/-- What follows the part of a call that starts the provider. -/
def afterStart : Option Deadline → Caller
  | none => .started
  | some d => .claiming d

def isDone : Caller → Bool
  | started | flushed _ | shutDown _ | panicked => true
  | _ => false

/-- An upper bound on the number of steps to the end of the call. -/
def stepsLeft : Caller → Nat
  | checkingState _ => 12
  | takingStarter _ => 11
  | announcing _ => 10
  | claiming _ => 9
  | announcingDrain _ => 8
  | watchingWorker _ => 7
  | closingChannel _ => 6
  | awaitingWorker _ _ => 5
  | announcingStop _ _ => 4
  | cancellingExport _ => 3
  | abandoningChannel _ => 2
  | givingNotice _ | readingFailure => 1
  | checkingFlush _ => 3
  | requestingFlush _ => 2
  | awaitingFlush _ => 1
  | started | flushed _ | shutDown _ | panicked => 0

end Caller
end Telemetry.Provider
