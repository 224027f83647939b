import Telemetry.Channel.System
import Telemetry.Otlp.Exporter
import Telemetry.Time.Timeline

/-! A queue of log records in front of a connection to a collector. Records wait in a channel
whose receiver sends them in batches on a timeline, so that writing a record never waits for
the network. -/
namespace Telemetry.Otlp

structure LogQueue where
  /-- The channel; its watchers are numbered. -/
  channel : Channel.System (List LogEntry) Nat
  resource : Resource
  connection : Transport.Connection
  /-- When the receiver's wait is over. -/
  wakeAt : Instant
  /-- The number of watchers so far. -/
  watchers : Nat
  /-- The watchers that have run. -/
  notified : List Nat

namespace LogQueue

/-- The most records that wait. -/
def capacity : Nat := 10000

def interval : Duration := .ofSeconds 1

/-- The number of waiting records that are sent before their time. -/
def threshold : Nat := 512

def start (resource : Resource) (connection : Transport.Connection) (now : Instant) : LogQueue :=
  { channel := .start capacity (.create (some interval) (some threshold) Channel.Receiver.defaultRetries)
    resource, connection, wakeAt := now, watchers := 0, notified := [] }

def perform (now : Instant) (q : LogQueue) : Channel.Effect (List LogEntry) Nat → LogQueue
  | .notify watchers => { q with notified := q.notified ++ watchers }
  | .invoke _ => q
  | .wait d => { q with wakeAt := now + d }

/-- Takes a step of the channel at a time, where it is possible. -/
def apply (now : Instant) (l : Channel.Label (List LogEntry) LogEntry Nat) (q : LogQueue) : LogQueue :=
  match q.channel.step l with
  | none => q
  | some (channel, effects) => effects.foldl (perform now) { q with channel }

/-- Puts a record into the queue, or counts it where the queue is closed. -/
def emit (now : Instant) (r : Log.Record) (q : LogQueue) : LogQueue :=
  if q.channel.shared.isOpen then q.apply now (.send (.ofRecord r))
  else
    { q with connection := q.connection.count fun n => { n with recordAfterClose := n.recordAfterClose + 1 } }

/-- Asks for a flush; the watcher that runs after it is the last one so far. -/
def watchFlush (now : Instant) (q : LogQueue) : LogQueue :=
  { q with watchers := q.watchers + 1 }.apply now (.onNextFlush q.watchers)

/-- Closes the queue; the watcher that runs at its end is the last one so far. -/
def watchClose (now : Instant) (q : LogQueue) : LogQueue :=
  ({ q with watchers := q.watchers + 1 }.apply now (.onStopped q.watchers)).apply now .close

/-- Whether the last watcher so far has run. -/
def isNotified (q : LogQueue) : Bool := q.notified.contains (q.watchers - 1)

/-- Sends a batch. One that another attempt could save is kept for it as a whole. -/
def sendBatch (net : Transport.Network) (batch : List LogEntry) (now : Instant) (q : LogQueue) : LogQueue :=
  let (connection, result) := exportLogs net q.resource batch q.connection
  let outcome : Channel.Outcome (List LogEntry) := match result with
    | .ok () => .processed
    | .error e => .failed (if e.isRetryable then batch else [])
  ({ q with connection }.apply now .invoke).apply now (.settle outcome)

/-- The next piece of the receiver's work. -/
def nextWork? (net : Transport.Network) (now : Instant) (q : LogQueue) : Option (Timeline.Work LogQueue) :=
  match q.channel.receiver.phase with
  | .created => some ⟨now, fun time => q.apply time (.enter time)⟩
  | .looking => some ⟨now, fun time => q.apply time (.look time time)⟩
  | .calling batch _ => some ⟨now, fun time => q.sendBatch net batch time⟩
  | .deciding _ _ => some ⟨now, fun time => q.apply time .decide⟩
  | .retrying _ _ | .idle => some ⟨q.wakeAt, fun time => q.apply time .wake⟩
  | .leaving => some ⟨now, fun time => q.apply time .leave⟩
  | .running _ | .exited => none

/-- The counters of the transport, by name. -/
def metrics (q : LogQueue) : List (String × Nat) := q.connection.counters.named

/-- The counters of the channel, by name. -/
def queueMetrics (q : LogQueue) : List (String × Nat) := q.channel.shared.metrics

/-! ## Use by one thread -/

inductive Step where
  | emit (r : Log.Record)
  | flush (timeout : Duration)
  | close (timeout : Duration)

/-- Waits for the last watcher, but no longer than the timeout, and says whether it ran. -/
def await (net : Transport.Network) (timeout : Duration) (now : Instant) (q : LogQueue) :
    Bool × Instant × LogQueue :=
  let (now, q) := Timeline.advance (nextWork? net) (now + timeout) isNotified now q
  (q.isNotified, now, q)

/-- A step, and whether it was done in time where it waits for something. -/
def take (net : Transport.Network) (now : Instant) (q : LogQueue) :
    Step → Option Bool × Instant × LogQueue
  | .emit r => (none, now, q.emit now r)
  | .flush timeout =>
    let (done, now, q) := (q.watchFlush now).await net timeout now
    (some done, now, q)
  | .close timeout =>
    let (done, now, q) := (q.watchClose now).await net timeout now
    (some done, now, q)

/-- The answers to steps one after the other, each with the transport's counters after it, and
the queue at the end. -/
def takeAll (net : Transport.Network) (now : Instant) (q : LogQueue) :
    List Step → List (Option Bool × List (String × Nat)) × LogQueue
  | [] => ([], q)
  | s :: rest =>
    let (done, now, q) := q.take net now s
    let (answers, last) := q.takeAll net now rest
    ((done, q.metrics) :: answers, last)

end LogQueue
end Telemetry.Otlp
