import Telemetry.Aggregation.Buffer
import Telemetry.Channel.System
import Telemetry.Provider.Caller
import Telemetry.Provider.Counters
import Telemetry.Provider.State
import Telemetry.Provider.Worker

/-! A metrics provider as a whole: its instruments, its callers and its worker, in every
order in which they can take their steps. Main definitions: `System.step`, the outcome of one
step, and `Run`.

There is always a thread for the worker: the start that takes the starter succeeds. Without one the
provider would be stopped before it ran, and its next shutdown would tell why; no measurement would
be exported, and no run has that step. As in `Telemetry.Channel.System`, a worker that has begun is
run to its end. -/
namespace Telemetry.Provider

structure System where
  settings : Settings
  state : State
  /-- Whether the worker is still to be started. -/
  holdsStarter : Bool
  /-- The channel of measurements. A watcher is the place of the caller that waits for it. -/
  channel : Channel.System Aggregation Nat
  counters : Counters
  drain : Drain
  worker : Worker
  /-- The attempt that the exporter is at work on. -/
  attempt : Option Attempt
  /-- Measurements that were let through and are not yet sent. -/
  admitted : List Measurement
  callers : List Caller
  /-- The callers whose watcher has run. -/
  notified : List Nat

/-- What the exporter answers when it is asked once. -/
inductive Reply where
  | ready (result : Except ExportError Unit)
  | panicked
  /-- Nothing, and the time for the attempt is over. -/
  | late

/-- What can happen next. -/
inductive Label where
  /-- An instrument takes a measurement and looks whether it may be sent. -/
  | record (m : Measurement)
  /-- The instrument sends the admitted measurement at a place. -/
  | send (place : Nat)
  | call (c : Call) (now : Instant)
  /-- The caller at a place takes its next step. -/
  | act (place : Nat) (now : Instant)
  /-- The time of a waiting caller is over. -/
  | expire (place : Nat) (now : Instant)
  /-- The provider is dropped while it still holds the starter. -/
  | discardStarter
  /-- The last handle that can send is dropped. -/
  | dropSender
  | enter (now : Instant)
  | look (now later : Instant)
  /-- The worker takes a batch up, whose series it meets in some order, and calls the exporter, which
  panics or goes to work. -/
  | collect (now : Timestamp) (order : List SeriesKey) (panics : Bool)
  /-- The worker asks the exporter, unless exports are cancelled. -/
  | poll (reply : Reply)
  | decide
  | wake
  | leave

/-- What a step does to the world outside the provider. -/
inductive Effect where
  | notice (n : Notice)
  /-- The exporter is called. -/
  | attempt (a : Attempt)
  /-- The worker waits. -/
  | wait (d : Duration)

/-- Whether an instrument takes a value at all. -/
def isRecordable : MeasuredValue → Bool
  | .increment _ => true
  | .observation x => x.isFinite

/-- What the diagnostics are told about the end of an attempt. -/
def Attempt.noticeOf (a : Attempt) : Except ExportError Unit → Notice
  | .ok () => .exported a.batch.metrics.length
  | .error e => if e.isCancelled then .exportCancelled e else .exportFailed e

/-- Counts the end of an attempt. -/
def Counters.ended (c : Counters) : Except ExportError Unit → Counters
  | .ok () => { c with succeeded := c.succeeded + 1 }
  | .error e =>
    if e.isCancelled then { c with cancelled := c.cancelled + 1 } else { c with failed := c.failed + 1 }

namespace Settings

/-- What the channel learns about the end of an attempt. A panic of the diagnostics takes the
place of the result, and only delta data is worth another attempt. -/
def outcomeOf (s : Settings) (a : Attempt) (result : Except ExportError Unit) :
    Channel.Outcome Aggregation :=
  if s.panicsOn (a.noticeOf result) then .panicked
  else
    match result with
    | .ok () => .processed
    | .error e => .failed (if e.isRetryable && s.temporality = .delta then a.data else .empty)

/-- The drain after the end of an attempt. A panic of the diagnostics keeps a failure from
being noted. -/
def noteEnd (s : Settings) (d : Drain) (a : Attempt) : Except ExportError Unit → Drain
  | .ok () => d.note none
  | .error e => if s.panicsOn (a.noticeOf (.error e)) then d else d.note (some e)

end Settings

namespace System

def build (settings : Settings) (built : Timestamp) : System where
  settings
  state := .idle
  holdsStarter := true
  channel := .start settings.cardinalityLimit (.create (some settings.interval) none settings.maxRetries)
  counters := {}
  drain := {}
  worker := .start built
  attempt := none
  admitted := []
  callers := []
  notified := []

/-- The provider's own counters and those of its channel, by name. -/
def metrics (y : System) : List (String × Nat) := y.counters.named y.channel.shared.metrics

def notices (y : System) (n : Notice) : List Effect := (y.settings.delivered n).map .notice

/-- Lets an effect of the channel take hold: watchers run, waits are the worker's. -/
def absorb (y : System) : Channel.Effect Aggregation Nat → System × List Effect
  | .notify watchers => ({ y with notified := y.notified ++ watchers }, [])
  | .invoke _ => (y, [])
  | .wait d => (y, [.wait d])

def absorbAll (y : System) : List (Channel.Effect Aggregation Nat) → System × List Effect
  | [] => (y, [])
  | e :: rest =>
    let (y, first) := y.absorb e
    let (y, others) := y.absorbAll rest
    (y, first ++ others)

/-- One step of the channel, where it is possible. -/
def channelStep (y : System) (l : Channel.Label Aggregation Measurement Nat) :
    Option (System × List Effect) :=
  (y.channel.step l).map fun (channel, effects) => { y with channel }.absorbAll effects

/-- One step of a caller that is not waiting, or that need not wait any longer. -/
def actOn (y : System) (place : Nat) (now : Instant) :
    Caller → Option (System × Caller × List Effect)
  | .takingStarter next =>
    if y.holdsStarter then some ({ y with holdsStarter := false }, .announcing next, [])
    else some (y, .afterStart next, [])
  | .announcing next =>
    some ({ y with state := if y.state = .idle then .running else y.state }, .afterStart next, [])
  | .checkingFlush timeout =>
    some (y, if y.state = .running then .requestingFlush timeout else .flushed false, [])
  | .requestingFlush timeout =>
    (y.channelStep (.onNextFlush place)).map fun (y, effects) =>
      (y, ((now.add? timeout).map Caller.awaitingFlush).getD .panicked, effects)
  | .awaitingFlush _ => if place ∈ y.notified then some (y, .flushed true, []) else none
  | .checkingState d =>
    some (y, if y.state = .idle then .takingStarter (some d) else .claiming d, [])
  | .claiming d =>
    if y.state = .running then some ({ y with state := .draining }, .announcingDrain d, [])
    else some (y, .shutDown .alreadyShutdown, [])
  | .announcingDrain d =>
    some ({ y with drain := { y.drain with isDraining := true } }, .watchingWorker d, [])
  | .watchingWorker d =>
    (y.channelStep (.onStopped place)).map fun (y, effects) => (y, .closingChannel d, effects)
  | .closingChannel d =>
    (y.channelStep .close).map fun (y, effects) =>
      (y, ((now.add? (d.remaining now)).map (Caller.awaitingWorker d)).getD .panicked, effects)
  | .awaitingWorker d _ => if place ∈ y.notified then some (y, .announcingStop d true, []) else none
  | .announcingStop d inTime =>
    some ({ y with state := .stopped }, if inTime then .readingFailure else .cancellingExport d, [])
  | .cancellingExport d =>
    some ({ y with drain := { y.drain with isCancelled := true } }, .abandoningChannel d, [])
  | .abandoningChannel d =>
    (y.channelStep .abandon).map fun (y, effects) => (y, .givingNotice d, effects)
  | .givingNotice d =>
    let notice := Notice.drainTimedOut d.length
    some (y, if y.settings.panicsOn notice then .panicked else .shutDown .timedOut, y.notices notice)
  | .readingFailure =>
    some ({ y with drain := { y.drain with failure := none } },
      .shutDown ((y.drain.failure.map .failed).getD .flushed), [])
  | .started | .flushed _ | .shutDown _ | .panicked => none

/-- A waiting caller gives up, where its watcher has not run by the end of its time. -/
def expireOn (y : System) (place : Nat) (now : Instant) : Caller → Option Caller
  | .awaitingFlush limit => if limit ≤ now ∧ place ∉ y.notified then some (.flushed false) else none
  | .awaitingWorker d limit =>
    if limit ≤ now ∧ place ∉ y.notified then some (.announcingStop d false) else none
  | _ => none

/-- Ends the attempt at hand: the result is counted and noted, and the channel learns what to
do with the data. -/
def conclude (y : System) (a : Attempt) (result : Except ExportError Unit) :
    Option (System × List Effect) :=
  let y := { y with
    attempt := none
    counters := y.counters.ended result
    drain := y.settings.noteEnd y.drain a result }
  (y.channelStep (.settle (y.settings.outcomeOf a result))).map fun (z, effects) =>
    (z, y.notices (a.noticeOf result) ++ effects)

/-- Takes a batch up and calls the exporter. -/
def collect (y : System) (now : Timestamp) (order : List SeriesKey) (panics : Bool) :
    Option (System × List Effect) :=
  match y.channel.receiver.phase with
  | .calling data _ => do
    let (a, dropped, worker) := y.worker.prepare y.settings now order data
    let (y, _) ← y.channelStep .invoke
    let y := { y with
      worker
      counters := { y.counters with rejected := y.counters.rejected + dropped } }
    let notice := Notice.seriesDropped dropped
    let given := if 0 < dropped then y.notices notice else []
    if 0 < dropped && y.settings.panicsOn notice then
      let (y, effects) ← y.channelStep (.settle .panicked)
      return (y, given ++ effects)
    else if panics then
      let (y, effects) ← y.conclude a (.error .panicked)
      return (y, given ++ .attempt a :: effects)
    else return ({ y with attempt := some a }, given ++ [.attempt a])
  | _ => none

/-- How an attempt ends when the exporter is asked. A cancelled one is not asked. -/
def resultOf (y : System) (reply : Reply) : Except ExportError Unit :=
  if y.drain.isCancelled then .error .cancelled
  else
    match reply with
    | .ready result => result
    | .panicked => .error .panicked
    | .late => .error (.timeout y.settings.exportTimeout)

/-- The state after a step and its effects, or nothing where the step is not possible. -/
def step (y : System) : Label → Option (System × List Effect)
  | .record m =>
    if !isRecordable m.value then
      some ({ y with counters := { y.counters with rejected := y.counters.rejected + 1 } }, [])
    else if !y.state.isAccepting then
      some ({ y with counters := { y.counters with afterShutdown := y.counters.afterShutdown + 1 } }, [])
    else some ({ y with admitted := y.admitted ++ [m] }, [])
  | .send place => do
    let m ← y.admitted[place]?
    { y with admitted := y.admitted.eraseIdx place }.channelStep (.send m)
  | .call c now => some ({ y with callers := y.callers ++ [.ofCall now c] }, [])
  | .act place now => do
    let caller ← y.callers[place]?
    let (y, caller, effects) ← y.actOn place now caller
    return ({ y with callers := y.callers.set place caller }, effects)
  | .expire place now => do
    let caller ← y.callers[place]?
    let caller ← y.expireOn place now caller
    return ({ y with callers := y.callers.set place caller }, [])
  | .discardStarter =>
    if y.holdsStarter then { y with holdsStarter := false }.channelStep .drop else none
  | .dropSender => y.channelStep .close
  | .enter now => if y.holdsStarter then none else y.channelStep (.enter now)
  | .look now later => y.channelStep (.look now later)
  | .collect now order panics => y.collect now order panics
  | .poll reply => do y.conclude (← y.attempt) (y.resultOf reply)
  | .decide => y.channelStep .decide
  | .wake => y.channelStep .wake
  | .leave => y.channelStep .leave

end System

/-- One step of a run of a provider. -/
abbrev Event := Telemetry.Event System Label Effect

/-- The runs of a provider from `first`. -/
abbrev Run (first : System) : List Event → System → Prop := Telemetry.Run System.step first

end Telemetry.Provider
