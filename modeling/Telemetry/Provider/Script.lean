import Telemetry.Meter
import Telemetry.Provider.Timed
import Telemetry.Shutdown.Coordinator

/-! Scripted runs of a metrics provider against an exporter whose responses are given. One
thread makes all the calls. Its own steps take no time, and the worker is at work only while
that thread waits. -/
namespace Telemetry.Provider.Script

/-- How a window lies to the one of the attempt before. -/
inductive WindowPlace where
  | first
  | same
  | next
  | other
deriving DecidableEq, Repr

/-- What an attempt shows: its batch and, for delta batches with points, the place of its
window. -/
structure Export where
  batch : Batch
  place : Option WindowPlace

/-- How a log sink answers when it is to be flushed. -/
inductive SinkAnswer where
  | done
  | late
  | panics
  /-- It is done if there is any time left. -/
  | doneIfTimeLeft
deriving DecidableEq, Repr

/-- A step of the script. Meters, counters and histograms go by labels of their own. -/
inductive Step where
  | meter (label : String) (scope : Scope)
  | register (label meter : String) (request : InstrumentRequest)
  | record (kind : InstrumentKind) (label : String) (values : List MeasuredValue) (attributes : Attributes)
  | start
  | state
  | diagnostic
  | metrics
  | flush (timeout : Duration)
  | shutDown (deadline : Duration)
  | sleep (d : Duration)
  /-- The total of a counter over all batches that were exported. -/
  | total (name : String)
  /-- Drops the provider and all that belongs to it, and waits for the worker. -/
  | drop
  | dropProvider
  | coordinate (deadline : Duration) (hasProvider : Bool) (logger : Diagnostics) (sinks : List SinkAnswer)

inductive Result where
  | nothing
  | text (s : String)
  | instrument (i : Instrument)
  | refused (e : Error)
  | flag (b : Bool)
  | metrics (l : List (String × Nat))
  | outcome (o : ShutdownOutcome)
  | total (n : Nat)
  | report (r : Shutdown.Report)
  /-- A panic that the script survives. -/
  | panic
  /-- What ends the script: a panic that nothing catches, or a step on what is not there. -/
  | crash

namespace Result

def isCrash : Result → Bool
  | crash => true
  | _ => false

/-- Whether a shutdown has given up on the worker, which still has to come to its end. -/
def isTimedOut : Result → Bool
  | outcome o => o = .timedOut
  | report r => r.metrics = .timedOut
  | _ => false

end Result

/-- The provider and what is around it. -/
structure World where
  clock : Instant
  provider : Timed (List Response)
  /-- Whether the handle of the provider is still there. -/
  hasProvider : Bool
  lastWindow : Option (Timestamp × Timestamp)
  registry : Registry
  meters : List (String × Nat)
  instruments : List ((InstrumentKind × String) × Instrument)
  succeeded : List Batch
  exports : Array Export
  lines : Array String

abbrev Scripted := StateM World

/-- Takes the given responses one after the other, and succeeds once they have run out. -/
def exporter : Exporter (List Response) where
  panics responses := responses.headD .succeed == .panic
  respond responses _ := (responses.headD .succeed, responses.tail)

def logLine (scope : String) (level : Level) (message : String) (properties : List (String × Log.Value))
    (w : World) : World :=
  { w with lines := w.lines.push (Log.Record.line ⟨timestampAt w.clock, level, scope, message, properties⟩) }

def windowPlace (last : Option (Timestamp × Timestamp)) (window : Timestamp × Timestamp) : WindowPlace :=
  match last with
  | none => .first
  | some last => if last = window then .same else if last.2 = window.1 then .next else .other

def seeAttempt (a : Attempt) (r : Response) (w : World) : World :=
  let isWindowed := w.provider.system.settings.temporality = .delta && !a.batch.isEmpty
  { w with
    lastWindow := if isWindowed then some a.window else w.lastWindow
    exports := w.exports.push ⟨a.batch, if isWindowed then some (windowPlace w.lastWindow a.window) else none⟩
    succeeded := if r = .succeed then w.succeeded ++ [a.batch] else w.succeeded }

def see (w : World) : Sight → World
  | .notice n => logLine "diag" n.level n.message n.properties w
  | .attempt a r => seeAttempt a r w

def seeAll (w : World) (provider : Timed (List Response)) (sights : List Sight) : World :=
  sights.foldl see { w with provider }

def apply (l : Label) (w : World) : World :=
  let (provider, sights) := w.provider.apply exporter w.clock l
  seeAll w provider sights

def nextWork? (now : Instant) (w : World) : Option (Timeline.Work World) :=
  (w.provider.nextWork? exporter now).map (·.map fun (provider, sights) => seeAll w provider sights)

def wait (limit : Instant) (stop : World → Bool) (w : World) : World :=
  let (clock, w) := Timeline.advance nextWork? limit stop w.clock w
  { w with clock }

def host : Host World := ⟨World.clock, (·.provider.system), apply, wait⟩

/-- Waits for the worker to end, for a year at most. -/
def awaitExit : Scripted Unit :=
  modify fun w => wait (w.clock + Duration.ofSeconds 31536000) (·.provider.hasExited) w

def flushSink (answer : SinkAnswer) (remaining : Duration) : Scripted (Option Bool) :=
  pure <| match answer with
    | .done => some true
    | .late => some false
    | .panics => none
    | .doneIfTimeLeft => some !remaining.isZero

def tell (logger : Diagnostics) (n : Shutdown.Notice) : Scripted (Option Unit) := do
  if logger.minLevel ≤ n.level then
    modify (logLine "coord" n.level n.message n.properties)
    pure (if logger.panics then none else some ())
  else pure (some ())

def surroundings (hasProvider : Bool) (logger : Diagnostics) : Shutdown.Surroundings World SinkAnswer where
  now := World.clock
  shutDown := if hasProvider then some host.shutDown else none
  flush := flushSink
  log := tell logger

/-- Runs an action on the provider, which has to be there still. -/
def withProvider (act : Scripted Result) : Scripted Result := do
  if (← get).hasProvider then act else pure .crash

def step : Step → Scripted Result
  | .meter label scope => withProvider do
    let w ← get
    let (registry, place) := w.registry.addMeter scope
    set { w with registry, meters := (label, place) :: w.meters }
    pure (.text (Meter.ofScope scope).diagnostic)
  | .register label meter request => do
    let w ← get
    match (w.meters.lookup meter).bind (w.registry.register · request) with
    | none => pure .crash
    | some (.error e, registry) => do
      set { w with registry }
      pure (.refused e)
    | some (.ok i, registry) => do
      set { w with registry, instruments := ((i.kind, label), i) :: w.instruments }
      pure (.instrument i)
  | .record kind label values attributes => do
    match (← get).instruments.lookup (kind, label) with
    | none => pure .crash
    | some i => do
      values.forM (host.record i attributes)
      pure .nothing
  | .start => withProvider do
    host.start
    pure .nothing
  | .state => withProvider do pure (.text (← get).provider.system.state.name)
  | .diagnostic => withProvider do
    pure (.text ("MeterProvider \x7b state: " ++ (← get).provider.system.state.name ++ ", .. \x7d"))
  | .metrics => withProvider do pure (.metrics (← get).provider.system.metrics)
  | .flush timeout => withProvider do
    return ((← host.flush timeout).map .flag).getD .crash
  | .shutDown deadline => withProvider do
    return ((← host.shutDown deadline).map .outcome).getD .panic
  | .sleep d => do
    modify fun w => wait (w.clock + d) (fun _ => false) w
    pure .nothing
  | .total name => do
    let totalOf (b : Batch) : Nat := (((b.metric? name).bind (·.total?)).getD 0).toNat
    pure (.total ((← get).succeeded.foldl (fun n b => n + totalOf b) 0))
  | .drop => do
    modify (apply .discardStarter)
    modify (apply .dropSender)
    modify fun w => { w with hasProvider := false, meters := [], instruments := [] }
    awaitExit
    pure (.flag true)
  | .dropProvider => do
    modify (apply .discardStarter)
    modify fun w => { w with hasProvider := false }
    if (← get).meters.isEmpty then modify (apply .dropSender)
    pure .nothing
  | .coordinate deadline hasProvider logger sinks =>
    return .report (← Shutdown.run (surroundings hasProvider logger) deadline sinks)

/-- A step, and what it shows besides its result. Where a shutdown has timed out, the worker's
end is part of it, and the lines have no order among themselves. -/
def observe (s : Step) : Scripted (Result × List Export × List String) := do
  let result ← step s
  if result.isTimedOut then awaitExit
  let w ← get
  set { w with exports := #[], lines := #[] }
  let lines := w.lines.toList
  let sorted := if result.isTimedOut then lines.mergeSort fun a b => decide (a ≤ b) else lines
  pure (result, w.exports.toList, sorted)

/-- What each step of a script shows, or nothing where the script does not come to its end. -/
def play (settings : Settings) (responses : List Response) (spawn : Bool) (steps : List Step) :
    Option (List (Result × List Export × List String)) :=
  let clock : Instant := .afterDay
  let world : World :=
    { clock, provider := .start settings responses clock, hasProvider := true, lastWindow := none
      registry := .empty, meters := [], instruments := [], succeeded := [], exports := #[], lines := #[] }
  let script : Scripted (List (Result × List Export × List String)) := do
    if spawn then host.start
    steps.mapM observe
  let shown := (script.run world).1
  if shown.any (·.1.isCrash) then none else some shown

end Telemetry.Provider.Script
