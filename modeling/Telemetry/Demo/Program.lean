import Telemetry.Console.Output
import Telemetry.Demo.Settings
import Telemetry.Meter
import Telemetry.Otlp.LogQueue
import Telemetry.Provider.Timed
import Telemetry.Shutdown.Coordinator

/-! The demo program: it records synthetic requests, logs about them, and shuts its pipeline
down within a deadline. Its run is a value: what it prints on a given network, in the time of
its own clock. -/
namespace Telemetry.Demo

/-- What a run leaves behind. -/
structure Run where
  code : UInt32
  stdout : List String
  stderr : String
deriving DecidableEq, Repr

/-- What is printed, line by line; the last line ends like the others. -/
def linesOf (printed : String) : List String := (printed.splitOn "\n").dropLast

/-- A failure, from what could not be done down to the first cause. -/
structure Failure where
  context : String
  causes : List String
deriving DecidableEq, Repr

namespace Failure

/-- A text behind a mark, with its further lines below its first one. -/
def hanging (mark text : String) : String :=
  ("\n" ++ String.ofList (List.replicate mark.length ' ')).intercalate (text.splitOn "\n") |> (mark ++ ·)

/-- Causes, numbered where there are several. -/
def causeLines (causes : List String) : List String :=
  match causes with
  | [cause] => [hanging "    " cause]
  | _ => causes.mapIdx fun i cause => hanging ("    " ++ Decimal.natText i ++ ": ") cause

def message (f : Failure) : String :=
  "Error: " ++ f.context ++ "\n\nCaused by:\n" ++ "\n".intercalate (causeLines f.causes) ++ "\n"

def ofFault (context : String) (f : Transport.Fault) : Failure := ⟨context, f.message :: f.cause?.toList⟩

end Failure

/-- Where the program's records go: to the console, and into a queue if logs are sent. -/
structure Journal where
  output : Console.Output
  terminal : Bool
  minLevel : Level
  queue : Option Otlp.LogQueue
  printed : Array String

namespace Journal

def print (j : Journal) (line : String) : Journal := { j with printed := j.printed.push (line ++ "\n") }

def log (j : Journal) (now : Instant) (scope : String) (level : Level) (message : String)
    (properties : List (String × Log.Value)) : Journal :=
  if j.minLevel ≤ level then
    let r : Log.Record := ⟨Provider.timestampAt now, level, scope, message, properties⟩
    { j with
      printed := j.printed.push (Console.write j.terminal j.output r none).1
      queue := j.queue.map (·.emit now r) }
  else j

def lines (j : Journal) : List String := linesOf (String.join j.printed.toList)

end Journal

/-- The scope of the program's own records. -/
def appScope : String := "myapp.logger"

/-- The scope of what the pipeline says about itself. -/
def pipelineScope : String := "tally"

def serviceName : String := "my-golang-application"

def serviceVersion : String := "1.0.0"

structure World where
  net : Transport.Network
  clock : Instant
  journal : Journal
  provider : Provider.Timed Transport.Connection

abbrev Program := StateM World

/-- Exports over the connection. Such an exporter never panics. -/
def exporter (net : Transport.Network) : Provider.Exporter Transport.Connection where
  panics _ := false
  respond c b :=
    match Otlp.exportMetrics net b c with
    | (c, .ok ()) => (.succeed, c)
    | (c, .error e) => (.fail e, c)

namespace World

def see (now : Instant) (w : World) : Provider.Sight → World
  | .notice n => { w with journal := w.journal.log now pipelineScope n.level n.message n.properties }
  | .attempt _ _ => w

def seeAll (now : Instant) (w : World)
    (p : Provider.Timed Transport.Connection × List Provider.Sight) : World :=
  p.2.foldl (see now) { w with provider := p.1 }

def apply (l : Provider.Label) (w : World) : World :=
  w.seeAll w.clock (w.provider.apply (exporter w.net) w.clock l)

def withQueue (w : World) (q : Otlp.LogQueue) : World := { w with journal := { w.journal with queue := some q } }

/-- The next work of the provider's worker or of the queue. -/
def nextWork? (now : Instant) (w : World) : Option (Timeline.Work World) :=
  Timeline.Work.first
    ((w.provider.nextWork? (exporter w.net) now).map fun work =>
      ⟨work.due, fun time => w.seeAll time (work.outcome time)⟩)
    (w.journal.queue.bind fun q => (q.nextWork? w.net now).map (·.map w.withQueue))

def wait (limit : Instant) (stop : World → Bool) (w : World) : World :=
  let (clock, w) := Timeline.advance nextWork? limit stop w.clock w
  { w with clock }

def host : Provider.Host World := ⟨World.clock, (·.provider.system), apply, wait⟩

end World

def print (line : String) : Program Unit := modify fun w => { w with journal := w.journal.print line }

def log (scope : String) (level : Level) (message : String) (properties : List (String × Log.Value)) :
    Program Unit :=
  modify fun w => { w with journal := w.journal.log w.clock scope level message properties }

def sleep (d : Duration) : Program Unit :=
  modify fun w => w.wait (w.clock + d) fun _ => false

/-- Flushes the queue, if there is one, and says whether it was done in time. -/
def flushQueue (timeout : Duration) : Program Bool := do
  let w ← get
  match w.journal.queue with
  | none => pure true
  | some q => do
    let isFlushed (w : World) : Bool := w.journal.queue.any (·.isNotified)
    set ((w.withQueue (q.watchFlush w.clock)).wait (w.clock + timeout) isFlushed)
    return isFlushed (← get)

/-- Elapsed time in milliseconds, with a fraction. -/
def elapsedMillis (d : Duration) : Binary64 :=
  ⟨((Float.ofNat d.seconds + Float.ofNat d.subsecondNanos / 1000000000) * 1000).toBits⟩

def attributes (l : List (String × String)) : Attributes :=
  .ofList (l.map fun (key, value) => ⟨key, .string value⟩)

/-- The counter of requests and the histogram of the time they take. -/
def instruments : Instrument × Instrument :=
  let scope : Scope := ⟨"myapp.metrics", some serviceVersion⟩
  ({ id := 0, name := "app.requests.count", kind := .counter, unit := some "1"
     description := some "Total number of requests received", scope, boundaries := none },
    { id := 1, name := "app.response.time", kind := .histogram, unit := some "ms"
      description := some "Response time in milliseconds", scope
      boundaries := some Instrument.defaultBoundaries })

def handleRequest (delay : Duration) (number : Nat) : Program Unit := do
  let (requests, responseTime) := instruments
  let id : String × Log.Value := ("request_id", .unsigned (.ofNat number))
  log appScope .info "Handling new request" [id]
  World.host.record requests (attributes [("endpoint", "/api/test")]) (.increment 1)
  let began := (← get).clock
  sleep delay
  let elapsed := elapsedMillis ((← get).clock.since began)
  World.host.record responseTime (attributes [("endpoint", "/api/test"), ("status", "success")])
    (.observation elapsed)
  log appScope .info "Request processed" [id, ("processing_time_ms", .float elapsed),
    ("message", .text ("hello world " ++ Decimal.natText number))]

/-- A shutdown acts on the provider and, where there is one, on the queue of logs. -/
def surroundings : Shutdown.Surroundings World Unit where
  now := World.clock
  shutDown := some World.host.shutDown
  flush _ timeout := some <$> flushQueue timeout
  log n := some <$> log pipelineScope n.level n.message n.properties

def logMetrics (l : List (String × Nat)) : Program Unit :=
  l.forM fun (name, n) =>
    log pipelineScope .debug "internal metric" [("metric", .text name), ("value", .unsigned (.ofNat n))]

/-- What the program does once its pipeline is set up. -/
def body (s : Settings) (shutdownTimeout : Duration) : Program Unit := do
  World.host.start
  print "Starting application with tally metrics and logs..."
  (List.range s.requests).forM (handleRequest s.delay)
  print ("Completed processing " ++ Decimal.natText s.requests ++ " requests")
  print "Waiting for telemetry data to be exported..."
  sleep s.linger
  let report ← Shutdown.run surroundings shutdownTimeout (if s.sendsLogs then [()] else [])
  let w ← get
  logMetrics (w.provider.system.metrics ++ w.provider.exporter.counters.named)
  logMetrics ((((← get).journal.queue).map (·.metrics)).getD [])
  log pipelineScope .debug "shutdown complete"
    [("clean", .bool report.isClean), ("elapsed_ms", .unsigned (.ofNat report.elapsed.clampedMillis))]
  if !(← flushQueue (.ofSeconds 1)) then
    log pipelineScope .debug "log output wasn't flushed within 1s" []
  print "Application finished"

/-- The program's resource: its own name and version, and what the environment adds. -/
def resource (c : Config) (e : Environment) : Except Error Resource :=
  ((({} : ResourceBuilder).withServiceName (c.serviceName.getD serviceName)).withServiceVersion
    serviceVersion |>.withEnvironment e).build

def inContext {α : Type} (context : String) (r : Except Error α) : Except Failure α :=
  r.mapError fun e => ⟨context, [e.message]⟩

/-- Everything up to the warnings about the configuration: the configuration, the warnings, the
resource, and the queue of logs. -/
def prepare (s : Settings) (e : Environment) (now : Instant) :
    Except Failure (Config × List String × Resource × Option Otlp.LogQueue) := do
  let config ← inContext "failed to read configuration" (s.config e)
  let warnings ← inContext "invalid configuration" config.validate
  let resource ← inContext "invalid resource attributes" (resource config e)
  if !s.sendsLogs then return (config, warnings, resource, none)
  let connection ← ((Otlp.ExporterSettings.ofConfig config).connection .logs).mapError
    (Failure.ofFault "failed to configure the log exporter")
  return (config, warnings, resource, some (.start resource connection now))

/-- Runs the program with its settings. -/
def runWith (net : Transport.Network) (e : Environment) (now : Instant) (s : Settings) : Run :=
  match prepare s e now with
  | .error failure => ⟨1, [], failure.message⟩
  | .ok (config, warnings, resource, queue) =>
    let journal : Journal :=
      { output := Console.Output.standard.withJson s.json
        terminal := Console.terminalShowsColors ((e.value? "TERM").map (·.shown)) (e.value? "NO_COLOR").isSome
        minLevel := s.logLevel, queue, printed := #[] }
    let journal := warnings.foldl (fun j warning =>
      j.log now pipelineScope .warn "configuration warning" [("warning", .text warning)]) journal
    match (Otlp.ExporterSettings.ofConfig config).connection .metrics with
    | .error fault =>
      ⟨1, journal.lines, (Failure.ofFault "failed to configure the metrics exporter" fault).message⟩
    | .ok connection =>
      let settings : Provider.Settings :=
        { resource, interval := config.interval, exportTimeout := config.exportTimeout
          temporality := config.temporality, diagnostics := some ⟨s.logLevel, false⟩ }
      let world : World := ⟨net, now, journal, .start settings connection now⟩
      let ((), world) := (body s config.shutdownTimeout).run world
      ⟨0, world.journal.lines, ""⟩

/-- Runs the program on a command line. -/
def run (net : Transport.Network) (e : Environment) (now : Instant) (arguments : List String) : Run :=
  match interface.read e arguments with
  | .ok reading => runWith net e now (.ofReading reading)
  | .error .help => ⟨0, linesOf (CommandLine.display e (interface.help e)), ""⟩
  | .error .version => ⟨0, [interface.program ++ " " ++ interface.version], ""⟩
  | .error (.fault f) => ⟨2, [], CommandLine.display e (f.message interface)⟩

end Telemetry.Demo
