import Telemetry.Provider.System
import Telemetry.Time.Timeline

/-! A metrics provider on a timeline: its worker waits for as long as it says, and its
exporter answers when it does. -/
namespace Telemetry.Provider

/-- What an exporter makes of an attempt. -/
inductive Response where
  | succeed
  | fail (e : ExportError)
  /-- It never comes to an end by itself. -/
  | hang
  /-- It panics when it is called. -/
  | panic
  /-- It panics once it is at work. -/
  | panicAtWork
deriving DecidableEq, Repr

/-- When a response to a call at `now` comes, and what it then is. -/
def Response.reply (now : Instant) (exportTimeout : Duration) : Response → Instant × Reply
  | .succeed => (now, .ready (.ok ()))
  | .fail e => (now, .ready (.error e))
  | .hang => (now + exportTimeout, .late)
  | .panic | .panicAtWork => (now, .panicked)

/-- How an exporter with a state `ε` responds. -/
structure Exporter (ε : Type) where
  panics : ε → Bool
  respond : ε → Batch → Response × ε

/-- A provider, what its worker waits for, and the exporter. -/
structure Timed (ε : Type) where
  system : System
  exporter : ε
  /-- When the worker's wait is over. -/
  wakeAt : Instant
  /-- What the attempt at hand will come to, and when. -/
  reply : Instant × Reply

/-- What a provider shows of its work. -/
inductive Sight where
  | notice (n : Notice)
  | attempt (a : Attempt) (r : Response)

def timestampAt (t : Instant) : Timestamp := .ofNanos t.nanos

namespace Timed

variable {ε : Type}

def start (settings : Settings) (exporter : ε) (now : Instant) : Timed ε :=
  ⟨.build settings (timestampAt now), exporter, now, (now, .late)⟩

def perform (x : Exporter ε) (now : Instant) (p : Timed ε) : Effect → Timed ε × List Sight
  | .notice n => (p, [.notice n])
  | .wait d => ({ p with wakeAt := now + d }, [])
  | .attempt a =>
    let (response, exporter) := x.respond p.exporter a.batch
    ({ p with exporter, reply := response.reply now p.system.settings.exportTimeout },
      [.attempt a response])

def performAll (x : Exporter ε) (now : Instant) (p : Timed ε) : List Effect → Timed ε × List Sight
  | [] => (p, [])
  | e :: rest =>
    let (p, first) := p.perform x now e
    let (p, others) := p.performAll x now rest
    (p, first ++ others)

/-- Takes a step at a time, where it is possible. -/
def apply (x : Exporter ε) (now : Instant) (l : Label) (p : Timed ε) : Timed ε × List Sight :=
  match p.system.step l with
  | none => (p, [])
  | some (system, effects) => { p with system }.performAll x now effects

/-- The next step of the worker: when it is due, and which it is if taken at a given time. -/
def nextStep? (x : Exporter ε) (now : Instant) (p : Timed ε) : Option (Timeline.Work Label) :=
  match p.system.channel.receiver.phase with
  | .created => if p.system.holdsStarter then none else some ⟨now, .enter⟩
  | .looking => some ⟨now, fun time => .look time time⟩
  | .calling _ _ => some ⟨now, fun time => .collect (timestampAt time) [] (x.panics p.exporter)⟩
  | .running _ =>
    some ⟨if p.system.drain.isCancelled then now else p.reply.1, fun _ => .poll p.reply.2⟩
  | .deciding _ _ => some ⟨now, fun _ => .decide⟩
  | .retrying _ _ | .idle => some ⟨p.wakeAt, fun _ => .wake⟩
  | .leaving => some ⟨now, fun _ => .leave⟩
  | .exited => none

/-- The next step of the worker, and what it comes to. -/
def nextWork? (x : Exporter ε) (now : Instant) (p : Timed ε) :
    Option (Timeline.Work (Timed ε × List Sight)) :=
  (p.nextStep? x now).map fun work => ⟨work.due, fun time => p.apply x time (work.outcome time)⟩

def hasExited (p : Timed ε) : Bool :=
  match p.system.channel.receiver.phase with
  | .exited => true
  | _ => false

end Timed

/-- What calls of a provider need of the world around it. -/
structure Host (σ : Type) where
  now : σ → Instant
  system : σ → System
  apply : Label → σ → σ
  /-- Waits until a condition holds, but not past a point in time. -/
  wait : Instant → (σ → Bool) → σ → σ

namespace Host

variable {σ : Type}

/-- Follows the caller at a place to the end of its call. -/
def follow (h : Host σ) (place : Nat) : Nat → StateM σ Caller
  | 0 => pure .panicked
  | fuel + 1 => do
    let caller := ((h.system (← get)).callers[place]?).getD .panicked
    if caller.isDone then pure caller
    else
      match caller with
      | .awaitingFlush limit | .awaitingWorker _ limit =>
        modify (h.wait limit fun s => decide (place ∈ (h.system s).notified))
        modify fun s => h.apply (.expire place (h.now s)) s
      | _ => pure ()
      modify fun s => h.apply (.act place (h.now s)) s
      h.follow place fuel

/-- Makes a call and gives what it ends with. -/
def call (h : Host σ) (c : Call) : StateM σ Caller := do
  let s ← get
  set (h.apply (.call c (h.now s)) s)
  h.follow (h.system s).callers.length ((Caller.ofCall (h.now s) c).stepsLeft + 1)

def start (h : Host σ) : StateM σ Unit := do
  let _ ← h.call .start

/-- Whether a flush was done in time, or nothing where it panics. -/
def flush (h : Host σ) (timeout : Duration) : StateM σ (Option Bool) := do
  match ← h.call (.flush timeout) with
  | .flushed inTime => pure (some inTime)
  | _ => pure none

/-- How a shutdown ended, or nothing where it panics. -/
def shutDown (h : Host σ) (deadline : Duration) : StateM σ (Option ShutdownOutcome) := do
  match ← h.call (.shutDown deadline) with
  | .shutDown outcome => pure (some outcome)
  | _ => pure none

/-- Records a value: its admission, and its sending if it is admitted. -/
def record (h : Host σ) (i : Instrument) (attributes : Attributes) (value : MeasuredValue) :
    StateM σ Unit :=
  modify fun s => h.apply (.send 0) (h.apply (.record ⟨i, value, attributes, timestampAt (h.now s)⟩) s)

end Host
end Telemetry.Provider
