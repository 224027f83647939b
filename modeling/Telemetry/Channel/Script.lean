import Telemetry.Channel.Folding
import Telemetry.Channel.Receiver

/-! Scripted runs of a channel of integers on one thread: what the sender does between the
receiver's runs, during each of its waits, and inside each call of its callback. A script
tells the order of all steps, so time stands still. -/
namespace Telemetry.Channel.Script

/-- What a run shows. -/
inductive Report where
  | batch (items : List Int)
  | wait (d : Duration)
  | flushed (label : String)
  | stopped (label : String)
  | isOpen (b : Bool)
  | metrics (l : List (String × Nat))
  | receiverMetrics (l : Option (List (String × Nat)))
  | blockingFlush (b : Bool)
  | blockingClose (b : Bool)
  | returned
  /-- A panic that reached the caller and that the script survives. -/
  | panic
  /-- A panic that ends the script. -/
  | crash
  | noSender
deriving DecidableEq, Repr

/-- A watcher says that it runs, unless it only ends a blocking call, and may then panic. -/
structure Watcher where
  report : Option Report
  panics : Bool
deriving Repr

inductive SenderStep where
  | send (x : Int)
  /-- Sends the integers from `first` up to, but not including, `last`. -/
  | sendRange (first last : Int)
  | close
  | abandon
  | drop
  | isOpen
  | metrics
  | onFlush (label : String) (panics : Bool)
  | onStopped (label : String) (panics : Bool)
  | blockingFlush (timeout : Duration)
  | blockingClose (timeout : Duration)
deriving Repr

/-- What the callback makes of a batch. -/
inductive Result where
  | ok
  | fail
  | retry
  | retryFirst (n : Nat)
  | panic
deriving Repr

/-- One call of the callback: what the sender does meanwhile, and the result. -/
structure Call where
  during : List SenderStep
  result : Result
deriving Repr

inductive Step where
  | sender (s : SenderStep)
  | dropReceiver
  | receiverMetrics
  /-- Runs the receiver to its end. With `waits`, every wait shows and brings the next list
  of steps, or closes the channel when there is none left; without, the run blocks the
  script: waits just pass, and nothing catches a panic. -/
  | run (calls : List Call) (waits : Option (List (List SenderStep)))
deriving Repr

/-- Buffers of integers that can be listed and put together from a list. -/
class Listed (β : Type) extends Buffer β Int where
  toList : β → List Int
  ofList : List Int → β

instance : Listed (List Int) where
  toList := id
  ofList := id

instance : Listed Folding where
  toList := Folding.items
  ofList := Folding.ofList

/-- The channel, as far as its two halves are still there, and the reports so far. -/
structure World (β : Type) where
  capacity : Nat
  shared : Shared β Watcher
  hasSender : Bool
  receiver : Option (Receiver β Watcher)
  reports : Array Report

variable {β : Type} [Listed β]

abbrev Scripted (β : Type) := StateM (World β)

def report (r : Report) : Scripted β Unit := modify fun y => { y with reports := y.reports.push r }

/-- What a watcher does. A panic is thrown. -/
def Watcher.act (w : Watcher) : ExceptT Unit (Scripted β) Unit := do
  w.report.forM fun r => ExceptT.lift (Script.report r)
  if w.panics then throw ()

/-- Runs watchers for the channel, which survives their panics. -/
def notify (watchers : List Watcher) : Scripted β Unit := runAll Watcher.act watchers

/-- Runs watchers that nothing stands between and the caller. -/
def runDirectly (watchers : List Watcher) : Scripted β Unit :=
  watchers.forM fun w => do
    match ← w.act.run with
    | .ok () => pure ()
    | .error () => report .panic

def update (f : Shared β Watcher → Shared β Watcher) : Scripted β Unit :=
  modify fun y => { y with shared := f y.shared }

/-- Applies an operation and gives the watchers that it leaves to run. -/
def updateWatched (f : Shared β Watcher → Shared β Watcher × List Watcher) :
    Scripted β (List Watcher) :=
  modifyGet fun y =>
    let (shared, watchers) := f y.shared
    (watchers, { y with shared })

/-- The moment at which everything happens. -/
def now : Instant := .afterDay

/-- The integers from `first`, `count` of them. -/
def range (first : Int) (count : Nat) : List Int := (List.range count).map fun (i : Nat) => first + (i : Int)

/-- Ends a blocking call: it reports whether it was told to end, and panics where its
deadline is beyond the clock. -/
def endBlocking (timeout : Duration) (r : Report) : Scripted β Unit :=
  report (if (now.add? timeout).isSome then r else .panic)

def silent : Watcher := ⟨none, false⟩

def senderStep (s : SenderStep) : Scripted β Unit := do
  let y ← get
  if !y.hasSender then report .noSender
  else
    match s with
    | .send x => update (·.send y.capacity x)
    | .sendRange first last =>
      update fun shared => (range first (last - first).toNat).foldl (Shared.send y.capacity) shared
    | .close => update Shared.close
    | .abandon => do notify (← updateWatched Shared.abandon)
    | .drop =>
      update Shared.close
      modify fun y => { y with hasSender := false }
    | .isOpen => report (.isOpen y.shared.isOpen)
    | .metrics => report (.metrics y.shared.metrics)
    | .onFlush label panics =>
      runDirectly (← updateWatched (·.onNextFlush ⟨some (.flushed label), panics⟩))
    | .onStopped label panics =>
      runDirectly (← updateWatched (·.watchStopped ⟨some (.stopped label), panics⟩))
    | .blockingFlush timeout => do
      let watchers ← updateWatched (·.onNextFlush silent)
      endBlocking timeout (.blockingFlush !watchers.isEmpty)
    | .blockingClose timeout => do
      let watchers ← updateWatched (·.watchStopped silent)
      update Shared.close
      endBlocking timeout (.blockingClose !watchers.isEmpty)

/-- What is left of a script while the receiver runs. -/
structure Remaining where
  calls : List Call
  waits : Option (List (List SenderStep))

def outcomeOf (batch : β) : Result → Outcome β
  | .ok => .processed
  | .fail => .failed Buffer.empty
  | .retry => .failed batch
  | .retryFirst n => .failed (Listed.ofList ((Listed.toList batch).take n))
  | .panic => .panicked

/-- Plays the part of the callback. -/
def callback (batch : β) (rest : Remaining) : Scripted β (Outcome β × Remaining) := do
  report (.batch (Listed.toList batch))
  match rest.calls with
  | [] => pure (.processed, rest)
  | call :: calls =>
    call.during.forM senderStep
    pure (outcomeOf batch call.result, { rest with calls })

/-- Plays the part of the time that passes. -/
def wait (d : Duration) (rest : Remaining) : Scripted β Remaining :=
  match rest.waits with
  | none => pure rest
  | some waits => do
    report (.wait d)
    match waits with
    | [] =>
      senderStep .close
      pure rest
    | steps :: waits =>
      steps.forM senderStep
      pure { rest with waits := some waits }

def perform (rest : Remaining) : Effect β Watcher → Scripted β Remaining
  | .notify watchers => do
    notify watchers
    pure rest
  | .invoke _ => pure rest
  | .wait d => wait d rest

/-- One step of the receiver, or of the world that it waits for. -/
def receiverStep (r : Receiver β Watcher) (rest : Remaining) :
    Scripted β (Receiver β Watcher × Remaining) := do
  let s := (← get).shared
  let continueWith (next : Receiver β Watcher) (s : Shared β Watcher)
      (effects : List (Effect β Watcher)) : Scripted β (Receiver β Watcher × Remaining) := do
    update fun _ => s
    let rest ← effects.foldlM perform rest
    pure (next, rest)
  match r.phase with
  | .looking =>
    let (r, s, effects) := r.look now now s
    continueWith r s effects
  | .calling batch watchers => do
    let (r, _) := r.invoke batch watchers
    let (outcome, rest) ← callback batch rest
    let (r, s, effects) := r.settle outcome watchers (← get).shared
    update fun _ => s
    let rest ← effects.foldlM perform rest
    pure (r, rest)
  | .deciding retryable watchers =>
    let (r, effects) := r.considerRetry retryable watchers s
    continueWith r s effects
  | .retrying batch watchers =>
    let (r, s) := r.resume batch watchers s
    continueWith r s []
  | .idle => continueWith { r with phase := .looking } s []
  | .leaving =>
    let (r, s, effects) := r.leave s
    continueWith r s effects
  | .created | .running _ | .exited => pure (r, rest)

def runReceiver : Nat → Receiver β Watcher → Remaining → Scripted β Unit
  | 0, _, _ => pure ()
  | fuel + 1, r, rest =>
    match r.phase with
    | .exited => pure ()
    | _ => do
      let (r, rest) ← receiverStep r rest
      runReceiver fuel r rest

/-- Enough steps for any script: every wait and every call takes a few, and once the script
is at its end the channel is closed and one more batch can follow. -/
def stepBound (calls : List Call) (waits : List (List SenderStep)) : Nat :=
  8 * (2 * calls.length + 2 * waits.length + 8)

def step : Step → Scripted β Unit
  | .sender s => senderStep s
  | .receiverMetrics => do
    let y ← get
    report (.receiverMetrics (y.receiver.map fun _ => y.shared.metrics))
  | .dropReceiver => do
    if (← get).receiver.isSome then
      notify (← updateWatched Shared.stop)
      modify fun y => { y with receiver := none }
  | .run calls waits => do
    match (← get).receiver with
    | none => pure ()
    | some r =>
      modify fun y => { y with receiver := none }
      match r.enter now with
      | none => do
        notify (← updateWatched Shared.stop)
        report (if waits.isSome then .panic else .crash)
      | some r => do
        runReceiver (stepBound calls (waits.getD [])) r ⟨calls, waits⟩
        if waits.isNone then report .returned

/-- The settings of a channel. -/
structure Settings where
  capacity : Nat
  interval : Option Duration
  threshold : Option Nat
  maxRetries : Option Nat

/-- What each step of a script shows, with the counters that the sender sees after it, or
nothing where the script does not come to its end. -/
def play (β : Type) [Listed β] (settings : Settings) (steps : List Step) :
    Option (List (List Report × Option (List (String × Nat)))) :=
  let world : World β :=
    { capacity := settings.capacity, shared := .start, hasSender := true
      receiver := some (.create settings.interval settings.threshold
        (settings.maxRetries.getD Receiver.defaultRetries))
      reports := #[] }
  let oneStep (s : Step) : Scripted β (List Report × Option (List (String × Nat))) := do
    step s
    modifyGet fun y =>
      ((y.reports.toList, if y.hasSender then some y.shared.metrics else none), { y with reports := #[] })
  let shown := ((steps.mapM oneStep).run world).1
  if shown.any (·.1.contains .crash) then none else some shown

/-- Whether a channel keeps every item apart or folds equal ones. -/
inductive Kind where
  | listing
  | folding
deriving DecidableEq, Repr

def playKind (kind : Kind) (settings : Settings) (steps : List Step) :
    Option (List (List Report × Option (List (String × Nat)))) :=
  match kind with
  | .listing => play (List Int) settings steps
  | .folding => play Folding settings steps

end Telemetry.Channel.Script
