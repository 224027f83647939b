import Telemetry.Channel.Capacity
import Telemetry.Channel.Delay
import Telemetry.Channel.Shared
import Telemetry.Time.Instant

/-! The receiving half of a channel. It looks at the channel again and again, takes a batch
when one is due, hands it to a callback, tries failed batches again, and waits in between.
Every function here is one step between two points at which senders can act: a step under
the channel's lock, the start of a callback, or its end. -/
namespace Telemetry.Channel

/-- Where the receiver is in its loop. -/
inductive Phase (β ω : Type) where
  /-- Not started yet. -/
  | created
  /-- About to look at the channel. -/
  | looking
  /-- About to hand a batch to the callback. -/
  | calling (batch : β) (watchers : List ω)
  /-- The callback is at work. -/
  | running (watchers : List ω)
  /-- The callback failed with a batch that could be tried again. -/
  | deciding (retryable : β) (watchers : List ω)
  /-- Waiting to try a batch again. -/
  | retrying (batch : β) (watchers : List ω)
  /-- Waiting to look again. -/
  | idle
  /-- Out of the loop, about to tell those that wait for the end. -/
  | leaving
  | exited

/-- What the callback made of a batch. A failure carries what is worth another attempt. -/
inductive Outcome (β : Type) where
  | processed
  | failed (retryable : β)
  | panicked

/-- What a step of the receiver does to the world outside the channel. -/
inductive Effect (β ω : Type) where
  /-- Runs watchers, one after the other, as `runAll` does. -/
  | notify (watchers : List ω)
  | invoke (batch : β)
  | wait (d : Duration)

/-- Runs watchers, each as the action given for it. What one of them throws goes no further. -/
def runAll {ω ε : Type} {m : Type → Type} [Monad m] (act : ω → ExceptT ε m Unit)
    (watchers : List ω) : m Unit :=
  watchers.forM fun w => do
    let _ ← (act w).run

structure Receiver (β ω : Type) where
  /-- The time between batches; without one, batches are taken as soon as there are items. -/
  interval : Option Duration
  /-- The size at which a batch is taken before its time. -/
  threshold : Option Nat
  idleDelay : Delay
  retryDelay : Delay
  retry : Retry
  capacity : Capacity
  /-- The room set aside with the last batch, for the buffer to be filled once the next is taken. -/
  room : Nat
  nextTick : Option Instant
  phase : Phase β ω

namespace Receiver

variable {β ι ω : Type} [Buffer β ι]

def create (interval : Option Duration) (threshold : Option Nat) (maxRetries : Nat) :
    Receiver β ω where
  interval
  threshold
  idleDelay := .ofStep (.ofMillis 1) (.ofMillis 100)
  retryDelay := .ofStep (.ofMillis 50) (.ofMillis 1000)
  retry := .ofMax maxRetries
  capacity := .start
  room := 0
  nextTick := none
  phase := .created

/-- How often a batch is tried again where nothing else is said. -/
def defaultRetries : Nat := 10

/-- Enters the loop, or fails where the first tick is beyond the clock. -/
def enter (now : Instant) (r : Receiver β ω) : Option (Receiver β ω) :=
  match r.interval with
  | none => some { r with phase := .looking }
  | some interval =>
    (now.add? interval).map fun tick => { r with nextTick := some tick, phase := .looking }

def isTickDue (now : Instant) (r : Receiver β ω) : Bool :=
  (r.nextTick.map fun tick => decide (tick ≤ now)).getD true

/-- Whether the channel is to be looked into: it is time, somebody asked, the channel is
closed, or it holds enough. -/
def isDue (now : Instant) (r : Receiver β ω) (s : Shared β ω) : Bool :=
  r.isTickDue now || s.isFlushRequested || !s.isOpen ||
    (r.threshold.map fun n => decide (n ≤ s.queueLength)).getD false

/-- The tick after a look at `now`. Ticks keep their distance, and late ones do not pile up. -/
def tickAfter (now : Instant) (r : Receiver β ω) : Option Instant :=
  match r.nextTick, r.interval with
  | some tick, some interval =>
    if tick ≤ now then some (if now < tick + interval then tick + interval else now + interval)
    else some tick
  | tick, _ => tick

/-- Goes to wait for the next look, but not past the next tick. -/
def rest (now : Instant) (r : Receiver β ω) : Receiver β ω × List (Effect β ω) :=
  let (delay, idleDelay) := r.idleDelay.next
  let wait := match r.nextTick with
    | some tick => delay.shorter (tick.since now)
    | none => delay
  ({ r with idleDelay, phase := .idle }, [.wait wait])

/-- Looks at the channel at `now`, and waits as of `later` where there is nothing to do. -/
def look (now later : Instant) (r : Receiver β ω) (s : Shared β ω) :
    Receiver β ω × Shared β ω × List (Effect β ω) :=
  if s.isAbandoned then ({ r with phase := .leaving }, s, [])
  else
    let next := { r with nextTick := r.tickAfter now }
    if !r.isDue now s then
      let (r, effects) := next.rest later
      (r, s, effects)
    else if 0 < s.queueLength then
      let (room, capacity) := r.capacity.next s.queueLength
      ({ next with
        capacity
        room
        retry := r.retry.reset
        retryDelay := r.retryDelay.reset
        idleDelay := r.idleDelay.reset
        phase := .calling s.filling s.waiting },
        { s with filling := Buffer.empty, waiting := [], isFlushRequested := false, isInBatch := true },
        [])
    else
      let emptied := { s with waiting := [], isFlushRequested := false, isInBatch := false }
      if !s.isOpen then ({ next with phase := .leaving }, emptied, [.notify s.waiting])
      else
        let (r, effects) := next.rest later
        (r, emptied, .notify s.waiting :: effects)

/-- Hands the batch to the callback. -/
def invoke (batch : β) (watchers : List ω) (r : Receiver β ω) : Receiver β ω × List (Effect β ω) :=
  ({ r with phase := .running watchers }, [.invoke batch])

/-- The callback is done. -/
def settle (outcome : Outcome β) (watchers : List ω) (r : Receiver β ω) (s : Shared β ω) :
    Receiver β ω × Shared β ω × List (Effect β ω) :=
  let done := { r with phase := .looking }
  match outcome with
  | .processed =>
    (done, { s with counters := { s.counters with processed := s.counters.processed + 1 } },
      [.notify watchers])
  | .panicked =>
    (done, { s with counters := { s.counters with panicked := s.counters.panicked + 1 } },
      [.notify watchers])
  | .failed retryable =>
    let s := { s with counters := { s.counters with failed := s.counters.failed + 1 } }
    if 0 < Buffer.size retryable then ({ r with phase := .deciding retryable watchers }, s, [])
    else (done, s, [.notify watchers])

/-- Goes to wait for another attempt, unless the channel is abandoned or it was the last. -/
def considerRetry (retryable : β) (watchers : List ω) (r : Receiver β ω) (s : Shared β ω) :
    Receiver β ω × List (Effect β ω) :=
  if s.isAbandoned then ({ r with phase := .looking }, [.notify watchers])
  else
    let (allowed, retry) := r.retry.next
    if allowed then
      let (delay, retryDelay) := r.retryDelay.next
      ({ r with retry, retryDelay, phase := .retrying retryable watchers }, [.wait delay])
    else ({ r with retry, phase := .looking }, [.notify watchers])

/-- The wait before another attempt is over. -/
def resume (batch : β) (watchers : List ω) (r : Receiver β ω) (s : Shared β ω) :
    Receiver β ω × Shared β ω :=
  ({ r with phase := .calling batch watchers },
    { s with counters := { s.counters with retried := s.counters.retried + 1 } })

/-- Tells all that wait that the receiver is gone. -/
def leave (r : Receiver β ω) (s : Shared β ω) : Receiver β ω × Shared β ω × List (Effect β ω) :=
  let (s, watchers) := s.stop
  ({ r with phase := .exited }, s, [.notify watchers])

end Receiver
end Telemetry.Channel
