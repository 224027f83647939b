import Telemetry.Channel.Receiver
import Telemetry.Transition

/-! A channel as a whole: every order in which senders and the receiver can take their
steps. Main definitions: `System.step`, the outcome of one step, and `Run`.

A receiver can be dropped before it enters its loop. From then on whatever runs it is taken to run
it to the end: it may be slow, and a batch may panic, but its loop is not taken away half done. -/
namespace Telemetry.Channel

structure System (β ω : Type) where
  capacity : Nat
  shared : Shared β ω
  receiver : Receiver β ω

/-- What can happen next. Dropping the sender is the same step as closing. -/
inductive Label (β ι ω : Type) where
  | send (x : ι)
  | onNextFlush (w : ω)
  | onStopped (w : ω)
  | close
  | abandon
  /-- The receiver enters its loop, or goes without having done so. -/
  | enter (now : Instant)
  | drop
  | look (now later : Instant)
  | invoke
  | settle (outcome : Outcome β)
  | decide
  | wake
  | leave

namespace System

variable {β ι ω : Type} [Buffer β ι]

def start (capacity : Nat) (receiver : Receiver β ω) : System β ω := ⟨capacity, .start, receiver⟩

/-- Watchers that an operation of the sender runs itself. -/
def ran (watchers : List ω) : List (Effect β ω) :=
  if watchers.isEmpty then [] else [.notify watchers]

/-- The state after a step and its effects, or nothing where the step is not possible. -/
def step (y : System β ω) : Label β ι ω → Option (System β ω × List (Effect β ω))
  | .send x => some ({ y with shared := y.shared.send y.capacity x }, [])
  | .onNextFlush w =>
    let (shared, now) := y.shared.onNextFlush w
    some ({ y with shared }, ran now)
  | .onStopped w =>
    let (shared, now) := y.shared.watchStopped w
    some ({ y with shared }, ran now)
  | .close => some ({ y with shared := y.shared.close }, [])
  | .abandon =>
    let (shared, now) := y.shared.abandon
    some ({ y with shared }, ran now)
  | .enter now =>
    match y.receiver.phase with
    | .created =>
      match y.receiver.enter now with
      | some receiver => some ({ y with receiver }, [])
      | none => some ({ y with receiver := { y.receiver with phase := .leaving } }, [])
    | _ => none
  | .drop =>
    match y.receiver.phase with
    | .created => some ({ y with receiver := { y.receiver with phase := .leaving } }, [])
    | _ => none
  | .look now later =>
    match y.receiver.phase with
    | .looking =>
      let (receiver, shared, effects) := y.receiver.look now later y.shared
      some ({ y with receiver, shared }, effects)
    | _ => none
  | .invoke =>
    match y.receiver.phase with
    | .calling batch watchers =>
      let (receiver, effects) := y.receiver.invoke batch watchers
      some ({ y with receiver }, effects)
    | _ => none
  | .settle outcome =>
    match y.receiver.phase with
    | .running watchers =>
      let (receiver, shared, effects) := y.receiver.settle outcome watchers y.shared
      some ({ y with receiver, shared }, effects)
    | _ => none
  | .decide =>
    match y.receiver.phase with
    | .deciding retryable watchers =>
      let (receiver, effects) := y.receiver.considerRetry retryable watchers y.shared
      some ({ y with receiver }, effects)
    | _ => none
  | .wake =>
    match y.receiver.phase with
    | .retrying batch watchers =>
      let (receiver, shared) := y.receiver.resume batch watchers y.shared
      some ({ y with receiver, shared }, [])
    | .idle => some ({ y with receiver := { y.receiver with phase := .looking } }, [])
    | _ => none
  | .leave =>
    match y.receiver.phase with
    | .leaving =>
      let (receiver, shared, effects) := y.receiver.leave y.shared
      some ({ y with receiver, shared }, effects)
    | _ => none

end System

/-- One step of a run of a channel. -/
abbrev Event (β ι ω : Type) := Telemetry.Event (System β ω) (Label β ι ω) (Effect β ω)

/-- The runs of a channel from `first`. -/
abbrev Run {β ι ω : Type} [Buffer β ι] (first : System β ω) :
    List (Event β ι ω) → System β ω → Prop :=
  Telemetry.Run System.step first

end Telemetry.Channel
