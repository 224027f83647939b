import Mathlib.Tactic.Common
import Telemetry.Channel.System

/-! What each step of a channel does, as a relation with one case for each way in which a
step can go. Every step of the executable system is one of these cases. -/
namespace Telemetry.Channel

variable {β ι ω : Type} [Buffer β ι]

/-- The counters after the end of a callback. -/
def Outcome.counted (c : Counters) : Outcome β → Counters
  | .processed => { c with processed := c.processed + 1 }
  | .panicked => { c with panicked := c.panicked + 1 }
  | .failed _ => { c with failed := c.failed + 1 }

namespace Receiver

variable (now : Instant) (r : Receiver β ω) (s : Shared β ω)

/-- The receiver once it has looked at `now`. -/
def ticked : Receiver β ω := { r with nextTick := r.tickAfter now }

/-- The receiver with the batch that is being filled in its hands. -/
def taking : Receiver β ω :=
  { r.ticked now with
    capacity := (r.capacity.next s.queueLength).2
    room := (r.capacity.next s.queueLength).1
    retry := r.retry.reset
    retryDelay := r.retryDelay.reset
    idleDelay := r.idleDelay.reset
    phase := .calling s.filling s.waiting }

/-- Entering the loop sets the first tick, where there is an interval, and nothing else. -/
theorem eq_of_enter {now : Instant} {r r' : Receiver β ω} (entered : r.enter now = some r') :
    ∃ tick, r' = { r with nextTick := tick, phase := .looking } ∧
      ∀ d, r.interval = some d → tick = some (now + d) := by
  unfold Receiver.enter at entered
  split at entered
  · next none =>
    cases entered
    exact ⟨r.nextTick, rfl, by simp [none]⟩
  · next interval regular =>
    obtain ⟨tick, shown, rfl⟩ := Option.map_eq_some_iff.mp entered
    refine ⟨some tick, rfl, fun d same => ?_⟩
    obtain rfl : interval = d := Option.some.inj (regular.symm.trans same)
    unfold Instant.add? at shown
    split at shown
    · exact shown.symm
    · cases shown

theorem phase_enter {now : Instant} {r r' : Receiver β ω} (entered : r.enter now = some r') :
    r'.phase = .looking := by
  obtain ⟨tick, rfl, _⟩ := eq_of_enter entered
  rfl

theorem retry_enter {now : Instant} {r r' : Receiver β ω} (entered : r.enter now = some r') :
    r'.retry = r.retry := by
  obtain ⟨tick, rfl, _⟩ := eq_of_enter entered
  rfl

/-- The receiver after one more retry is counted. -/
def retried (r : Receiver β ω) (b : β) (watchers : List ω) : Receiver β ω :=
  { r with
    retry := r.retry.next.2
    retryDelay := r.retryDelay.next.2
    phase := .retrying b watchers }

end Receiver

namespace Shared

/-- The channel once its batch is taken. -/
def taken (s : Shared β ω) : Shared β ω :=
  { s with filling := Buffer.empty, waiting := [], isFlushRequested := false, isInBatch := true }

/-- The channel after a look that was due and found no items. -/
def emptied (s : Shared β ω) : Shared β ω :=
  { s with waiting := [], isFlushRequested := false, isInBatch := false }

end Shared

namespace System

/-- The ways in which a step can go. -/
inductive Step (y : System β ω) : Label β ι ω → System β ω → List (Effect β ω) → Prop where
  | send (x : ι) : Step y (.send x) { y with shared := y.shared.send y.capacity x } []
  | onNextFlush (w : ω) : Step y (.onNextFlush w) { y with shared := (y.shared.onNextFlush w).1 }
      (ran (y.shared.onNextFlush w).2)
  | onStopped (w : ω) : Step y (.onStopped w) { y with shared := (y.shared.watchStopped w).1 }
      (ran (y.shared.watchStopped w).2)
  | close : Step y .close { y with shared := y.shared.close } []
  | abandon : Step y .abandon { y with shared := y.shared.abandon.1 } (ran y.shared.waiting)
  | enter (now : Instant) (r : Receiver β ω) (phase : y.receiver.phase = .created)
      (entered : y.receiver.enter now = some r) : Step y (.enter now) { y with receiver := r } []
  | enterBeyondClock (now : Instant) (phase : y.receiver.phase = .created)
      (late : y.receiver.enter now = none) :
      Step y (.enter now) { y with receiver := { y.receiver with phase := .leaving } } []
  | drop (phase : y.receiver.phase = .created) :
      Step y .drop { y with receiver := { y.receiver with phase := .leaving } } []
  | lookAbandoned (now later : Instant) (phase : y.receiver.phase = .looking)
      (abandoned : y.shared.isAbandoned = true) :
      Step y (.look now later) { y with receiver := { y.receiver with phase := .leaving } } []
  | lookEarly (now later : Instant) (phase : y.receiver.phase = .looking)
      (kept : y.shared.isAbandoned = false) (early : y.receiver.isDue now y.shared = false) :
      Step y (.look now later) { y with receiver := ((y.receiver.ticked now).rest later).1 }
        ((y.receiver.ticked now).rest later).2
  | lookTook (now later : Instant) (phase : y.receiver.phase = .looking)
      (kept : y.shared.isAbandoned = false) (due : y.receiver.isDue now y.shared = true)
      (some : 0 < y.shared.queueLength) :
      Step y (.look now later)
        { y with receiver := y.receiver.taking now y.shared, shared := y.shared.taken } []
  | lookEnded (now later : Instant) (phase : y.receiver.phase = .looking)
      (kept : y.shared.isAbandoned = false) (due : y.receiver.isDue now y.shared = true)
      (none : y.shared.queueLength = 0) (closed : y.shared.isOpen = false) :
      Step y (.look now later)
        { y with
          receiver := { y.receiver.ticked now with phase := .leaving }
          shared := y.shared.emptied }
        [.notify y.shared.waiting]
  | lookEmpty (now later : Instant) (phase : y.receiver.phase = .looking)
      (kept : y.shared.isAbandoned = false) (due : y.receiver.isDue now y.shared = true)
      (none : y.shared.queueLength = 0) (isOpen : y.shared.isOpen = true) :
      Step y (.look now later)
        { y with receiver := ((y.receiver.ticked now).rest later).1, shared := y.shared.emptied }
        (.notify y.shared.waiting :: ((y.receiver.ticked now).rest later).2)
  | invoke (b : β) (watchers : List ω) (phase : y.receiver.phase = .calling b watchers) :
      Step y .invoke { y with receiver := { y.receiver with phase := .running watchers } } [.invoke b]
  | settleOver (outcome : Outcome β) (watchers : List ω)
      (phase : y.receiver.phase = .running watchers)
      (spent : ∀ b, outcome = .failed b → Buffer.size b = 0) :
      Step y (.settle outcome)
        { y with
          receiver := { y.receiver with phase := .looking }
          shared := { y.shared with counters := outcome.counted y.shared.counters } }
        [.notify watchers]
  | settleRetryable (b : β) (watchers : List ω) (phase : y.receiver.phase = .running watchers)
      (some : 0 < Buffer.size b) :
      Step y (.settle (.failed b))
        { y with
          receiver := { y.receiver with phase := .deciding b watchers }
          shared := { y.shared with counters := (Outcome.failed b).counted y.shared.counters } }
        []
  | decideAbandoned (b : β) (watchers : List ω) (phase : y.receiver.phase = .deciding b watchers)
      (abandoned : y.shared.isAbandoned = true) :
      Step y .decide { y with receiver := { y.receiver with phase := .looking } } [.notify watchers]
  | decideRetry (b : β) (watchers : List ω) (phase : y.receiver.phase = .deciding b watchers)
      (kept : y.shared.isAbandoned = false) (allowed : y.receiver.retry.next.1 = true) :
      Step y .decide { y with receiver := y.receiver.retried b watchers }
        [.wait y.receiver.retryDelay.next.1]
  | decideOver (b : β) (watchers : List ω) (phase : y.receiver.phase = .deciding b watchers)
      (kept : y.shared.isAbandoned = false) (refused : y.receiver.retry.next.1 = false) :
      Step y .decide
        { y with receiver := { y.receiver with retry := y.receiver.retry.next.2, phase := .looking } }
        [.notify watchers]
  | wakeRetry (b : β) (watchers : List ω) (phase : y.receiver.phase = .retrying b watchers) :
      Step y .wake
        { y with
          receiver := { y.receiver with phase := .calling b watchers }
          shared := { y.shared with
            counters := { y.shared.counters with retried := y.shared.counters.retried + 1 } } }
        []
  | wakeIdle (phase : y.receiver.phase = .idle) :
      Step y .wake { y with receiver := { y.receiver with phase := .looking } } []
  | leave (phase : y.receiver.phase = .leaving) :
      Step y .leave
        { y with receiver := { y.receiver with phase := .exited }, shared := y.shared.stop.1 }
        [.notify (y.shared.waiting ++ y.shared.onStopped)]

variable {y z : System β ω} {effects : List (Effect β ω)}

theorem step_look {now later : Instant} (phase : y.receiver.phase = .looking)
    (stepped : y.step (.look now later) = some (z, effects)) : Step y (.look now later) z effects := by
  simp only [step, phase, Option.some.injEq, Prod.mk.injEq] at stepped
  obtain ⟨rfl, rfl⟩ := stepped
  unfold Receiver.look
  by_cases abandoned : y.shared.isAbandoned = true
  · rw [if_pos abandoned]
    exact .lookAbandoned now later phase abandoned
  rw [if_neg abandoned]
  have kept : y.shared.isAbandoned = false := Bool.eq_false_iff.mpr abandoned
  by_cases due : y.receiver.isDue now y.shared = true
  · simp only [due, Bool.not_true, Bool.false_eq_true, if_false]
    by_cases some : 0 < y.shared.queueLength
    · rw [if_pos some]
      exact .lookTook now later phase kept due some
    rw [if_neg some]
    have none : y.shared.queueLength = 0 := Nat.eq_zero_of_not_pos some
    by_cases isOpen : y.shared.isOpen = true
    · rw [if_neg (by simp [isOpen])]
      exact .lookEmpty now later phase kept due none isOpen
    · have closed : y.shared.isOpen = false := Bool.eq_false_iff.mpr isOpen
      rw [if_pos (by simp [closed])]
      exact .lookEnded now later phase kept due none closed
  · have early : y.receiver.isDue now y.shared = false := Bool.eq_false_iff.mpr due
    simp only [early, Bool.not_false, if_true]
    exact .lookEarly now later phase kept early

theorem step_settle {outcome : Outcome β} {watchers : List ω}
    (phase : y.receiver.phase = .running watchers)
    (stepped : y.step (.settle outcome : Label β ι ω) = some (z, effects)) :
    Step y (.settle outcome : Label β ι ω) z effects := by
  simp only [step, phase, Option.some.injEq, Prod.mk.injEq] at stepped
  obtain ⟨rfl, rfl⟩ := stepped
  cases outcome with
  | processed => exact .settleOver .processed watchers phase (by simp)
  | panicked => exact .settleOver .panicked watchers phase (by simp)
  | failed b =>
    rcases Nat.eq_zero_or_pos (Buffer.size b) with none | some
    · simp only [Receiver.settle, none, Nat.lt_irrefl, if_false]
      exact .settleOver (.failed b) watchers phase (by simpa using none)
    · simp only [Receiver.settle, some, if_true]
      exact .settleRetryable b watchers phase some

theorem step_decide {b : β} {watchers : List ω} (phase : y.receiver.phase = .deciding b watchers)
    (stepped : y.step (.decide : Label β ι ω) = some (z, effects)) :
    Step y (.decide : Label β ι ω) z effects := by
  simp only [step, phase, Option.some.injEq, Prod.mk.injEq] at stepped
  obtain ⟨rfl, rfl⟩ := stepped
  unfold Receiver.considerRetry
  cases abandoned : y.shared.isAbandoned with
  | true => exact .decideAbandoned b watchers phase abandoned
  | false =>
    cases allowed : y.receiver.retry.next.1 with
    | false =>
      simp only [allowed, if_false, Bool.false_eq_true]
      exact .decideOver b watchers phase abandoned allowed
    | true =>
      simp only [allowed, if_true, if_false, Bool.false_eq_true]
      exact .decideRetry b watchers phase abandoned allowed

/-- Every possible step goes in one of the ways listed. -/
theorem step_sound {label : Label β ι ω} (stepped : y.step label = some (z, effects)) :
    Step y label z effects := by
  cases label with
  | send x => cases stepped; exact .send x
  | onNextFlush w => cases stepped; exact .onNextFlush w
  | onStopped w => cases stepped; exact .onStopped w
  | close => cases stepped; exact .close
  | abandon => cases stepped; exact .abandon
  | enter now =>
    cases phase : y.receiver.phase with
    | created =>
      simp only [step, phase] at stepped
      cases entered : y.receiver.enter now with
      | none =>
        rw [entered] at stepped
        cases stepped
        exact .enterBeyondClock now phase entered
      | some r =>
        rw [entered] at stepped
        cases stepped
        exact .enter now r phase entered
    | _ => simp [step, phase] at stepped
  | drop =>
    cases phase : y.receiver.phase with
    | created => simp only [step, phase] at stepped; cases stepped; exact .drop phase
    | _ => simp [step, phase] at stepped
  | look now later =>
    cases phase : y.receiver.phase with
    | looking => exact step_look phase stepped
    | _ => simp [step, phase] at stepped
  | invoke =>
    cases phase : y.receiver.phase with
    | calling b watchers =>
      simp only [step, phase] at stepped
      cases stepped
      exact .invoke b watchers phase
    | _ => simp [step, phase] at stepped
  | settle outcome =>
    cases phase : y.receiver.phase with
    | running watchers => exact step_settle phase stepped
    | _ => simp [step, phase] at stepped
  | decide =>
    cases phase : y.receiver.phase with
    | deciding b watchers => exact step_decide phase stepped
    | _ => simp [step, phase] at stepped
  | wake =>
    cases phase : y.receiver.phase with
    | retrying b watchers =>
      simp only [step, phase] at stepped
      cases stepped
      exact .wakeRetry b watchers phase
    | idle => simp only [step, phase] at stepped; cases stepped; exact .wakeIdle phase
    | _ => simp [step, phase] at stepped
  | leave =>
    cases phase : y.receiver.phase with
    | leaving => simp only [step, phase] at stepped; cases stepped; exact .leave phase
    | _ => simp [step, phase] at stepped

end System
end Telemetry.Channel
