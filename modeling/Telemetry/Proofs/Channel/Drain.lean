import Telemetry.Proofs.Channel.Progress

/-! The drain of a closed channel. One more batch at most is taken, each batch is tried a bounded
number of times, and then the receiver returns. Main result: `drain_bounded`. -/
namespace Telemetry.Channel

variable {β ι ω : Type} [Buffer β ι]
variable {y z : System β ω} {events more : List (Event β ι ω)} {label : Label β ι ω}
  {effects : List (Effect β ω)}

/-- A batch is taken by a look at a channel that holds something, and leaves it empty. -/
theorem filling_takes (step : System.Step y label z effects)
    (takes : Event.takes ⟨y, label, effects, z⟩ = true) :
    label.isReceiver = true ∧ 0 < y.shared.queueLength ∧ z.shared.filling = Buffer.empty := by
  cases step with
  | lookTook now later phase kept due some => exact ⟨rfl, some, rfl⟩
  | _ => simp [Event.takes, Receiver.rest] at takes

/-- The receiver takes out all that a channel holds, or leaves it as it is. It puts nothing in. -/
theorem filling_receiver (step : System.Step y label z effects) (own : label.isReceiver = true) :
    z.shared.filling = y.shared.filling ∨
      Event.takes ⟨y, label, effects, z⟩ = true ∧ z.shared.filling = Buffer.empty := by
  cases step with
  | send | onNextFlush | onStopped | close | abandon => cases own
  | lookTook => exact .inr ⟨rfl, rfl⟩
  | _ => exact .inl rfl

/-- How many batches a closed channel can still give out. -/
def System.batchesLeft (y : System β ω) : Nat := if 0 < y.shared.queueLength then 1 else 0

theorem batchesLeft_le_one (y : System β ω) : y.batchesLeft ≤ 1 := by
  unfold System.batchesLeft
  split <;> omega

theorem batchesLeft_le [LawfulBuffer β ι]
    (filling : z.shared.filling = y.shared.filling ∨ z.shared.filling = Buffer.empty) :
    z.batchesLeft ≤ y.batchesLeft := by
  have fewer := queueLength_le filling
  unfold System.batchesLeft
  split <;> split <;> omega

theorem batchesLeft_step [LawfulBuffer β ι] (step : System.Step y label z effects)
    (closed : y.shared.isOpen = false) :
    z.batchesLeft + (if Event.takes ⟨y, label, effects, z⟩ then 1 else 0) ≤ y.batchesLeft := by
  cases takes : Event.takes ⟨y, label, effects, z⟩ with
  | true =>
    obtain ⟨_, some, empty⟩ := filling_takes step takes
    rw [System.batchesLeft, System.batchesLeft, if_pos some]
    simp [Shared.queueLength, empty, LawfulBuffer.size_empty]
  | false =>
    refine batchesLeft_le ?_
    cases own : label.isReceiver with
    | false => exact filling_closed step closed own
    | true => exact (filling_receiver step own).imp_right And.right

/-- Retries are counted up to the first one that is refused, and no further. -/
def Receiver.CountsWithin (r : Receiver β ω) : Prop :=
  r.retry.current ≤ r.retry.max + if r.isHolding then 0 else 1

theorem countsWithin_step (step : System.Step y label z effects)
    (counted : y.receiver.CountsWithin) : z.receiver.CountsWithin := by
  unfold Receiver.CountsWithin at counted ⊢
  cases step with
  | send | onNextFlush | onStopped | close | abandon => exact counted
  | enter now r phase entered =>
    rw [Receiver.retry_enter entered]
    simpa [Receiver.isHolding, phase, Receiver.phase_enter entered] using counted
  | lookTook => exact Nat.zero_le _
  | decideRetry b watchers phase kept allowed =>
    simpa [Receiver.retried, Receiver.isHolding, Retry.next] using allowed
  | decideOver b watchers phase =>
    simpa [Receiver.isHolding, Retry.next, phase] using counted
  | settleOver _ _ phase | decideAbandoned _ _ phase =>
    simp only [Receiver.isHolding, phase, if_true, Nat.add_zero] at counted
    exact Nat.le_succ_of_le counted
  | lookEarly _ _ phase | lookEmpty _ _ phase | enterBeyondClock _ phase | drop phase
  | lookAbandoned _ _ phase | lookEnded _ _ phase | invoke _ _ phase | settleRetryable _ _ phase
  | wakeRetry _ _ phase | wakeIdle phase | leave phase =>
    simpa [Receiver.isHolding, Receiver.rest, Receiver.ticked, phase] using counted

theorem countsWithin_run {capacity : Nat} {interval : Option Duration} {threshold : Option Nat}
    {maxRetries : Nat}
    (run : Run (.start capacity (.create interval threshold maxRetries)) events y) :
    y.receiver.retry.current ≤ maxRetries + 1 := by
  have counted := (run.keeps (fun s => s.receiver.CountsWithin) (Nat.zero_le _)
    fun stepped => countsWithin_step (System.step_sound stepped)).2
  have max := max_run run
  unfold Receiver.CountsWithin at counted
  rw [show maxRetries = y.receiver.retry.max from max.symm]
  split at counted <;> omega

/-- Once a channel is closed its receiver takes at most one more batch, and returns, whatever the
callback makes of the batches. In the whole run the callback starts for each batch no more often
than once and once for each retry allowed, and no step of the receiver puts anything into the
channel. The count of retries stays in 32 bits. -/
theorem drain_bounded [LawfulBuffer β ι] {capacity : Nat} {interval : Option Duration}
    {threshold : Option Nat} {maxRetries : Nat} (small : maxRetries < 2 ^ 32 - 1)
    (run : Run (.start capacity (.create interval threshold maxRetries)) events y)
    (closed : y.shared.isOpen = false) (rest : Run y more z) :
    more.countP Event.takes ≤ 1 ∧
    (∀ left batch right, events ++ more = left ++ batch ++ right →
      (∀ e ∈ batch, Event.takes e = false) → batch.countP Event.invokes ≤ maxRetries + 1) ∧
    y.ReturnsWithin (8 * maxRetries + 10) ∧
    (∀ e ∈ events ++ more, e.label.isReceiver = true →
      e.after.shared.filling = e.before.shared.filling ∨
        Event.takes e = true ∧ e.after.shared.filling = Buffer.empty) ∧
    z.receiver.retry.current < 2 ^ 32 := by
  have whole := run.trans rest
  have max : y.receiver.retry.max = maxRetries := max_run run
  refine ⟨?_, ?_, ?_, ?_, ?_⟩
  · have shut := closed_run rest closed
    have spent := rest.countP_add_le Event.takes System.batchesLeft fun e member =>
      batchesLeft_step (System.step_sound (rest.step_of_mem member)) (shut e member)
    exact Nat.le_trans (Nat.le_of_add_right_le spent) (batchesLeft_le_one y)
  · intro left batch right same none
    rw [same] at whole
    obtain ⟨_, upTo, _⟩ := whole.parts
    obtain ⟨s, before, here⟩ := upTo.parts
    have bound := attempts_bounded here none
    rwa [show s.receiver.retry.max = maxRetries from max_run before] at bound
  · exact max ▸ returnsWithin_of_closed closed
  · intro e member own
    exact filling_receiver (System.step_sound (whole.step_of_mem member)) own
  · have counted := countsWithin_run whole
    omega

/-- A batch in progress, and an item behind it, as the channel is closed. -/
def closing : List (Label (List Nat) Nat Nat) :=
  [.enter ⟨0⟩, .send 1, .look ⟨0⟩ ⟨0⟩, .invoke, .send 2, .close]

/-- Every attempt fails with a batch that may be tried again, or panics. -/
def failing : List (Label (List Nat) Nat Nat) :=
  [.settle (.failed [1, 7]), .decide, .wake, .invoke, .settle (.failed [8]), .decide, .look ⟨0⟩ ⟨0⟩,
    .invoke, .settle (.failed [2]), .decide, .wake, .invoke, .settle .panicked, .look ⟨0⟩ ⟨0⟩, .leave]

theorem drain_bounded_failing :
    let first : System (List Nat) Nat := .start 2 (.create none none 1)
    let events := follow System.step first closing
    let more := follow System.step (endOf first events) failing
    (endOf first events).shared.isOpen = false ∧
      (endOf (endOf first events) more).receiver.phase = .exited ∧
      more.countP Event.invokes = 3 ∧ more.countP Event.takes ≤ 1 := by
  refine ⟨rfl, rfl, by decide, ?_⟩
  exact (drain_bounded (by decide) (run_follow _ _ _) rfl (run_follow _ _ _)).1

end Telemetry.Channel
