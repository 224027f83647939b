import Telemetry.Proofs.Channel.Loop

/-! How far the receiver of a channel still has to go. Until it has exited it can always take its
next step, and once the channel is closed it has only so many left. Main results:
`attempts_bounded`, for one batch, and `returnsWithin_of_closed`, for the loop. -/
namespace Telemetry.Channel

variable {β ι ω : Type}

/-- Whether a step is the receiver's, and not one of the senders'. -/
def Label.isReceiver : Label β ι ω → Bool
  | .send _ | .onNextFlush _ | .onStopped _ | .close | .abandon => false
  | _ => true

/-- A step in which the callback starts. -/
def Event.invokes (e : Event β ι ω) : Bool := e.effects.any fun effect => effect.invoked?.isSome

namespace Receiver

/-- How often the batch in hand may still be tried again. -/
def retriesLeft (r : Receiver β ω) : Nat := r.retry.max - r.retry.current

/-- How often the callback can still start before another batch is taken. -/
def attemptsLeft (r : Receiver β ω) : Nat :=
  match r.phase with
  | .calling _ _ | .retrying _ _ => r.retriesLeft + 1
  | .running _ | .deciding _ _ => r.retriesLeft
  | _ => 0

theorem attemptsLeft_le (r : Receiver β ω) : r.attemptsLeft ≤ r.retry.max + 1 := by
  unfold attemptsLeft retriesLeft
  split <;> omega

end Receiver

theorem invokes_ran (watchers : List ω) :
    (System.ran watchers : List (Effect β ω)).any (fun effect => effect.invoked?.isSome) = false := by
  unfold System.ran
  split <;> rfl

variable [Buffer β ι]
variable {first y z : System β ω} {events : List (Event β ι ω)} {label : Label β ι ω}
  {effects : List (Effect β ω)}

theorem invokes_eq_false (step : System.Step y label z effects) (other : label ≠ .invoke) :
    Event.invokes ⟨y, label, effects, z⟩ = false := by
  cases step with
  | invoke => exact absurd rfl other
  | onNextFlush | onStopped | abandon => exact invokes_ran _
  | _ => rfl

theorem max_step (step : System.Step y label z effects) :
    z.receiver.retry.max = y.receiver.retry.max := by
  cases step with
  | enter now r _ entered => rw [Receiver.retry_enter entered]
  | _ => rfl

theorem max_run (run : Run first events y) : y.receiver.retry.max = first.receiver.retry.max :=
  (run.keeps (fun s => s.receiver.retry.max = first.receiver.retry.max) rfl
    fun stepped same => (max_step (System.step_sound stepped)).trans same).2

/-- Until another batch is taken, each start of the callback is one attempt less. -/
theorem attemptsLeft_step (step : System.Step y label z effects)
    (none : Event.takes ⟨y, label, effects, z⟩ = false) :
    z.receiver.attemptsLeft + (if Event.invokes ⟨y, label, effects, z⟩ then 1 else 0) ≤
      y.receiver.attemptsLeft := by
  by_cases starts : label = .invoke
  · subst starts
    cases step with
    | invoke b watchers phase =>
      simp [Receiver.attemptsLeft, Receiver.retriesLeft, phase, Event.invokes, Effect.invoked?]
  rw [invokes_eq_false step starts, if_neg Bool.false_ne_true, Nat.add_zero]
  cases step with
  | lookTook => cases none
  | send | onNextFlush | onStopped | close | abandon => exact Nat.le_refl _
  | decideRetry b watchers phase kept allowed =>
    have fewer : y.receiver.retry.current + 1 ≤ y.receiver.retry.max := by
      simpa [Retry.next] using allowed
    simp only [Receiver.attemptsLeft, Receiver.retriesLeft, Receiver.retried, Retry.next, phase]
    omega
  | enter now r phase entered =>
    simp [Receiver.attemptsLeft, Receiver.phase_enter entered]
  | lookEarly | lookEmpty => simp [Receiver.attemptsLeft, Receiver.rest]
  | settleRetryable b watchers phase | wakeRetry b watchers phase =>
    simp [Receiver.attemptsLeft, Receiver.retriesLeft, phase]
  | invoke => exact absurd rfl starts
  | _ => simp [Receiver.attemptsLeft]

/-- Between two batches taken the callback starts once, and once more for each retry allowed. -/
theorem attempts_bounded (run : Run first events y) (none : ∀ e ∈ events, Event.takes e = false) :
    events.countP Event.invokes ≤ first.receiver.retry.max + 1 := by
  have spent := run.countP_add_le Event.invokes (fun s => s.receiver.attemptsLeft) fun e member =>
      attemptsLeft_step (System.step_sound (run.step_of_mem member)) (none e member)
  exact Nat.le_trans (Nat.le_of_add_right_le spent) first.receiver.attemptsLeft_le

namespace System

/-- What the receiver does next, where the clock shows `now` and then `later`, and a callback at
work ends with `outcome`. -/
def nextLabel (now later : Instant) (outcome : Outcome β) (y : System β ω) : Option (Label β ι ω) :=
  match y.receiver.phase with
  | .created => some (.enter now)
  | .looking => some (.look now later)
  | .calling _ _ => some .invoke
  | .running _ => some (.settle outcome)
  | .deciding _ _ => some .decide
  | .retrying _ _ | .idle => some .wake
  | .leaving => some .leave
  | .exited => none

/-- The receiver is never stuck before it has exited. -/
theorem exists_nextLabel (y : System β ω) (inside : y.receiver.phase ≠ .exited)
    (now later : Instant) (outcome : Outcome β) :
    ∃ label : Label β ι ω, y.nextLabel now later outcome = some label ∧ label.isReceiver = true ∧
      (y.step label).isSome = true := by
  cases phase : y.receiver.phase with
  | exited => exact absurd phase inside
  | created =>
    refine ⟨.enter now, by simp [nextLabel, phase], rfl, ?_⟩
    simp only [step, phase]
    split <;> rfl
  | _ => simp [nextLabel, phase, Label.isReceiver, step]

/-- The receiver returns from `y` on, whatever else happens: it takes at most `bound` more steps,
and can take the next one until it has exited. -/
structure ReturnsWithin (y : System β ω) (bound : Nat) : Prop where
  bounded : ∀ more z, Run y more z → more.countP (fun e => e.label.isReceiver) ≤ bound
  able : ∀ more z, Run y more z → z.receiver.phase ≠ .exited → ∀ now later outcome,
    ∃ label : Label β ι ω, z.nextLabel now later outcome = some label ∧ label.isReceiver = true ∧
      (z.step label).isSome = true

/-- How many steps the receiver of a closed channel takes from one look to the end: those of a
last batch, with every retry, and those out of the loop. -/
def stepsFromLook (y : System β ω) : Nat :=
  if 0 < y.shared.queueLength then 4 * y.receiver.retry.max + 6 else 2

/-- How many steps the receiver of a closed channel takes at most. Every attempt at a batch is a
call, its end, a decision and a wait. -/
def stepsLeft (y : System β ω) : Nat :=
  match y.receiver.phase with
  | .created | .idle => y.stepsFromLook + 1
  | .looking => y.stepsFromLook
  | .calling _ _ => y.stepsFromLook + 4 * y.receiver.retriesLeft + 3
  | .running _ => y.stepsFromLook + 4 * y.receiver.retriesLeft + 2
  | .deciding _ _ => y.stepsFromLook + 4 * y.receiver.retriesLeft + 1
  | .retrying _ _ => y.stepsFromLook + 4 * y.receiver.retriesLeft + 4
  | .leaving => 1
  | .exited => 0

theorem stepsLeft_le (y : System β ω) : y.stepsLeft ≤ 8 * y.receiver.retry.max + 10 := by
  have look : y.stepsFromLook ≤ 4 * y.receiver.retry.max + 6 := by
    unfold stepsFromLook
    split <;> omega
  have retries : y.receiver.retriesLeft ≤ y.receiver.retry.max := Nat.sub_le _ _
  unfold stepsLeft
  split <;> omega

end System

/-- A closed channel lets nothing in, so that at most an abandonment changes what is left. -/
theorem filling_closed (step : System.Step y label z effects) (closed : y.shared.isOpen = false)
    (other : label.isReceiver = false) :
    z.shared.filling = y.shared.filling ∨ z.shared.filling = Buffer.empty := by
  cases step with
  | send x => rw [closed_send closed]; exact .inl rfl
  | onNextFlush | onStopped => exact .inl (by simp)
  | close => exact .inl rfl
  | abandon => exact .inr rfl
  | _ => cases other

theorem isOpen_step (step : System.Step y label z effects) (closed : y.shared.isOpen = false) :
    z.shared.isOpen = false := by
  cases step with
  | send x => rw [closed_send closed]; exact closed
  | onNextFlush | onStopped => simpa using closed
  | close | abandon | leave => rfl
  | _ => exact closed

theorem closed_run (run : Run first events y) (closed : first.shared.isOpen = false) :
    ∀ e ∈ events, e.before.shared.isOpen = false :=
  (run.keeps (fun s => s.shared.isOpen = false) closed
    fun stepped => isOpen_step (System.step_sound stepped)).1

theorem receiver_of_sender (step : System.Step y label z effects)
    (other : label.isReceiver = false) : z.receiver = y.receiver := by
  cases step with
  | send | onNextFlush | onStopped | close | abandon => rfl
  | _ => cases other

theorem queueLength_le [LawfulBuffer β ι]
    (filling : z.shared.filling = y.shared.filling ∨ z.shared.filling = Buffer.empty) :
    z.shared.queueLength ≤ y.shared.queueLength := by
  unfold Shared.queueLength
  rcases filling with same | empty
  · exact Nat.le_of_eq (congrArg Buffer.size same)
  · rw [empty, LawfulBuffer.size_empty]
    exact Nat.zero_le _

theorem stepsFromLook_le [LawfulBuffer β ι]
    (filling : z.shared.filling = y.shared.filling ∨ z.shared.filling = Buffer.empty)
    (max : z.receiver.retry.max = y.receiver.retry.max) : z.stepsFromLook ≤ y.stepsFromLook := by
  have fewer := queueLength_le filling
  unfold System.stepsFromLook
  rw [max]
  split <;> split <;> omega

theorem stepsLeft_sender [LawfulBuffer β ι] (step : System.Step y label z effects)
    (closed : y.shared.isOpen = false) (other : label.isReceiver = false) :
    z.stepsLeft ≤ y.stepsLeft := by
  have same := receiver_of_sender step other
  have look : z.stepsFromLook ≤ y.stepsFromLook :=
    stepsFromLook_le (filling_closed step closed other) (max_step step)
  unfold System.stepsLeft
  rw [same]
  split <;> omega

theorem two_le_stepsFromLook (y : System β ω) : 2 ≤ y.stepsFromLook := by
  unfold System.stepsFromLook
  split <;> omega

theorem stepsLeft_receiver [LawfulBuffer β ι] (step : System.Step y label z effects)
    (closed : y.shared.isOpen = false) (own : label.isReceiver = true) :
    z.stepsLeft < y.stepsLeft := by
  have look := two_le_stepsFromLook y
  have kept : z.shared.filling = y.shared.filling → z.stepsFromLook ≤ y.stepsFromLook :=
    fun same => stepsFromLook_le (.inl same) (max_step step)
  cases step with
  | send | onNextFlush | onStopped | close | abandon => cases own
  | enter now r phase entered =>
    have max := congrArg Retry.max (Receiver.retry_enter entered)
    simp [System.stepsLeft, System.stepsFromLook, phase, Receiver.phase_enter entered, max]
  | lookEarly now later phase kept early => simp [Receiver.isDue, closed] at early
  | lookEmpty now later phase kept due none isOpen =>
    exact absurd (closed.symm.trans isOpen) Bool.false_ne_true
  | lookTook now later phase kept due some =>
    -- What is taken leaves the channel, and pays for the steps of the batch with all its retries.
    have last : Buffer.size (Buffer.empty : β) = 0 := LawfulBuffer.size_empty
    simp only [System.stepsLeft, System.stepsFromLook, phase, if_pos some]
    simp only [Receiver.taking, Shared.taken, Shared.queueLength, last, Receiver.retriesLeft,
      Retry.reset, Nat.lt_irrefl, if_false]
    omega
  | decideRetry b watchers phase _ allowed =>
    have fewer : y.receiver.retry.current + 1 ≤ y.receiver.retry.max := by
      simpa [Retry.next] using allowed
    have same := kept rfl
    simp only [System.stepsLeft, Receiver.retriesLeft, Receiver.retried, Retry.next, phase] at same ⊢
    omega
  | enterBeyondClock _ phase | drop phase | lookAbandoned _ _ phase | lookEnded _ _ phase
  | leave phase =>
    simp only [System.stepsLeft, phase]
    omega
  | invoke _ _ phase | settleOver _ _ phase | settleRetryable _ _ phase | decideAbandoned _ _ phase
  | decideOver _ _ phase | wakeRetry _ _ phase | wakeIdle phase =>
    have same := kept rfl
    simp only [System.stepsLeft, Receiver.retriesLeft, phase] at same ⊢
    omega

/-- Once the channel is closed the receiver returns, whatever the callback makes of what is left. -/
theorem returnsWithin_of_closed [LawfulBuffer β ι] (closed : y.shared.isOpen = false) :
    y.ReturnsWithin (8 * y.receiver.retry.max + 10) := by
  refine ⟨fun more z run => ?_, fun _ z _ inside => z.exists_nextLabel inside⟩
  have spent := run.countP_add_le (fun e => e.label.isReceiver) System.stepsLeft fun e member => by
    have step := System.step_sound (run.step_of_mem member)
    have shut := closed_run run closed e member
    cases own : e.label.isReceiver with
    | false => simpa using stepsLeft_sender step shut own
    | true => exact stepsLeft_receiver step shut own
  exact Nat.le_trans (Nat.le_of_add_right_le spent) y.stepsLeft_le

end Telemetry.Channel
