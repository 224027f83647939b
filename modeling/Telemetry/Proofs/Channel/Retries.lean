import Telemetry.Proofs.Channel.Ledger

/-! The batch that a receiver tries again. It stays the same from the failure of one attempt to
the start of the next, whatever the senders do in between. -/
namespace Telemetry.Channel

variable {β ι ω : Type} [Buffer β ι]

/-- The batch of a failed attempt, where it is or may be tried again. -/
def Receiver.retryable? (r : Receiver β ω) : Option β :=
  match r.phase with
  | .calling b _ => if r.retry.current = 0 then none else some b
  | .deciding b _ | .retrying b _ => some b
  | _ => none

/-- Whether the callback neither starts nor ends in a step, and no retry is decided. -/
def Label.isQuiet : Label β ι ω → Bool
  | .invoke | .settle _ | .decide => false
  | _ => true

variable {y z : System β ω} {label : Label β ι ω} {effects : List (Effect β ω)}

theorem retryable?_quiet (step : System.Step y label z effects) (quiet : label.isQuiet = true)
    (counted : ∀ b watchers, y.receiver.phase = .retrying b watchers → y.receiver.retry.current ≠ 0) :
    z.receiver.retryable? = y.receiver.retryable? := by
  cases step with
  | send | onNextFlush | onStopped | close | abandon => rfl
  | enter now r phase entered => simp [Receiver.retryable?, phase, Receiver.phase_enter entered]
  | lookTook now later phase => simp [Receiver.retryable?, Receiver.taking, Retry.reset, phase]
  | wakeRetry b watchers phase =>
    simp [Receiver.retryable?, phase, counted b watchers phase]
  | lookEarly _ _ phase | lookEmpty _ _ phase => simp [Receiver.retryable?, Receiver.rest, phase]
  | enterBeyondClock _ phase | drop phase | lookAbandoned _ _ phase | lookEnded _ _ phase
  | wakeIdle phase | leave phase => simp [Receiver.retryable?, phase]
  | invoke | settleOver | settleRetryable | decideAbandoned | decideRetry | decideOver => cases quiet

/-- Retries are counted by decisions alone. -/
theorem retry_quiet (step : System.Step y label z effects) (quiet : label.isQuiet = true)
    (unused : y.receiver.retry.current = 0) : z.receiver.retry.current = 0 := by
  cases step with
  | enter now r phase entered => rw [Receiver.retry_enter entered]; exact unused
  | lookTook => rfl
  | invoke | settleOver | settleRetryable | decideAbandoned | decideRetry | decideOver => cases quiet
  | _ => exact unused

theorem retry_settle {outcome : Outcome β}
    (step : System.Step y (.settle outcome : Label β ι ω) z effects) :
    z.receiver.retry = y.receiver.retry := by
  cases step <;> rfl

/-- A decision keeps the batch for another attempt, or gives it up. -/
theorem retryable?_decide (step : System.Step y (.decide : Label β ι ω) z effects) :
    z.receiver.retryable? = y.receiver.retryable? ∨ z.receiver.retryable? = none := by
  cases step with
  | decideAbandoned | decideOver => exact .inr rfl
  | decideRetry b watchers phase => left; simp [Receiver.retryable?, Receiver.retried, phase]

/-- A batch is tried again only if a failure returned it. -/
theorem retryable?_settle {outcome : Outcome β}
    (step : System.Step y (.settle outcome : Label β ι ω) z effects) :
    z.receiver.retryable? = none ∨
      ∃ b, outcome = .failed b ∧ 0 < Buffer.size b ∧ z.receiver.retryable? = some b := by
  cases step with
  | settleOver => exact .inl rfl
  | settleRetryable b watchers phase some => exact .inr ⟨b, rfl, some, rfl⟩

theorem phase_settle {outcome : Outcome β}
    (step : System.Step y (.settle outcome : Label β ι ω) z effects) :
    ∃ watchers, y.receiver.phase = .running watchers := by
  cases step with
  | settleOver _ watchers phase | settleRetryable _ watchers phase => exact ⟨watchers, phase⟩

theorem phase_decide (step : System.Step y (.decide : Label β ι ω) z effects) :
    ∃ b watchers, y.receiver.phase = .deciding b watchers := by
  cases step with
  | decideAbandoned b watchers phase | decideRetry b watchers phase | decideOver b watchers phase =>
    exact ⟨b, watchers, phase⟩

theorem phase_running_quiet {watchers : List ω} (step : System.Step y label z effects)
    (quiet : label.isQuiet = true) (phase : y.receiver.phase = .running watchers) :
    z.receiver.phase = .running watchers := by
  cases step with
  | send | onNextFlush | onStopped | close | abandon => exact phase
  | invoke | settleOver | settleRetryable | decideAbandoned | decideRetry | decideOver => cases quiet
  | _ => simp_all

/-- A batch is handed over only when the callback starts. -/
theorem handed_of_ne_invoke (step : System.Step y label z effects) (other : label ≠ .invoke) :
    Event.handed ⟨y, label, effects, z⟩ = [] := by
  have none : effects.filterMap Effect.invoked? = [] := by
    cases step with
    | onNextFlush | onStopped | abandon => exact filterMap_invoked_ran _
    | invoke => exact absurd rfl other
    | _ => rfl
  simp [Event.handed, none]

theorem handed_follow {labels : List (Label β ι ω)} (others : ∀ l ∈ labels, l ≠ .invoke)
    (y : System β ω) : (follow System.step y labels).flatMap Event.handed = [] := by
  induction labels generalizing y with
  | nil => rfl
  | cons label rest ih =>
    unfold follow
    cases stepped : y.step label with
    | none => rfl
    | some next =>
      have here := handed_of_ne_invoke (System.step_sound stepped) (others label List.mem_cons_self)
      have later := ih (fun l hl => others l (List.mem_cons_of_mem label hl)) next.1
      rw [List.flatMap_cons, here, later, List.append_nil]

end Telemetry.Channel
