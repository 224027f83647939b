import Telemetry.Proofs.Channel.Conservation
import Telemetry.Proofs.Channel.Retries

/-! The loop of a receiver from its start to its end. A receiver that never entered its loop took
nothing, and one that left it without an abandonment left nothing behind. Main results:
`Loop.of_run` and `exited_of_stopped`. -/
namespace Telemetry.Channel

variable {β ι ω : Type}

/-- A step in which the receiver enters its loop. -/
def Event.enters (e : Event β ι ω) : Bool :=
  match e.label, e.after.receiver.phase with
  | .enter _, .looking => true
  | _, _ => false

namespace Ledger

/-- Only a look takes a batch. -/
theorem taken_note {l : Ledger ι} {e : Event β ι ω} (none : e.takes = false) :
    (l.note e).taken = l.taken := by
  unfold note
  rw [none]
  split <;> rfl

theorem taken_note_takes {l : Ledger ι} {e : Event β ι ω} (takes : e.takes = true) :
    (l.note e).taken = l.taken ++ [l.waiting] := by
  unfold note
  rw [takes]
  unfold Event.takes at takes
  split at takes
  · next label _ => rw [label]; rfl
  · cases takes

end Ledger

namespace Shared

@[simp] theorem isStopped_watchStopped (s : Shared β ω) (w : ω) :
    (s.watchStopped w).1.isStopped = s.isStopped := by
  unfold watchStopped
  split <;> rfl

variable [Buffer β ι]

@[simp] theorem isStopped_send (capacity : Nat) (s : Shared β ω) (x : ι) :
    (s.send capacity x).isStopped = s.isStopped := by
  unfold send
  split
  · rfl
  · split <;> rfl

@[simp] theorem isStopped_onNextFlush (s : Shared β ω) (w : ω) :
    (s.onNextFlush w).1.isStopped = s.isStopped := by
  unfold onNextFlush
  split <;> rfl

end Shared

variable [Buffer β ι]
variable {first y z : System β ω} {events : List (Event β ι ω)} {label : Label β ι ω}
  {effects : List (Effect β ω)}

theorem taken_follow {labels : List (Label β ι ω)}
    (others : ∀ l ∈ labels, ∀ now later, l ≠ .look now later) (l : Ledger ι) (y : System β ω) :
    ((follow System.step y labels).foldl Ledger.note l).taken = l.taken := by
  induction labels generalizing l y with
  | nil => rfl
  | cons label rest ih =>
    unfold follow
    cases stepped : y.step label with
    | none => rfl
    | some next =>
      have none : Event.takes ⟨y, label, next.2, next.1⟩ = false := by
        unfold Event.takes
        split
        · next same _ => exact absurd same (others label List.mem_cons_self _ _)
        · rfl
      rw [List.foldl_cons, ih fun l hl => others l (List.mem_cons_of_mem label hl)]
      exact Ledger.taken_note none

theorem isStopped_step (step : System.Step y label z effects) :
    z.shared.isStopped = true ↔ y.shared.isStopped = true ∨ label = .leave := by
  cases step with
  | leave => simp [Shared.stop]
  | _ => simp [Shared.close, Shared.abandon, Shared.taken, Shared.emptied]

theorem isStopped_run (run : Run first events y) : y.shared.isStopped = true ↔
    first.shared.isStopped = true ∨ ∃ e ∈ events, e.label = .leave :=
  run.flag_iff (fun s => s.shared.isStopped) (fun label => label = .leave)
    fun stepped => isStopped_step (System.step_sound stepped)

/-- A channel is stopped by the exit of its receiver, which is for good. -/
theorem exited_of_stopped (run : Run first events y) (fresh : first.shared.isStopped = false) :
    y.shared.isStopped = true → y.receiver.phase = .exited := by
  induction run with
  | nil => exact fun stopped => absurd stopped (Bool.eq_false_iff.mp fresh)
  | snoc _ stepped ih =>
    intro stopped
    cases System.step_sound stepped with
    | leave => rfl
    | send | onNextFlush | onStopped | close | abandon =>
      exact ih (by simpa [Shared.close, Shared.abandon] using stopped)
    | _ => simp_all [Shared.taken, Shared.emptied]

theorem stopped_of_exited (run : Run first events y) (fresh : first.receiver.phase ≠ .exited) :
    y.receiver.phase = .exited → y.shared.isStopped = true := by
  induction run with
  | nil => exact fun exited => absurd exited fresh
  | snoc _ stepped ih =>
    intro exited
    cases System.step_sound stepped with
    | leave => rfl
    | send | onNextFlush | onStopped | close | abandon =>
      simpa [Shared.close, Shared.abandon] using ih exited
    | enter now r _ entered => simp [Receiver.phase_enter entered] at exited
    | _ => simp [Receiver.rest, Receiver.taking, Receiver.retried] at exited

/-- Whether the receiver has a batch in its hands. -/
def Receiver.isHolding (r : Receiver β ω) : Bool :=
  match r.phase with
  | .calling _ _ | .running _ | .deciding _ _ | .retrying _ _ => true
  | _ => false

/-- While no callback starts or ends, a batch comes into the receiver's hands only as it is
taken, and stays there. -/
theorem isHolding_quiet (step : System.Step y label z effects) (quiet : label.isQuiet = true) :
    (Event.takes ⟨y, label, effects, z⟩ = true ∧ y.receiver.isHolding = false ∧
      z.receiver.isHolding = true) ∨
    (Event.takes ⟨y, label, effects, z⟩ = false ∧ z.receiver.isHolding = y.receiver.isHolding) := by
  cases step with
  | lookTook _ _ phase => exact .inl ⟨rfl, by simp [Receiver.isHolding, phase], rfl⟩
  | send | onNextFlush | onStopped | close | abandon => exact .inr ⟨rfl, rfl⟩
  | enter now r phase entered =>
    exact .inr ⟨rfl, by simp [Receiver.isHolding, phase, Receiver.phase_enter entered]⟩
  | enterBeyondClock _ phase | drop phase | lookAbandoned _ _ phase | lookEnded _ _ phase
  | wakeRetry _ _ phase | wakeIdle phase | leave phase =>
    exact .inr ⟨rfl, by simp [Receiver.isHolding, phase]⟩
  | lookEarly _ _ phase | lookEmpty _ _ phase =>
    exact .inr ⟨rfl, by simp [Receiver.isHolding, Receiver.rest, phase]⟩
  | invoke | settleOver | settleRetryable | decideAbandoned | decideRetry | decideOver => cases quiet

theorem isHolding_settle {outcome : Outcome β}
    (step : System.Step y (.settle outcome : Label β ι ω) z effects) :
    z.receiver.phase = .looking ∨ z.receiver.isHolding = true := by
  cases step with
  | settleOver => exact .inl rfl
  | settleRetryable => exact .inr rfl

theorem isHolding_decide (step : System.Step y (.decide : Label β ι ω) z effects) :
    z.receiver.phase = .looking ∨ z.receiver.isHolding = true := by
  cases step with
  | decideAbandoned | decideOver => exact .inl rfl
  | decideRetry => exact .inr rfl

/-- What a run makes of the receiver's loop. -/
structure Loop (events : List (Event β ι ω)) (y : System β ω) : Prop where
  /-- Outside the loop nothing is taken. -/
  outside : (∀ e ∈ events, e.enters = false) → (Ledger.of events).taken = [] ∧
    (y.receiver.phase = .created ∨ y.receiver.phase = .leaving ∨ y.receiver.phase = .exited)
  /-- After the loop nothing is left, unless the channel was abandoned. -/
  ended : (∃ e ∈ events, e.enters = true) → y.receiver.phase ≠ .created ∧
    (y.receiver.phase = .leaving ∨ y.receiver.phase = .exited → y.shared.isAbandoned = false →
      y.Drained)

namespace Loop

theorem outside_step (loop : Loop events y) (step : System.Step y label z effects)
    (never : ∀ e ∈ events ++ [⟨y, label, effects, z⟩], e.enters = false) :
    (Ledger.of (events ++ [⟨y, label, effects, z⟩])).taken = [] ∧
      (z.receiver.phase = .created ∨ z.receiver.phase = .leaving ∨ z.receiver.phase = .exited) := by
  obtain ⟨empty, phase⟩ := loop.outside fun e member => never e (by simp [member])
  have here := never ⟨y, label, effects, z⟩ (by simp)
  have takes : Event.takes ⟨y, label, effects, z⟩ = false := by
    cases step with
    | lookTook => simp_all
    | _ => simp [Event.takes, Receiver.rest]
  rw [Ledger.of_concat, Ledger.taken_note takes]
  refine ⟨empty, ?_⟩
  cases step with
  | enter now r _ entered => simp [Event.enters, Receiver.phase_enter entered] at here
  | _ => simp_all

theorem begun_step (step : System.Step y label z effects) (begun : y.receiver.phase ≠ .created) :
    z.receiver.phase ≠ .created := by
  cases step with
  | enter now r phase => exact absurd phase begun
  | _ => simp_all [Receiver.rest, Receiver.taking, Receiver.retried]

/-- The loop is left at a look that finds the channel abandoned, or closed and empty. -/
theorem out_step (step : System.Step y label z effects) (begun : y.receiver.phase ≠ .created)
    (out : z.receiver.phase = .leaving ∨ z.receiver.phase = .exited) :
    (y.receiver.phase = .leaving ∨ y.receiver.phase = .exited) ∨
      Event.endsLoop ⟨y, label, effects, z⟩ = true := by
  cases step with
  | lookAbandoned | lookEnded => exact .inr rfl
  | enter now r phase => exact absurd phase begun
  | _ => simp_all [Receiver.rest, Receiver.taking, Receiver.retried]

theorem ended_step [LawfulBuffer β ι] (loop : Loop events y)
    (step : System.Step y label z effects)
    (once : ∃ e ∈ events ++ [⟨y, label, effects, z⟩], e.enters = true) :
    z.receiver.phase ≠ .created ∧
      (z.receiver.phase = .leaving ∨ z.receiver.phase = .exited → z.shared.isAbandoned = false →
        z.Drained) := by
  obtain ⟨e, member, enters⟩ := once
  rcases List.mem_append.mp member with before | here
  · obtain ⟨begun, drained⟩ := loop.ended ⟨e, before, enters⟩
    refine ⟨begun_step step begun, fun out kept => ?_⟩
    have earlier : y.shared.isAbandoned = false := Bool.eq_false_iff.mpr fun gone =>
      Bool.false_ne_true (kept.symm.trans ((isAbandoned_step step).mpr (.inl gone)))
    rcases out_step step begun out with already | ends
    · exact drained_step (drained already earlier) step
    · exact drained_of_endsLoop step ends earlier
  · -- Entering leads to a look, never out of the loop.
    rw [List.mem_singleton.mp here] at enters
    unfold Event.enters at enters
    split at enters
    · next looking => simp_all
    · cases enters

theorem of_run [LawfulBuffer β ι] {capacity : Nat} {interval : Option Duration}
    {threshold : Option Nat} {maxRetries : Nat}
    (run : Run (.start capacity (.create interval threshold maxRetries)) events y) :
    Loop events y := by
  induction run with
  | nil => exact ⟨fun _ => ⟨rfl, .inl rfl⟩, fun ⟨_, member, _⟩ => absurd member List.not_mem_nil⟩
  | snoc _ stepped ih =>
    have step := System.step_sound stepped
    exact ⟨ih.outside_step step, ih.ended_step step⟩

/-- The receiver enters its loop at most once. -/
theorem enters_once [LawfulBuffer β ι] {capacity : Nat} {interval : Option Duration}
    {threshold : Option Nat} {maxRetries : Nat}
    (run : Run (.start capacity (.create interval threshold maxRetries)) events y) :
    events.countP Event.enters ≤ 1 := by
  induction run with
  | nil => simp
  | @snoc events y z label effects run stepped ih =>
    rw [List.countP_append, List.countP_singleton]
    by_cases enters : Event.enters ⟨y, label, effects, z⟩ = true
    · have created : y.receiver.phase = .created := by
        cases System.step_sound stepped with
        | enter now r phase => exact phase
        | _ => simp_all [Event.enters]
      have never : events.countP Event.enters = 0 := List.countP_eq_zero.mpr fun e member entered =>
        ((of_run run).ended ⟨e, member, entered⟩).1 created
      rw [never, if_pos enters]
    · rw [if_neg enters]
      exact ih

end Loop
end Telemetry.Channel
