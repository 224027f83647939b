import Telemetry.Proofs.Channel.Abandon

/-! Waits that grow. A delay doubles and adds a step until it is at its maximum, and begins again as
it is reset; a receiver resets the one between its attempts with every batch that it takes. Main
result: `waits_back_off`. -/
namespace Telemetry.Channel

variable {β ι ω : Type}

namespace Delay

variable {step max : Duration} {d : Delay}

/-- The delay once it has given a number of waits. -/
def after (d : Delay) : Nat → Delay
  | 0 => d
  | k + 1 => (d.after k).next.2

/-- The wait that a delay gives after a number of others. -/
def waitAt (d : Delay) (k : Nat) : Duration := (d.after k).next.1

/-- A delay that has given waits and been reset, in any order. -/
inductive Used (step max : Duration) : Delay → Prop where
  | new : Used step max (.ofStep step max)
  | next {d : Delay} (used : Used step max d) : Used step max d.next.2
  | reset {d : Delay} (used : Used step max d) : Used step max d.reset

theorem Used.reset_eq (used : Used step max d) : d.reset = .ofStep step max := by
  induction used with
  | new => rfl
  | next _ ih => exact ih
  | reset _ ih => exact ih

theorem after_succ (d : Delay) (k : Nat) : d.after (k + 1) = { d.after k with current := d.waitAt k } :=
  rfl

theorem settings_after (d : Delay) (k : Nat) :
    (d.after k).step = d.step ∧ (d.after k).max = d.max := by
  induction k with
  | zero => exact ⟨rfl, rfl⟩
  | succ k ih => exact ih

theorem nanos_waitAt (d : Delay) (k : Nat) : (d.waitAt k).nanos =
    min (2 * (d.after k).current.nanos + d.step.nanos) d.max.nanos := by
  obtain ⟨step, max⟩ := d.settings_after k
  rw [← step, ← max, two_mul]
  rfl

/-- Twice a multiple of the step that is one short of a power of two, and the step, is the next
such multiple. Above the maximum that no longer shows. -/
theorem current_after (step max : Duration) (k : Nat) :
    ((ofStep step max).after k).current.nanos = min ((2 ^ k - 1) * step.nanos) max.nanos := by
  induction k with
  | zero => simp [after, ofStep, Duration.zero]
  | succ k ih =>
    have grown : (2 ^ (k + 1) - 1) * step.nanos = 2 * ((2 ^ k - 1) * step.nanos) + step.nanos := by
      have whole : 2 ^ (k + 1) - 1 = 2 * (2 ^ k - 1) + 1 := by
        have := Nat.one_le_two_pow (n := k)
        omega
      rw [whole, Nat.add_mul, Nat.one_mul, Nat.mul_assoc]
    rw [after_succ, nanos_waitAt, ih, grown]
    simp only [ofStep]
    omega

theorem waitAt_ofStep (step max : Duration) (k : Nat) :
    ((ofStep step max).waitAt k).nanos = min ((2 ^ (k + 1) - 1) * step.nanos) max.nanos :=
  current_after step max (k + 1)

theorem waitAt_le_succ (step max : Duration) (k : Nat) :
    (ofStep step max).waitAt k ≤ (ofStep step max).waitAt (k + 1) := by
  have held : ((ofStep step max).waitAt k).nanos ≤ max.nanos := by
    rw [waitAt_ofStep]
    exact Nat.min_le_right _ _
  change ((ofStep step max).waitAt k).nanos ≤ ((ofStep step max).waitAt (k + 1)).nanos
  rw [nanos_waitAt _ (k + 1), after_succ]
  simp only [ofStep] at held ⊢
  omega

/-- At its maximum a delay stays. -/
theorem waitAt_of_max {k : Nat} (top : (ofStep step max).waitAt k = max) (j : Nat) :
    (ofStep step max).waitAt (k + j) = max := by
  induction j with
  | zero => exact top
  | succ j ih =>
    have same : ((ofStep step max).waitAt (k + j + 1)).nanos = max.nanos := by
      rw [nanos_waitAt, after_succ, ih]
      simp only [ofStep]
      omega
    exact congrArg Duration.mk same

/-- No wait is computed from a sum that a duration cannot hold. -/
theorem sum_le_max (ordered : step ≤ max) (small : 3 * max.nanos ≤ Duration.max.nanos) (k : Nat) :
    let d := (ofStep step max).after k
    d.current + d.current + d.step ≤ Duration.max := by
  intro d
  have held : d.current.nanos ≤ max.nanos := by
    rw [current_after]
    exact Nat.min_le_right _ _
  have short : d.step.nanos ≤ max.nanos := by
    rw [((ofStep step max).settings_after k).1]
    exact ordered
  change d.current.nanos + d.current.nanos + d.step.nanos ≤ Duration.max.nanos
  omega

end Delay

def Effect.wait? : Effect β ω → Option Duration
  | .wait d => some d
  | _ => none

/-- The wait before another attempt at a batch. -/
def Event.retryWait (e : Event β ι ω) : List Duration :=
  match e.label with
  | .decide => e.effects.filterMap Effect.wait?
  | _ => []

variable [Buffer β ι]
variable {first y z : System β ω} {events : List (Event β ι ω)} {label : Label β ι ω}
  {effects : List (Effect β ω)}

theorem retryDelay_takes (step : System.Step y label z effects)
    (takes : Event.takes ⟨y, label, effects, z⟩ = true) :
    z.receiver.retryDelay = y.receiver.retryDelay.reset ∧ z.callsLeft = 1 := by
  cases step with
  | lookTook => exact ⟨rfl, rfl⟩
  | _ => simp [Event.takes, Receiver.rest] at takes

/-- Between two batches taken, a step gives the next wait and makes one more call due, or neither. -/
theorem retryDelay_step (step : System.Step y label z effects)
    (none : Event.takes ⟨y, label, effects, z⟩ = false) :
    let e : Event β ι ω := ⟨y, label, effects, z⟩
    let calls := z.callsLeft + if e.invokes then 1 else 0
    (e.retryWait = [] ∧ z.receiver.retryDelay = y.receiver.retryDelay ∧ calls = y.callsLeft) ∨
    (e.retryWait = [y.receiver.retryDelay.next.1] ∧
      z.receiver.retryDelay = y.receiver.retryDelay.next.2 ∧ calls = y.callsLeft + 1) := by
  intro e calls
  -- A call that begins is no longer due: that step apart, the calls made stay as they are.
  by_cases starts : label = .invoke
  · subst starts
    cases step with
    | invoke b watchers phase =>
      refine .inl ⟨rfl, rfl, ?_⟩
      simp [calls, e, System.callsLeft, Receiver.owesCall, phase, Event.invokes, Effect.invoked?]
  have silent : e.invokes = false := invokes_eq_false step starts
  simp only [calls, silent]
  cases step with
  | invoke => exact absurd rfl starts
  | lookTook => cases none
  | send | onNextFlush | onStopped | close | abandon => exact .inl ⟨rfl, rfl, rfl⟩
  | decideRetry b watchers phase =>
    refine .inr ⟨rfl, rfl, ?_⟩
    simp [System.callsLeft, Receiver.owesCall, Receiver.retried, phase]
  | enter now r phase entered =>
    obtain ⟨tick, rfl, _⟩ := Receiver.eq_of_enter entered
    refine .inl ⟨rfl, rfl, ?_⟩
    simp [System.callsLeft, Receiver.owesCall, phase]
  | lookEarly _ _ phase | lookEmpty _ _ phase =>
    refine .inl ⟨rfl, rfl, ?_⟩
    simp [System.callsLeft, Receiver.owesCall, Receiver.rest, phase]
  | enterBeyondClock _ phase | drop phase | lookAbandoned _ _ phase | lookEnded _ _ phase
  | settleOver _ _ phase | settleRetryable _ _ phase | decideAbandoned _ _ phase
  | decideOver _ _ phase | wakeRetry _ _ phase | wakeIdle phase | leave phase =>
    refine .inl ⟨rfl, rfl, ?_⟩
    simp [System.callsLeft, Receiver.owesCall, phase]

/-- Between two batches taken, the waits are those that the delay gives one after the other, one for
each call that comes on top of those due. -/
theorem retryWaits_run (run : Run first events y) (none : ∀ e ∈ events, Event.takes e = false) :
    ∃ n, events.flatMap Event.retryWait = (List.range n).map first.receiver.retryDelay.waitAt ∧
      y.receiver.retryDelay = first.receiver.retryDelay.after n ∧
      events.countP Event.invokes + y.callsLeft = first.callsLeft + n := by
  induction run with
  | nil => exact ⟨0, rfl, rfl, by simp⟩
  | @snoc events y z label effects _ stepped ih =>
    obtain ⟨n, waits, delay, calls⟩ := ih fun e member => none e (by simp [member])
    rw [List.flatMap_append, List.flatMap_singleton, List.countP_append, List.countP_singleton, waits]
    rcases retryDelay_step (System.step_sound stepped) (none _ (by simp)) with
      ⟨silent, same, due⟩ | ⟨waited, next, due⟩
    · refine ⟨n, by rw [silent, List.append_nil], same.trans delay, ?_⟩
      omega
    · refine ⟨n + 1, ?_, ?_, by omega⟩
      · rw [waited, delay, List.range_succ, List.map_append]
        rfl
      · rw [next, delay]
        rfl

theorem used_step {step max : Duration} (step' : System.Step y label z effects)
    (used : Delay.Used step max y.receiver.retryDelay) :
    Delay.Used step max z.receiver.retryDelay := by
  cases takes : Event.takes ⟨y, label, effects, z⟩ with
  | true =>
    rw [(retryDelay_takes step' takes).1]
    exact used.reset
  | false =>
    rcases retryDelay_step step' takes with ⟨_, same, _⟩ | ⟨_, next, _⟩
    · exact same ▸ used
    · exact next ▸ used.next

/-- A delay that is new, or has just been reset, gives its waits in closed form, one after the other
and each within the range of durations. In every run the waits between the attempts at a batch are
the first of such a sequence, one before each attempt but the first, whatever came before the
batch. -/
theorem waits_back_off {step max : Duration} (ordered : step ≤ max)
    (small : 3 * max.nanos ≤ Duration.max.nanos) :
    (∀ first, first = .ofStep step max ∨
        (∃ used, Delay.Used step max used ∧ first = used.reset) → ∀ k,
      (first.waitAt k).nanos = min ((2 ^ (k + 1) - 1) * step.nanos) max.nanos ∧
      (first.after k).current + (first.after k).current + (first.after k).step ≤ Duration.max ∧
      first.waitAt k ≤ first.waitAt (k + 1) ∧
      (first.waitAt k = max → ∀ j, first.waitAt (k + j) = max)) ∧
    ∀ {capacity : Nat} {interval : Option Duration} {threshold : Option Nat} {maxRetries : Nat}
      {y : System β ω} {earlier batch : List (Event β ι ω)} {e : Event β ι ω},
      Run (.start capacity (.create interval threshold maxRetries)) (earlier ++ e :: batch) y →
      Event.takes e = true → (∀ d ∈ batch, Event.takes d = false) →
      ∃ n, batch.flatMap Event.retryWait =
          (List.range n).map (fun k => .ofMillis (min ((2 ^ (k + 1) - 1) * 50) 1000)) ∧
        batch.countP Event.invokes + y.callsLeft = n + 1 := by
  refine ⟨fun first fresh k => ?_, fun run takes none => ?_⟩
  · obtain rfl : first = .ofStep step max := by
      rcases fresh with new | ⟨used, reached, reset⟩
      · exact new
      · exact reset.trans reached.reset_eq
    exact ⟨Delay.waitAt_ofStep step max k, Delay.sum_le_max ordered small k,
      Delay.waitAt_le_succ step max k, fun top j => Delay.waitAt_of_max top j⟩
  · obtain ⟨upTo, here, rest⟩ := run.split
    have used := (upTo.keeps (fun s => Delay.Used (.ofMillis 50) (.ofMillis 1000) s.receiver.retryDelay)
      .new fun stepped => used_step (System.step_sound stepped)).2
    obtain ⟨reset, due⟩ := retryDelay_takes (System.step_sound here) takes
    obtain ⟨n, waits, _, calls⟩ := retryWaits_run rest none
    refine ⟨n, ?_, by omega⟩
    rw [waits, reset, used.reset_eq]
    refine List.map_congr_left fun k _ => ?_
    have closed : ((Delay.ofStep (.ofMillis 50) (.ofMillis 1000)).waitAt k).nanos =
        min ((2 ^ (k + 1) - 1) * 50) 1000 * Duration.nanosPerMilli := by
      rw [Delay.waitAt_ofStep]
      simp only [Duration.ofMillis, Duration.nanosPerMilli]
      omega
    exact congrArg Duration.mk closed

/-- One batch fails twice before it is processed, and the next one fails once. -/
def faltering : List (Label (List Nat) Nat Nat) :=
  [.enter ⟨0⟩, .send 1, .look ⟨0⟩ ⟨0⟩, .invoke, .settle (.failed [1]), .decide, .wake, .invoke,
    .settle (.failed [1]), .decide, .wake, .invoke, .settle .processed, .send 2, .look ⟨0⟩ ⟨0⟩,
    .invoke, .settle (.failed [2]), .decide, .wake, .invoke, .settle .processed]

theorem waits_back_off_faltering :
    let events := follow System.step (.start 2 (.create none none 10)) faltering
    Duration.ofMillis 50 ≤ .ofMillis 1000 ∧
    3 * (Duration.ofMillis 1000).nanos ≤ Duration.max.nanos ∧
    events.flatMap Event.retryWait = [.ofMillis 50, .ofMillis 150, .ofMillis 50] ∧
    ∃ n, (events.drop 15).flatMap Event.retryWait =
      (List.range n).map (fun k => .ofMillis (min ((2 ^ (k + 1) - 1) * 50) 1000)) := by
  intro events
  have ordered : Duration.ofMillis 50 ≤ .ofMillis 1000 := by decide
  have small : 3 * (Duration.ofMillis 1000).nanos ≤ Duration.max.nanos := by decide
  have split : events = events.take 14 ++ events.get ⟨14, by decide⟩ :: events.drop 15 := by simp
  have run := run_follow System.step (.start 2 (.create none none 10)) faltering
  rw [show follow System.step _ faltering = _ from split] at run
  obtain ⟨n, waits, _⟩ := (waits_back_off ordered small).2 run rfl (by decide)
  exact ⟨ordered, small, by decide, n, waits⟩

end Telemetry.Channel
