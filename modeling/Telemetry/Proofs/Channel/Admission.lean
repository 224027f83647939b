import Telemetry.Proofs.Aggregation.Regrouping
import Telemetry.Proofs.Channel.Invocations
import Telemetry.Proofs.Channel.Sends

/-! What an open channel lets in. It never holds more entries than its capacity, and it drops an
item only where it is full and the item would add an entry; in a channel of measurements that is the
first measurement of a series. Main result: `sends_admitted`. -/
namespace Telemetry.Channel

variable {β ι ω : Type} [Buffer β ι]

/-- There is no room for the item: the batch has as many entries as the channel may hold, and the
item would add one. -/
def Shared.Full (capacity : Nat) (s : Shared β ω) (x : ι) : Prop :=
  s.queueLength = capacity ∧ Buffer.growsWith s.filling x = true

/-- The step drops the item exactly where there is no room for it, and then leaves the batch as it
is. Otherwise the item joins the batch and nothing is counted. -/
structure Admits (capacity : Nat) (e : Event β ι ω) (x : ι) : Prop where
  dropped : e.overflowed = [x] ↔ e.before.shared.Full capacity x
  counted : e.before.shared.Full capacity x →
    e.after.shared.counters.overflow = e.before.shared.counters.overflow + 1 ∧
      e.after.shared.filling = e.before.shared.filling
  joined : ¬ e.before.shared.Full capacity x → e.accepted = [x] ∧
    e.after.shared.counters = e.before.shared.counters ∧
      e.after.shared.filling = Buffer.push e.before.shared.filling x

variable {y z : System β ω} {events : List (Event β ι ω)} {effects : List (Effect β ω)} {x : ι}

/-- In a channel that holds no more than its capacity, being full is having reached it. -/
theorem full_iff (filled : y.Filled) : y.shared.Full y.capacity x ↔
    (decide (y.capacity ≤ Buffer.size y.shared.filling) && Buffer.growsWith y.shared.filling x) =
      true := by
  have bound : Buffer.size y.shared.filling ≤ y.capacity := filled.waiting
  rw [Shared.Full, Shared.queueLength, Bool.and_eq_true, decide_eq_true_eq]
  constructor
  · rintro ⟨reached, grows⟩
    exact ⟨Nat.le_of_eq reached.symm, grows⟩
  · rintro ⟨reached, grows⟩
    exact ⟨Nat.le_antisymm bound reached, grows⟩

theorem send_full (filled : y.Filled) (isOpen : y.shared.isOpen = true)
    (full : y.shared.Full y.capacity x) : y.shared.send y.capacity x = { y.shared with
      counters := { y.shared.counters with overflow := y.shared.counters.overflow + 1 } } := by
  unfold Shared.send
  rw [if_neg (by simp [isOpen]), if_pos ((full_iff filled).mp full)]

theorem send_room (filled : y.Filled) (isOpen : y.shared.isOpen = true)
    (room : ¬ y.shared.Full y.capacity x) : y.shared.send y.capacity x =
      { y.shared with filling := Buffer.push y.shared.filling x } := by
  unfold Shared.send
  rw [if_neg (by simp [isOpen]), if_neg ((full_iff filled).not.mp room)]

theorem admits_step (step : System.Step y (.send x : Label β ι ω) z effects) (filled : y.Filled)
    (isOpen : y.shared.isOpen = true) : Admits y.capacity ⟨y, .send x, effects, z⟩ x := by
  cases step with
  | send x =>
    by_cases full : y.shared.Full y.capacity x
    · have sent := send_full filled isOpen full
      constructor
      · simp [Event.overflowed, Event.sent, sent, full]
      · intro _
        rw [sent]
        exact ⟨rfl, rfl⟩
      · intro room
        exact absurd full room
    · have sent := send_room filled isOpen full
      constructor
      · simp [Event.overflowed, sent, full]
      · intro none
        exact absurd none full
      · intro _
        simp [Event.accepted, sent]

section Run

variable {capacity : Nat} {interval : Option Duration} {threshold : Option Nat} {maxRetries : Nat}

theorem admits_of_run [LawfulBuffer β ι]
    (run : Run (.start capacity (.create interval threshold maxRetries)) events y)
    {before after : List (Event β ι ω)} {e : Event β ι ω} (parts : events = before ++ e :: after)
    (label : e.label = .send x) (isOpen : e.before.shared.isOpen = true) : Admits capacity e x := by
  subst parts
  obtain ⟨left, here, _⟩ := run.split
  have reached : e.before.capacity = capacity := capacity_run left
  obtain ⟨first, label, effects, last⟩ := e
  subst label
  rw [← reached]
  exact admits_step (System.step_sound here) (filled_run left) isOpen

/-- The channel's batch holds one series for each key of the measurements that wait. -/
theorem queueLength_run {y : System Aggregation ω} {events : List (Event Aggregation Measurement ω)}
    (run : Run (.start capacity (.create interval threshold maxRetries)) events y) :
    y.shared.queueLength = Measurement.seriesCount (Ledger.of events).waiting := by
  have filling := (Ledger.of_run run).filling
  rw [Shared.queueLength, filling]
  exact Aggregation.size_fill

/-- Where a measurement of its series waits already, a measurement is let in. -/
theorem accepted_of_known {y : System Aggregation ω}
    {before after : List (Event Aggregation Measurement ω)} {e : Event Aggregation Measurement ω}
    {m : Measurement}
    (run : Run (.start capacity (.create interval threshold maxRetries)) (before ++ e :: after) y)
    (label : e.label = .send m) (isOpen : e.before.shared.isOpen = true)
    (known : m.key ∈ (Ledger.of before).waiting.map Measurement.key) :
    e.accepted = [m] ∧ e.overflowed ≠ [m] := by
  have admits := admits_of_run run rfl label isOpen
  have room : ¬ e.before.shared.Full capacity m := by
    rintro ⟨_, grows⟩
    rw [(Ledger.of_run run.split.1).filling] at grows
    exact Aggregation.growsWith_fill.mp grows known
  exact ⟨(admits.joined room).1, fun dropped => room (admits.dropped.mp dropped)⟩

end Run

/-- In every run of a channel, of whatever buffer adds an entry exactly where it says that it grows,
the batch never has more entries than the capacity, and an open channel drops an item exactly where
there is no room for it. Aggregations are such a buffer. Their entries are the distinct series of
the measurements that wait, so that a measurement of one of these is never dropped. -/
theorem sends_admitted :
    (∀ {β ι ω : Type} [Buffer β ι] [LawfulBuffer β ι] (capacity : Nat) (interval : Option Duration)
        (threshold : Option Nat) (maxRetries : Nat) (events : List (Event β ι ω)) (y : System β ω),
      Run (.start capacity (.create interval threshold maxRetries)) events y →
        y.shared.queueLength ≤ capacity ∧
        ∀ (before : List (Event β ι ω)) (e : Event β ι ω) (after : List (Event β ι ω)) (x : ι),
          events = before ++ e :: after → e.label = .send x → e.before.shared.isOpen = true →
            Admits capacity e x) ∧
    LawfulBuffer Aggregation Measurement ∧
    ∀ {ω : Type} (capacity : Nat) (interval : Option Duration) (threshold : Option Nat)
        (maxRetries : Nat) (events : List (Event Aggregation Measurement ω))
        (y : System Aggregation ω),
      Run (.start capacity (.create interval threshold maxRetries)) events y →
        y.shared.queueLength = Measurement.seriesCount (Ledger.of events).waiting ∧
        ∀ (before : List (Event Aggregation Measurement ω)) (e : Event Aggregation Measurement ω)
          (after : List (Event Aggregation Measurement ω)) (m : Measurement),
          events = before ++ e :: after → e.label = .send m → e.before.shared.isOpen = true →
            m.key ∈ (Ledger.of before).waiting.map Measurement.key →
              e.accepted = [m] ∧ e.overflowed ≠ [m] := by
  refine ⟨?_, inferInstance, ?_⟩
  · intro β ι ω _ _ capacity interval threshold maxRetries events y run
    have bound := (filled_run run).waiting
    rw [capacity_run run] at bound
    exact ⟨bound, fun _ _ _ _ => admits_of_run run⟩
  · intro ω capacity interval threshold maxRetries events y run
    refine ⟨queueLength_run run, ?_⟩
    rintro before e after m rfl label isOpen known
    exact accepted_of_known run label isOpen known

/-- A channel with room for one series. The second measurement starts another one. -/
def crowded : List (Label Aggregation Measurement Nat) :=
  [.send (Aggregation.sent 1 1), .send (Aggregation.measured .zero 2), .send (Aggregation.sent 2 3)]

theorem sends_admitted_crowded :
    let first : System Aggregation Nat := .start 1 (.create none none 10)
    let events : List (Event Aggregation Measurement Nat) := follow System.step first crowded
    (events[1]?.map Event.overflowed) = some [Aggregation.measured .zero 2] ∧
      (events[2]?.map Event.accepted) = some [Aggregation.sent 2 3] := by
  intro first events
  have run := run_follow System.step first crowded
  constructor
  · have admits := (sends_admitted.1 1 none none 10 _ _ run).2 [_] _ [_] (Aggregation.measured .zero 2)
      rfl rfl rfl
    exact congrArg some (admits.dropped.mpr ⟨rfl, rfl⟩)
  · have known := (sends_admitted.2.2 1 none none 10 _ _ run).2 [_, _] _ [] (Aggregation.sent 2 3)
      rfl rfl rfl
    exact congrArg some (known (by decide)).1

end Telemetry.Channel
