import Telemetry.Proofs.Batch
import Telemetry.Proofs.Provider.Delta
import Telemetry.Proofs.Provider.Endings

/-! The windows of exports with delta temporality. They leave no gap and do not overlap, and the
attempts at one batch all show the same one. Main result: `windows_tile`. -/
namespace Telemetry.Provider

/-- What the worker reads off the clock. It does so where collected data has no window yet. -/
def Event.readings (e : Event) : List Timestamp :=
  match e.label, e.before.channel.receiver.phase with
  | .collect now _ _, .calling data _ => if data.window.isNone then [now] else []
  | _, _ => []

variable {y z : System} {label : Label} {effects : List Effect} {events : List Event}
  {settings : Settings} {built : Timestamp} {order : List SeriesKey}

/-- Data that the worker takes up has a window exactly when it was returned to be tried again. -/
theorem Delivery.window_eq_none_iff (delivery : Delivery settings events y)
    (run : Run (.build settings built) events y) {data : Aggregation} {watchers : List Nat}
    (phase : y.channel.receiver.phase = .calling data watchers) :
    data.window = none ↔ y.channel.receiver.retry.current = 0 := by
  constructor
  · intro unsettled
    by_contra again
    have held : y.channel.receiver.retryable? = some data := by
      simp [Channel.Receiver.retryable?, phase, again]
    obtain ⟨past, a, whole, _, rfl, _⟩ := delivery.pending held
    have settled := delivery.settled a (by simp [whole])
    cases unsettled.symm.trans settled.window
  · intro first
    obtain ⟨ms, _, rfl⟩ := fresh_data run phase first
    exact Aggregation.window_fill ms

/-- The windows so far reach from when the provider was built to the last time that the worker
read the clock, and each ends where the clock was read for it. -/
structure Tiles (built : Timestamp) (events : List Event) (y : System) : Prop where
  starts : (events.flatMap Event.windows).map (·.window.1) ++ [y.worker.lastCollect] =
    built :: (events.flatMap Event.windows).map (·.window.2)
  ends : (events.flatMap Event.windows).map (·.window.2) = events.flatMap Event.readings

namespace Tiles

theorem idle (tiles : Tiles built events y)
    (attempts : Event.attempts ⟨y, label, effects, z⟩ = [])
    (readings : Event.readings ⟨y, label, effects, z⟩ = []) (worker : z.worker = y.worker) :
    Tiles built (events ++ [⟨y, label, effects, z⟩]) z := by
  have windows : Event.windows ⟨y, label, effects, z⟩ = [] := by simp [Event.windows, attempts]
  constructor
  · simpa [windows, worker] using tiles.starts
  · simpa [windows, readings] using tiles.ends

theorem collect (tiles : Tiles built events y) (delivery : Delivery settings events y)
    (run : Run (.build settings built) events y) (delta : settings.temporality = .delta)
    {now : Timestamp} {panics : Bool} {data : Aggregation} {watchers : List Nat} {a : Attempt}
    {dropped : Nat} {worker : Worker} (phase : y.channel.receiver.phase = .calling data watchers)
    (prepared : y.worker.prepare y.settings now order data = (a, dropped, worker))
    (attempts : Event.attempts ⟨y, .collect now order panics, effects, z⟩ = [a])
    (after : z.worker = worker) :
    Tiles built (events ++ [⟨y, .collect now order panics, effects, z⟩]) z := by
  have same : y.settings = settings := settings_run run
  rw [same, Worker.prepare_delta delta] at prepared
  obtain ⟨rfl, _, rfl⟩ := prepared
  by_cases first : y.channel.receiver.retry.current = 0
  · have unsettled := (delivery.window_eq_none_iff run phase).mpr first
    have readings : Event.readings ⟨y, .collect now order panics, effects, z⟩ = [now] := by
      simp [Event.readings, phase, unsettled]
    have settled : y.worker.windowOf now data =
        ((y.worker.lastCollect, now), { y.worker with lastCollect := now }) := by
      simp [Worker.windowOf, unsettled]
    constructor
    · have starts := congrArg (· ++ [now]) tiles.starts
      simpa [Event.windows, first, attempts, after, settled] using starts
    · simp [Event.windows, first, attempts, readings, settled, tiles.ends]
  · have kept : data.window ≠ none := fun none =>
      first ((delivery.window_eq_none_iff run phase).mp none)
    obtain ⟨window, settled⟩ := Option.ne_none_iff_exists'.mp kept
    have same : (y.worker.windowOf now data).2 = y.worker := by simp [Worker.windowOf, settled]
    constructor
    · simpa [Event.windows, first, after, same] using tiles.starts
    · simpa [Event.windows, first, Event.readings, phase, settled] using tiles.ends

theorem step (tiles : Tiles built events y) (run : Run (.build settings built) events y)
    (delta : settings.temporality = .delta) (step : System.Step y label z effects) :
    Tiles built (events ++ [⟨y, label, effects, z⟩]) z := by
  cases calm : label.isQuiet with
  | true =>
    have quiet := quiet_step step calm
    refine tiles.idle quiet.attempts ?_ quiet.worker
    cases label with
    | collect => cases calm
    | _ => rfl
  | false =>
    have delivery := Delivery.of_run delta run
    have same : y.settings = settings := settings_run run
    cases step with
    | collectBegun now data watchers a dropped worker phase prepared =>
      exact tiles.collect delivery run delta phase prepared (attempts_collectBegun dropped a) rfl
    | collectFailed now data watchers a dropped worker c done phase prepared =>
      exact tiles.collect delivery run delta phase prepared
        (attempts_collectFailed dropped a _ done) rfl
    | collectBroken now panics data watchers a dropped worker c done phase prepared lost =>
      rw [same, Worker.prepare_delta delta] at prepared
      cases prepared
      cases lost
    | poll reply a c done =>
      refine tiles.idle ?_ rfl rfl
      simp [Event.attempts, attempts_notices, attempts_waits]
    | decide c done =>
      refine tiles.idle ?_ rfl rfl
      simp [Event.attempts, attempts_waits]
    | _ => cases calm

theorem of_run (delta : settings.temporality = .delta)
    (run : Run (.build settings built) events y) : Tiles built events y := by
  induction run with
  | nil => exact ⟨rfl, rfl⟩
  | snoc run stepped ih => exact ih.step run delta (System.step_sound stepped)

end Tiles

/-- Where the parts of a cover come one after the other, each of them goes from one of its ends to
the next. -/
theorem rel_of_pairwise {α β : Type} {r : β → β → Prop} {f g : α → β} {first last : β} {l : List α}
    (cover : l.map f ++ [last] = first :: l.map g) (ordered : (first :: l.map g).Pairwise r) :
    ∀ x ∈ l, r (f x) (g x) := by
  induction l generalizing first with
  | nil => simp
  | cons x rest ih =>
    obtain ⟨start, cover⟩ := List.cons.inj cover
    obtain ⟨before, ordered⟩ := List.pairwise_cons.mp ordered
    rintro w member
    rcases List.mem_cons.mp member with rfl | later
    · exact start ▸ before (g w) List.mem_cons_self
    · exact ih cover ordered w later

/-- Whenever an attempt is made, as many windows are settled as batches were taken, and the attempt
is the one at the last of them. -/
theorem Delivery.attempt_last (delta : settings.temporality = .delta) {e : Event}
    {more : List Event} (run : Run (.build settings built) (events ++ e :: more) y) {a : Attempt}
    (attempted : a ∈ Event.attempts e) :
    ∃ past, (events ++ [e]).flatMap Event.windows = past ++ [a] ∧
      (ledger events).taken.length = past.length + 1 := by
  obtain ⟨before, stepped, _⟩ := run.split
  obtain ⟨x, label, effects, z⟩ := e
  have step := System.step_sound stepped
  obtain ⟨now, order, panics, data, watchers, dropped, rfl, phase, prepared, attempts⟩ :=
    attempts_step step attempted
  obtain ⟨_, shown, past, whole, _⟩ :=
    (Delivery.of_run delta before).begin before delta phase prepared attempts
  refine ⟨past, whole, ?_⟩
  have handed := handed_eq before
  rw [whole, List.flatMap_append, List.flatMap_singleton, handed_collect phase, handed] at shown
  have count := congrArg List.length shown
  simpa using count.symm

/-- In every run of a provider with delta temporality, whatever becomes of its exports, each batch
that is collected has one window, and the attempts at it, the first one and all later ones, are
one and the same: they show what the batch held when it was taken, over that window. A window
begins where the one before it ended, the first one when the provider was built, and ends at the
time that the clock showed at the first attempt. Where the clock does not go back, no window ends
before it begins. -/
theorem windows_tile (delta : settings.temporality = .delta)
    (run : Run (.build settings built) events y) :
    ((events.flatMap Event.windows).map (·.data.withWindow none) ++ y.channel.aboutToHand =
        (ledger events).taken.map Channel.fill ∧
      ∀ a ∈ events.flatMap Event.windows, a.Settled settings ∧
        ∀ p ∈ a.batch.points, p.start = a.window.1 ∧ p.time = a.window.2) ∧
    (∀ before e after, events = before ++ e :: after → ∀ a ∈ Event.attempts e,
      ∃ n, (ledger before).taken.length = n + 1 ∧ (events.flatMap Event.windows)[n]? = some a) ∧
    (events.flatMap Event.windows).map (·.window.1) ++ [y.worker.lastCollect] =
      built :: (events.flatMap Event.windows).map (·.window.2) ∧
    (events.flatMap Event.windows).map (·.window.2) = events.flatMap Event.readings ∧
    ((built :: events.flatMap Event.readings).Pairwise (· ≤ ·) →
      ∀ a ∈ events.flatMap Event.windows, a.window.1 ≤ a.window.2) := by
  have delivery := Delivery.of_run delta run
  have tiles := Tiles.of_run delta run
  refine ⟨⟨?_, ?_⟩, ?_, tiles.starts, tiles.ends, ?_⟩
  · rw [delivery.shown]
    exact handed_eq run
  · intro a member
    have settled := delivery.settled a member
    refine ⟨settled, fun p shown => ?_⟩
    rw [settled.batch] at shown
    exact Aggregation.window_of_mem_points _ _ _ _ _ shown
  · rintro before e after rfl a attempted
    obtain ⟨past, whole, count⟩ := Delivery.attempt_last delta run attempted
    refine ⟨past.length, count, ?_⟩
    rw [List.append_cons, List.flatMap_append, whole]
    simp
  · intro ordered
    rw [← tiles.ends] at ordered
    exact rel_of_pairwise tiles.starts ordered

/-- The first window is attempted twice, and the clock is not read for the second attempt. -/
theorem windows_tile_retried :
    let events := follow System.step (.build {} ⟨.zero⟩) retried
    (events.flatMap Event.attempts).map (·.window) =
        [(⟨.zero⟩, ⟨⟨1⟩⟩), (⟨.zero⟩, ⟨⟨1⟩⟩), (⟨⟨1⟩⟩, ⟨⟨3⟩⟩)] ∧
      (events.flatMap Event.windows).map (·.window.2) = [⟨⟨1⟩⟩, ⟨⟨3⟩⟩] ∧
      ∀ a ∈ events.flatMap Event.windows, a.window.1 ≤ a.window.2 := by
  intro events
  have read : events.flatMap Event.readings = [⟨⟨1⟩⟩, ⟨⟨3⟩⟩] := by decide
  obtain ⟨_, _, _, ends, forward⟩ :=
    windows_tile rfl (run_follow System.step (.build {} ⟨.zero⟩) retried)
  exact ⟨by decide, ends.trans read, forward (by decide)⟩

end Telemetry.Provider
