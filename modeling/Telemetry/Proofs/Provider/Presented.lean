import Telemetry.Proofs.Provider.Cumulative
import Telemetry.Proofs.Provider.Delta
import Telemetry.Proofs.Provider.Endings

/-! What an export that succeeds presents: with delta temporality the last window taken, with
cumulative temporality all of them. Main result: `presents_exported`. -/
namespace Telemetry.Provider

variable {y z : System} {label : Label} {effects : List Effect} {events : List Event}
  {settings : Settings} {built : Timestamp}

/-- The batch presents the windows taken so far: of each series of the last one a point for its
measurements there, or of each series a point for its measurements in all of them, where the
running state has room for it. -/
def Presents (s : Settings) (windows : List (List Measurement)) (running : Aggregation)
    (b : Batch) : Prop :=
  match s.temporality with
  | .delta => ∃ earlier ms, windows = earlier ++ [ms] ∧ ∀ k, Measurement.ofSeries k ms ≠ [] →
    ∃ s : Series, s.Shows (Measurement.ofSeries k ms) ∧ ∃ start time, b.shown k = [s.point start time]
  | .cumulative => ShowsAll s.cardinalityLimit windows.flatten running b

/-- Only an attempt that the exporter is at work on succeeds. -/
theorem exported_step {a : Attempt} (exported : a ∈ Event.exported ⟨y, label, effects, z⟩) :
    ∃ reply, label = .poll reply ∧ y.attempt = some a := by
  obtain ⟨⟨b, result⟩, ended, same⟩ := List.mem_filterMap.mp exported
  obtain ⟨ok, same⟩ := Option.ite_none_right_eq_some.mp same
  cases same
  cases label with
  | poll reply =>
    obtain ⟨c, attempt, pair⟩ := List.mem_map.mp ended
    cases pair
    exact ⟨reply, rfl, Option.mem_toList.mp attempt⟩
  | collect now order panics =>
    cases panics with
    | false => cases ended
    | true =>
      obtain ⟨c, _, pair⟩ := List.mem_map.mp ended
      cases pair
      cases ok
  | _ => cases ended

/-- An attempt that ends leaves nothing that is still to be handed over. -/
theorem aboutToHand_poll {reply : Reply} (step : System.Step y (.poll reply) z effects) :
    y.channel.aboutToHand = [] := by
  cases step with
  | poll _ a c done attempt part =>
    obtain ⟨watchers, phase⟩ := Channel.phase_settle (Channel.System.step_sound part)
    simp [Channel.System.aboutToHand, phase]

/-- With delta temporality the attempt at hand is that of the last window. -/
theorem presents_delta (delta : settings.temporality = .delta)
    (run : Run (.build settings built) events y)
    (genuine : Measurement.Genuine (events.flatMap Event.accepted)) {a : Attempt}
    (attempt : y.attempt = some a) (handed : y.channel.aboutToHand = []) :
    ∃ earlier ms, (ledger events).taken = earlier ++ [ms] ∧
      ∀ k, Measurement.ofSeries k ms ≠ [] → ∃ s : Series, s.Shows (Measurement.ofSeries k ms) ∧
        ∃ start time, a.batch.shown k = [s.point start time] := by
  have delivery := Delivery.of_run delta run
  obtain ⟨past, hand, whole, _, _, held⟩ := delivery.hands
  have same : hand = some a := by
    rcases held with ⟨same, _⟩ | ⟨none, _⟩
    · exact same.symm.trans attempt
    · cases none.symm.trans attempt
  have settled : a.Settled settings := delivery.settled a (by simp [whole, same])
  have filled : (past ++ [a]).map (·.data.withWindow none) =
      (ledger events).taken.map Channel.fill := by
    rw [← handed_eq run, handed, List.append_nil, ← delivery.shown, whole, same]
    rfl
  rcases List.eq_nil_or_concat (ledger events).taken with none | ⟨earlier, ms, last⟩
  · rw [none] at filled
    simp at filled
  rw [List.concat_eq_append] at last
  rw [last, List.map_append, List.map_append] at filled
  obtain ⟨_, filled⟩ := List.append_inj' filled rfl
  have data : a.data.withWindow none = Channel.fill ms := List.singleton_inj.mp filled
  have part : ms ⊆ events.flatMap Event.accepted := by
    intro m member
    rw [accepted_eq run, last]
    simp [member]
  have own := genuine.mono part
  have uniform : a.data.Uniform := by
    have stripped : (a.data.withWindow none).Uniform :=
      data ▸ (Aggregation.drawnFrom_fill ms).uniform own
    exact ⟨stripped.kind, stripped.instrument⟩
  refine ⟨earlier, ms, last, fun k listed => ?_⟩
  have found : a.data.find? k = Series.gathered? (Measurement.ofSeries k ms) := by
    rw [← Aggregation.find?_fill, ← data]
    rfl
  obtain ⟨s, gathered⟩ := Option.ne_none_iff_exists'.mp
    fun none => listed (Series.gathered?_eq_none.mp none)
  refine ⟨s, Series.shows_gathered own gathered, some a.window.1, a.window.2, ?_⟩
  rw [settled.batch, Aggregation.shown_toBatch _ _ _ uniform, found, gathered]
  rfl

/-- With cumulative temporality the attempt at hand is that of the running state. -/
theorem batch_attempt (cumulative : settings.temporality = .cumulative)
    (run : Run (.build settings built) events y) {a : Attempt} (attempt : y.attempt = some a) :
    a.batch = y.worker.running.toBatch settings.resource .cumulative none a.window.2 := by
  induction run with
  | nil => cases attempt
  | @snoc events y z label effects run stepped ih =>
    have step := System.step_sound stepped
    cases calm : label.isQuiet with
    | true =>
      have quiet := quiet_step step calm
      rw [quiet.worker]
      exact ih (quiet.attempt.symm.trans attempt)
    | false =>
      have same : y.settings = settings := settings_run run
      cases step with
      | collectBegun now data watchers b dropped worker phase prepared =>
        cases attempt
        rw [same] at prepared
        exact Worker.batch_prepare cumulative prepared
      | collectBroken now panics data watchers b dropped worker c done phase =>
        obtain ⟨others, running⟩ := engaged_of_run run a attempt
        cases phase.symm.trans running
      | decide => exact ih attempt
      | collectFailed | poll => cases attempt
      | _ => cases calm

theorem presents_cumulative (cumulative : settings.temporality = .cumulative)
    (run : Run (.build settings built) events y)
    (genuine : Measurement.Genuine (events.flatMap Event.accepted)) {a : Attempt}
    (attempt : y.attempt = some a) (handed : y.channel.aboutToHand = []) :
    ShowsAll settings.cardinalityLimit (ledger events).taken.flatten y.worker.running a.batch := by
  have all : collected events = (ledger events).taken := by
    have count := congrArg List.length (handed_eq run)
    rw [handed, List.append_nil, List.length_map] at count
    rw [collected, count, List.take_length]
  have covers := covers_running cumulative run genuine
  have own := genuine.mono (prefix_collected run).subset
  rw [all] at covers own
  intro k
  rw [batch_attempt cumulative run attempt, Aggregation.shown_toBatch _ _ _ (covers.uniform own)]
  rcases covers.series k with ⟨s, found, shows⟩ | ⟨absent, why⟩
  · exact .inl ⟨s, shows, a.window.2, by rw [found]; rfl⟩
  · exact .inr ⟨by rw [absent]; rfl, why⟩

/-- An export that succeeds presents the windows taken by then. -/
theorem presents_exported {e : Event} {left : List Event}
    (run : Run (.build settings built) (left ++ [e]) y)
    (genuine : Measurement.Genuine ((left ++ [e]).flatMap Event.accepted)) {a : Attempt}
    (exported : a ∈ Event.exported e) :
    Presents settings (ledger (left ++ [e])).taken e.after.worker.running a.batch := by
  obtain ⟨before, stepped, _⟩ := run.split
  obtain ⟨x, label, effects, z⟩ := e
  obtain ⟨reply, rfl, attempt⟩ := exported_step exported
  have step : System.Step x (.poll reply) z effects := System.step_sound stepped
  have handed := aboutToHand_poll step
  have own : Measurement.Genuine (left.flatMap Event.accepted) :=
    genuine.mono (prefix_accepted left _).subset
  have worker : z.worker = x.worker := by
    cases step
    rfl
  have same : (ledger (left ++ [⟨x, .poll reply, effects, z⟩])).taken = (ledger left).taken :=
    taken_busy left rfl
  rw [same]
  unfold Presents
  cases temporality : settings.temporality with
  | delta => exact presents_delta temporality before own attempt handed
  | cumulative =>
    rw [worker]
    exact presents_cumulative temporality before own attempt handed

end Telemetry.Provider
