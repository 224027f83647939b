import Telemetry.Proofs.Aggregation.Merge
import Telemetry.Proofs.Batch
import Telemetry.Proofs.Provider.Windows

/-! Exports with cumulative temporality. The running state is every window merged once, its series in
whatever order the worker meets them, and an attempt shows the running state. Main result:
`cumulative_totals`. -/
namespace Telemetry.Provider

variable {y z : System} {label : Label} {effects : List Effect} {events more : List Event}
  {settings : Settings} {built : Timestamp}

namespace Worker

variable {s : Settings} {now : Timestamp} {data : Aggregation} {w worker : Worker} {a : Attempt}
  {dropped : Nat} {order : List SeriesKey}

theorem running_windowOf (now : Timestamp) (data : Aggregation) (w : Worker) :
    (w.windowOf now data).2.running = w.running := by
  unfold windowOf
  split <;> rfl

theorem running_prepare (cumulative : s.temporality = .cumulative)
    (prepared : w.prepare s now order data = (a, dropped, worker)) :
    worker.running = ((data.inOrder order).mergeInto w.running s.cardinalityLimit).1 := by
  simp only [prepare, cumulative] at prepared
  cases prepared
  simp only [running_windowOf]

theorem batch_prepare (cumulative : s.temporality = .cumulative)
    (prepared : w.prepare s now order data = (a, dropped, worker)) :
    a.batch = worker.running.toBatch s.resource .cumulative none a.window.2 := by
  simp only [prepare, cumulative] at prepared
  cases prepared
  rfl

/-- Preparing an attempt takes the running state further, whatever the temporality. -/
theorem evolves_prepare (prepared : w.prepare s now order data = (a, dropped, worker)) :
    Aggregation.Evolves s.cardinalityLimit w.running worker.running := by
  cases temporality : s.temporality with
  | delta =>
    simp only [prepare, temporality] at prepared
    cases prepared
    rw [running_windowOf]
    exact .refl _ _
  | cumulative =>
    rw [running_prepare temporality prepared]
    exact (Aggregation.merges_mergeInto (data.inOrder order) w.running).evolves

end Worker

theorem evolves_step (step : System.Step y label z effects) :
    Aggregation.Evolves y.settings.cardinalityLimit y.worker.running z.worker.running := by
  cases calm : label.isQuiet with
  | true => rw [(quiet_step step calm).worker]; exact .refl _ _
  | false =>
    cases step with
    | collectBegun now data watchers a dropped worker phase prepared =>
      exact Worker.evolves_prepare prepared
    | collectFailed now data watchers a dropped worker c done phase prepared =>
      exact Worker.evolves_prepare prepared
    | collectBroken now panics data watchers a dropped worker c done phase prepared =>
      exact Worker.evolves_prepare prepared
    | poll | decide => exact .refl _ _
    | _ => cases calm

theorem evolves_run {first : System} (run : Run first events y) :
    Aggregation.Evolves first.settings.cardinalityLimit first.worker.running y.worker.running := by
  induction run with
  | nil => exact .refl _ _
  | snoc run stepped ih =>
    have one := evolves_step (System.step_sound stepped)
    rw [settings_run run] at one
    exact ih.trans one

/-- The worker can meet the series of a window in any order. -/
theorem exists_collect {data met : Aggregation} {watchers : List Nat}
    (cumulative : y.settings.temporality = .cumulative)
    (phase : y.channel.receiver.phase = .calling data watchers)
    (same : met.series.Perm data.series) (now : Timestamp) (panics : Bool) :
    ∃ order z effects, y.step (.collect now order panics) = some (z, effects) ∧
      z.worker.running = (met.mergeInto y.worker.running y.settings.cardinalityLimit).1 := by
  obtain ⟨order, listed⟩ := Aggregation.exists_inOrder same
  rcases prepared : y.worker.prepare y.settings now order data with ⟨a, dropped, worker⟩
  have running : worker.running = (met.mergeInto y.worker.running y.settings.cardinalityLimit).1 := by
    rw [Worker.running_prepare cumulative prepared, Aggregation.mergeInto, listed]
    rfl
  obtain ⟨z, effects, stepped, after⟩ := System.exists_collect_step phase prepared panics
  exact ⟨order, z, effects, stepped, after ▸ running⟩

/-- What a run with cumulative temporality keeps: nothing is ever tried again, and the running
state is every window handed over so far, merged once. -/
structure Accumulation (s : Settings) (events : List Event) (y : System) : Prop where
  unused : y.channel.receiver.retry.current = 0
  fresh : y.channel.receiver.retryable? = none
  running : Aggregation.Accumulates s.cardinalityLimit (events.flatMap Event.handed) y.worker.running

namespace Accumulation

theorem start (settings : Settings) (built : Timestamp) :
    Accumulation settings [] (.build settings built) := ⟨rfl, rfl, .nil⟩

theorem quiet (kept : Accumulation settings events y) (run : Run (.build settings built) events y)
    (quiet : Quiet y z label effects) :
    Accumulation settings (events ++ [⟨y, label, effects, z⟩]) z := by
  refine ⟨?_, ?_, ?_⟩
  · rcases quiet.channel with ⟨_, same⟩ | ⟨l, done, _, step, calm⟩
    · rw [same, kept.unused]
    · exact Channel.retry_quiet step calm kept.unused
  · rcases quiet.channel with ⟨_, same⟩ | ⟨l, done, _, step, calm⟩
    · rw [same, kept.fresh]
    · exact (Channel.retryable?_quiet step calm (ledger_tracks run).retried).trans kept.fresh
  · simpa [quiet.handed, quiet.worker] using kept.running

/-- The end of an attempt returns nothing to be tried again. -/
theorem settle {s : Settings} (cumulative : s.temporality = .cumulative) {a : Attempt}
    {result : Except ExportError Unit} {x c : Channel.System Aggregation Nat}
    {done : List (Channel.Effect Aggregation Nat)}
    (part : x.step (.settle (s.outcomeOf a result)) = some (c, done)) :
    c.receiver.retryable? = none := by
  rcases Channel.retryable?_settle (Channel.System.step_sound part) with gone | ⟨b, failed, some, _⟩
  · exact gone
  · cases cumulative.symm.trans (Settings.outcomeOf_failed failed some).1

/-- The worker merges the window that is handed to it, in whatever order it meets its series. -/
theorem collect (kept : Accumulation settings events y)
    (cumulative : settings.temporality = .cumulative) (same : y.settings = settings)
    {now : Timestamp} {order : List SeriesKey} {panics : Bool} {data : Aggregation}
    {watchers : List Nat} {a : Attempt} {dropped : Nat} {worker : Worker}
    (phase : y.channel.receiver.phase = .calling data watchers)
    (prepared : y.worker.prepare y.settings now order data = (a, dropped, worker))
    (after : z.worker = worker) :
    let e : Event := ⟨y, .collect now order panics, effects, z⟩
    Aggregation.Accumulates settings.cardinalityLimit ((events ++ [e]).flatMap Event.handed)
      z.worker.running := by
  intro e
  have handed : Event.handed e = [data] := by
    rw [handed_collect phase]
    simp [Channel.System.aboutToHand, phase, kept.unused]
  rw [same] at prepared
  rw [List.flatMap_append, List.flatMap_singleton, handed, after,
    Worker.running_prepare cumulative prepared]
  exact kept.running.concat (Aggregation.arrange_perm order data.series)

theorem step (kept : Accumulation settings events y) (run : Run (.build settings built) events y)
    (cumulative : settings.temporality = .cumulative) (step : System.Step y label z effects) :
    Accumulation settings (events ++ [⟨y, label, effects, z⟩]) z := by
  cases calm : label.isQuiet with
  | true => exact kept.quiet run (quiet_step step calm)
  | false =>
    have same : y.settings = settings := settings_run run
    have own : y.settings.temporality = .cumulative := same ▸ cumulative
    cases step with
    | collectBegun now data watchers a dropped worker phase prepared =>
      exact ⟨kept.unused, rfl, kept.collect cumulative same phase prepared rfl⟩
    | collectFailed now data watchers a dropped worker c done phase prepared _ part =>
      refine ⟨?_, settle own part, kept.collect cumulative same phase prepared rfl⟩
      have retry := Channel.retry_settle (Channel.System.step_sound part)
      exact (congrArg Channel.Retry.current retry).trans kept.unused
    | collectBroken now panics data watchers a dropped worker c done phase prepared _ _ part =>
      refine ⟨?_, ?_, kept.collect cumulative same phase prepared rfl⟩
      · have retry := Channel.retry_settle (Channel.System.step_sound part)
        exact (congrArg Channel.Retry.current retry).trans kept.unused
      · rcases Channel.retryable?_settle (Channel.System.step_sound part) with gone | ⟨b, failed, _⟩
        · exact gone
        · cases failed
    | poll reply a c done attempt part =>
      refine ⟨?_, settle own part, ?_⟩
      · have retry := Channel.retry_settle (Channel.System.step_sound part)
        exact (congrArg Channel.Retry.current retry).trans kept.unused
      · rw [List.flatMap_append, List.flatMap_singleton, handed_poll, List.append_nil]
        exact kept.running
    | decide c done part =>
      have pending : y.channel.receiver.retryable? ≠ none := by
        obtain ⟨b, watchers, phase⟩ := Channel.phase_decide (Channel.System.step_sound part)
        simp [Channel.Receiver.retryable?, phase]
      exact absurd kept.fresh pending
    | _ => cases calm

theorem of_run (cumulative : settings.temporality = .cumulative)
    (run : Run (.build settings built) events y) : Accumulation settings events y := by
  induction run with
  | nil => exact start settings built
  | snoc run stepped ih => exact ih.step run cumulative (System.step_sound stepped)

end Accumulation

/-- The measurements of the windows collected so far. -/
def collected (events : List Event) : List (List Measurement) :=
  (ledger events).taken.take (events.flatMap Event.handed).length

theorem collected_fill (run : Run (.build settings built) events y) :
    (collected events).map Channel.fill = events.flatMap Event.handed := by
  rw [collected, List.map_take, ← handed_eq run, List.take_left]

/-- What is collected is the first part of what was let in. -/
theorem prefix_collected (run : Run (.build settings built) events y) :
    (collected events).flatten <+: events.flatMap Event.accepted := by
  rw [accepted_eq run, List.append_assoc]
  refine List.IsPrefix.trans ?_ (List.prefix_append _ _)
  obtain ⟨rest, whole⟩ := List.take_prefix (events.flatMap Event.handed).length (ledger events).taken
  exact ⟨rest.flatten, by rw [← List.flatten_append]; exact congrArg List.flatten whole⟩

theorem prefix_accepted (events more : List Event) :
    events.flatMap Event.accepted <+: (events ++ more).flatMap Event.accepted := by
  rw [List.flatMap_append]
  exact List.prefix_append _ _

theorem collected_mono (run : Run (.build settings built) events y) (more : List Event) :
    (collected events).flatten <+: (collected (events ++ more)).flatten := by
  have handed := congrArg List.length (handed_eq run)
  simp only [List.length_append, List.length_map] at handed
  obtain ⟨rest, whole⟩ := prefix_windows events more
  have first : collected events <+: collected (events ++ more) := by
    unfold collected
    rw [← whole, List.flatMap_append, List.length_append,
      ← List.take_append_of_le_length (by omega : _ ≤ (ledger events).taken.length)]
    exact List.take_prefix_take_left (Nat.le_add_right _ _)
  obtain ⟨others, same⟩ := first
  exact ⟨others.flatten, by rw [← List.flatten_append, same]⟩

theorem covers_running (cumulative : settings.temporality = .cumulative)
    (run : Run (.build settings built) events y)
    (genuine : Measurement.Genuine (events.flatMap Event.accepted)) :
    Aggregation.Covers settings.cardinalityLimit (collected events).flatten y.worker.running := by
  have accumulates := (Accumulation.of_run cumulative run).running
  rw [← collected_fill run] at accumulates
  exact accumulates.covers (genuine.mono (prefix_collected run).subset)

/-- What a batch shows of a running aggregation: of each series one point for all of its
measurements, or none, and then there are no measurements or the aggregation is full. -/
def ShowsAll (limit : Nat) (ms : List Measurement) (running : Aggregation) (b : Batch) : Prop :=
  ∀ k, (∃ s : Series, s.Shows (Measurement.ofSeries k ms) ∧ ∃ time, b.shown k = [s.point none time]) ∨
    b.shown k = [] ∧ (Measurement.ofSeries k ms = [] ∨ limit ≤ running.size)

theorem attempt_batch (cumulative : settings.temporality = .cumulative) (same : y.settings = settings)
    (step : System.Step y label z effects) {a : Attempt}
    (attempted : a ∈ Event.attempts ⟨y, label, effects, z⟩) :
    a.batch = z.worker.running.toBatch settings.resource .cumulative none a.window.2 := by
  obtain ⟨now, order, panics, data, watchers, dropped, _, _, prepared, _⟩ := attempts_step step attempted
  rw [same] at prepared
  exact Worker.batch_prepare cumulative prepared

/-- After each event of a run the running state covers what is collected by then, and its attempt
shows the running state. -/
theorem attempt_shown (cumulative : settings.temporality = .cumulative) {d : Event}
    (run : Run (.build settings built) (events ++ d :: more) y)
    (genuine : Measurement.Genuine ((events ++ d :: more).flatMap Event.accepted)) :
    Aggregation.Covers settings.cardinalityLimit (collected (events ++ [d])).flatten
        d.after.worker.running ∧
      ∀ a ∈ Event.attempts d, ∀ k, a.batch.shown k =
        ((d.after.worker.running.find? k).map (Series.point none a.window.2)).toList := by
  obtain ⟨before, stepped, _⟩ := run.split
  have here : Run (.build settings built) (events ++ [d]) d.after := .snoc before stepped
  have part : (events ++ [d]).flatMap Event.accepted ⊆
      (events ++ d :: more).flatMap Event.accepted := by
    rw [List.append_cons events d more]
    exact (prefix_accepted _ _).subset
  have covers := covers_running cumulative here (genuine.mono part)
  have own := genuine.mono (List.Subset.trans (prefix_collected here).subset part)
  refine ⟨covers, fun a attempted k => ?_⟩
  rw [attempt_batch cumulative (settings_run before) (System.step_sound stepped) attempted]
  exact Aggregation.shown_toBatch _ _ _ (covers.uniform own) _ k

/-- An attempt made after `d`, whose running state is a later one and covers more. -/
theorem later_shown (cumulative : settings.temporality = .cumulative) {d e : Event}
    {rest : List Event}
    (run : Run (.build settings built) (events ++ d :: (more ++ e :: rest)) y)
    (genuine : Measurement.Genuine ((events ++ d :: (more ++ e :: rest)).flatMap Event.accepted)) :
    Aggregation.Evolves settings.cardinalityLimit d.after.worker.running e.after.worker.running ∧
      (collected (events ++ [d])).flatten <+: (collected (events ++ d :: more ++ [e])).flatten ∧
      (collected (events ++ d :: more ++ [e])).flatten <+:
        (events ++ d :: (more ++ e :: rest)).flatMap Event.accepted ∧
      Aggregation.Covers settings.cardinalityLimit (collected (events ++ d :: more ++ [e])).flatten
        e.after.worker.running ∧
      ∀ b ∈ Event.attempts e, ∀ k, b.batch.shown k =
        ((e.after.worker.running.find? k).map (Series.point none b.window.2)).toList := by
  obtain ⟨earlier, stepped, later⟩ := run.split
  obtain ⟨between, again, _⟩ := later.split
  have settled : d.after.settings = settings :=
    (settings_step (System.step_sound stepped)).trans (settings_run earlier)
  have evolves := evolves_run (Run.snoc between again)
  rw [settled] at evolves
  have here : Run (.build settings built) (events ++ [d]) d.after := .snoc earlier stepped
  have mono := collected_mono here (more ++ [e])
  have whole : events ++ d :: (more ++ e :: rest) = (events ++ d :: more) ++ e :: rest := by simp
  rw [whole] at run genuine
  obtain ⟨covers, shown⟩ := attempt_shown cumulative run genuine
  obtain ⟨before, _, _⟩ := run.split
  have last : Run (.build settings built) (events ++ d :: more ++ [e]) e.after := .snoc before again
  refine ⟨evolves, by simpa using mono, ?_, covers, shown⟩
  refine (prefix_collected last).trans ?_
  rw [whole, List.append_cons _ e rest]
  exact prefix_accepted _ _

/-- A later attempt shows nothing of a series that was refused before `d` was over, and continues each
point that an attempt of `d` shows. -/
theorem later_continues (cumulative : settings.temporality = .cumulative) {d e : Event}
    {rest : List Event}
    (run : Run (.build settings built) (events ++ d :: (more ++ e :: rest)) y)
    (genuine : Measurement.Genuine ((events ++ d :: (more ++ e :: rest)).flatMap Event.accepted))
    {b : Attempt} (again : b ∈ Event.attempts e) (k : SeriesKey) :
    (d.after.worker.running.find? k = none →
      Measurement.ofSeries k (collected (events ++ [d])).flatten ≠ [] → b.batch.shown k = []) ∧
    ∀ a ∈ Event.attempts d, ∀ p ∈ a.batch.shown k, ∃ q ∈ b.batch.shown k, p.Continues q ∧
      ((Measurement.observations (Measurement.ofSeries k
          ((events ++ d :: (more ++ e :: rest)).flatMap Event.accepted))).length < 2 ^ 64 →
        p.data.count ≤ q.data.count) := by
  obtain ⟨covers, shown⟩ := attempt_shown cumulative run genuine
  obtain ⟨evolves, ⟨added, mono⟩, ⟨others, part⟩, coversLater, shownLater⟩ :=
    later_shown cumulative run genuine
  rw [shownLater b again k]
  constructor
  · -- A series is refused only when the running state is full, and it stays full.
    intro absent some
    rw [evolves.full (covers.full_of_refused absent some) k absent]
    rfl
  · intro a attempted p shownHere
    rw [shown a attempted k] at shownHere
    obtain ⟨s, found, rfl⟩ := Option.map_eq_some_iff.mp (Option.mem_toList.mp shownHere)
    obtain ⟨t, kept, start⟩ := evolves.earlier k s found
    have first := covers.shows found
    have second := coversLater.shows kept
    rw [← mono, Measurement.ofSeries_append] at second
    rw [kept]
    refine ⟨t.point none b.window.2, List.mem_singleton_self _, ⟨first.added_le second, start⟩, ?_⟩
    intro fits
    apply first.count_le second
    rw [← part, ← mono, Measurement.ofSeries_append, Measurement.ofSeries_append,
      Measurement.observations_append, List.length_append] at fits
    omega

/-- In every run of a provider with cumulative temporality, whatever becomes of its exports and in
whatever order the worker meets the series of a window, the running state is every window collected
so far, merged once. It never holds more series than the limit, and loses none. Each attempt shows
of each series all of its measurements collected so far, or nothing, and then there are none or the
running state is full. A series that was refused is never shown later. The points of later attempts
continue those of earlier ones, and the number of values in a histogram never goes back as long as
it fits its 64 bits. When a window is handed over, each order of its series can be the next one. -/
theorem cumulative_totals (cumulative : settings.temporality = .cumulative)
    (run : Run (.build settings built) events y)
    (genuine : Measurement.Genuine (events.flatMap Event.accepted)) :
    (Aggregation.Accumulates settings.cardinalityLimit ((collected events).map Channel.fill)
        y.worker.running ∧
      (collected events).map Channel.fill = events.flatMap Event.handed ∧
      (collected events).flatten <+: events.flatMap Event.accepted ∧
      y.worker.running.size ≤ settings.cardinalityLimit) ∧
    (∀ before d after, events = before ++ d :: after →
      d.before.worker.running.keys <+: d.after.worker.running.keys ∧
      (∀ a ∈ Event.attempts d, ShowsAll settings.cardinalityLimit
        (collected (before ++ [d])).flatten d.after.worker.running a.batch) ∧
      ∀ e ∈ after, ∀ b ∈ Event.attempts e, ∀ k,
        (d.after.worker.running.find? k = none →
          Measurement.ofSeries k (collected (before ++ [d])).flatten ≠ [] → b.batch.shown k = []) ∧
        ∀ a ∈ Event.attempts d, ∀ p ∈ a.batch.shown k, ∃ q ∈ b.batch.shown k, p.Continues q ∧
          ((Measurement.observations (Measurement.ofSeries k (events.flatMap Event.accepted))).length
            < 2 ^ 64 → p.data.count ≤ q.data.count)) ∧
    ∀ data watchers (met : Aggregation), y.channel.receiver.phase = .calling data watchers →
      met.series.Perm data.series → ∀ now panics, ∃ order z effects,
        y.step (.collect now order panics) = some (z, effects) ∧
          z.worker.running = (met.mergeInto y.worker.running settings.cardinalityLimit).1 := by
  have same : y.settings = settings := settings_run run
  refine ⟨?_, ?_, ?_⟩
  · have accumulates := (Accumulation.of_run cumulative run).running
    rw [← collected_fill run] at accumulates
    have covers := covers_running cumulative run genuine
    exact ⟨accumulates, collected_fill run, prefix_collected run, covers.size⟩
  · rintro before d after rfl
    obtain ⟨covers, shown⟩ := attempt_shown cumulative run genuine
    obtain ⟨_, stepped, _⟩ := run.split
    refine ⟨(evolves_step (System.step_sound stepped)).keys, ?_, ?_⟩
    · intro a attempted k
      rw [shown a attempted k]
      rcases covers.series k with ⟨s, found, shows⟩ | ⟨absent, why⟩
      · exact .inl ⟨s, shows, a.window.2, by rw [found]; rfl⟩
      · exact .inr ⟨by rw [absent]; rfl, why⟩
    · intro e member b again k
      obtain ⟨between, rest, rfl⟩ := List.append_of_mem member
      exact later_continues cumulative run genuine again k
  · intro data watchers met phase reordered now panics
    rw [← same] at cumulative ⊢
    exact exists_collect cumulative phase reordered now panics

def counterOf (id : Nat) : Instrument := ⟨id, "counter", .counter, none, none, .ofName "test", none⟩

def incrementOf (id : Nat) (n : UInt64) : Measurement := ⟨counterOf id, .increment n, .empty, ⟨.zero⟩⟩

/-- Two windows with room for two series. The first export fails. Of the two new series of the second
window the worker meets the later one first. -/
def refusing : List Label :=
  [.call .start ⟨0⟩, .act 0 ⟨0⟩, .act 0 ⟨0⟩, .enter ⟨0⟩, .record (incrementOf 0 1), .send 0,
    .look ⟨5000000000⟩ ⟨5000000000⟩, .collect ⟨⟨1⟩⟩ [] false, .record (incrementOf 1 2), .send 0,
    .record (incrementOf 2 3), .send 0, .poll (.ready (.error (.rejected "400" false))), .dropSender,
    .look ⟨0⟩ ⟨0⟩, .collect ⟨⟨2⟩⟩ [⟨2, .empty⟩] false, .poll (.ready (.ok ())), .look ⟨0⟩ ⟨0⟩, .leave]

/-- The series that came first is refused, and the other one is shown. -/
theorem cumulative_totals_refusing :
    let first : System := .build { temporality := .cumulative, cardinalityLimit := 2 } ⟨.zero⟩
    let events := follow System.step first refusing
    let running := (endOf first events).worker.running
    collected events = [[incrementOf 0 1], [incrementOf 1 2, incrementOf 2 3]] ∧
      Aggregation.Accumulates 2
        [Channel.fill [incrementOf 0 1], Channel.fill [incrementOf 1 2, incrementOf 2 3]] running ∧
      running.keys = [⟨0, .empty⟩, ⟨2, .empty⟩] ∧ running.size ≤ 2 := by
  intro first events running
  have windows : collected events = [[incrementOf 0 1], [incrementOf 1 2, incrementOf 2 3]] := by
    decide +kernel
  have admitted : running.keys = [⟨0, .empty⟩, ⟨2, .empty⟩] := by decide +kernel
  have run : Run first events (endOf first events) := run_follow System.step first refusing
  obtain ⟨⟨accumulates, _, _, size⟩, _⟩ :=
    cumulative_totals rfl run ⟨by decide +kernel, by decide +kernel⟩
  rw [windows] at accumulates
  exact ⟨windows, accumulates, admitted, size⟩

end Telemetry.Provider
