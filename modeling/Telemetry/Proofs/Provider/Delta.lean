import Telemetry.Proofs.Provider.Windows
import Telemetry.Proofs.Tally

/-! Exports with delta temporality. Every window that is collected is shown by one batch, however
often it is tried again, and is exported at most once. Main result: `delta_conserved`. -/
namespace Telemetry.Provider

/-- The batch of the attempt shows its data over its window. -/
structure Attempt.Settled (s : Settings) (a : Attempt) : Prop where
  window : a.data.window = some a.window
  batch : a.batch = a.data.toBatch s.resource .delta (some a.window.1) a.window.2

/-- Data that is tried again makes the same attempt. -/
theorem Attempt.Settled.unique {s : Settings} {a b : Attempt} (left : a.Settled s)
    (right : b.Settled s) (same : a.data = b.data) : a = b := by
  have window : a.window = b.window := by
    have both := left.window.symm.trans (same ▸ right.window)
    exact Option.some.inj both
  have batch : a.batch = b.batch := by rw [left.batch, right.batch, same, window]
  cases a
  cases b
  simp_all

namespace Worker

theorem prepare_delta {s : Settings} (delta : s.temporality = .delta) (now : Timestamp)
    (data : Aggregation) (w : Worker) :
    w.prepare s now order data =
      (⟨data.withWindow (some (w.windowOf now data).1), (w.windowOf now data).1,
        data.toBatch s.resource .delta (some (w.windowOf now data).1.1) (w.windowOf now data).1.2⟩,
        0, (w.windowOf now data).2) := by
  simp [prepare, delta]

theorem withWindow_windowOf {data : Aggregation} {window : Timestamp × Timestamp}
    (settled : data.window = some window) (now : Timestamp) (w : Worker) :
    data.withWindow (some (w.windowOf now data).1) = data := by
  have same : (w.windowOf now data).1 = window := by simp [windowOf, settled]
  rw [same, ← settled]
  rfl

end Worker

variable {y z : System} {label : Label} {effects : List Effect} {events : List Event}
  {settings : Settings} {built : Timestamp} {order : List SeriesKey}

/-- What a run has made of the windows collected so far. Those that are over come before the one
that the worker has in its hands, at work or for another attempt. -/
structure Delivery (s : Settings) (events : List Event) (y : System) : Prop where
  settled : ∀ a ∈ events.flatMap Event.windows, a.Settled s
  shown : (events.flatMap Event.windows).map (·.data.withWindow none) = events.flatMap Event.handed
  busy : y.attempt = none ∨ ∃ watchers, y.channel.receiver.phase = .running watchers
  hands : ∃ (past : List Attempt) (hand : Option Attempt),
    events.flatMap Event.windows = past ++ hand.toList ∧
    (events.flatMap Event.exported).Sublist past ∧
    ((∀ e ∈ events, Event.succeeds e = true) →
      events.flatMap Event.exported = past ∧ y.channel.receiver.retryable? = none) ∧
    (y.attempt = hand ∧ y.channel.receiver.retryable? = none ∨
      y.attempt = none ∧ y.channel.receiver.retryable? = hand.map (·.data))

namespace Delivery

theorem start (settings : Settings) (built : Timestamp) :
    Delivery settings [] (.build settings built) where
  settled := by simp
  shown := rfl
  busy := .inl rfl
  hands := ⟨[], none, rfl, .slnil, fun _ => ⟨rfl, rfl⟩, .inl ⟨rfl, rfl⟩⟩

theorem quiet (delivery : Delivery settings events y) (run : Run (.build settings built) events y)
    (quiet : Quiet y z label effects) : Delivery settings (events ++ [⟨y, label, effects, z⟩]) z := by
  have windows : Event.windows ⟨y, label, effects, z⟩ = [] := by
    simp [Event.windows, quiet.attempts]
  have exported : Event.exported ⟨y, label, effects, z⟩ = [] := by
    simp [Event.exported, quiet.ended]
  have retryable : z.channel.receiver.retryable? = y.channel.receiver.retryable? := by
    rcases quiet.channel with ⟨_, same⟩ | ⟨l, done, _, step, calm⟩
    · rw [same]
    · exact Channel.retryable?_quiet step calm (ledger_tracks run).retried
  constructor
  · simpa [windows] using delivery.settled
  · simpa [windows, quiet.handed] using delivery.shown
  · refine delivery.busy.imp quiet.attempt.trans fun ⟨watchers, phase⟩ => ⟨watchers, ?_⟩
    rcases quiet.channel with ⟨_, same⟩ | ⟨l, done, _, step, calm⟩
    · rw [same, phase]
    · exact Channel.phase_running_quiet step calm phase
  · obtain ⟨past, hand, whole, once, all, held⟩ := delivery.hands
    refine ⟨past, hand, by simpa [windows] using whole, by simpa [exported] using once, ?_, ?_⟩
    · intro succeed
      rw [retryable]
      simpa [exported] using all fun e member => succeed e (by simp [member])
    · rwa [quiet.attempt, retryable]

/-- Data that may be tried again is that of the last window. -/
theorem pending (delivery : Delivery settings events y) {data : Aggregation}
    (pending : y.channel.receiver.retryable? = some data) :
    ∃ past a, events.flatMap Event.windows = past ++ [a] ∧
      (events.flatMap Event.exported).Sublist past ∧ a.data = data ∧
      ¬ ∀ e ∈ events, Event.succeeds e = true := by
  obtain ⟨past, hand, whole, once, all, held⟩ := delivery.hands
  rw [pending] at all held
  obtain ⟨_, none⟩ | ⟨_, some⟩ := held
  · cases none
  · obtain ⟨a, rfl, same⟩ := Option.map_eq_some_iff.mp some.symm
    exact ⟨past, a, whole, once, same, fun succeed => Option.some_ne_none data (all succeed).2⟩

theorem decide (delivery : Delivery settings events y) (step : System.Step y .decide z effects) :
    Delivery settings (events ++ [⟨y, .decide, effects, z⟩]) z := by
  have handed : Event.handed ⟨y, .decide, effects, z⟩ = [] := handed_decide
  cases step with
  | decide c done part =>
    have step := Channel.System.step_sound part
    obtain ⟨b, watchers, phase⟩ := Channel.phase_decide step
    have held : y.channel.receiver.retryable? = some b := by
      simp [Channel.Receiver.retryable?, phase]
    have idle : y.attempt = none := by
      refine delivery.busy.resolve_right ?_
      rintro ⟨_, running⟩
      simp [running] at phase
    have windows : Event.windows ⟨y, .decide, done.flatMap waitOf, y.through c done⟩ = [] := by
      simp [Event.windows, Event.attempts, attempts_waits]
    have exported : Event.exported ⟨y, .decide, done.flatMap waitOf, y.through c done⟩ = [] := rfl
    obtain ⟨past, a, whole, once, same, failed⟩ := delivery.pending held
    have still : ¬ ∀ e ∈ events ++ [⟨y, .decide, done.flatMap waitOf, y.through c done⟩],
        Event.succeeds e = true :=
      fun succeed => failed fun e member => succeed e (by simp [member])
    constructor
    · simpa [windows] using delivery.settled
    · simpa [windows, handed] using delivery.shown
    · exact .inl idle
    · rcases Channel.retryable?_decide step with kept | given_up
      · refine ⟨past, some a, by simpa [windows] using whole, by simpa [exported] using once,
          fun succeed => absurd succeed still, .inr ⟨idle, ?_⟩⟩
        rw [Option.map_some, same, ← held]
        exact kept
      · refine ⟨past ++ [a], none, by simpa [windows] using whole, ?_,
          fun succeed => absurd succeed still, .inr ⟨idle, given_up⟩⟩
        simpa [exported] using once.trans (List.sublist_append_left past [a])

/-- When the worker takes data up, its attempt is that of the last window. -/
theorem begin (delivery : Delivery settings events y) (run : Run (.build settings built) events y)
    (delta : settings.temporality = .delta) {now : Timestamp} {panics : Bool} {data : Aggregation}
    {watchers : List Nat} {a : Attempt} {dropped : Nat} {worker : Worker}
    (phase : y.channel.receiver.phase = .calling data watchers)
    (prepared : y.worker.prepare y.settings now order data = (a, dropped, worker))
    (attempts : Event.attempts ⟨y, .collect now order panics, effects, z⟩ = [a]) :
    let e : Event := ⟨y, .collect now order panics, effects, z⟩
    (∀ b ∈ (events ++ [e]).flatMap Event.windows, b.Settled settings) ∧
      ((events ++ [e]).flatMap Event.windows).map (·.data.withWindow none) =
        (events ++ [e]).flatMap Event.handed ∧
      ∃ past, (events ++ [e]).flatMap Event.windows = past ++ [a] ∧
        (events.flatMap Event.exported).Sublist past ∧
        ((∀ e ∈ events, Event.succeeds e = true) → events.flatMap Event.exported = past) := by
  intro e
  have same : y.settings = settings := settings_run run
  rw [same, Worker.prepare_delta delta] at prepared
  have settled : a.Settled settings := by cases prepared; exact ⟨rfl, rfl⟩
  have shape : a.data = data.withWindow (some (y.worker.windowOf now data).1) := by
    cases prepared
    rfl
  have idle : y.attempt = none :=
    delivery.busy.resolve_right fun ⟨_, running⟩ => by simp [running] at phase
  have handed : Event.handed e = y.channel.aboutToHand := handed_collect phase
  simp only [List.flatMap_append, List.flatMap_cons, List.flatMap_nil, List.append_nil,
    List.map_append, List.forall_mem_append, delivery.shown, handed]
  by_cases first : y.channel.receiver.retry.current = 0
  · -- Data that is new: its window is settled now, and the attempt is the first one at it.
    have windows : Event.windows e = [a] := (if_pos first).trans attempts
    have fresh : y.channel.receiver.retryable? = none := by
      simp [Channel.Receiver.retryable?, phase, first]
    obtain ⟨ms, _, filled⟩ := fresh_data run phase first
    obtain ⟨past, hand, whole, once, all, held⟩ := delivery.hands
    have empty : hand = none := by
      rcases held with ⟨same, _⟩ | ⟨_, same⟩
      · exact same.symm.trans idle
      · exact Option.map_eq_none_iff.mp (same.symm.trans fresh)
    have unsettled : data.window = none := filled ▸ Aggregation.window_fill ms
    rw [windows]
    refine ⟨⟨delivery.settled, by simpa using settled⟩, ?_, past, by simp [whole, empty], once,
      fun succeed => (all succeed).1⟩
    simp [Channel.System.aboutToHand, phase, first, shape, Aggregation.withWindow, ← unsettled]
  · -- Data that was returned: its window is kept, so the same attempt is made again.
    have windows : Event.windows e = [] := if_neg first
    have held : y.channel.receiver.retryable? = some data := by
      simp [Channel.Receiver.retryable?, phase, first]
    obtain ⟨past, b, whole, once, rfl, failed⟩ := delivery.pending held
    have before := delivery.settled b (by simp [whole])
    have equal : b = a := by
      refine before.unique settled ?_
      rw [shape, Worker.withWindow_windowOf before.window]
    rw [windows]
    refine ⟨⟨delivery.settled, by simp⟩, ?_, past, ?_, once, fun succeed => absurd succeed failed⟩
    · simp [Channel.System.aboutToHand, phase, first]
    · rw [List.append_nil, whole, equal]

/-- The end of an attempt: its window is over, or its data may be tried again. -/
theorem finish {e : Event} {a : Attempt} {result : Except ExportError Unit} {past : List Attempt}
    (whole : (events ++ [e]).flatMap Event.windows = past ++ [a])
    (once : (events.flatMap Event.exported).Sublist past)
    (all : (∀ e ∈ events, Event.succeeds e = true) → events.flatMap Event.exported = past)
    (ended : Event.ended e = [(a, result)]) (idle : z.attempt = none)
    (after : z.channel.receiver.retryable? = none ∨
      result.isOk = false ∧ z.channel.receiver.retryable? = some a.data) :
    ∃ (past : List Attempt) (hand : Option Attempt),
      (events ++ [e]).flatMap Event.windows = past ++ hand.toList ∧
      ((events ++ [e]).flatMap Event.exported).Sublist past ∧
      ((∀ d ∈ events ++ [e], Event.succeeds d = true) →
        (events ++ [e]).flatMap Event.exported = past ∧ z.channel.receiver.retryable? = none) ∧
      (z.attempt = hand ∧ z.channel.receiver.retryable? = none ∨
        z.attempt = none ∧ z.channel.receiver.retryable? = hand.map (·.data)) := by
  have succeeds : Event.succeeds e = result.isOk := by simp [Event.succeeds, ended]
  have exported : (events ++ [e]).flatMap Event.exported =
      events.flatMap Event.exported ++ if result.isOk then [a] else [] := by
    cases ok : result.isOk <;> simp [Event.exported, ended, ok]
  rw [exported]
  rcases after with gone | ⟨failed, kept⟩
  · refine ⟨past ++ [a], none, by simpa using whole, ?_, ?_, .inl ⟨idle, gone⟩⟩
    · refine once.append ?_
      split <;> simp
    · intro succeed
      have ok : result.isOk = true := succeeds ▸ succeed e (by simp)
      rw [all fun d member => succeed d (by simp [member]), if_pos ok]
      exact ⟨rfl, gone⟩
  · rw [failed]
    refine ⟨past, some a, whole, by simpa using once, fun succeed => ?_, .inr ⟨idle, kept⟩⟩
    have ok : result.isOk = true := succeeds ▸ succeed e (by simp)
    cases failed.symm.trans ok

theorem collectBegun (delivery : Delivery settings events y)
    (run : Run (.build settings built) events y) (delta : settings.temporality = .delta)
    {now : Timestamp} {data : Aggregation} {watchers : List Nat} {a : Attempt} {dropped : Nat}
    {worker : Worker} (phase : y.channel.receiver.phase = .calling data watchers)
    (prepared : y.worker.prepare y.settings now order data = (a, dropped, worker)) :
    let z : System := { y.working watchers worker dropped with attempt := some a }
    Delivery settings
      (events ++ [⟨y, .collect now order false, y.droppedNotices dropped ++ [.attempt a], z⟩]) z := by
  intro z
  obtain ⟨settled, shown, past, whole, once, all⟩ :=
    delivery.begin run delta phase prepared (attempts_collectBegun dropped a)
  refine ⟨settled, shown, .inr ⟨watchers, rfl⟩, past, some a, whole,
    by simpa [Event.exported, Event.ended] using once, ?_, .inl ⟨rfl, rfl⟩⟩
  intro succeed
  have before := all fun e member => succeed e (by simp [member])
  exact ⟨by simpa [Event.exported, Event.ended] using before, rfl⟩

theorem collectFailed (delivery : Delivery settings events y)
    (run : Run (.build settings built) events y) (delta : settings.temporality = .delta)
    {now : Timestamp} {data : Aggregation} {watchers : List Nat} {a : Attempt} {dropped : Nat}
    {worker : Worker} (phase : y.channel.receiver.phase = .calling data watchers)
    (prepared : y.worker.prepare y.settings now order data = (a, dropped, worker))
    {c : Channel.System Aggregation Nat} {done : List (Channel.Effect Aggregation Nat)}
    (part : (y.working watchers worker dropped).channel.step
      (.settle (y.settings.outcomeOf a (.error .panicked))) = some (c, done))
    (attempts : Event.attempts ⟨y, .collect now order true, effects, z⟩ = [a])
    (idle : z.attempt = none) (channel : z.channel = c) :
    Delivery settings (events ++ [⟨y, .collect now order true, effects, z⟩]) z := by
  obtain ⟨settled, shown, past, whole, once, all⟩ := delivery.begin run delta phase prepared attempts
  have ended : Event.ended ⟨y, .collect now order true, effects, z⟩ = [(a, .error .panicked)] := by
    simp [Event.ended, attempts]
  refine ⟨settled, shown, .inl idle, finish whole once all ended idle (.inl ?_)⟩
  rw [channel]
  rcases Channel.retryable?_settle (Channel.System.step_sound part) with gone | ⟨b, failed, some, _⟩
  · exact gone
  · obtain ⟨_, _, e, same, retryable⟩ := Settings.outcomeOf_failed failed some
    cases same
    cases retryable

theorem poll (delivery : Delivery settings events y) {reply : Reply} {a : Attempt}
    {c : Channel.System Aggregation Nat} {done : List (Channel.Effect Aggregation Nat)}
    (attempt : y.attempt = some a)
    (part : y.channel.step (.settle (y.settings.outcomeOf a (y.resultOf reply))) = some (c, done))
    (attempts : Event.attempts ⟨y, .poll reply, effects, z⟩ = [])
    (idle : z.attempt = none) (channel : z.channel = c) :
    Delivery settings (events ++ [⟨y, .poll reply, effects, z⟩]) z := by
  have windows : Event.windows ⟨y, .poll reply, effects, z⟩ = [] := by
    simp [Event.windows, attempts]
  obtain ⟨past, hand, whole, once, all, held⟩ := delivery.hands
  have same : hand = some a := by
    rcases held with ⟨same, _⟩ | ⟨none, _⟩
    · exact same.symm.trans attempt
    · cases none.symm.trans attempt
  have ended : Event.ended ⟨y, .poll reply, effects, z⟩ = [(a, y.resultOf reply)] := by
    simp [Event.ended, attempt]
  constructor
  · simpa [windows] using delivery.settled
  · simpa [windows, handed_poll] using delivery.shown
  · exact .inl idle
  · refine finish (by simpa [windows, same] using whole) once (fun succeed => (all succeed).1) ended
      idle ?_
    rw [channel]
    rcases Channel.retryable?_settle (Channel.System.step_sound part) with gone | ⟨b, failed, some, kept⟩
    · exact .inl gone
    · obtain ⟨_, rfl, e, result, _⟩ := Settings.outcomeOf_failed failed some
      exact .inr ⟨by rw [result]; rfl, kept⟩

theorem step (delivery : Delivery settings events y) (run : Run (.build settings built) events y)
    (delta : settings.temporality = .delta) (step : System.Step y label z effects) :
    Delivery settings (events ++ [⟨y, label, effects, z⟩]) z := by
  cases calm : label.isQuiet with
  | true => exact delivery.quiet run (quiet_step step calm)
  | false =>
    have same : y.settings = settings := settings_run run
    cases step with
    | collectBegun now data watchers a dropped worker phase prepared =>
      exact delivery.collectBegun run delta phase prepared
    | collectFailed now data watchers a dropped worker c done phase prepared _ part =>
      exact delivery.collectFailed run delta phase prepared part
        (attempts_collectFailed dropped a _ done) rfl rfl
    | collectBroken now panics data watchers a dropped worker c done phase prepared lost =>
      -- Series are dropped by a running state alone.
      rw [same, Worker.prepare_delta delta] at prepared
      cases prepared
      cases lost
    | poll reply a c done attempt part =>
      refine delivery.poll attempt part ?_ rfl rfl
      simp [Event.attempts, attempts_notices, attempts_waits]
    | decide c done part => exact delivery.decide (.decide c done part)
    | _ => cases calm

theorem of_run (delta : settings.temporality = .delta) (run : Run (.build settings built) events y) :
    Delivery settings events y := by
  induction run with
  | nil => exact start settings built
  | snoc run stepped ih => exact ih.step run delta (System.step_sound stepped)

/-- Every attempt, the first one or a later one, is that of a window. -/
theorem attempt_mem (delta : settings.temporality = .delta)
    (run : Run (.build settings built) events y) {e : Event} (member : e ∈ events) {a : Attempt}
    (attempted : a ∈ Event.attempts e) : a ∈ events.flatMap Event.windows := by
  obtain ⟨left, right, rfl⟩ := List.append_of_mem member
  obtain ⟨before, stepped, _⟩ := run.split
  obtain ⟨now, order, panics, data, watchers, dropped, label, phase, prepared, attempts⟩ :=
    attempts_step (System.step_sound stepped) attempted
  rcases e with ⟨y, _, effects, z⟩
  subst label
  obtain ⟨_, _, past, whole, _⟩ := (of_run delta before).begin before delta phase prepared attempts
  rw [List.append_cons, List.flatMap_append, whole]
  simp

/-- Once the loop is left every window is over. -/
theorem exported_eq (delivery : Delivery settings events y) (drained : y.channel.Drained)
    (succeed : ∀ e ∈ events, Event.succeeds e = true) :
    events.flatMap Event.exported = events.flatMap Event.windows := by
  obtain ⟨past, hand, whole, _, all, held⟩ := delivery.hands
  have idle : y.attempt = none := by
    refine delivery.busy.resolve_right fun ⟨_, running⟩ => ?_
    rcases drained.out with phase | phase <;> simp [running] at phase
  have empty : hand = none := by
    rcases held with ⟨same, _⟩ | ⟨_, same⟩
    · exact same.symm.trans idle
    · exact Option.map_eq_none_iff.mp (same.symm.trans (all succeed).2)
  rw [(all succeed).1, whole, empty]
  simp

end Delivery

/-- A look after which the worker's loop ends by itself: the channel is closed and empty, and was
not abandoned. -/
def Event.endsLoop (e : Event) : Bool :=
  (Event.channel e).any fun c => Channel.Event.endsLoop c && !c.before.shared.isAbandoned

theorem endsLoop_channel (ends : ∃ e ∈ events, Event.endsLoop e = true) :
    ∃ c ∈ events.flatMap Event.channel, Channel.Event.endsLoop c = true ∧
      c.before.shared.isAbandoned = false := by
  obtain ⟨e, member, ends⟩ := ends
  obtain ⟨c, part, both⟩ := List.any_eq_true.mp ends
  rw [Bool.and_eq_true, Bool.not_eq_true'] at both
  exact ⟨c, List.mem_flatMap.mpr ⟨e, member, part⟩, both⟩

/-- Every window shows what its data holds. -/
theorem shown_windows {t : Tally} (lawful : t.Lawful) (delivery : Delivery settings events y)
    (run : Run (.build settings built) events y)
    (genuine : Measurement.Genuine (events.flatMap Event.accepted)) :
    ((events.flatMap Event.windows).map fun a => t.shown a.batch).sum =
      ((events.flatMap Event.handed).map t.held).sum := by
  rw [← delivery.shown, List.map_map]
  refine congrArg List.sum (List.map_congr_left fun a member => ?_)
  have stripped : a.data.withWindow none ∈ (ledger events).taken.map Channel.fill := by
    rw [← handed_eq run, ← delivery.shown]
    exact List.mem_append_left _ (List.mem_map_of_mem member)
  obtain ⟨ms, taken, filled⟩ := List.mem_map.mp stripped
  have part : ms ⊆ events.flatMap Event.accepted := by
    intro m hm
    rw [accepted_eq run]
    simp only [List.mem_append]
    exact .inl (.inl (List.mem_flatten.mpr ⟨ms, taken, hm⟩))
  have uniform : (a.data.withWindow none).Uniform :=
    filled ▸ (Aggregation.drawnFrom_fill ms).uniform (genuine.mono part)
  have settled := (delivery.settled a member).batch
  rw [settled, lawful.shown_toBatch a.data ⟨uniform.kind, uniform.instrument⟩]
  exact (lawful.held_withWindow a.data none).symm

theorem tally_conserved {t : Tally} (lawful : t.Lawful) (delivery : Delivery settings events y)
    (run : Run (.build settings built) events y)
    (genuine : Measurement.Genuine (events.flatMap Event.accepted))
    (fits : t.amount (events.flatMap Event.accepted) < 2 ^ 64) :
    t.amount (events.flatMap Event.accepted) =
      ((events.flatMap Event.windows).map fun a => t.shown a.batch).sum +
        (y.channel.aboutToHand.map t.held).sum + t.held y.channel.shared.filling +
        ((events.flatMap Event.cleared).map t.held).sum := by
  have handed := congrArg (fun l => (l.map t.held).sum) (handed_eq run)
  simp only [List.map_append, List.sum_append] at handed
  rw [shown_windows lawful delivery run genuine, handed, cleared_eq run, filling_eq run]
  have parts := accepted_eq run
  have whole : t.amount (events.flatMap Event.accepted) =
      t.amount (ledger events).taken.flatten + t.amount (ledger events).cleared.flatten +
        t.amount (ledger events).waiting := by
    rw [parts, lawful.amount_append, lawful.amount_append]
  rw [parts, List.append_assoc] at genuine
  have taken := lawful.held_fills (genuine.mono (List.subset_append_left _ _)) (by omega)
  have rest := genuine.mono (List.subset_append_right _ _)
  have cleared := lawful.held_fills (rest.mono (List.subset_append_left _ _)) (by omega)
  have waiting := lawful.held_fill _ (rest.mono (List.subset_append_right _ _)) (by omega)
  omega

/-- Where every export succeeds and the loop ends by itself, the exports show everything. -/
theorem tally_exported {t : Tally} (lawful : t.Lawful) (delivery : Delivery settings events y)
    (run : Run (.build settings built) events y)
    (genuine : Measurement.Genuine (events.flatMap Event.accepted))
    (fits : t.amount (events.flatMap Event.accepted) < 2 ^ 64)
    (succeed : ∀ e ∈ events, Event.succeeds e = true) (ends : ∃ e ∈ events, Event.endsLoop e = true) :
    t.amount (events.flatMap Event.accepted) =
      ((events.flatMap Event.exported).map fun a => t.shown a.batch).sum := by
  obtain ⟨c, member, ends, kept⟩ := endsLoop_channel ends
  have drained := Channel.drained_of_mem (channelRun run) member ends kept
  have about : y.channel.aboutToHand = [] := by
    rcases drained.out with phase | phase <;> simp [Channel.System.aboutToHand, phase]
  have filling : t.held y.channel.shared.filling = 0 := lawful.held_empty _ drained.empty
  have cleared : ((events.flatMap Event.cleared).map t.held).sum = 0 := by
    refine List.sum_eq_zero_iff_forall_eq_nat.mpr fun n hn => ?_
    obtain ⟨b, hb, rfl⟩ := List.mem_map.mp hn
    have part : b ∈ (events.flatMap Event.channel).flatMap Channel.Event.cleared := by
      rw [List.flatMap_assoc]
      exact hb
    exact lawful.held_empty b (Channel.cleared_empty_of_mem (channelRun run) member ends kept b part)
  rw [tally_conserved lawful delivery run genuine fits, delivery.exported_eq drained succeed, about,
    filling, cleared]
  simp

/-- In every run of a provider with delta temporality, in whatever order values are recorded,
batches are taken, flushed, exported, refused, tried again and cancelled, what was let in of a
series is what the windows show of it, each window once, and what is still in the channel, and
what an abandonment cleared. Every attempt shows a window, and no window is exported twice. Where
every export succeeds and the loop ends by itself, the exports show all of it. -/
theorem delta_conserved (delta : settings.temporality = .delta)
    (run : Run (.build settings built) events y)
    (genuine : Measurement.Genuine (events.flatMap Event.accepted)) :
    (∀ e ∈ events, ∀ a ∈ Event.attempts e, a ∈ events.flatMap Event.windows) ∧
    (events.flatMap Event.exported).Sublist (events.flatMap Event.windows) ∧
    ∀ k, ∀ t ∈ [Tally.added k, Tally.count k], t.amount (events.flatMap Event.accepted) < 2 ^ 64 →
      t.amount (events.flatMap Event.accepted) =
        ((events.flatMap Event.windows).map fun a => t.shown a.batch).sum +
          (y.channel.aboutToHand.map t.held).sum + t.held y.channel.shared.filling +
          ((events.flatMap Event.cleared).map t.held).sum ∧
      ((∀ e ∈ events, Event.succeeds e = true) → (∃ e ∈ events, Event.endsLoop e = true) →
        t.amount (events.flatMap Event.accepted) =
          ((events.flatMap Event.exported).map fun a => t.shown a.batch).sum) := by
  have delivery := Delivery.of_run delta run
  refine ⟨fun e member a attempted => Delivery.attempt_mem delta run member attempted, ?_, ?_⟩
  · obtain ⟨past, hand, whole, once, _⟩ := delivery.hands
    rw [whole]
    exact once.trans (List.sublist_append_left past hand.toList)
  · intro k t member fits
    have lawful : t.Lawful := by
      simp only [List.mem_cons, List.not_mem_nil, or_false] at member
      rcases member with rfl | rfl
      · exact Tally.lawful_added k
      · exact Tally.lawful_count k
    exact ⟨tally_conserved lawful delivery run genuine fits,
      tally_exported lawful delivery run genuine fits⟩

def requests : Instrument := ⟨0, "requests", .counter, none, none, .ofName "test", none⟩

def increment (n : UInt64) : Measurement := ⟨requests, .increment n, .empty, ⟨.zero⟩⟩

/-- Two windows: the first attempt at the first one runs out of time, and is made again. -/
def retried : List Label :=
  [.call .start ⟨0⟩, .act 0 ⟨0⟩, .act 0 ⟨0⟩, .enter ⟨0⟩, .record (increment 1), .send 0,
    .look ⟨5000000000⟩ ⟨5000000000⟩, .collect ⟨⟨1⟩⟩ [] false, .record (increment 2), .poll .late, .decide,
    .wake, .collect ⟨⟨2⟩⟩ [] false, .send 0, .poll (.ready (.ok ())), .dropSender, .look ⟨0⟩ ⟨0⟩,
    .collect ⟨⟨3⟩⟩ [] false, .poll (.ready (.ok ())), .look ⟨0⟩ ⟨0⟩, .leave]

theorem delta_conserved_retried :
    let events := follow System.step (.build {} ⟨.zero⟩) retried
    (events.flatMap Event.exported).length = 2 ∧
      3 = ((events.flatMap Event.windows).map fun a => a.batch.added ⟨0, .empty⟩).sum := by
  refine ⟨by decide, ?_⟩
  obtain ⟨_, _, conserved⟩ := delta_conserved rfl (run_follow System.step (.build {} ⟨.zero⟩) retried)
    ⟨by decide, by decide⟩
  have total := (conserved ⟨0, .empty⟩ (.added ⟨0, .empty⟩) (by simp) (by decide)).1
  exact total

end Telemetry.Provider
