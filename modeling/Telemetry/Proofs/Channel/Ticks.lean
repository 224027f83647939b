import Telemetry.Proofs.Channel.Backoff

/-! The ticks of a receiver with an interval. One tick follows the next after an interval at least,
however late the looks at the channel are, and a late look makes up for none that it missed. Main
result: `ticks_keep_distance`. -/
namespace Telemetry.Channel

variable {β ι ω : Type}

namespace Receiver

variable {now : Instant} {tick : Instant} {interval : Duration} {r : Receiver β ω}

theorem isTickDue_eq (ticking : r.nextTick = some tick) : r.isTickDue now = decide (tick ≤ now) := by
  simp [isTickDue, ticking]

/-- The tick after a look. None of the sums is later than an interval after the look. -/
theorem tickAfter_cases (ticking : r.nextTick = some tick) (regular : r.interval = some interval) :
    (now < tick ∧ r.tickAfter now = some tick) ∨
    (tick ≤ now ∧ ∃ next, r.tickAfter now = some next ∧
      tick + interval ≤ next ∧ next ≤ now + interval ∧ (.zero < interval → now < next)) := by
  simp only [tickAfter, ticking, regular]
  by_cases due : tick ≤ now
  · have earlier : tick.nanos + interval.nanos ≤ now.nanos + interval.nanos :=
      Nat.add_le_add_right due _
    rw [if_pos due]
    by_cases ahead : now < tick + interval
    · rw [if_pos ahead]
      exact .inr ⟨due, _, rfl, Nat.le_refl _, earlier, fun _ => ahead⟩
    · rw [if_neg ahead]
      exact .inr ⟨due, _, rfl, earlier, Nat.le_refl _, fun positive => Nat.lt_add_of_pos_right positive⟩
  · rw [if_neg due]
    exact .inl ⟨Nat.lt_of_not_le due, rfl⟩

/-- A wait for the next look takes no longer than the delay allows, and ends by the next tick. -/
theorem wait_rest {later : Instant} {d : Duration} (waits : .wait d ∈ (r.rest later).2) :
    d ≤ r.idleDelay.max ∧
      ∀ tick, r.nextTick = some tick → (later ≤ tick → later + d ≤ tick) ∧ (tick ≤ later → d = .zero) := by
  have short : r.idleDelay.next.1 ≤ r.idleDelay.max := Nat.min_le_right _ _
  simp only [rest, List.mem_singleton, Effect.wait.injEq] at waits
  subst waits
  cases ticking : r.nextTick with
  | none => exact ⟨short, by simp⟩
  | some tick =>
    refine ⟨Nat.le_trans (Nat.min_le_left _ _) short, fun _ same => ?_⟩
    obtain rfl := Option.some.inj same
    have within : (r.idleDelay.next.1.shorter (tick.since later)).nanos ≤ tick.nanos - later.nanos :=
      Nat.min_le_right _ _
    refine ⟨fun ahead => ?_, fun past => ?_⟩
    · change later.nanos ≤ tick.nanos at ahead
      change later.nanos + (r.idleDelay.next.1.shorter (tick.since later)).nanos ≤ tick.nanos
      omega
    · change tick.nanos ≤ later.nanos at past
      refine congrArg Duration.mk (Nat.le_zero.mp ?_)
      exact Nat.le_trans within (Nat.le_of_eq (Nat.sub_eq_zero_of_le past))

/-- Whether the receiver is in its loop. -/
def isLooping (r : Receiver β ω) : Bool :=
  match r.phase with
  | .created | .leaving | .exited => false
  | _ => true

end Receiver

namespace Event

/-- A look at which a tick is due. -/
def ticks (e : Event β ι ω) : Bool :=
  match e.label with
  | .look now _ => e.before.receiver.isTickDue now
  | _ => false

/-- The reading of the clock at which the receiver begins. -/
def began (e : Event β ι ω) : List Instant :=
  match e.label with
  | .enter now => [now]
  | _ => []

end Event

variable [Buffer β ι]
variable {first y z : System β ω} {events : List (Event β ι ω)} {label : Label β ι ω}
  {effects : List (Effect β ω)}

theorem settings_receiver (step : System.Step y label z effects) :
    z.receiver.interval = y.receiver.interval ∧ z.receiver.threshold = y.receiver.threshold := by
  cases step with
  | enter now r phase entered =>
    obtain ⟨tick, rfl, _⟩ := Receiver.eq_of_enter entered
    exact ⟨rfl, rfl⟩
  | _ => exact ⟨rfl, rfl⟩

theorem idleDelay_step (step : System.Step y label z effects) :
    z.receiver.idleDelay = y.receiver.idleDelay ∨ z.receiver.idleDelay = y.receiver.idleDelay.next.2 ∨
      z.receiver.idleDelay = y.receiver.idleDelay.reset := by
  cases step with
  | enter now r phase entered =>
    obtain ⟨tick, rfl, _⟩ := Receiver.eq_of_enter entered
    exact .inl rfl
  | lookEarly | lookEmpty => exact .inr (.inl rfl)
  | lookTook => exact .inr (.inr rfl)
  | _ => exact .inl rfl

theorem max_idleDelay_run (run : Run first events y) :
    y.receiver.idleDelay.max = first.receiver.idleDelay.max := by
  refine (run.keeps (fun s => s.receiver.idleDelay.max = first.receiver.idleDelay.max) rfl
    fun stepped same => ?_).2
  rcases idleDelay_step (System.step_sound stepped) with kept | next | reset
  · rw [kept, same]
  · rw [next]
    exact same
  · rw [reset]
    exact same

/-- Only a look moves the tick, and only by the rule for looks. -/
theorem nextTick_step (step : System.Step y label z effects) (looping : z.receiver.isLooping = true) :
    (∃ now later, label = .look now later ∧ y.receiver.phase = .looking ∧
      z.receiver.nextTick = y.receiver.tickAfter now) ∨
    (∃ now, label = .enter now ∧ y.receiver.phase = .created ∧
      ∀ d, y.receiver.interval = some d → z.receiver.nextTick = some (now + d)) ∨
    (Event.ticks ⟨y, label, effects, z⟩ = false ∧ Event.began ⟨y, label, effects, z⟩ = [] ∧
      y.receiver.isLooping = true ∧ z.receiver.nextTick = y.receiver.nextTick) := by
  cases step with
  | lookEarly now later phase | lookTook now later phase | lookEmpty now later phase =>
    exact .inl ⟨now, later, rfl, phase, rfl⟩
  | lookAbandoned | lookEnded | enterBeyondClock | drop | leave => cases looping
  | enter now r phase entered =>
    obtain ⟨tick, rfl, first⟩ := Receiver.eq_of_enter entered
    exact .inr (.inl ⟨now, rfl, phase, first⟩)
  | send | onNextFlush | onStopped | close | abandon => exact .inr (.inr ⟨rfl, rfl, looping, rfl⟩)
  | invoke _ _ phase | settleOver _ _ phase | settleRetryable _ _ phase | decideAbandoned _ _ phase
  | decideRetry _ _ phase | decideOver _ _ phase | wakeRetry _ _ phase | wakeIdle phase =>
    exact .inr (.inr ⟨rfl, rfl, by simp [Receiver.isLooping, phase], rfl⟩)

/-- Where the ticks of a receiver are. As many intervals as it met due ticks, and one more, lie
between its beginning and the next one. -/
structure Schedule (interval : Duration) (events : List (Event β ι ω)) (y : System β ω) : Prop where
  regular : y.receiver.interval = some interval
  created : y.receiver.phase = .created →
    events.countP Event.ticks = 0 ∧ events.flatMap Event.began = []
  looping : y.receiver.isLooping = true → ∃ began tick, events.flatMap Event.began = [began] ∧
    y.receiver.nextTick = some tick ∧
    began.nanos + (events.countP Event.ticks + 1) * interval.nanos ≤ tick.nanos

namespace Schedule

variable {interval : Duration}

omit [Buffer β ι] in
/-- The tick moves on by an interval at least at a look where it is due, and stays at any other. -/
theorem look (schedule : Schedule interval events y) (looking : y.receiver.phase = .looking)
    (now : Instant) :
    ∃ began tick next, events.flatMap Event.began = [began] ∧ y.receiver.nextTick = some tick ∧
      y.receiver.tickAfter now = some next ∧
      began.nanos + (events.countP Event.ticks + 1) * interval.nanos ≤ tick.nanos ∧
      began.nanos + (events.countP Event.ticks + (if y.receiver.isTickDue now then 1 else 0) + 1) *
        interval.nanos ≤ next.nanos := by
  obtain ⟨began, tick, reading, ticking, distance⟩ :=
    schedule.looping (by simp [Receiver.isLooping, looking])
  rw [Receiver.isTickDue_eq ticking]
  rcases Receiver.tickAfter_cases ticking schedule.regular with
    ⟨ahead, same⟩ | ⟨past, next, moved, apart, _, _⟩
  · have early : decide (tick ≤ now) = false := decide_eq_false (Nat.not_le_of_lt ahead)
    refine ⟨began, tick, tick, reading, ticking, same, distance, ?_⟩
    rwa [early, if_neg Bool.false_ne_true, Nat.add_zero]
  · have due : decide (tick ≤ now) = true := decide_eq_true past
    refine ⟨began, tick, next, reading, ticking, moved, distance, ?_⟩
    rw [due, if_pos rfl, Nat.succ_mul, ← Nat.add_assoc]
    exact Nat.le_trans (Nat.add_le_add_right distance _) apart

theorem step (schedule : Schedule interval events y) (step : System.Step y label z effects) :
    Schedule interval (events ++ [⟨y, label, effects, z⟩]) z where
  regular := (settings_receiver step).1.trans schedule.regular
  created fresh := by
    have quiet : Event.ticks ⟨y, label, effects, z⟩ = false ∧
        Event.began ⟨y, label, effects, z⟩ = [] ∧ y.receiver.phase = .created := by
      cases step with
      | enter now r phase entered => cases (Receiver.phase_enter entered).symm.trans fresh
      | send | onNextFlush | onStopped | close | abandon => exact ⟨rfl, rfl, fresh⟩
      | _ => simp_all [Receiver.rest, Receiver.taking, Receiver.retried]
    obtain ⟨unticked, unread, before⟩ := quiet
    obtain ⟨ticks, began⟩ := schedule.created before
    simp [ticks, began, unticked, unread]
  looping looping := by
    rcases nextTick_step step looping with
      ⟨now, later, rfl, phase, moved⟩ | ⟨now, rfl, phase, set⟩ | ⟨unticked, unread, before, kept⟩
    · obtain ⟨began, _, next, reading, _, after, _, distance⟩ := schedule.look phase now
      refine ⟨began, next, by simp [reading, Event.began], moved.trans after, ?_⟩
      rwa [List.countP_append, List.countP_singleton]
    · obtain ⟨ticks, none⟩ := schedule.created phase
      refine ⟨now, now + interval, by simp [none, Event.began], set interval schedule.regular, ?_⟩
      simp only [List.countP_append, ticks, List.countP_singleton, Event.ticks]
      exact Nat.le_of_eq (by simp; rfl)
    · obtain ⟨began, tick, reading, ticking, distance⟩ := schedule.looping before
      refine ⟨began, tick, by simp [reading, unread], kept.trans ticking, ?_⟩
      simpa [unticked] using distance

theorem of_run {capacity : Nat} {threshold : Option Nat} {maxRetries : Nat}
    (run : Run (.start capacity (.create (some interval) threshold maxRetries)) events y) :
    Schedule interval events y := by
  induction run with
  | nil => exact ⟨rfl, fun _ => ⟨rfl, rfl⟩, fun looping => by cases looping⟩
  | snoc _ stepped ih => exact ih.step (System.step_sound stepped)

end Schedule

theorem phase_look {now later : Instant}
    (step : System.Step y (.look now later : Label β ι ω) z effects) :
    y.receiver.phase = .looking := by
  cases step with
  | lookAbandoned _ _ phase | lookEarly _ _ phase | lookTook _ _ phase | lookEnded _ _ phase
  | lookEmpty _ _ phase => exact phase

/-- A look is abandoned, or moves the tick by its rule. -/
theorem nextTick_look {now later : Instant}
    (step : System.Step y (.look now later : Label β ι ω) z effects) :
    y.shared.isAbandoned = true ∨ z.receiver.nextTick = y.receiver.tickAfter now := by
  cases step with
  | lookAbandoned _ _ _ abandoned => exact .inl abandoned
  | lookEarly | lookTook | lookEnded | lookEmpty => exact .inr rfl

/-- A batch is taken because it is time, or somebody asked, or nothing more can come, or there is
enough. -/
theorem takes_cases (step : System.Step y label z effects)
    (takes : Event.takes ⟨y, label, effects, z⟩ = true)
    (early : Event.ticks ⟨y, label, effects, z⟩ = false) :
    y.shared.isFlushRequested = true ∨ y.shared.isOpen = false ∨
      ∃ n, y.receiver.threshold = some n ∧ n ≤ y.shared.queueLength := by
  cases step with
  | lookTook now later phase kept due =>
    change y.receiver.isTickDue now = false at early
    simp only [Receiver.isDue, early, Bool.false_or, Bool.or_eq_true, Bool.not_eq_true'] at due
    rcases due with (asked | closed) | enough
    · exact .inl asked
    · exact .inr (.inl closed)
    · cases limit : y.receiver.threshold with
      | none => simp [limit] at enough
      | some n => exact .inr (.inr ⟨n, rfl, by simpa [limit] using enough⟩)
  | _ => simp [Event.takes, Receiver.rest] at takes

theorem wait_look {now later : Instant} {d : Duration}
    (step : System.Step y (.look now later : Label β ι ω) z effects) (waits : .wait d ∈ effects) :
    d ≤ y.receiver.idleDelay.max ∧ ∀ tick, z.receiver.nextTick = some tick →
      (later ≤ tick → later + d ≤ tick) ∧ (tick ≤ later → d = .zero) := by
  cases step with
  | lookEarly => exact Receiver.wait_rest (r := y.receiver.ticked now) waits
  | lookEmpty =>
    refine Receiver.wait_rest (r := y.receiver.ticked now) ?_
    simpa using waits
  | lookAbandoned | lookTook | lookEnded => simp at waits

/-- What a look of a receiver with an interval does, where the clock showed `began` as the receiver
began, and shows `now` and, as a wait begins, `later`. -/
structure Paced (interval : Duration) (threshold : Option Nat) (earlier : List (Event β ι ω))
    (began now later : Instant) (e : Event β ι ω) : Prop where
  /-- A tick that is due is followed by one in an interval at least, from the tick, and at most, from
  now. A look that finds the channel abandoned is the last one. -/
  next : ∃ tick, e.before.receiver.nextTick = some tick ∧ e.ticks = decide (tick ≤ now) ∧
    (e.before.shared.isAbandoned = true ∨ ∃ next, e.after.receiver.nextTick = some next ∧
      (now < tick → next = tick) ∧
      (tick ≤ now → tick + interval ≤ next ∧ next ≤ now + interval ∧ now < next))
  /-- No tick is due ahead of its time, however late the ones before it were. -/
  onTime : e.ticks = true →
    began.nanos + (earlier.countP Event.ticks + 1) * interval.nanos ≤ now.nanos
  /-- Before its time a batch is taken for a reason. -/
  reason : e.takes = true → e.ticks = false → e.before.shared.isFlushRequested = true ∨
    e.before.shared.isOpen = false ∨ ∃ n, threshold = some n ∧ n ≤ e.before.shared.queueLength
  /-- A wait is short and ends by the next tick. -/
  wait : ∀ d, .wait d ∈ e.effects → d ≤ .ofMillis 100 ∧
    ∀ tick, e.after.receiver.nextTick = some tick →
      (later ≤ tick → later + d ≤ tick) ∧ (tick ≤ later → d = .zero)

theorem settings_run (run : Run first events y) :
    y.receiver.interval = first.receiver.interval ∧
      y.receiver.threshold = first.receiver.threshold := by
  refine (run.keeps (fun s => s.receiver.interval = first.receiver.interval ∧
    s.receiver.threshold = first.receiver.threshold) ⟨rfl, rfl⟩ fun stepped same => ?_).2
  obtain ⟨interval, threshold⟩ := settings_receiver (System.step_sound stepped)
  exact ⟨interval.trans same.1, threshold.trans same.2⟩

/-- In every run of a receiver with an interval, and whatever the clock shows, each look keeps the
distance of the ticks, takes a batch before its time for a reason only, and waits no longer than it
may. -/
theorem ticks_keep_distance {capacity : Nat} {interval : Duration} {threshold : Option Nat}
    {maxRetries : Nat} (positive : .zero < interval) {earlier more : List (Event β ι ω)}
    {e : Event β ι ω} {now later : Instant}
    (run : Run (.start capacity (.create (some interval) threshold maxRetries))
      (earlier ++ e :: more) y)
    (looks : e.label = .look now later) :
    ∃ began, earlier.flatMap Event.began = [began] ∧
      Paced interval threshold earlier began now later e := by
  obtain ⟨upTo, here, _⟩ := run.split
  obtain ⟨before, _, effects, after⟩ := e
  subst looks
  have step := System.step_sound here
  have schedule := Schedule.of_run upTo
  obtain ⟨began, tick, next, reading, ticking, moved, distance, _⟩ :=
    schedule.look (phase_look step) now
  have due : Event.ticks ⟨before, (.look now later : Label β ι ω), effects, after⟩ =
      decide (tick ≤ now) := Receiver.isTickDue_eq ticking
  refine ⟨began, reading, ?_, fun ticks => ?_, fun takes early => ?_, fun d waits => ?_⟩
  · refine ⟨tick, ticking, due, (nextTick_look step).imp_right fun same => ?_⟩
    refine ⟨next, same.trans moved, ?_⟩
    rcases Receiver.tickAfter_cases ticking schedule.regular with
      ⟨ahead, stays⟩ | ⟨past, following, moves, apart, within, ahead⟩
    · obtain rfl := Option.some.inj (moved.symm.trans stays)
      exact ⟨fun _ => rfl, fun past => absurd past (Nat.not_le_of_lt ahead)⟩
    · obtain rfl := Option.some.inj (moved.symm.trans moves)
      exact ⟨fun early => absurd past (Nat.not_le_of_lt early), fun _ => ⟨apart, within, ahead positive⟩⟩
  · exact Nat.le_trans distance (of_decide_eq_true (due.symm.trans ticks))
  · have limit : before.receiver.threshold = threshold := (settings_run upTo).2
    exact limit ▸ takes_cases step takes early
  · have longest : before.receiver.idleDelay.max = .ofMillis 100 := max_idleDelay_run upTo
    exact longest ▸ wait_look step waits

/-- A look ahead of the first tick, one that is late for the next two, and one at which a flush was
asked for. -/
def late : List (Label (List Nat) Nat Nat) :=
  [.enter ⟨0⟩, .send 1, .look ⟨4⟩ ⟨5⟩, .wake, .look ⟨35⟩ ⟨36⟩, .invoke, .send 2, .onNextFlush 0,
    .settle .processed, .look ⟨40⟩ ⟨41⟩]

theorem ticks_keep_distance_late :
    let events := follow System.step (.start 2 (.create (some ⟨10⟩) none 10)) late
    ∃ earlier e more, events = earlier ++ e :: more ∧ e.label = .look ⟨35⟩ ⟨36⟩ ∧
      e.after.receiver.nextTick = some ⟨45⟩ ∧ events.countP Event.ticks = 1 ∧
      events.countP Event.takes = 2 ∧
      ∃ began, earlier.flatMap Event.began = [began] ∧ Paced ⟨10⟩ none earlier began ⟨35⟩ ⟨36⟩ e := by
  intro events
  have split : events = events.take 4 ++ events.get ⟨4, by decide⟩ :: events.drop 5 := by simp
  have run := run_follow System.step (.start 2 (.create (some ⟨10⟩) none 10)) late
  rw [show follow System.step _ late = _ from split] at run
  exact ⟨_, _, _, split, rfl, rfl, by decide, by decide, ticks_keep_distance (by decide) run rfl⟩

end Telemetry.Channel
