import Telemetry.Proofs.Channel.Invocations
import Telemetry.Proofs.Provider.Cumulative
import Telemetry.Proofs.Provider.Delta
import Telemetry.Proofs.Provider.Endings

/-! The attempts at each window. They are made one after the other, a further one only after a
failure that is worth it, and the counters of the worker and of its channel agree on them. Main
result: `attempts_accounted`. -/
namespace Telemetry.Provider

/-- How many windows are taken in an event. -/
def Event.taken (e : Event) : Nat := (Event.channel e).countP Channel.Event.takes

/-- The results of the attempts that come to an end. -/
def Event.results (e : Event) : List (Except ExportError Unit) := (Event.ended e).map Prod.snd

/-- The events of a run, each with the number of windows taken before it. -/
def numbered (taken : Nat) : List Event → List (Nat × Event)
  | [] => []
  | e :: rest => (taken, e) :: numbered (taken + e.taken) rest

/-- What the events show while the window of a number is the last one taken. -/
def during {α : Type} (f : Event → List α) (n : Nat) (events : List Event) : List α :=
  (numbered 0 events).flatMap fun (taken, e) => if taken = n + 1 then f e else []

/-- A result after which a window is attempted again, if any retries are left. -/
def Settings.Retries (s : Settings) (result : Except ExportError Unit) : Prop :=
  s.temporality = .delta ∧ ∃ err, result = .error err ∧ err.isRetryable = true

variable {y z : System} {label : Label} {effects : List Effect} {events : List Event}
  {settings : Settings} {built : Timestamp} {order : List SeriesKey}

theorem numbered_append (taken : Nat) (events more : List Event) :
    numbered taken (events ++ more) =
      numbered taken events ++ numbered (taken + (events.map Event.taken).sum) more := by
  induction events generalizing taken with
  | nil => rfl
  | cons e rest ih =>
    rw [List.cons_append, numbered, ih, numbered, List.map_cons, List.sum_cons, Nat.add_assoc,
      List.cons_append]

theorem length_taken (events : List Event) :
    (ledger events).taken.length = (events.map Event.taken).sum := by
  rw [ledger, Channel.Ledger.length_taken, List.countP_flatMap]
  rfl

theorem during_concat {α : Type} (f : Event → List α) (n : Nat) (events : List Event) (e : Event) :
    during f n (events ++ [e]) =
      during f n events ++ if (ledger events).taken.length = n + 1 then f e else [] := by
  rw [during, numbered_append, List.flatMap_append, Nat.zero_add, ← length_taken]
  simp [during, numbered]

/-- Without an attempt that begins or ends, a window is taken with empty hands, or what is in hand
stays as it is. -/
theorem hands_quiet (events : List Event) (quiet : Quiet y z label effects) :
    let after := events ++ [⟨y, label, effects, z⟩]
    ((ledger after).taken.length = (ledger events).taken.length + 1 ∧
      y.channel.receiver.isHolding = false ∧ z.channel.receiver.isHolding = true ∧
      z.channel.receiver.failures = 0 ∧ z.channel.receiver.isRunning = false) ∨
    ((ledger after).taken.length = (ledger events).taken.length ∧
      z.channel.receiver.isHolding = y.channel.receiver.isHolding ∧
      (y.channel.receiver.isHolding = true →
        z.channel.receiver.failures = y.channel.receiver.failures ∧
          z.channel.receiver.isRunning = y.channel.receiver.isRunning)) := by
  intro after
  rw [ledger_concat]
  rcases quiet.channel with ⟨none, same⟩ | ⟨l, done, one, step, calm⟩
  · rw [none, same]
    exact .inr ⟨rfl, rfl, fun _ => ⟨rfl, rfl⟩⟩
  · rw [one]
    rcases Channel.isHolding_quiet step calm with ⟨takes, idle, holds⟩ | ⟨takes, same⟩
    · refine .inl ⟨?_, idle, holds, Channel.failures_takes step takes⟩
      exact (congrArg List.length (Channel.Ledger.taken_note_takes takes)).trans
        List.length_append
    · refine .inr ⟨congrArg List.length (Channel.Ledger.taken_note takes), same, fun held => ?_⟩
      exact ⟨Channel.failures_quiet step calm takes held, Channel.isRunning_quiet step calm⟩

/-- The window of a number is in the worker's hands: all attempts at it have failed so far, in a way
that is worth another one. -/
structure UnderWay (s : Settings) (n : Nat) (events : List Event) (y : System) : Prop where
  holds : y.channel.receiver.isHolding = true
  last : (ledger events).taken.length = n + 1
  failed : ∀ result ∈ during Event.results n events, s.Retries result
  results : (during Event.results n events).length = y.channel.receiver.failures
  attempts : (during Event.attempts n events).length =
    y.channel.receiver.failures + if y.channel.receiver.isRunning then 1 else 0

/-- The window of a number is over: of the attempts at it all but the last failed in a way that is
worth another one, which were no more than the retries allowed. -/
structure Spent (s : Settings) (n : Nat) (events : List Event) : Prop where
  results : ∃ earlier last, during Event.results n events = earlier ++ [last] ∧
    (∀ result ∈ earlier, s.Retries result) ∧ earlier.length ≤ s.maxRetries
  attempts : (during Event.attempts n events).length = (during Event.results n events).length

/-- What a run makes of the windows: no attempt comes before its window, each is over before the
next one is taken. -/
structure Tries (s : Settings) (events : List Event) (y : System) : Prop where
  ahead : ∀ n, (ledger events).taken.length ≤ n →
    during Event.attempts n events = [] ∧ during Event.results n events = []
  past : ∀ n, n + 1 < (ledger events).taken.length → Spent s n events
  last : ∀ n, (ledger events).taken.length = n + 1 →
    y.channel.receiver.isHolding = false ∧ Spent s n events ∨ UnderWay s n events y

theorem Spent.congr {n : Nat} {more : List Event} (spent : Spent settings n events)
    (attempts : during Event.attempts n more = during Event.attempts n events)
    (results : during Event.results n more = during Event.results n events) :
    Spent settings n more := by
  obtain ⟨ends, count⟩ := spent
  exact ⟨results ▸ ends, by rw [attempts, results, count]⟩

namespace Tries

theorem start (settings : Settings) (built : Timestamp) :
    Tries settings [] (.build settings built) where
  ahead _ _ := ⟨rfl, rfl⟩
  past _ less := absurd less (Nat.not_lt_zero _)
  last n taken := absurd taken.symm (Nat.succ_ne_zero n)

/-- The windows that are not in hand are left as they are by an attempt that begins or ends. -/
theorem busy (tries : Tries settings events y) {n : Nat} (busy : label.isQuiet = false)
    (last : (ledger events).taken.length = n + 1)
    (now : z.channel.receiver.isHolding = false ∧
        Spent settings n (events ++ [⟨y, label, effects, z⟩]) ∨
      UnderWay settings n (events ++ [⟨y, label, effects, z⟩]) z) :
    Tries settings (events ++ [⟨y, label, effects, z⟩]) z := by
  have same : (ledger (events ++ [⟨y, label, effects, z⟩])).taken = (ledger events).taken :=
    taken_busy events busy
  have others : ∀ {α : Type} (f : Event → List α) m, m ≠ n →
      during f m (events ++ [⟨y, label, effects, z⟩]) = during f m events := by
    intro α f m other
    rw [during_concat, if_neg (by omega), List.append_nil]
  constructor
  · intro m beyond
    rw [same] at beyond
    rw [others _ m (by omega), others _ m (by omega)]
    exact tries.ahead m beyond
  · intro m past
    rw [same] at past
    exact (tries.past m past).congr (others _ m (by omega)) (others _ m (by omega))
  · intro m this
    rw [same, last] at this
    cases Nat.succ_injective this
    exact now

theorem quiet (tries : Tries settings events y) (quiet : Quiet y z label effects) :
    Tries settings (events ++ [⟨y, label, effects, z⟩]) z := by
  have attempts : ∀ n, during Event.attempts n (events ++ [⟨y, label, effects, z⟩]) =
      during Event.attempts n events := by
    intro n
    rw [during_concat, quiet.attempts, ite_self, List.append_nil]
  have results : ∀ n, during Event.results n (events ++ [⟨y, label, effects, z⟩]) =
      during Event.results n events := by
    intro n
    rw [during_concat, Event.results, quiet.ended, List.map_nil, ite_self, List.append_nil]
  have spent : ∀ n, Spent settings n events →
      Spent settings n (events ++ [⟨y, label, effects, z⟩]) :=
    fun n spent => spent.congr (attempts n) (results n)
  rcases hands_quiet events quiet with ⟨more, idle, holds, failures, running⟩ | ⟨same, holds, hand⟩
  · constructor
    · intro n beyond
      rw [attempts, results]
      exact tries.ahead n (by omega)
    · intro n past
      refine spent n ?_
      rcases Nat.lt_or_ge (n + 1) (ledger events).taken.length with before | lastOne
      · exact tries.past n before
      · refine ((tries.last n (by omega)).resolve_right fun underWay => ?_).2
        cases idle.symm.trans underWay.holds
    · intro n this
      obtain ⟨none, nobody⟩ := tries.ahead n (by omega)
      refine .inr ⟨holds, this, ?_, ?_, ?_⟩
      · rw [results, nobody]
        nofun
      · rw [results, nobody, failures, List.length_nil]
      · rw [attempts, none, failures, running]
        rfl
  · constructor
    · intro n beyond
      rw [attempts, results]
      exact tries.ahead n (same ▸ beyond)
    · intro n past
      exact spent n (tries.past n (same ▸ past))
    · intro n this
      rcases tries.last n (same ▸ this) with ⟨idle, done⟩ | underWay
      · exact .inl ⟨holds.trans idle, spent n done⟩
      · obtain ⟨failures, running⟩ := hand underWay.holds
        refine .inr ⟨holds.trans underWay.holds, this, ?_, ?_, ?_⟩
        · rw [results]
          exact underWay.failed
        · rw [results, failures, underWay.results]
        · rw [attempts, failures, running, underWay.attempts]

end Tries

namespace UnderWay

variable {n : Nat}

theorem during_concat (underWay : UnderWay settings n events y) {α : Type} (f : Event → List α)
    (e : Event) : during f n (events ++ [e]) = during f n events ++ f e := by
  rw [Provider.during_concat, if_pos underWay.last]

theorem next (underWay : UnderWay settings n events y) (busy : label.isQuiet = false)
    (holds : z.channel.receiver.isHolding = true)
    (failed : ∀ result ∈ Event.results ⟨y, label, effects, z⟩, settings.Retries result)
    (failures : z.channel.receiver.failures =
      y.channel.receiver.failures + (Event.results ⟨y, label, effects, z⟩).length)
    (attempts : (if y.channel.receiver.isRunning then 1 else 0) +
        (Event.attempts ⟨y, label, effects, z⟩).length =
      (Event.results ⟨y, label, effects, z⟩).length +
        if z.channel.receiver.isRunning then 1 else 0) :
    UnderWay settings n (events ++ [⟨y, label, effects, z⟩]) z where
  holds := holds
  last := (congrArg List.length (taken_busy events busy)).trans underWay.last
  failed := by
    rw [underWay.during_concat]
    intro result member
    rcases List.mem_append.mp member with before | now
    · exact underWay.failed result before
    · exact failed result now
  results := by rw [underWay.during_concat, List.length_append, underWay.results, failures]
  attempts := by
    rw [underWay.during_concat, List.length_append, underWay.attempts, failures]
    omega

/-- The attempt in progress, or one that fails as it begins, is the last one. -/
theorem spent (underWay : UnderWay settings n events y)
    (bounded : y.channel.receiver.failures ≤ settings.maxRetries) {e : Event}
    {result : Except ExportError Unit} (results : Event.results e = [result])
    (attempts : (if y.channel.receiver.isRunning then 1 else 0) + (Event.attempts e).length = 1) :
    Spent settings n (events ++ [e]) := by
  constructor
  · refine ⟨during Event.results n events, result, ?_, underWay.failed, ?_⟩
    · rw [underWay.during_concat, results]
    · rw [underWay.results]
      exact bounded
  · rw [underWay.during_concat, underWay.during_concat, List.length_append, List.length_append,
      underWay.attempts, underWay.results, results, List.length_singleton]
    omega

/-- The last attempt was the one before, where no retry is left. -/
theorem givenUp (underWay : UnderWay settings n events y)
    (bounded : y.channel.receiver.failures ≤ settings.maxRetries + 1)
    (some : 0 < y.channel.receiver.failures) (rests : y.channel.receiver.isRunning = false)
    {e : Event} (results : Event.results e = []) (attempts : Event.attempts e = []) :
    Spent settings n (events ++ [e]) := by
  have count := underWay.results
  constructor
  · rw [underWay.during_concat, results, List.append_nil]
    rcases List.eq_nil_or_concat (during Event.results n events) with none | ⟨earlier, last, whole⟩
    · rw [none, List.length_nil] at count
      omega
    · have failed := underWay.failed
      rw [List.concat_eq_append] at whole
      rw [whole] at failed
      rw [whole, List.length_append, List.length_singleton] at count
      exact ⟨earlier, last, whole, fun result member => failed result (by simp [member]), by omega⟩
  · rw [underWay.during_concat, underWay.during_concat, results, attempts, List.append_nil,
      List.append_nil, underWay.attempts, underWay.results, rests]
    rfl

end UnderWay

namespace Tries

/-- A batch in the worker's hands is that of the last window taken. -/
theorem underWay (tries : Tries settings events y) (run : Run (.build settings built) events y)
    (holds : y.channel.receiver.isHolding = true) : ∃ n, UnderWay settings n events y := by
  have count := Channel.countP_takes (channelRun run) rfl
  rw [holds, if_pos rfl, ← Channel.Ledger.length_taken] at count
  refine ⟨(events.flatMap Event.channel).countP Channel.Event.finishes, ?_⟩
  refine (tries.last _ count).resolve_left fun ⟨idle, _⟩ => ?_
  cases idle.symm.trans holds

theorem retries_le (run : Run (.build settings built) events y)
    (holds : y.channel.receiver.isHolding = true) :
    y.channel.receiver.retry.current ≤ settings.maxRetries := by
  have counted := ((channelRun run).keeps (fun s => s.receiver.CountsWithin) (Nat.zero_le _)
    fun stepped => Channel.countsWithin_step (Channel.System.step_sound stepped)).2
  rwa [Channel.Receiver.CountsWithin, if_pos holds, Channel.max_run (channelRun run)] at counted

theorem collectBegun (tries : Tries settings events y) (run : Run (.build settings built) events y)
    {now : Timestamp} {data : Aggregation} {watchers : List Nat} {a : Attempt} {dropped : Nat}
    {worker : Worker} (phase : y.channel.receiver.phase = .calling data watchers) :
    let z : System := { y.working watchers worker dropped with attempt := some a }
    Tries settings
      (events ++ [⟨y, .collect now order false, y.droppedNotices dropped ++ [.attempt a], z⟩]) z := by
  intro z
  obtain ⟨n, hand⟩ := tries.underWay run (by simp [Channel.Receiver.isHolding, phase])
  refine tries.busy rfl hand.last (.inr (hand.next rfl rfl (List.forall_mem_nil _) ?_ ?_))
  · simp [z, System.working, Channel.Receiver.failures, Event.results, Event.ended, phase]
  · rw [attempts_collectBegun]
    simp [z, System.working, Channel.Receiver.isRunning, Event.results, Event.ended, phase]

theorem collectFailed (tries : Tries settings events y) (run : Run (.build settings built) events y)
    {now : Timestamp} {data : Aggregation} {watchers : List Nat} {a : Attempt} {dropped : Nat}
    {worker : Worker} {c : Channel.System Aggregation Nat}
    {done : List (Channel.Effect Aggregation Nat)}
    (phase : y.channel.receiver.phase = .calling data watchers)
    (part : (y.working watchers worker dropped).channel.step
      (.settle (y.settings.outcomeOf a (.error .panicked))) = some (c, done)) :
    let z := ((y.working watchers worker dropped).ended a (.error .panicked)).through c done
    Tries settings (events ++ [⟨y, .collect now order true, y.droppedNotices dropped ++ .attempt a ::
      (y.notices (a.noticeOf (.error .panicked)) ++ done.flatMap waitOf), z⟩]) z := by
  intro z
  have holds : y.channel.receiver.isHolding = true := by simp [Channel.Receiver.isHolding, phase]
  obtain ⟨n, hand⟩ := tries.underWay run holds
  have idle : z.channel.receiver.isHolding = false := by
    refine (Channel.failures_settle (Channel.System.step_sound part)).resolve_right ?_
    rintro ⟨b, failed, some, _⟩
    -- A panic of the exporter is never worth another attempt.
    obtain ⟨_, _, err, same, retryable⟩ := Settings.outcomeOf_failed failed some
    cases same
    cases retryable
  have bounded : y.channel.receiver.failures ≤ settings.maxRetries := by
    simpa [Channel.Receiver.failures, phase] using retries_le run holds
  have results : Event.results ⟨y, .collect now order true, y.droppedNotices dropped ++ .attempt a ::
      (y.notices (a.noticeOf (.error .panicked)) ++ done.flatMap waitOf), z⟩ =
        [.error .panicked] := by
    rw [Event.results, ended_collectFailed]
    rfl
  refine tries.busy rfl hand.last (.inl ⟨idle, hand.spent bounded results ?_⟩)
  rw [attempts_collectFailed]
  simp [Channel.Receiver.isRunning, phase]

theorem poll (tries : Tries settings events y) (run : Run (.build settings built) events y)
    {reply : Reply} {a : Attempt} {c : Channel.System Aggregation Nat}
    {done : List (Channel.Effect Aggregation Nat)} (attempt : y.attempt = some a)
    (part : y.channel.step (.settle (y.settings.outcomeOf a (y.resultOf reply))) = some (c, done)) :
    let z := (y.ended a (y.resultOf reply)).through c done
    Tries settings (events ++ [⟨y, .poll reply,
      y.notices (a.noticeOf (y.resultOf reply)) ++ done.flatMap waitOf, z⟩]) z := by
  intro z
  have step := Channel.System.step_sound part
  obtain ⟨watchers, phase⟩ := Channel.phase_settle step
  have holds : y.channel.receiver.isHolding = true := by simp [Channel.Receiver.isHolding, phase]
  have runs : y.channel.receiver.isRunning = true := by simp [Channel.Receiver.isRunning, phase]
  obtain ⟨n, hand⟩ := tries.underWay run holds
  have results : Event.results ⟨y, .poll reply, y.notices (a.noticeOf (y.resultOf reply)) ++
      done.flatMap waitOf, z⟩ = [y.resultOf reply] := by
    simp [Event.results, Event.ended, attempt]
  have attempts : Event.attempts ⟨y, .poll reply,
      y.notices (a.noticeOf (y.resultOf reply)) ++ done.flatMap waitOf, z⟩ = [] := by
    simp [Event.attempts, attempts_notices, attempts_waits]
  refine tries.busy rfl hand.last ?_
  rcases Channel.failures_settle step with idle | ⟨b, failed, some, again, failures, rests⟩
  · refine .inl ⟨idle, hand.spent ?_ results ?_⟩
    · simpa [Channel.Receiver.failures, phase] using retries_le run holds
    · rw [attempts, runs]
      rfl
  · obtain ⟨delta, _, worth⟩ := Settings.outcomeOf_failed failed some
    refine .inr (hand.next rfl again ?_ ?_ ?_)
    · intro result member
      rw [results, List.mem_singleton] at member
      subst member
      rw [settings_run run] at delta
      exact ⟨delta, worth⟩
    · rw [results]
      exact failures
    · rw [attempts, results, runs]
      exact (if_neg (Bool.eq_false_iff.mp rests)).symm ▸ rfl

theorem decide (tries : Tries settings events y) (run : Run (.build settings built) events y)
    {c : Channel.System Aggregation Nat} {done : List (Channel.Effect Aggregation Nat)}
    (part : y.channel.step .decide = some (c, done)) :
    let z := y.through c done
    Tries settings (events ++ [⟨y, .decide, done.flatMap waitOf, z⟩]) z := by
  intro z
  have step := Channel.System.step_sound part
  obtain ⟨b, watchers, phase⟩ := Channel.phase_decide step
  have holds : y.channel.receiver.isHolding = true := by simp [Channel.Receiver.isHolding, phase]
  have rests : y.channel.receiver.isRunning = false := by simp [Channel.Receiver.isRunning, phase]
  have count : y.channel.receiver.failures = y.channel.receiver.retry.current + 1 := by
    simp [Channel.Receiver.failures, phase]
  obtain ⟨n, hand⟩ := tries.underWay run holds
  have attempts : Event.attempts ⟨y, .decide, done.flatMap waitOf, z⟩ = [] := attempts_waits done
  refine tries.busy rfl hand.last ?_
  rcases Channel.failures_decide step with idle | ⟨again, failures, still⟩
  · have bound := retries_le run holds
    exact .inl ⟨idle, hand.givenUp (by omega) (by omega) rests rfl attempts⟩
  · refine .inr (hand.next rfl again (List.forall_mem_nil _) failures ?_)
    rw [attempts, rests]
    exact (if_neg (Bool.eq_false_iff.mp still)).symm ▸ rfl

/-- One step makes at most one attempt at the last window, or ends one. -/
theorem step (calm : ∀ n, settings.panicsOn n = false) (tries : Tries settings events y)
    (run : Run (.build settings built) events y) (step : System.Step y label z effects) :
    Tries settings (events ++ [⟨y, label, effects, z⟩]) z := by
  cases quiet : label.isQuiet with
  | true => exact tries.quiet (quiet_step step quiet)
  | false =>
    cases step with
    | collectBegun now data watchers a dropped worker phase => exact tries.collectBegun run phase
    | collectFailed now data watchers a dropped worker c done phase prepared _ part =>
      exact tries.collectFailed run phase part
    | collectBroken now panics data watchers a dropped worker c done _ _ _ panicked =>
      rw [settings_run run] at panicked
      cases (calm _).symm.trans panicked
    | poll reply a c done attempt part => exact tries.poll run attempt part
    | decide c done part => exact tries.decide run part
    | _ => cases quiet

theorem of_run (calm : ∀ n, settings.panicsOn n = false)
    (run : Run (.build settings built) events y) : Tries settings events y := by
  induction run with
  | nil => exact start settings built
  | snoc run stepped ih => exact ih.step calm run (System.step_sound stepped)

end Tries

/-- The worker and its channel count the same ends of attempts. -/
structure System.Agrees (y : System) : Prop where
  succeeded : y.channel.shared.counters.processed = y.counters.succeeded
  failed : y.channel.shared.counters.failed = y.counters.failed + y.counters.cancelled
  panicked : y.channel.shared.counters.panicked = 0

/-- The ends of attempts are counted as they come. -/
theorem ends_quiet (step : System.Step y label z effects) (quiet : label.isQuiet = true) :
    z.counters.succeeded = y.counters.succeeded ∧ z.counters.failed = y.counters.failed ∧
      z.counters.cancelled = y.counters.cancelled := by
  cases step with
  | act place now caller next z effects found acts => cases acts <;> exact ⟨rfl, rfl, rfl⟩
  | collectBegun | collectFailed | collectBroken | poll | decide => cases quiet
  | _ => exact ⟨rfl, rfl, rfl⟩

theorem System.Agrees.quiet (agrees : y.Agrees) (step : System.Step y label z effects)
    (quiet : label.isQuiet = true) : z.Agrees := by
  obtain ⟨succeeded, failed, cancelled⟩ := ends_quiet step quiet
  rcases (quiet_step step quiet).channel with ⟨_, same⟩ | ⟨l, done, _, part, calm⟩
  · constructor
    · rw [same, succeeded, agrees.succeeded]
    · rw [same, failed, cancelled, agrees.failed]
    · rw [same, agrees.panicked]
  · obtain ⟨processed, returned, panicked⟩ := Channel.verdicts_quiet part calm
    constructor
    · rw [processed, succeeded, agrees.succeeded]
    · rw [returned, failed, cancelled, agrees.failed]
    · rw [panicked, agrees.panicked]

/-- Where the diagnostics stay calm, both sides count the end of an attempt in the same way. -/
theorem System.Agrees.settle (agrees : y.Agrees) (calm : ∀ n, y.settings.panicsOn n = false)
    {a : Attempt} {result : Except ExportError Unit} {c : Channel.System Aggregation Nat}
    {done : List (Channel.Effect Aggregation Nat)}
    (part : y.channel.step (.settle (y.settings.outcomeOf a result)) = some (c, done)) :
    ((y.ended a result).through c done).Agrees := by
  have counted := Channel.counters_settle (Channel.System.step_sound part)
  obtain ⟨succeeded, failed, panicked⟩ := agrees
  simp only [Settings.outcomeOf, calm, Bool.false_eq_true, if_false] at counted
  cases result with
  | ok =>
    refine ⟨?_, ?_, ?_⟩ <;>
      simp [System.through, System.ended, Counters.ended, Channel.Outcome.counted, *]
  | error err =>
    cases cancelled : err.isCancelled <;> refine ⟨?_, ?_, ?_⟩ <;>
      simp [System.through, System.ended, Counters.ended, Channel.Outcome.counted, *] <;> omega

theorem Spent.length_le {n : Nat} (spent : Spent settings n events) :
    1 ≤ (during Event.attempts n events).length ∧
      (during Event.attempts n events).length ≤ settings.maxRetries + 1 ∧
      (settings.temporality = .cumulative → (during Event.attempts n events).length = 1) := by
  obtain ⟨⟨earlier, last, whole, failed, bounded⟩, count⟩ := spent
  rw [count, whole, List.length_append, List.length_singleton]
  refine ⟨by omega, by omega, fun cumulative => ?_⟩
  cases earlier with
  | nil => rfl
  | cons result rest => cases cumulative.symm.trans (failed result List.mem_cons_self).1

theorem UnderWay.length_le {n : Nat} (run : Run (.build settings built) events y)
    (underWay : UnderWay settings n events y) :
    (during Event.attempts n events).length ≤ settings.maxRetries + 1 := by
  have bound := Tries.retries_le run underWay.holds
  have here : y.channel.receiver.failures + (if y.channel.receiver.isRunning then 1 else 0) ≤
      y.channel.receiver.retry.current + 1 := by
    unfold Channel.Receiver.failures Channel.Receiver.isRunning
    cases y.channel.receiver.phase <;> simp
  rw [underWay.attempts]
  omega

theorem Tries.length_le (tries : Tries settings events y)
    (run : Run (.build settings built) events y) (n : Nat) :
    (during Event.attempts n events).length ≤ settings.maxRetries + 1 := by
  rcases Nat.lt_trichotomy (n + 1) (ledger events).taken.length with past | last | beyond
  · exact (tries.past n past).length_le.2.1
  · rcases tries.last n last.symm with ⟨_, spent⟩ | underWay
    · exact spent.length_le.2.1
    · exact underWay.length_le run
  · rw [(tries.ahead n (by omega)).1]
    exact Nat.zero_le _

/-- Two windows: at the first one the exporter runs out of time and then panics as it is called, at
the second one it panics at work. -/
def faltering : List Label :=
  [.call .start ⟨0⟩, .act 0 ⟨0⟩, .act 0 ⟨0⟩, .enter ⟨0⟩, .record (increment 1), .send 0,
    .look ⟨5000000000⟩ ⟨5000000000⟩, .collect ⟨⟨1⟩⟩ [] false, .poll .late, .decide, .wake,
    .collect ⟨⟨2⟩⟩ [] true, .record (increment 2), .send 0, .dropSender, .look ⟨0⟩ ⟨0⟩,
    .collect ⟨⟨3⟩⟩ [] false, .poll .panicked, .look ⟨0⟩ ⟨0⟩, .leave]

end Telemetry.Provider
