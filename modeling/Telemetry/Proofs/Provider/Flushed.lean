import Telemetry.Proofs.Provider.Presented

/-! What it means that a shutdown has returned `flushed`. Where the worker entered its loop every
measurement let in was handed to it, and each was exported unless the worker gave it up and the
drain overlooked that. Main result: `flushed_iff`. -/
namespace Telemetry.Provider

variable {y z : System} {label : Label} {effects : List Effect} {events before after : List Event}
  {c : Event} {settings : Settings} {built : Timestamp}

/-- Some export that succeeds shows the measurement. -/
def Exported (s : Settings) (events : List Event) (n : Nat) : Prop :=
  ∃ left e right, events = left ++ e :: right ∧
    Covers s.temporality (ledger (left ++ [e])).taken n ∧
    ∃ a ∈ Event.exported e, Presents s (ledger (left ++ [e])).taken e.after.worker.running a.batch

/-- The measurement, by its place among those let in so far, is still buffered: it is in the
channel, in the batch in the worker's hands, or in the running state alone. -/
def Buffered (s : Settings) (events : List Event) (y : System) (n : Nat) : Prop :=
  n < (events.flatMap Event.accepted).length ∧
    ((ledger events).taken.flatten.length + (ledger events).cleared.flatten.length ≤ n ∨
      y.channel.receiver.isHolding = true ∧ Covers .delta (ledger events).taken n ∨
      s.temporality = .cumulative ∧ n < (ledger events).taken.flatten.length ∧ ¬ Exported s events n)

/-- The shutdown that `c` calls has returned by `y` that everything is flushed. -/
structure Flushes (c : Event) (y : System) : Prop where
  called : ∃ deadline now, c.label = .call (.shutDown deadline) now
  returned : y.callers[c.before.callers.length]? = some (.shutDown .flushed)

/-- The loss of a measurement goes unseen: the worker gives up a batch that shows it, no such
batch is exported, and each of their failures that the drain notes is replaced by a success. -/
structure Overlooked (t : Temporality) (events : List Event) (n : Nat) : Prop where
  givenUp : ∃ left e right, events = left ++ e :: right ∧ Covers t (ledger (left ++ [e])).taken n ∧
    Event.givesUp e = true
  lost : ∀ left e right, events = left ++ e :: right → Covers t (ledger (left ++ [e])).taken n →
    Event.exported e = []
  replaced : ∀ left e right, events = left ++ e :: right → Covers t (ledger (left ++ [e])).taken n →
    ∀ error, .error error ∈ Event.noted e → ∃ d ∈ right, .ok () ∈ Event.noted d

theorem enters_channel : (∃ e ∈ events, Event.enters e = true) ↔
    ∃ c ∈ events.flatMap Event.channel, Channel.Event.enters c = true := by
  simp only [Event.enters, List.any_eq_true, List.mem_flatMap]
  constructor
  · rintro ⟨e, member, c, part, enters⟩
    exact ⟨c, ⟨e, member, part⟩, enters⟩
  · rintro ⟨c, ⟨e, member, part⟩, enters⟩
    exact ⟨e, member, c, part, enters⟩

/-- Nothing is taken before the worker enters its loop. -/
theorem enters_of_taken (run : Run (.build settings built) events y)
    (some : (ledger events).taken ≠ []) : ∃ e ∈ events, Event.enters e = true := by
  rw [enters_channel]
  by_contra none
  refine some ((Channel.Loop.of_run (channelRun run)).outside fun c member => ?_).1
  exact Bool.eq_false_iff.mpr fun enters => none ⟨c, member, enters⟩

/-- A worker that entered its loop and left it without an abandonment was handed all that was let
in. -/
theorem taken_eq_accepted (run : Run (.build settings built) events y)
    (entered : ∃ e ∈ events, Event.enters e = true)
    (exited : y.channel.receiver.phase = .exited)
    (kept : y.channel.shared.isAbandoned = false) :
    (ledger events).taken.flatten = events.flatMap Event.accepted := by
  have loop := Channel.Loop.of_run (channelRun run)
  have drained := (loop.ended (enters_channel.mp entered)).2 (.inr exited) kept
  have cleared : (ledger events).cleared = [] := (ledger_tracks run).kept kept
  have waiting : (ledger events).waiting = [] := by
    refine Aggregation.eq_nil_of_size_fill ?_
    rw [← filling_eq run]
    exact drained.empty
  rw [accepted_eq run, cleared, waiting]
  simp

theorem exported_of_covers (run : Run (.build settings built) (before ++ c :: after) y)
    (genuine : Measurement.Genuine ((before ++ c :: after).flatMap Event.accepted)) {n : Nat}
    (covers : Covers settings.temporality (ledger (before ++ [c])).taken n)
    (some : Event.exported c ≠ []) : Exported settings (before ++ c :: after) n := by
  obtain ⟨a, exported⟩ := List.exists_mem_of_ne_nil _ some
  obtain ⟨earlier, stepped, _⟩ := run.split
  have here : Run (.build settings built) (before ++ [c]) c.after := .snoc earlier stepped
  refine ⟨before, c, after, rfl, covers, a, exported, presents_exported here (genuine.mono ?_) exported⟩
  rw [List.append_cons before c after]
  exact (prefix_accepted _ _).subset

/-- Once a shutdown has returned that everything is flushed, a measurement that was let in is
exported, unless the worker never entered its loop or the loss was overlooked. -/
theorem exported_iff (run : Run (.build settings built) events y)
    (genuine : Measurement.Genuine (events.flatMap Event.accepted)) {place : Nat}
    (flushed : y.callers[place]? = some (.shutDown .flushed)) {n : Nat}
    (accepted : n < (events.flatMap Event.accepted).length) :
    Exported settings events n ↔
      (∃ e ∈ events, Event.enters e = true) ∧ ¬ Overlooked settings.temporality events n := by
  constructor
  · rintro ⟨left, e, right, rfl, covers, a, exported, _⟩
    refine ⟨enters_of_taken run fun none => ?_, fun overlooked => ?_⟩
    · have part := prefix_windows (left ++ [e]) right
      rw [← List.append_cons, none, List.prefix_nil] at part
      rw [part] at covers
      cases covers.1
    · rw [overlooked.lost left e right rfl covers] at exported
      cases exported
  · rintro ⟨entered, seen⟩
    -- The worker was handed everything and has left nothing in its hands, so it has parted with a
    -- batch that shows the measurement: given up, if nothing that shows it is exported.
    by_contra missing
    have orderly := Orderly.of_run run
    have exited := Verdict.exited run flushed rfl
    have kept : y.channel.shared.isAbandoned = false := Bool.eq_false_iff.mpr fun gone => by
      cases (orderly.patient gone).2 place _ flushed
    have calm : standing events = none := by
      have read := (Verdict.of_run run).read place _ flushed rfl
      cases failure : standing events with
      | none => rfl
      | some error => simp [failure, verdictOf] at read
    have lost : ∀ left e right, events = left ++ e :: right →
        Covers settings.temporality (ledger (left ++ [e])).taken n → Event.exported e = [] := by
      rintro left e right rfl covers
      by_contra some
      exact missing (exported_of_covers run genuine covers some)
    have taken : n < (ledger events).taken.flatten.length := by
      rwa [taken_eq_accepted run entered exited kept]
    have idle : y.channel.receiver.isHolding = false := by
      simp [Channel.Receiver.isHolding, exited]
    obtain ⟨left, e, right, rfl, parts, covers⟩ := exists_ending run idle taken
    refine seen ⟨⟨left, e, right, rfl, covers _, ?_⟩, lost, ?_⟩
    · simpa [Event.parts, lost left e right rfl (covers _)] using parts
    · rintro left e right same _ error noted
      rw [same] at run calm
      exact replaced_of_standing run calm noted

/-- In every run in which a shutdown returns that everything is flushed, all that was buffered
when it was called is exported exactly where the worker entered its loop, or nothing was buffered,
and no loss of it was overlooked: the worker gave up no batch with it whose failure the drain did
not note, or took for made good by a later success. -/
theorem flushed_iff (run : Run (.build settings built) (before ++ c :: after) y)
    (genuine : Measurement.Genuine ((before ++ c :: after).flatMap Event.accepted))
    (flushes : Flushes c y) :
    (∀ n, Buffered settings before c.before n → Exported settings (before ++ c :: after) n) ↔
      ∀ n, Buffered settings before c.before n →
        (∃ e ∈ before ++ c :: after, Event.enters e = true) ∧
          ¬ Overlooked settings.temporality (before ++ c :: after) n := by
  refine forall₂_congr fun n buffered => ?_
  refine exported_iff run genuine flushes.returned (Nat.lt_of_lt_of_le buffered.1 ?_)
  exact (prefix_accepted before (c :: after)).length_le

theorem exported_of_noted {e : Event} (noted : .ok () ∈ Event.noted e) : Event.exported e ≠ [] := by
  unfold Event.noted at noted
  split at noted
  · obtain ⟨⟨a, result⟩, ended, heard⟩ := List.mem_filterMap.mp noted
    obtain ⟨_, same⟩ := Option.ite_none_left_eq_some.mp heard
    cases same
    exact List.ne_nil_of_mem (List.mem_filterMap.mpr ⟨(a, .ok ()), ended, rfl⟩)
  · cases noted

/-- With cumulative temporality a loss is overlooked only where the drain noted the end of no
attempt that shows it. -/
theorem Overlooked.unnoted {n : Nat} (overlooked : Overlooked .cumulative events n)
    {left right : List Event} {e : Event} (whole : events = left ++ e :: right)
    (covers : Covers .cumulative (ledger (left ++ [e])).taken n) : Event.noted e = [] := by
  refine List.eq_nil_iff_forall_not_mem.mpr fun result noted => ?_
  cases result with
  | ok => exact exported_of_noted noted (overlooked.lost left e right whole covers)
  | error error =>
    obtain ⟨d, later, success⟩ := overlooked.replaced left e right whole covers error noted
    obtain ⟨between, rest, rfl⟩ := List.append_of_mem later
    refine exported_of_noted success (overlooked.lost (left ++ e :: between) d rest (by simp [whole]) ?_)
    obtain ⟨more, windows⟩ := prefix_windows (left ++ [e]) (between ++ [d])
    have same : (left ++ [e]) ++ (between ++ [d]) = (left ++ e :: between) ++ [d] := by simp
    refine ⟨?_, fun delta => nomatch delta⟩
    rw [← same, ← windows, List.flatten_append, List.length_append]
    exact Nat.lt_add_right _ covers.1

instance (t : Temporality) (windows : List (List Measurement)) (n : Nat) :
    Decidable (Covers t windows n) := inferInstanceAs (Decidable (_ ∧ _))

theorem not_exported {s : Settings} {n : Nat} (none : ∀ i (inside : i < events.length),
      (Event.exported events[i]).isEmpty = true ∨
        ¬ Covers s.temporality (ledger (events.take (i + 1))).taken n) :
    ¬ Exported s events n := by
  rintro ⟨left, e, right, rfl, covers, a, exported, _⟩
  have part : (left ++ e :: right).take (left.length + 1) = left ++ [e] := by
    rw [List.append_cons, List.take_left' (by simp)]
  rcases none left.length (by simp) with empty | uncovered
  · rw [List.getElem_append_right (Nat.le_refl _)] at empty
    simp [List.isEmpty_iff.mp (by simpa using empty)] at exported
  · exact uncovered (part ▸ covers)

def startUp : List Label := [.call .start ⟨0⟩, .act 0 ⟨0⟩, .act 0 ⟨0⟩, .enter ⟨0⟩]

/-- A shutdown, and what the worker does until it is gone. -/
def shutDownBy (place : Nat) (worker : List Label) : List Label :=
  .call (.shutDown (.ofSeconds 5)) ⟨0⟩ :: List.replicate 5 (.act place ⟨0⟩) ++ worker ++
    List.replicate 3 (.act place ⟨0⟩)

/-- One measurement, which the drain exports. -/
def drained : List Label :=
  startUp ++ [.record (increment 1), .send 0] ++
    shutDownBy 1 [.look ⟨0⟩ ⟨0⟩, .collect ⟨⟨1⟩⟩ [] false, .poll (.ready (.ok ())), .look ⟨0⟩ ⟨0⟩, .leave]

theorem flushed_iff_drained :
    let first : System := .build {} ⟨.zero⟩
    let events := follow System.step first drained
    ∃ before c after, events = before ++ c :: after ∧ Flushes c (endOf first events) ∧
      Buffered {} before c.before 0 ∧ Exported {} (before ++ c :: after) 0 := by
  intro first events
  have split : events = events.take 6 ++ events.get ⟨6, by decide +kernel⟩ :: events.drop 7 := by simp
  have run := run_follow System.step first drained
  have flushes : Flushes (events.get ⟨6, by decide +kernel⟩) (endOf first events) :=
    ⟨⟨_, _, rfl⟩, by decide +kernel⟩
  have buffered : Buffered {} (events.take 6) (events.get ⟨6, by decide +kernel⟩).before 0 :=
    ⟨by decide +kernel, .inl (by decide +kernel)⟩
  refine ⟨_, _, _, split, flushes, buffered, ?_⟩
  rw [show follow System.step first drained = _ from split] at run
  refine (flushed_iff run ⟨?_, ?_⟩ flushes).mpr (fun n _ => ⟨?_, ?_⟩) 0 buffered
  · rw [← split]
    decide +kernel
  · rw [← split]
    decide +kernel
  · rw [← split]
    decide +kernel
  · rintro ⟨⟨left, e, right, same, _, givesUp⟩, _, _⟩
    have member : e ∈ events := by
      rw [split, same]
      simp
    have kept : ∀ e ∈ events, Event.givesUp e = false := by decide +kernel
    cases givesUp.symm.trans (kept e member)

/-- The first of two attempts fails while the second window waits, and the drain takes the success
of the second for that of both. -/
def overwriting : List Label :=
  startUp ++ [.record (increment 1), .send 0, .look ⟨5000000000⟩ ⟨5000000000⟩,
      .collect ⟨⟨1⟩⟩ [] false, .record (increment 2), .send 0] ++
    shutDownBy 1 [.poll .late, .decide, .look ⟨0⟩ ⟨0⟩, .collect ⟨⟨2⟩⟩ [] false, .poll (.ready (.ok ())),
      .look ⟨0⟩ ⟨0⟩, .leave]

/-- The only attempt fails before the drain begins, which then finds nothing to export. -/
def failingEarly : List Label :=
  startUp ++ [.record (increment 1), .send 0, .look ⟨5000000000⟩ ⟨5000000000⟩,
      .collect ⟨⟨1⟩⟩ [] false, .poll (.ready (.error (.rejected "400" false)))] ++
    shutDownBy 1 [.look ⟨0⟩ ⟨0⟩, .leave]

/-- The first tick is beyond the clock, and the worker goes without having begun. -/
def unentered : List Label :=
  startUp ++ [.record (increment 1), .send 0] ++ shutDownBy 1 [.leave]

/-- The first measurement is buffered when a shutdown is called, and not exported although the
shutdown returns that everything is flushed. -/
def Loses (s : Settings) (labels : List Label) : Prop :=
  let first : System := .build s ⟨.zero⟩
  let events := follow System.step first labels
  ∃ before c after, events = before ++ c :: after ∧ Flushes c (endOf first events) ∧
    Buffered s before c.before 0 ∧ ¬ Exported s events 0

theorem loses {s : Settings} {labels : List Label} (place : Nat)
    (inside : place < (follow System.step (.build s ⟨.zero⟩) labels).length) :
    let first : System := .build s ⟨.zero⟩
    let events := follow System.step first labels
    Flushes (events.get ⟨place, inside⟩) (endOf first events) →
      Buffered s (events.take place) (events.get ⟨place, inside⟩).before 0 →
      (∀ i (h : i < events.length), (Event.exported events[i]).isEmpty = true ∨
        ¬ Covers s.temporality (ledger (events.take (i + 1))).taken 0) → Loses s labels := by
  intro first events flushes buffered lost
  exact ⟨_, _, events.drop (place + 1), by simp [events, first], flushes, buffered, not_exported lost⟩

theorem flushed_unexported :
    Loses { maxRetries := 0 } overwriting ∧
      Loses { temporality := .cumulative } failingEarly ∧
      Loses { interval := .ofSeconds 18446744073709551615 } unentered := by
  refine ⟨?_, ?_, ?_⟩
  · refine loses 10 (by decide +kernel) ⟨⟨_, _, rfl⟩, by decide +kernel⟩ ⟨by decide +kernel, ?_⟩
      (by decide +kernel)
    exact .inr (.inl (by decide +kernel))
  · refine loses 9 (by decide +kernel) ⟨⟨_, _, rfl⟩, by decide +kernel⟩ ⟨by decide +kernel, ?_⟩
      (by decide +kernel)
    exact .inr (.inr ⟨rfl, by decide +kernel, not_exported (by decide +kernel)⟩)
  · refine loses 6 (by decide +kernel) ⟨⟨_, _, rfl⟩, by decide +kernel⟩ ⟨by decide +kernel, ?_⟩
      (by decide +kernel)
    exact .inl (by decide +kernel)

end Telemetry.Provider
