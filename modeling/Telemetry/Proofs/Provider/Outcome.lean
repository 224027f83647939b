import Telemetry.Proofs.Provider.Attempts
import Telemetry.Proofs.Provider.Cancellation
import Telemetry.Proofs.Provider.Flushed

/-! What a shutdown returns. It is the verdict of the drain, or that the deadline was over before the
worker was gone, and then nothing more is exported. Main result: `outcome_of_shutDown`. -/
namespace Telemetry.Provider

/-- The results that the worker handles while the drain is under way. -/
def Event.handled (e : Event) : List (Except ExportError Unit) :=
  if e.before.drain.isDraining then results e else []

/-- What the last of the results that were handled makes of a drain that is over. -/
def drainVerdict (results : List (Except ExportError Unit)) : ShutdownOutcome :=
  match results.getLast? with
  | some (.error e) => .failed e
  | some (.ok ()) | none => .flushed

variable {y : System} {events : List Event} {settings : Settings} {built : Timestamp}

/-- Where the diagnostics do not panic, the drain takes note of every result. -/
theorem noted_eq_handled {e : Event} (calm : ∀ n, e.before.settings.panicsOn n = false) :
    Event.noted e = Event.handled e := by
  simp [Event.noted, Event.handled, Event.results, calm]

theorem verdictOf_standing (calm : ∀ e ∈ events, ∀ n, e.before.settings.panicsOn n = false) :
    verdictOf (standing events) = drainVerdict (events.flatMap Event.handled) := by
  have same : events.flatMap Event.noted = events.flatMap Event.handled :=
    List.flatMap_congr fun e member => noted_eq_handled (calm e member)
  rw [standing, same, drainVerdict]
  rcases (events.flatMap Event.handled).getLast? with _ | _ | _ <;> rfl

/-- A shutdown that has not timed out returns the verdict of the drain. -/
theorem outcome_eq_verdict (calm : ∀ n, settings.panicsOn n = false)
    (run : Run (.build settings built) events y) {x : Exchange} (claimed : x ∈ claims events)
    {outcome : ShutdownOutcome} (returned : y.callers[x.place]? = some (.shutDown outcome))
    (inTime : outcome ≠ .timedOut) : outcome = drainVerdict (events.flatMap Event.handled) := by
  have other := (exists_endsWait run claimed returned).1
  have read : (Caller.shutDown outcome).hasReadFailure = true := by
    cases outcome with
    | timedOut => exact absurd rfl inTime
    | alreadyShutdown => exact absurd rfl other
    | flushed | failed => rfl
  have kept : ∀ e ∈ events, ∀ n, e.before.settings.panicsOn n = false := by
    intro e member n
    obtain ⟨left, right, rfl⟩ := List.append_of_mem member
    rw [settings_run run.split.1]
    exact calm n
  rw [← verdictOf_standing kept]
  exact Caller.shutDown.inj ((Verdict.of_run run).read x.place _ returned read)

/-- Where the diagnostics do not panic, what a shutdown returns that has claimed the provider is
settled as its wait for the worker ends. It times out exactly where the worker is not gone by then,
which is not before its deadline is over. Otherwise it returns the failure that the last result
handled during the drain is, if it is one. A shutdown that times out has cancelled the exports before
it returned, and from that step on the exporter is not asked: whatever it would answer, each attempt
that ends is cancelled, or panics as it begins, and none is counted as a success. -/
theorem outcome_of_shutDown (calm : ∀ n, settings.panicsOn n = false)
    (run : Run (.build settings built) events y) {x : Exchange} (claimed : x ∈ claims events)
    {outcome : ShutdownOutcome} (returned : y.callers[x.place]? = some (.shutDown outcome)) :
    (∃ e ∈ events, ∃ now, EndsWait x.place x.deadline now e) ∧
    (∀ e ∈ events, ∀ now, EndsWait x.place x.deadline now e →
      (outcome = .timedOut ↔ e.before.channel.receiver.phase ≠ .exited) ∧
      ((∀ e ∈ events, Event.isTimely e = true) → outcome = .timedOut →
        x.deadline.since.nanos + x.deadline.length.nanos ≤ now.nanos)) ∧
    (outcome ≠ .timedOut → outcome = drainVerdict (events.flatMap Event.handled)) ∧
    (outcome = .timedOut → ∃ left c right now, events = left ++ c :: right ∧
      c.label = .act x.place now ∧
      c.before.callers[x.place]? = some (.cancellingExport x.deadline) ∧
      Silenced c.after right y) := by
  refine ⟨(exists_endsWait run claimed returned).2, fun e member now ends => ?_,
    outcome_eq_verdict calm run claimed returned, ?_⟩
  · exact timedOut_iff run member ends returned
  · rintro rfl
    exact exists_cancellation run claimed returned

/-- The worker takes the only batch up when the exports are cancelled already, and the exporter would
succeed. -/
def cutShort : List Label :=
  startUp ++ [.record (increment 1), .send 0, .call (.shutDown (.ofSeconds 5)) ⟨0⟩] ++
    List.replicate 5 (.act 1 ⟨0⟩) ++ [.look ⟨0⟩ ⟨0⟩, .expire 1 ⟨5000000000⟩, .act 1 ⟨5000000000⟩,
      .act 1 ⟨5000000000⟩, .collect ⟨⟨1⟩⟩ [] false, .act 1 ⟨5000000000⟩, .act 1 ⟨5000000000⟩,
      .poll (.ready (.ok ()))]

/-- The only attempt fails during the drain. -/
def failingLate : List Label :=
  startUp ++ [.record (increment 1), .send 0] ++
    shutDownBy 1 [.look ⟨0⟩ ⟨0⟩, .collect ⟨⟨1⟩⟩ [] false,
      .poll (.ready (.error (.rejected "400" false))), .look ⟨0⟩ ⟨0⟩, .leave]

theorem outcome_of_shutDown_cutShort :
    let first : System := .build {} ⟨.zero⟩
    (let events := follow System.step first cutShort
      let y := endOf first events
      y.callers[1]? = some (.shutDown .timedOut) ∧ (∃ e ∈ events, ∃ now : Instant,
        EndsWait 1 ⟨.ofSeconds 5, ⟨0⟩⟩ now e ∧ e.before.channel.receiver.phase ≠ .exited ∧
          5000000000 ≤ now.nanos) ∧
      (events.flatMap Event.attempts).length = 1 ∧ y.counters.cancelled = 1 ∧
      ∃ left c right, events = left ++ c :: right ∧ Silenced c.after right y) ∧
    ∃ outcome, (endOf first (follow System.step first failingLate)).callers[1]? =
        some (.shutDown outcome) ∧ outcome = .failed (.rejected "400" false) := by
  intro first
  constructor
  · intro events y
    have returned : y.callers[1]? = some (.shutDown .timedOut) := by decide +kernel
    have claimed : (⟨1, ⟨.ofSeconds 5, ⟨0⟩⟩, .running⟩ : Exchange) ∈ claims events := by
      decide +kernel
    obtain ⟨⟨e, member, now, ends⟩, waits, _, silent⟩ := outcome_of_shutDown (fun _ => rfl)
      (run_follow System.step first cutShort) claimed returned
    obtain ⟨stays, late⟩ := waits e member now ends
    obtain ⟨left, c, right, _, whole, _, _, silenced⟩ := silent rfl
    refine ⟨returned, ⟨e, member, now, ends, stays.mp rfl, ?_⟩, ?_, ?_, left, c, right, whole, silenced⟩
    · exact late (by decide +kernel) rfl
    · decide +kernel
    · decide +kernel
  · have returned : (endOf first (follow System.step first failingLate)).callers[1]? =
        some (.shutDown (.failed (.rejected "400" false))) := by decide +kernel
    have claimed : (⟨1, ⟨.ofSeconds 5, ⟨0⟩⟩, .running⟩ : Exchange) ∈
        claims (follow System.step first failingLate) := by decide +kernel
    obtain ⟨_, _, verdict, _⟩ := outcome_of_shutDown (fun _ => rfl)
      (run_follow System.step first failingLate) claimed returned
    refine ⟨_, returned, (verdict nofun).trans ?_⟩
    decide +kernel

end Telemetry.Provider
