import Telemetry.Proofs.Aggregation.Fill
import Telemetry.Proofs.Channel.Retries
import Telemetry.Proofs.Provider.ChannelPart

/-! The windows that a provider collects, read off a run: what was accepted, which attempts were
made at each window, and how they ended. Main results: `handed_step`, which ties the batches
handed over by the channel to the steps that collect, and `quiet_step`. -/
namespace Telemetry.Provider

def Effect.attempt? : Effect → Option Attempt
  | .attempt a => some a
  | _ => none

namespace Event

/-- The measurements that the channel lets in. -/
def accepted (e : Event) : List Measurement := (Event.channel e).flatMap Channel.Event.accepted

/-- What an abandonment clears. -/
def cleared (e : Event) : List Aggregation := (Event.channel e).flatMap Channel.Event.cleared

/-- The data that is handed to the worker for the first time. -/
def handed (e : Event) : List Aggregation := (Event.channel e).flatMap Channel.Event.handed

/-- The attempt that the exporter is called for. -/
def attempts (e : Event) : List Attempt := e.effects.filterMap Effect.attempt?

/-- The first attempt at a window: data that is tried again does not count. -/
def windows (e : Event) : List Attempt :=
  if e.before.channel.receiver.retry.current = 0 then attempts e else []

/-- The attempt that comes to an end, and how it does. -/
def ended (e : Event) : List (Attempt × Except ExportError Unit) :=
  match e.label with
  | .collect _ _ true => (attempts e).map fun a => (a, .error .panicked)
  | .poll reply => e.before.attempt.toList.map fun a => (a, e.before.resultOf reply)
  | _ => []

/-- The attempt that succeeds. -/
def exported (e : Event) : List Attempt :=
  (ended e).filterMap fun (a, result) => if result.isOk then some a else none

/-- Whether every attempt that comes to an end succeeds. -/
def succeeds (e : Event) : Bool := (ended e).all fun (_, result) => result.isOk

end Event

/-- The ledger of the channel in a run of a provider. -/
def ledger (events : List Event) : Channel.Ledger Measurement :=
  .of (events.flatMap Event.channel)

variable {y z : System} {label : Label} {effects : List Effect} {events : List Event}
  {settings : Settings} {built : Timestamp} {order : List SeriesKey}

theorem ledger_tracks (run : Run (.build settings built) events y) :
    Channel.Ledger.Tracks (events.flatMap Event.channel) y.channel :=
  Channel.Ledger.of_run (channelRun run)

theorem accepted_eq (run : Run (.build settings built) events y) :
    events.flatMap Event.accepted =
      (ledger events).taken.flatten ++ (ledger events).cleared.flatten ++ (ledger events).waiting :=
  List.flatMap_assoc.symm.trans (ledger_tracks run).accepted

theorem handed_eq (run : Run (.build settings built) events y) :
    events.flatMap Event.handed ++ y.channel.aboutToHand =
      (ledger events).taken.map Channel.fill := by
  have handed := (ledger_tracks run).handed
  rwa [List.flatMap_assoc] at handed

theorem cleared_eq (run : Run (.build settings built) events y) :
    events.flatMap Event.cleared = (ledger events).cleared.map Channel.fill :=
  List.flatMap_assoc.symm.trans (ledger_tracks run).cleared

theorem filling_eq (run : Run (.build settings built) events y) :
    y.channel.shared.filling = Channel.fill (ledger events).waiting := (ledger_tracks run).filling

/-- Windows that were taken stay as they are. -/
theorem prefix_windows (events more : List Event) :
    (ledger events).taken <+: (ledger (events ++ more)).taken := by
  rw [ledger, ledger, List.flatMap_append]
  exact Channel.Ledger.prefix_taken _ _

/-- Data that is about to be handed over is filled with measurements let in. -/
theorem fresh_data (run : Run (.build settings built) events y) {data : Aggregation}
    {watchers : List Nat} (phase : y.channel.receiver.phase = .calling data watchers)
    (first : y.channel.receiver.retry.current = 0) :
    ∃ ms ∈ (ledger events).taken, data = Channel.fill ms := by
  have about : y.channel.aboutToHand = [data] := by
    simp [Channel.System.aboutToHand, phase, first]
  have member : data ∈ (ledger events).taken.map Channel.fill := by
    rw [← handed_eq run, about]
    simp
  obtain ⟨ms, found, rfl⟩ := List.mem_map.mp member
  exact ⟨ms, found, rfl⟩

theorem attempts_waits (done : List (Channel.Effect Aggregation Nat)) :
    (done.flatMap waitOf).filterMap Effect.attempt? = [] := by
  induction done with
  | nil => rfl
  | cons e rest ih =>
    rw [List.flatMap_cons, List.filterMap_append, ih]
    cases e <;> rfl

theorem attempts_notices (y : System) (n : Notice) :
    (y.notices n).filterMap Effect.attempt? = [] := by
  unfold System.notices Settings.delivered
  split <;> rfl

theorem attempts_dropped (y : System) (dropped : Nat) :
    (y.droppedNotices dropped).filterMap Effect.attempt? = [] := by
  unfold System.droppedNotices
  split
  · exact attempts_notices y _
  · rfl

theorem settings_acts {place : Nat} {now : Instant} {caller next : Caller}
    (acts : System.Acts y place now caller z next effects) : z.settings = y.settings := by
  cases acts <;> rfl

/-- Settings never change. -/
theorem settings_step (step : System.Step y label z effects) : z.settings = y.settings := by
  cases step with
  | act place now caller next z effects found acts =>
    have same := settings_acts acts
    exact same
  | _ => rfl

theorem settings_run {first : System} (run : Run first events y) : y.settings = first.settings := by
  induction run with
  | nil => rfl
  | snoc _ stepped ih => exact (settings_step (System.step_sound stepped)).trans ih

/-- Whether no attempt begins or ends in a step, and none is decided to be made again. -/
def Label.isQuiet : Label → Bool
  | .collect _ _ _ | .poll _ | .decide => false
  | _ => true

/-- What a quiet step leaves alone: the worker is as it was, and the channel makes a quiet step
or none. -/
structure Quiet (y z : System) (label : Label) (effects : List Effect) : Prop where
  attempt : z.attempt = y.attempt
  worker : z.worker = y.worker
  attempts : Event.attempts ⟨y, label, effects, z⟩ = []
  ended : Event.ended ⟨y, label, effects, z⟩ = []
  channel : (Event.channel ⟨y, label, effects, z⟩ = [] ∧ z.channel = y.channel) ∨
    ∃ l done, Event.channel ⟨y, label, effects, z⟩ = [⟨y.channel, l, done, z.channel⟩] ∧
      Channel.System.Step y.channel l z.channel done ∧ l.isQuiet = true

theorem follow_one {c d : Channel.System Aggregation Nat}
    {l : Channel.Label Aggregation Measurement Nat}
    {done : List (Channel.Effect Aggregation Nat)} (part : c.step l = some (d, done)) :
    follow Channel.System.step c [l] = [⟨c, l, done, d⟩] := by
  simp only [follow, part]

theorem Quiet.through {w : System} {l : Channel.Label Aggregation Measurement Nat}
    {c : Channel.System Aggregation Nat} {done : List (Channel.Effect Aggregation Nat)}
    (part : y.channel.step l = some (c, done)) (labels : y.channelLabels label = [l])
    (calm : l.isQuiet = true) (quiet : label.isQuiet = true) (attempt : w.attempt = y.attempt)
    (worker : w.worker = y.worker) (channel : w.channel = c) :
    Quiet y w label (done.flatMap waitOf) := by
  subst channel
  refine ⟨attempt, worker, attempts_waits done, ?_, .inr ⟨l, done, ?_, ?_, calm⟩⟩
  · cases label with
    | collect | poll | decide => cases quiet
    | _ => rfl
  · simp only [Event.channel, labels]
    exact follow_one part
  · exact Channel.System.step_sound part

theorem quiet_acts {place : Nat} {now : Instant} {caller next : Caller}
    (found : y.callers[place]? = some caller)
    (acts : System.Acts y place now caller z next effects) :
    Quiet y { z with callers := z.callers.set place next } (.act place now) effects := by
  have labels : y.channelLabels (.act place now) = caller.channelLabels place := by
    simp only [System.channelLabels, found, Option.map_some, Option.getD_some]
  cases acts with
  | requestFlush timeout c done part => exact .through part labels rfl rfl rfl rfl rfl
  | watchWorker d c done part => exact .through part labels rfl rfl rfl rfl rfl
  | closeChannel d c done part => exact .through part labels rfl rfl rfl rfl rfl
  | abandonChannel d c done part => exact .through part labels rfl rfl rfl rfl rfl
  | giveNotice d =>
    refine ⟨rfl, rfl, attempts_notices y _, rfl, .inl ⟨?_, rfl⟩⟩
    simp only [Event.channel, labels]
    rfl
  | _ =>
    refine ⟨rfl, rfl, rfl, rfl, .inl ⟨?_, rfl⟩⟩
    simp only [Event.channel, labels]
    rfl

theorem quiet_step (step : System.Step y label z effects) (quiet : label.isQuiet = true) :
    Quiet y z label effects := by
  cases step with
  | recordUnfit | recordLate | recordAdmitted | call | expire =>
    exact ⟨rfl, rfl, rfl, rfl, .inl ⟨rfl, rfl⟩⟩
  | send place m found c done part =>
    have labels : y.channelLabels (.send place) = [.send m] := by
      simp only [System.channelLabels, found, Option.map_some, Option.toList_some]
    exact .through part labels rfl rfl rfl rfl rfl
  | act place now caller next z effects found acts => exact quiet_acts found acts
  | discardStarter holds c done part => exact .through part rfl rfl rfl rfl rfl rfl
  | dropSender c done part => exact .through part rfl rfl rfl rfl rfl rfl
  | enter now taken c done part => exact .through part rfl rfl rfl rfl rfl rfl
  | look now later c done part => exact .through part rfl rfl rfl rfl rfl rfl
  | wake c done part => exact .through part rfl rfl rfl rfl rfl rfl
  | leave c done part => exact .through part rfl rfl rfl rfl rfl rfl
  | collectBegun | collectFailed | collectBroken | poll | decide => cases quiet

theorem attempts_collectBegun {now : Timestamp} (dropped : Nat) (a : Attempt) :
    Event.attempts ⟨y, .collect now order false, y.droppedNotices dropped ++ [.attempt a], z⟩ = [a] := by
  simp [Event.attempts, attempts_dropped, Effect.attempt?]

theorem attempts_collectFailed {now : Timestamp} (dropped : Nat) (a : Attempt) (n : Notice)
    (done : List (Channel.Effect Aggregation Nat)) :
    Event.attempts ⟨y, .collect now order true, y.droppedNotices dropped ++ .attempt a ::
      (y.notices n ++ done.flatMap waitOf), z⟩ = [a] := by
  simp [Event.attempts, attempts_dropped, attempts_notices, attempts_waits, Effect.attempt?]

theorem ended_collectFailed {now : Timestamp} (dropped : Nat) (a : Attempt) (n : Notice)
    (done : List (Channel.Effect Aggregation Nat)) :
    Event.ended ⟨y, .collect now order true, y.droppedNotices dropped ++ .attempt a ::
      (y.notices n ++ done.flatMap waitOf), z⟩ = [(a, .error .panicked)] := by
  rw [Event.ended, attempts_collectFailed]
  rfl

theorem attempts_collectBroken {now : Timestamp} {panics : Bool} (dropped : Nat)
    (done : List (Channel.Effect Aggregation Nat)) :
    Event.attempts ⟨y, .collect now order panics, y.droppedNotices dropped ++ done.flatMap waitOf, z⟩ =
      [] := by
  simp [Event.attempts, attempts_dropped, attempts_waits]

/-- An attempt is what the worker makes of the data that is handed to it. -/
theorem attempts_step (step : System.Step y label z effects) {a : Attempt}
    (attempted : a ∈ Event.attempts ⟨y, label, effects, z⟩) :
    ∃ now order panics data watchers dropped, label = .collect now order panics ∧
      y.channel.receiver.phase = .calling data watchers ∧
      y.worker.prepare y.settings now order data = (a, dropped, z.worker) ∧
      Event.attempts ⟨y, label, effects, z⟩ = [a] := by
  cases calm : label.isQuiet with
  | true => simp [(quiet_step step calm).attempts] at attempted
  | false =>
    cases step with
    | collectBegun now data watchers b dropped worker phase prepared =>
      rw [attempts_collectBegun, List.mem_singleton] at attempted
      subst attempted
      exact ⟨now, _, false, data, watchers, dropped, rfl, phase, prepared,
        attempts_collectBegun dropped a⟩
    | collectFailed now data watchers b dropped worker c done phase prepared =>
      rw [attempts_collectFailed, List.mem_singleton] at attempted
      subst attempted
      exact ⟨now, _, true, data, watchers, dropped, rfl, phase, prepared,
        attempts_collectFailed dropped a _ done⟩
    | collectBroken => simp [attempts_collectBroken] at attempted
    | poll => simp [Event.attempts, attempts_notices, attempts_waits] at attempted
    | decide => simp [Event.attempts, attempts_waits] at attempted
    | _ => cases calm

/-- An attempt is at hand only while the channel waits for the worker. -/
def System.IsEngaged (y : System) : Prop :=
  ∀ a, y.attempt = some a → ∃ watchers, y.channel.receiver.phase = .running watchers

theorem System.IsEngaged.step (engaged : y.IsEngaged) (step : System.Step y label z effects) :
    z.IsEngaged := by
  intro a attempt
  cases calm : label.isQuiet with
  | true =>
    have quiet := quiet_step step calm
    obtain ⟨watchers, phase⟩ := engaged a (quiet.attempt.symm.trans attempt)
    rcases quiet.channel with ⟨_, same⟩ | ⟨l, done, _, part, calm⟩
    · exact ⟨watchers, same ▸ phase⟩
    · exact ⟨watchers, Channel.phase_running_quiet part calm phase⟩
  | false =>
    cases step with
    | collectBegun now data watchers => exact ⟨watchers, rfl⟩
    | collectBroken now panics data watchers b dropped worker c done phase =>
      obtain ⟨others, running⟩ := engaged a attempt
      cases phase.symm.trans running
    | decide c done part =>
      obtain ⟨others, running⟩ := engaged a attempt
      obtain ⟨b, watchers, phase⟩ := Channel.phase_decide (Channel.System.step_sound part)
      cases phase.symm.trans running
    | collectFailed | poll => cases attempt
    | _ => cases calm

theorem engaged_of_run (run : Run (.build settings built) events y) : y.IsEngaged :=
  (run.keeps System.IsEngaged (fun _ attempt => nomatch attempt)
    fun stepped engaged => engaged.step (System.step_sound stepped)).2

/-- At most one attempt ends in a step. -/
theorem ended_step (step : System.Step y label z effects)
    {ending : Attempt × Except ExportError Unit}
    (ended : ending ∈ Event.ended ⟨y, label, effects, z⟩) :
    Event.ended ⟨y, label, effects, z⟩ = [ending] := by
  cases label with
  | poll reply =>
    simp only [Event.ended] at ended ⊢
    cases attempt : y.attempt <;> simp_all
  | collect now order panics =>
    cases panics with
    | false => cases ended
    | true =>
      simp only [Event.ended] at ended ⊢
      obtain ⟨a, attempted, rfl⟩ := List.mem_map.mp ended
      obtain ⟨_, _, _, _, _, _, _, _, _, one⟩ := attempts_step step attempted
      rw [one]
      rfl
  | _ => cases ended

/-- Only delta data whose failure can be made good is worth another attempt. -/
theorem Settings.outcomeOf_failed {s : Settings} {a : Attempt} {result : Except ExportError Unit}
    {b : Aggregation} (failed : s.outcomeOf a result = .failed b) (some : 0 < Channel.Buffer.size b) :
    s.temporality = .delta ∧ b = a.data ∧ ∃ e, result = .error e ∧ e.isRetryable = true := by
  unfold outcomeOf at failed
  split at failed
  · cases failed
  · cases result with
    | ok => cases failed
    | error e =>
      by_cases worth : (e.isRetryable && s.temporality = .delta) = true
      · simp only [if_pos worth, Channel.Outcome.failed.injEq] at failed
        subst failed
        simp only [Bool.and_eq_true, decide_eq_true_eq] at worth
        exact ⟨worth.2, rfl, e, rfl, worth.1⟩
      · simp only [if_neg worth, Channel.Outcome.failed.injEq] at failed
        subst failed
        exact absurd some (Nat.lt_irrefl 0)

theorem Quiet.handed (quiet : Quiet y z label effects) :
    Event.handed ⟨y, label, effects, z⟩ = [] := by
  rcases quiet.channel with ⟨none, _⟩ | ⟨l, done, one, step, calm⟩
  · simp [Event.handed, none]
  · have other : l ≠ .invoke := fun same => by rw [same] at calm; cases calm
    simp [Event.handed, one, Channel.handed_of_ne_invoke step other]

theorem handed_decide : Event.handed ⟨y, .decide, effects, z⟩ = [] := by
  simp only [Event.handed, Event.channel, System.channelLabels]
  exact Channel.handed_follow (by simp) y.channel

theorem handed_poll (reply : Reply) : Event.handed ⟨y, .poll reply, effects, z⟩ = [] := by
  simp only [Event.handed, Event.channel, System.channelLabels]
  exact Channel.handed_follow (by simp) y.channel

/-- A step that collects hands over what was about to be. -/
theorem handed_collect {now : Timestamp} {panics : Bool} {data : Aggregation} {watchers : List Nat}
    (phase : y.channel.receiver.phase = .calling data watchers) :
    Event.handed ⟨y, .collect now order panics, effects, z⟩ = y.channel.aboutToHand := by
  have others : ∀ l ∈ y.brokenEnd now order panics data, l ≠ .invoke := by
    intro l hl
    unfold System.brokenEnd at hl
    grind
  have invoked := channel_invoke y.worker 0 phase
  simp only [Event.handed, Event.channel, System.channelLabels, phase, follow, invoked,
    List.flatMap_cons, Channel.handed_follow others, List.append_nil]
  simp [Channel.Event.handed, Channel.System.aboutToHand, phase, Channel.Effect.invoked?]

end Telemetry.Provider
