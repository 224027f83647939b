import Telemetry.Proofs.Channel.Conservation
import Telemetry.Proofs.Provider.Step

/-! The part that the channel plays in a provider. Each step of the provider makes at most two
steps of its channel, so a run of the provider is also a run of the channel, and what holds in
every run of a channel holds here. Main result: `channelRun`. -/
namespace Telemetry.Provider

/-- The step of the channel in the next step of the caller at a place. -/
def Caller.channelLabels (place : Nat) : Caller → List (Channel.Label Aggregation Measurement Nat)
  | .requestingFlush _ => [.onNextFlush place]
  | .watchingWorker _ => [.onStopped place]
  | .closingChannel _ => [.close]
  | .abandoningChannel _ => [.abandon]
  | _ => []

namespace System

/-- The end of the callback, where it ends before the exporter is at work. -/
def brokenEnd (y : System) (now : Timestamp) (order : List SeriesKey) (panics : Bool)
    (data : Aggregation) : List (Channel.Label Aggregation Measurement Nat) :=
  let (a, dropped, _) := y.worker.prepare y.settings now order data
  if 0 < dropped && y.settings.panicsOn (.seriesDropped dropped) then [.settle .panicked]
  else if panics then [.settle (y.settings.outcomeOf a (.error .panicked))]
  else []

/-- The steps of the channel in a step of the provider. -/
def channelLabels (y : System) : Label → List (Channel.Label Aggregation Measurement Nat)
  | .record _ | .call _ _ | .expire _ _ => []
  | .send place => (y.admitted[place]?.map .send).toList
  | .act place _ => (y.callers[place]?.map (·.channelLabels place)).getD []
  | .discardStarter => [.drop]
  | .dropSender => [.close]
  | .enter now => [.enter now]
  | .look now later => [.look now later]
  | .collect now order panics =>
    match y.channel.receiver.phase with
    | .calling data _ => .invoke :: y.brokenEnd now order panics data
    | _ => []
  | .poll reply => (y.attempt.map fun a => .settle (y.settings.outcomeOf a (y.resultOf reply))).toList
  | .decide => [.decide]
  | .wake => [.wake]
  | .leave => [.leave]

end System

/-- The events of the channel in an event of the provider. -/
def Event.channel (e : Event) : List (Channel.Event Aggregation Measurement Nat) :=
  follow Channel.System.step e.before.channel (e.before.channelLabels e.label)

variable {y z : System} {label : Label} {effects : List Effect} {order : List SeriesKey}

theorem channelRun_one {c d : Channel.System Aggregation Nat}
    {l : Channel.Label Aggregation Measurement Nat}
    {done : List (Channel.Effect Aggregation Nat)} (part : c.step l = some (d, done)) :
    Channel.Run c (follow Channel.System.step c [l]) d := by
  simpa only [follow, part] using Run.one part

theorem channel_invoke {data : Aggregation} {watchers : List Nat} (worker : Worker) (dropped : Nat)
    (phase : y.channel.receiver.phase = .calling data watchers) :
    y.channel.step .invoke = some ((y.working watchers worker dropped).channel, [.invoke data]) := by
  simp only [Channel.System.step, phase]
  rfl

theorem channelRun_acts {place : Nat} {now : Instant} {caller next : Caller}
    (acts : System.Acts y place now caller z next effects) :
    Channel.Run y.channel (follow Channel.System.step y.channel (caller.channelLabels place))
      z.channel := by
  cases acts with
  | requestFlush timeout c done part => exact channelRun_one part
  | watchWorker d c done part => exact channelRun_one part
  | closeChannel d c done part => exact channelRun_one part
  | abandonChannel d c done part => exact channelRun_one part
  | _ => exact .nil

theorem channelRun_collect {now : Timestamp} {panics : Bool} {data : Aggregation}
    {watchers : List Nat} {c : Channel.System Aggregation Nat} (worker : Worker) (dropped : Nat)
    (phase : y.channel.receiver.phase = .calling data watchers)
    (rest : Channel.Run (y.working watchers worker dropped).channel
      (follow Channel.System.step (y.working watchers worker dropped).channel
        (y.brokenEnd now order panics data)) c) :
    Channel.Run y.channel
      (follow Channel.System.step y.channel (y.channelLabels (.collect now order panics))) c := by
  have invoked := channel_invoke worker dropped phase
  simp only [System.channelLabels, phase, follow, invoked]
  exact Run.cons invoked rest

theorem channelRun_step (step : System.Step y label z effects) :
    Channel.Run y.channel (Event.channel ⟨y, label, effects, z⟩) z.channel := by
  cases step with
  | recordUnfit | recordLate | recordAdmitted | call | expire => exact .nil
  | send place m found c done part =>
    simp only [Event.channel, System.channelLabels, found]
    exact channelRun_one part
  | act place now caller next z effects found acts =>
    simp only [Event.channel, System.channelLabels, found]
    exact channelRun_acts acts
  | discardStarter holds c done part => exact channelRun_one part
  | dropSender c done part => exact channelRun_one part
  | enter now taken c done part => exact channelRun_one part
  | look now later c done part => exact channelRun_one part
  | @collectBegun now order data watchers a dropped worker phase prepared calm =>
    refine channelRun_collect worker dropped phase ?_
    have noEnd : y.brokenEnd now order false data = [] := by
      simpa [System.brokenEnd, prepared] using calm
    rw [noEnd]
    exact .nil
  | @collectFailed now order data watchers a dropped worker c done phase prepared calm part =>
    refine channelRun_collect worker dropped phase ?_
    have oneEnd : y.brokenEnd now order true data =
        [.settle (y.settings.outcomeOf a (.error .panicked))] := by
      simpa [System.brokenEnd, prepared] using fun lost panicked =>
        absurd panicked (Bool.eq_false_iff.mp (calm lost))
    rw [oneEnd]
    exact channelRun_one part
  | @collectBroken now order panics data watchers a dropped worker c done phase prepared lost panicked
      part =>
    refine channelRun_collect worker dropped phase ?_
    have oneEnd : y.brokenEnd now order panics data = [.settle .panicked] := by
      simp [System.brokenEnd, prepared, lost, panicked]
    rw [oneEnd]
    exact channelRun_one part
  | poll reply a c done attempt part =>
    simp only [Event.channel, System.channelLabels, attempt]
    exact channelRun_one part
  | decide c done part => exact channelRun_one part
  | wake c done part => exact channelRun_one part
  | leave c done part => exact channelRun_one part

/-- A run of a provider is a run of its channel. -/
theorem channelRun {first : System} {events : List Event} (run : Run first events y) :
    Channel.Run first.channel (events.flatMap Event.channel) y.channel := by
  induction run with
  | nil => exact .nil
  | snoc _ stepped ih =>
    simpa using ih.trans (channelRun_step (System.step_sound stepped))

end Telemetry.Provider
