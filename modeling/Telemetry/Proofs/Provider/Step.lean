import Mathlib.Tactic.Common
import Telemetry.Provider.System

/-! What each step of a provider does, as a relation with one case for each way in which a
step can go. A step of the channel is a premise, and its effects are those of the channel. -/
namespace Telemetry.Provider

/-- The watchers that an effect of the channel runs. -/
def ranBy : Channel.Effect Aggregation Nat → List Nat
  | .notify watchers => watchers
  | _ => []

/-- The waits among the effects of the channel. -/
def waitOf : Channel.Effect Aggregation Nat → List Effect
  | .wait d => [.wait d]
  | _ => []

namespace System

/-- The provider after a step of its channel. -/
def through (y : System) (c : Channel.System Aggregation Nat)
    (effects : List (Channel.Effect Aggregation Nat)) : System :=
  { y with channel := c, notified := y.notified ++ effects.flatMap ranBy }

theorem absorbAll_eq (y : System) (effects : List (Channel.Effect Aggregation Nat)) :
    y.absorbAll effects = (y.through y.channel effects, effects.flatMap waitOf) := by
  induction effects generalizing y with
  | nil => simp [absorbAll, through]
  | cons e rest ih => cases e <;> simp [absorbAll, absorb, ih, through, ranBy, waitOf]

theorem channelStep_eq_some {y z : System} {l : Channel.Label Aggregation Measurement Nat}
    {effects : List Effect} (stepped : y.channelStep l = some (z, effects)) :
    ∃ c done, y.channel.step l = some (c, done) ∧ z = y.through c done ∧
      effects = done.flatMap waitOf := by
  obtain ⟨⟨c, done⟩, part, same⟩ := Option.map_eq_some_iff.mp stepped
  have absorbed : absorbAll { y with channel := c } done = (z, effects) := same
  rw [absorbAll_eq] at absorbed
  cases absorbed
  exact ⟨c, done, part, rfl, rfl⟩

/-- The provider once an attempt is counted and noted. -/
def ended (y : System) (a : Attempt) (result : Except ExportError Unit) : System :=
  { y with
    attempt := none
    counters := y.counters.ended result
    drain := y.settings.noteEnd y.drain a result }

theorem conclude_eq_some {y z : System} {a : Attempt} {result : Except ExportError Unit}
    {effects : List Effect} (concluded : y.conclude a result = some (z, effects)) :
    ∃ c done, y.channel.step (.settle (y.settings.outcomeOf a result)) = some (c, done) ∧
      z = (y.ended a result).through c done ∧
      effects = y.notices (a.noticeOf result) ++ done.flatMap waitOf := by
  obtain ⟨⟨w, waits⟩, stepped, same⟩ := Option.map_eq_some_iff.mp concluded
  cases same
  obtain ⟨c, done, part, rfl, rfl⟩ := channelStep_eq_some stepped
  exact ⟨c, done, part, rfl, rfl⟩

/-- The provider with a batch in the hands of its worker. -/
def working (y : System) (watchers : List Nat) (worker : Worker) (dropped : Nat) : System :=
  { y with
    channel := { y.channel with
      receiver := { y.channel.receiver with phase := .running watchers } }
    worker
    counters := { y.counters with rejected := y.counters.rejected + dropped } }

/-- What is said of the series that found no room. -/
def droppedNotices (y : System) (dropped : Nat) : List Effect :=
  if 0 < dropped then y.notices (.seriesDropped dropped) else []

/-- The ways in which a caller can take its next step. -/
inductive Acts (y : System) (place : Nat) (now : Instant) :
    Caller → System → Caller → List Effect → Prop where
  | takeStarter (next : Option Deadline) (holds : y.holdsStarter = true) :
      Acts y place now (.takingStarter next) { y with holdsStarter := false } (.announcing next) []
  | findStarted (next : Option Deadline) (taken : y.holdsStarter = false) :
      Acts y place now (.takingStarter next) y (.afterStart next) []
  | announce (next : Option Deadline) :
      Acts y place now (.announcing next)
        { y with state := if y.state = .idle then .running else y.state } (.afterStart next) []
  | checkFlush (timeout : Duration) :
      Acts y place now (.checkingFlush timeout) y
        (if y.state = .running then .requestingFlush timeout else .flushed false) []
  | requestFlush (timeout : Duration) (c : Channel.System Aggregation Nat)
      (done : List (Channel.Effect Aggregation Nat))
      (part : y.channel.step (.onNextFlush place) = some (c, done)) :
      Acts y place now (.requestingFlush timeout) (y.through c done)
        (((now.add? timeout).map Caller.awaitingFlush).getD .panicked) (done.flatMap waitOf)
  | seeFlushed (limit : Instant) (ran : place ∈ y.notified) :
      Acts y place now (.awaitingFlush limit) y (.flushed true) []
  | checkState (d : Deadline) :
      Acts y place now (.checkingState d) y
        (if y.state = .idle then .takingStarter (some d) else .claiming d) []
  | claim (d : Deadline) (running : y.state = .running) :
      Acts y place now (.claiming d) { y with state := .draining } (.announcingDrain d) []
  | claimLate (d : Deadline) (other : y.state ≠ .running) :
      Acts y place now (.claiming d) y (.shutDown .alreadyShutdown) []
  | announceDrain (d : Deadline) :
      Acts y place now (.announcingDrain d) { y with drain := { y.drain with isDraining := true } }
        (.watchingWorker d) []
  | watchWorker (d : Deadline) (c : Channel.System Aggregation Nat)
      (done : List (Channel.Effect Aggregation Nat))
      (part : y.channel.step (.onStopped place) = some (c, done)) :
      Acts y place now (.watchingWorker d) (y.through c done) (.closingChannel d)
        (done.flatMap waitOf)
  | closeChannel (d : Deadline) (c : Channel.System Aggregation Nat)
      (done : List (Channel.Effect Aggregation Nat))
      (part : y.channel.step .close = some (c, done)) :
      Acts y place now (.closingChannel d) (y.through c done)
        (((now.add? (d.remaining now)).map (Caller.awaitingWorker d)).getD .panicked)
        (done.flatMap waitOf)
  | seeStopped (d : Deadline) (limit : Instant) (ran : place ∈ y.notified) :
      Acts y place now (.awaitingWorker d limit) y (.announcingStop d true) []
  | announceStop (d : Deadline) (inTime : Bool) :
      Acts y place now (.announcingStop d inTime) { y with state := .stopped }
        (if inTime then .readingFailure else .cancellingExport d) []
  | cancelExport (d : Deadline) :
      Acts y place now (.cancellingExport d) { y with drain := { y.drain with isCancelled := true } }
        (.abandoningChannel d) []
  | abandonChannel (d : Deadline) (c : Channel.System Aggregation Nat)
      (done : List (Channel.Effect Aggregation Nat))
      (part : y.channel.step .abandon = some (c, done)) :
      Acts y place now (.abandoningChannel d) (y.through c done) (.givingNotice d)
        (done.flatMap waitOf)
  | giveNotice (d : Deadline) :
      Acts y place now (.givingNotice d) y
        (if y.settings.panicsOn (.drainTimedOut d.length) then .panicked else .shutDown .timedOut)
        (y.notices (.drainTimedOut d.length))
  | readFailure :
      Acts y place now .readingFailure { y with drain := { y.drain with failure := none } }
        (.shutDown ((y.drain.failure.map .failed).getD .flushed)) []

theorem actOn_sound {y z : System} {place : Nat} {now : Instant} {caller next : Caller}
    {effects : List Effect} (acted : y.actOn place now caller = some (z, next, effects)) :
    Acts y place now caller z next effects := by
  cases caller with
  | takingStarter d =>
    simp only [actOn] at acted
    split at acted
    · next holds => cases acted; exact .takeStarter d holds
    · next taken => cases acted; exact .findStarted d (Bool.eq_false_iff.mpr taken)
  | announcing d => cases acted; exact .announce d
  | checkingFlush timeout => cases acted; exact .checkFlush timeout
  | requestingFlush timeout =>
    simp only [actOn] at acted
    obtain ⟨⟨w, waits⟩, stepped, same⟩ := Option.map_eq_some_iff.mp acted
    cases same
    obtain ⟨c, done, part, rfl, rfl⟩ := channelStep_eq_some stepped
    exact .requestFlush timeout c done part
  | awaitingFlush limit =>
    simp only [actOn] at acted
    split at acted
    · next ran => cases acted; exact .seeFlushed limit ran
    · cases acted
  | checkingState d => cases acted; exact .checkState d
  | claiming d =>
    simp only [actOn] at acted
    split at acted
    · next running => cases acted; exact .claim d running
    · next other => cases acted; exact .claimLate d other
  | announcingDrain d => cases acted; exact .announceDrain d
  | watchingWorker d =>
    simp only [actOn] at acted
    obtain ⟨⟨w, waits⟩, stepped, same⟩ := Option.map_eq_some_iff.mp acted
    cases same
    obtain ⟨c, done, part, rfl, rfl⟩ := channelStep_eq_some stepped
    exact .watchWorker d c done part
  | closingChannel d =>
    simp only [actOn] at acted
    obtain ⟨⟨w, waits⟩, stepped, same⟩ := Option.map_eq_some_iff.mp acted
    cases same
    obtain ⟨c, done, part, rfl, rfl⟩ := channelStep_eq_some stepped
    exact .closeChannel d c done part
  | awaitingWorker d limit =>
    simp only [actOn] at acted
    split at acted
    · next ran => cases acted; exact .seeStopped d limit ran
    · cases acted
  | announcingStop d inTime => cases acted; exact .announceStop d inTime
  | cancellingExport d => cases acted; exact .cancelExport d
  | abandoningChannel d =>
    simp only [actOn] at acted
    obtain ⟨⟨w, waits⟩, stepped, same⟩ := Option.map_eq_some_iff.mp acted
    cases same
    obtain ⟨c, done, part, rfl, rfl⟩ := channelStep_eq_some stepped
    exact .abandonChannel d c done part
  | givingNotice d => cases acted; exact .giveNotice d
  | readingFailure => cases acted; exact .readFailure
  | started | flushed | shutDown | panicked => cases acted

/-- The ways in which a step can go. -/
inductive Step (y : System) : Label → System → List Effect → Prop where
  | recordUnfit (m : Measurement) (unfit : isRecordable m.value = false) :
      Step y (.record m) { y with counters := { y.counters with rejected := y.counters.rejected + 1 } } []
  | recordLate (m : Measurement) (fit : isRecordable m.value = true)
      (late : y.state.isAccepting = false) :
      Step y (.record m)
        { y with counters := { y.counters with afterShutdown := y.counters.afterShutdown + 1 } } []
  | recordAdmitted (m : Measurement) (fit : isRecordable m.value = true)
      (accepting : y.state.isAccepting = true) :
      Step y (.record m) { y with admitted := y.admitted ++ [m] } []
  | send (place : Nat) (m : Measurement) (found : y.admitted[place]? = some m)
      (c : Channel.System Aggregation Nat) (done : List (Channel.Effect Aggregation Nat))
      (part : y.channel.step (.send m) = some (c, done)) :
      Step y (.send place) (through { y with admitted := y.admitted.eraseIdx place } c done)
        (done.flatMap waitOf)
  | call (c : Call) (now : Instant) :
      Step y (.call c now) { y with callers := y.callers ++ [.ofCall now c] } []
  | act (place : Nat) (now : Instant) (caller next : Caller) (z : System) (effects : List Effect)
      (found : y.callers[place]? = some caller) (acts : Acts y place now caller z next effects) :
      Step y (.act place now) { z with callers := z.callers.set place next } effects
  | expire (place : Nat) (now : Instant) (caller next : Caller)
      (found : y.callers[place]? = some caller) (expired : y.expireOn place now caller = some next) :
      Step y (.expire place now) { y with callers := y.callers.set place next } []
  | discardStarter (holds : y.holdsStarter = true) (c : Channel.System Aggregation Nat)
      (done : List (Channel.Effect Aggregation Nat)) (part : y.channel.step .drop = some (c, done)) :
      Step y .discardStarter (through { y with holdsStarter := false } c done) (done.flatMap waitOf)
  | dropSender (c : Channel.System Aggregation Nat) (done : List (Channel.Effect Aggregation Nat))
      (part : y.channel.step .close = some (c, done)) :
      Step y .dropSender (y.through c done) (done.flatMap waitOf)
  | enter (now : Instant) (taken : y.holdsStarter = false) (c : Channel.System Aggregation Nat)
      (done : List (Channel.Effect Aggregation Nat))
      (part : y.channel.step (.enter now) = some (c, done)) :
      Step y (.enter now) (y.through c done) (done.flatMap waitOf)
  | look (now later : Instant) (c : Channel.System Aggregation Nat)
      (done : List (Channel.Effect Aggregation Nat))
      (part : y.channel.step (.look now later) = some (c, done)) :
      Step y (.look now later) (y.through c done) (done.flatMap waitOf)
  | collectBegun (now : Timestamp) {order : List SeriesKey} (data : Aggregation)
      (watchers : List Nat) (a : Attempt) (dropped : Nat) (worker : Worker)
      (phase : y.channel.receiver.phase = .calling data watchers)
      (prepared : y.worker.prepare y.settings now order data = (a, dropped, worker))
      (calm : 0 < dropped → y.settings.panicsOn (.seriesDropped dropped) = false) :
      Step y (.collect now order false) { y.working watchers worker dropped with attempt := some a }
        (y.droppedNotices dropped ++ [.attempt a])
  | collectFailed (now : Timestamp) {order : List SeriesKey} (data : Aggregation)
      (watchers : List Nat) (a : Attempt) (dropped : Nat) (worker : Worker)
      (c : Channel.System Aggregation Nat)
      (done : List (Channel.Effect Aggregation Nat))
      (phase : y.channel.receiver.phase = .calling data watchers)
      (prepared : y.worker.prepare y.settings now order data = (a, dropped, worker))
      (calm : 0 < dropped → y.settings.panicsOn (.seriesDropped dropped) = false)
      (part : (y.working watchers worker dropped).channel.step
        (.settle (y.settings.outcomeOf a (.error .panicked))) = some (c, done)) :
      Step y (.collect now order true)
        (((y.working watchers worker dropped).ended a (.error .panicked)).through c done)
        (y.droppedNotices dropped ++ .attempt a ::
          (y.notices (a.noticeOf (.error .panicked)) ++ done.flatMap waitOf))
  | collectBroken (now : Timestamp) {order : List SeriesKey} (panics : Bool) (data : Aggregation)
      (watchers : List Nat) (a : Attempt) (dropped : Nat) (worker : Worker)
      (c : Channel.System Aggregation Nat)
      (done : List (Channel.Effect Aggregation Nat))
      (phase : y.channel.receiver.phase = .calling data watchers)
      (prepared : y.worker.prepare y.settings now order data = (a, dropped, worker))
      (lost : 0 < dropped) (panicked : y.settings.panicsOn (.seriesDropped dropped) = true)
      (part : (y.working watchers worker dropped).channel.step (.settle .panicked) = some (c, done)) :
      Step y (.collect now order panics) ((y.working watchers worker dropped).through c done)
        (y.droppedNotices dropped ++ done.flatMap waitOf)
  | poll (reply : Reply) (a : Attempt) (c : Channel.System Aggregation Nat)
      (done : List (Channel.Effect Aggregation Nat)) (attempt : y.attempt = some a)
      (part : y.channel.step (.settle (y.settings.outcomeOf a (y.resultOf reply))) = some (c, done)) :
      Step y (.poll reply) ((y.ended a (y.resultOf reply)).through c done)
        (y.notices (a.noticeOf (y.resultOf reply)) ++ done.flatMap waitOf)
  | decide (c : Channel.System Aggregation Nat) (done : List (Channel.Effect Aggregation Nat))
      (part : y.channel.step .decide = some (c, done)) :
      Step y .decide (y.through c done) (done.flatMap waitOf)
  | wake (c : Channel.System Aggregation Nat) (done : List (Channel.Effect Aggregation Nat))
      (part : y.channel.step .wake = some (c, done)) :
      Step y .wake (y.through c done) (done.flatMap waitOf)
  | leave (c : Channel.System Aggregation Nat) (done : List (Channel.Effect Aggregation Nat))
      (part : y.channel.step .leave = some (c, done)) :
      Step y .leave (y.through c done) (done.flatMap waitOf)

variable {y z : System} {effects : List Effect}

theorem channelStep_invoke {data : Aggregation} {watchers : List Nat}
    (phase : y.channel.receiver.phase = .calling data watchers) :
    y.channelStep .invoke = some ({ y with
      channel := { y.channel with
        receiver := { y.channel.receiver with phase := .running watchers } } }, []) := by
  simp [channelStep, Channel.System.step, phase, Channel.Receiver.invoke, absorbAll, absorb]

theorem collect_sound {now : Timestamp} {order : List SeriesKey} {panics : Bool}
    (collected : y.collect now order panics = some (z, effects)) :
    Step y (.collect now order panics) z effects := by
  unfold collect at collected
  split at collected
  · next data watchers phase =>
    rcases prepared : y.worker.prepare y.settings now order data with ⟨a, dropped, worker⟩
    simp only [prepared, channelStep_invoke phase, bind, Option.bind_some] at collected
    by_cases broken : 0 < dropped ∧ y.settings.panicsOn (.seriesDropped dropped) = true
    · rw [if_pos (by simpa using broken)] at collected
      obtain ⟨⟨w, waits⟩, stepped, same⟩ := Option.bind_eq_some_iff.mp collected
      obtain ⟨c, done, part, rfl, rfl⟩ := channelStep_eq_some stepped
      cases same
      exact .collectBroken now panics data watchers a dropped worker c done phase prepared broken.1
        broken.2 part
    · rw [if_neg (by simpa using broken)] at collected
      have calm : 0 < dropped → y.settings.panicsOn (.seriesDropped dropped) = false :=
        fun lost => Bool.eq_false_iff.mpr fun panicked => broken ⟨lost, panicked⟩
      cases panics with
      | false =>
        cases collected
        exact .collectBegun now data watchers a dropped worker phase prepared calm
      | true =>
        rw [if_pos rfl] at collected
        obtain ⟨⟨w, waits⟩, concluded, same⟩ := Option.bind_eq_some_iff.mp collected
        obtain ⟨c, done, part, rfl, rfl⟩ := conclude_eq_some concluded
        cases same
        exact .collectFailed now data watchers a dropped worker c done phase prepared calm part
  · cases collected

/-- A callback at work can come to its end. -/
theorem exists_channelStep_settle {watchers : List Nat} (y : System)
    (phase : y.channel.receiver.phase = .running watchers) (outcome : Channel.Outcome Aggregation) :
    ∃ z effects, y.channelStep (.settle outcome) = some (z, effects) ∧ z.worker = y.worker := by
  rcases settled : y.channel.receiver.settle outcome watchers y.channel.shared with ⟨r, s, done⟩
  have part : y.channel.step (.settle outcome) =
      some ({ y.channel with receiver := r, shared := s }, done) := by
    simp only [Channel.System.step, phase, settled]
  refine ⟨_, _, congrArg (Option.map _) part, ?_⟩
  simp only [absorbAll_eq, through]

/-- An attempt at hand can come to its end. -/
theorem exists_conclude {watchers : List Nat} (y : System)
    (phase : y.channel.receiver.phase = .running watchers) (a : Attempt)
    (result : Except ExportError Unit) :
    ∃ z effects, y.conclude a result = some (z, effects) ∧ z.worker = y.worker := by
  obtain ⟨z, effects, stepped, same⟩ := (y.ended a result).exists_channelStep_settle phase
    (y.settings.outcomeOf a result)
  exact ⟨z, _, congrArg (Option.map _) stepped, same⟩

/-- A batch that waits for the worker can be taken up. -/
theorem exists_collect_step {now : Timestamp} {order : List SeriesKey} {data : Aggregation}
    {watchers : List Nat} {a : Attempt} {dropped : Nat} {worker : Worker}
    (phase : y.channel.receiver.phase = .calling data watchers)
    (prepared : y.worker.prepare y.settings now order data = (a, dropped, worker)) (panics : Bool) :
    ∃ z effects, y.step (.collect now order panics) = some (z, effects) ∧ z.worker = worker := by
  let begun := y.working watchers worker dropped
  simp only [step, collect, phase, prepared, channelStep_invoke phase, bind, Option.bind_some]
  by_cases broken : 0 < dropped ∧ y.settings.panicsOn (.seriesDropped dropped) = true
  · obtain ⟨z, effects, stepped, same⟩ := begun.exists_channelStep_settle rfl .panicked
    rw [if_pos (by simpa using broken)]
    exact ⟨z, _, congrArg (Option.bind · _) stepped, same⟩
  · rw [if_neg (by simpa using broken)]
    cases panics with
    | false => exact ⟨_, _, rfl, rfl⟩
    | true =>
      obtain ⟨z, effects, concluded, same⟩ := begun.exists_conclude rfl a (.error .panicked)
      rw [if_pos rfl]
      exact ⟨z, _, congrArg (Option.bind · _) concluded, same⟩

theorem act_sound {place : Nat} {now : Instant}
    (stepped : y.step (.act place now) = some (z, effects)) : Step y (.act place now) z effects := by
  simp only [step, bind] at stepped
  obtain ⟨caller, found, stepped⟩ := Option.bind_eq_some_iff.mp stepped
  obtain ⟨⟨w, next, done⟩, acted, same⟩ := Option.bind_eq_some_iff.mp stepped
  cases same
  exact .act place now caller next w done found (actOn_sound acted)

theorem record_sound {m : Measurement} (stepped : y.step (.record m) = some (z, effects)) :
    Step y (.record m) z effects := by
  simp only [step] at stepped
  split at stepped
  · next unfit =>
    cases stepped
    exact .recordUnfit m (by simpa using unfit)
  · next fit =>
    split at stepped
    · next late =>
      cases stepped
      exact .recordLate m (by simpa using fit) (by simpa using late)
    · next accepting =>
      cases stepped
      exact .recordAdmitted m (by simpa using fit) (by simpa using accepting)

/-- Every possible step goes in one of the ways listed. -/
theorem step_sound {label : Label} (stepped : y.step label = some (z, effects)) :
    Step y label z effects := by
  cases label with
  | record m => exact record_sound stepped
  | send place =>
    simp only [step, bind] at stepped
    obtain ⟨m, found, stepped⟩ := Option.bind_eq_some_iff.mp stepped
    obtain ⟨c, done, part, rfl, rfl⟩ := channelStep_eq_some stepped
    exact .send place m found c done part
  | call c now => cases stepped; exact .call c now
  | act place now => exact act_sound stepped
  | expire place now =>
    simp only [step, bind] at stepped
    obtain ⟨caller, found, stepped⟩ := Option.bind_eq_some_iff.mp stepped
    obtain ⟨next, expired, same⟩ := Option.bind_eq_some_iff.mp stepped
    cases same
    exact .expire place now caller next found expired
  | discardStarter =>
    simp only [step] at stepped
    split at stepped
    · next holds =>
      obtain ⟨c, done, part, rfl, rfl⟩ := channelStep_eq_some stepped
      exact .discardStarter holds c done part
    · cases stepped
  | dropSender =>
    obtain ⟨c, done, part, rfl, rfl⟩ := channelStep_eq_some stepped
    exact .dropSender c done part
  | enter now =>
    simp only [step] at stepped
    split at stepped
    · cases stepped
    · next taken =>
      obtain ⟨c, done, part, rfl, rfl⟩ := channelStep_eq_some stepped
      exact .enter now (Bool.eq_false_iff.mpr taken) c done part
  | look now later =>
    obtain ⟨c, done, part, rfl, rfl⟩ := channelStep_eq_some stepped
    exact .look now later c done part
  | collect now order panics => exact collect_sound stepped
  | poll reply =>
    simp only [step, bind] at stepped
    obtain ⟨a, attempt, stepped⟩ := Option.bind_eq_some_iff.mp stepped
    obtain ⟨c, done, part, rfl, rfl⟩ := conclude_eq_some stepped
    exact .poll reply a c done attempt part
  | decide =>
    obtain ⟨c, done, part, rfl, rfl⟩ := channelStep_eq_some stepped
    exact .decide c done part
  | wake =>
    obtain ⟨c, done, part, rfl, rfl⟩ := channelStep_eq_some stepped
    exact .wake c done part
  | leave =>
    obtain ⟨c, done, part, rfl, rfl⟩ := channelStep_eq_some stepped
    exact .leave c done part

end System
end Telemetry.Provider
